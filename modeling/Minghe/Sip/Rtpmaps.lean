import Minghe.Sip.Rewriting

/-!
# Mappings for payload types

`fill_missing_rtpmap` adds an `a=rtpmap` line for each dynamic payload type of an audio section that has none.
It collects the types and the mappings of all audio sections into two sets, and writes all lines at the end of
the text. So a line gets to its own section only if that is the last one, and a mapping of another audio
section counts like one of its own.

* `Mapped`: every audio section maps its own dynamic payload types.
* `RtpmapLaw`: what is expected of the text that is written.
* `Mappable`: the texts for which it holds.
* `rtpmap_law_iff`: what is expected of the text holds for exactly the mappable ones.
-/

namespace Minghe.Sip

open Minghe.Lib

/-- The payload type that a line maps. -/
def rtpmapOf (line : Str) : Option Nat :=
  if "a=rtpmap:".toList <+: trim line then (splitWhitespace ((trim line).drop 9)).head?.bind (parseUnsigned 16)
  else none

/-- The payload types of a `m=` line with four fields or more. -/
def payloads (line : Str) : List Nat :=
  if 4 ≤ (splitWhitespace line).length then ((splitWhitespace line).drop 3).filterMap (parseUnsigned 16) else []

/-- Every audio section maps its dynamic payload types. -/
def Mapped (ls : List Str) : Prop :=
  ∀ part ∈ sections isMedia ls, isAudio part.1 = true → ∀ pt ∈ payloads part.1, 95 < pt →
    pt ∈ part.2.filterMap rtpmapOf

/-- What is expected of the text `output` that a text is completed to. -/
structure RtpmapLaw (sdp output : Str) : Prop where
  mapped : Mapped (lines output)
  kept : (lines sdp).Sublist (lines output)
  again : fillMissingRtpmap output = output

/-- The texts for which it holds. -/
structure Mappable (sdp : Str) : Prop where
  /-- Only in the last section a mapping may be missing, and then no other audio section has it. -/
  own : ∀ before part after, sections isMedia (lines sdp) = before ++ part :: after → isAudio part.1 = true →
    ∀ pt ∈ payloads part.1, 95 < pt → pt ∈ part.2.filterMap rtpmapOf ∨
      after = [] ∧ ∀ q ∈ before, isAudio q.1 = true → pt ∉ q.2.filterMap rtpmapOf
  /-- If one is missing, the last line ends with one carriage return and no more. -/
  ended : Mapped (lines sdp) ∨ ∀ last ∈ (lines sdp).getLast?, last.getLast? ≠ some '\r'

/-! ## The loop -/

/-- A `m=` line is no mapping. -/
theorem rtpmapOf_media {line : Str} (h : isMedia line = true) : rtpmapOf line = none := by
  obtain ⟨rest, rfl⟩ := of_decide_eq_true h
  refine if_neg ?_
  rw [trim_word_append (by decide) (by decide)]
  exact not_prefix_append (by decide) _

theorem PayloadTypes.add_media (pts : PayloadTypes) {line : Str} (h : isMedia line = true) :
    pts.add line = { pts with
      inAudio := isAudio line
      audioPts := pts.audioPts ++ if isAudio line then payloads line else [] } := by
  have hnone := rtpmapOf_media h
  have hnot : ¬ "a=rtpmap:".toList <+: trim line := by
    obtain ⟨rest, rfl⟩ := of_decide_eq_true h
    rw [trim_word_append (by decide) (by decide)]
    exact not_prefix_append (by decide) _
  unfold PayloadTypes.add payloads
  dsimp only
  rw [if_pos h, decide_eq_false hnot, Bool.and_false, if_neg Bool.false_ne_true, Bool.and_self]
  dsimp only
  split
  · split
    · rfl
    · rw [List.append_nil]
  · rw [List.append_nil]

theorem PayloadTypes.add_other (pts : PayloadTypes) {line : Str} (h : isMedia line = false) :
    pts.add line = { pts with
      rtpmapPts := (if pts.inAudio then (rtpmapOf line).toList else []) ++ pts.rtpmapPts } := by
  have haudio : isAudio line = false := isAudio_eq_false h
  have hnot : ¬ isMedia line = true := by simp [h]
  obtain ⟨inAudio, audioPts, rtpmapPts⟩ := pts
  unfold PayloadTypes.add rtpmapOf
  dsimp only
  rw [if_neg hnot, haudio, Bool.and_false, if_neg Bool.false_ne_true]
  cases inAudio with
  | false => rfl
  | true =>
    rw [Bool.true_and, if_pos rfl]
    by_cases hmap : "a=rtpmap:".toList <+: trim line
    · rw [decide_eq_true hmap, if_pos rfl, if_pos hmap]
      cases (splitWhitespace ((trim line).drop 9)).head?.bind (parseUnsigned 16) <;> rfl
    · rw [decide_eq_false hmap, if_neg Bool.false_ne_true, if_neg hmap]
      rfl

theorem PayloadTypes.foldl_body : ∀ {body : List Str} (pts : PayloadTypes), (∀ line ∈ body, isMedia line = false) →
    (body.foldl PayloadTypes.add pts).inAudio = pts.inAudio ∧
    (body.foldl PayloadTypes.add pts).audioPts = pts.audioPts ∧
    ∀ pt, pt ∈ (body.foldl PayloadTypes.add pts).rtpmapPts ↔
      pt ∈ pts.rtpmapPts ∨ (pts.inAudio = true ∧ pt ∈ body.filterMap rtpmapOf)
  | [], pts, _ => ⟨rfl, rfl, fun pt => by simp⟩
  | line :: body, pts, h => by
    obtain ⟨hin, hpts, hmap⟩ := PayloadTypes.foldl_body (pts.add line) fun l hl => h l (List.mem_cons_of_mem _ hl)
    rw [PayloadTypes.add_other pts (h line List.mem_cons_self)] at hin hpts hmap
    rw [List.foldl_cons, PayloadTypes.add_other pts (h line List.mem_cons_self)]
    refine ⟨hin, hpts, fun pt => ?_⟩
    rw [hmap, List.filterMap_cons]
    cases pts.inAudio with
    | false => simp
    | true => cases rtpmapOf line <;> simp [or_assoc, or_left_comm]

/-- **The loop**: the payload types and the mappings of all audio sections. -/
theorem PayloadTypes.foldl_parts : ∀ {parts : List (Str × List Str)} (pts : PayloadTypes),
    (∀ part ∈ parts, isMedia part.1 = true ∧ ∀ line ∈ part.2, isMedia line = false) →
    ((joinSections parts).foldl PayloadTypes.add pts).audioPts =
      pts.audioPts ++ parts.flatMap (fun part => if isAudio part.1 then payloads part.1 else []) ∧
    ∀ pt, pt ∈ ((joinSections parts).foldl PayloadTypes.add pts).rtpmapPts ↔
      pt ∈ pts.rtpmapPts ∨ ∃ part ∈ parts, isAudio part.1 = true ∧ pt ∈ part.2.filterMap rtpmapOf
  | [], pts, _ => ⟨(List.append_nil _).symm, fun pt => by simp [joinSections]⟩
  | part :: parts, pts, h => by
    obtain ⟨hline, hbody⟩ := h part List.mem_cons_self
    obtain ⟨-, hpts, hmap⟩ := PayloadTypes.foldl_body (pts.add part.1) hbody
    obtain ⟨hpts', hmap'⟩ := PayloadTypes.foldl_parts (part.2.foldl PayloadTypes.add (pts.add part.1)) fun q hq =>
      h q (List.mem_cons_of_mem _ hq)
    rw [PayloadTypes.add_media pts hline] at hpts hmap hpts' hmap'
    rw [joinSections_cons, List.foldl_cons, List.foldl_append, PayloadTypes.add_media pts hline]
    constructor
    · rw [hpts', hpts, List.flatMap_cons, List.append_assoc]
    · intro pt
      rw [hmap', hmap]
      simp [or_assoc]

/-- The dynamic payload types of the audio sections that none of them maps. -/
def missingRtpmaps (ls : List Str) : List Nat :=
  ((sections isMedia ls).flatMap fun part => if isAudio part.1 then payloads part.1 else []).filter fun pt =>
    decide (95 < pt) && !(sections isMedia ls).any fun part =>
      isAudio part.1 && (part.2.filterMap rtpmapOf).contains pt

theorem mem_missingRtpmaps {ls : List Str} {pt : Nat} : pt ∈ missingRtpmaps ls ↔
    (∃ part ∈ sections isMedia ls, isAudio part.1 = true ∧ pt ∈ payloads part.1) ∧ 95 < pt ∧
      ∀ part ∈ sections isMedia ls, isAudio part.1 = true → pt ∉ part.2.filterMap rtpmapOf := by
  have hlisted : (∃ part ∈ sections isMedia ls, pt ∈ if isAudio part.1 then payloads part.1 else []) ↔
      ∃ part ∈ sections isMedia ls, isAudio part.1 = true ∧ pt ∈ payloads part.1 := by
    refine exists_congr fun part => and_congr_right fun _ => ?_
    cases isAudio part.1 <;> simp
  unfold missingRtpmaps
  rw [List.mem_filter, List.mem_flatMap, hlisted, Bool.and_eq_true, decide_eq_true_eq, Bool.not_eq_true',
    List.any_eq_false]
  simp only [Bool.and_eq_true, List.contains_iff_mem, not_and]

theorem PayloadTypes.foldl_front : ∀ {ls : List Str}, (∀ line ∈ ls, isMedia line = false) →
    ls.foldl PayloadTypes.add {} = {}
  | [], _ => rfl
  | line :: ls, h => by
    rw [List.foldl_cons, PayloadTypes.add_other {} (h line List.mem_cons_self)]
    exact PayloadTypes.foldl_front fun l hl => h l (List.mem_cons_of_mem _ hl)

/-- The line for a payload type. -/
def rtpmapLine (pt : Nat) : Str := "a=rtpmap:".toList ++ showNat pt ++ " unknown/8000".toList

/-- **`fill_missing_rtpmap`**, in terms of sections. -/
theorem fillMissingRtpmap_eq (sdp : Str) : fillMissingRtpmap sdp =
    if missingRtpmaps (lines sdp) = [] then sdp
    else trimLineEnds sdp ++ ((missingRtpmaps (lines sdp)).map rtpmapLine).flatMap (crlf ++ ·) ++ crlf := by
  have hvalid : ∀ part ∈ sections isMedia (lines sdp), isMedia part.1 = true ∧ ∀ line ∈ part.2, isMedia line = false :=
    fun part hpart => of_mem_sections hpart
  have hloop := PayloadTypes.foldl_parts {} hvalid
  have hlines : (lines sdp).foldl PayloadTypes.add {} =
      (joinSections (sections isMedia (lines sdp))).foldl PayloadTypes.add {} := by
    conv_lhs => rw [← takeWhile_append_joinSections (p := isMedia) (lines sdp)]
    rw [List.foldl_append, PayloadTypes.foldl_front fun line hline => eq_false_of_mem_takeWhile hline]
  rw [← hlines] at hloop
  obtain ⟨hpts, hmap⟩ := hloop
  have hmissing : (((lines sdp).foldl PayloadTypes.add {}).audioPts.filter fun pt =>
      decide (95 < pt) && !((lines sdp).foldl PayloadTypes.add {}).rtpmapPts.contains pt) =
      missingRtpmaps (lines sdp) := by
    unfold missingRtpmaps
    rw [hpts]
    refine List.filter_congr fun pt _ => congrArg _ (congrArg _ ?_)
    rw [Bool.eq_iff_iff, List.contains_iff_mem, hmap, List.any_eq_true]
    simp
  unfold fillMissingRtpmap
  dsimp only
  rw [hmissing, List.flatMap_map]
  by_cases hnil : missingRtpmaps (lines sdp) = []
  · rw [if_pos hnil, hnil]
    rfl
  · rw [if_neg hnil, if_neg (by simpa using hnil)]
    have hline : ∀ pt, "\r\na=rtpmap:".toList ++ showNat pt ++ " unknown/8000".toList = crlf ++ rtpmapLine pt := by
      intro pt
      unfold rtpmapLine
      simp only [← List.append_assoc]
      rfl
    simp only [hline]

/-! ## The lines that are added -/

theorem isMedia_rtpmapLine (pt : Nat) : isMedia (rtpmapLine pt) = false := by
  unfold rtpmapLine
  rw [List.append_assoc]
  exact decide_eq_false (not_prefix_append (by decide) _)

theorem lf_not_mem_rtpmapLine (pt : Nat) : '\n' ∉ rtpmapLine pt := by
  have hnat : '\n' ∉ showNat pt := lf_not_mem_toDigits (by decide) (by decide) pt
  unfold rtpmapLine
  simp only [List.mem_append, not_or]
  exact ⟨⟨by decide, hnat⟩, by decide⟩

/-- A line that is added maps its payload type. -/
theorem rtpmapOf_rtpmapLine {pt : Nat} (h : pt < 2 ^ 16) : rtpmapOf (rtpmapLine pt) = some pt := by
  have hword : ∀ c ∈ showNat pt, isWhitespace c = false := fun c hc =>
    isWhitespace_of_parseUnsigned (parseUnsigned_showNat h) c hc
  have hends : trimEnd (showNat pt ++ " unknown/8000".toList) = showNat pt ++ " unknown/8000".toList := by
    have hblank : " unknown/8000".toList = [' '] ++ "unknown/8000".toList := by decide
    rw [hblank, ← List.append_assoc, trimEnd_append_of_forall_not _ (by decide) (by decide)]
  have htrim : trim (rtpmapLine pt) = "a=rtpmap:".toList ++ (showNat pt ++ " unknown/8000".toList) := by
    unfold rtpmapLine
    rw [List.append_assoc]
    exact (trim_word_append (by decide) (by decide) _).trans (congrArg _ hends)
  have hne : showNat pt ≠ [] := Nat.toDigits_ne_nil
  have hdrop : ("a=rtpmap:".toList ++ (showNat pt ++ " unknown/8000".toList)).drop 9 =
      showNat pt ++ " unknown/8000".toList := rfl
  unfold rtpmapOf
  rw [htrim, if_pos (List.prefix_append _ _), hdrop,
    splitWhitespace_word hne hword (by decide), List.head?_cons, Option.bind_some,
    parseUnsigned_showNat h]

theorem payload_lt {line : Str} {pt : Nat} (h : pt ∈ payloads line) : pt < 2 ^ 16 := by
  unfold payloads at h
  split at h
  · obtain ⟨word, -, hword⟩ := List.mem_filterMap.mp h
    exact parseUnsigned_lt hword
  · cases h

/-- What is left of a text that ends with a line end, and lines that are put behind it. -/
theorem exists_trimmed {sdp : Str} (h : crlf <:+ sdp) : ∃ init last, lines sdp = init ++ [last] ∧
    ∀ more, (∀ line ∈ more, '\n' ∉ line) →
      lines (trimLineEnds sdp ++ more.flatMap (crlf ++ ·) ++ crlf) =
        init ++ last.rdropWhile (· == '\r') :: more := by
  obtain ⟨text, rfl⟩ := h
  obtain ⟨hinit, hlast⟩ := rawLines_not_mem text
  have htext := rawLines_eq text
  generalize (rawLines text).1 = init at hinit htext
  generalize (rawLines text).2 = last at hlast htext
  have hfront : ∀ s, lines (init.flatMap (· ++ ['\n']) ++ s) = init.map stripCr ++ lines s := by
    intro s
    rw [lines, lines, rawLines_flatMap s hinit, List.map_append, List.append_assoc]
  refine ⟨init.map stripCr, last, ?_, fun more hmore => ?_⟩
  · rw [htext, List.append_assoc, hfront, crlf_eq, lines_crlf [] hlast, lines_nil]
  · have htrim : trimLineEnds (text ++ crlf) = init.flatMap (· ++ ['\n']) ++ last.rdropWhile (· == '\r') := by
      have hlf : (text ++ crlf).rdropWhile (· == '\n') = text ++ ['\r'] := by
        rw [crlf_eq, show text ++ ['\r', '\n'] = (text ++ ['\r']) ++ ['\n'] by simp,
          List.rdropWhile_concat_pos _ _ _ rfl, List.rdropWhile_concat_neg _ _ _ (by decide)]
      rw [trimLineEnds, hlf, List.rdropWhile_concat_pos _ _ _ rfl, htext]
      rcases List.eq_nil_or_concat init with rfl | ⟨front, line, rfl⟩
      · rfl
      · rw [List.concat_eq_append, List.flatMap_append, List.flatMap_singleton, ← List.append_assoc, List.append_assoc,
          List.singleton_append, rdropWhile_append_cons _ _ rfl]
        simp
    have hcut : '\n' ∉ last.rdropWhile (· == '\r') := fun hc =>
      hlast ((List.rdropWhile_prefix _ _).subset hc)
    have hjoined : last.rdropWhile (· == '\r') ++ more.flatMap (crlf ++ ·) ++ crlf =
        crlf.intercalate (last.rdropWhile (· == '\r') :: more) ++ crlf := by
      rw [show last.rdropWhile (· == '\r') :: more = [last.rdropWhile (· == '\r')] ++ more from rfl,
        intercalate_append (List.cons_ne_nil _ _), List.intercalate_singleton]
    rw [htrim, List.append_assoc, List.append_assoc, hfront, ← List.append_assoc, hjoined,
      lines_intercalate_crlf (List.cons_ne_nil _ _)]
    intro line hline
    rcases List.mem_cons.mp hline with rfl | hline
    · exact hcut
    · exact hmore line hline

/-! ## What a line is read as -/

/-- What the loop reads in a line. -/
structure Reading where
  media : Bool
  audio : Bool
  payloads : List Nat
  rtpmap : Option Nat

def readLine (line : Str) : Reading := ⟨isMedia line, isAudio line, payloads line, rtpmapOf line⟩

/-- Lines that are read alike are mapped alike. -/
theorem mapped_iff (ls : List Str) : Mapped ls ↔
    ∀ part ∈ sections Reading.media (ls.map readLine), part.1.audio = true → ∀ pt ∈ part.1.payloads, 95 < pt →
      pt ∈ part.2.filterMap Reading.rtpmap := by
  rw [sections_map]
  simp only [List.forall_mem_map, List.filterMap_map]
  rfl

/-- Carriage returns at the end of a line are white space. -/
theorem trim_rdropWhile_cr (line : Str) : trim (line.rdropWhile (· == '\r')) = trim line := by
  have hwhite : ∀ c ∈ line.rtakeWhile (· == '\r'), isWhitespace c = true := fun c hc => by
    obtain rfl : c = '\r' := by simpa using List.mem_rtakeWhile_imp hc
    decide
  conv_rhs => rw [← List.rdropWhile_append_rtakeWhile (p := (· == '\r')) (l := line)]
  exact (trim_append _ hwhite).symm

/-- They are not read. -/
theorem readLine_trimmed (line : Str) : readLine (line.rdropWhile (· == '\r')) = readLine line := by
  obtain ⟨ends, hline, hends⟩ : ∃ ends, line = line.rdropWhile (· == '\r') ++ ends ∧ ∀ c ∈ ends, c = '\r' :=
    ⟨_, (List.rdropWhile_append_rtakeWhile ..).symm, fun c hc => by simpa using List.mem_rtakeWhile_imp hc⟩
  have hwhite : ∀ c ∈ ends, isWhitespace c := fun c hc => hends c hc ▸ by decide
  -- a prefix without carriage returns is one of what is left
  have hstart : ∀ p : Str, '\r' ∉ p → (p <+: line.rdropWhile (· == '\r') ↔ p <+: line) := by
    intro p hp
    refine ⟨fun h => h.trans (List.rdropWhile_prefix _ _), fun h => ?_⟩
    rcases List.prefix_or_prefix_of_prefix h (List.rdropWhile_prefix _ line) with hpre | ⟨rest, hrest⟩
    · exact hpre
    · have hrest' : rest <+: ends := by
        rw [← hrest] at h
        conv_rhs at h => rw [hline]
        exact (List.prefix_append_right_inj _).mp h
      cases rest with
      | nil => rw [← hrest, List.append_nil]
      | cons c rest =>
        have hc := hends c (hrest'.subset List.mem_cons_self)
        exact absurd (hrest ▸ by simp [hc]) hp
  have hwords : splitWhitespace line = splitWhitespace (line.rdropWhile (· == '\r')) := by
    conv_lhs => rw [hline]
    exact splitWhitespace_append _ hwhite
  unfold readLine isMedia isAudio payloads rtpmapOf
  rw [hwords, trim_rdropWhile_cr, decide_eq_decide.mpr (hstart _ (by decide)),
    decide_eq_decide.mpr (hstart _ (by decide))]

/-! ## The law -/

theorem missing_eq_nil {ls : List Str} (h : Mapped ls) : missingRtpmaps ls = [] := by
  rw [List.eq_nil_iff_forall_not_mem]
  intro pt hpt
  obtain ⟨⟨part, hpart, haudio, hlisted⟩, hdynamic, hnone⟩ := mem_missingRtpmaps.mp hpt
  exact hnone part hpart haudio (h part hpart haudio pt hlisted hdynamic)

section

variable {sdp : Str}

/-- Where no mapping is missing nothing is written. -/
theorem law_of_nothing (h : missingRtpmaps (lines sdp) = []) :
    RtpmapLaw sdp (fillMissingRtpmap sdp) ↔ Mapped (lines sdp) := by
  have hsame : fillMissingRtpmap sdp = sdp := by rw [fillMissingRtpmap_eq, if_pos h]
  rw [hsame]
  exact ⟨RtpmapLaw.mapped, fun hmapped => ⟨hmapped, List.Sublist.refl _, hsame⟩⟩

/-- There is an audio section, then, so there is a last section. -/
theorem exists_last_part {ls : List Str} (h : missingRtpmaps ls ≠ []) :
    ∃ before part, sections isMedia ls = before ++ [part] := by
  obtain ⟨pt, hpt⟩ := List.exists_mem_of_ne_nil _ h
  obtain ⟨⟨part, hpart, -⟩, -⟩ := mem_missingRtpmaps.mp hpt
  exact ⟨_, _, (List.dropLast_concat_getLast (List.ne_nil_of_mem hpart)).symm⟩

theorem rtpmaps_added {pts : List Nat} (h : ∀ pt ∈ pts, pt < 2 ^ 16) :
    (pts.map rtpmapLine).filterMap rtpmapOf = pts := by
  rw [List.filterMap_map]
  exact (List.filterMap_congr fun pt hpt => rtpmapOf_rtpmapLine (h pt hpt)).trans List.filterMap_some

/-- **Lines behind the text map what is missing** only in the last section. -/
theorem mapped_added {ls : List Str} (h : missingRtpmaps ls ≠ []) :
    Mapped (ls ++ (missingRtpmaps ls).map rtpmapLine) ↔
      ∀ before part after, sections isMedia ls = before ++ part :: after → isAudio part.1 = true →
        ∀ pt ∈ payloads part.1, 95 < pt → pt ∈ part.2.filterMap rtpmapOf ∨
          after = [] ∧ ∀ q ∈ before, isAudio q.1 = true → pt ∉ q.2.filterMap rtpmapOf := by
  obtain ⟨front, last, hparts⟩ := exists_last_part h
  have hsmall : ∀ pt ∈ missingRtpmaps ls, pt < 2 ^ 16 := fun pt hpt => by
    obtain ⟨⟨part, -, -, hlisted⟩, -⟩ := mem_missingRtpmaps.mp hpt
    exact payload_lt hlisted
  have hadded : sections isMedia (ls ++ (missingRtpmaps ls).map rtpmapLine) =
      front ++ [(last.1, last.2 ++ (missingRtpmaps ls).map rtpmapLine)] := by
    refine sections_concat hparts fun line hline => ?_
    obtain ⟨pt, -, rfl⟩ := List.mem_map.mp hline
    exact isMedia_rtpmapLine pt
  have hlast : (last.2 ++ (missingRtpmaps ls).map rtpmapLine).filterMap rtpmapOf =
      last.2.filterMap rtpmapOf ++ missingRtpmaps ls := by
    rw [List.filterMap_append, rtpmaps_added hsmall]
  unfold Mapped
  rw [hadded]
  constructor
  · intro hmapped before part after hsplit haudio pt hlisted hdynamic
    rcases List.eq_nil_or_concat after with rfl | ⟨after, q, rfl⟩
    · -- the last section
      obtain ⟨rfl, hpart⟩ := List.append_inj' (hparts.symm.trans hsplit) rfl
      obtain rfl := List.singleton_inj.mp hpart
      have hmem := hmapped _ (List.mem_append_right _ (List.mem_singleton_self _)) haudio pt hlisted hdynamic
      rw [hlast, List.mem_append] at hmem
      refine hmem.imp_right fun hmissing => ⟨rfl, fun q hq => ?_⟩
      exact (mem_missingRtpmaps.mp hmissing).2.2 q (by rw [hparts]; exact List.mem_append_left _ hq)
    · have hfront : part ∈ front := by
        rw [List.concat_eq_append] at hsplit
        have hsplit' : front ++ [last] = (before ++ part :: after) ++ [q] := by
          rw [← hparts, hsplit, List.append_assoc, List.cons_append]
        rw [(List.append_inj' hsplit' rfl).1]
        simp
      exact .inl (hmapped part (List.mem_append_left _ hfront) haudio pt hlisted hdynamic)
  · intro hown part hpart haudio pt hlisted hdynamic
    rcases List.mem_append.mp hpart with hpart | hpart
    · obtain ⟨before, after, rfl⟩ := List.append_of_mem hpart
      have hsplit : sections isMedia ls = before ++ part :: (after ++ [last]) := by
        rw [hparts, List.append_assoc, List.cons_append]
      rcases hown before part _ hsplit haudio pt hlisted hdynamic with hmem | ⟨hnil, -⟩
      · exact hmem
      · simp at hnil
    · rw [List.mem_singleton] at hpart
      subst hpart
      rw [hlast, List.mem_append]
      by_cases hmem : pt ∈ last.2.filterMap rtpmapOf
      · exact .inl hmem
      · refine .inr (mem_missingRtpmaps.mpr ⟨⟨last, by simp [hparts], haudio, hlisted⟩, hdynamic, ?_⟩)
        intro q hq hqaudio
        rw [hparts] at hq
        rcases List.mem_append.mp hq with hq | hq
        · exact ((hown front last [] hparts haudio pt hlisted hdynamic).resolve_left hmem).2 q hq hqaudio
        · rwa [List.mem_singleton.mp hq]

/-- The lines of a text are kept unless the last one ends with a carriage return. -/
theorem kept_iff {init more : List Str} {last : Str} (hmore : ∀ line ∈ more, line.getLast? ≠ some '\r') :
    (init ++ [last]).Sublist (init ++ last.rdropWhile (· == '\r') :: more) ↔ last.getLast? ≠ some '\r' := by
  constructor
  · intro hsub hlast
    -- one more line of the text ends so than of what is written
    have hcount := (hsub.filter fun line => line.getLast? = some '\r').length_le
    have htrimmed : (last.rdropWhile (· == '\r')).getLast? ≠ some '\r' := by
      intro hlast'
      have hne : last.rdropWhile (· == '\r') ≠ [] := fun hnil => by rw [hnil] at hlast'; cases hlast'
      rw [List.getLast?_eq_some_getLast hne, Option.some.injEq] at hlast'
      exact List.rdropWhile_last_not _ _ hne (by simpa using hlast')
    have hnone : more.filter (fun line => line.getLast? = some '\r') = [] :=
      List.filter_eq_nil_iff.mpr fun line hline => by simpa using hmore line hline
    rw [List.filter_append, List.filter_append, List.filter_cons, if_pos (decide_eq_true hlast), List.filter_cons,
      if_neg (by simpa using htrimmed), hnone] at hcount
    simp at hcount
  · intro hlast
    have hself : last.rdropWhile (· == '\r') = last := List.rdropWhile_eq_self_iff.mpr fun hne h => by
      rw [List.getLast?_eq_some_getLast hne] at hlast
      exact hlast (congrArg some (by simpa using h))
    rw [hself]
    exact (List.append_sublist_append_left init).mpr (List.Sublist.cons_cons _ (List.nil_sublist more))

theorem getLast_rtpmapLine (pt : Nat) : (rtpmapLine pt).getLast? ≠ some '\r' := by
  have hlast : " unknown/8000".toList.getLast? = some '0' := by decide
  unfold rtpmapLine
  rw [List.getLast?_append, hlast]
  exact fun h => absurd (Option.some.inj h) (by decide)

/-- Where one is missing, the lines are written behind the text. -/
theorem law_of_missing (hend : crlf <:+ sdp) (h : missingRtpmaps (lines sdp) ≠ []) :
    RtpmapLaw sdp (fillMissingRtpmap sdp) ↔ Mapped (lines sdp ++ (missingRtpmaps (lines sdp)).map rtpmapLine) ∧
      ∀ last ∈ (lines sdp).getLast?, last.getLast? ≠ some '\r' := by
  obtain ⟨init, last, hlines, htrimmed⟩ := exists_trimmed hend
  have houtput : lines (fillMissingRtpmap sdp) =
      init ++ last.rdropWhile (· == '\r') :: (missingRtpmaps (lines sdp)).map rtpmapLine := by
    rw [fillMissingRtpmap_eq, if_neg h]
    refine htrimmed _ fun line hline => ?_
    obtain ⟨pt, -, rfl⟩ := List.mem_map.mp hline
    exact lf_not_mem_rtpmapLine pt
  have hmapped : Mapped (lines (fillMissingRtpmap sdp)) ↔
      Mapped (lines sdp ++ (missingRtpmaps (lines sdp)).map rtpmapLine) := by
    rw [mapped_iff, mapped_iff, houtput, hlines]
    simp only [List.map_append, List.map_cons, readLine_trimmed, List.append_assoc,
      List.singleton_append]
  have hkept : (lines sdp).Sublist (lines (fillMissingRtpmap sdp)) ↔
      ∀ last ∈ (lines sdp).getLast?, last.getLast? ≠ some '\r' := by
    rw [houtput, hlines, List.getLast?_concat]
    refine (kept_iff fun line hline => ?_).trans (by simp)
    obtain ⟨pt, -, rfl⟩ := List.mem_map.mp hline
    exact getLast_rtpmapLine pt
  rw [← hmapped, ← hkept]
  refine ⟨fun hlaw => ⟨hlaw.mapped, hlaw.kept⟩, fun ⟨hm, hk⟩ => ⟨hm, hk, ?_⟩⟩
  rw [fillMissingRtpmap_eq (fillMissingRtpmap sdp), if_pos (missing_eq_nil hm)]

end

/-- **The law holds of exactly the mappable texts.** -/
theorem rtpmap_law_iff (sdp : Str) (hend : crlf <:+ sdp) :
    RtpmapLaw sdp (fillMissingRtpmap sdp) ↔ Mappable sdp := by
  by_cases hnil : missingRtpmaps (lines sdp) = []
  · rw [law_of_nothing hnil]
    refine ⟨fun h => ⟨fun before part after hsplit haudio pt hlisted hdynamic => ?_, .inl h⟩, fun h => ?_⟩
    · exact .inl (h part (by simp [hsplit]) haudio pt hlisted hdynamic)
    · -- a mapping that none of the sections has would be missing
      intro part hpart haudio pt hlisted hdynamic
      obtain ⟨before, after, hsplit⟩ := List.append_of_mem hpart
      refine (h.own before part after hsplit haudio pt hlisted hdynamic).elim id fun ⟨hlast, hothers⟩ => ?_
      by_contra hnot
      have hmissing : pt ∈ missingRtpmaps (lines sdp) :=
        mem_missingRtpmaps.mpr ⟨⟨part, hpart, haudio, hlisted⟩, hdynamic, fun q hq hqaudio => by
          rw [hsplit, hlast] at hq
          rcases List.mem_append.mp hq with hq | hq
          · exact hothers q hq hqaudio
          · rwa [List.mem_singleton.mp hq]⟩
      rw [hnil] at hmissing
      cases hmissing
  · rw [law_of_missing hend hnil, mapped_added hnil]
    refine ⟨fun h => ⟨h.1, .inr h.2⟩, fun h => ⟨h.own, ?_⟩⟩
    exact h.ended.resolve_left fun hmapped => hnil (missing_eq_nil hmapped)

/-- An audio section that lacks a mapping, behind a video section. -/
theorem rtpmap_law_concrete : RtpmapLaw
    ("v=0\r\nm=video 5000 RTP/AVP 99\r\nm=audio 4000 RTP/AVP 0 101 102\r\n" ++
      "a=rtpmap:101 telephone-event/8000\r\n").toList
    (fillMissingRtpmap ("v=0\r\nm=video 5000 RTP/AVP 99\r\nm=audio 4000 RTP/AVP 0 101 102\r\n" ++
      "a=rtpmap:101 telephone-event/8000\r\n").toList) := by
  refine (rtpmap_law_iff _ (by decide)).mpr ⟨?_, .inr (by decide +kernel)⟩
  have hsections : ∃ video audio, isAudio video.1 = false ∧ sections isMedia
      (lines ("v=0\r\nm=video 5000 RTP/AVP 99\r\nm=audio 4000 RTP/AVP 0 101 102\r\n" ++
        "a=rtpmap:101 telephone-event/8000\r\n").toList) = [video, audio] :=
    ⟨("m=video 5000 RTP/AVP 99".toList, []),
      ("m=audio 4000 RTP/AVP 0 101 102".toList, ["a=rtpmap:101 telephone-event/8000".toList]),
      by decide, by decide +kernel⟩
  obtain ⟨video, audio, hvideo, hsections⟩ := hsections
  rw [hsections]
  intro before part after hsplit haudio pt hlisted hdynamic
  match before, hsplit with
  | [], hsplit =>
    cases hsplit
    rw [hvideo] at haudio
    cases haudio
  | [q], hsplit =>
    cases hsplit
    refine .inr ⟨rfl, fun q hq hqaudio => ?_⟩
    rw [List.mem_singleton.mp hq, hvideo] at hqaudio
    cases hqaudio
  | _ :: _ :: before, hsplit => simp at hsplit

/-- The mapping for an audio section is written behind the video section. -/
theorem rtpmap_misplaced : ¬ RtpmapLaw "m=audio 4000 RTP/AVP 0 101\r\nm=video 5000 RTP/AVP 99\r\n".toList
    (fillMissingRtpmap "m=audio 4000 RTP/AVP 0 101\r\nm=video 5000 RTP/AVP 99\r\n".toList) := by
  intro h
  have hlost : ¬ ∀ part ∈ sections isMedia (lines (fillMissingRtpmap
      "m=audio 4000 RTP/AVP 0 101\r\nm=video 5000 RTP/AVP 99\r\n".toList)), isAudio part.1 = true →
      ∀ pt ∈ payloads part.1, 95 < pt → pt ∈ part.2.filterMap rtpmapOf := by decide +kernel
  exact hlost h.mapped

end Minghe.Sip
