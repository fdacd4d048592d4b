import Minghe.Sip.Rewriting

/-!
# The law of rewriting

What is expected of `rewrite_sdp_with_cryptos` (`SdpLaw`), and for which descriptions it holds (`Regular`).
It fails in three ways.

* In an audio section any line that begins with `a=crypto` is taken for a `crypto` attribute, with the colon or
  without it.
* A `m=audio` line with fewer than four fields is no audio line, and its section should get no keys. It gets
  them in place of an `a=crypto` line, when another section follows, or when an audio line came before it.
* Where no line is left an empty one is printed.
* `sdp_law_iff`: the law holds for exactly the regular descriptions, whatever address, port and keys the
  relay has.
-/

namespace Minghe.Sip

open Minghe.Lib

/-- A line that is neither replaced nor taken away. -/
def Remains (line : Str) : Prop :=
  ¬ "c=".toList <+: line ∧ ¬ IsAudioMedia line ∧ shouldStripForSdesSrtp line = false

instance (line : Str) : Decidable (Remains line) := inferInstanceAs (Decidable (_ ∧ _))

/-- What is expected of a text `output` that a description `sdp` is rewritten to. -/
structure SdpLaw (relayAddr : Str) (relayPort : UInt16) (cryptos : List SdpCrypto) (sdp output : Str) : Prop where
  /-- Every `c=` line names the relay. -/
  connection : (lines output).filter (fun line => decide ("c=".toList <+: line)) =
    ((lines sdp).filter fun line => decide ("c=".toList <+: line)).map fun _ => "c=IN IP4 ".toList ++ relayAddr
  /-- Every audio line has the port, the protocol, and its formats. -/
  audio : ((lines output).filter fun line => decide (IsAudioMedia line)).map splitWhitespace =
    ((lines sdp).filter fun line => decide (IsAudioMedia line)).map fun line =>
      "m=audio".toList :: showNat relayPort.toNat :: "RTP/SAVP".toList :: (splitWhitespace line).drop 3
  /-- Every audio section has the keys, and no other ones. -/
  crypto : ∀ part ∈ sections isMedia (lines output), IsAudioMedia part.1 →
    ∃ before after, part.2 = before ++ (cryptoLines cryptos ++ after) ∧
      ∀ line ∈ before ++ after, ¬ IsCryptoAttribute line
  /-- There are none outside of them. -/
  noOther : (∀ line ∈ (lines output).takeWhile fun line => !isMedia line, ¬ IsCryptoAttribute line) ∧
    ∀ part ∈ sections isMedia (lines output), ¬ IsAudioMedia part.1 → ∀ line ∈ part.2, ¬ IsCryptoAttribute line
  /-- The attributes of DTLS, ICE and RTCP are gone. -/
  stripped : ∀ line ∈ lines output, shouldStripForSdesSrtp line = true → IsCryptoAttribute line
  /-- All other lines are there, in their order. -/
  remaining : (lines output).filter (fun line => decide (Remains line)) =
    (lines sdp).filter fun line => decide (Remains line)
  ended : output = (lines output).flatMap (· ++ crlf)
  again : rewriteSdpWithCryptos relayAddr relayPort cryptos output = output

/-- The descriptions for which it holds. -/
structure Regular (sdp : Str) : Prop where
  /-- What begins with `a=crypto` is a `crypto` attribute. -/
  named : ∀ part ∈ sections isMedia (lines sdp), isAudio part.1 = true → ∀ line ∈ part.2,
    isCryptoLine line = true → "a=crypto:".toList <+: line
  /-- A `m=audio` line with too few fields is that of the last section, which has no `a=crypto` line, and there
  is no audio section in front of it. -/
  short : ∀ before part after, sections isMedia (lines sdp) = before ++ part :: after → isAudio part.1 = true →
    ¬ IsAudioMedia part.1 → after = [] ∧ (∀ line ∈ part.2, isCryptoLine line = false) ∧
      ∀ q ∈ before, ¬ IsAudioMedia q.1
  /-- A line is left. -/
  some : ∃ line ∈ lines sdp, shouldStripForSdesSrtp line = false

variable {relayAddr : Str} {relayPort : UInt16} {cryptos : List SdpCrypto}

/-! ## Attributes -/

/-- A line that begins with `a=crypto` is taken away only if it is a `crypto` attribute. -/
theorem start_of_strip {line : Str} (h : isCryptoLine line = true) (hstrip : shouldStripForSdesSrtp line = true) :
    "a=crypto:".toList <+: line := by
  obtain ⟨rest, rfl⟩ := of_decide_eq_true h
  obtain ⟨p, hp, hpre⟩ := List.any_eq_true.mp hstrip
  have hpre := of_decide_eq_true hpre
  have hother : ∀ q ∈ strippedPrefixes, q ≠ "a=crypto:".toList → ¬ q <+: toAsciiLowercase "a=crypto".toList ∧
      ¬ toAsciiLowercase "a=crypto".toList <+: q := by decide
  by_cases hname : p = "a=crypto:".toList
  · rw [hname, trim_word_append (by decide) (by decide)] at hpre
    -- the colon is behind the name, so it is the first character of what is left of `rest`
    have hcolon : [':'] <+: toAsciiLowercase (trimEnd rest) := by
      refine (List.prefix_append_right_inj "a=crypto".toList).mp (hpre.trans ?_)
      rw [toAsciiLowercase, List.map_append]
      exact List.prefix_refl _
    obtain ⟨c, cs, hc, htail⟩ : ∃ c cs, trimEnd rest = c :: cs ∧ c.toLower = ':' := by
      cases htrim : trimEnd rest with
      | nil =>
        rw [htrim] at hcolon
        exact absurd hcolon (by decide)
      | cons c cs =>
        rw [htrim] at hcolon
        exact ⟨c, cs, rfl, (List.cons_prefix_cons.mp hcolon).1.symm⟩
    have hrest : trimEnd rest <+: rest := List.rdropWhile_prefix _ rest
    rw [hc, toLower_eq_colon.mp htail] at hrest
    have hfirst : [':'] <+: rest := (List.prefix_append [':'] cs).trans hrest
    exact (List.prefix_append_right_inj "a=crypto".toList).mpr hfirst
  · exact absurd hpre (not_prefix_lower_trim (by decide) (by decide) (hother p hp hname) rest)

theorem remains_relayedLine (line : Str) :
    decide (Remains (relayedLine relayAddr relayPort line)) = decide (Remains line) := by
  have hkind := sameKind_relayedLine relayAddr relayPort line
  rw [decide_eq_decide, Remains, hkind.connection, hkind.complete, hkind.strip]
  rfl

/-- A line that remains is not rewritten. -/
theorem map_relayedLine_remaining (ls : List Str) :
    (ls.filter fun line => decide (Remains line)).map (relayedLine relayAddr relayPort) =
      ls.filter fun line => decide (Remains line) := by
  refine (List.map_congr_left fun line hline => ?_).trans (List.map_id _)
  have hremains : Remains line := of_decide_eq_true (List.mem_filter.mp hline).2
  exact relayedLine_of_other hremains.1 hremains.2.1

/-! ## The lines that are kept -/

/-- The lines of a section but for the `a=crypto` lines of an audio section. -/
def keptBody (part : Str × List Str) : List Str :=
  if isAudio part.1 then part.2.filter fun line => !isCryptoLine line else part.2

/-- The lines of a text but for those. -/
def keptLines (ls : List Str) : List Str :=
  (ls.takeWhile fun line => !isMedia line) ++ (sections isMedia ls).flatMap fun part => part.1 :: keptBody part

theorem plainLines_append (ls ls' : List Str) : plainLines relayAddr relayPort (ls ++ ls') =
    plainLines relayAddr relayPort ls ++ plainLines relayAddr relayPort ls' := by
  unfold plainLines
  rw [List.filter_append, List.map_append]

theorem plainLines_media {line : Str} (h : isMedia line = true) (ls : List Str) :
    plainLines relayAddr relayPort (line :: ls) =
      relayedLine relayAddr relayPort line :: plainLines relayAddr relayPort ls := by
  rw [plainLines_cons, (media_other h).2.2]
  rfl

section

variable {p : Str → Bool} (hstrip : ∀ line, p line = true → shouldStripForSdesSrtp line = false)
include hstrip

theorem filter_cryptoLines : (cryptoLines cryptos).filter p = [] := by
  rw [List.filter_eq_nil_iff]
  intro line hline hp
  have h := strip_of_attribute (attribute_cryptoLines hline)
  rw [hstrip line hp] at h
  cases h

theorem filter_rewritePart (add : Bool) (part : Str × List Str) :
    (rewritePart relayAddr relayPort cryptos add part).2.filter p =
      (plainLines relayAddr relayPort (keptBody part)).filter p := by
  unfold rewritePart keptBody
  dsimp only
  split
  · rcases placedLines_eq relayAddr relayPort cryptos add part.2 with
      ⟨hplain, he⟩ | ⟨front, crypto, behind, hbody, hfront, hcrypto, he⟩
    · have hkept : part.2.filter (fun line => !isCryptoLine line) = part.2 :=
        List.filter_eq_self.mpr fun line hline => by rw [hplain line hline]; rfl
      have hkeys : (if add then cryptoLines cryptos else []).filter p = [] := by
        split
        · exact filter_cryptoLines hstrip
        · rfl
      rw [he, hkept, List.filter_append, hkeys, List.append_nil]
    · have hkept : front.filter (fun line => !isCryptoLine line) = front :=
        List.filter_eq_self.mpr fun line hline => by rw [hfront line hline]; rfl
      rw [he, hbody, List.filter_append, List.filter_append, filter_cryptoLines hstrip, List.filter_append,
        hkept, List.filter_cons_of_neg (by simp [hcrypto]), plainLines_append, List.filter_append, List.nil_append]
  · rfl

theorem filter_rewriteParts : ∀ (found : Bool) {parts : List (Str × List Str)},
    (∀ part ∈ parts, isMedia part.1 = true) →
    (joinSections (rewriteParts relayAddr relayPort cryptos found parts)).filter p =
      (plainLines relayAddr relayPort (parts.flatMap fun part => part.1 :: keptBody part)).filter p
  | _, [], _ => rfl
  | found, part :: parts, h => by
    have ih := filter_rewriteParts (found || decide (IsAudioMedia part.1)) fun q hq =>
      h q (List.mem_cons_of_mem _ hq)
    have hpart : ∀ add, (rewritePart relayAddr relayPort cryptos add part).2.filter p =
        (plainLines relayAddr relayPort (keptBody part)).filter p := fun add => filter_rewritePart hstrip add part
    rw [rewriteParts, joinSections_cons, List.flatMap_cons, List.cons_append, plainLines_media
      (h part List.mem_cons_self), plainLines_append, List.filter_cons, List.filter_cons, List.filter_append,
      List.filter_append, hpart, ih]
    rfl

/-- **Lines that are not taken away**, the kept ones, one by one. -/
theorem filter_rewriteSdpLines (hne : cryptos ≠ []) (ls : List Str) :
    (rewriteSdpLines relayAddr relayPort cryptos {} ls).filter p =
      (plainLines relayAddr relayPort (keptLines ls)).filter p := by
  rw [rewriteSdpLines_eq relayAddr relayPort hne, keptLines, plainLines_append, List.filter_append,
    List.filter_append, filter_rewriteParts hstrip _ fun part hpart => (of_mem_sections hpart).1]

theorem filter_plainLines (hkind : ∀ line, p (relayedLine relayAddr relayPort line) = p line) (ls : List Str) :
    (plainLines relayAddr relayPort ls).filter p = (ls.filter p).map (relayedLine relayAddr relayPort) := by
  have hsame : (p ∘ relayedLine relayAddr relayPort) = p := funext hkind
  unfold plainLines
  rw [List.filter_map, hsame, List.filter_filter]
  refine congrArg _ (List.filter_congr fun line _ => ?_)
  cases hp : p line with
  | false => rfl
  | true => rw [hstrip line hp]; rfl

end

/-- Where what begins with `a=crypto` is an attribute, the other lines are kept. -/
theorem plainLines_keptLines {ls : List Str} (h : ∀ part ∈ sections isMedia ls, isAudio part.1 = true →
    ∀ line ∈ part.2, isCryptoLine line = true → "a=crypto:".toList <+: line) :
    plainLines relayAddr relayPort (keptLines ls) = plainLines relayAddr relayPort ls := by
  have hbody : ∀ part ∈ sections isMedia ls,
      (keptBody part).filter (fun line => !shouldStripForSdesSrtp line) =
        part.2.filter fun line => !shouldStripForSdesSrtp line := by
    intro part hpart
    unfold keptBody
    split
    · rename_i haudio
      rw [List.filter_filter]
      refine List.filter_congr fun line hline => ?_
      cases hcrypto : isCryptoLine line with
      | false => exact Bool.and_true _
      | true => rw [strip_of_attribute (attribute_of_start (h part hpart haudio line hline hcrypto))]; rfl
    · rfl
  have hsections : ((sections isMedia ls).flatMap fun part => part.1 :: keptBody part).filter
        (fun line => !shouldStripForSdesSrtp line) =
      (joinSections (sections isMedia ls)).filter fun line => !shouldStripForSdesSrtp line := by
    rw [joinSections, List.filter_flatMap, List.filter_flatMap]
    refine List.flatMap_congr fun part hpart => ?_
    rw [List.filter_cons, List.filter_cons, hbody part hpart]
  conv_rhs => rw [← takeWhile_append_joinSections (p := isMedia) ls]
  unfold plainLines keptLines
  rw [List.filter_append, hsections, List.filter_append]

/-- Where no other line is lost, what begins with `a=crypto` is an attribute. -/
theorem named_of_remaining {ls : List Str} (h : (keptLines ls).filter (fun line => decide (Remains line)) =
      ls.filter fun line => decide (Remains line)) : ∀ part ∈ sections isMedia ls, isAudio part.1 = true →
    ∀ line ∈ part.2, isCryptoLine line = true → "a=crypto:".toList <+: line := by
  have hsub : ∀ part : Str × List Str, ((part.1 :: keptBody part).filter fun line => decide (Remains line)).Sublist
      ((part.1 :: part.2).filter fun line => decide (Remains line)) := by
    refine fun part => List.Sublist.filter _ (List.Sublist.cons_cons _ ?_)
    unfold keptBody
    split
    · exact List.filter_sublist
    · exact List.Sublist.refl _
  conv_rhs at h => rw [← takeWhile_append_joinSections (p := isMedia) ls]
  rw [keptLines, List.filter_append, List.filter_append, List.append_cancel_left_eq, joinSections,
    List.filter_flatMap, List.filter_flatMap] at h
  intro part hpart haudio line hline hcrypto
  have hsame := flatMap_inj_of_sublist (fun part _ => hsub part) h part hpart
  refine start_of_strip hcrypto ?_
  by_contra hstrip
  obtain ⟨hconnection, hmedia⟩ := crypto_other hcrypto
  have hremains : Remains line := ⟨hconnection, not_isAudioMedia hmedia, by simpa using hstrip⟩
  have hmem : line ∈ (part.1 :: part.2).filter fun line => decide (Remains line) :=
    List.mem_filter.mpr ⟨List.mem_cons_of_mem _ hline, decide_eq_true hremains⟩
  rw [← hsame, List.mem_filter] at hmem
  rcases List.mem_cons.mp hmem.1 with rfl | hkept
  · rw [isMedia_of_isAudio haudio] at hmedia
    cases hmedia
  · rw [keptBody, if_pos haudio, List.mem_filter, hcrypto] at hkept
    exact absurd hkept.2 Bool.false_ne_true

/-! ## Keys of a section -/

/-- A complete audio section has the keys, in place of its first `a=crypto` line or at its end. -/
theorem keys_of_complete {part : Str × List Str} (h : isAudio part.1 = true) :
    ∃ before after, (rewritePart relayAddr relayPort cryptos true part).2 =
        before ++ (cryptoLines cryptos ++ after) ∧ ∀ line ∈ before ++ after, ¬ IsCryptoAttribute line := by
  unfold rewritePart
  dsimp only
  rw [if_pos h]
  rcases placedLines_eq relayAddr relayPort cryptos true part.2 with
    ⟨-, he⟩ | ⟨front, crypto, behind, -, -, -, he⟩
  · refine ⟨plainLines relayAddr relayPort part.2, [], by rw [he, if_pos rfl, List.append_nil], ?_⟩
    rw [List.append_nil]
    exact fun line hline => not_attribute_plainLines hline
  · refine ⟨_, _, he, fun line hline => ?_⟩
    exact (List.mem_append.mp hline).elim not_attribute_plainLines not_attribute_plainLines

/-- **An audio section is left without keys** only if nothing asks for them. -/
theorem keys_iff (hne : cryptos ≠ []) (add : Bool) (part : Str × List Str) :
    (∀ line ∈ (rewritePart relayAddr relayPort cryptos add part).2, ¬ IsCryptoAttribute line) ↔
      (isAudio part.1 = true → add = false ∧ ∀ line ∈ part.2, isCryptoLine line = false) := by
  obtain ⟨c, cs, rfl⟩ := List.exists_cons_of_ne_nil hne
  have hc : c.toLine ∈ cryptoLines (c :: cs) := List.mem_cons_self
  unfold rewritePart
  dsimp only
  split
  · rename_i haudio
    rcases placedLines_eq relayAddr relayPort (c :: cs) add part.2 with
      ⟨hplain, he⟩ | ⟨front, crypto, behind, hbody, -, hcrypto, he⟩
    · rw [he]
      cases add with
      | false =>
        rw [if_neg Bool.false_ne_true, List.append_nil]
        exact iff_of_true (fun line hline => not_attribute_plainLines hline) fun _ => ⟨rfl, hplain⟩
      | true =>
        refine iff_of_false (fun h => ?_) fun h => Bool.false_ne_true (h haudio).1.symm
        rw [if_pos rfl] at h
        exact h _ (List.mem_append_right _ hc) (attribute_cryptoLines hc)
    · refine iff_of_false (fun h => ?_) fun h => ?_
      · rw [he] at h
        exact h _ (List.mem_append_right _ (List.mem_append_left _ hc)) (attribute_cryptoLines hc)
      · have hnot := (h haudio).2 crypto (by simp [hbody])
        rw [hcrypto] at hnot
        cases hnot
  · rename_i haudio
    exact iff_of_true (fun line hline => not_attribute_plainLines hline) fun h => absurd h haudio

/-! ## The law -/

section

variable {sdp : Str}

/-- Where no line is left, an empty one is printed. -/
theorem some_of_remaining (hne : cryptos ≠ [])
    (h : (lines (rewriteSdpWithCryptos relayAddr relayPort cryptos sdp)).filter (fun line => decide (Remains line)) =
      (lines sdp).filter fun line => decide (Remains line)) :
    ∃ line ∈ lines sdp, shouldStripForSdesSrtp line = false := by
  by_contra hnone
  simp only [not_exists, not_and, Bool.not_eq_false] at hnone
  have hplain : ∀ ls : List Str, ls ⊆ lines sdp → plainLines relayAddr relayPort ls = [] := by
    intro ls hsub
    rw [plainLines, List.map_eq_nil_iff, List.filter_eq_nil_iff]
    intro line hline
    rw [hnone line (hsub hline)]
    exact Bool.false_ne_true
  have hsections : sections isMedia (lines sdp) = [] := by
    rw [List.eq_nil_iff_forall_not_mem]
    intro part hpart
    have hstays := (media_other (of_mem_sections hpart).1).2.2
    rw [hnone part.1 (mem_of_mem_sections hpart)] at hstays
    cases hstays
  have hprinted : rewriteSdpLines relayAddr relayPort cryptos {} (lines sdp) = [] := by
    rw [rewriteSdpLines_eq relayAddr relayPort hne, hplain _ (List.takeWhile_subset _), hsections]
    rfl
  have hempty : lines (rewriteSdpWithCryptos relayAddr relayPort cryptos sdp) = [[]] := by
    rw [rewriteSdpWithCryptos, hprinted]
    decide
  have hremains : Remains [] := by decide
  have hmem : [] ∈ (lines sdp).filter fun line => decide (Remains line) := by
    rw [← h, hempty]
    exact List.mem_filter.mpr ⟨List.mem_singleton_self _, decide_eq_true hremains⟩
  rw [List.mem_filter] at hmem
  have hstays := hremains.2.2
  rw [hnone [] hmem.1] at hstays
  cases hstays

theorem regular_of_law (hne : cryptos ≠ []) (hrelay : '\n' ∉ relayAddr)
    (hcryptos : ∀ line ∈ cryptoLines cryptos, '\n' ∉ line)
    (h : SdpLaw relayAddr relayPort cryptos sdp (rewriteSdpWithCryptos relayAddr relayPort cryptos sdp)) :
    Regular sdp := by
  have hsome := some_of_remaining hne h.remaining
  have hlines := lines_rewriteSdp hne hrelay hcryptos (printed_of_some relayAddr relayPort hne hsome)
  have hstrip : ∀ line, decide (Remains line) = true → shouldStripForSdesSrtp line = false :=
    fun line hremains => (of_decide_eq_true hremains).2.2
  refine ⟨named_of_remaining ?_, fun before part after hparts haudio hshort => ?_, hsome⟩
  · have hsame := h.remaining
    rwa [hlines, filter_rewriteSdpLines hstrip hne, filter_plainLines hstrip remains_relayedLine,
      map_relayedLine_remaining] at hsame
  · have hnone := h.noOther.2
    rw [hlines, sections_rewriteSdpLines relayAddr relayPort hne] at hnone
    have hprinted := hnone _ (mem_rewriteParts.mpr ⟨before, part, after, hparts, rfl⟩)
      (mt (sameKind_relayedLine relayAddr relayPort part.1).complete.mp hshort)
    obtain ⟨hadd, hbody⟩ := (keys_iff hne _ part).mp hprinted haudio
    rw [Bool.or_eq_false_iff, Bool.or_eq_false_iff, Bool.false_or, Bool.not_eq_false'] at hadd
    refine ⟨List.isEmpty_iff.mp hadd.1.1, hbody, fun q hq hcomplete => ?_⟩
    have hnot := List.any_eq_false.mp hadd.1.2 q hq
    exact hnot (decide_eq_true hcomplete)

theorem law_of_regular (hne : cryptos ≠ []) (hrelay : '\n' ∉ relayAddr)
    (hcryptos : ∀ line ∈ cryptoLines cryptos, '\n' ∉ line) (h : Regular sdp) :
    SdpLaw relayAddr relayPort cryptos sdp (rewriteSdpWithCryptos relayAddr relayPort cryptos sdp) := by
  have hsome := printed_of_some relayAddr relayPort hne h.some
  have hlines := lines_rewriteSdp hne hrelay hcryptos hsome
  -- lines that are replaced, or stay, are there one by one
  have hfilter : ∀ {p : Str → Bool}, (∀ line, p line = true → shouldStripForSdesSrtp line = false) →
      (∀ line, p (relayedLine relayAddr relayPort line) = p line) →
      (lines (rewriteSdpWithCryptos relayAddr relayPort cryptos sdp)).filter p =
        ((lines sdp).filter p).map (relayedLine relayAddr relayPort) := by
    intro p hstrip hkind
    rw [hlines, filter_rewriteSdpLines hstrip hne, plainLines_keptLines h.named, filter_plainLines hstrip hkind]
  refine ⟨?_, ?_, ?_, ⟨?_, ?_⟩, ?_, ?_, ?_, ?_⟩
  · rw [hfilter (fun line hline => (connection_other (of_decide_eq_true hline)).2.2) fun line =>
      decide_eq_decide.mpr (sameKind_relayedLine relayAddr relayPort line).connection]
    refine List.map_congr_left fun line hline => ?_
    rw [relayedLine, if_pos (of_decide_eq_true (List.mem_filter.mp hline).2)]
  · rw [hfilter (fun line hline => (media_other (isMedia_of_isAudio (of_decide_eq_true hline).1)).2.2) fun line =>
      decide_eq_decide.mpr (sameKind_relayedLine relayAddr relayPort line).complete, List.map_map]
    refine List.map_congr_left fun line hline => ?_
    exact splitWhitespace_relayed relayAddr (of_decide_eq_true (List.mem_filter.mp hline).2)
  · rw [hlines]
    intro printed hprinted hcomplete
    obtain ⟨before, part, after, -, hkind, rfl⟩ := exists_part hne hprinted
    have haudio := hkind.mp hcomplete
    rw [decide_eq_true haudio, Bool.or_true]
    exact keys_of_complete haudio.1
  · rw [hlines, takeWhile_rewriteSdpLines relayAddr relayPort hne]
    exact fun line hline => not_attribute_plainLines hline
  · rw [hlines]
    intro printed hprinted hcomplete
    obtain ⟨before, part, after, hparts, hkind, rfl⟩ := exists_part hne hprinted
    have hshort := mt hkind.mpr hcomplete
    refine (keys_iff hne _ part).mpr fun haudio => ?_
    obtain ⟨rfl, hbody, hbefore⟩ := h.short before part after hparts haudio hshort
    refine ⟨?_, hbody⟩
    rw [decide_eq_false hshort, List.isEmpty_nil, Bool.not_true, Bool.false_or, Bool.or_false]
    exact List.any_eq_false.mpr fun q hq => by simpa using hbefore q hq
  · rw [hlines]
    intro line hline hstrip
    rcases mem_rewriteSdpLines hne hline with hline | hline
    · exact attribute_cryptoLines hline
    · obtain ⟨line, -, hstays, rfl⟩ := mem_plainLines.mp hline
      rw [(sameKind_relayedLine relayAddr relayPort line).strip, hstays] at hstrip
      cases hstrip
  · rw [hfilter (fun line hremains => (of_decide_eq_true hremains).2.2) remains_relayedLine,
      map_relayedLine_remaining]
  · rw [hlines]
    exact intercalate_crlf hsome
  · conv_lhs => rw [rewriteSdpWithCryptos, hlines, rewriteSdpLines_idem relayAddr relayPort hne]
    rfl

end

/-- **The law holds of exactly the regular descriptions.** -/
theorem sdp_law_iff (relayAddr : Str) (relayPort : UInt16) (cryptos : List SdpCrypto) (sdp : Str)
    (hne : cryptos ≠ []) (hrelay : '\n' ∉ relayAddr)
    (hcryptos : ∀ c ∈ cryptos, '\n' ∉ c.suite ∧ '\n' ∉ c.keyB64) :
    SdpLaw relayAddr relayPort cryptos sdp (rewriteSdpWithCryptos relayAddr relayPort cryptos sdp) ↔
      Regular sdp :=
  ⟨regular_of_law hne hrelay (lf_not_mem_cryptoLines hcryptos),
    law_of_regular hne hrelay (lf_not_mem_cryptoLines hcryptos)⟩

/-- A session with a key of its own and two audio sections, where the relay offers two keys. -/
theorem sdp_law_concrete :
    SdpLaw "203.0.113.10".toList 20000
      [⟨1, "AES_CM_128_HMAC_SHA1_80".toList, "KEY_AES_CM".toList⟩, ⟨2, "AEAD_AES_128_GCM".toList, "KEY_GCM".toList⟩]
      ("c=IN IP4 192.168.1.10\r\na=crypto:9 X inline:SESSION\r\nm=audio 4000 RTP/AVP 0 8\r\na=rtcp-mux\r\n" ++
        "m=audio 4002 RTP/SAVP 0\r\na=crypto:2 X inline:CLIENT\r\na=ptime:20\r\n").toList
      (rewriteSdpWithCryptos "203.0.113.10".toList 20000
        [⟨1, "AES_CM_128_HMAC_SHA1_80".toList, "KEY_AES_CM".toList⟩,
          ⟨2, "AEAD_AES_128_GCM".toList, "KEY_GCM".toList⟩]
        ("c=IN IP4 192.168.1.10\r\na=crypto:9 X inline:SESSION\r\nm=audio 4000 RTP/AVP 0 8\r\na=rtcp-mux\r\n" ++
          "m=audio 4002 RTP/SAVP 0\r\na=crypto:2 X inline:CLIENT\r\na=ptime:20\r\n").toList) := by
  refine (sdp_law_iff _ _ _ _ (by decide) (by decide) (by decide)).mpr ⟨by decide +kernel, ?_, by decide +kernel⟩
  intro before part after hparts haudio hshort
  have hcomplete : ∀ part ∈ sections isMedia (lines ("c=IN IP4 192.168.1.10\r\na=crypto:9 X inline:SESSION\r\n" ++
      "m=audio 4000 RTP/AVP 0 8\r\na=rtcp-mux\r\n" ++
      "m=audio 4002 RTP/SAVP 0\r\na=crypto:2 X inline:CLIENT\r\na=ptime:20\r\n").toList),
      IsAudioMedia part.1 := by decide +kernel
  exact absurd (hcomplete part (hparts ▸ by simp)) hshort

/-- An attribute with a name of its own is lost. -/
theorem attribute_lost : ¬ SdpLaw "203.0.113.10".toList 20000
    [⟨1, "AES_CM_128_HMAC_SHA1_80".toList, "KEY".toList⟩]
    "m=audio 4000 RTP/SAVP 0\r\na=crypto-policy:strict\r\n".toList
    (rewriteSdpWithCryptos "203.0.113.10".toList 20000 [⟨1, "AES_CM_128_HMAC_SHA1_80".toList, "KEY".toList⟩]
      "m=audio 4000 RTP/SAVP 0\r\na=crypto-policy:strict\r\n".toList) :=
  fun h => absurd h.remaining (by decide +kernel)

end Minghe.Sip
