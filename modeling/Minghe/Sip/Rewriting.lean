import Minghe.Lib.Lines
import Minghe.Lib.Net
import Minghe.Sip.Sdp

/-!
# What rewriting does to a description

`rewrite_sdp_with_cryptos` runs through the lines with three flags. What it prints is described here
section by section (`rewriteSdpLines_eq`), a section being a `m=` line and the lines up to the next one.

* `plainLines`: lines outside an audio section. Attributes of DTLS, ICE and RTCP go, and `c=` lines name
  the relay.
* `placedLines`: the lines of an audio section. The keys stand in place of its first `a=crypto` line, or at
  its end.

Results:
* `rewriteSdpLines_eq`: what the loop prints; its sections are those of the text, rewritten.
* `rewriteSdpLines_idem`: rewriting what was printed changes nothing.
* `lines_rewriteSdp`: the printed lines are read back.
-/

namespace Minghe.Sip

open Minghe.Lib

/-- A `m=audio` line with four fields or more. -/
def IsAudioMedia (line : Str) : Prop := isAudio line = true ∧ 4 ≤ (splitWhitespace line).length

instance (line : Str) : Decidable (IsAudioMedia line) := inferInstanceAs (Decidable (_ ∧ _))

/-- A `crypto` attribute, in letters of either case. -/
def IsCryptoAttribute (line : Str) : Prop := "a=crypto:".toList <+: toAsciiLowercase (trim line)

/-- A line that begins with `a=crypto`. -/
def isCryptoLine (line : Str) : Bool := decide ("a=crypto".toList <+: line)

section

variable (relayAddr : Str) (relayPort : UInt16)

/-- What becomes of a line that stays. -/
def relayedLine (line : Str) : Str :=
  if "c=".toList <+: line then "c=IN IP4 ".toList ++ relayAddr
  else if IsAudioMedia line then
    "m=audio ".toList ++ showNat relayPort.toNat ++ [' '] ++ "RTP/SAVP".toList ++ [' '] ++
      [' '].intercalate ((splitWhitespace line).drop 3)
  else line

/-- Lines outside an audio section. -/
def plainLines (ls : List Str) : List Str :=
  (ls.filter fun line => !shouldStripForSdesSrtp line).map (relayedLine relayAddr relayPort)

variable (cryptos : List SdpCrypto)

/-- The lines of an audio section, which lacks keys at its end or not. -/
def placedLines (add : Bool) (body : List Str) : List Str :=
  match body.dropWhile fun line => !isCryptoLine line with
  | [] => plainLines relayAddr relayPort body ++ if add then cryptoLines cryptos else []
  | _ :: behind =>
    plainLines relayAddr relayPort (body.takeWhile fun line => !isCryptoLine line) ++
      (cryptoLines cryptos ++ plainLines relayAddr relayPort (behind.filter fun line => !isCryptoLine line))

/-- A section, which may get keys at its end or not. -/
def rewritePart (add : Bool) (part : Str × List Str) : Str × List Str :=
  (relayedLine relayAddr relayPort part.1,
    if isAudio part.1 then placedLines relayAddr relayPort cryptos add part.2
    else plainLines relayAddr relayPort part.2)

/-- All sections, from the first on. `found` tells whether an audio section with four fields was found: an
audio section gets keys at its end if another section follows, or such a line was found. -/
def rewriteParts : Bool → List (Str × List Str) → List (Str × List Str)
  | _, [] => []
  | found, part :: parts =>
    let found := found || decide (IsAudioMedia part.1)
    rewritePart relayAddr relayPort cryptos (!parts.isEmpty || found) part :: rewriteParts found parts

end

variable {relayAddr : Str} {relayPort : UInt16} {cryptos : List SdpCrypto}

/-! ## One line -/

theorem isMedia_of_isAudio {line : Str} (h : isAudio line = true) : isMedia line = true := by
  have hpre : "m=".toList <+: "m=audio".toList := by decide
  exact decide_eq_true (hpre.trans (of_decide_eq_true h))

theorem isMedia_toLine (c : SdpCrypto) : isMedia c.toLine = false := by
  unfold SdpCrypto.toLine
  simp only [List.append_assoc]
  exact decide_eq_false (not_prefix_append (by decide) _)

theorem isMedia_cryptoLines {line : Str} (h : line ∈ cryptoLines cryptos) : isMedia line = false := by
  obtain ⟨c, -, rfl⟩ := List.mem_map.mp h
  exact isMedia_toLine c

/-- A `m=` line is no other one. -/
theorem media_other {line : Str} (h : isMedia line = true) : ¬ "c=".toList <+: line ∧
    isCryptoLine line = false ∧ shouldStripForSdesSrtp line = false := by
  obtain ⟨rest, rfl⟩ := of_decide_eq_true h
  have hpair : ∀ p ∈ strippedPrefixes, ¬ p <+: toAsciiLowercase "m=".toList ∧
      ¬ toAsciiLowercase "m=".toList <+: p := by decide
  refine ⟨not_prefix_append (by decide) rest, decide_eq_false (not_prefix_append (by decide) rest), ?_⟩
  exact List.any_eq_false.mpr fun p hp => by
    simpa using not_prefix_lower_trim (by decide) (by decide) (hpair p hp) rest

/-- Nor is a `c=` line. -/
theorem connection_other {line : Str} (h : "c=".toList <+: line) : isMedia line = false ∧
    isCryptoLine line = false ∧ shouldStripForSdesSrtp line = false := by
  obtain ⟨rest, rfl⟩ := h
  have hpair : ∀ p ∈ strippedPrefixes, ¬ p <+: toAsciiLowercase "c=".toList ∧
      ¬ toAsciiLowercase "c=".toList <+: p := by decide
  refine ⟨decide_eq_false (not_prefix_append (by decide) rest),
    decide_eq_false (not_prefix_append (by decide) rest), ?_⟩
  exact List.any_eq_false.mpr fun p hp => by
    simpa using not_prefix_lower_trim (by decide) (by decide) (hpair p hp) rest

/-- Nor is a `crypto` line. -/
theorem crypto_other {line : Str} (h : isCryptoLine line = true) :
    ¬ "c=".toList <+: line ∧ isMedia line = false := by
  obtain ⟨rest, rfl⟩ := of_decide_eq_true h
  exact ⟨not_prefix_append (by decide) rest, decide_eq_false (not_prefix_append (by decide) rest)⟩

theorem isAudio_eq_false {line : Str} (h : isMedia line = false) : isAudio line = false := by
  by_contra haudio
  rw [isMedia_of_isAudio (by simpa using haudio)] at h
  cases h

theorem not_isAudioMedia {line : Str} (h : isMedia line = false) : ¬ IsAudioMedia line := fun haudio => by
  rw [IsAudioMedia, isAudio_eq_false h] at haudio
  exact absurd haudio.1 Bool.false_ne_true

/-- The audio line that is printed has the port, the protocol, and the formats. -/
theorem splitWhitespace_printed (port : Nat) {formats : List Str} (hne : formats ≠ [])
    (h : ∀ word ∈ formats, word ≠ [] ∧ ∀ c ∈ word, isWhitespace c = false) :
    splitWhitespace ("m=audio ".toList ++ showNat port ++ [' '] ++ "RTP/SAVP".toList ++ [' '] ++
      [' '].intercalate formats) = "m=audio".toList :: showNat port :: "RTP/SAVP".toList :: formats := by
  obtain ⟨format, formats, rfl⟩ := List.exists_cons_of_ne_nil hne
  have hport : showNat port ≠ [] ∧ ∀ c ∈ showNat port, isWhitespace c = false :=
    ⟨Nat.toDigits_ne_nil, fun c hc => isWhitespace_of_isAlphanum (by
      rw [Char.isAlphanum, Nat.isDigit_of_mem_toDigits (by decide) (by decide) hc, Bool.or_true])⟩
  have hwords : ∀ word ∈ "m=audio".toList :: showNat port :: "RTP/SAVP".toList :: format :: formats,
      word ≠ [] ∧ ∀ c ∈ word, isWhitespace c = false := by
    simp only [List.mem_cons]
    rintro word (rfl | rfl | rfl | hword)
    · exact ⟨by decide, by decide⟩
    · exact hport
    · exact ⟨by decide, by decide⟩
    · exact h word (List.mem_cons.mpr hword)
  have hjoined : "m=audio ".toList ++ showNat port ++ [' '] ++ "RTP/SAVP".toList ++ [' '] ++
      [' '].intercalate (format :: formats) =
      [' '].intercalate ("m=audio".toList :: showNat port :: "RTP/SAVP".toList :: format :: formats) := by
    rw [List.intercalate_cons_cons, List.intercalate_cons_cons, List.intercalate_cons_cons]
    simp only [List.append_assoc]
    rfl
  rw [hjoined, splitWhitespace_intercalate hwords]

theorem relayedLine_audio (relayAddr : Str) {line : Str} (h : IsAudioMedia line) :
    relayedLine relayAddr relayPort line = "m=audio ".toList ++ showNat relayPort.toNat ++ [' '] ++
      "RTP/SAVP".toList ++ [' '] ++ [' '].intercalate ((splitWhitespace line).drop 3) := by
  unfold relayedLine
  rw [if_neg (media_other (isMedia_of_isAudio h.1)).1, if_pos h]

/-- The fields of an audio line behind the rewriting. -/
theorem splitWhitespace_relayed (relayAddr : Str) {line : Str} (h : IsAudioMedia line) :
    splitWhitespace (relayedLine relayAddr relayPort line) =
      "m=audio".toList :: showNat relayPort.toNat :: "RTP/SAVP".toList :: (splitWhitespace line).drop 3 := by
  have hformats : (splitWhitespace line).drop 3 ≠ [] := by
    have := h.2
    rw [ne_eq, List.drop_eq_nil_iff]
    omega
  rw [relayedLine_audio relayAddr h, splitWhitespace_printed _ hformats fun word hword =>
    word_of_mem_splitWhitespace (List.mem_of_mem_drop hword)]

theorem relayedLine_of_other {line : Str} (hconnection : ¬ "c=".toList <+: line)
    (haudio : ¬ IsAudioMedia line) : relayedLine relayAddr relayPort line = line := by
  unfold relayedLine
  rw [if_neg hconnection, if_neg haudio]

/-- Two lines of the same kind. -/
structure SameKind (line line' : Str) : Prop where
  media : isMedia line' = isMedia line
  audio : isAudio line' = isAudio line
  complete : IsAudioMedia line' ↔ IsAudioMedia line
  crypto : isCryptoLine line' = isCryptoLine line
  strip : shouldStripForSdesSrtp line' = shouldStripForSdesSrtp line
  connection : "c=".toList <+: line' ↔ "c=".toList <+: line

/-- A line keeps its kind. -/
theorem sameKind_relayedLine (relayAddr : Str) (relayPort : UInt16) (line : Str) :
    SameKind line (relayedLine relayAddr relayPort line) := by
  by_cases hconnection : "c=".toList <+: line
  · have hprinted : "c=".toList <+: relayedLine relayAddr relayPort line := by
      unfold relayedLine
      rw [if_pos hconnection]
      have hpre : "c=".toList <+: "c=IN IP4 ".toList := by decide
      exact hpre.trans (List.prefix_append _ _)
    obtain ⟨hmedia, hcrypto, hstrip⟩ := connection_other hconnection
    obtain ⟨hmedia', hcrypto', hstrip'⟩ := connection_other hprinted
    exact ⟨hmedia'.trans hmedia.symm, (isAudio_eq_false hmedia').trans (isAudio_eq_false hmedia).symm,
      iff_of_false (not_isAudioMedia hmedia') (not_isAudioMedia hmedia), hcrypto'.trans hcrypto.symm,
      hstrip'.trans hstrip.symm, iff_of_true hprinted hconnection⟩
  by_cases haudio : IsAudioMedia line
  · have hprinted : IsAudioMedia (relayedLine relayAddr relayPort line) := by
      constructor
      · rw [relayedLine_audio relayAddr haudio]
        simp only [List.append_assoc]
        have hpre : "m=audio".toList <+: "m=audio ".toList := by decide
        exact decide_eq_true (hpre.trans (List.prefix_append _ _))
      · have := haudio.2
        rw [splitWhitespace_relayed relayAddr haudio]
        simp only [List.length_cons, List.length_drop]
        omega
    have hmedia := isMedia_of_isAudio haudio.1
    have hmedia' := isMedia_of_isAudio hprinted.1
    obtain ⟨hc, hcrypto, hstrip⟩ := media_other hmedia
    obtain ⟨hc', hcrypto', hstrip'⟩ := media_other hmedia'
    exact ⟨hmedia'.trans hmedia.symm, hprinted.1.trans haudio.1.symm, iff_of_true hprinted haudio,
      hcrypto'.trans hcrypto.symm, hstrip'.trans hstrip.symm, iff_of_false hc' hc⟩
  · rw [relayedLine_of_other hconnection haudio]
    exact ⟨rfl, rfl, Iff.rfl, rfl, rfl, Iff.rfl⟩

/-- A line that was rewritten stays as it is. -/
theorem relayedLine_relayedLine (relayAddr : Str) (relayPort : UInt16) (line : Str) :
    relayedLine relayAddr relayPort (relayedLine relayAddr relayPort line) =
      relayedLine relayAddr relayPort line := by
  have hkind := sameKind_relayedLine relayAddr relayPort line
  by_cases hc : "c=".toList <+: line
  · conv_lhs => rw [relayedLine, if_pos (hkind.connection.mpr hc)]
    rw [relayedLine, if_pos hc]
  by_cases ha : IsAudioMedia line
  · rw [relayedLine_audio relayAddr (hkind.complete.mpr ha), splitWhitespace_relayed relayAddr ha,
      relayedLine_audio relayAddr ha]
    rfl
  · exact relayedLine_of_other (mt hkind.connection.mp hc) (mt hkind.complete.mp ha)

/-! ## The loop -/

theorem rewriteSdpLine_media (hne : cryptos ≠ []) {line : Str} (h : isMedia line = true) (st : SdpState) :
    rewriteSdpLine relayAddr relayPort cryptos st line = ([relayedLine relayAddr relayPort line],
      { st with foundAudio := st.foundAudio || decide (IsAudioMedia line) }) := by
  obtain ⟨hconnection, hcrypto, hstrip⟩ := media_other h
  unfold rewriteSdpLine relayedLine
  rw [if_neg hconnection, if_neg hconnection]
  split
  · rename_i haudio
    dsimp only
    split
    · rename_i hfields
      have hcomplete : IsAudioMedia line := ⟨haudio, hfields⟩
      have hproto : (if cryptos.isEmpty then (splitWhitespace line).getD 2 [] else "RTP/SAVP".toList) =
          "RTP/SAVP".toList := if_neg (by simpa using hne)
      rw [hproto, if_pos hcomplete, decide_eq_true hcomplete, Bool.or_true]
    · rename_i hfields
      have hshort : ¬ IsAudioMedia line := fun hmedia => hfields hmedia.2
      rw [if_neg hshort, decide_eq_false hshort, Bool.or_false]
  · rename_i haudio
    have hother : ¬ IsAudioMedia line := fun hmedia => haudio hmedia.1
    unfold isCryptoLine at hcrypto
    rw [hcrypto, Bool.and_false, if_neg Bool.false_ne_true, hstrip, Bool.and_false,
      if_neg Bool.false_ne_true, if_neg hother, decide_eq_false hother, Bool.or_false]

theorem plainLines_cons (relayAddr : Str) (relayPort : UInt16) (line : Str) (ls : List Str) :
    plainLines relayAddr relayPort (line :: ls) =
      (if shouldStripForSdesSrtp line then [] else [relayedLine relayAddr relayPort line]) ++
        plainLines relayAddr relayPort ls := by
  unfold plainLines
  rw [List.filter_cons]
  cases shouldStripForSdesSrtp line <;> rfl

/-- A line that stays, or goes, but is no `crypto` line of an audio section. -/
theorem rewriteSdpLine_plain (hne : cryptos ≠ []) {line : Str} (h : isMedia line = false) {st : SdpState}
    (hplain : st.inAudio = true → isCryptoLine line = false) :
    rewriteSdpLine relayAddr relayPort cryptos st line = (plainLines relayAddr relayPort [line], st) := by
  have hcrypto : (st.inAudio && decide ("a=crypto".toList <+: line)) = false := by
    cases hin : st.inAudio with
    | false => rfl
    | true => exact hplain hin
  have hkeys : cryptos.isEmpty = false := by simpa using hne
  unfold rewriteSdpLine
  rw [isAudio_eq_false h, if_neg Bool.false_ne_true, hcrypto, if_neg Bool.false_ne_true, hkeys, Bool.not_false,
    Bool.true_and, plainLines_cons]
  by_cases hconnection : "c=".toList <+: line
  · rw [(connection_other hconnection).2.2, if_pos hconnection, relayedLine, if_pos hconnection]
    rfl
  · rw [if_neg hconnection, relayedLine_of_other hconnection (not_isAudioMedia h)]
    cases shouldStripForSdesSrtp line <;> rfl

theorem rewriteSdpLine_crypto {line : Str} (h : isCryptoLine line = true) {st : SdpState}
    (haudio : st.inAudio = true) : rewriteSdpLine relayAddr relayPort cryptos st line =
      if st.cryptoInserted then ([], st) else (cryptoLines cryptos, { st with cryptoInserted := true }) := by
  obtain ⟨hconnection, hmedia⟩ := crypto_other h
  unfold rewriteSdpLine
  unfold isCryptoLine at h
  rw [if_neg hconnection, isAudio_eq_false hmedia, if_neg Bool.false_ne_true, haudio, h, Bool.and_self, if_pos rfl]

/-! ## Sections -/

/-- Lines in front of the next section, without `crypto` lines of an audio section. -/
theorem rewriteSdpLines_plain (hne : cryptos ≠ []) (rest : List Str) {st : SdpState} : ∀ {body : List Str},
    (∀ line ∈ body, isMedia line = false) → (st.inAudio = true → ∀ line ∈ body, isCryptoLine line = false) →
    rewriteSdpLines relayAddr relayPort cryptos st (body ++ rest) =
      plainLines relayAddr relayPort body ++ rewriteSdpLines relayAddr relayPort cryptos st rest
  | [], _, _ => rfl
  | line :: body, hmedia, hplain => by
    have hmedia' : ∀ l ∈ body, isMedia l = false := fun l hl => hmedia l (List.mem_cons_of_mem _ hl)
    have ih := rewriteSdpLines_plain hne rest hmedia' fun hin l hl => hplain hin l (List.mem_cons_of_mem _ hl)
    have hline := hmedia line List.mem_cons_self
    rw [List.cons_append, rewriteSdpLines, enterSection, if_neg (by simp [hline])]
    dsimp only
    rw [rewriteSdpLine_plain hne hline fun hin => hplain hin line List.mem_cons_self]
    dsimp only
    rw [ih, plainLines_cons, plainLines_cons, List.nil_append, List.append_assoc, List.append_assoc]
    rfl

/-- Lines in front of the next section, where the keys were printed. -/
theorem rewriteSdpLines_inserted (hne : cryptos ≠ []) (rest : List Str) {st : SdpState}
    (haudio : st.inAudio = true) (hinserted : st.cryptoInserted = true) : ∀ {body : List Str},
    (∀ line ∈ body, isMedia line = false) →
    rewriteSdpLines relayAddr relayPort cryptos st (body ++ rest) =
      plainLines relayAddr relayPort (body.filter fun line => !isCryptoLine line) ++
        rewriteSdpLines relayAddr relayPort cryptos st rest
  | [], _ => rfl
  | line :: body, hmedia => by
    have hmedia' : ∀ l ∈ body, isMedia l = false := fun l hl => hmedia l (List.mem_cons_of_mem _ hl)
    have ih := rewriteSdpLines_inserted hne rest haudio hinserted hmedia'
    have hline := hmedia line List.mem_cons_self
    rw [List.cons_append, rewriteSdpLines, enterSection, if_neg (by simp [hline])]
    dsimp only
    by_cases hcrypto : isCryptoLine line = true
    · rw [rewriteSdpLine_crypto hcrypto haudio, if_pos hinserted, List.filter_cons_of_neg (by simp [hcrypto])]
      exact ih
    · rw [rewriteSdpLine_plain hne hline fun _ => by simpa using hcrypto,
        List.filter_cons_of_pos (by simp [hcrypto]), plainLines_cons]
      dsimp only
      rw [ih, plainLines_cons, List.nil_append, List.append_assoc, List.append_assoc]
      rfl

/-- The lines of an audio section up to its first `crypto` line, that line, and what is behind it. -/
theorem placedLines_eq (relayAddr : Str) (relayPort : UInt16) (cryptos : List SdpCrypto) (add : Bool)
    (body : List Str) :
    ((∀ line ∈ body, isCryptoLine line = false) ∧ placedLines relayAddr relayPort cryptos add body =
      plainLines relayAddr relayPort body ++ if add then cryptoLines cryptos else []) ∨
    ∃ front line behind, body = front ++ line :: behind ∧ (∀ l ∈ front, isCryptoLine l = false) ∧
      isCryptoLine line = true ∧ placedLines relayAddr relayPort cryptos add body =
        plainLines relayAddr relayPort front ++ (cryptoLines cryptos ++
          plainLines relayAddr relayPort (behind.filter fun l => !isCryptoLine l)) := by
  unfold placedLines
  cases hdrop : body.dropWhile fun line => !isCryptoLine line with
  | nil =>
    refine .inl ⟨fun line hline => ?_, rfl⟩
    simpa using List.dropWhile_eq_nil_iff.mp hdrop line hline
  | cons line behind =>
    refine .inr ⟨body.takeWhile fun line => !isCryptoLine line, line, behind, ?_, fun l hl => ?_, ?_, rfl⟩
    · rw [← hdrop, List.takeWhile_append_dropWhile]
    · simpa using List.mem_takeWhile_imp hl
    · have hhead := List.head?_dropWhile_not (fun line => !isCryptoLine line) body
      rw [hdrop] at hhead
      simpa using hhead

/-- **The loop from a section on**: the keys that the section before it lacks, and the sections. -/
theorem rewriteSdpLines_parts (hne : cryptos ≠ []) : ∀ {parts : List (Str × List Str)} (st : SdpState),
    (∀ part ∈ parts, isMedia part.1 = true ∧ ∀ line ∈ part.2, isMedia line = false) →
    rewriteSdpLines relayAddr relayPort cryptos st (joinSections parts) =
      (if st.inAudio && !st.cryptoInserted && (!parts.isEmpty || st.foundAudio) then cryptoLines cryptos else []) ++
        joinSections (rewriteParts relayAddr relayPort cryptos st.foundAudio parts)
  | [], st, _ => by
    change rewriteSdpLines relayAddr relayPort cryptos st [] = _ ++ []
    rw [rewriteSdpLines, List.append_nil]
    cases st.inAudio <;> cases st.foundAudio <;> cases st.cryptoInserted <;> rfl
  | (line, body) :: parts, st, h => by
    have hbehind : ∀ part ∈ parts, isMedia part.1 = true ∧ ∀ line ∈ part.2, isMedia line = false :=
      fun q hq => h q (List.mem_cons_of_mem _ hq)
    have ih := fun st => rewriteSdpLines_parts hne st hbehind
    obtain ⟨hline, hbody⟩ := h (line, body) List.mem_cons_self
    rw [joinSections_cons, rewriteSdpLines, enterSection, if_pos hline]
    dsimp only
    rw [rewriteSdpLine_media hne hline]
    dsimp only
    rw [rewriteParts, joinSections_cons, List.append_assoc, List.singleton_append]
    dsimp only
    have hprinted : rewriteSdpLines relayAddr relayPort cryptos
        { inAudio := isAudio line, foundAudio := st.foundAudio || decide (IsAudioMedia line),
          cryptoInserted := false } (body ++ joinSections parts) =
        (if isAudio line then placedLines relayAddr relayPort cryptos
            (!parts.isEmpty || (st.foundAudio || decide (IsAudioMedia line))) body
          else plainLines relayAddr relayPort body) ++
        joinSections (rewriteParts relayAddr relayPort cryptos
          (st.foundAudio || decide (IsAudioMedia line)) parts) := by
      generalize (st.foundAudio || decide (IsAudioMedia line)) = found
      cases haudio : isAudio line with
      | false =>
        rw [rewriteSdpLines_plain hne _ hbody fun hin => absurd hin Bool.false_ne_true, ih]
        rfl
      | true =>
        rw [if_pos rfl]
        rcases placedLines_eq relayAddr relayPort cryptos (!parts.isEmpty || found) body with
          ⟨hplain, he⟩ | ⟨front, crypto, behind, rfl, hfront, hcrypto, he⟩
        · rw [he, rewriteSdpLines_plain hne _ hbody fun _ => hplain, ih, List.append_assoc]
          rfl
        · -- the keys are printed in place of the first attribute
          rw [he, List.append_assoc, rewriteSdpLines_plain hne _
            (fun l hl => hbody l (List.mem_append_left _ hl)) fun _ => hfront, List.cons_append, rewriteSdpLines,
            enterSection, if_neg (by simp [hbody crypto (by simp)])]
          dsimp only
          rw [rewriteSdpLine_crypto hcrypto rfl, if_neg Bool.false_ne_true]
          dsimp only
          rw [rewriteSdpLines_inserted hne _ rfl rfl fun l hl => hbody l (by simp [hl]), ih]
          simp only [List.append_assoc, List.nil_append, Bool.not_true, Bool.and_false, Bool.false_and,
            Bool.false_eq_true, if_false]
    rw [hprinted, List.isEmpty_cons, Bool.not_false, Bool.true_or, Bool.and_true]
    rfl

/-- **What the loop prints**, section by section. -/
theorem rewriteSdpLines_eq (relayAddr : Str) (relayPort : UInt16) (hne : cryptos ≠ []) (ls : List Str) :
    rewriteSdpLines relayAddr relayPort cryptos {} ls =
      plainLines relayAddr relayPort (ls.takeWhile fun line => !isMedia line) ++
        joinSections (rewriteParts relayAddr relayPort cryptos false (sections isMedia ls)) := by
  conv_lhs => rw [← takeWhile_append_joinSections (p := isMedia) ls]
  rw [rewriteSdpLines_plain hne _ (fun line hline => eq_false_of_mem_takeWhile hline)
      fun hin => absurd hin Bool.false_ne_true,
    rewriteSdpLines_parts hne _ fun part hpart => of_mem_sections hpart]
  rfl

/-- A section of the text, with what is in front of it and behind it, and the section that is printed. -/
theorem mem_rewriteParts {printed : Str × List Str} : ∀ {found : Bool} {parts : List (Str × List Str)},
    printed ∈ rewriteParts relayAddr relayPort cryptos found parts ↔
      ∃ before part after, parts = before ++ part :: after ∧
        printed = rewritePart relayAddr relayPort cryptos
          (!after.isEmpty || (found || before.any fun q => decide (IsAudioMedia q.1)) ||
            decide (IsAudioMedia part.1)) part
  | found, [] => by simp [rewriteParts]
  | found, part :: parts => by
    rw [rewriteParts, List.mem_cons, mem_rewriteParts]
    constructor
    · rintro (rfl | ⟨before, q, after, rfl, rfl⟩)
      · refine ⟨[], part, parts, rfl, ?_⟩
        rw [List.any_nil, Bool.or_false, Bool.or_assoc]
      · refine ⟨part :: before, q, after, rfl, ?_⟩
        rw [List.any_cons, Bool.or_assoc found]
    · rintro ⟨before, q, after, he, rfl⟩
      cases before with
      | nil =>
        cases he
        rw [List.any_nil, Bool.or_false, Bool.or_assoc]
        exact .inl rfl
      | cons q' before =>
        cases he
        refine .inr ⟨before, q, after, rfl, ?_⟩
        rw [List.any_cons, Bool.or_assoc found]

/-! ## The sections that are printed -/

theorem isMedia_plainLines {ls : List Str} (h : ∀ line ∈ ls, isMedia line = false) :
    ∀ line ∈ plainLines relayAddr relayPort ls, isMedia line = false := by
  intro printed hprinted
  obtain ⟨line, hline, rfl⟩ := List.mem_map.mp hprinted
  rw [(sameKind_relayedLine relayAddr relayPort line).media]
  exact h line (List.mem_of_mem_filter hline)

theorem mem_plainLines {ls : List Str} {printed : Str} : printed ∈ plainLines relayAddr relayPort ls ↔
    ∃ line ∈ ls, shouldStripForSdesSrtp line = false ∧ relayedLine relayAddr relayPort line = printed := by
  simp only [plainLines, List.mem_map, List.mem_filter, Bool.not_eq_true', and_assoc]

theorem plainLines_subset {ls ls' : List Str} (h : ls ⊆ ls') :
    plainLines relayAddr relayPort ls ⊆ plainLines relayAddr relayPort ls' := by
  intro printed hprinted
  obtain ⟨line, hline, hrest⟩ := mem_plainLines.mp hprinted
  exact mem_plainLines.mpr ⟨line, h hline, hrest⟩

theorem strip_of_attribute {line : Str} (h : IsCryptoAttribute line) : shouldStripForSdesSrtp line = true :=
  List.any_eq_true.mpr ⟨"a=crypto:".toList, by decide, decide_eq_true h⟩

theorem attribute_of_start {line : Str} (h : "a=crypto:".toList <+: line) : IsCryptoAttribute line := by
  obtain ⟨rest, rfl⟩ := h
  have hname : toAsciiLowercase "a=crypto:".toList = "a=crypto:".toList := by decide
  unfold IsCryptoAttribute
  rw [trim_word_append (by decide) (by decide), toAsciiLowercase, List.map_append]
  exact hname ▸ List.prefix_append _ _

theorem attribute_cryptoLines {line : Str} (h : line ∈ cryptoLines cryptos) : IsCryptoAttribute line := by
  obtain ⟨c, -, rfl⟩ := List.mem_map.mp h
  refine attribute_of_start ?_
  unfold SdpCrypto.toLine
  simp only [List.append_assoc]
  exact List.prefix_append _ _

theorem not_attribute_plainLines {ls : List Str} {line : Str} (h : line ∈ plainLines relayAddr relayPort ls) :
    ¬ IsCryptoAttribute line := by
  obtain ⟨line, -, hstrip, rfl⟩ := mem_plainLines.mp h
  intro hattribute
  rw [← (sameKind_relayedLine relayAddr relayPort line).strip, strip_of_attribute hattribute] at hstrip
  cases hstrip

/-- The lines of a section that is printed are the keys, or lines of the section. -/
theorem mem_rewritePart {add : Bool} {part : Str × List Str} {printed : Str}
    (h : printed ∈ (rewritePart relayAddr relayPort cryptos add part).2) :
    printed ∈ cryptoLines cryptos ∨ printed ∈ plainLines relayAddr relayPort part.2 := by
  unfold rewritePart at h
  dsimp only at h
  split at h
  · rcases placedLines_eq relayAddr relayPort cryptos add part.2 with
      ⟨-, he⟩ | ⟨front, crypto, behind, hbody, -, -, he⟩
    · rw [he, List.mem_append] at h
      rcases h with h | h
      · exact .inr h
      · split at h
        · exact .inl h
        · cases h
    · rw [he, List.mem_append, List.mem_append] at h
      rw [hbody]
      rcases h with h | h | h
      · exact .inr (plainLines_subset (List.subset_append_left _ _) h)
      · exact .inl h
      · refine .inr (plainLines_subset (fun line hline => ?_) h)
        exact List.mem_append_right _ (List.mem_cons_of_mem _ (List.mem_of_mem_filter hline))
  · exact .inr h

theorem isMedia_rewritePart {add : Bool} {part : Str × List Str} (hline : isMedia part.1 = true)
    (hbody : ∀ line ∈ part.2, isMedia line = false) :
    isMedia (rewritePart relayAddr relayPort cryptos add part).1 = true ∧
      ∀ line ∈ (rewritePart relayAddr relayPort cryptos add part).2, isMedia line = false :=
  ⟨(sameKind_relayedLine relayAddr relayPort part.1).media.trans hline, fun line h =>
    (mem_rewritePart h).elim isMedia_cryptoLines (isMedia_plainLines hbody line)⟩

theorem isMedia_rewriteParts {found : Bool} {parts : List (Str × List Str)}
    (h : ∀ part ∈ parts, isMedia part.1 = true ∧ ∀ line ∈ part.2, isMedia line = false) :
    ∀ part ∈ rewriteParts relayAddr relayPort cryptos found parts,
      isMedia part.1 = true ∧ ∀ line ∈ part.2, isMedia line = false := by
  intro printed hprinted
  obtain ⟨before, part, after, rfl, rfl⟩ := mem_rewriteParts.mp hprinted
  obtain ⟨hline, hbody⟩ := h part (by simp)
  exact isMedia_rewritePart hline hbody

/-- **The sections that are printed** are those of the text, rewritten. -/
theorem sections_rewriteSdpLines (relayAddr : Str) (relayPort : UInt16) (hne : cryptos ≠ []) (ls : List Str) :
    sections isMedia (rewriteSdpLines relayAddr relayPort cryptos {} ls) =
      rewriteParts relayAddr relayPort cryptos false (sections isMedia ls) := by
  rw [rewriteSdpLines_eq relayAddr relayPort hne, sections_append _
    (isMedia_plainLines fun line hline => eq_false_of_mem_takeWhile hline)]
  exact sections_joinSections (isMedia_rewriteParts fun part hpart => of_mem_sections hpart)

/-- A section of the text as it is printed, and what is in front of it and behind it. -/
theorem exists_part (hne : cryptos ≠ []) {ls : List Str} {printed : Str × List Str}
    (h : printed ∈ sections isMedia (rewriteSdpLines relayAddr relayPort cryptos {} ls)) :
    ∃ before part after, sections isMedia ls = before ++ part :: after ∧
      (IsAudioMedia printed.1 ↔ IsAudioMedia part.1) ∧
      printed = rewritePart relayAddr relayPort cryptos
        (!after.isEmpty || (before.any fun q => decide (IsAudioMedia q.1)) || decide (IsAudioMedia part.1)) part := by
  rw [sections_rewriteSdpLines relayAddr relayPort hne] at h
  obtain ⟨before, part, after, hparts, rfl⟩ := mem_rewriteParts.mp h
  refine ⟨before, part, after, hparts, (sameKind_relayedLine relayAddr relayPort part.1).complete, ?_⟩
  rw [Bool.false_or]

/-- What is printed in front of them. -/
theorem takeWhile_rewriteSdpLines (relayAddr : Str) (relayPort : UInt16) (hne : cryptos ≠ []) (ls : List Str) :
    (rewriteSdpLines relayAddr relayPort cryptos {} ls).takeWhile (fun line => !isMedia line) =
      plainLines relayAddr relayPort (ls.takeWhile fun line => !isMedia line) := by
  rw [rewriteSdpLines_eq relayAddr relayPort hne, takeWhile_section _
    (isMedia_plainLines fun line hline => eq_false_of_mem_takeWhile hline),
    takeWhile_joinSections fun part hpart =>
      (isMedia_rewriteParts (fun part hpart => of_mem_sections hpart) part hpart).1, List.append_nil]

/-- **Every printed line** is a key, or a line of the text. -/
theorem mem_rewriteSdpLines (hne : cryptos ≠ []) {ls : List Str} {printed : Str}
    (h : printed ∈ rewriteSdpLines relayAddr relayPort cryptos {} ls) :
    printed ∈ cryptoLines cryptos ∨ printed ∈ plainLines relayAddr relayPort ls := by
  rw [rewriteSdpLines_eq relayAddr relayPort hne, List.mem_append] at h
  rcases h with h | h
  · exact .inr (plainLines_subset (List.takeWhile_subset _) h)
  · obtain ⟨printedPart, hpart, hprinted⟩ := List.mem_flatMap.mp h
    obtain ⟨before, part, after, hparts, rfl⟩ := mem_rewriteParts.mp hpart
    have hmem : part ∈ sections isMedia ls := by simp [hparts]
    rcases List.mem_cons.mp hprinted with rfl | hprinted
    · exact .inr (mem_plainLines.mpr ⟨part.1, mem_of_mem_sections hmem,
        (media_other (of_mem_sections hmem).1).2.2, rfl⟩)
    · exact (mem_rewritePart hprinted).imp_right fun h =>
        plainLines_subset (sublist_of_mem_sections hmem).subset h

/-! ## Rewriting again -/

theorem isCryptoLine_cryptoLines {line : Str} (h : line ∈ cryptoLines cryptos) : isCryptoLine line = true := by
  obtain ⟨c, -, rfl⟩ := List.mem_map.mp h
  unfold SdpCrypto.toLine
  simp only [List.append_assoc]
  have hpre : "a=crypto".toList <+: "a=crypto:".toList := by decide
  exact decide_eq_true (hpre.trans (List.prefix_append _ _))

theorem plainLines_plainLines (relayAddr : Str) (relayPort : UInt16) (ls : List Str) :
    plainLines relayAddr relayPort (plainLines relayAddr relayPort ls) = plainLines relayAddr relayPort ls := by
  have hstays : (plainLines relayAddr relayPort ls).filter (fun line => !shouldStripForSdesSrtp line) =
      plainLines relayAddr relayPort ls := by
    rw [List.filter_eq_self]
    intro printed hprinted
    obtain ⟨line, -, hstrip, rfl⟩ := mem_plainLines.mp hprinted
    rw [(sameKind_relayedLine relayAddr relayPort line).strip, hstrip]
    rfl
  conv_lhs => rw [plainLines, hstays]
  rw [plainLines, List.map_map]
  exact List.map_congr_left fun line _ => relayedLine_relayedLine relayAddr relayPort line

theorem isCryptoLine_plainLines {ls : List Str} (h : ∀ line ∈ ls, isCryptoLine line = false) :
    ∀ line ∈ plainLines relayAddr relayPort ls, isCryptoLine line = false := by
  intro printed hprinted
  obtain ⟨line, hline, -, rfl⟩ := mem_plainLines.mp hprinted
  rw [(sameKind_relayedLine relayAddr relayPort line).crypto]
  exact h line hline

/-- A section without `crypto` lines. -/
theorem placedLines_of_not {add : Bool} {body : List Str} (h : ∀ line ∈ body, isCryptoLine line = false) :
    placedLines relayAddr relayPort cryptos add body =
      plainLines relayAddr relayPort body ++ if add then cryptoLines cryptos else [] := by
  have hnil : body.dropWhile (fun line => !isCryptoLine line) = [] :=
    List.dropWhile_eq_nil_iff.mpr fun line hline => by rw [h line hline]; rfl
  unfold placedLines
  rw [hnil]

/-- A section with one. -/
theorem placedLines_cons {add : Bool} {front : List Str} (h : ∀ line ∈ front, isCryptoLine line = false)
    {crypto : Str} (hcrypto : isCryptoLine crypto = true) (behind : List Str) :
    placedLines relayAddr relayPort cryptos add (front ++ crypto :: behind) =
      plainLines relayAddr relayPort front ++
        (cryptoLines cryptos ++ plainLines relayAddr relayPort (behind.filter fun line => !isCryptoLine line)) := by
  have hfront : ∀ line ∈ front, (!isCryptoLine line) = true := fun line hline => by rw [h line hline]; rfl
  have hstop : ¬ (fun line => !isCryptoLine line) crypto = true := by simp [hcrypto]
  have hdrop : (front ++ crypto :: behind).dropWhile (fun line => !isCryptoLine line) = crypto :: behind := by
    rw [List.dropWhile_append_of_pos hfront]
    exact List.dropWhile_cons_of_neg hstop
  have htake : (front ++ crypto :: behind).takeWhile (fun line => !isCryptoLine line) = front := by
    rw [List.takeWhile_append_of_pos hfront]
    exact (congrArg (front ++ ·) (List.takeWhile_cons_of_neg hstop)).trans (List.append_nil front)
  unfold placedLines
  rw [hdrop, htake]

/-- A section where the keys were placed. -/
theorem placedLines_again {add : Bool} (hne : cryptos ≠ []) {front : List Str}
    (h : ∀ line ∈ front, isCryptoLine line = false) (behind : List Str) :
    placedLines relayAddr relayPort cryptos add (front ++ (cryptoLines cryptos ++ behind)) =
      plainLines relayAddr relayPort front ++
        (cryptoLines cryptos ++ plainLines relayAddr relayPort (behind.filter fun line => !isCryptoLine line)) := by
  obtain ⟨c, cs, rfl⟩ := List.exists_cons_of_ne_nil hne
  have hkeys : (cryptoLines cs).filter (fun line => !isCryptoLine line) = [] :=
    List.filter_eq_nil_iff.mpr fun line hline => by simp [isCryptoLine_cryptoLines hline]
  have hfirst : cryptoLines (c :: cs) = c.toLine :: cryptoLines cs := rfl
  have hc : isCryptoLine c.toLine = true :=
    isCryptoLine_cryptoLines (show c.toLine ∈ cryptoLines (c :: cs) from List.mem_cons_self)
  conv_lhs => rw [hfirst, List.cons_append, placedLines_cons h hc, List.filter_append, hkeys, List.nil_append]

theorem placedLines_placedLines (hne : cryptos ≠ []) (add : Bool) (body : List Str) :
    placedLines relayAddr relayPort cryptos add (placedLines relayAddr relayPort cryptos add body) =
      placedLines relayAddr relayPort cryptos add body := by
  rcases placedLines_eq relayAddr relayPort cryptos add body with
    ⟨hplain, he⟩ | ⟨front, crypto, behind, -, hfront, -, he⟩
  · have hprinted : ∀ line ∈ plainLines relayAddr relayPort body, isCryptoLine line = false :=
      isCryptoLine_plainLines hplain
    rw [he]
    cases add with
    | false => rw [if_neg Bool.false_ne_true, List.append_nil, placedLines_of_not hprinted,
        plainLines_plainLines, if_neg Bool.false_ne_true, List.append_nil]
    | true =>
      have hagain : placedLines relayAddr relayPort cryptos true (_ ++ (cryptoLines cryptos ++ [])) = _ :=
        placedLines_again hne hprinted []
      rw [List.append_nil] at hagain
      rw [if_pos rfl, hagain, plainLines_plainLines]
      exact congrArg _ (List.append_nil _)
  · have hbehind : ∀ line ∈ plainLines relayAddr relayPort (behind.filter fun line => !isCryptoLine line),
        isCryptoLine line = false :=
      isCryptoLine_plainLines fun line hline => by simpa using (List.mem_filter.mp hline).2
    have hkept : (plainLines relayAddr relayPort (behind.filter fun line => !isCryptoLine line)).filter
        (fun line => !isCryptoLine line) =
        plainLines relayAddr relayPort (behind.filter fun line => !isCryptoLine line) :=
      List.filter_eq_self.mpr fun line hline => by rw [hbehind line hline]; rfl
    rw [he, placedLines_again hne (isCryptoLine_plainLines hfront), hkept, plainLines_plainLines,
      plainLines_plainLines]

theorem rewritePart_rewritePart (hne : cryptos ≠ []) (add : Bool) (part : Str × List Str) :
    rewritePart relayAddr relayPort cryptos add (rewritePart relayAddr relayPort cryptos add part) =
      rewritePart relayAddr relayPort cryptos add part := by
  have hkind := sameKind_relayedLine relayAddr relayPort part.1
  unfold rewritePart
  dsimp only
  rw [relayedLine_relayedLine, hkind.audio]
  cases isAudio part.1 with
  | false => rw [if_neg Bool.false_ne_true, if_neg Bool.false_ne_true, plainLines_plainLines]
  | true => rw [if_pos rfl, if_pos rfl, placedLines_placedLines hne]

theorem rewriteParts_rewriteParts (hne : cryptos ≠ []) : ∀ (found : Bool) (parts : List (Str × List Str)),
    rewriteParts relayAddr relayPort cryptos found (rewriteParts relayAddr relayPort cryptos found parts) =
      rewriteParts relayAddr relayPort cryptos found parts
  | _, [] => rfl
  | found, part :: parts => by
    have ih := rewriteParts_rewriteParts hne (found || decide (IsAudioMedia part.1)) parts
    have hempty : ∀ found, (rewriteParts relayAddr relayPort cryptos found parts).isEmpty = parts.isEmpty := by
      intro found
      cases parts <;> rfl
    have hcomplete : ∀ add, decide (IsAudioMedia (rewritePart relayAddr relayPort cryptos add part).1) =
        decide (IsAudioMedia part.1) := fun _ =>
      decide_eq_decide.mpr (sameKind_relayedLine relayAddr relayPort part.1).complete
    conv_lhs => rw [rewriteParts, rewriteParts]
    rw [hcomplete, hempty, rewritePart_rewritePart hne, ih]
    rfl

/-- **Lines that were rewritten stay as they are.** -/
theorem rewriteSdpLines_idem (relayAddr : Str) (relayPort : UInt16) (hne : cryptos ≠ []) (ls : List Str) :
    rewriteSdpLines relayAddr relayPort cryptos {} (rewriteSdpLines relayAddr relayPort cryptos {} ls) =
      rewriteSdpLines relayAddr relayPort cryptos {} ls := by
  rw [rewriteSdpLines_eq relayAddr relayPort hne (rewriteSdpLines _ _ _ _ _),
    takeWhile_rewriteSdpLines relayAddr relayPort hne, sections_rewriteSdpLines relayAddr relayPort hne,
    plainLines_plainLines, rewriteParts_rewriteParts hne, ← rewriteSdpLines_eq relayAddr relayPort hne]

/-! ## The text -/

theorem lf_not_mem_relayedLine (hrelay : '\n' ∉ relayAddr) (relayPort : UInt16) {line : Str} (h : '\n' ∉ line) :
    '\n' ∉ relayedLine relayAddr relayPort line := by
  unfold relayedLine
  split
  · rw [List.mem_append, not_or]
    exact ⟨by decide, hrelay⟩
  split
  · have hformats : '\n' ∉ [' '].intercalate ((splitWhitespace line).drop 3) := fun hc => by
      rcases mem_intercalate hc with hc | ⟨word, hw, hc⟩
      · exact absurd hc (by decide)
      · exact h (mem_of_mem_splitWhitespace (List.mem_of_mem_drop hw) hc)
    have hport : '\n' ∉ showNat relayPort.toNat := lf_not_mem_toDigits (by decide) (by decide) _
    simp only [List.mem_append, not_or]
    exact ⟨⟨⟨⟨⟨by decide, hport⟩, by decide⟩, by decide⟩, by decide⟩, hformats⟩
  · exact h

theorem lf_not_mem_cryptoLines (h : ∀ c ∈ cryptos, '\n' ∉ c.suite ∧ '\n' ∉ c.keyB64) :
    ∀ line ∈ cryptoLines cryptos, '\n' ∉ line := by
  intro line hline
  obtain ⟨c, hc, rfl⟩ := List.mem_map.mp hline
  have hnat : '\n' ∉ showNat c.tag := lf_not_mem_toDigits (by decide) (by decide) c.tag
  obtain ⟨hsuite, hkey⟩ := h c hc
  unfold SdpCrypto.toLine
  simp only [List.mem_append, not_or]
  exact ⟨⟨⟨⟨⟨by decide, hnat⟩, by decide⟩, hsuite⟩, by decide⟩, hkey⟩

theorem lf_not_mem_rewriteSdpLines (hne : cryptos ≠ []) (hrelay : '\n' ∉ relayAddr)
    (hcryptos : ∀ line ∈ cryptoLines cryptos, '\n' ∉ line) {ls : List Str} (h : ∀ line ∈ ls, '\n' ∉ line) :
    ∀ line ∈ rewriteSdpLines relayAddr relayPort cryptos {} ls, '\n' ∉ line := by
  intro printed hprinted
  rcases mem_rewriteSdpLines hne hprinted with hprinted | hprinted
  · exact hcryptos printed hprinted
  · obtain ⟨line, hline, -, rfl⟩ := mem_plainLines.mp hprinted
    exact lf_not_mem_relayedLine hrelay relayPort (h line hline)

/-- Where a line is left, it is printed. -/
theorem printed_of_some (relayAddr : Str) (relayPort : UInt16) (hne : cryptos ≠ []) {sdp : Str}
    (h : ∃ line ∈ lines sdp, shouldStripForSdesSrtp line = false) :
    rewriteSdpLines relayAddr relayPort cryptos {} (lines sdp) ≠ [] := by
  obtain ⟨line, hline, hstrip⟩ := h
  rw [rewriteSdpLines_eq relayAddr relayPort hne]
  intro hnil
  rw [List.append_eq_nil_iff] at hnil
  have hparts : sections isMedia (lines sdp) = [] := by
    cases hsections : sections isMedia (lines sdp) with
    | nil => rfl
    | cons part parts =>
      rw [hsections, rewriteParts, joinSections_cons] at hnil
      cases hnil.2
  have hfront := takeWhile_append_joinSections (p := isMedia) (lines sdp)
  rw [hparts, joinSections, List.flatMap_nil, List.append_nil] at hfront
  rw [hfront] at hnil
  have hmem : relayedLine relayAddr relayPort line ∈ plainLines relayAddr relayPort (lines sdp) :=
    mem_plainLines.mpr ⟨line, hline, hstrip, rfl⟩
  rw [hnil.1] at hmem
  cases hmem

/-- **The printed lines are read back**, if there is one. -/
theorem lines_rewriteSdp (hne : cryptos ≠ []) (hrelay : '\n' ∉ relayAddr)
    (hcryptos : ∀ line ∈ cryptoLines cryptos, '\n' ∉ line) {sdp : Str}
    (hlines : rewriteSdpLines relayAddr relayPort cryptos {} (lines sdp) ≠ []) :
    lines (rewriteSdpWithCryptos relayAddr relayPort cryptos sdp) =
      rewriteSdpLines relayAddr relayPort cryptos {} (lines sdp) :=
  lines_intercalate_crlf hlines
    (lf_not_mem_rewriteSdpLines hne hrelay hcryptos fun _ hline => not_mem_of_mem_lines hline)

end Minghe.Sip
