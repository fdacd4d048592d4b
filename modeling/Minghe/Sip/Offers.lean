import Minghe.Sip.Rewriting

/-!
# The keys that a description offers

What `extract_srtp_crypto_from_sdp` finds in an SDP that was rewritten: the keys that
`rewrite_sdp_with_cryptos` placed in the audio sections.

* `HasAudio`, `NoBareCrypto`: what is asked of the SDP that is rewritten. A line `crypto:…` without `a=`
  is read like an attribute, but not taken away.
* `Offers`: every audio section of an SDP offers some keys, and nothing else is offered.
* `offers_rewrite`: what the rewritten description offers.
* `extract_of_only`: what is chosen where nothing else is offered.
-/

namespace Minghe.Sip

open Minghe.Lib
open Minghe.Media.Srtp (Base64 SrtpSuite SuiteKeys parseCryptoAttribute parseCryptoAttribute_line)

/-- The SDP has a `m=audio` line with four fields or more. -/
def HasAudio (sdp : Str) : Prop := ∃ line ∈ lines sdp, IsAudioMedia line

/-- No line of the SDP begins with `crypto:`, in letters of either case. -/
def NoBareCrypto (sdp : Str) : Prop :=
  ∀ line ∈ lines sdp, ¬ "crypto:".toList <+: toAsciiLowercase (trim line)

section

variable (B : Base64)

/-- The tags and keys of the usable `crypto` lines. -/
def usableCryptos (ls : List Str) : List (Nat × SuiteKeys) := ls.filterMap (readCryptoLine B)

/-- How keys are offered. -/
def offered (keys : List (Nat × SuiteKeys)) : List SdpCrypto :=
  keys.map fun (tag, crypto) => ⟨tag, crypto.suite.sdpName, crypto.toSdesKey B⟩

/-- The audio sections of the SDP, of which there is one, offer these keys, and nothing else is offered. -/
structure Offers (keys : List (Nat × SuiteKeys)) (sdp : Str) : Prop where
  audio : ∃ part ∈ sections isMedia (lines sdp), IsAudioMedia part.1
  all : ∀ part ∈ sections isMedia (lines sdp), IsAudioMedia part.1 → usableCryptos B part.2 = keys
  only : ∀ offer ∈ usableCryptos B (lines sdp), offer ∈ keys

end

variable {B : Base64}

/-! ## Lines without a key -/

/-- A line that is no `crypto` attribute gives no keys. -/
theorem readCryptoLine_eq_none (B : Base64) {line : Str}
    (hattribute : ¬ "a=crypto:".toList <+: toAsciiLowercase (trim line))
    (hbare : ¬ "crypto:".toList <+: toAsciiLowercase (trim line)) : readCryptoLine B line = none := by
  have hcontent : ¬ "crypto:".toList <+: if "a=".toList <+: trim line then (trim line).drop 2 else trim line := by
    split
    · rename_i ha
      obtain ⟨content, hline⟩ := ha
      rw [← hline] at hattribute ⊢
      intro h
      exact hattribute (((List.prefix_append_right_inj "a=".toList).mpr h).map Char.toLower)
    · exact fun h => hbare (h.map Char.toLower)
  have hparse : parseCryptoAttribute (trim line) = none := by
    unfold parseCryptoAttribute
    rw [trim_trim]
    exact if_neg hcontent
  unfold readCryptoLine
  dsimp only
  split
  · rw [hparse]
    rfl
  · rfl

/-- Nor does a line with another beginning. -/
theorem readCryptoLine_of_word (B : Base64) {word : Str} (hne : word ≠ [])
    (h : ∀ c ∈ word, isWhitespace c = false)
    (hother : ∀ p ∈ ["a=crypto:".toList, "crypto:".toList], ¬ p <+: toAsciiLowercase word ∧
      ¬ toAsciiLowercase word <+: p) (rest : Str) : readCryptoLine B (word ++ rest) = none := by
  have hnot := fun p hp => not_prefix_lower_trim hne h (hother p hp) rest
  exact readCryptoLine_eq_none B (hnot _ (by simp)) (hnot _ (by simp))

theorem readCryptoLine_media (B : Base64) {line : Str} (h : isMedia line = true) :
    readCryptoLine B line = none := by
  obtain ⟨rest, rfl⟩ := of_decide_eq_true h
  exact readCryptoLine_of_word B (by decide) (by decide) (by decide) rest

/-! ## Printed lines -/

/-- **A key that is offered is usable.** -/
theorem readCryptoLine_toLine (hB : B.Laws) {tag : Nat} (htag : tag < 2 ^ 32) {crypto : SuiteKeys}
    (hcrypto : crypto.Padded) :
    readCryptoLine B (SdpCrypto.toLine ⟨tag, crypto.suite.sdpName, crypto.toSdesKey B⟩) =
      some (tag, crypto) := by
  have hne : crypto.toSdesKey B ≠ [] := by
    intro he
    have hlen := hB.length_encode crypto.bytes
    have hbytes := crypto.length_bytes
    rw [show B.encode crypto.bytes = [] from he, List.length_nil] at hlen
    omega
  have hsuite : ' ' ∉ crypto.suite.sdpName := by cases crypto.suite <;> decide
  have hparse := parseCryptoAttribute_line htag hsuite
    (fun c hc => hB.encode_char (show c ∈ B.encode crypto.bytes from hc)) hne
  have htrim : parseCryptoAttribute (trim (SdpCrypto.toLine
      ⟨tag, crypto.suite.sdpName, crypto.toSdesKey B⟩)) =
      some (tag, crypto.suite.sdpName, crypto.toSdesKey B) := by
    refine Eq.trans ?_ hparse
    unfold parseCryptoAttribute
    rw [trim_trim]
    rfl
  have hlower : "a=crypto".toList <+: toAsciiLowercase (trim (SdpCrypto.toLine
      ⟨tag, crypto.suite.sdpName, crypto.toSdesKey B⟩)) := by
    unfold SdpCrypto.toLine
    simp only [List.append_assoc]
    rw [trim_word_append (by decide) (by decide)]
    exact ⟨_, rfl⟩
  unfold readCryptoLine
  dsimp only
  rw [if_pos (.inl hlower), htrim]
  simp only [Option.bind_some, SrtpSuite.fromSdpName_sdpName, SuiteKeys.fromSdes_toSdesKey hB hcrypto,
    Option.map_some]

theorem usable_offered (hB : B.Laws) {keys : List (Nat × SuiteKeys)}
    (h : ∀ offer ∈ keys, offer.1 < 2 ^ 32 ∧ offer.2.Padded) :
    usableCryptos B (cryptoLines (offered B keys)) = keys := by
  induction keys with
  | nil => rfl
  | cons offer keys ih =>
    have hoffer := h offer List.mem_cons_self
    have ih := ih fun o ho => h o (List.mem_cons_of_mem _ ho)
    exact (List.filterMap_cons_some (readCryptoLine_toLine hB hoffer.1 hoffer.2)).trans (congrArg _ ih)

/-! ## The text -/

theorem usableCryptos_append (B : Base64) (ls ls' : List Str) :
    usableCryptos B (ls ++ ls') = usableCryptos B ls ++ usableCryptos B ls' := List.filterMap_append

section

variable {relayAddr : Str} {relayPort : UInt16} {cryptos : List SdpCrypto}

/-- Lines that stay give no keys. -/
theorem readCryptoLine_plainLines (B : Base64) {ls : List Str}
    (hbare : ∀ line ∈ ls, ¬ "crypto:".toList <+: toAsciiLowercase (trim line)) :
    ∀ line ∈ plainLines relayAddr relayPort ls, readCryptoLine B line = none := by
  intro printed hprinted
  obtain ⟨line, hline, hstrip, rfl⟩ := mem_plainLines.mp hprinted
  by_cases hconnection : "c=".toList <+: line
  · have hword : readCryptoLine B ("c=".toList ++ ("IN IP4 ".toList ++ relayAddr)) = none :=
      readCryptoLine_of_word B (by decide) (by decide) (by decide) _
    rw [relayedLine, if_pos hconnection]
    exact hword
  by_cases haudio : IsAudioMedia line
  · refine readCryptoLine_media B ((sameKind_relayedLine relayAddr relayPort line).media.trans ?_)
    exact isMedia_of_isAudio haudio.1
  · rw [relayedLine_of_other hconnection haudio]
    exact readCryptoLine_eq_none B (not_attribute_plainLines (relayedLine_of_other hconnection haudio ▸ hprinted))
      (hbare line hline)

theorem usable_plainLines (B : Base64) {ls : List Str}
    (hbare : ∀ line ∈ ls, ¬ "crypto:".toList <+: toAsciiLowercase (trim line)) :
    usableCryptos B (plainLines relayAddr relayPort ls) = [] :=
  List.filterMap_eq_nil_iff.mpr (readCryptoLine_plainLines B hbare)

/-- A complete audio section offers the keys, and nothing else. -/
theorem usable_rewritePart (B : Base64) {part : Str × List Str} (haudio : isAudio part.1 = true)
    (hbare : ∀ line ∈ part.2, ¬ "crypto:".toList <+: toAsciiLowercase (trim line)) :
    usableCryptos B (rewritePart relayAddr relayPort cryptos true part).2 =
      usableCryptos B (cryptoLines cryptos) := by
  unfold rewritePart
  dsimp only
  rw [if_pos haudio]
  rcases placedLines_eq relayAddr relayPort cryptos true part.2 with
    ⟨-, he⟩ | ⟨front, crypto, behind, hbody, -, -, he⟩
  · rw [he, if_pos rfl, usableCryptos_append, usable_plainLines B hbare, List.nil_append]
  · rw [hbody] at hbare
    have hfront : usableCryptos B (plainLines relayAddr relayPort front) = [] :=
      usable_plainLines B fun line hline => hbare line (List.mem_append_left _ hline)
    have hbehind : usableCryptos B (plainLines relayAddr relayPort
        (behind.filter fun line => !isCryptoLine line)) = [] :=
      usable_plainLines B fun line hline => hbare line
        (List.mem_append_right _ (List.mem_cons_of_mem _ (List.mem_of_mem_filter hline)))
    rw [he, usableCryptos_append, usableCryptos_append, hfront, hbehind, List.nil_append, List.append_nil]

end

/-- **What the rewritten SDP offers.** -/
theorem offers_rewrite (hB : B.Laws) {relayAddr : Str} (hrelay : '\n' ∉ relayAddr) (relayPort : UInt16)
    {keys : List (Nat × SuiteKeys)} (hne : keys ≠ [])
    (hkeys : ∀ offer ∈ keys, offer.1 < 2 ^ 32 ∧ offer.2.Padded) {sdp : Str} (haudio : HasAudio sdp)
    (hbare : NoBareCrypto sdp) :
    ∃ ls, ls ≠ [] ∧ (∀ line ∈ ls, '\n' ∉ line) ∧
      rewriteSdpWithCryptos relayAddr relayPort (offered B keys) sdp = crlf.intercalate ls ++ crlf ∧
      Offers B keys (rewriteSdpWithCryptos relayAddr relayPort (offered B keys) sdp) := by
  have hcryptos : offered B keys ≠ [] := by simpa [offered] using hne
  have hprinted : ∀ line ∈ cryptoLines (offered B keys), '\n' ∉ line := by
    refine lf_not_mem_cryptoLines fun c hc => ?_
    obtain ⟨⟨tag, crypto⟩, -, rfl⟩ := List.mem_map.mp hc
    have hsuite : '\n' ∉ crypto.suite.sdpName := by cases crypto.suite <;> decide
    exact ⟨hsuite, fun hlf => absurd (hB.encode_char hlf).1 (by decide)⟩
  obtain ⟨line, hline, hmedia⟩ := haudio
  have hsome := printed_of_some relayAddr relayPort hcryptos ⟨line, hline, (media_other
    (isMedia_of_isAudio hmedia.1)).2.2⟩
  have hlines := lines_rewriteSdp hcryptos hrelay hprinted hsome
  refine ⟨_, hsome, lf_not_mem_rewriteSdpLines hcryptos hrelay hprinted fun _ hl => not_mem_of_mem_lines hl, rfl, ?_⟩
  constructor
  · obtain ⟨part, hpart, rfl⟩ := exists_section (isMedia_of_isAudio hmedia.1) hline
    obtain ⟨before, after, hparts⟩ := List.append_of_mem hpart
    rw [hlines, sections_rewriteSdpLines relayAddr relayPort hcryptos]
    exact ⟨_, mem_rewriteParts.mpr ⟨before, part, after, hparts, rfl⟩,
      (sameKind_relayedLine relayAddr relayPort part.1).complete.mpr hmedia⟩
  · rw [hlines]
    intro printed hpart hcomplete
    obtain ⟨before, part, after, hparts, hkind, rfl⟩ := exists_part hcryptos hpart
    have hmem : part ∈ sections isMedia (lines sdp) := by simp [hparts]
    rw [decide_eq_true (hkind.mp hcomplete), Bool.or_true, usable_rewritePart B (hkind.mp hcomplete).1
      fun line hline => hbare line ((sublist_of_mem_sections hmem).subset hline)]
    exact usable_offered hB hkeys
  · rw [hlines]
    intro offer hoffer
    obtain ⟨printed, hmem, hread⟩ := List.mem_filterMap.mp hoffer
    rcases mem_rewriteSdpLines hcryptos hmem with hmem | hmem
    · rw [← usable_offered hB hkeys]
      exact List.mem_filterMap.mpr ⟨printed, hmem, hread⟩
    · rw [readCryptoLine_plainLines B hbare printed hmem] at hread
      cases hread

/-! ## What is chosen -/

theorem srtpCryptoFromLines_some {offer : Nat × SuiteKeys} : ∀ {ls : List Str}
    {fallback : Option (Nat × SuiteKeys)}, srtpCryptoFromLines B fallback ls = some offer →
    offer ∈ usableCryptos B ls ∨ fallback = some offer
  | [], _, h => .inr h
  | line :: ls, fallback, h => by
    rw [srtpCryptoFromLines] at h
    unfold usableCryptos
    cases hread : readCryptoLine B line with
    | none =>
      rw [hread] at h
      rw [List.filterMap_cons_none hread]
      exact srtpCryptoFromLines_some h
    | some read =>
      rw [hread] at h
      rw [List.filterMap_cons_some hread]
      dsimp only at h
      split at h
      · cases h
        exact .inl List.mem_cons_self
      · rcases srtpCryptoFromLines_some h with hmem | hfallback
        · exact .inl (List.mem_cons_of_mem _ hmem)
        · cases fallback with
          | none =>
            cases hfallback
            exact .inl List.mem_cons_self
          | some _ => exact .inr hfallback

theorem srtpCryptoFromLines_isSome : ∀ {ls : List Str} {fallback : Option (Nat × SuiteKeys)},
    fallback.isSome = true ∨ usableCryptos B ls ≠ [] → (srtpCryptoFromLines B fallback ls).isSome = true
  | [], _, h => h.elim id fun h => absurd rfl h
  | line :: ls, fallback, h => by
    rw [srtpCryptoFromLines]
    unfold usableCryptos at h
    cases hread : readCryptoLine B line with
    | none =>
      rw [List.filterMap_cons_none hread] at h
      exact srtpCryptoFromLines_isSome h
    | some read =>
      dsimp only
      split
      · rfl
      · exact srtpCryptoFromLines_isSome (.inl (by cases fallback <;> rfl))

/-- The keys that are chosen are those of a line. -/
theorem mem_of_extract {sdp : Str} {offer : Nat × SuiteKeys} (h : extractSrtpCryptoFromSdp B sdp = some offer) :
    offer ∈ usableCryptos B (lines sdp) :=
  (srtpCryptoFromLines_some h).resolve_right nofun

/-- **What is chosen where nothing else is offered.** -/
theorem extract_of_only {sdp : Str} {offer : Nat × SuiteKeys} (hne : usableCryptos B (lines sdp) ≠ [])
    (honly : ∀ offer' ∈ usableCryptos B (lines sdp), offer' = offer) :
    extractSrtpCryptoFromSdp B sdp = some offer := by
  obtain ⟨offer', h⟩ := Option.isSome_iff_exists.mp (srtpCryptoFromLines_isSome (.inr hne))
  rw [← honly offer' (mem_of_extract h)]
  exact h

theorem Offers.ne_nil {keys : List (Nat × SuiteKeys)} {sdp : Str} (h : Offers B keys sdp) (hne : keys ≠ []) :
    usableCryptos B (lines sdp) ≠ [] := by
  obtain ⟨part, hpart, haudio⟩ := h.audio
  intro hnil
  have hsub := (sublist_of_mem_sections hpart).filterMap (readCryptoLine B)
  rw [show (lines sdp).filterMap (readCryptoLine B) = [] from hnil, List.sublist_nil] at hsub
  exact hne ((h.all part hpart haudio).symm.trans hsub)

end Minghe.Sip
