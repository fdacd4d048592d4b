import Minghe.Sip.Agreement
import Minghe.Sip.AudioAddr
import Minghe.Sip.SdpLaw

/-!
# The address that a rewritten description names

`rewrite_sdp_with_cryptos` puts the address of the relay into every `c=` line, and its port into every audio
line. What reads the printed text as `extract_audio_media_addr_from_sdp` does finds these two, if the text
names an address and has an audio line at all, and has no line that is only read like one of these (`Addressed`):
the rewriting takes a line as it stands, and the reading without the white space around it.

* `extract_rewritten`: the rewritten description names the address of the server and the port of the relay.
* `extract_completed_addr`: so does what is completed for the caller.
-/

namespace Minghe.Sip

open Minghe.Lib

/-- The text names a host and has an audio line, and what is read like a `c=` or an audio line is one. -/
structure Addressed (sdp : Str) : Prop where
  connection : ∀ line ∈ lines sdp, "c=".toList <+: trim line → "c=".toList <+: line
  audio : ∀ line ∈ lines sdp, isAudio (trim line) = true → IsAudioMedia line
  host : ∃ line ∈ lines sdp, "c=".toList <+: line
  media : HasAudio sdp

/-! ## Lines that agree -/

/-- All hosts of a text are this one. -/
def OneHost (host : Str) (a : AudioAddr) : Prop :=
  (∀ h ∈ a.audioAddr, h = host) ∧ ∀ h ∈ a.sessionAddr, h = host

theorem OneHost.add {host : Str} {a : AudioAddr} (h : OneHost host a) {line : Str}
    (hline : "c=".toList <+: trim line → hostOf line = some host) :
    OneHost host (a.add line) ∧ ((a.audioAddr.or a.sessionAddr).isSome = true ∨ "c=".toList <+: trim line →
      ((a.add line).audioAddr.or (a.add line).sessionAddr).isSome = true) := by
  by_cases hmedia : isMedia (trim line) = true
  · have hnot : ¬ "c=".toList <+: trim line := fun hc => by
      rw [(connection_other hc).1] at hmedia
      cases hmedia
    rw [AudioAddr.add_media hmedia]
    by_cases haudio : isAudio (trim line) = true
    · rw [if_pos haudio]
      exact ⟨h, fun hsome => hsome.resolve_right hnot⟩
    · rw [if_neg haudio]
      exact ⟨h, fun hsome => hsome.resolve_right hnot⟩
  · obtain ⟨haudio, hsession⟩ := h
    rw [AudioAddr.add_other (by simpa using hmedia)]
    have hnone : ¬ "c=".toList <+: trim line → hostOf line = none := fun hc => if_neg hc
    by_cases hc : "c=".toList <+: trim line
    · rw [hline hc]
      cases a.inAudio <;> simp_all [OneHost]
    · rw [hnone hc]
      cases a.inAudio <;> simp_all [OneHost]

/-- All audio lines that were read have this port. -/
theorem port_add {port : Nat} {a : AudioAddr} (h : ∀ p ∈ a.audioPort, p = port) {line : Str}
    (hline : isAudio (trim line) = true → mediaPort line = some port) :
    (∀ p ∈ (a.add line).audioPort, p = port) ∧
      (a.audioPort.isSome = true ∨ isAudio (trim line) = true → (a.add line).audioPort.isSome = true) := by
  by_cases hmedia : isMedia (trim line) = true
  · rw [AudioAddr.add_media hmedia]
    by_cases haudio : isAudio (trim line) = true
    · rw [if_pos haudio, hline haudio]
      simp
    · rw [if_neg haudio]
      exact ⟨h, fun hsome => hsome.resolve_right haudio⟩
  · have haudio : ¬ isAudio (trim line) = true := fun hyes => hmedia (isMedia_of_isAudio hyes)
    rw [AudioAddr.add_other (by simpa using hmedia)]
    cases a.inAudio <;> exact ⟨h, fun hsome => hsome.resolve_right haudio⟩

/-- **What is read from lines that agree.** -/
theorem extract_of_lines {ls : List Str} {host : Str} {port : Nat}
    (hconnection : ∀ line ∈ ls, "c=".toList <+: trim line → hostOf line = some host)
    (haudio : ∀ line ∈ ls, isAudio (trim line) = true → mediaPort line = some port)
    (hhost : ∃ line ∈ ls, "c=".toList <+: trim line) (hmedia : ∃ line ∈ ls, isAudio (trim line) = true) :
    (ls.foldl AudioAddr.add {}).audioAddr.or (ls.foldl AudioAddr.add {}).sessionAddr = some host ∧
      (ls.foldl AudioAddr.add {}).audioPort = some port := by
  have hfold : (OneHost host (ls.foldl AudioAddr.add {}) ∧ ∀ p ∈ (ls.foldl AudioAddr.add {}).audioPort, p = port) ∧
      ((∃ line ∈ ls, "c=".toList <+: trim line) →
        ((ls.foldl AudioAddr.add {}).audioAddr.or (ls.foldl AudioAddr.add {}).sessionAddr).isSome = true) ∧
      ((∃ line ∈ ls, isAudio (trim line) = true) → (ls.foldl AudioAddr.add {}).audioPort.isSome = true) := by
    clear hhost hmedia
    induction ls using List.reverseRecOn with
    | nil => simp [OneHost]
    | append_singleton ls line ih =>
      simp only [List.forall_mem_append, List.forall_mem_singleton] at hconnection haudio
      obtain ⟨⟨hone, hport⟩, hhosts, hports⟩ := ih hconnection.1 haudio.1
      rw [List.foldl_append, List.foldl_cons, List.foldl_nil]
      obtain ⟨hone', hhost'⟩ := hone.add hconnection.2
      obtain ⟨hport', hports'⟩ := port_add hport haudio.2
      refine ⟨⟨hone', hport'⟩, ?_, ?_⟩
      · rintro ⟨l, hl, hc⟩
        rcases List.mem_append.mp hl with hl | hl
        · exact hhost' (.inl (hhosts ⟨l, hl, hc⟩))
        · exact hhost' (.inr (List.mem_singleton.mp hl ▸ hc))
      · rintro ⟨l, hl, hc⟩
        rcases List.mem_append.mp hl with hl | hl
        · exact hports' (.inl (hports ⟨l, hl, hc⟩))
        · exact hports' (.inr (List.mem_singleton.mp hl ▸ hc))
  obtain ⟨⟨hone, hport⟩, hhosts, hports⟩ := hfold
  obtain ⟨h, hh⟩ := Option.isSome_iff_exists.mp (hhosts hhost)
  obtain ⟨p, hp⟩ := Option.isSome_iff_exists.mp (hports hmedia)
  refine ⟨?_, by rw [hp, hport p hp]⟩
  rw [hh]
  rcases Option.or_eq_some_iff.mp hh with hh | ⟨-, hh⟩
  · rw [hone.1 h hh]
  · rw [hone.2 h hh]

/-- A line is read without the white space around it. -/
theorem add_trimmed (a : AudioAddr) (line : Str) : a.add (line.rdropWhile (· == '\r')) = a.add line := by
  unfold AudioAddr.add
  rw [trim_rdropWhile_cr]

/-- Lines that are put behind a text change nothing, if they are no `c=` or media lines. -/
theorem extract_added {sdp : Str} (hend : crlf <:+ sdp) {more : List Str} (hlf : ∀ line ∈ more, '\n' ∉ line)
    (hother : ∀ line ∈ more, ¬ "c=".toList <+: trim line ∧ isMedia (trim line) = false) :
    extractAudioMediaAddrFromSdp (trimLineEnds sdp ++ more.flatMap (crlf ++ ·) ++ crlf) =
      extractAudioMediaAddrFromSdp sdp := by
  obtain ⟨init, last, hlines, htrimmed⟩ := exists_trimmed hend
  have hmore : ∀ a : AudioAddr, more.foldl AudioAddr.add a = a := by
    clear hlf htrimmed
    induction more with
    | nil => exact fun _ => rfl
    | cons line more ih =>
      intro a
      obtain ⟨⟨hc, hmedia⟩, hrest⟩ := List.forall_mem_cons.mp hother
      have hadd : a.add line = a := by
        have hnone : hostOf line = none := if_neg hc
        rw [AudioAddr.add_other hmedia, hnone, Option.none_or, Option.none_or]
        exact ite_self a
      rw [List.foldl_cons, hadd, ih hrest]
  unfold extractAudioMediaAddrFromSdp
  rw [htrimmed more hlf, hlines]
  simp only [List.foldl_append, List.foldl_cons, List.foldl_nil, add_trimmed, hmore]

/-- A line that begins with one word is no `c=` or media line. -/
theorem other_of_word {word : Str} (hne : word ≠ []) (h : ∀ c ∈ word, isWhitespace c = false)
    (hother : ∀ p ∈ ["c=".toList, "m=".toList], ¬ p <+: word ∧ ¬ word <+: p) (rest : Str) :
    ¬ "c=".toList <+: trim (word ++ rest) ∧ isMedia (trim (word ++ rest)) = false := by
  rw [trim_word_append hne h]
  exact ⟨not_prefix_append (hother _ (by simp)) _, decide_eq_false (not_prefix_append (hother _ (by simp)) _)⟩

/-- **What is completed for the caller** names the address that it did. -/
theorem extract_completed_addr {sdp : Str} (hend : crlf <:+ sdp) :
    extractAudioMediaAddrFromSdp (fillMissingRtpmap (ensureAnswerCryptoNotLastLine sdp)) =
      extractAudioMediaAddrFromSdp sdp := by
  have hensured : crlf <:+ ensureAnswerCryptoNotLastLine sdp ∧
      extractAudioMediaAddrFromSdp (ensureAnswerCryptoNotLastLine sdp) = extractAudioMediaAddrFromSdp sdp := by
    rcases ensureAnswer_cases sdp with he | he
    · rw [he]
      exact ⟨hend, rfl⟩
    · rw [he]
      refine ⟨List.suffix_append _ _, extract_added hend (by decide) fun line hline => ?_⟩
      obtain rfl := List.mem_singleton.mp hline
      have hptime : ¬ "c=".toList <+: trim ("a=ptime:".toList ++ "20".toList) ∧
          isMedia (trim ("a=ptime:".toList ++ "20".toList)) = false :=
        other_of_word (by decide) (by decide) (by decide) _
      exact hptime
  obtain ⟨hend', hsame⟩ := hensured
  rw [← hsame, fillMissingRtpmap_eq]
  split
  · rfl
  · refine extract_added hend' (fun line hline => ?_) fun line hline => ?_
    · obtain ⟨pt, -, rfl⟩ := List.mem_map.mp hline
      exact lf_not_mem_rtpmapLine pt
    · obtain ⟨pt, -, rfl⟩ := List.mem_map.mp hline
      unfold rtpmapLine
      rw [List.append_assoc]
      exact other_of_word (by decide) (by decide) (by decide) _

/-! ## What is printed -/

section

variable {relayAddr : Str} {relayPort : UInt16} {cryptos : List SdpCrypto}

/-- A line that is neither taken away nor replaced by a key is printed. -/
theorem relayedLine_mem (hne : cryptos ≠ []) {ls : List Str} {line : Str} (hline : line ∈ ls)
    (hstrip : shouldStripForSdesSrtp line = false) (hcrypto : isCryptoLine line = false) :
    relayedLine relayAddr relayPort line ∈ rewriteSdpLines relayAddr relayPort cryptos {} ls := by
  have hkept : line ∈ keptLines ls := by
    rw [← takeWhile_append_joinSections (p := isMedia) ls, List.mem_append] at hline
    refine List.mem_append.mpr (hline.imp_right fun hline => ?_)
    obtain ⟨part, hpart, hline⟩ := List.mem_flatMap.mp hline
    refine List.mem_flatMap.mpr ⟨part, hpart, ?_⟩
    unfold keptBody
    by_cases haudio : isAudio part.1 = true
    · simpa [haudio, hcrypto] using hline
    · simpa [haudio] using hline
  have hprinted : relayedLine relayAddr relayPort line ∈
      (plainLines relayAddr relayPort (keptLines ls)).filter fun line => !shouldStripForSdesSrtp line := by
    refine List.mem_filter.mpr ⟨mem_plainLines.mpr ⟨line, hkept, hstrip, rfl⟩, ?_⟩
    rw [(sameKind_relayedLine relayAddr relayPort line).strip, hstrip]
    rfl
  rw [← filter_rewriteSdpLines (fun line h => by simpa using h) hne] at hprinted
  exact (List.mem_filter.mp hprinted).1

/-- The line that names the relay. -/
theorem hostOf_relay {ip : IpAddr} (hip : IpAddr.parse relayAddr = some ip) :
    hostOf ("c=IN IP4 ".toList ++ relayAddr) = some relayAddr := by
  have hchars := isAddressChar_of_parse (s := relayAddr) (by rw [hip]; rfl)
  have hword : ∀ c ∈ relayAddr, isWhitespace c = false := fun c hc => (of_isAddressChar (hchars c hc)).1
  have hne : relayAddr ≠ [] := by
    rintro rfl
    cases hip
  have htrim : trim ("c=IN IP4 ".toList ++ relayAddr) = "c=IN IP4 ".toList ++ relayAddr := by
    change trim ('c' :: ("=IN IP4 ".toList ++ relayAddr)) = _
    rw [trim_of_not _ (by decide), trimEnd_append_of_forall_not _ hword hne]
    rfl
  have hsplit : splitWhitespace ([' '].intercalate ["IN".toList, "IP4".toList, relayAddr]) =
      ["IN".toList, "IP4".toList, relayAddr] := by
    refine splitWhitespace_intercalate fun word hmem => ?_
    simp only [List.mem_cons, List.not_mem_nil, or_false] at hmem
    rcases hmem with rfl | rfl | rfl
    · exact ⟨by decide, by decide⟩
    · exact ⟨by decide, by decide⟩
    · exact ⟨hne, hword⟩
  have hrest : ("c=IN IP4 ".toList ++ relayAddr).drop 2 =
      [' '].intercalate ["IN".toList, "IP4".toList, relayAddr] := by
    rw [List.intercalate_cons_cons, List.intercalate_cons_cons, List.intercalate_singleton]
    rfl
  have hpre : "c=".toList <+: "c=IN IP4 ".toList := by decide
  unfold hostOf
  rw [htrim, if_pos (hpre.trans (List.prefix_append _ _)), hrest, hsplit]
  rfl

/-- The port of an audio line that was rewritten. -/
theorem mediaPort_relayed {line : Str} (h : IsAudioMedia line) (hport : relayPort ≠ 0) :
    mediaPort (relayedLine relayAddr relayPort line) = some relayPort.toNat := by
  have hne : relayPort.toNat ≠ 0 := fun he => hport (UInt16.toNat_inj.mp he)
  unfold mediaPort
  rw [splitWhitespace_trim, splitWhitespace_relayed relayAddr h]
  change (parseUnsigned 16 (showNat relayPort.toNat)).filter _ = _
  rw [parseUnsigned_showNat relayPort.toNat_lt]
  exact Option.filter_some_pos (decide_eq_true hne)

/-- What is read of a line that is printed. -/
theorem read_relayed {ip : IpAddr} (hip : IpAddr.parse relayAddr = some ip) (hport : relayPort ≠ 0) {sdp : Str}
    (h : Addressed sdp) {printed : Str} (hmem : printed ∈ plainLines relayAddr relayPort (lines sdp)) :
    ("c=".toList <+: trim printed → hostOf printed = some relayAddr) ∧
      (isAudio (trim printed) = true → mediaPort printed = some relayPort.toNat) := by
  obtain ⟨line, hline, -, rfl⟩ := mem_plainLines.mp hmem
  by_cases hc : "c=".toList <+: line
  · rw [relayedLine, if_pos hc]
    refine ⟨fun _ => hostOf_relay hip, fun haudio => ?_⟩
    have htrim : trim ("c=IN".toList ++ (" IP4 ".toList ++ relayAddr)) =
        "c=IN".toList ++ trimEnd (" IP4 ".toList ++ relayAddr) := trim_word_append (by decide) (by decide) _
    have hnot : ¬ "m=audio".toList <+: trim ("c=IN".toList ++ (" IP4 ".toList ++ relayAddr)) := by
      rw [htrim]
      exact not_prefix_append (by decide) _
    exact absurd (of_decide_eq_true haudio) hnot
  by_cases haudio : IsAudioMedia line
  · refine ⟨fun hprinted => ?_, fun _ => mediaPort_relayed haudio hport⟩
    have htrim : ∀ rest, trim ("m=audio".toList ++ rest) = "m=audio".toList ++ trimEnd rest :=
      trim_word_append (by decide) (by decide)
    have hkind := (sameKind_relayedLine relayAddr relayPort line).audio.trans haudio.1
    obtain ⟨rest, hrest⟩ := of_decide_eq_true hkind
    rw [← hrest, htrim] at hprinted
    exact absurd hprinted (not_prefix_append (by decide) _)
  · rw [relayedLine_of_other hc haudio]
    exact ⟨fun hprinted => absurd (h.connection line hline hprinted) hc,
      fun hprinted => absurd (h.audio line hline hprinted) haudio⟩

/-- **The rewritten text names the relay**, its address and its port. -/
theorem extract_rewritten {ip : IpAddr} (hip : IpAddr.parse relayAddr = some ip) (hport : relayPort ≠ 0)
    (hne : cryptos ≠ []) (hcryptos : ∀ line ∈ cryptoLines cryptos, '\n' ∉ line) {sdp : Str}
    (h : Addressed sdp) :
    extractAudioMediaAddrFromSdp (rewriteSdpWithCryptos relayAddr relayPort cryptos sdp) =
      some (.new ip relayPort) := by
  have hrelay : '\n' ∉ relayAddr := lf_not_mem_of_parse (by rw [hip]; rfl)
  have hword : ∀ {line}, "c=".toList <+: line → "c=".toList <+: trim line := by
    rintro line ⟨rest, rfl⟩
    rw [trim_word_append (by decide) (by decide)]
    exact List.prefix_append _ _
  have hmword : ∀ {line}, isAudio line = true → isAudio (trim line) = true := by
    intro line haudio
    obtain ⟨rest, rfl⟩ := of_decide_eq_true haudio
    rw [trim_word_append (by decide) (by decide)]
    exact decide_eq_true (List.prefix_append _ _)
  obtain ⟨host, hhost, hc⟩ := h.host
  obtain ⟨media, hmedia, haudio⟩ := h.media
  have hprintedHost : relayedLine relayAddr relayPort host ∈
      rewriteSdpLines relayAddr relayPort cryptos {} (lines sdp) :=
    relayedLine_mem hne hhost (connection_other hc).2.2 (connection_other hc).2.1
  have hprintedMedia : relayedLine relayAddr relayPort media ∈
      rewriteSdpLines relayAddr relayPort cryptos {} (lines sdp) :=
    relayedLine_mem hne hmedia (media_other (isMedia_of_isAudio haudio.1)).2.2
      (media_other (isMedia_of_isAudio haudio.1)).2.1
  have hlines : lines (rewriteSdpWithCryptos relayAddr relayPort cryptos sdp) =
      rewriteSdpLines relayAddr relayPort cryptos {} (lines sdp) :=
    lines_rewriteSdp hne hrelay hcryptos (List.ne_nil_of_mem hprintedHost)
  -- keys say nothing about addresses
  have hread : ∀ line ∈ rewriteSdpLines relayAddr relayPort cryptos {} (lines sdp),
      ("c=".toList <+: trim line → hostOf line = some relayAddr) ∧
        (isAudio (trim line) = true → mediaPort line = some relayPort.toNat) := by
    intro line hline
    rcases mem_rewriteSdpLines hne hline with hline | hline
    · obtain ⟨c, -, rfl⟩ := List.mem_map.mp hline
      unfold SdpCrypto.toLine
      simp only [List.append_assoc]
      have hkey : ∀ rest, ¬ "c=".toList <+: trim ("a=crypto:".toList ++ rest) ∧
          isMedia (trim ("a=crypto:".toList ++ rest)) = false :=
        other_of_word (by decide) (by decide) (by decide)
      obtain ⟨hnot, hother⟩ := hkey (showNat c.tag ++ ([' '] ++ (c.suite ++ (" inline:".toList ++ c.keyB64))))
      exact ⟨fun hc => absurd hc hnot, fun haudio => by rw [isMedia_of_isAudio haudio] at hother; cases hother⟩
    · exact read_relayed hip hport h hline
  obtain ⟨haddr, hports⟩ := extract_of_lines (fun line hline => (hread line hline).1)
    (fun line hline => (hread line hline).2)
    ⟨_, hprintedHost, hword ((sameKind_relayedLine relayAddr relayPort host).connection.mpr hc)⟩
    ⟨_, hprintedMedia, hmword ((sameKind_relayedLine relayAddr relayPort media).audio.trans haudio.1)⟩
  have hslash : upTo (· == '/') relayAddr = relayAddr := upTo_of_forall fun c hc => by
    have hchar := isAddressChar_of_parse (by rw [hip]; rfl) c hc
    simpa using (of_isAddressChar hchar).2
  unfold extractAudioMediaAddrFromSdp
  dsimp only
  rw [hlines, haddr, hports, Option.bind_some, Option.bind_some, hslash, hip, Option.map_some, UInt16.ofNat_toNat]

end

end Minghe.Sip
