import Minghe.Media.Srtp.RoundTrip

/-!
# Any packet

What `protect_rtp` and `unprotect_rtp` do to a text of bytes that comes from the wire. How long the
header is follows from its first byte and, where there is an extension, from a length in it (`headerEnd`).

* `Fits`: the header of a packet ends within its first `n` bytes.
* `Shaped`: neither function panics, both leave the header as it is, and refuse what does not fit.

Results:
* `srtp_shaped`: every packet is handled so.
* `unprotect_failure_iff`: a packet that is refused leaves the stream states as they are, unless it is well
  formed and its SSRC is new. `stream_state_mut` inserts a default state before the tag is checked.
-/

namespace Minghe.Media.Srtp

open Minghe.Lib Minghe.Lib.Bytes

/-! ## The length of a header -/

section

variable (packet : List UInt8)

/-- The version. -/
def versionOf : UInt8 := (packet.getD 0 0 >>> 6) &&& 0x03

/-- Whether there is an extension. -/
def hasExtension : Bool := (packet.getD 0 0 >>> 4) &&& 0x01 != 0

/-- The SSRC. -/
def ssrcOf : UInt32 :=
  u32FromBe (packet.getD 8 0) (packet.getD 9 0) (packet.getD 10 0) (packet.getD 11 0)

/-- Where the list of CSRCs ends. -/
def csrcEnd : Nat := rtpHeaderMinLen + (packet.getD 0 0 &&& 0x0F).toNat * 4

/-- Where the header ends, with its extension. -/
def headerEnd : Nat :=
  csrcEnd packet + if hasExtension packet then
    4 + (u16FromBe (packet.getD (csrcEnd packet + 2) 0) (packet.getD (csrcEnd packet + 3) 0)).toNat * 4
  else 0

/-- The header is of version 2, and ends within the first `n` bytes. -/
def Fits (n : Nat) : Prop := versionOf packet = 2 ∧ headerEnd packet ≤ n

instance (n : Nat) : Decidable (Fits packet n) := inferInstanceAs (Decidable (_ ∧ _))

end

variable {packet : List UInt8}

theorem byteAt_getD {E A : Type} {xs : List A} {i : Nat} (h : i < xs.length) (d : A) :
    (Res.byteAt xs i : Res E A) = .ok (xs.getD i d) := by
  rw [Res.byteAt_of_lt h, List.getD_eq_getElem?_getD, List.getElem?_eq_getElem h]
  rfl

theorem twelve_le_headerEnd (packet : List UInt8) : 12 ≤ headerEnd packet := by
  unfold headerEnd csrcEnd rtpHeaderMinLen
  omega

theorem csrcEnd_add_le_headerEnd (h : hasExtension packet = true) : csrcEnd packet + 4 ≤ headerEnd packet := by
  unfold headerEnd
  rw [if_pos h]
  omega

/-- **The header parser** reads what fits, and has an error for everything else. -/
theorem parse_cases (data : List UInt8) :
    (∃ h, RtpHeader.parse data = .ok h ∧ versionOf data = 2 ∧ h.totalHeaderLen = headerEnd data ∧
      h.ssrc = ssrcOf data) ∨
    ((∃ e, RtpHeader.parse data = Res.err e) ∧ ¬ Fits data data.length) := by
  have hbyte : ∀ i, i < data.length → (Res.byteAt data i : Res SrtpError UInt8) = .ok (data.getD i 0) :=
    fun i hi => byteAt_getD hi 0
  have h12 := twelve_le_headerEnd data
  unfold RtpHeader.parse
  split
  · rename_i hshort
    simp only [rtpHeaderMinLen] at hshort
    exact .inr ⟨⟨_, rfl⟩, fun hfits => by have := hfits.2; omega⟩
  rename_i hlong
  simp only [rtpHeaderMinLen] at hlong
  simp only [hbyte 0 (by omega), bind, Except.bind]
  split
  · rename_i hversion
    exact .inr ⟨⟨_, rfl⟩, fun hfits => hversion hfits.1⟩
  rename_i hversion
  rw [not_not] at hversion
  simp only [hbyte 2 (by omega), hbyte 3 (by omega), hbyte 4 (by omega), hbyte 5 (by omega),
    hbyte 6 (by omega), hbyte 7 (by omega), hbyte 8 (by omega), hbyte 9 (by omega), hbyte 10 (by omega),
    hbyte 11 (by omega)]
  simp only [show rtpHeaderMinLen + (data.getD 0 0 &&& 15).toNat * 4 = csrcEnd data from rfl,
    show (data.getD 0 0 >>> 4 &&& 1 != 0) = hasExtension data from rfl]
  split
  · rename_i hcsrc
    have hle : csrcEnd data ≤ headerEnd data := Nat.le_add_right _ _
    exact .inr ⟨⟨_, rfl⟩, fun hfits => by have := hfits.2; omega⟩
  rename_i hcsrc
  split
  · rename_i hextension
    have hle := csrcEnd_add_le_headerEnd hextension
    split
    · rename_i hshort
      exact .inr ⟨⟨_, rfl⟩, fun hfits => by have := hfits.2; omega⟩
    · rename_i hshort
      rw [hbyte _ (by omega), hbyte _ (by omega)]
      refine .inl ⟨_, rfl, hversion, ?_, rfl⟩
      simp only [RtpHeader.totalHeaderLen, hextension, if_true, headerEnd]
      rfl
  · rename_i hextension
    refine .inl ⟨_, rfl, hversion, ?_, rfl⟩
    simp only [RtpHeader.totalHeaderLen, hextension, headerEnd]
    rfl

/-- So are the header and the payload cut apart. -/
theorem splitRtp_cases (data : List UInt8) :
    (Fits data data.length ∧ ∃ h, splitRtp data =
      .ok (h, data.take (headerEnd data), data.drop (headerEnd data)) ∧
      h.totalHeaderLen = headerEnd data ∧ h.ssrc = ssrcOf data) ∨
    (¬ Fits data data.length ∧ ∃ e, splitRtp data = Res.err e) := by
  unfold splitRtp
  rcases parse_cases data with ⟨h, hparse, hversion, hlen, hssrc⟩ | ⟨⟨e, he⟩, hnot⟩
  · rw [hparse]
    dsimp only [bind, Except.bind]
    rw [hlen]
    split
    · rename_i hshort
      exact .inr ⟨fun hfits => by have := hfits.2; omega, _, rfl⟩
    · rename_i hle
      rw [Res.sliceTo_of_le (by omega), Res.sliceFrom_of_le (by omega)]
      exact .inl ⟨⟨hversion, by omega⟩, h, rfl, hlen, hssrc⟩
  · rw [he]
    exact .inr ⟨hnot, e, rfl⟩

theorem getD_take {n i : Nat} (h : i < n) (packet : List UInt8) :
    (packet.take n).getD i 0 = packet.getD i 0 := by
  rw [List.getD_eq_getElem?_getD, List.getD_eq_getElem?_getD, List.getElem?_take_of_lt h]

/-- The header of the first bytes of a packet is that of the packet, if it ends there. -/
theorem take_header (packet : List UInt8) (n : Nat) :
    (Fits (packet.take n) n ↔ Fits packet n) ∧ (Fits packet n →
      headerEnd (packet.take n) = headerEnd packet ∧ ssrcOf (packet.take n) = ssrcOf packet) := by
  have h12 := twelve_le_headerEnd packet
  have h12' := twelve_le_headerEnd (packet.take n)
  rcases Nat.lt_or_ge n 12 with hshort | hn
  · have hnot : ¬ Fits packet n := fun h => by have := h.2; omega
    have hnot' : ¬ Fits (packet.take n) n := fun h => by have := h.2; omega
    exact ⟨iff_of_false hnot' hnot, fun h => absurd h hnot⟩
  have hbyte : ∀ i, i < 12 → (packet.take n).getD i 0 = packet.getD i 0 :=
    fun i hi => getD_take (by omega) packet
  have hversion : versionOf (packet.take n) = versionOf packet := by
    rw [versionOf, hbyte 0 (by decide), versionOf]
  have hextension : hasExtension (packet.take n) = hasExtension packet := by
    rw [hasExtension, hbyte 0 (by decide), hasExtension]
  have hcsrc : csrcEnd (packet.take n) = csrcEnd packet := by
    rw [csrcEnd, hbyte 0 (by decide), csrcEnd]
  have hssrc : ssrcOf (packet.take n) = ssrcOf packet := by
    rw [ssrcOf, hbyte 8 (by decide), hbyte 9 (by decide), hbyte 10 (by decide), hbyte 11 (by decide), ssrcOf]
  by_cases hlong : hasExtension packet = true ∧ n < csrcEnd packet + 4
  · -- the length of the extension is not there
    obtain ⟨hext, hlong⟩ := hlong
    have hle := csrcEnd_add_le_headerEnd hext
    have hle' := csrcEnd_add_le_headerEnd (hextension.trans hext)
    have hnot : ¬ Fits packet n := fun h => by have := h.2; omega
    have hnot' : ¬ Fits (packet.take n) n := fun h => by have := h.2; omega
    exact ⟨iff_of_false hnot' hnot, fun h => absurd h hnot⟩
  · have hend : headerEnd (packet.take n) = headerEnd packet := by
      unfold headerEnd
      rw [hextension, hcsrc]
      split
      · rename_i hext
        have hthere : csrcEnd packet + 4 ≤ n := Nat.le_of_not_lt fun h => hlong ⟨hext, h⟩
        rw [getD_take (by omega), getD_take (by omega)]
      · rfl
    exact ⟨by rw [Fits, hversion, hend, Fits], fun _ => ⟨hend, hssrc⟩⟩

/-! ## The two functions -/

/-- AES-GCM adds 16 bytes to a plaintext, and takes them off again. -/
structure GcmLengths (P : Primitives) : Prop where
  encrypt : ∀ {k n aad msg ct}, P.gcmEncrypt k n aad msg = some ct → ct.length = msg.length + 16
  decrypt : ∀ {k n aad ct msg}, P.gcmDecrypt k n aad ct = some msg → msg.length = ct.length - 16

theorem Primitives.plain_lengths : GcmLengths plain where
  encrypt h := by
    simp only [plain, Option.some.injEq] at h
    rw [← h]
    simp
  decrypt h := by
    simp only [plain, Option.some.injEq] at h
    rw [← h]
    simp

namespace SrtpCryptoSuite

variable {P : Primitives}

/-- A sealed payload stands behind the header, and is longer by the tag. -/
theorem sealPayload_cases (hP : GcmLengths P) (s : SrtpCryptoSuite) (header : RtpHeader) (roc : UInt32)
    (head payload : List UInt8) :
    (∃ body, s.sealPayload P header roc head payload = .ok (head ++ body) ∧
      body.length = payload.length + s.suite.authTagLen) ∨
    ∃ e, s.sealPayload P header roc head payload = Res.err e := by
  unfold sealPayload
  cases hsuite : s.suite with
  | aesCm128HmacSha180 =>
    dsimp only
    rw [List.append_assoc]
    exact .inl ⟨_, rfl, by simp [SrtpSuite.authTagLen, Srtp.authTagLen]⟩
  | aeadAes128Gcm =>
    dsimp only
    split
    · rename_i encrypted hencrypt
      exact .inl ⟨encrypted, rfl, hP.encrypt hencrypt⟩
    · exact .inr ⟨_, rfl⟩

/-- An opened payload stands behind the header, and is shorter by the tag. -/
theorem openPayload_cases (hP : GcmLengths P) (s : SrtpCryptoSuite) {header : RtpHeader} (roc : UInt32)
    {packet : List UInt8} (tag : List UInt8) (hlen : header.totalHeaderLen + s.suite.authTagLen ≤ packet.length) :
    let portion := packet.take (packet.length - s.suite.authTagLen)
    (∃ body, s.openPayload P header roc (packet.take header.totalHeaderLen)
        (portion.drop header.totalHeaderLen) portion tag packet = .ok (packet.take header.totalHeaderLen ++ body) ∧
      header.totalHeaderLen + body.length + s.suite.authTagLen = packet.length) ∨
    ∃ e, s.openPayload P header roc (packet.take header.totalHeaderLen)
      (portion.drop header.totalHeaderLen) portion tag packet = Res.err e := by
  dsimp only
  unfold openPayload
  cases hsuite : s.suite with
  | aesCm128HmacSha180 =>
    rw [hsuite] at hlen
    dsimp only
    split
    · refine .inl ⟨_, rfl, ?_⟩
      simp only [length_aesCmEncrypt, List.length_drop, List.length_take]
      omega
    · exact .inr ⟨_, rfl⟩
  | aeadAes128Gcm =>
    rw [hsuite] at hlen
    simp only [Res.sliceTo_of_le (show header.totalHeaderLen ≤ packet.length by omega),
      Res.sliceFrom_of_le (show header.totalHeaderLen ≤ packet.length by omega), bind, Except.bind]
    split
    · rename_i plaintext hdecrypt
      have hplain := hP.decrypt hdecrypt
      refine .inl ⟨plaintext, rfl, ?_⟩
      rw [List.length_drop] at hplain
      simp only [SrtpSuite.authTagLen, gcmAuthTagLen] at hlen ⊢
      omega
    · exact .inr ⟨_, rfl⟩

/-- `protect_rtp`, on any packet. -/
theorem protectRtp_cases (hP : GcmLengths P) (s : SrtpCryptoSuite) (packet : List UInt8) :
    (Fits packet packet.length ∧ ∃ body,
      (s.protectRtp P packet).1 = .ok (packet.take (headerEnd packet) ++ body) ∧
      headerEnd packet + body.length = packet.length + s.suite.authTagLen) ∨
    ∃ e, (s.protectRtp P packet).1 = Res.err e := by
  unfold protectRtp
  split
  · exact .inr ⟨_, rfl⟩
  rcases splitRtp_cases packet with ⟨hfits, h, hsplit, -, -⟩ | ⟨-, e, he⟩
  · rw [hsplit]
    dsimp only
    rcases (s.touchStream h.ssrc).sealPayload_cases hP h (estimateRoc (s.streamState h.ssrc) h.sequenceNumber)
      (packet.take (headerEnd packet)) (packet.drop (headerEnd packet)) with ⟨body, hseal, hlen⟩ | ⟨e, he⟩
    · rw [hseal]
      refine .inl ⟨hfits, body, rfl, ?_⟩
      have hle := hfits.2
      rw [List.length_drop] at hlen
      change body.length = packet.length - headerEnd packet + s.suite.authTagLen at hlen
      omega
    · rw [he]
      exact .inr ⟨e, rfl⟩
  · rw [he]
    exact .inr ⟨e, rfl⟩

/-- `unprotect_rtp`, up to the cipher. -/
theorem unprotectRtp_eq (P : Primitives) (s : SrtpCryptoSuite) (packet : List UInt8) :
    (¬ Fits packet (packet.length - s.suite.authTagLen) ∧ ∃ e, s.unprotectRtp P packet = (Res.err e, s)) ∨
    (Fits packet (packet.length - s.suite.authTagLen) ∧ ∃ (h : RtpHeader) (opened : Res SrtpError (List UInt8)),
      h.totalHeaderLen = headerEnd packet ∧ h.ssrc = ssrcOf packet ∧
      opened = (s.touchStream h.ssrc).openPayload P h (s.guess h) (packet.take h.totalHeaderLen)
        ((packet.take (packet.length - s.suite.authTagLen)).drop h.totalHeaderLen)
        (packet.take (packet.length - s.suite.authTagLen))
        (packet.drop (packet.length - s.suite.authTagLen)) packet ∧
      s.unprotectRtp P packet =
        match opened with
        | .error e => (.error e, s.touchStream h.ssrc)
        | .ok rtpPacket => (.ok rtpPacket, s.advance h)) := by
  have h12 := twelve_le_headerEnd packet
  obtain ⟨hfits, hheader⟩ := take_header packet (packet.length - s.suite.authTagLen)
  unfold unprotectRtp
  dsimp only
  split
  · rename_i hshort
    simp only [rtpHeaderMinLen] at hshort
    exact .inl ⟨fun h => by have := h.2; omega, _, rfl⟩
  rename_i hlong
  simp only [rtpHeaderMinLen] at hlong
  have hportion : (packet.take (packet.length - s.suite.authTagLen)).length =
      packet.length - s.suite.authTagLen := List.length_take_of_le (Nat.sub_le _ _)
  rcases splitRtp_cases (packet.take (packet.length - s.suite.authTagLen)) with
    ⟨hfit, h, hsplit, hlen, hssrc⟩ | ⟨hnot, e, he⟩
  · rw [hportion, hfits] at hfit
    obtain ⟨hend, hssrc'⟩ := hheader hfit
    rw [hend] at hlen hsplit
    have htake : (packet.take (packet.length - s.suite.authTagLen)).take (headerEnd packet) =
        packet.take (headerEnd packet) := by rw [List.take_take, Nat.min_eq_left hfit.2]
    refine .inr ⟨hfit, h, _, hlen, hssrc.trans hssrc', rfl, ?_⟩
    rw [hsplit, htake, hlen]
    rfl
  · rw [hportion, hfits] at hnot
    rw [he]
    exact .inl ⟨hnot, e, rfl⟩

/-- `unprotect_rtp`, on any packet. -/
theorem unprotectRtp_cases (hP : GcmLengths P) (s : SrtpCryptoSuite) (packet : List UInt8) :
    (Fits packet (packet.length - s.suite.authTagLen) ∧ ∃ body,
      (s.unprotectRtp P packet).1 = .ok (packet.take (headerEnd packet) ++ body) ∧
      headerEnd packet + body.length + s.suite.authTagLen = packet.length) ∨
    ∃ e, (s.unprotectRtp P packet).1 = Res.err e := by
  have h12 := twelve_le_headerEnd packet
  rcases s.unprotectRtp_eq P packet with ⟨-, e, he⟩ | ⟨hfits, h, opened, hlen, -, hopened, he⟩
  · rw [he]
    exact .inr ⟨e, rfl⟩
  · have hfit := hfits.2
    have hlong : h.totalHeaderLen + (s.touchStream h.ssrc).suite.authTagLen ≤ packet.length := by
      change h.totalHeaderLen + s.suite.authTagLen ≤ packet.length
      omega
    rcases (s.touchStream h.ssrc).openPayload_cases hP (s.guess h)
      (packet.drop (packet.length - s.suite.authTagLen)) hlong with ⟨body, hopen, hbody⟩ | ⟨e, hopen⟩
    · rw [he, hopened.trans hopen, ← hlen]
      exact .inl ⟨hfits, body, rfl, hbody⟩
    · rw [he, hopened.trans hopen]
      exact .inr ⟨e, rfl⟩

/-- What is handled as it should be: no panic, the header is kept, the payload grows or shrinks by the tag,
and there is an error for what does not fit. -/
structure Shaped (P : Primitives) (s : SrtpCryptoSuite) (packet : List UInt8) : Prop where
  protect_safe : (s.protectRtp P packet).1 ≠ .error .panic
  unprotect_safe : (s.unprotectRtp P packet).1 ≠ .error .panic
  protect_ok : ∀ srtpPacket, (s.protectRtp P packet).1 = .ok srtpPacket →
    headerEnd packet ≤ packet.length ∧
      srtpPacket.take (headerEnd packet) = packet.take (headerEnd packet) ∧
      srtpPacket.length = packet.length + s.suite.authTagLen
  unprotect_ok : ∀ rtpPacket, (s.unprotectRtp P packet).1 = .ok rtpPacket →
    headerEnd packet ≤ rtpPacket.length ∧
      rtpPacket.take (headerEnd packet) = packet.take (headerEnd packet) ∧
      rtpPacket.length + s.suite.authTagLen = packet.length
  protect_refused : ¬ Fits packet packet.length → ∃ e, (s.protectRtp P packet).1 = Res.err e
  unprotect_refused : ¬ Fits packet (packet.length - s.suite.authTagLen) →
    ∃ e, (s.unprotectRtp P packet).1 = Res.err e

/-- **Every packet is handled as it should be.** -/
theorem srtp_shaped (hP : GcmLengths P) (s : SrtpCryptoSuite) (packet : List UInt8) : Shaped P s packet := by
  have hsafe : ∀ {out : Res SrtpError (List UInt8)}, ((∃ w, out = .ok w) ∨ ∃ e, out = Res.err e) →
      out ≠ .error .panic := by
    rintro out (⟨w, rfl⟩ | ⟨e, rfl⟩) <;> exact nofun
  have hhead : headerEnd packet ≤ packet.length → (packet.take (headerEnd packet)).length = headerEnd packet :=
    List.length_take_of_le
  have hprotect := s.protectRtp_cases hP packet
  have hunprotect := s.unprotectRtp_cases hP packet
  constructor
  · exact hsafe (hprotect.imp_left fun ⟨_, body, he, _⟩ => ⟨_, he⟩)
  · exact hsafe (hunprotect.imp_left fun ⟨_, body, he, _⟩ => ⟨_, he⟩)
  · intro w hw
    rcases hprotect with ⟨hfits, body, he, hlen⟩ | ⟨e, he⟩
    · cases he.symm.trans hw
      have hhead := hhead hfits.2
      refine ⟨hfits.2, List.take_left' hhead, ?_⟩
      rw [List.length_append, hhead, hlen]
    · cases he.symm.trans hw
  · intro w hw
    rcases hunprotect with ⟨hfits, body, he, hlen⟩ | ⟨e, he⟩
    · cases he.symm.trans hw
      have hhead := hhead (by omega)
      refine ⟨?_, List.take_left' hhead, ?_⟩
      · rw [List.length_append, hhead]
        omega
      · rw [List.length_append, hhead, hlen]
    · cases he.symm.trans hw
  · exact fun hnot => hprotect.resolve_left fun h => hnot h.1
  · exact fun hnot => hunprotect.resolve_left fun h => hnot h.1

/-- A packet with a CSRC, an extension of one word and four bytes of payload, and one that is cut off. -/
theorem srtp_shaped_concrete :
    let fresh := ofMaster .plain .aeadAes128Gcm (Vector.replicate 16 1) (Vector.replicate 14 2)
    Shaped .plain fresh [145, 0, 0, 7, 0, 0, 0, 0, 0, 0, 0, 1, 0, 0, 0, 9, 190, 222, 0, 1, 1, 2, 3, 4, 5, 6, 7, 8] ∧
      Shaped .plain fresh [145, 0, 0, 7, 0, 0, 0, 0, 0, 0, 0, 1, 0, 0] :=
  ⟨srtp_shaped Primitives.plain_lengths _ _, srtp_shaped Primitives.plain_lengths _ _⟩

/-! ## A packet that is refused -/

/-- The stream states behind a packet that is refused. -/
theorem unprotectRtp_failed {P : Primitives} {s : SrtpCryptoSuite} {packet : List UInt8} {e : Fault SrtpError}
    (h : (s.unprotectRtp P packet).1 = .error e) :
    (s.unprotectRtp P packet).2.streamStates =
      if Fits packet (packet.length - s.suite.authTagLen) then
        s.streamStates.entryOrDefault (ssrcOf packet) SrtpStreamState.default
      else s.streamStates := by
  rcases s.unprotectRtp_eq P packet with ⟨hnot, e', he⟩ | ⟨hfits, header, opened, -, hssrc, -, he⟩
  · rw [he, if_neg hnot]
  · rw [he] at h ⊢
    cases opened with
    | error e' =>
      rw [if_pos hfits, ← hssrc]
      rfl
    | ok w => cases h

/-- **When a refused packet changes nothing.** The table of stream states is exactly as before iff the packet
is too short or malformed, or its SSRC was known before. No known stream is changed in any case, and no
unknown one is but by the default state. -/
theorem unprotect_failure_iff (P : Primitives) (s : SrtpCryptoSuite) (packet : List UInt8) {e : SrtpError}
    (h : (s.unprotectRtp P packet).1 = Res.err e) :
    ((s.unprotectRtp P packet).2.streamStates = s.streamStates ↔
      (Fits packet (packet.length - s.suite.authTagLen) → ssrcOf packet ∈ s.streamStates)) ∧
    (∀ ssrc ∈ s.streamStates,
      (s.unprotectRtp P packet).2.streamStates.lookup ssrc = s.streamStates.lookup ssrc) ∧
    ∀ ssrc, (s.unprotectRtp P packet).2.streamState ssrc = s.streamState ssrc := by
  have hfailed := unprotectRtp_failed h
  refine ⟨?_, fun ssrc hmem => ?_, fun ssrc => ?_⟩
  · rw [hfailed]
    split
    · rename_i hfits
      rw [Table.entryOrDefault_eq_self]
      exact ⟨fun hmem _ => hmem, fun hmem => hmem hfits⟩
    · rename_i hnot
      exact iff_of_true rfl fun hfits => absurd hfits hnot
  · rw [hfailed]
    split
    · by_cases hself : ssrc = ssrcOf packet
      · rw [← hself, Table.entryOrDefault_eq_self.mpr hmem]
      · exact Table.lookup_entryOrDefault_ne _ _ hself
    · rfl
  · unfold streamState
    rw [hfailed]
    split
    · exact streamState_touchStream (s := s) (ssrcOf packet) ssrc
    · rfl

/-- A forged packet for a stream that is known, and one that is cut off. -/
theorem unprotect_failure_iff_concrete :
    let known := (ofMaster .plain .aesCm128HmacSha180 (.replicate 16 1) (.replicate 14 2)).commitStream 1 7 0
    (known.unprotectRtp .plain ([128, 0, 0, 8, 0, 0, 0, 0, 0, 0, 0, 1] ++ .replicate 10 255)).2.streamStates =
        known.streamStates ∧
      (known.unprotectRtp .plain [128, 0, 0, 8]).2.streamStates = known.streamStates :=
  ⟨(unprotect_failure_iff .plain _ _ (e := .authenticationFailed) (by decide +kernel)).1.mpr
      fun _ => by decide +kernel,
    (unprotect_failure_iff .plain _ _ rfl).1.mpr fun h => absurd h (by decide +kernel)⟩

/-- A forged packet of an SSRC that was never seen. -/
theorem failure_grows :
    let fresh := ofMaster .plain .aesCm128HmacSha180 (.replicate 16 1) (.replicate 14 2)
    let after := fresh.unprotectRtp .plain ([128, 0, 0, 8, 0, 0, 0, 0, 0, 0, 0, 1] ++ .replicate 10 255)
    after.1 = Res.err .authenticationFailed ∧ after.2.streamStates ≠ fresh.streamStates ∧
      fresh.streamStates.size = 0 ∧ after.2.streamStates.size = 1 := by
  have hrun : let fresh := ofMaster .plain .aesCm128HmacSha180 (.replicate 16 1) (.replicate 14 2)
      let after := fresh.unprotectRtp .plain ([128, 0, 0, 8, 0, 0, 0, 0, 0, 0, 0, 1] ++ .replicate 10 255)
      after.1 = Res.err .authenticationFailed ∧ fresh.streamStates.size = 0 ∧
        after.2.streamStates.size = 1 := by decide +kernel
  refine ⟨hrun.1, fun h => ?_, hrun.2⟩
  have hsize := hrun.2
  rw [h] at hsize
  exact absurd (hsize.1.symm.trans hsize.2) (by decide)

end SrtpCryptoSuite

end Minghe.Media.Srtp
