import Minghe.Lib.Run
import Minghe.Media.Srtp.Suite

/-!
# `unprotect_rtp` undoes `protect_rtp`

`unprotectRtp_of_seal`: a packet sealed under the rollover count that the receiver estimates for it
opens to the packet that was protected. The header is not encrypted, so it parses to the same value
in the sealed packet (`parse_take_append`), the tag is the last `auth_tag_len` bytes, and counter
mode undoes itself.

`srtp_in_order` is the result about whole runs: a receiver fed a sender's packets in order is in step
with it (`InStep`), so it makes the same estimate, whatever the sequence numbers are. Loss and
reordering are the subject of `Reorder.lean`.
-/

namespace Minghe.Media.Srtp

open Minghe.Lib Minghe.Lib.Bytes Minghe.Lib.CounterMode

/-! ## The header of a sealed packet -/

theorem RtpHeader.le_totalHeaderLen (h : RtpHeader) : 12 ≤ h.totalHeaderLen := by
  simp only [totalHeaderLen, rtpHeaderMinLen]
  omega

/-- **The header is read from its own bytes only**: what follows them can be exchanged. -/
theorem RtpHeader.parse_take_append {p : List UInt8} {h : RtpHeader} (hp : parse p = .ok h)
    (hlen : h.totalHeaderLen ≤ p.length) (x : List UInt8) :
    parse (p.take h.totalHeaderLen ++ x) = .ok h := by
  have h12 := h.le_totalHeaderLen
  have hlen' : h.totalHeaderLen ≤ (p.take h.totalHeaderLen ++ x).length := by
    rw [List.length_append, List.length_take]; omega
  have hread : ∀ i, i < h.totalHeaderLen →
      (Res.byteAt (p.take h.totalHeaderLen ++ x) i : Res SrtpError UInt8) = Res.byteAt p i :=
    fun i hi => Res.byteAt_take_append hi hlen
  generalize p.take h.totalHeaderLen ++ x = q at hlen' hread ⊢
  have hread' : ∀ i, i < 12 → (Res.byteAt q i : Res SrtpError UInt8) = Res.byteAt p i :=
    fun i hi => hread i (by omega)
  unfold parse at hp ⊢
  simp only [rtpHeaderMinLen] at hp ⊢
  rw [if_neg (by omega)] at hp
  rw [if_neg (by omega)]
  simp (disch := omega) only [hread']
  obtain ⟨b, hb, hp⟩ := Res.bind_eq_ok.mp hp
  rw [hb]
  split at hp
  · cases hp
  rename_i hv
  simp only [Res.bind_eq_ok] at hp
  obtain ⟨b2, h2, b3, h3, b4, h4, b5, h5, b6, h6, b7, h7, b8, h8, b9, h9, b10, h10, b11, h11,
    hp⟩ := hp
  simp only [bind, Except.bind]
  rw [if_neg hv]
  simp only [h2, h3, h4, h5, h6, h7, h8, h9, h10, h11]
  split at hp
  · cases hp
  split at hp
  · rename_i hx
    split at hp
    · cases hp
    simp only [Res.bind_eq_ok] at hp
    obtain ⟨e2, he2, e3, he3, hp⟩ := hp
    have hh := Except.ok.inj hp
    have hl : 12 + (b &&& 15).toNat * 4 + 4 ≤ h.totalHeaderLen := by
      rw [← hh]; simp only [totalHeaderLen, rtpHeaderMinLen, hx, if_true]; omega
    rw [if_neg (by omega), if_pos hx, if_neg (by omega), hread _ (by omega),
      hread _ (by omega), he2, he3]
    exact hp
  · rename_i hx
    have hh := Except.ok.inj hp
    have hl : 12 + (b &&& 15).toNat * 4 ≤ h.totalHeaderLen := by
      rw [← hh]; simp only [totalHeaderLen, rtpHeaderMinLen]; omega
    rw [if_neg (by omega), if_neg hx]
    exact hp

theorem splitRtp_eq_ok {p head payload : List UInt8} {h : RtpHeader} :
    splitRtp p = .ok (h, head, payload) ↔
      RtpHeader.parse p = .ok h ∧ h.totalHeaderLen ≤ p.length ∧
        head = p.take h.totalHeaderLen ∧ payload = p.drop h.totalHeaderLen := by
  unfold splitRtp
  rw [Res.bind_eq_ok]
  constructor
  · rintro ⟨h', hp, hs⟩
    simp only at hs
    split at hs
    · cases hs
    · rename_i hlen
      rw [Res.sliceTo_of_le (by omega), Res.sliceFrom_of_le (by omega)] at hs
      cases hs
      exact ⟨hp, by omega, rfl, rfl⟩
  · rintro ⟨hp, hlen, rfl, rfl⟩
    refine ⟨h, hp, ?_⟩
    rw [if_neg (by omega), Res.sliceTo_of_le hlen, Res.sliceFrom_of_le hlen]
    rfl

/-- A packet is its header bytes and its payload. -/
theorem splitRtp_parts {p head payload : List UInt8} {h : RtpHeader}
    (hs : splitRtp p = .ok (h, head, payload)) :
    head.length = h.totalHeaderLen ∧ p = head ++ payload := by
  obtain ⟨-, hlen, rfl, rfl⟩ := splitRtp_eq_ok.mp hs
  exact ⟨List.length_take_of_le hlen, (List.take_append_drop _ _).symm⟩

/-- Exchanging the payload keeps the header. -/
theorem splitRtp_append {p head payload : List UInt8} {h : RtpHeader}
    (hs : splitRtp p = .ok (h, head, payload)) (x : List UInt8) :
    splitRtp (head ++ x) = .ok (h, head, x) := by
  obtain ⟨hlen, -⟩ := splitRtp_parts hs
  obtain ⟨hp, hle, hh, -⟩ := splitRtp_eq_ok.mp hs
  refine splitRtp_eq_ok.mpr ⟨?_, ?_, ?_, ?_⟩
  · rw [hh]; exact RtpHeader.parse_take_append hp hle x
  · rw [List.length_append]; omega
  · rw [List.take_left' hlen]
  · rw [List.drop_left' hlen]

/-! ## Sealing and opening one packet -/

namespace SrtpCryptoSuite

variable {P : Primitives} {s r : SrtpCryptoSuite}

theorem constantTimeEq_self (a : List UInt8) : constantTimeEq a a = true := by
  have h0 : ∀ l : List UInt8, (xorBytes l l).foldl (· ||| ·) 0 = 0 := by
    intro l
    induction l with
    | nil => rfl
    | cons x l ih =>
      simp only [xorBytes, List.zipWith_cons_cons, List.foldl_cons, UInt8.xor_self,
        UInt8.or_zero] at ih ⊢
      exact ih
  simp [constantTimeEq, h0]

/-- Two suites seal and open with the same keys. -/
structure SameKeys (s r : SrtpCryptoSuite) : Prop where
  suite : s.suite = r.suite
  sessionKey : s.sessionKey = r.sessionKey
  sessionSalt : s.sessionSalt = r.sessionSalt
  sessionAuthKey : s.sessionAuthKey = r.sessionAuthKey

theorem SameKeys.rfl' (s : SrtpCryptoSuite) : SameKeys s s := ⟨rfl, rfl, rfl, rfl⟩

/-- Keeping the stream states aside, the suites are one: what the ciphers compute agrees. -/
theorem SameKeys.cipher (h : SameKeys s r) :
    (∀ ssrc index, s.aesCmEncrypt P ssrc index = r.aesCmEncrypt P ssrc index) ∧
    (∀ a roc, s.computeAuthTag P a roc = r.computeAuthTag P a roc) ∧
    (∀ ssrc roc seq, s.gcmIv ssrc roc seq = r.gcmIv ssrc roc seq) := by
  obtain ⟨-, hk, hs, ha⟩ := h
  refine ⟨fun ssrc index => ?_, fun a roc => ?_, fun ssrc roc seq => ?_⟩
  · funext data; simp only [aesCmEncrypt, counterBlock, cmIv, hk, hs]
  · simp only [computeAuthTag, ha]
  · simp only [gcmIv, hs]

@[simp] theorem length_aesCmEncrypt (ssrc : UInt32) (index : Nat) (data : List UInt8) :
    (s.aesCmEncrypt P ssrc index data).length = data.length :=
  length_xorBlocks _ (by omega)

/-- AES-CM decryption is AES-CM encryption. -/
theorem aesCmEncrypt_cancel (ssrc : UInt32) (index : Nat) (data : List UInt8) :
    s.aesCmEncrypt P ssrc index (s.aesCmEncrypt P ssrc index data) = data := by
  have hlen := length_aesCmEncrypt (P := P) (s := s) ssrc index data
  unfold aesCmEncrypt at hlen ⊢
  rw [hlen]
  exact xorBlocks_cancel _ (by omega)

@[simp] theorem length_computeAuthTag (a : List UInt8) (roc : UInt32) :
    (s.computeAuthTag P a roc).length = 10 := by
  simp [computeAuthTag, Srtp.authTagLen]

/-- **Opening undoes sealing** under one rollover count. The tag is the last `auth_tag_len` bytes of
the sealed packet, and what precedes it parses to the header that was sealed. -/
theorem open_seal (hP : GcmLaws P) (hk : SameKeys s r) {p head payload w : List UInt8}
    {h : RtpHeader} {roc : UInt32} (hs : splitRtp p = .ok (h, head, payload))
    (hw : s.sealPayload P h roc head payload = .ok w) :
    12 + r.suite.authTagLen ≤ w.length ∧
      ∃ body, splitRtp (w.take (w.length - r.suite.authTagLen)) = .ok (h, head, body) ∧
        r.openPayload P h roc head body (w.take (w.length - r.suite.authTagLen))
          (w.drop (w.length - r.suite.authTagLen)) w = .ok p := by
  obtain ⟨hhead, hp⟩ := splitRtp_parts hs
  have h12 := h.le_totalHeaderLen
  obtain ⟨hcm, htag, hiv⟩ := hk.cipher (P := P)
  unfold sealPayload at hw
  unfold openPayload
  rw [hk.suite] at hw
  cases hsuite : r.suite with
  | aesCm128HmacSha180 =>
    simp only [hsuite, hcm, htag, Except.ok.injEq] at hw
    have hlen : w.length - SrtpSuite.aesCm128HmacSha180.authTagLen =
        (head ++ r.aesCmEncrypt P h.ssrc (packetIndex roc h.sequenceNumber) payload).length := by
      rw [← hw, List.length_append, length_computeAuthTag]
      exact Nat.add_sub_cancel _ _
    rw [hlen, ← hw, List.take_left, List.drop_left]
    refine ⟨by simp [SrtpSuite.authTagLen, Srtp.authTagLen]; omega, _, splitRtp_append hs _, ?_⟩
    simp only [constantTimeEq_self, if_true, aesCmEncrypt_cancel, hp]
  | aeadAes128Gcm =>
    simp only [hsuite, hiv, hk.sessionKey] at hw
    split at hw
    · rename_i ct hct
      have hct' := hP.length_encrypt hct
      simp only [Except.ok.injEq] at hw
      have hlen : w.length - SrtpSuite.aeadAes128Gcm.authTagLen = head.length + payload.length := by
        rw [← hw, List.length_append, hct', ← Nat.add_assoc]
        exact Nat.add_sub_cancel _ _
      rw [hlen, ← hw, List.take_length_add_append]
      refine ⟨by simp [SrtpSuite.authTagLen, gcmAuthTagLen]; omega, _, splitRtp_append hs _, ?_⟩
      have hcut : h.totalHeaderLen ≤ (head ++ ct).length := by simp; omega
      simp only [Res.sliceTo_of_le hcut, Res.sliceFrom_of_le hcut, bind, Except.bind,
        List.take_left' hhead, List.drop_left' hhead, hP.decrypt_encrypt hct, hp]
    · cases hw

/-! ## The stream states -/

@[simp] theorem streamState_touchStream (ssrc k : UInt32) :
    (s.touchStream ssrc).streamState k = s.streamState k := by
  unfold touchStream streamState
  by_cases hk : k = ssrc
  · subst hk; rw [Table.lookup_entryOrDefault_self]; rfl
  · rw [Table.lookup_entryOrDefault_ne _ _ hk]

theorem streamState_commitStream (ssrc k : UInt32) (seq : UInt16) (roc : UInt32) :
    (s.commitStream ssrc seq roc).streamState k =
      if k = ssrc then updateStreamStateAfterSuccess (s.streamState ssrc) seq roc
      else s.streamState k := by
  unfold commitStream
  split
  · rename_i hk; subst hk; simp [streamState, AList.lookup_insert]
  · rename_i hk; simp [streamState, AList.lookup_insert_ne hk]

theorem sameKeys_touchStream (ssrc : UInt32) : SameKeys (s.touchStream ssrc) s :=
  ⟨rfl, rfl, rfl, rfl⟩

/-! ## What a call does -/

/-- The rollover count `protect_rtp` and `unprotect_rtp` work with on a packet with header `h`. -/
def guess (s : SrtpCryptoSuite) (h : RtpHeader) : UInt32 :=
  estimateRoc (s.streamState h.ssrc) h.sequenceNumber

/-- The suite after a packet with header `h` went through. -/
def advance (s : SrtpCryptoSuite) (h : RtpHeader) : SrtpCryptoSuite :=
  (s.touchStream h.ssrc).commitStream h.ssrc h.sequenceNumber (s.guess h)

theorem sameKeys_advance (h : RtpHeader) : SameKeys (s.advance h) s := ⟨rfl, rfl, rfl, rfl⟩

theorem streamState_advance (h : RtpHeader) (k : UInt32) :
    (s.advance h).streamState k =
      if k = h.ssrc then
        updateStreamStateAfterSuccess (s.streamState h.ssrc) h.sequenceNumber (s.guess h)
      else s.streamState k := by
  rw [advance, streamState_commitStream, streamState_touchStream, streamState_touchStream]

/-- `protect_rtp` on a packet that parses. -/
theorem protectRtp_eq {p head payload : List UInt8} {h : RtpHeader}
    (hs : splitRtp p = .ok (h, head, payload)) :
    s.protectRtp P p =
      match s.sealPayload P h (s.guess h) head payload with
      | .error e => (.error e, s.touchStream h.ssrc)
      | .ok w => (.ok w, s.advance h) := by
  have hlen : ¬ p.length < 12 := by
    obtain ⟨-, hle, -⟩ := splitRtp_eq_ok.mp hs
    have := h.le_totalHeaderLen
    omega
  unfold protectRtp
  rw [if_neg hlen, hs]
  rfl

/-- **A failed `protect_rtp` leaves every stream where it was.** -/
theorem protectRtp_error {p : List UInt8} {e : Fault SrtpError}
    (he : (s.protectRtp P p).1 = .error e) :
    SameKeys (s.protectRtp P p).2 s ∧
      ∀ k, (s.protectRtp P p).2.streamState k = s.streamState k := by
  cases hs : splitRtp p with
  | error e' =>
    have : (s.protectRtp P p).2 = s := by
      unfold protectRtp
      rw [hs]
      split <;> rfl
    rw [this]
    exact ⟨SameKeys.rfl' s, fun _ => rfl⟩
  | ok x =>
    obtain ⟨h, head, payload⟩ := x
    rw [protectRtp_eq hs] at he ⊢
    cases hw : s.sealPayload P h (s.guess h) head payload with
    | error e' => exact ⟨sameKeys_touchStream _, fun _ => streamState_touchStream _ _⟩
    | ok w => rw [hw] at he; cases he

/-- **A successful `protect_rtp`** sealed a packet that parses, under the count it guessed. -/
theorem protectRtp_ok {p w : List UInt8} (hw : (s.protectRtp P p).1 = .ok w) :
    ∃ h head payload, splitRtp p = .ok (h, head, payload) ∧
      s.sealPayload P h (s.guess h) head payload = .ok w ∧
      (s.protectRtp P p).2 = s.advance h := by
  cases hs : splitRtp p with
  | error e =>
    unfold protectRtp at hw
    rw [hs] at hw
    split at hw <;> cases hw
  | ok x =>
    obtain ⟨h, head, payload⟩ := x
    rw [protectRtp_eq hs] at hw ⊢
    cases hse : s.sealPayload P h (s.guess h) head payload with
    | error e => rw [hse] at hw; cases hw
    | ok w' => rw [hse] at hw; cases hw; exact ⟨h, head, payload, rfl, hse, rfl⟩

/-- **`unprotect_rtp` on a sealed packet** whose rollover count the receiver guesses. -/
theorem unprotectRtp_of_seal (hP : GcmLaws P) (hk : SameKeys s r) {p head payload w : List UInt8}
    {h : RtpHeader} (hs : splitRtp p = .ok (h, head, payload))
    (hw : s.sealPayload P h (r.guess h) head payload = .ok w) :
    r.unprotectRtp P w = (.ok p, r.advance h) := by
  obtain ⟨hlen, body, hsplit, hopen⟩ := open_seal hP hk hs hw
  unfold unprotectRtp
  simp only
  rw [if_neg (by simp only [rtpHeaderMinLen]; omega), hsplit]
  simp only
  have htouch : (r.touchStream h.ssrc).openPayload P h
      (estimateRoc (r.streamState h.ssrc) h.sequenceNumber) head body
      (w.take (w.length - r.suite.authTagLen)) (w.drop (w.length - r.suite.authTagLen)) w =
        .ok p := hopen
  rw [htouch]
  rfl

/-! ## In order -/

/-- A receiver in step with a sender: the same keys and the same state of every stream. -/
structure InStep (s r : SrtpCryptoSuite) : Prop where
  keys : SameKeys s r
  streams : ∀ k, s.streamState k = r.streamState k

theorem InStep.guess (hi : InStep s r) (h : RtpHeader) : s.guess h = r.guess h := by
  unfold SrtpCryptoSuite.guess
  rw [hi.streams]

theorem InStep.advance (hi : InStep s r) (h : RtpHeader) : InStep (s.advance h) (r.advance h) where
  keys := ⟨hi.keys.suite, hi.keys.sessionKey, hi.keys.sessionSalt, hi.keys.sessionAuthKey⟩
  streams k := by rw [streamState_advance, streamState_advance, hi.streams, hi.streams, hi.guess h]

/-- One packet, protected and unprotected. -/
theorem inStep_ok (hP : GcmLaws P) (hi : InStep s r) {p w : List UInt8}
    (hw : (s.protectRtp P p).1 = .ok w) :
    (r.unprotectRtp P w).1 = .ok p ∧ InStep (s.protectRtp P p).2 (r.unprotectRtp P w).2 := by
  obtain ⟨h, head, payload, hs, hse, hst⟩ := protectRtp_ok hw
  rw [hi.guess h] at hse
  rw [unprotectRtp_of_seal hP hi.keys hs hse, hst]
  exact ⟨rfl, hi.advance h⟩

theorem inStep_error (hi : InStep s r) {p : List UInt8} {e : Fault SrtpError}
    (he : (s.protectRtp P p).1 = .error e) : InStep (s.protectRtp P p).2 r := by
  obtain ⟨hk, hstr⟩ := protectRtp_error he
  exact ⟨⟨hk.suite.trans hi.keys.suite, hk.sessionKey.trans hi.keys.sessionKey,
    hk.sessionSalt.trans hi.keys.sessionSalt, hk.sessionAuthKey.trans hi.keys.sessionAuthKey⟩,
    fun k => (hstr k).trans (hi.streams k)⟩

/-- The packets of a run that `protect_rtp` accepted, each as a successful result. -/
def accepted (packets : List (List UInt8)) (outs : List (Res SrtpError (List UInt8))) :
    List (Res SrtpError (List UInt8)) :=
  (packets.zip outs).filterMap fun po => po.2.toOption.map fun _ => .ok po.1

theorem accepted_of_ok : ∀ (packets : List (List UInt8)) (outs : List (Res SrtpError (List UInt8))),
    packets.length = outs.length ∧ (∀ out ∈ outs, ∃ w, out = .ok w) →
    accepted packets outs = packets.map .ok
  | [], _, _ => rfl
  | p :: packets, [], h => by cases h.1
  | p :: packets, out :: outs, ⟨hlen, hok⟩ => by
    obtain ⟨w, rfl⟩ := hok out List.mem_cons_self
    have ih := accepted_of_ok packets outs
      ⟨Nat.succ.inj hlen, fun o ho => hok o (List.mem_cons_of_mem _ ho)⟩
    simpa only [accepted, List.zip_cons_cons, List.filterMap_cons, Except.toOption, Option.map_some,
      List.map_cons, List.cons.injEq, true_and] using ih

/-- A receiver in step with the sender opens everything the sender protects. -/
theorem inStep_run (hP : GcmLaws P) : ∀ (packets : List (List UInt8)) {s r : SrtpCryptoSuite},
    InStep s r →
    (runAll (unprotectRtp P) r
        ((runAll (protectRtp P) s packets).1.filterMap Except.toOption)).1 =
      accepted packets (runAll (protectRtp P) s packets).1
  | [], _, _, _ => rfl
  | p :: packets, s, r, hi => by
    rw [runAll_cons]
    cases hout : (s.protectRtp P p).1 with
    | error e =>
      have ih := inStep_run hP packets (inStep_error hi hout)
      simpa only [accepted, List.zip_cons_cons, List.filterMap_cons, Except.toOption,
        Option.map_none] using ih
    | ok w =>
      obtain ⟨hopen, hi'⟩ := inStep_ok hP hi hout
      have ih := inStep_run hP packets hi'
      simp only [accepted, List.zip_cons_cons, List.filterMap_cons, Except.toOption,
        Option.map_some, runAll_cons, hopen] at ih ⊢
      rw [ih]

theorem InStep.rfl' (s : SrtpCryptoSuite) : InStep s s := ⟨SameKeys.rfl' s, fun _ => rfl⟩

/-- **In-order round trip.** A fresh receiver fed what a fresh sender protected, in the same order,
returns exactly the packets that were protected. The packets that `protect_rtp` refused are not in
the list and change nothing for the others. -/
theorem srtp_in_order (hP : GcmLaws P) (suite : SrtpSuite) (masterKey : Vector UInt8 16)
    (masterSalt : Vector UInt8 14) (packets : List (List UInt8)) :
    let fresh := ofMaster P suite masterKey masterSalt
    let outs := (runAll (protectRtp P) fresh packets).1
    (runAll (unprotectRtp P) fresh (outs.filterMap Except.toOption)).1 = accepted packets outs :=
  inStep_run hP packets (InStep.rfl' _)

/-- The round trip of a packet, a text too short to be one, and the first packet again. -/
theorem srtp_in_order_concrete :
    let p : List UInt8 := [128, 0, 0, 7, 0, 0, 0, 0, 0, 0, 0, 1, 42]
    let fresh := ofMaster .plain .aesCm128HmacSha180 (Vector.replicate 16 1) (Vector.replicate 14 2)
    let outs := (runAll (protectRtp .plain) fresh [p, [128], p]).1
    (runAll (unprotectRtp .plain) fresh (outs.filterMap Except.toOption)).1 = [.ok p, .ok p] :=
  srtp_in_order Primitives.plain_laws .aesCm128HmacSha180 _ _ [[128, 0, 0, 7, 0, 0, 0, 0, 0, 0, 0, 1, 42], [128],
    [128, 0, 0, 7, 0, 0, 0, 0, 0, 0, 0, 1, 42]]

end SrtpCryptoSuite

end Minghe.Media.Srtp
