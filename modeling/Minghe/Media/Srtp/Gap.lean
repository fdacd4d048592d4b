import Minghe.Media.Srtp.Reorder

/-!
# A receiver that missed the beginning

A sender protects packets in order and none is lost, but the receiver is only shown what comes after
the first `k` of them. It starts every stream at rollover count 0, so it opens the rest if the first
packet it sees of each stream is in the stream's first period (`startsLow`), and then for as long as
the stream lasts: from that packet on both sides hold the same state of the stream (`Catches`), so no
bound on the indexes is needed.

Results:
* `opens_after_gap`: the receiver opens all that it is shown.
* `protectRtp_isOk`: a packet that parses is refused only if it is longer than GCM takes.
-/

namespace Minghe.Media.Srtp

open Minghe.Lib Minghe.Lib.Bytes SrtpCryptoSuite

variable {P : Primitives} {s r : SrtpCryptoSuite} {hi lo : Highest}

/-- The first packet of a stream is in the stream's first period. -/
def startsLow : Option Nat → Nat → Prop
  | none, i => i < 65536
  | some _, _ => True

instance : ∀ o i, Decidable (startsLow o i)
  | none, i => inferInstanceAs (Decidable (i < 65536))
  | some _, _ => isTrue trivial

/-- A sender's streams, as far as they are in their first period: `hi` are the highest indexes. -/
structure TracksLow (s : SrtpCryptoSuite) (hi : Highest) : Prop where
  new : ∀ k, hi k = none → s.streamState k = .default
  low : ∀ k j, hi k = some j → j < 65536 → s.streamState k = stateAt j

/-- What a climbing packet of the first period does to its stream, at the sender. -/
theorem TracksLow.climb (ht : TracksLow s hi) {x : Sent} {h : RtpHeader} (hc : x.Carries h)
    (hclimb : climbs (hi x.ssrc) x.index) (hx : x.index < 65536) : s.guess h = rocOf x.index ∧
      (s.advance h).streamState x.ssrc = stateAt x.index := by
  rw [streamState_advance, if_pos hc.1.symm, SrtpCryptoSuite.guess, hc.1, hc.2]
  cases hhi : hi x.ssrc with
  | none =>
    rw [ht.new _ hhi, estimateRoc_default hx]
    exact ⟨rfl, update_default _⟩
  | some j =>
    rw [hhi] at hclimb
    obtain ⟨h1, h2⟩ := hclimb
    rw [ht.low _ _ hhi (by omega), estimateRoc_ahead (by omega) h1.le h2,
      update_stateAt (by omega) (by omega), Nat.max_eq_right h1.le]
    exact ⟨rfl, rfl⟩

theorem TracksLow.advance (ht : TracksLow s hi) {x : Sent} {h : RtpHeader} (hc : x.Carries h)
    (hclimb : climbs (hi x.ssrc) x.index) : TracksLow (s.advance h) (hi.raise x) where
  new k hk := by
    unfold Highest.raise at hk
    split at hk
    · cases hk
    · rename_i hne
      rw [streamState_advance, hc.1, if_neg hne]
      exact ht.new k hk
  low k j hk hj := by
    unfold Highest.raise at hk
    split at hk
    · rename_i he
      subst he
      have hji : x.index = j := by
        cases hhi : hi x.ssrc with
        | none => rw [hhi] at hk; exact Option.some.inj hk
        | some j' =>
          rw [hhi] at hk hclimb
          have hmax : max x.index j' = j := Option.some.inj hk
          have hlt : j' < x.index := hclimb.1
          omega
      subst hji
      exact (ht.climb hc hclimb hj).2
    · rename_i hne
      rw [streamState_advance, hc.1, if_neg hne]
      exact ht.low k j hk hj

/-- The receiver has seen no packet of a stream, or holds the sender's state of it. `lo` are the
indexes it has seen. -/
structure Catches (s r : SrtpCryptoSuite) (hi lo : Highest) : Prop where
  keys : SameKeys s r
  low : TracksLow s hi
  unseen : ∀ k, lo k = none → r.streamState k = .default
  seen : ∀ k j, lo k = some j → r.streamState k = s.streamState k

/-- One packet. -/
theorem Catches.step (hP : GcmLaws P) (hc : Catches s r hi lo) {x : Sent} {w : List UInt8}
    (hw : (s.protectRtp P x.rtp).1 = .ok w) (hlab : x.Labelled)
    (hclimb : climbs (hi x.ssrc) x.index) (hstart : startsLow (lo x.ssrc) x.index) :
    (r.unprotectRtp P w).1 = .ok x.rtp ∧
      Catches (s.protectRtp P x.rtp).2 (r.unprotectRtp P w).2 (hi.raise x) (lo.raise x) := by
  obtain ⟨h, head, payload, hs, hse, hst⟩ := protectRtp_ok hw
  have hcar := hlab.carries hs
  -- both make the same guess, and hold the same state of the stream afterwards
  obtain ⟨hg, hstate⟩ : s.guess h = r.guess h ∧
      (r.advance h).streamState x.ssrc = (s.advance h).streamState x.ssrc := by
    cases hlo : lo x.ssrc with
    | none =>
      rw [hlo] at hstart
      obtain ⟨hg, hstate⟩ := hc.low.climb hcar hclimb hstart
      have hg' : r.guess h = rocOf x.index := by
        rw [SrtpCryptoSuite.guess, hcar.1, hcar.2, hc.unseen _ hlo]
        exact estimateRoc_default hstart
      rw [hg, hg', hstate, streamState_advance, if_pos hcar.1.symm, hcar.1, hcar.2, hg',
        hc.unseen _ hlo]
      exact ⟨rfl, update_default _⟩
    | some j =>
      have hg : s.guess h = r.guess h := by
        rw [SrtpCryptoSuite.guess, SrtpCryptoSuite.guess, hcar.1, hc.seen _ _ hlo]
      refine ⟨hg, ?_⟩
      rw [streamState_advance, streamState_advance, ← hg, hcar.1, hc.seen _ _ hlo]
  rw [hg] at hse
  rw [unprotectRtp_of_seal hP hc.keys hs hse, hst]
  refine ⟨rfl, ⟨hc.keys.suite, hc.keys.sessionKey, hc.keys.sessionSalt, hc.keys.sessionAuthKey⟩,
    hc.low.advance hcar hclimb, fun k hk => ?_, fun k j hk => ?_⟩
  · unfold Highest.raise at hk
    split at hk
    · cases hk
    · rename_i hne
      rw [streamState_advance, hcar.1, if_neg hne]
      exact hc.unseen k hk
  · unfold Highest.raise at hk
    split at hk
    · rename_i he
      rw [he, hstate]
    · rename_i hne
      rw [streamState_advance, streamState_advance, hcar.1, if_neg hne, if_neg hne]
      exact hc.seen k j hk

/-- A refused packet changes nothing. -/
theorem Catches.refused (hc : Catches s r hi lo) {p : List UInt8} {e : Fault SrtpError}
    (he : (s.protectRtp P p).1 = .error e) : Catches (s.protectRtp P p).2 r hi lo := by
  obtain ⟨hk, hstr⟩ := protectRtp_error he
  refine ⟨⟨hk.suite.trans hc.keys.suite, hk.sessionKey.trans hc.keys.sessionKey,
    hk.sessionSalt.trans hc.keys.sessionSalt, hk.sessionAuthKey.trans hc.keys.sessionAuthKey⟩,
    ⟨fun k hk => ?_, fun k j hk hj => ?_⟩, hc.unseen, fun k j hk => ?_⟩
  · rw [hstr, hc.low.new k hk]
  · rw [hstr, hc.low.low k j hk hj]
  · rw [hstr, hc.seen k j hk]

/-- The accepted packet, ahead of what the sender makes of the others. -/
theorem protectedBy_cons_ok {x : Sent} {sent : List Sent} {w : List UInt8}
    (hw : (s.protectRtp P x.rtp).1 = .ok w) :
    protectedBy P s (x :: sent) = (x, w) :: protectedBy P (s.protectRtp P x.rtp).2 sent := by
  rw [protectedBy_cons, hw]
  rfl

theorem protectedBy_cons_error {x : Sent} {sent : List Sent} {e : Fault SrtpError}
    (he : (s.protectRtp P x.rtp).1 = .error e) :
    protectedBy P s (x :: sent) = protectedBy P (s.protectRtp P x.rtp).2 sent := by
  rw [protectedBy_cons, he]
  rfl

/-- Each packet in the list was protected by the sender in some state. -/
theorem protectedBy_ok : ∀ {sent : List Sent} {s : SrtpCryptoSuite}, ∀ d ∈ protectedBy P s sent,
    ∃ s' : SrtpCryptoSuite, (s'.protectRtp P d.1.rtp).1 = .ok d.2
  | [], _, _, hd => by cases hd
  | x :: sent, s, d, hd => by
    cases hout : (s.protectRtp P x.rtp).1 with
    | error e =>
      rw [protectedBy_cons_error hout] at hd
      exact protectedBy_ok d hd
    | ok w =>
      rw [protectedBy_cons_ok hout] at hd
      rcases List.mem_cons.mp hd with rfl | hd
      · exact ⟨s, hout⟩
      · exact protectedBy_ok d hd

/-- All packets from here on. -/
theorem Catches.run (hP : GcmLaws P) : ∀ {sent : List Sent} {s r : SrtpCryptoSuite} {hi lo : Highest},
    Catches s r hi lo → (∀ d ∈ protectedBy P s sent, d.1.Labelled) →
    Schedule climbs hi ((protectedBy P s sent).map Prod.fst) →
    Schedule startsLow lo ((protectedBy P s sent).map Prod.fst) →
    (runAll (unprotectRtp P) r ((protectedBy P s sent).map Prod.snd)).1 =
      (protectedBy P s sent).map fun d => .ok d.1.rtp
  | [], _, _, _, _, _, _, _, _ => rfl
  | x :: sent, s, r, hi, lo, hc, hlab, hclimbs, hstarts => by
    cases hout : (s.protectRtp P x.rtp).1 with
    | error e =>
      rw [protectedBy_cons_error hout] at hlab hclimbs hstarts ⊢
      exact (hc.refused hout).run hP hlab hclimbs hstarts
    | ok w =>
      rw [protectedBy_cons_ok hout] at hlab hclimbs hstarts ⊢
      obtain ⟨hok, hc'⟩ := hc.step hP hout (hlab _ List.mem_cons_self) hclimbs.1 hstarts.1
      rw [List.map_cons, List.map_cons, runAll_cons, hok,
        hc'.run hP (fun d hd => hlab d (List.mem_cons_of_mem _ hd)) hclimbs.2 hstarts.2]

/-- **After a gap.** A receiver that has seen nothing opens all packets after the first `k`, if the
first of them on each stream is in the stream's first period. -/
theorem opens_after_gap (hP : GcmLaws P) : ∀ {sent : List Sent} {s r : SrtpCryptoSuite} {hi : Highest}
    (k : Nat), SameKeys s r → TracksLow s hi → (∀ ssrc, r.streamState ssrc = .default) →
    (∀ d ∈ protectedBy P s sent, d.1.Labelled) →
    Schedule climbs hi ((protectedBy P s sent).map Prod.fst) →
    Schedule startsLow .start (((protectedBy P s sent).drop k).map Prod.fst) →
    (runAll (unprotectRtp P) r (((protectedBy P s sent).drop k).map Prod.snd)).1 =
      ((protectedBy P s sent).drop k).map fun d => .ok d.1.rtp
  | sent, s, r, hi, 0, hk, ht, hr, hlab, hclimbs, hstarts =>
    Catches.run hP ⟨hk, ht, fun ssrc _ => hr ssrc, fun _ _ he => by cases he⟩ hlab hclimbs hstarts
  | [], _, _, _, _ + 1, _, _, _, _, _, _ => rfl
  | x :: sent, s, r, hi, k + 1, hk, ht, hr, hlab, hclimbs, hstarts => by
    have hc : Catches s r hi .start := ⟨hk, ht, fun ssrc _ => hr ssrc, fun _ _ he => by cases he⟩
    cases hout : (s.protectRtp P x.rtp).1 with
    | error e =>
      have hc' := hc.refused hout
      rw [protectedBy_cons_error hout] at hlab hclimbs hstarts ⊢
      exact opens_after_gap hP (k + 1) hc'.keys hc'.low hr hlab hclimbs hstarts
    | ok w =>
      obtain ⟨h, head, payload, hs, -, hst⟩ := protectRtp_ok hout
      rw [protectedBy_cons_ok hout] at hlab hclimbs hstarts ⊢
      have hcar := (hlab _ List.mem_cons_self).carries hs
      refine opens_after_gap hP k ?_ (?_ : TracksLow _ (hi.raise x)) hr
        (fun d hd => hlab d (List.mem_cons_of_mem _ hd)) hclimbs.2 hstarts
      · rw [hst]
        exact ⟨hk.suite, hk.sessionKey, hk.sessionSalt, hk.sessionAuthKey⟩
      · rw [hst]
        exact ht.advance hcar hclimbs.1

/-! ## Packets that GCM takes -/

/-- A packet that parses is protected, unless it is too long for GCM. -/
theorem protectRtp_isOk (hP : GcmLaws P) {p head payload : List UInt8} {h : RtpHeader}
    (hs : splitRtp p = .ok (h, head, payload)) (hlen : p.length ≤ 2 ^ 36) :
    ∃ w, (s.protectRtp P p).1 = .ok w := by
  obtain ⟨-, hp⟩ := splitRtp_parts hs
  have hle : head.length + payload.length ≤ 2 ^ 36 := by
    rw [← List.length_append, ← hp]; exact hlen
  rw [protectRtp_eq hs]
  unfold sealPayload
  cases s.suite with
  | aesCm128HmacSha180 => exact ⟨_, rfl⟩
  | aeadAes128Gcm =>
    obtain ⟨ct, hct⟩ := Option.isSome_iff_exists.mp (hP.encrypt_some s.sessionKey
      (s.gcmIv h.ssrc (s.guess h) h.sequenceNumber) head payload (by omega) (by omega))
    simp only [hct]
    exact ⟨_, rfl⟩

/-- A protected packet is longer than the packet. -/
theorem length_le_of_protectRtp (hP : GcmLaws P) {p w : List UInt8}
    (hw : (s.protectRtp P p).1 = .ok w) : p.length < w.length := by
  obtain ⟨h, head, payload, hs, hse, -⟩ := protectRtp_ok hw
  obtain ⟨-, hp⟩ := splitRtp_parts hs
  rw [hp, List.length_append]
  unfold sealPayload at hse
  split at hse
  · simp only [Except.ok.injEq] at hse
    rw [← hse]
    simp only [List.length_append, length_aesCmEncrypt, length_computeAuthTag]
    omega
  · split at hse
    · rename_i ct hct
      simp only [Except.ok.injEq] at hse
      rw [← hse, List.length_append, hP.length_encrypt hct]
      omega
    · cases hse

end Minghe.Media.Srtp
