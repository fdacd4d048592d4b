import Minghe.Media.Srtp.Schedule

/-!
# SRTP under loss and reordering

A sender protects packets with climbing indexes; the network drops, reorders and repeats what it
made of them. Sender and receiver each track the highest index of every stream, so both work with a
packet's own rollover count, and `unprotectRtp_of_seal` applies.

`srtp_reordered` needs one assumption besides the network's: no delivered packet is `Misjudged`.
`srtp_reordered_fails` is a run without it: the packets 65535, 65539 and 65541, the last two
exchanged on the way, and the receiver looks for the late one in the period before its own.
-/

namespace Minghe.Media.Srtp

open Minghe.Lib Minghe.Lib.Bytes SrtpCryptoSuite

variable {P : Primitives} {s r : SrtpCryptoSuite}

/-- What a sender made of the packets it was handed, without those it refused. -/
def protectedBy (P : Primitives) (s : SrtpCryptoSuite) (sent : List Sent) :
    List (Sent × List UInt8) :=
  (sent.zip (runAll (protectRtp P) s (sent.map Sent.rtp)).1).filterMap fun xo =>
    xo.2.toOption.map (xo.1, ·)

/-- `w` is the packet `x`, sealed with the keys of `s` under the packet's own rollover count. -/
def SealedAs (P : Primitives) (s : SrtpCryptoSuite) (x : Sent) (w : List UInt8) : Prop :=
  ∃ h head payload, splitRtp x.rtp = .ok (h, head, payload) ∧ x.Carries h ∧
    s.sealPayload P h (rocOf x.index) head payload = .ok w

/-- Sealing depends on the keys only. -/
theorem SrtpCryptoSuite.SameKeys.sealPayload (hk : SameKeys s r) (h : RtpHeader) (roc : UInt32)
    (head payload : List UInt8) : s.sealPayload P h roc head payload =
      r.sealPayload P h roc head payload := by
  obtain ⟨hcm, htag, hiv⟩ := hk.cipher (P := P)
  unfold SrtpCryptoSuite.sealPayload
  rw [hk.suite]
  simp only [hcm, htag, hiv, hk.sessionKey]

/-! ## The sender -/

/-- The packets carry their indexes, which stay below `2 ^ 48`. -/
def InRange (sealed : List (Sent × List UInt8)) : Prop :=
  ∀ d ∈ sealed, d.1.index < 2 ^ 48 ∧ d.1.Labelled

instance (sealed : List (Sent × List UInt8)) : Decidable (InRange sealed) := by
  unfold InRange; infer_instance

theorem protectedBy_cons (x : Sent) (sent : List Sent) :
    protectedBy P s (x :: sent) =
      ((s.protectRtp P x.rtp).1.toOption.map (x, ·)).toList ++
        protectedBy P (s.protectRtp P x.rtp).2 sent := by
  unfold protectedBy
  rw [List.map_cons, runAll_cons, List.zip_cons_cons, List.filterMap_cons]
  cases (s.protectRtp P x.rtp).1 <;> rfl

/-- **Every packet that a sender accepts is sealed under its own rollover count.** -/
theorem sealedAs_protectedBy : ∀ {sent : List Sent} {s : SrtpCryptoSuite} {hi : Highest},
    Tracks s hi → InRange (protectedBy P s sent) →
    Schedule climbs hi ((protectedBy P s sent).map Prod.fst) →
    ∀ d ∈ protectedBy P s sent, SealedAs P s d.1 d.2
  | [], _, _, _, _, _ => fun _ hd => by cases hd
  | x :: sent, s, hi, ht, hr, hsch => by
    rw [protectedBy_cons] at hr hsch ⊢
    cases hout : (s.protectRtp P x.rtp).1 with
    | error e =>
      rw [hout] at hr hsch
      obtain ⟨hk, hstr⟩ := protectRtp_error hout
      have ht' : Tracks (s.protectRtp P x.rtp).2 hi :=
        ⟨fun k => (hstr k).trans (ht.state k), ht.bound⟩
      intro d hd
      obtain ⟨h, head, payload, hsp, hc, hw⟩ := sealedAs_protectedBy ht' hr hsch d hd
      exact ⟨h, head, payload, hsp, hc, by rw [← hk.sealPayload]; exact hw⟩
    | ok w =>
      rw [hout] at hr hsch
      obtain ⟨h, head, payload, hsp, hw, hst⟩ := protectRtp_ok hout
      obtain ⟨hx, hcar⟩ := hr (x, w) (by simp [Except.toOption])
      have hc := hcar.carries hsp
      obtain ⟨hclimb, hsch'⟩ := hsch
      obtain ⟨ha, hj⟩ := arrives_judged_of_climbs hclimb
      have hg := ht.guess hc hx ha hj
      have ht' := ht.advance hc hx hg
      rw [hst] at hr hsch' ⊢
      intro d hd
      rcases List.mem_append.mp hd with hd | hd
      · simp only [Except.toOption, Option.map_some, Option.toList_some, List.mem_singleton] at hd
        subst hd
        exact ⟨h, head, payload, hsp, hc, by rw [← hg]; exact hw⟩
      · obtain ⟨h', head', payload', hsp', hc', hw'⟩ := sealedAs_protectedBy ht'
          (fun d hd => hr d (List.mem_append_right _ hd)) hsch' d hd
        exact ⟨h', head', payload', hsp', hc', by
          rw [← (sameKeys_advance h).sealPayload]; exact hw'⟩

/-! ## The receiver -/

/-- A receiver that has the keys of `s` and whose remaining deliveries are sealed packets within the
network's bounds. -/
structure Receives (P : Primitives) (s : SrtpCryptoSuite) (r : SrtpCryptoSuite)
    (delivered : List (Sent × List UInt8)) (hi : Highest) : Prop where
  keys : SameKeys s r
  tracks : Tracks r hi
  sealed : ∀ d ∈ delivered, d.1.index < 2 ^ 48 ∧ SealedAs P s d.1 d.2
  arrives : Schedule arrives hi (delivered.map Prod.fst)
  judged : Schedule judged hi (delivered.map Prod.fst)

/-- One delivery. -/
theorem Receives.step (hP : GcmLaws P) {d : Sent × List UInt8} {ds : List (Sent × List UInt8)}
    {hi : Highest} (hr : Receives P s r (d :: ds) hi) :
    (r.unprotectRtp P d.2).1 = .ok d.1.rtp ∧
      Receives P s (r.unprotectRtp P d.2).2 ds (hi.raise d.1) := by
  obtain ⟨hk, ht, hseal, ⟨ha, harr⟩, hj, hjud⟩ := hr
  obtain ⟨hx, h, head, payload, hsp, hc, hw⟩ := hseal d List.mem_cons_self
  have hg := ht.guess hc hx ha hj
  rw [← hg] at hw
  rw [unprotectRtp_of_seal hP hk hsp hw]
  refine ⟨rfl, ⟨hk.suite, hk.sessionKey, hk.sessionSalt, hk.sessionAuthKey⟩,
    ht.advance hc hx hg, fun d hd => hseal d (List.mem_cons_of_mem _ hd), harr, hjud⟩

/-- **Loss and reordering.** From a fresh sender and a fresh receiver with one suite, key and salt:
if the accepted packets' indexes climb and stay below `2 ^ 48`, and the deliveries are accepted
packets that arrive within `2 ^ 15 - 1` of the highest index so far, none of them misjudged, then
each delivery returns the packet that was protected. -/
theorem srtp_reordered (hP : GcmLaws P) (suite : SrtpSuite) (masterKey : Vector UInt8 16)
    (masterSalt : Vector UInt8 14) {sent : List Sent} {delivered : List (Sent × List UInt8)}
    (hrange : InRange (protectedBy P (ofMaster P suite masterKey masterSalt) sent))
    (hclimbs : Schedule climbs .start
      ((protectedBy P (ofMaster P suite masterKey masterSalt) sent).map Prod.fst))
    (hdelivered : ∀ d ∈ delivered,
      d ∈ protectedBy P (ofMaster P suite masterKey masterSalt) sent)
    (harrives : Schedule arrives .start (delivered.map Prod.fst))
    (hjudged : Schedule judged .start (delivered.map Prod.fst)) :
    (runAll (unprotectRtp P) (ofMaster P suite masterKey masterSalt)
      (delivered.map Prod.snd)).1 = delivered.map fun d => .ok d.1.rtp := by
  have hstart := Tracks.ofMaster P suite masterKey masterSalt
  have hseal := sealedAs_protectedBy hstart hrange hclimbs
  refine eq_map_of_forall (runAll_forall (g := Prod.snd)
    (fun r ds => ∃ hi, Receives P (ofMaster P suite masterKey masterSalt) r ds hi) ?_
    ⟨.start, SameKeys.rfl' _, hstart, fun d hd => ?_, harrives, hjudged⟩)
  · rintro r d ds ⟨hi, hr⟩
    obtain ⟨hok, hr'⟩ := hr.step hP
    exact ⟨hok, _, hr'⟩
  · have hd' := hdelivered d hd
    exact ⟨(hrange d hd').1, hseal d hd'⟩

/-! ## Concrete runs -/

/-- What a fresh sender with fixed keys makes of the packets with these indexes. -/
def sealedDemo (indexes : List Nat) : List (Sent × List UInt8) :=
  protectedBy .plain
    (ofMaster .plain .aesCm128HmacSha180 (Vector.replicate 16 1) (Vector.replicate 14 2))
    (indexes.map packetAt)

/-- What a fresh receiver with the same keys returns. -/
def openedDemo (delivered : List (Sent × List UInt8)) : List (Res SrtpError (List UInt8)) :=
  (runAll (unprotectRtp .plain)
    (ofMaster .plain .aesCm128HmacSha180 (Vector.replicate 16 1) (Vector.replicate 14 2))
    (delivered.map Prod.snd)).1

/-- Two late packets that are judged right: the highest index is in the upper half of its period. -/
theorem srtp_reordered_concrete :
    openedDemo (sealedDemo [40000, 40001, 40002]).reverse =
      (sealedDemo [40000, 40001, 40002]).reverse.map fun d => .ok d.1.rtp :=
  @srtp_reordered .plain Primitives.plain_laws .aesCm128HmacSha180 (Vector.replicate 16 1)
    (Vector.replicate 14 2) ([40000, 40001, 40002].map packetAt)
    (sealedDemo [40000, 40001, 40002]).reverse
    (by decide +kernel) (by decide +kernel) (fun _ hd => List.mem_reverse.mp hd)
    (by decide +kernel) (by decide +kernel)

/-- **A late packet after a rollover is refused.** Index 65539 arrives after 65541: the receiver is in
the lower half of the second period, takes sequence number 3 < 5 for the first, and the tag does not
verify under rollover count 0. -/
theorem srtp_reordered_fails :
    let sealed := sealedDemo [65535, 65539, 65541]
    let delivered := sealed.take 1 ++ sealed.drop 2 ++ (sealed.drop 1).take 1
    sealed.map Prod.fst = [65535, 65539, 65541].map packetAt ∧ InRange sealed ∧
      Schedule climbs .start (sealed.map Prod.fst) ∧
      Schedule arrives .start (delivered.map Prod.fst) ∧
      openedDemo delivered =
        [.ok (packetAt 65535).rtp, .ok (packetAt 65541).rtp, Res.err .authenticationFailed] := by
  decide +kernel

end Minghe.Media.Srtp
