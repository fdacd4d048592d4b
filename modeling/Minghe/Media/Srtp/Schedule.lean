import Minghe.Lib.Run
import Minghe.Media.Srtp.RoundTrip

/-!
# Runs whose packets carry extended indexes

A run of `protect_rtp` or `unprotect_rtp` is described by the SSRC and the extended index of each of
its packets (`Sent`). `Highest` is the highest index of each SSRC so far, and `Schedule rule` says
that every packet of a list meets `rule` against the highest index it finds:

* `climbs`: a sender's indexes start below 65536 and grow by less than `2^15`.
* `arrives`: a receiver's first index is below 65536, every later one within `2^15 - 1` of the highest.
* `judged`: no late packet is one that `estimate_roc` counts a period too low (`Misjudged`).

`Tracks` ties a suite to a `Highest`: every stream is in the state its highest index gives.

* `Tracks.guess`: for the next packet of a schedule the suite works with the packet's own rollover count.
* `Tracks.advance`: it tracks the raised index afterwards.
-/

namespace Minghe.Media.Srtp

open Minghe.Lib Minghe.Lib.Bytes

/-- A packet handed to a sender: its SSRC, its extended index and its bytes. -/
structure Sent where
  ssrc : UInt32
  index : Nat
  rtp : List UInt8
  deriving DecidableEq, Repr

/-- The header of the packet has the SSRC and the low 16 bits of the index. -/
def Sent.Carries (x : Sent) (h : RtpHeader) : Prop :=
  h.ssrc = x.ssrc ∧ h.sequenceNumber = seqOf x.index

instance (x : Sent) (h : RtpHeader) : Decidable (x.Carries h) := by
  unfold Sent.Carries; infer_instance

/-- The packet carries its label, if it is an RTP packet at all. -/
def Sent.Labelled (x : Sent) : Prop :=
  match splitRtp x.rtp with
  | .ok (h, _, _) => x.Carries h
  | .error _ => True

instance (x : Sent) : Decidable x.Labelled := by
  unfold Sent.Labelled; split <;> infer_instance

theorem Sent.Labelled.carries {x : Sent} (hl : x.Labelled) {h : RtpHeader}
    {head payload : List UInt8} (hs : splitRtp x.rtp = .ok (h, head, payload)) : x.Carries h := by
  unfold Labelled at hl
  rw [hs] at hl
  exact hl

/-- An RTP packet of SSRC 1 with extended index `i` and a one-byte payload. -/
def packetAt (i : Nat) : Sent :=
  ⟨1, i, [128, 0] ++ beBytes 2 i ++ [0, 0, 0, 0, 0, 0, 0, 1, 42]⟩

/-- The highest index of each SSRC so far. -/
abbrev Highest := UInt32 → Option Nat

/-- No packet yet. -/
def Highest.start : Highest := fun _ => none

/-- The highest index after `x`. -/
def Highest.raise (hi : Highest) (x : Sent) : Highest := fun k =>
  if k = x.ssrc then some ((hi k).elim x.index (max x.index)) else hi k

/-- Each packet in turn meets `rule` against the highest index of its SSRC before it. -/
def Schedule (rule : Option Nat → Nat → Prop) : Highest → List Sent → Prop
  | _, [] => True
  | hi, x :: xs => rule (hi x.ssrc) x.index ∧ Schedule rule (hi.raise x) xs

instance (rule : Option Nat → Nat → Prop) [∀ o i, Decidable (rule o i)] :
    ∀ hi xs, Decidable (Schedule rule hi xs)
  | _, [] => isTrue trivial
  | hi, x :: xs =>
    have := instDecidableSchedule rule (hi.raise x) xs
    inferInstanceAs (Decidable (_ ∧ _))

/-- A sender's next index. -/
def climbs : Option Nat → Nat → Prop
  | none, i => i < 65536
  | some j, i => j < i ∧ i < j + 2 ^ 15

/-- A receiver's next index, under loss and reordering. -/
def arrives : Option Nat → Nat → Prop
  | none, i => i < 65536
  | some j, i => i < j + 2 ^ 15 ∧ j < i + 2 ^ 15

/-- The packet is not one that `estimate_roc` misjudges. -/
def judged : Option Nat → Nat → Prop
  | none, _ => True
  | some j, i => ¬ Misjudged j i

instance : ∀ o i, Decidable (climbs o i)
  | none, i => inferInstanceAs (Decidable (i < 65536))
  | some _, _ => inferInstanceAs (Decidable (_ ∧ _))

instance : ∀ o i, Decidable (arrives o i)
  | none, i => inferInstanceAs (Decidable (i < 65536))
  | some _, _ => inferInstanceAs (Decidable (_ ∧ _))

instance : ∀ o i, Decidable (judged o i)
  | none, _ => isTrue trivial
  | some _, _ => inferInstanceAs (Decidable (¬ _))

/-- A sender's packets are in order, so they would be judged right on arrival. -/
theorem arrives_judged_of_climbs {o : Option Nat} {i : Nat} (h : climbs o i) :
    arrives o i ∧ judged o i := by
  cases o with
  | none => exact ⟨h, trivial⟩
  | some j =>
    obtain ⟨h1, h2⟩ := h
    exact ⟨⟨h2, by omega⟩, fun hm => absurd hm.1 (by omega)⟩

/-! ## Suites that track their highest indexes -/

/-- Every stream is in the state that its highest index gives. -/
structure Tracks (s : SrtpCryptoSuite) (hi : Highest) : Prop where
  state : ∀ k, s.streamState k = (hi k).elim .default stateAt
  bound : ∀ k j, hi k = some j → j < 2 ^ 48

namespace Tracks

variable {s : SrtpCryptoSuite} {hi : Highest} {x : Sent} {h : RtpHeader}

/-- A new suite has seen no packet. -/
theorem ofMaster (P : Primitives) (suite : SrtpSuite) (masterKey : Vector UInt8 16)
    (masterSalt : Vector UInt8 14) :
    Tracks (.ofMaster P suite masterKey masterSalt) Highest.start where
  state _ := rfl
  bound _ _ h := by cases h

/-- **The guess is the packet's own rollover count.** -/
theorem guess (ht : Tracks s hi) (hc : x.Carries h) (hx : x.index < 2 ^ 48)
    (ha : arrives (hi x.ssrc) x.index) (hj : judged (hi x.ssrc) x.index) :
    s.guess h = rocOf x.index := by
  unfold SrtpCryptoSuite.guess
  rw [hc.1, hc.2, ht.state]
  cases hhi : hi x.ssrc with
  | none => rw [hhi] at ha; exact estimateRoc_default ha
  | some j =>
    rw [hhi] at ha hj
    obtain ⟨h1, h2⟩ := ha
    by_cases hle : j ≤ x.index
    · exact estimateRoc_ahead hx hle h1
    · exact estimateRoc_behind (ht.bound _ _ hhi) (by omega) h2 hj

/-- The packet raises the highest index of its stream. -/
theorem advance (ht : Tracks s hi) (hc : x.Carries h) (hx : x.index < 2 ^ 48)
    (hg : s.guess h = rocOf x.index) : Tracks (s.advance h) (hi.raise x) where
  state k := by
    rw [SrtpCryptoSuite.streamState_advance, hg, hc.1, hc.2, Highest.raise]
    split
    · rename_i hk
      subst hk
      rw [ht.state]
      cases hhi : hi x.ssrc with
      | none => exact update_default _
      | some j =>
        simp only [Option.elim]
        rw [update_stateAt (ht.bound _ _ hhi) hx, Nat.max_comm]
    · exact ht.state k
  bound k j hj := by
    unfold Highest.raise at hj
    split at hj
    · cases hhi : hi k with
      | none => rw [hhi] at hj; cases hj; exact hx
      | some j' =>
        rw [hhi] at hj
        cases hj
        exact Nat.max_lt.mpr ⟨hx, ht.bound _ _ hhi⟩
    · exact ht.bound k j hj

end Tracks

end Minghe.Media.Srtp
