import Mathlib.Data.UInt
import Mathlib.Tactic.Common

/-!
# The rollover counter of an SRTP stream

Model of `SrtpStreamState`, `estimate_roc` and `update_stream_state_after_success` (`srtp.rs`).
A packet carries the low 16 bits of its extended index `i`; `seqOf i` are those bits and `rocOf i`
the 32 above them. A stream that has seen `i` as its highest index is in the state `stateAt i`.

`estimate_roc` compares sequence numbers with `wrapping_sub`, so in the lower half of the sequence
space (`highest_sequence < 32768`) every sequence number below the highest one is taken for the end
of the previous period. That is `Misjudged`: a packet at most `2^15 - 1` late that belongs to the
same period, after the first one. `saturating_sub` hides the fault while the counter is 0.

Results, for an index `i` below `2^48` within `2^15 - 1` of the highest index `j`:
* `estimateRoc_ahead`: a packet at or past the highest index gets its own rollover count.
* `estimateRoc_behind`: so does a late packet that is not `Misjudged`.
* `estimateRoc_misjudged`: a `Misjudged` packet gets the count before its own.
* `update_stateAt`: with the right estimate the state moves to `max i j`.
* `rollover_law_iff`: **the law of the rollover counter** holds unless the packet is `Misjudged`.
-/

namespace Minghe.Media.Srtp

/-- `SrtpStreamState`. -/
structure SrtpStreamState where
  roc : UInt32
  highestSequence : Option UInt16
  deriving DecidableEq, Repr

/-- `#[derive(Default)]`. -/
def SrtpStreamState.default : SrtpStreamState := ⟨0, none⟩

/-- `estimate_roc`. -/
def estimateRoc (state : SrtpStreamState) (sequence : UInt16) : UInt32 :=
  match state.highestSequence with
  | none => state.roc
  | some highestSequence =>
    if highestSequence < 32768 then
      -- `wrapping_sub`, then `saturating_sub(1)`
      if sequence - highestSequence > 32768 then
        if state.roc = 0 then 0 else state.roc - 1
      else state.roc
    else if highestSequence - 32768 > sequence then
      -- `wrapping_add(1)`
      state.roc + 1
    else state.roc

/-- `(roc as u64) << 16 | sequence as u64`, also `packet_index` of `protect_rtp`. -/
def packetIndex (roc : UInt32) (sequence : UInt16) : Nat := roc.toNat * 65536 + sequence.toNat

/-- `update_stream_state_after_success`. -/
def updateStreamStateAfterSuccess (state : SrtpStreamState) (sequence : UInt16)
    (guessedRoc : UInt32) : SrtpStreamState :=
  match state.highestSequence with
  | none => ⟨guessedRoc, some sequence⟩
  | some highestSequence =>
    if packetIndex guessedRoc sequence > packetIndex state.roc highestSequence then
      ⟨guessedRoc, some sequence⟩
    else state

/-! ## Extended indexes -/

/-- The sequence number of the packet with extended index `i`. -/
def seqOf (i : Nat) : UInt16 := UInt16.ofNat i

/-- The rollover count of the packet with extended index `i`. -/
def rocOf (i : Nat) : UInt32 := UInt32.ofNat (i / 65536)

/-- The state of a stream whose highest extended index so far is `i`. -/
def stateAt (i : Nat) : SrtpStreamState := ⟨rocOf i, some (seqOf i)⟩

/-- The late packets `estimate_roc` counts one period too low: index `i` lies below the highest
index `j`, in the same period, that period is not the first, and `j` is in its lower half. -/
def Misjudged (j i : Nat) : Prop :=
  i < j ∧ i / 65536 = j / 65536 ∧ 65536 ≤ j ∧ j % 65536 < 32768

instance (j i : Nat) : Decidable (Misjudged j i) := by unfold Misjudged; infer_instance

@[simp] theorem toNat_seqOf (i : Nat) : (seqOf i).toNat = i % 65536 := by
  simp [seqOf]

theorem toNat_rocOf {i : Nat} (hi : i < 2 ^ 48) : (rocOf i).toNat = i / 65536 := by
  simp only [rocOf, UInt32.toNat_ofNat']
  omega

theorem packetIndex_of {i : Nat} (hi : i < 2 ^ 48) : packetIndex (rocOf i) (seqOf i) = i := by
  rw [packetIndex, toNat_rocOf hi, toNat_seqOf]
  omega

theorem packetIndex_lt (roc : UInt32) (sequence : UInt16) :
    packetIndex roc sequence < 2 ^ 48 := by
  have h1 := roc.toNat_lt
  have h2 := sequence.toNat_lt
  unfold packetIndex
  omega

/-- A rollover count and a sequence number are read off the packet index. -/
theorem packetIndex_inj {r r' : UInt32} {s s' : UInt16} (h : packetIndex r s = packetIndex r' s') :
    r = r' ∧ s = s' := by
  have h1 := s.toNat_lt
  have h2 := s'.toNat_lt
  unfold packetIndex at h
  exact ⟨UInt32.toNat_inj.mp (by omega), UInt16.toNat_inj.mp (by omega)⟩

/-- `estimate_roc` in terms of the numbers it compares. -/
theorem toNat_estimateRoc (roc : UInt32) (s sequence : UInt16) :
    (estimateRoc ⟨roc, some s⟩ sequence).toNat =
      if s.toNat < 32768 then
        if (65536 - s.toNat + sequence.toNat) % 65536 > 32768 then roc.toNat - 1 else roc.toNat
      else if s.toNat - 32768 > sequence.toNat then (roc.toNat + 1) % 2 ^ 32 else roc.toNat := by
  have hs := s.toNat_lt
  have hr := roc.toNat_lt
  simp only [estimateRoc, UInt16.lt_iff_toNat_lt, gt_iff_lt, UInt16.toNat_sub, UInt16.reduceToNat]
  by_cases h : s.toNat < 32768
  · rw [if_pos h, if_pos h]
    split
    · by_cases h0 : roc = 0
      · rw [if_pos h0, h0]; rfl
      · have : roc.toNat ≠ 0 := fun e => h0 (UInt32.toNat_inj.mp e)
        rw [if_neg h0, UInt32.toNat_sub, UInt32.toNat_one]
        omega
    · rfl
  · rw [if_neg h, if_neg h, show (2 ^ 16 - 32768 + s.toNat) % 2 ^ 16 = s.toNat - 32768 by omega]
    split
    · rw [UInt32.toNat_add, UInt32.toNat_one]
    · rfl

/-- **At or past the highest index the estimate is right.** -/
theorem estimateRoc_ahead {j i : Nat} (hi : i < 2 ^ 48) (hji : j ≤ i) (hw : i < j + 2 ^ 15) :
    estimateRoc (stateAt j) (seqOf i) = rocOf i := by
  apply UInt32.toNat_inj.mp
  rw [stateAt, toNat_estimateRoc, toNat_rocOf hi, toNat_rocOf (by omega), toNat_seqOf, toNat_seqOf]
  split_ifs <;> omega

/-- **Below it the estimate is right unless the packet is `Misjudged`.** -/
theorem estimateRoc_behind {j i : Nat} (hj : j < 2 ^ 48) (hij : i ≤ j) (hw : j < i + 2 ^ 15)
    (hm : ¬ Misjudged j i) : estimateRoc (stateAt j) (seqOf i) = rocOf i := by
  unfold Misjudged at hm
  apply UInt32.toNat_inj.mp
  rw [stateAt, toNat_estimateRoc, toNat_rocOf hj, toNat_rocOf (by omega), toNat_seqOf, toNat_seqOf]
  split_ifs <;> omega

/-- **A `Misjudged` packet is counted one period too low.** -/
theorem estimateRoc_misjudged {j i : Nat} (hj : j < 2 ^ 48) (hm : Misjudged j i) :
    (estimateRoc (stateAt j) (seqOf i)).toNat + 1 = i / 65536 := by
  obtain ⟨h1, h2, h3, h4⟩ := hm
  rw [stateAt, toNat_estimateRoc, toNat_rocOf hj, toNat_seqOf, toNat_seqOf]
  split_ifs <;> omega

/-- The first packet of a stream: the estimate is the counter's start, 0. -/
theorem estimateRoc_default {i : Nat} (hi : i < 65536) :
    estimateRoc SrtpStreamState.default (seqOf i) = rocOf i := by
  apply UInt32.toNat_inj.mp
  rw [toNat_rocOf (by omega)]
  simp only [estimateRoc, SrtpStreamState.default, UInt32.toNat_zero]
  omega

/-- With the right estimate the state moves to the higher of the two indexes. -/
theorem update_stateAt {j i : Nat} (hj : j < 2 ^ 48) (hi : i < 2 ^ 48) :
    updateStreamStateAfterSuccess (stateAt j) (seqOf i) (rocOf i) = stateAt (max j i) := by
  simp only [updateStreamStateAfterSuccess, stateAt, packetIndex_of hi, packetIndex_of hj]
  split
  · rw [Nat.max_eq_right (by omega)]
  · rw [Nat.max_eq_left (by omega)]

theorem update_default (i : Nat) :
    updateStreamStateAfterSuccess SrtpStreamState.default (seqOf i) (rocOf i) = stateAt i := rfl

/-! ## The law -/

/-- A state is that of its highest index. -/
theorem stateAt_packetIndex (roc : UInt32) (s : UInt16) : stateAt (packetIndex roc s) = ⟨roc, some s⟩ := by
  have hlt := packetIndex_lt roc s
  have hinj := packetIndex_inj (packetIndex_of hlt)
  rw [stateAt, hinj.1, hinj.2]

/-- **What is expected** when the packet `i` comes to a stream that has seen `j` as its highest index. -/
structure RolloverLaw (state : SrtpStreamState) (j i : Nat) : Prop where
  estimate : (estimateRoc state (seqOf i)).toNat = i / 65536
  updated : updateStreamStateAfterSuccess state (seqOf i) (estimateRoc state (seqOf i)) = stateAt (max i j)

/-- **When the rollover count is estimated right**, for a packet less than `2^15` from the highest one. -/
theorem rollover_law_iff (roc : UInt32) (s : UInt16) {i : Nat} (hi : i < 2 ^ 48)
    (hahead : i < packetIndex roc s + 2 ^ 15) (hbehind : packetIndex roc s < i + 2 ^ 15) :
    RolloverLaw ⟨roc, some s⟩ (packetIndex roc s) i ↔ ¬ Misjudged (packetIndex roc s) i := by
  have hj := packetIndex_lt roc s
  rw [← stateAt_packetIndex]
  generalize packetIndex roc s = j at hj hahead hbehind
  constructor
  · intro h hmisjudged
    have hlow := estimateRoc_misjudged hj hmisjudged
    rw [h.estimate] at hlow
    omega
  · intro hjudged
    have hestimate : estimateRoc (stateAt j) (seqOf i) = rocOf i := by
      rcases Nat.le_total j i with hle | hle
      · exact estimateRoc_ahead hi hle hahead
      · exact estimateRoc_behind hj hle hbehind hjudged
    refine ⟨?_, ?_⟩
    · rw [hestimate, toNat_rocOf hi]
    · rw [hestimate, update_stateAt hj hi, Nat.max_comm]

/-- A packet of the second period, one ahead of the highest. -/
theorem rollover_law_concrete :
    RolloverLaw ⟨1, some 100⟩ (packetIndex 1 100) 65637 :=
  (rollover_law_iff 1 100 (by decide) (by decide) (by decide)).mpr (by decide)

/-- One behind it. -/
theorem rollover_misjudged : 65635 < 2 ^ 48 ∧ 65635 < packetIndex 1 100 + 2 ^ 15 ∧
    packetIndex 1 100 < 65635 + 2 ^ 15 ∧ ¬ RolloverLaw ⟨1, some 100⟩ (packetIndex 1 100) 65635 := by
  refine ⟨by decide, by decide, by decide, fun h => ?_⟩
  have hestimate := h.estimate
  revert hestimate
  decide

end Minghe.Media.Srtp
