import Mathlib.Data.List.Induction
import Mathlib.Data.List.TakeDrop

/-!
# Counters with a fixed window

A counter of hits. It starts with a hit, and counts those that come within a window of its start; the
first one behind the window starts it anew.

* `reaches`: it reaches a bound while some hits come. `reaches_some_iff` says exactly when, for hits that
  are closer together than a window: those in the old window bring it up to the bound, or those behind the
  old window are enough. So as many hits as the bound do not always reach it.
* `WindowCall`: hits and clears of many counters, each with a key. `Counted` is what a counter says about
  the calls that were made, `Burst` what there was when it reaches the bound.
-/

namespace Minghe.Lib

/-- A counter: the hits of a window, and the first of them. -/
structure WindowCount where
  count : Nat
  start : Nat
  deriving DecidableEq, Repr

namespace WindowCount

/-- The counter after a hit. -/
def hit (window now : Nat) : Option WindowCount → WindowCount
  | none => ⟨1, now⟩
  | some c => if window ≤ now - c.start then ⟨1, now⟩ else ⟨c.count + 1, c.start⟩

theorem hit_behind {window now : Nat} {c : WindowCount} (h : window ≤ now - c.start) :
    hit window now (some c) = ⟨1, now⟩ := if_pos h

theorem hit_within {window now : Nat} {c : WindowCount} (h : ¬ window ≤ now - c.start) :
    hit window now (some c) = ⟨c.count + 1, c.start⟩ := if_neg h

/-- With one of the hits, the counter reaches the bound. -/
def reaches (max window : Nat) : Option WindowCount → List Nat → Prop
  | _, [] => False
  | c, t :: ts => max ≤ (hit window t c).count ∨ reaches max window (some (hit window t c)) ts

/-- **When a counter reaches the bound**: for hits that are closer together than a window. -/
theorem reaches_some_iff {max window : Nat} {ts : List Nat} (hsorted : ts.Pairwise (· ≤ ·))
    (hspan : ∀ t ∈ ts, ∀ u ∈ ts, u < t + window) {c : WindowCount} (hc : c.count < max) :
    reaches max window (some c) ts ↔
      max ≤ c.count + ts.countP (fun t => t < c.start + window) ∨
      max ≤ ts.countP (fun t => c.start + window ≤ t) := by
  induction ts generalizing c with
  | nil => simp [reaches]; omega
  | cons t ts ih =>
    obtain ⟨hle, hsorted⟩ := List.pairwise_cons.mp hsorted
    have ih := fun {c : WindowCount} => ih (c := c) hsorted fun u hu v hv =>
      hspan u (List.mem_cons_of_mem _ hu) v (List.mem_cons_of_mem _ hv)
    have hpos : t < t + window := hspan t List.mem_cons_self t List.mem_cons_self
    have hnext := fun u hu => hspan t List.mem_cons_self u (List.mem_cons_of_mem _ hu)
    by_cases hlate : window ≤ t - c.start
    · -- the hit is behind the window, and all others are in the new one
      have hin : ts.countP (fun u => u < t + window) = ts.length :=
        List.countP_eq_length.mpr fun u hu => decide_eq_true (hnext u hu)
      have hnone : ts.countP (fun u => t + window ≤ u) = 0 :=
        List.countP_eq_zero.mpr fun u hu => by have := hnext u hu; simp; omega
      have hbehind : ts.countP (fun u => c.start + window ≤ u) = ts.length :=
        List.countP_eq_length.mpr fun u hu => decide_eq_true (by have := hle u hu; omega)
      have hold : ts.countP (fun u => u < c.start + window) = 0 :=
        List.countP_eq_zero.mpr fun u hu => by have := hle u hu; simp; omega
      rw [reaches, hit_behind hlate, List.countP_cons_of_neg (by simp; omega),
        List.countP_cons_of_pos (by simp; omega), hold, hbehind]
      by_cases hone : max ≤ 1
      · simp only [hone, true_or, true_iff]
        omega
      · rw [or_iff_right hone, ih (show 1 < max by omega), hin, hnone]
        dsimp only
        omega
    · rw [reaches, hit_within hlate, List.countP_cons_of_pos (by simp; omega),
        List.countP_cons_of_neg (by simp; omega)]
      by_cases hmore : max ≤ c.count + 1
      · simp only [hmore, true_or, true_iff]
        omega
      · rw [or_iff_right hmore, ih (by simp; omega)]
        dsimp only
        omega

/-- As many hits as the bound reach it, if the counter starts with them. -/
theorem reaches_none_iff {max window t : Nat} {ts : List Nat} (hsorted : (t :: ts).Pairwise (· ≤ ·))
    (hspan : ∀ u ∈ t :: ts, ∀ v ∈ t :: ts, v < u + window) :
    reaches max window none (t :: ts) ↔ max ≤ (t :: ts).length := by
  unfold reaches hit
  by_cases hone : max ≤ 1
  · simp only [hone, true_or, true_iff, List.length_cons]
    omega
  · have hin : ts.countP (fun u => u < t + window) = ts.length :=
      List.countP_eq_length.mpr fun u hu =>
        decide_eq_true (hspan t List.mem_cons_self u (List.mem_cons_of_mem _ hu))
    have hnone : ts.countP (fun u => t + window ≤ u) = 0 :=
      List.countP_eq_zero.mpr fun u hu => by
        have := hspan t List.mem_cons_self u (List.mem_cons_of_mem _ hu)
        simp
        omega
    rw [or_iff_right hone, reaches_some_iff (List.pairwise_cons.mp hsorted).2
      (fun u hu v hv => hspan u (List.mem_cons_of_mem _ hu) v (List.mem_cons_of_mem _ hv)) (by simp; omega)]
    rw [hin, hnone, List.length_cons]
    dsimp only
    omega

end WindowCount

/-! ## The calls -/

/-- A call: the counter of a key is hit, or it is given up. -/
inductive WindowCall (K : Type) where
  | hit (now : Nat) (key : K)
  | clear (key : K)
  deriving DecidableEq, Repr

namespace WindowCall

variable {K : Type}

/-- The key that a call is about. -/
def key : WindowCall K → K
  | hit _ key | clear key => key

variable [DecidableEq K] {window : Nat} {calls : List (WindowCall K)} {key : K}

/-- The hits of a key. -/
def hitsOf (key : K) (calls : List (WindowCall K)) : List Nat :=
  calls.filterMap fun
    | hit now k => if k = key then some now else none
    | clear _ => none

theorem hitsOf_append (key : K) (calls calls' : List (WindowCall K)) :
    hitsOf key (calls ++ calls') = hitsOf key calls ++ hitsOf key calls' := List.filterMap_append

@[simp] theorem hitsOf_hit (key : K) (now : Nat) : hitsOf key [hit now key] = [now] := by
  simp [hitsOf]

theorem hitsOf_other {call : WindowCall K} (h : call.key ≠ key) : hitsOf key [call] = [] := by
  cases call with
  | clear k => rfl
  | hit now k =>
    have hk : k ≠ key := h
    simp [hitsOf, hk]

/-- **What a counter says**: it was hit as often, first at its start and always within the window, since a
point after which it was not given up. -/
def Counted (window : Nat) (calls : List (WindowCall K)) (key : K) (c : WindowCount) : Prop :=
  ∃ before since, calls = before ++ since ∧ .clear key ∉ since ∧
    (hitsOf key since).head? = some c.start ∧ (hitsOf key since).length = c.count ∧
    ∀ t ∈ hitsOf key since, t < c.start + window

/-- There were so many hits within a window of the first of them, and the key was not given up between
them. -/
def Burst (max window : Nat) (calls : List (WindowCall K)) (key : K) : Prop :=
  ∃ before since after t ts, calls = before ++ since ++ after ∧ .clear key ∉ since ∧
    hitsOf key since = t :: ts ∧ max ≤ (t :: ts).length ∧ ∀ u ∈ t :: ts, u < t + window

/-- Calls of other keys change nothing. -/
theorem Counted.other {c : WindowCount} (h : Counted window calls key c) {call : WindowCall K}
    (hother : call.key ≠ key) : Counted window (calls ++ [call]) key c := by
  obtain ⟨before, since, rfl, hclear, hstart, hcount, hin⟩ := h
  refine ⟨before, since ++ [call], by simp, ?_, ?_⟩
  · rw [List.mem_append, not_or]
    refine ⟨hclear, fun hmem => ?_⟩
    rw [← List.mem_singleton.mp hmem] at hother
    exact hother rfl
  · rw [hitsOf_append, hitsOf_other hother, List.append_nil]
    exact ⟨hstart, hcount, hin⟩

/-- A hit is counted. -/
theorem counted_hit (hwindow : 0 < window) {c : Option WindowCount}
    (h : ∀ c' ∈ c, Counted window calls key c') (now : Nat) :
    Counted window (calls ++ [.hit now key]) key (WindowCount.hit window now c) := by
  have hfirst : Counted window (calls ++ [.hit now key]) key ⟨1, now⟩ := by
    refine ⟨calls, [.hit now key], rfl, by simp, ?_⟩
    rw [hitsOf_hit]
    exact ⟨rfl, rfl, by simpa using hwindow⟩
  cases c with
  | none => exact hfirst
  | some c =>
    by_cases hbehind : window ≤ now - c.start
    · rw [WindowCount.hit_behind hbehind]
      exact hfirst
    · rw [WindowCount.hit_within hbehind]
      obtain ⟨before, since, rfl, hclear, hstart, hcount, hin⟩ := h c rfl
      refine ⟨before, since ++ [.hit now key], by simp, ?_, ?_⟩
      · simpa using hclear
      · rw [hitsOf_append, hitsOf_hit]
        refine ⟨?_, by simpa using hcount, fun t ht => ?_⟩
        · rw [List.head?_append, hstart]
          rfl
        · rcases List.mem_append.mp ht with ht | ht
          · exact hin t ht
          · rw [List.mem_singleton.mp ht]
            dsimp only
            omega

/-- When the counter reaches the bound, there were that many. -/
theorem Counted.burst {c : WindowCount} (h : Counted window calls key c) {max : Nat} (hmax : max ≤ c.count) :
    Burst max window calls key := by
  obtain ⟨before, since, rfl, hclear, hstart, hcount, hin⟩ := h
  cases hts : hitsOf key since with
  | nil =>
    rw [hts] at hstart
    cases hstart
  | cons t ts =>
    rw [hts] at hstart hcount hin
    cases hstart
    exact ⟨before, since, [], _, ts, by simp, hclear, hts, hcount ▸ hmax, hin⟩

theorem Burst.append {max : Nat} (h : Burst max window calls key) (more : List (WindowCall K)) :
    Burst max window (calls ++ more) key := by
  obtain ⟨before, since, after, t, ts, rfl, hrest⟩ := h
  exact ⟨before, since, after ++ more, t, ts, by simp, hrest⟩

end WindowCall

end Minghe.Lib
