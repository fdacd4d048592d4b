import Mathlib.Tactic.Common

/-!
# Results that may panic

A Rust function that returns `Result<T, E>` and indexes or slices on the way has three outcomes: a
value, an error `E`, or a panic. `Res E T` keeps them apart, so that "never panics" is a statement
about the model. `Checked T` is the case of a function that returns a bare `T`.

The list operations `byteAt`, `sliceTo` and `sliceFrom` panic where `xs[i]`, `&xs[..n]` and `&xs[n..]`
do.
-/

namespace Minghe.Lib

/-- Why a computation has no value. -/
inductive Fault (E : Type) where
  | panic
  | err (e : E)
  deriving DecidableEq, Repr

/-- `Result<T, E>`, or a panic. -/
abbrev Res (E T : Type) := Except (Fault E) T

/-- `T`, or a panic. -/
abbrev Checked (T : Type) := Res Empty T

instance {E T : Type} [DecidableEq E] [DecidableEq T] : DecidableEq (Res E T)
  | .ok a, .ok b => if h : a = b then isTrue (h ▸ rfl) else isFalse fun e => h (Except.ok.inj e)
  | .error a, .error b =>
    if h : a = b then isTrue (h ▸ rfl) else isFalse fun e => h (Except.error.inj e)
  | .ok _, .error _ => isFalse nofun
  | .error _, .ok _ => isFalse nofun

namespace Res

variable {E T U A : Type}

/-- `Err(e)`. -/
def err (e : E) : Res E T := .error (.err e)

/-- `panic!`. -/
def panic : Res E T := .error .panic

/-- A computation that returns a value went through each of its parts. -/
theorem bind_eq_ok {x : Res E T} {f : T → Res E U} {u : U} :
    x >>= f = .ok u ↔ ∃ t, x = .ok t ∧ f t = .ok u := by
  cases x with
  | ok t => simp [bind, Except.bind]
  | error e => simp [bind, Except.bind]

/-- `xs[i]`. -/
def byteAt (xs : List A) (i : Nat) : Res E A :=
  match xs[i]? with
  | some a => .ok a
  | none => panic

/-- `&xs[..n]`. -/
def sliceTo (xs : List A) (n : Nat) : Res E (List A) :=
  if n ≤ xs.length then .ok (xs.take n) else panic

/-- `&xs[n..]`. -/
def sliceFrom (xs : List A) (n : Nat) : Res E (List A) :=
  if n ≤ xs.length then .ok (xs.drop n) else panic

theorem byteAt_of_lt {xs : List A} {i : Nat} (h : i < xs.length) :
    (byteAt xs i : Res E A) = .ok xs[i] := by
  rw [byteAt, List.getElem?_eq_getElem h]

/-- Reading inside the first `n` elements does not depend on what follows them. -/
theorem byteAt_take_append {xs ys : List A} {n i : Nat} (hi : i < n) (hn : n ≤ xs.length) :
    (byteAt (xs.take n ++ ys) i : Res E A) = byteAt xs i := by
  unfold byteAt
  rw [List.getElem?_append_left (by rw [List.length_take]; omega), List.getElem?_take_of_lt hi]

theorem sliceTo_of_le {xs : List A} {n : Nat} (h : n ≤ xs.length) :
    (sliceTo xs n : Res E (List A)) = .ok (xs.take n) := if_pos h

theorem sliceFrom_of_le {xs : List A} {n : Nat} (h : n ≤ xs.length) :
    (sliceFrom xs n : Res E (List A)) = .ok (xs.drop n) := if_pos h

/-! ## The first value that a loop finds -/

variable {read : A → Res E (Option T)}

/-- A loop that reads one element after the other until it finds a value. -/
def firstSome (read : A → Res E (Option T)) : List A → Res E (Option T)
  | [] => .ok none
  | a :: as => do
    match ← read a with
    | some t => .ok (some t)
    | none => firstSome read as

theorem firstSome_cons_none {a : A} (h : read a = .ok none) (as : List A) :
    firstSome read (a :: as) = firstSome read as := by
  rw [firstSome, h]
  rfl

/-- Nothing is read behind an element that gives a value, or panics. -/
theorem firstSome_cons_of_ne {a : A} (h : read a ≠ .ok none) (as : List A) :
    firstSome read (a :: as) = read a := by
  rw [firstSome]
  cases hr : read a with
  | error e => rfl
  | ok found =>
    cases found with
    | none => exact absurd hr h
    | some t => rfl

theorem firstSome_append_of_none : ∀ {as : List A} (bs : List A), (∀ a ∈ as, read a = .ok none) →
    firstSome read (as ++ bs) = firstSome read bs
  | [], _, _ => rfl
  | a :: as, bs, h => by
    rw [List.cons_append, firstSome_cons_none (h a List.mem_cons_self)]
    exact firstSome_append_of_none bs fun b hb => h b (List.mem_cons_of_mem _ hb)

theorem firstSome_append_of_exists : ∀ {as : List A} (bs : List A), (∃ a ∈ as, read a ≠ .ok none) →
    firstSome read (as ++ bs) = firstSome read as ∧ firstSome read as ≠ .ok none
  | a :: as, bs, h => by
    by_cases ha : read a = .ok none
    · rw [List.cons_append, firstSome_cons_none ha, firstSome_cons_none ha]
      obtain ⟨b, hb, hne⟩ := h
      rcases List.mem_cons.mp hb with rfl | hb
      · exact absurd ha hne
      · exact firstSome_append_of_exists bs ⟨b, hb, hne⟩
    · rw [List.cons_append, firstSome_cons_of_ne ha, firstSome_cons_of_ne ha]
      exact ⟨rfl, ha⟩

end Res

end Minghe.Lib
