import Mathlib.Data.List.Forall2
import Mathlib.Data.List.Induction

/-!
# Runs of a stateful operation

`runAll f s as` applies `f` to each input in turn, the state of one call being the state the next one
starts from, and collects the outputs. `runAll_forall` is the rule for a property of every output:
an invariant of the state and the inputs still to come, which each step keeps and which gives the
property of the step's output. `prefix_induction` is the rule for a property of every part of a run that
begins with a certain one, and `Stepwise` a condition on each step. `traceAll` collects what an
observation sees before each step. `projected` collects what each input of a run is for a part of the
state; `foldl_projected` is the rule that this part goes through a run of its own.
-/

namespace Minghe.Lib

variable {S A B X : Type}

/-- The outputs of `f` on `as`, in order, from the state `s`, and the last state. -/
def runAll (f : S → A → B × S) : S → List A → List B × S
  | s, [] => ([], s)
  | s, a :: as =>
    let (b, s') := f s a
    let (bs, s'') := runAll f s' as
    (b :: bs, s'')

theorem runAll_cons (f : S → A → B × S) (s : S) (a : A) (as : List A) :
    runAll f s (a :: as) =
      ((f s a).1 :: (runAll f (f s a).2 as).1, (runAll f (f s a).2 as).2) := rfl

theorem runAll_append (f : S → A → B × S) (s : S) (as bs : List A) :
    runAll f s (as ++ bs) = ((runAll f s as).1 ++ (runAll f (runAll f s as).2 bs).1,
      (runAll f (runAll f s as).2 bs).2) := by
  induction as generalizing s with
  | nil => rfl
  | cons a as ih => rw [List.cons_append, runAll_cons, runAll_cons, ih]; rfl

@[simp] theorem length_runAll (f : S → A → B × S) (s : S) (as : List A) :
    (runAll f s as).1.length = as.length := by
  induction as generalizing s with
  | nil => rfl
  | cons a as ih => rw [runAll_cons, List.length_cons, List.length_cons, ih]

/-- An output in the middle of a run whose outputs are known. -/
theorem runAll_middle {f : S → A → B × S} {g : X → A} {out : X → B} {s : S} {as bs : List X} {x : X}
    (h : (runAll f s ((as ++ x :: bs).map g)).1 = (as ++ x :: bs).map out) :
    (f (runAll f s (as.map g)).2 (g x)).1 = out x := by
  rw [List.map_append, List.map_append, runAll_append, List.map_cons, List.map_cons, runAll_cons] at h
  exact (List.cons.inj (List.append_inj h (by simp)).2).1

/-- **The rule of runs**, for inputs `g x` that come with a description `x`. -/
theorem runAll_forall {f : S → A → B × S} {g : X → A} (Inv : S → List X → Prop) {Q : X → B → Prop}
    (step : ∀ {s x xs}, Inv s (x :: xs) → Q x (f s (g x)).1 ∧ Inv (f s (g x)).2 xs) :
    ∀ {xs : List X} {s : S}, Inv s xs → List.Forall₂ Q xs (runAll f s (xs.map g)).1
  | [], _, _ => .nil
  | _ :: _, _, h => by
    obtain ⟨hq, hi⟩ := step h
    rw [List.map_cons, runAll_cons]
    exact .cons hq (runAll_forall Inv step hi)

/-- Outputs that are a function of the inputs' descriptions. -/
theorem eq_map_of_forall {xs : List X} {bs : List B} {out : X → B}
    (h : List.Forall₂ (fun x b => b = out x) xs bs) : bs = xs.map out := by
  induction h with
  | nil => rfl
  | cons hx _ ih => rw [List.map_cons, hx, ih]

/-- What `obs` sees of a run of `f`: at each step, of the state before it and the input. -/
def traceAll {O : Type} (f : S → A → B × S) (obs : S → A → List O) : S → List A → List O
  | _, [] => []
  | s, a :: as => obs s a ++ traceAll f obs (f s a).2 as

/-- What each input of a run is for a part of the state, in the state before it. -/
def projected {O : Type} (step : S → A → S) (shown : S → A → List O) : S → List A → List O
  | _, [] => []
  | s, a :: as => shown s a ++ projected step shown (step s a) as

theorem projected_append {O : Type} (step : S → A → S) (shown : S → A → List O) (s : S) (as bs : List A) :
    projected step shown s (as ++ bs) =
      projected step shown s as ++ projected step shown (as.foldl step s) bs := by
  induction as generalizing s with
  | nil => rfl
  | cons a as ih => rw [List.cons_append, projected, projected, ih, List.append_assoc, List.foldl_cons]

/-- Each of them is what some input was, in the state before it. -/
theorem mem_projected {O : Type} {step : S → A → S} {shown : S → A → List O} {s : S} {as : List A} {x : O}
    (h : x ∈ projected step shown s as) :
    ∃ done a, done ++ [a] <+: as ∧ x ∈ shown (done.foldl step s) a := by
  induction as using List.reverseRecOn with
  | nil => cases h
  | append_singleton as a ih =>
    rw [projected_append] at h
    rcases List.mem_append.mp h with h | h
    · obtain ⟨done, b, hdone, hx⟩ := ih h
      exact ⟨done, b, hdone.trans (List.prefix_append ..), hx⟩
    · rw [projected, projected, List.append_nil] at h
      exact ⟨as, a, List.prefix_refl _, h⟩

/-- **The rule of parts**: if each input moves a part of the state by what it is for it, a run of the whole
is a run of the part. -/
theorem foldl_projected {O T : Type} {step : S → A → S} {shown : S → A → List O} {part : S → T}
    {move : T → O → T} (h : ∀ s a, part (step s a) = (shown s a).foldl move (part s)) (s : S)
    (as : List A) : part (as.foldl step s) = (projected step shown s as).foldl move (part s) := by
  induction as generalizing s with
  | nil => rfl
  | cons a as ih => rw [List.foldl_cons, ih, h, projected, List.foldl_append]

/-- **The rule of prefixes**: what holds of a run, and with each event that comes still holds. -/
theorem prefix_induction {all early : List A} {P : List A → Prop} (base : P early)
    (step : ∀ done a, early <+: done → done ++ [a] <+: all → P done → P (done ++ [a])) {late : List A}
    (hearly : early <+: late) (hlate : late <+: all) : P late := by
  obtain ⟨rest, rfl⟩ := hearly
  induction rest using List.reverseRecOn with
  | nil => rwa [List.append_nil]
  | append_singleton rest a ih =>
    rw [← List.append_assoc] at hlate ⊢
    exact step _ a (List.prefix_append _ _) hlate (ih ((List.prefix_append _ _).trans hlate))

/-- A condition on each step of a run: on the state before it, and the input. -/
def Stepwise (f : S → A → S) (P : S → A → Prop) : S → List A → Prop
  | _, [] => True
  | s, a :: as => P s a ∧ Stepwise f P (f s a) as

instance (f : S → A → S) (P : S → A → Prop) [∀ s a, Decidable (P s a)] :
    ∀ s as, Decidable (Stepwise f P s as)
  | _, [] => isTrue trivial
  | s, a :: as =>
    have := instDecidableStepwise f P (f s a) as
    inferInstanceAs (Decidable (_ ∧ _))

theorem Stepwise.append {f : S → A → S} {P : S → A → Prop} {as bs : List A} {s : S}
    (h : Stepwise f P s as) (h' : Stepwise f P (as.foldl f s) bs) : Stepwise f P s (as ++ bs) := by
  induction as generalizing s with
  | nil => exact h'
  | cons a as ih => exact ⟨h.1, ih h.2 h'⟩

/-- It holds before each input if it holds step by step. -/
theorem Stepwise.forall {f : S → A → S} {P : S → A → Prop} {as : List A} {s : S} (h : Stepwise f P s as) :
    ∀ done a, done ++ [a] <+: as → P (done.foldl f s) a := by
  intro done
  induction done generalizing s as with
  | nil =>
    rintro a ⟨rest, rfl⟩
    exact h.1
  | cons b done ih =>
    rintro a ⟨rest, rfl⟩
    exact ih h.2 a ⟨rest, rfl⟩

end Minghe.Lib
