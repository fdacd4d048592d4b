import Mathlib.Data.List.Basic
import Mathlib.Data.List.Infix

/-!
# The first occurrence of a pattern

`splitAtFirst pat s` cuts `s` in front of the first occurrence of `pat`. Nothing in front of that
occurrence depends on what follows it, which is what `splitAtFirst_append` says: a text in which the
pattern was found can be continued. `first_cons_iff` is about the entries of a list that are reached
because every one before them is passed over.
-/

namespace Minghe.Lib

variable {A : Type} [DecidableEq A]

/-- `s` cut in front of the first occurrence of `pat`, if there is one. -/
def splitAtFirst (pat : List A) : List A → Option (List A × List A)
  | [] => if pat = [] then some ([], []) else none
  | a :: s =>
    if pat <+: a :: s then some ([], a :: s)
    else (splitAtFirst pat s).map fun p => (a :: p.1, p.2)

theorem splitAtFirst_of_head {pat s : List A} (h : pat <+: s) :
    splitAtFirst pat s = some ([], s) := by
  cases s with
  | nil => rw [splitAtFirst, if_pos (List.prefix_nil.mp h)]
  | cons a s => rw [splitAtFirst, if_pos h]

/-- What the cut gives back. -/
theorem splitAtFirst_eq_some : ∀ {pat s before rest : List A},
    splitAtFirst pat s = some (before, rest) → s = before ++ rest ∧ pat <+: rest
  | pat, [], before, rest, h => by
    unfold splitAtFirst at h
    split at h
    · rename_i hp
      cases h
      exact ⟨rfl, hp ▸ List.nil_prefix⟩
    · cases h
  | pat, a :: s, before, rest, h => by
    unfold splitAtFirst at h
    split at h
    · rename_i hp
      cases h
      exact ⟨rfl, hp⟩
    · obtain ⟨⟨b, r⟩, hs, he⟩ := Option.map_eq_some_iff.mp h
      obtain ⟨h1, h2⟩ := splitAtFirst_eq_some hs
      cases he
      exact ⟨by rw [h1]; rfl, h2⟩

/-- **A found occurrence stays the first one** when the text goes on. -/
theorem splitAtFirst_append : ∀ {pat s before rest : List A} (x : List A),
    splitAtFirst pat s = some (before, rest) → splitAtFirst pat (s ++ x) = some (before, rest ++ x)
  | pat, [], before, rest, x, h => by
    unfold splitAtFirst at h
    split at h
    · rename_i hp
      cases h
      exact splitAtFirst_of_head (hp ▸ List.nil_prefix)
    · cases h
  | pat, a :: s, before, rest, x, h => by
    unfold splitAtFirst at h
    split at h
    · rename_i hp
      cases h
      exact splitAtFirst_of_head (hp.trans (List.prefix_append _ _))
    · rename_i hp
      obtain ⟨⟨b, r⟩, hs, he⟩ := Option.map_eq_some_iff.mp h
      obtain ⟨hsr, hpr⟩ := splitAtFirst_eq_some hs
      cases he
      -- the pattern already fits into `a :: s`, so it starts `a :: s ++ x` only if it starts `a :: s`
      have hlen : pat.length ≤ (a :: s).length := by
        have := hpr.length_le
        simp only [hsr, List.length_cons, List.length_append]
        omega
      have hnot : ¬ pat <+: a :: (s ++ x) := fun hc =>
        hp (List.prefix_of_prefix_length_le hc (List.prefix_append (a :: s) x) hlen)
      rw [List.cons_append, splitAtFirst, if_neg hnot, splitAtFirst_append x hs]
      rfl

/-- Where the pattern is not found it occurs nowhere. -/
theorem splitAtFirst_eq_none : ∀ {pat s : List A}, splitAtFirst pat s = none ↔ ¬ pat <:+: s
  | pat, [] => by
    unfold splitAtFirst
    rw [List.infix_nil]
    split <;> simp_all
  | pat, a :: s => by
    unfold splitAtFirst
    rw [List.infix_cons_iff, not_or, ← splitAtFirst_eq_none]
    split <;> simp_all

/-- **An entry that is reached**: it is the first one, or the first one is passed over. -/
theorem first_cons_iff {B : Type} {passed : B → Prop} {b x : B} {bs : List B} :
    (∃ before after, b :: bs = before ++ x :: after ∧ ∀ y ∈ before, passed y) ↔
      x = b ∨ passed b ∧ ∃ before after, bs = before ++ x :: after ∧ ∀ y ∈ before, passed y := by
  constructor
  · rintro ⟨before, after, h, hpassed⟩
    cases before with
    | nil => exact .inl (List.cons.inj h).1.symm
    | cons y before =>
      obtain ⟨rfl, htail⟩ := List.cons.inj h
      exact .inr ⟨hpassed _ List.mem_cons_self, before, after, htail,
        fun z hz => hpassed z (List.mem_cons_of_mem _ hz)⟩
  · rintro (rfl | ⟨hb, before, after, rfl, hpassed⟩)
    · exact ⟨[], bs, rfl, nofun⟩
    · exact ⟨b :: before, after, rfl, List.forall_mem_cons.mpr ⟨hb, hpassed⟩⟩

end Minghe.Lib
