import Minghe.Lib.Table

/-!
# What a table holds

`collect f t` lists what `f` finds in each entry of a table. Its lemmas say what an insertion, an
erasure and a selective change add to that list and take from it, up to order, so that a statement
that nothing gets lost in a table is one about permutations.
-/

namespace Minghe.Lib

namespace Table

variable {K V A : Type}

/-- What `f` finds in the entries. -/
def collect (f : K → V → List A) (t : Table K V) : List A := t.entries.flatMap fun e => f e.1 e.2

/-- What `f` finds in the entry at a key, if there is one. -/
def found (f : K → V → List A) (k : K) (v : Option V) : List A := v.elim [] (f k)

/-- Change every entry or drop it (`HashMap::retain`, where the test changes the value). -/
def filterMap (f : K → V → Option V) (t : Table K V) : Table K V where
  entries := t.entries.filterMap fun e => (f e.1 e.2).map fun v => ⟨e.1, v⟩
  nodupKeys := by
    have hkeys : ∀ es : List (Sigma fun _ : K => V),
        ((es.filterMap fun e => (f e.1 e.2).map fun v => (⟨e.1, v⟩ : Sigma fun _ => V)).map Sigma.fst)
          |>.Sublist (es.map Sigma.fst) := by
      intro es
      induction es with
      | nil => exact .slnil
      | cons e es ih =>
        rw [List.filterMap_cons]
        cases f e.1 e.2 with
        | none => exact ih.cons _
        | some v => exact ih.cons_cons _
    exact (hkeys t.entries).nodup t.nodupKeys

@[simp] theorem collect_empty (f : K → V → List A) : collect f (∅ : Table K V) = [] := rfl

theorem map_collect {B : Type} (g : A → B) (f : K → V → List A) (t : Table K V) :
    (collect f t).map g = collect (fun k v => (f k v).map g) t := List.map_flatMap

/-- A change that drops `g` of each entry drops the `g` of all of them. -/
theorem collect_filterMap {f g : K → V → List A} {h : K → V → Option V}
    (hfg : ∀ k v, (g k v ++ found f k (h k v)).Perm (f k v)) (t : Table K V) :
    (collect g t ++ collect f (t.filterMap h)).Perm (collect f t) := by
  obtain ⟨es, hes⟩ := t
  simp only [collect, filterMap]
  clear hes
  induction es with
  | nil => exact .nil
  | cons e es ih =>
    rw [List.filterMap_cons, List.flatMap_cons, List.flatMap_cons]
    refine .trans ?_ ((hfg e.1 e.2).append ih)
    cases h e.1 e.2 with
    | none =>
      simp only [Option.map_none, found, Option.elim_none, List.append_nil, List.append_assoc]
      exact .refl _
    | some v =>
      simp only [Option.map_some, found, Option.elim_some, List.flatMap_cons, List.append_assoc]
      refine .append_left _ ?_
      rw [← List.append_assoc, ← List.append_assoc]
      exact .append_right _ List.perm_append_comm

variable [DecidableEq K]

/-- The changed entry at a key. -/
theorem lookup_filterMap (f : K → V → Option V) (t : Table K V) (k : K) :
    (t.filterMap f).lookup k = (t.lookup k).bind (f k) := by
  have hmem : ∀ (u : Table K V) v, u.lookup k = some v ↔ (⟨k, v⟩ : Sigma fun _ => V) ∈ u.entries :=
    fun u v => List.mem_dlookup_iff u.nodupKeys
  apply Option.ext
  intro v
  rw [hmem, filterMap, List.mem_filterMap, Option.bind_eq_some_iff]
  constructor
  · rintro ⟨⟨k', w⟩, hw, he⟩
    obtain ⟨v', hv', he⟩ := Option.map_eq_some_iff.mp he
    cases he
    exact ⟨w, (hmem t w).mpr hw, hv'⟩
  · rintro ⟨w, hw, hv⟩
    exact ⟨⟨k, w⟩, (hmem t w).mp hw, by rw [hv]; rfl⟩

/-- What an erased entry held is gone. -/
theorem collect_erase (f : K → V → List A) (t : Table K V) (k : K) :
    (found f k (t.lookup k) ++ collect f (t.erase k)).Perm (collect f t) := by
  cases hl : t.lookup k with
  | none =>
    have herase : t.erase k = t := AList.ext (List.kerase_of_notMem_keys (AList.lookup_eq_none.mp hl))
    rw [herase]
    exact .refl _
  | some v =>
    have hmem : k ∈ t.entries.keys := AList.lookup_isSome.mp (by rw [hl]; rfl)
    obtain ⟨w, l₁, l₂, hnot, hes, herase⟩ := List.exists_of_kerase hmem
    have hvw : v = w := by
      have hw : (⟨k, w⟩ : Sigma fun _ => V) ∈ t.entries := by rw [hes]; simp
      exact Option.some.inj (hl.symm.trans (List.mem_dlookup t.nodupKeys hw))
    subst hvw
    simp only [collect, found, Option.elim_some]
    rw [show (t.erase k).entries = l₁ ++ l₂ from herase, hes, List.flatMap_append, List.flatMap_append,
      List.flatMap_cons]
    exact List.perm_append_comm_assoc _ _ _

/-- What an inserted entry holds takes the place of what was at its key. -/
theorem collect_insert (f : K → V → List A) (t : Table K V) (k : K) (v : V) :
    (found f k (t.lookup k) ++ collect f (t.insert k v)).Perm (f k v ++ collect f t) := by
  have hinsert : collect f (t.insert k v) = f k v ++ collect f (t.erase k) := by
    simp only [collect, AList.entries_insert, List.flatMap_cons]
    rfl
  rw [hinsert]
  exact (List.perm_append_comm_assoc _ _ _).trans (.append_left _ (collect_erase f t k))

/-- Where the keys tell the finds apart, those of one key come from its entry. -/
theorem filter_collect {f : K → V → List A} (key : A → K) (hkey : ∀ k v, ∀ a ∈ f k v, key a = k)
    (t : Table K V) (k : K) :
    (collect f t).filter (fun a => decide (key a = k)) = found f k (t.lookup k) := by
  have hother : ∀ k' v, k' ≠ k → (f k' v).filter (fun a => decide (key a = k)) = [] := by
    intro k' v hne
    rw [List.filter_eq_nil_iff]
    intro a ha
    simpa [hkey k' v a ha] using hne
  obtain ⟨es, hes⟩ := t
  simp only [collect, AList.lookup]
  induction es with
  | nil => rfl
  | cons e es ih =>
    rw [List.nodupKeys_cons] at hes
    rw [List.flatMap_cons, List.filter_append]
    by_cases he : e.1 = k
    · have hself : (f e.1 e.2).filter (fun a => decide (key a = k)) = f e.1 e.2 := by
        rw [List.filter_eq_self]
        intro a ha
        simpa [hkey e.1 e.2 a ha] using he
      have hnone : es.dlookup k = none := by
        rw [List.dlookup_eq_none]
        exact he ▸ hes.1
      subst he
      rw [hself, ih hes.2, hnone, List.dlookup_cons_eq]
      exact List.append_nil _
    · rw [hother e.1 e.2 he, List.nil_append, ih hes.2]
      obtain ⟨k', v⟩ := e
      rw [List.dlookup_cons_ne _ _ (Ne.symm he)]

end Table

end Minghe.Lib
