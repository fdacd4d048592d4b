import Mathlib.Data.List.AList

/-!
# Tables

A `Table K V` is a finite map: Mathlib's association lists `AList`, whose keys are duplicate-free by
a field of the type. What is added to the library's `lookup`, `insert` and `erase` are the operations
a hash map has besides them: `retain`, `entryOrDefault`, `modify` and `size`, and a capacity bound,
`makeRoom`. Every operation comes with the lemmas that say what a `lookup` finds after it.
-/

namespace Minghe.Lib

/-- A finite map from `K` to `V`. -/
abbrev Table (K V : Type) := AList (fun _ : K => V)

namespace Table

variable {K V : Type} [DecidableEq K]

/-- Keep the entries that satisfy `p` (`HashMap::retain`). -/
def retain (p : K → V → Bool) (t : Table K V) : Table K V :=
  ⟨t.entries.filter fun e => p e.1 e.2,
    t.nodupKeys.sublist List.filter_sublist⟩

/-- Insert `d` at `k` unless the key is there (`HashMap::entry(k).or_insert(d)`). -/
def entryOrDefault (t : Table K V) (k : K) (d : V) : Table K V :=
  if k ∈ t then t else t.insert k d

/-- Replace the value at `k`, if there is one (`HashMap::get_mut`). -/
def modify (t : Table K V) (k : K) (f : V → V) : Table K V :=
  match t.lookup k with
  | some v => t.insert k (f v)
  | none => t

/-- The number of entries (`HashMap::len`). -/
def size (t : Table K V) : Nat := t.entries.length

/-- Room for one more entry in a table of at most `max`: the entries that `keep` rejects are given up,
and if that is not enough, all of them. -/
def makeRoom (max : Nat) (keep : K → V → Bool) (t : Table K V) : Table K V :=
  if max ≤ t.size then
    let t := t.retain keep
    if max ≤ t.size then ∅ else t
  else t

theorem lookup_insert_eq (t : Table K V) (k k' : K) (v : V) :
    (t.insert k v).lookup k' = if k' = k then some v else t.lookup k' := by
  split
  · rename_i h; rw [h, AList.lookup_insert]
  · rename_i h; exact AList.lookup_insert_ne h

theorem lookup_insert_eq_some {t : Table K V} {k k' : K} {v w : V}
    (h : (t.insert k v).lookup k' = some w) : (k' = k ∧ v = w) ∨ (k' ≠ k ∧ t.lookup k' = some w) := by
  rw [lookup_insert_eq] at h
  split at h
  · rename_i he
    exact .inl ⟨he, Option.some.inj h⟩
  · rename_i hne
    exact .inr ⟨hne, h⟩

theorem lookup_erase_eq (t : Table K V) (k k' : K) :
    (t.erase k).lookup k' = if k' = k then none else t.lookup k' := by
  split
  · rename_i h; rw [h, AList.lookup_erase]
  · rename_i h; exact AList.lookup_erase_ne h

/-- What is erased again was as well not inserted. -/
theorem erase_insert (t : Table K V) (k : K) (v : V) : (t.insert k v).erase k = t.erase k := by
  apply AList.ext
  change (⟨k, v⟩ :: t.entries.kerase k : List (Sigma fun _ : K => V)).kerase k = t.entries.kerase k
  exact List.kerase_cons_eq rfl

theorem lookup_entryOrDefault_self (t : Table K V) (k : K) (d : V) :
    (t.entryOrDefault k d).lookup k = some ((t.lookup k).getD d) := by
  unfold entryOrDefault
  split
  · rename_i h
    obtain ⟨v, hv⟩ := Option.isSome_iff_exists.mp (AList.lookup_isSome.mpr h)
    rw [hv]; rfl
  · rename_i h
    rw [AList.lookup_insert, AList.lookup_eq_none.mpr h]; rfl

theorem lookup_entryOrDefault_ne (t : Table K V) {k k' : K} (d : V) (h : k' ≠ k) :
    (t.entryOrDefault k d).lookup k' = t.lookup k' := by
  unfold entryOrDefault
  split
  · rfl
  · exact AList.lookup_insert_ne h

/-- Nothing is inserted iff the key is there. -/
theorem entryOrDefault_eq_self {t : Table K V} {k : K} {d : V} : t.entryOrDefault k d = t ↔ k ∈ t := by
  constructor
  · intro h
    have hlookup := lookup_entryOrDefault_self t k d
    rw [h] at hlookup
    exact AList.lookup_isSome.mp (by rw [hlookup]; rfl)
  · exact fun h => if_pos h

theorem lookup_modify_self (t : Table K V) (k : K) (f : V → V) :
    (t.modify k f).lookup k = (t.lookup k).map f := by
  unfold modify
  cases h : t.lookup k with
  | none => simp [h]
  | some v => simp

theorem lookup_modify_ne (t : Table K V) {k k' : K} (f : V → V) (h : k' ≠ k) :
    (t.modify k f).lookup k' = t.lookup k' := by
  unfold modify
  cases t.lookup k with
  | none => rfl
  | some v => exact AList.lookup_insert_ne h

/-- A key survives `retain` with its value iff the entry satisfies the test. -/
theorem lookup_retain (p : K → V → Bool) (t : Table K V) (k : K) :
    (retain p t).lookup k = (t.lookup k).filter (p k) := by
  apply Option.ext
  intro v
  rw [Option.filter_eq_some_iff]
  have h : ∀ u : Table K V, u.lookup k = some v ↔ (⟨k, v⟩ : Sigma fun _ => V) ∈ u.entries :=
    fun u => (List.mem_dlookup_iff u.nodupKeys)
  rw [h, h, retain, List.mem_filter]

theorem lookup_retain_eq_some {p : K → V → Bool} {t : Table K V} {k : K} {v : V} :
    (retain p t).lookup k = some v ↔ t.lookup k = some v ∧ p k v = true := by
  rw [lookup_retain, Option.filter_eq_some_iff]

/-- What is left was there before. -/
theorem lookup_of_makeRoom {max : Nat} {keep : K → V → Bool} {t : Table K V} {k : K} {v : V}
    (h : (makeRoom max keep t).lookup k = some v) : t.lookup k = some v := by
  unfold makeRoom at h
  split at h
  · dsimp only at h
    split at h
    · rw [AList.lookup_empty] at h
      cases h
    · exact (lookup_retain_eq_some.mp h).1
  · exact h

/-- What `keep` accepts stays, if there is not too much of it. -/
theorem lookup_makeRoom {max : Nat} {keep : K → V → Bool} {t : Table K V} {k : K} {v : V}
    (hroom : size (retain keep t) < max) (hkeep : keep k v = true) (h : t.lookup k = some v) :
    (makeRoom max keep t).lookup k = some v := by
  unfold makeRoom
  split
  · dsimp only
    rw [if_neg (by omega)]
    exact lookup_retain_eq_some.mpr ⟨h, hkeep⟩
  · exact h

/-! ## Sizes -/

theorem size_erase_le (t : Table K V) (k : K) : size (t.erase k) ≤ size t :=
  (List.kerase_sublist k t.entries).length_le

theorem size_insert_le (t : Table K V) (k : K) (v : V) : size (t.insert k v) ≤ size t + 1 :=
  Nat.succ_le_succ (size_erase_le t k)

/-- An entry that is replaced takes no room. -/
theorem size_insert_of_lookup {t : Table K V} {k : K} {v : V} (h : t.lookup k = some v) (w : V) :
    size (t.insert k w) = size t := by
  have hmem : k ∈ t.entries.keys := AList.lookup_isSome.mp (by rw [h]; rfl)
  have hkeys := congrArg List.length (List.keys_kerase (a := k) (l := t.entries))
  have hpos := List.length_pos_of_mem hmem
  rw [List.length_erase_of_mem hmem] at hkeys
  simp only [List.keys, List.length_map] at hkeys hpos
  change (t.entries.kerase k).length + 1 = t.entries.length
  omega

omit [DecidableEq K] in
theorem size_retain_le (p : K → V → Bool) (t : Table K V) : size (retain p t) ≤ size t :=
  List.length_filter_le _ _

/-- A table with keys of a list only is not larger than the list. -/
theorem size_le_of_keys {t : Table K V} {keys : List K} (h : ∀ k v, t.lookup k = some v → k ∈ keys) :
    size t ≤ keys.length := by
  have hsub : t.keys ⊆ keys := fun k hk => by
    obtain ⟨v, hv⟩ := Option.isSome_iff_exists.mp (AList.lookup_isSome.mpr hk)
    exact h k v hv
  have hle := (List.subperm_of_subset t.nodupKeys hsub).length_le
  change (t.entries.map Sigma.fst).length ≤ _ at hle
  rwa [List.length_map] at hle

omit [DecidableEq K] in
theorem makeRoom_of_lt {max : Nat} {keep : K → V → Bool} {t : Table K V} (h : size t < max) :
    makeRoom max keep t = t :=
  if_neg (by omega)

omit [DecidableEq K] in
/-- **There is room** for one more entry. -/
theorem size_makeRoom_lt {max : Nat} (h : 0 < max) (keep : K → V → Bool) (t : Table K V) :
    size (makeRoom max keep t) < max := by
  unfold makeRoom
  split
  · dsimp only
    split
    · exact h
    · omega
  · omega

end Table

end Minghe.Lib
