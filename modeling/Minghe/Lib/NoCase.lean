import Minghe.Lib.Fields

/-!
# Searching in letters of either case

The source lowers a text, searches the lowered one for a key in lower case, and goes on with the position
it found there. `splitNoCase` cuts the text itself in front of the first occurrence of the key in letters
of either case.

* With `to_ascii_lowercase` the position is the one of that occurrence (`find_toAsciiLowercase`).
* With `to_lowercase` it is the one of that occurrence in the lowered text (`find_toLowercase`), and the
  characters in front of it may have other lengths there.
-/

namespace Minghe.Lib

/-- `s` cut in front of the first occurrence of `p` in letters of either case, if there is one. -/
def splitNoCase (p : Str) : Str → Option (Str × Str)
  | [] => if p = [] then some ([], []) else none
  | c :: s =>
    if startsNoCase p (c :: s) then some ([], c :: s)
    else (splitNoCase p s).map fun q => (c :: q.1, q.2)

/-- What the cut gives back. -/
theorem splitNoCase_eq_some : ∀ {p s a b : Str}, splitNoCase p s = some (a, b) →
    s = a ++ b ∧ startsNoCase p b
  | p, [], a, b, h => by
    unfold splitNoCase at h
    split at h
    · rename_i hp
      cases h
      exact ⟨rfl, by rw [hp]; rfl⟩
    · cases h
  | p, c :: s, a, b, h => by
    unfold splitNoCase at h
    split at h
    · rename_i hp
      cases h
      exact ⟨rfl, hp⟩
    · obtain ⟨⟨a', b'⟩, hs, he⟩ := Option.map_eq_some_iff.mp h
      obtain ⟨hcut, hstart⟩ := splitNoCase_eq_some hs
      cases he
      exact ⟨by rw [hcut]; rfl, hstart⟩

/-! ## ASCII -/

theorem utf8Size_toLower (c : Char) : c.toLower.utf8Size = c.utf8Size := by
  by_cases hc : c.val ≥ 'A'.val ∧ c.val ≤ 'Z'.val
  · have h1 : 65 ≤ c.toNat := UInt32.le_iff_toNat_le.mp hc.1
    have h2 : c.toNat ≤ 90 := UInt32.le_iff_toNat_le.mp hc.2
    have hlow : c.toLower.toNat = c.toNat + 32 := by
      have hv : c.toLower.toNat = (c.val + ('a'.val - 'A'.val)).toNat := congrArg Char.toNat (dif_pos hc)
      have h3 : ('a'.val - 'A'.val).toNat = 32 := rfl
      rw [hv, UInt32.toNat_add, h3]
      exact Nat.mod_eq_of_lt (by change c.toNat + 32 < 2 ^ 32; omega)
    rw [utf8Size_ascii (by omega), utf8Size_ascii (by omega)]
  · have hself : c.toLower = c := dif_neg hc
    rw [hself]

theorem byteLen_toAsciiLowercase : ∀ s : Str, byteLen (toAsciiLowercase s) = byteLen s
  | [] => rfl
  | c :: s => by
    change byteLen (c.toLower :: toAsciiLowercase s) = _
    rw [byteLen_cons, byteLen_cons, byteLen_toAsciiLowercase s, utf8Size_toLower c]

theorem startsWith_toAsciiLowercase (p s : Str) : p <+: toAsciiLowercase s ↔ startsNoCase p s := by
  unfold startsNoCase toAsciiLowercase
  rw [List.prefix_iff_eq_take, ← List.map_take]
  exact eq_comm

theorem splitAtFirst_toAsciiLowercase (p : Str) : ∀ s : Str, splitAtFirst p (toAsciiLowercase s) =
    (splitNoCase p s).map fun q => (toAsciiLowercase q.1, toAsciiLowercase q.2)
  | [] => by
    change splitAtFirst p [] = _
    unfold splitAtFirst splitNoCase
    split <;> rfl
  | c :: s => by
    have hstart : p <+: c.toLower :: toAsciiLowercase s ↔ startsNoCase p (c :: s) :=
      startsWith_toAsciiLowercase p (c :: s)
    change splitAtFirst p (c.toLower :: toAsciiLowercase s) = _
    unfold splitNoCase splitAtFirst
    by_cases h : startsNoCase p (c :: s)
    · rw [if_pos h, if_pos (hstart.mpr h)]
      rfl
    · rw [if_neg h, if_neg (fun hp => h (hstart.mp hp)), splitAtFirst_toAsciiLowercase p s, Option.map_map,
        Option.map_map]
      rfl

/-- **The position in the text in ASCII lower case.** -/
theorem find_toAsciiLowercase (p s : Str) :
    find p (toAsciiLowercase s) = (splitNoCase p s).map fun q => byteLen q.1 := by
  rw [find, splitAtFirst_toAsciiLowercase, Option.map_map]
  congr 1
  funext q
  exact byteLen_toAsciiLowercase q.1

/-! ## Unicode -/

theorem splitAtFirst_toLowercase {p : Str} (hplain : Plain p) (hne : p ≠ []) : ∀ s : Str,
    splitAtFirst p (toLowercase s) = (splitNoCase p s).map fun q => (toLowercase q.1, toLowercase q.2)
  | [] => by
    change splitAtFirst p [] = _
    unfold splitAtFirst splitNoCase
    rw [if_neg hne]
    rfl
  | c :: s => by
    have hstart := startsWith_toLowercase (c :: s) hplain
    have ih := splitAtFirst_toLowercase hplain hne s
    -- one lowered character is gone by, or the two of `İ`, where no key starts at the second one
    have hskip : ¬ p <+: lowerChar c ++ toLowercase s → splitAtFirst p (lowerChar c ++ toLowercase s) =
        (splitAtFirst p (toLowercase s)).map fun q => (lowerChar c ++ q.1, q.2) := by
      intro hnot
      have hone : ∀ d : Char, lowerChar c = [d] → splitAtFirst p (lowerChar c ++ toLowercase s) =
          (splitAtFirst p (toLowercase s)).map fun q => (lowerChar c ++ q.1, q.2) := by
        intro d hd
        rw [hd] at hnot ⊢
        exact if_neg hnot
      rcases lowerChar_cases c with ⟨-, hc⟩ | ⟨-, hc | hc | ⟨d, -, hc⟩⟩
      · exact hone _ hc
      · rw [hc] at hnot ⊢
        have hnot' : ¬ p <+: Char.ofNat 0x307 :: toLowercase s := by
          cases p with
          | nil => exact absurd rfl hne
          | cons a p =>
            intro h
            obtain ⟨rfl, -⟩ := List.cons_prefix_cons.mp h
            exact absurd (hplain.1 _ List.mem_cons_self).1 (by decide)
        have hnot : ¬ p <+: 'i' :: Char.ofNat 0x307 :: toLowercase s := hnot
        change splitAtFirst p ('i' :: Char.ofNat 0x307 :: toLowercase s) = _
        rw [splitAtFirst, if_neg hnot, splitAtFirst, if_neg hnot', Option.map_map]
        rfl
      · exact hone _ hc
      · exact hone _ hc
    change splitAtFirst p (lowerChar c ++ toLowercase s) = _
    unfold splitNoCase
    by_cases h : startsNoCase p (c :: s)
    · rw [if_pos h]
      exact splitAtFirst_of_head (hstart.mpr h)
    · rw [if_neg h, hskip fun hp => h (hstart.mp hp), ih, Option.map_map, Option.map_map]
      rfl

/-- **The position in the lowered text.** -/
theorem find_toLowercase {p : Str} (hplain : Plain p) (hne : p ≠ []) (s : Str) :
    find p (toLowercase s) = (splitNoCase p s).map fun q => byteLen (toLowercase q.1) := by
  rw [find, splitAtFirst_toLowercase hplain hne, Option.map_map]
  rfl

/-! ## Texts that go on -/

theorem startsNoCase_append {p s : Str} (h : startsNoCase p s) (t : Str) : startsNoCase p (s ++ t) := by
  rw [← startsWith_toAsciiLowercase] at h ⊢
  unfold toAsciiLowercase at h ⊢
  rw [List.map_append]
  exact h.trans (List.prefix_append _ _)

theorem not_startsNoCase_append {p s : Str} (hlen : p.length ≤ s.length) (h : ¬ startsNoCase p s) (t : Str) :
    ¬ startsNoCase p (s ++ t) := by
  unfold startsNoCase at h ⊢
  rwa [List.take_append_of_le_length hlen]

/-- A text with a beginning that neither goes on as `p` nor starts with it does not start with `p`. -/
theorem not_prefix_append {p lead : Str} (h : ¬ p <+: lead ∧ ¬ lead <+: p) (rest : Str) :
    ¬ p <+: lead ++ rest := fun hpre =>
  (List.prefix_or_prefix_of_prefix hpre (List.prefix_append _ _)).elim h.1 h.2

/-- Nor does what is left of it when it is trimmed and lowered. -/
theorem not_prefix_lower_trim {p word : Str} (hne : word ≠ []) (hword : ∀ c ∈ word, isWhitespace c = false)
    (h : ¬ p <+: toAsciiLowercase word ∧ ¬ toAsciiLowercase word <+: p) (rest : Str) :
    ¬ p <+: toAsciiLowercase (trim (word ++ rest)) := by
  have hlower : toAsciiLowercase (trim (word ++ rest)) =
      toAsciiLowercase word ++ toAsciiLowercase (trimEnd rest) := by
    rw [trim_word_append hne hword]
    exact List.map_append
  rw [hlower]
  exact not_prefix_append h _

/-- A found key stays the first one when the line goes on. -/
theorem splitNoCase_append : ∀ {p s a b : Str} (t : Str), splitNoCase p s = some (a, b) →
    splitNoCase p (s ++ t) = some (a, b ++ t)
  | p, [], a, b, t, h => by
    unfold splitNoCase at h
    split at h
    · rename_i hp
      cases h
      subst hp
      cases t with
      | nil => rfl
      | cons c t =>
        unfold splitNoCase
        exact if_pos rfl
    · cases h
  | p, c :: s, a, b, t, h => by
    unfold splitNoCase at h
    rw [List.cons_append, splitNoCase]
    split at h
    · rename_i hp
      cases h
      exact if_pos (startsNoCase_append hp t)
    · rename_i hp
      obtain ⟨⟨a', b'⟩, hs, he⟩ := Option.map_eq_some_iff.mp h
      cases he
      obtain ⟨hcut, hstart⟩ := splitNoCase_eq_some hs
      -- the key fits into the line already
      have hlen : p.length ≤ (c :: s).length := by
        have hkey := congrArg List.length hstart
        rw [List.length_map, List.length_take] at hkey
        rw [hcut, List.length_cons, List.length_append]
        omega
      rw [← List.cons_append, if_neg (not_startsNoCase_append hlen hp t), splitNoCase_append t hs]
      rfl

theorem byteLen_of_splitAtByte : ∀ {s : Str} {n : Nat} {a b : Str}, splitAtByte s n = some (a, b) →
    byteLen a = n
  | s, 0, a, b, h => by
    unfold splitAtByte at h
    cases h
    rfl
  | [], _ + 1, a, b, h => by cases h
  | c :: s, n + 1, a, b, h => by
    unfold splitAtByte at h
    split at h
    · obtain ⟨⟨a', b'⟩, hs, he⟩ := Option.map_eq_some_iff.mp h
      cases he
      rw [byteLen_cons, byteLen_of_splitAtByte hs]
      omega
    · cases h

theorem upTo_of_forall {p : Char → Bool} {s : Str} (h : ∀ c ∈ s, p c = false) : upTo p s = s :=
  List.takeWhile_eq_self_iff.mpr fun c hc => by rw [h c hc]; rfl

/-- A text cut elsewhere does not read as its value, if the value is longer than all in front of it. -/
theorem upTo_ne_of_shifted {p : Char → Bool} {lead value a b : Str} (hlong : lead.length < value.length)
    (hvalue : ∀ c ∈ value, p c = false) (hcut : lead ++ value = a ++ b) (hne : a ≠ lead) :
    upTo p b ≠ value := by
  intro h
  have hlen := congrArg List.length h
  rcases List.append_eq_append_iff.mp hcut with ⟨mid, rfl, rfl⟩ | ⟨mid, rfl, rfl⟩
  · -- cut within the value
    have hle : (upTo p b).length ≤ b.length := (List.takeWhile_prefix _).length_le
    have hmid : mid ≠ [] := fun he => hne (by rw [he, List.append_nil])
    have hpos := List.length_pos_of_ne_nil hmid
    rw [List.length_append] at hlen
    omega
  · -- cut in front of it
    have hmid : mid ≠ [] := fun he => hne (by rw [he, List.append_nil])
    have hpos := List.length_pos_of_ne_nil hmid
    unfold upTo at hlen
    rw [List.takeWhile_append] at hlen
    split at hlen
    · rw [List.length_append] at hlen
      have hall := congrArg List.length (upTo_of_forall hvalue)
      unfold upTo at hall
      omega
    · have hle : (mid.takeWhile fun c => !p c).length ≤ mid.length := (List.takeWhile_prefix _).length_le
      rw [List.length_append] at hlong
      omega

end Minghe.Lib
