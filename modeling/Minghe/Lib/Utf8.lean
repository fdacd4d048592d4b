import Minghe.Lib.Search

/-!
# UTF-8

A Rust string is a list of characters, `Str`; `utf8` are its bytes and `fromUtf8` is
`std::str::from_utf8`. Encoding and decoding are the ones of Lean's `String`.

* `fromUtf8_eq_some`: a byte string has at most one reading, and exactly the encodings have one.
* `splitAtFirst_utf8`: searching an ASCII pattern in the bytes is searching it in the text, because the
  bytes of a character that is not ASCII are all 128 or more.
-/

namespace Minghe.Lib

/-- `str` and `String`. -/
abbrev Str := List Char

/-- What holds of the characters of a text is decided by going through the text. Going through all
characters there are is an instance too, which this one has to come before. -/
instance (priority := high) decidableForallMem (s : Str) (p : Char → Prop) [DecidablePred p] :
    Decidable (∀ c ∈ s, p c) := List.decidableBAll p s

instance (priority := high) decidableExistsMem (s : Str) (p : Char → Prop) [DecidablePred p] :
    Decidable (∃ c ∈ s, p c) := List.decidableBEx p s

instance (priority := high) decidableForallMemOption (o : Option Char) (p : Char → Prop) [DecidablePred p] :
    Decidable (∀ c ∈ o, p c) := Option.decidableForallMem o

instance (priority := high) decidableMem (s : Str) (l : List Str) : Decidable (s ∈ l) :=
  List.instDecidableMemOfLawfulBEq s l

/-- `str::as_bytes`. -/
def utf8 (s : Str) : List UInt8 := s.flatMap String.utf8EncodeChar

/-- `std::str::from_utf8`. -/
def fromUtf8 (b : List UInt8) : Option Str := b.toByteArray.utf8Decode?.map Array.toList

/-- `str::len`: the number of bytes. -/
def byteLen (s : Str) : Nat := (utf8 s).length

/-- Every character of the text is ASCII. -/
def IsAscii (s : Str) : Prop := ∀ c ∈ s, c.toNat < 128

instance (s : Str) : Decidable (IsAscii s) := by unfold IsAscii; infer_instance

@[simp] theorem utf8_nil : utf8 [] = [] := rfl

theorem utf8_cons (c : Char) (s : Str) : utf8 (c :: s) = String.utf8EncodeChar c ++ utf8 s := rfl

@[simp] theorem utf8_append (s t : Str) : utf8 (s ++ t) = utf8 s ++ utf8 t := List.flatMap_append

@[simp] theorem byteLen_nil : byteLen [] = 0 := rfl

theorem byteLen_cons (c : Char) (s : Str) : byteLen (c :: s) = c.utf8Size + byteLen s := by
  rw [byteLen, utf8_cons, List.length_append, String.length_utf8EncodeChar, byteLen]

@[simp] theorem byteLen_append (s t : Str) : byteLen (s ++ t) = byteLen s + byteLen t := by
  rw [byteLen, utf8_append, List.length_append, byteLen, byteLen]

theorem byteLen_eq_zero {s : Str} : byteLen s = 0 ↔ s = [] := by
  cases s with
  | nil => simp
  | cons c s =>
    have := c.utf8Size_pos
    rw [byteLen_cons]
    simp
    omega

theorem fromUtf8_utf8 (s : Str) : fromUtf8 (utf8 s) = some s := by
  rw [fromUtf8, show (utf8 s).toByteArray = s.utf8Encode from rfl, List.utf8Decode?_utf8Encode]
  rfl

/-- **A byte string reads as `s` iff it is the encoding of `s`.** -/
theorem fromUtf8_eq_some {b : List UInt8} {s : Str} : fromUtf8 b = some s ↔ b = utf8 s := by
  constructor
  · intro h
    obtain ⟨a, ha, rfl⟩ := Option.map_eq_some_iff.mp h
    have hb := ByteArray.utf8Encode_get_utf8Decode? (b := b.toByteArray) (h := by rw [ha]; rfl)
    simp only [ha, Option.get_some] at hb
    exact List.toByteArray_inj.mp hb.symm
  · rintro rfl
    exact fromUtf8_utf8 s

theorem utf8_inj {s t : Str} (h : utf8 s = utf8 t) : s = t :=
  Option.some.inj ((fromUtf8_utf8 s).symm.trans (h ▸ fromUtf8_utf8 t))

/-! ## ASCII -/

theorem utf8EncodeChar_ascii {c : Char} (h : c.toNat < 128) :
    String.utf8EncodeChar c = [UInt8.ofNat c.toNat] := by
  have h' : c.val.toNat ≤ 0x7f := Nat.le_of_lt_succ h
  simp only [String.utf8EncodeChar, if_pos h']
  rfl

theorem utf8Size_ascii {c : Char} (h : c.toNat < 128) : c.utf8Size = 1 := by
  rw [← String.length_utf8EncodeChar, utf8EncodeChar_ascii h]
  rfl

theorem utf8EncodeChar_ge {c : Char} (h : 128 ≤ c.toNat) :
    ∀ b ∈ String.utf8EncodeChar c, 128 ≤ b.toNat := by
  have h' : ¬ c.val.toNat ≤ 0x7f := Nat.not_le_of_lt h
  have hlt : c.val.toNat < 0x110000 := by
    rcases c.valid with h | h
    · exact Nat.lt_trans h (by decide)
    · exact h.2
  intro b hb
  simp only [String.utf8EncodeChar, if_neg h'] at hb
  split at hb
  · simp only [List.mem_cons, List.not_mem_nil, or_false] at hb
    rcases hb with rfl | rfl <;> · rw [UInt8.toNat_ofNat']; omega
  · split at hb
    · simp only [List.mem_cons, List.not_mem_nil, or_false] at hb
      rcases hb with rfl | rfl | rfl <;> · rw [UInt8.toNat_ofNat']; omega
    · simp only [List.mem_cons, List.not_mem_nil, or_false] at hb
      rcases hb with rfl | rfl | rfl | rfl <;> · rw [UInt8.toNat_ofNat']; omega

theorem utf8EncodeChar_ne_nil (c : Char) : String.utf8EncodeChar c ≠ [] := by
  rw [← List.length_pos_iff, String.length_utf8EncodeChar]
  exact c.utf8Size_pos

/-- An ASCII text has as many bytes as characters. -/
theorem byteLen_ascii : ∀ {s : Str}, IsAscii s → byteLen s = s.length
  | [], _ => rfl
  | c :: s, h => by
    rw [byteLen_cons, utf8Size_ascii (h c List.mem_cons_self),
      byteLen_ascii fun d hd => h d (List.mem_cons_of_mem _ hd), List.length_cons, Nat.add_comm]

/-- An ASCII text starts the bytes of a text iff it starts the text. -/
theorem utf8_isPrefix : ∀ {p s : Str}, IsAscii p → (utf8 p <+: utf8 s ↔ p <+: s)
  | [], s, _ => iff_of_true List.nil_prefix List.nil_prefix
  | c :: p, [], h => by
    refine iff_of_false (fun hp => ?_) (by simp)
    rw [utf8_cons, utf8_nil, List.prefix_nil, List.append_eq_nil_iff] at hp
    exact utf8EncodeChar_ne_nil c hp.1
  | c :: p, d :: s, h => by
    have hc := h c List.mem_cons_self
    have ih := utf8_isPrefix (s := s) fun e he => h e (List.mem_cons_of_mem _ he)
    rw [utf8_cons, utf8_cons, utf8EncodeChar_ascii hc, List.cons_prefix_cons]
    by_cases hd : d.toNat < 128
    · rw [utf8EncodeChar_ascii hd, List.singleton_append, List.singleton_append,
        List.cons_prefix_cons, ih]
      refine and_congr_left fun _ => ⟨fun he => ?_, fun he => by rw [he]⟩
      have he' := congrArg UInt8.toNat he
      rw [UInt8.toNat_ofNat', UInt8.toNat_ofNat'] at he'
      exact Char.toNat_inj.mp (by omega)
    · -- the first byte of `d` is not ASCII
      have hge := utf8EncodeChar_ge (Nat.le_of_not_lt hd)
      cases hb : String.utf8EncodeChar d with
      | nil => exact absurd hb (utf8EncodeChar_ne_nil d)
      | cons b bs =>
        rw [hb] at hge
        rw [List.singleton_append, List.cons_append, List.cons_prefix_cons]
        refine iff_of_false (fun hp => ?_) (fun hp => hd (hp.1 ▸ hc))
        have h1 := hge b List.mem_cons_self
        rw [← hp.1, UInt8.toNat_ofNat'] at h1
        omega

/-- Bytes that are not ASCII are skipped in the search for an ASCII pattern. -/
theorem splitAtFirst_skip {p : Str} (hp : IsAscii p) (hne : p ≠ []) : ∀ {bs t : List UInt8},
    (∀ b ∈ bs, 128 ≤ b.toNat) →
    splitAtFirst (utf8 p) (bs ++ t) = (splitAtFirst (utf8 p) t).map fun q => (bs ++ q.1, q.2)
  | [], t, _ => by simp
  | b :: bs, t, h => by
    have hnot : ¬ utf8 p <+: b :: (bs ++ t) := by
      cases p with
      | nil => exact absurd rfl hne
      | cons c p =>
        have hc := hp c List.mem_cons_self
        rw [utf8_cons, utf8EncodeChar_ascii hc, List.singleton_append, List.cons_prefix_cons]
        rintro ⟨rfl, -⟩
        have := h _ List.mem_cons_self
        rw [UInt8.toNat_ofNat'] at this
        omega
    rw [List.cons_append, splitAtFirst, if_neg hnot,
      splitAtFirst_skip hp hne fun x hx => h x (List.mem_cons_of_mem _ hx), Option.map_map]
    rfl

/-- **Searching an ASCII pattern in the bytes is searching it in the text.** -/
theorem splitAtFirst_utf8 {p : Str} (hp : IsAscii p) (hne : p ≠ []) : ∀ s : Str,
    splitAtFirst (utf8 p) (utf8 s) = (splitAtFirst p s).map fun q => (utf8 q.1, utf8 q.2)
  | [] => by
    have h : utf8 p ≠ [] := fun h => hne (utf8_inj (h.trans utf8_nil.symm))
    rw [utf8_nil, splitAtFirst, splitAtFirst, if_neg h, if_neg hne]
    rfl
  | c :: s => by
    by_cases hs : p <+: c :: s
    · rw [splitAtFirst_of_head hs, splitAtFirst_of_head ((utf8_isPrefix hp).mpr hs)]
      rfl
    · have hb : ¬ utf8 p <+: utf8 (c :: s) := fun h => hs ((utf8_isPrefix hp).mp h)
      have ih := splitAtFirst_utf8 hp hne s
      rw [splitAtFirst, if_neg hs, Option.map_map]
      by_cases hc : c.toNat < 128
      · rw [utf8_cons, utf8EncodeChar_ascii hc, List.singleton_append] at hb ⊢
        rw [splitAtFirst, if_neg hb, ih, Option.map_map]
        congr 1
        funext q
        simp only [Function.comp, utf8_cons, utf8EncodeChar_ascii hc, List.singleton_append]
      · rw [utf8_cons, splitAtFirst_skip hp hne (utf8EncodeChar_ge (Nat.le_of_not_lt hc)), ih,
          Option.map_map]
        rfl

end Minghe.Lib
