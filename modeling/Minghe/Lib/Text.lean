import Mathlib.Algebra.Group.Nat.Defs
import Mathlib.Data.List.DropRight
import Mathlib.Data.List.Find
import Minghe.Lib.CaseMap
import Minghe.Lib.Fault

/-!
# The operations of `str`

The methods of Rust's `str` that the source calls, on lists of characters. Positions are byte
offsets, as in Rust: `find` returns one, and a slice panics past the end of the text or between the
bytes of a character.

* `lines`: a line ends at `"\n"` or `"\r\n"`; what follows the last `"\n"` is a line unless it is
  empty, and keeps a `'\r'` at its end.
* `trim` and `splitWhitespace` go by the Unicode property `White_Space`.
* `parseUnsigned` is `parse::<u32>()` and its like: digits, perhaps after one `+`, below `2 ^ w`.
* `lines_cons`: the first line of a text.
* `afterName_eq`: the test for a header name and the cut behind it never panic.
* `parseUnsigned_showNat`: a printed number is read back.
-/

namespace Minghe.Lib

/-! ## White space -/

/-- `char::is_whitespace`. -/
def isWhitespace (c : Char) : Bool :=
  let n := c.toNat
  decide (9 ≤ n ∧ n ≤ 13) || n == 0x20 || n == 0x85 || n == 0xA0 || n == 0x1680 ||
    decide (0x2000 ≤ n ∧ n ≤ 0x200A) || n == 0x2028 || n == 0x2029 || n == 0x202F || n == 0x205F ||
    n == 0x3000

/-- `str::trim_start`. -/
def trimStart (s : Str) : Str := s.dropWhile isWhitespace

/-- `str::trim_end`. -/
def trimEnd (s : Str) : Str := s.rdropWhile isWhitespace

/-- `str::trim`. -/
def trim (s : Str) : Str := trimEnd (trimStart s)

/-- `str::split_whitespace`. -/
def splitWhitespace (s : Str) : List Str := (s.splitOnP isWhitespace).filter fun w => !w.isEmpty

/-! ## Lines -/

/-- The pieces of a text that end in `"\n"`, without it, and what follows the last of them. -/
def rawLines : Str → List Str × Str
  | [] => ([], [])
  | c :: s =>
    if c = '\n' then ([] :: (rawLines s).1, (rawLines s).2)
    else match (rawLines s).1 with
      | [] => ([], c :: (rawLines s).2)
      | l :: ls => ((c :: l) :: ls, (rawLines s).2)

/-- A line without the `'\r'` at its end. -/
def stripCr (l : Str) : Str := if l.getLast? = some '\r' then l.dropLast else l

/-- `str::lines`. -/
def lines (s : Str) : List Str :=
  (rawLines s).1.map stripCr ++ if (rawLines s).2 = [] then [] else [(rawLines s).2]

/-! ## Searching, cutting, slicing -/

/-- `str::find`, for a pattern that is a text: the byte offset of its first occurrence. -/
def find (pat s : Str) : Option Nat := (splitAtFirst pat s).map fun p => byteLen p.1

/-- `str::contains`. -/
def contains (pat s : Str) : Bool := (splitAtFirst pat s).isSome

/-- `str::split_once`, for a character. -/
def splitOnce (c : Char) (s : Str) : Option (Str × Str) :=
  (splitAtFirst [c] s).map fun p => (p.1, p.2.tail)

/-- The two parts of a text at a byte offset, if that is the boundary of a character. -/
def splitAtByte : Str → Nat → Option (Str × Str)
  | s, 0 => some ([], s)
  | [], _ + 1 => none
  | c :: s, n + 1 =>
    if c.utf8Size ≤ n + 1 then
      (splitAtByte s (n + 1 - c.utf8Size)).map fun p => (c :: p.1, p.2)
    else none

/-- `str::split(c).next()`, for a set of characters. -/
def upTo (p : Char → Bool) (s : Str) : Str := s.takeWhile fun c => !p c

/-- `str::trim_matches`, for a character. -/
def trimMatches (c : Char) (s : Str) : Str := (s.dropWhile (· == c)).rdropWhile (· == c)

/-- `hex::encode`. -/
def hexEncode (b : List UInt8) : Str :=
  b.flatMap fun x => [Nat.digitChar (x.toNat / 16), Nat.digitChar (x.toNat % 16)]

namespace Res

variable {E : Type}

/-- `&s[n..]`. -/
def strFrom (s : Str) (n : Nat) : Res E Str :=
  match splitAtByte s n with
  | some (_, b) => .ok b
  | none => panic

/-- `&s[..n]`. -/
def strTo (s : Str) (n : Nat) : Res E Str :=
  match splitAtByte s n with
  | some (a, _) => .ok a
  | none => panic

/-- `&s[a..b]`. -/
def strRange (s : Str) (a b : Nat) : Res E Str :=
  if a ≤ b then do strFrom (← strTo s b) a else panic

/-- `if lower.starts_with(name) { &trimmed[name.len()..] }` for the first of the names that fits,
`lower` being `trimmed` in lower case. -/
def afterName (names : List Str) (trimmed : Str) : Res E (Option Str) :=
  match names.find? fun name => name <+: toLowercase trimmed with
  | some name => do return some (← strFrom trimmed (byteLen name))
  | none => .ok none

end Res

/-! ## Numbers -/

/-- The decimal digits of a number (`to_string`). -/
def showNat (n : Nat) : Str := Nat.toDigits 10 n

/-- A number without the `'+'` that may stand before it. -/
def stripPlus : Str → Str
  | '+' :: ds => ds
  | ds => ds

/-- `parse::<u16>()`, `parse::<u32>()` and so on, for `w` bits. -/
def parseUnsigned (w : Nat) (s : Str) : Option Nat :=
  let digits := stripPlus s
  if digits ≠ [] ∧ digits.all Char.isDigit ∧ Nat.ofDigitChars 10 digits 0 < 2 ^ w then
    some (Nat.ofDigitChars 10 digits 0)
  else none

/-- The value of a hexadecimal digit. -/
def hexDigit (c : Char) : Option Nat :=
  if c.isDigit then some (c.toNat - 48)
  else if 'a' ≤ c ∧ c ≤ 'f' then some (c.toNat - 87)
  else if 'A' ≤ c ∧ c ≤ 'F' then some (c.toNat - 55)
  else none

/-- `u64::from_str_radix(s, 16)` and so on, for `w` bits. -/
def parseHex (w : Nat) (s : Str) : Option Nat :=
  match (stripPlus s).mapM hexDigit with
  | some (d :: ds) =>
    let n := (d :: ds).foldl (fun n d => 16 * n + d) 0
    if n < 2 ^ w then some n else none
  | _ => none

/-! ## Facts about lines -/

theorem rawLines_of_not_mem : ∀ {l : Str}, '\n' ∉ l → rawLines l = ([], l)
  | [], _ => rfl
  | c :: l, h => by
    rw [List.mem_cons, not_or] at h
    rw [rawLines, if_neg (Ne.symm h.1), rawLines_of_not_mem h.2]

theorem rawLines_append : ∀ {l : Str} (s : Str), '\n' ∉ l →
    rawLines (l ++ '\n' :: s) = (l :: (rawLines s).1, (rawLines s).2)
  | [], s, _ => by rw [List.nil_append, rawLines, if_pos rfl]
  | c :: l, s, h => by
    rw [List.mem_cons, not_or] at h
    rw [List.cons_append, rawLines, if_neg (Ne.symm h.1), rawLines_append s h.2]

theorem lines_nil : lines [] = [] := rfl

/-- **The first line.** -/
theorem lines_cons {l : Str} (s : Str) (h : '\n' ∉ l) :
    lines (l ++ '\n' :: s) = stripCr l :: lines s := by
  rw [lines, rawLines_append s h]
  rfl

/-- A text without a line end is a line. -/
theorem lines_of_not_mem {l : Str} (h : '\n' ∉ l) (hne : l ≠ []) : lines l = [l] := by
  rw [lines, rawLines_of_not_mem h]
  simp [hne]

theorem stripCr_append (l : Str) : stripCr (l ++ ['\r']) = l := by
  simp [stripCr]

/-- A line that ends in `"\r\n"`. -/
theorem lines_crlf {l : Str} (s : Str) (h : '\n' ∉ l) :
    lines (l ++ '\r' :: '\n' :: s) = l :: lines s := by
  have hl : '\n' ∉ l ++ ['\r'] := by simp [h]
  rw [show l ++ '\r' :: '\n' :: s = (l ++ ['\r']) ++ '\n' :: s by simp, lines_cons s hl,
    stripCr_append]

/-! ## Facts about slices -/

theorem splitAtByte_append : ∀ a b : Str, splitAtByte (a ++ b) (byteLen a) = some (a, b)
  | [], b => by cases b <;> rfl
  | c :: a, b => by
    have hpos := c.utf8Size_pos
    obtain ⟨n, hn⟩ : ∃ n, byteLen (c :: a) = n + 1 :=
      ⟨byteLen (c :: a) - 1, by rw [byteLen_cons]; omega⟩
    have hsub : n + 1 - c.utf8Size = byteLen a := by rw [byteLen_cons] at hn; omega
    rw [List.cons_append, hn, splitAtByte, if_pos (by rw [← hn, byteLen_cons]; omega), hsub,
      splitAtByte_append a b]
    rfl

namespace Res

variable {E : Type}

theorem strFrom_append (a b : Str) : (strFrom (a ++ b) (byteLen a) : Res E Str) = .ok b := by
  rw [strFrom, splitAtByte_append]

theorem strTo_append (a b : Str) : (strTo (a ++ b) (byteLen a) : Res E Str) = .ok a := by
  rw [strTo, splitAtByte_append]

theorem strRange_append (a b c : Str) :
    (strRange (a ++ b ++ c) (byteLen a) (byteLen a + byteLen b) : Res E Str) = .ok b := by
  rw [strRange, if_pos (Nat.le_add_right _ _), ← byteLen_append, strTo_append]
  exact strFrom_append a b

end Res

/-- A name at the start of a text, in letters of either case, takes as many bytes there. -/
theorem byteLen_of_startsNoCase {p s : Str} (hp : IsAscii p) (h : startsNoCase p s) :
    byteLen (s.take p.length) = byteLen p := by
  have hlen := congrArg List.length h
  rw [List.length_map] at hlen
  have hascii : IsAscii (s.take p.length) := by
    intro c hc
    by_contra hge
    have hmem : c ∈ p := by
      rw [← h, ← toLower_of_ge (Nat.le_of_not_lt hge)]
      exact List.mem_map_of_mem hc
    exact hge (hp c hmem)
  rw [byteLen_ascii hascii, byteLen_ascii hp, hlen]

theorem Plain.isAscii {p : Str} (h : Plain p) : IsAscii p := fun c hc => (h.1 c hc).1

/-- The rest of a header line behind the first of the names that fits, in letters of either case. -/
def headField (names : List Str) (trimmed : Str) : Option Str :=
  (names.find? fun name => startsNoCase name trimmed).map fun name => trimmed.drop name.length

/-- **The test for a name and the cut behind it never panic.** -/
theorem afterName_eq {E : Type} {names : List Str} (h : ∀ p ∈ names, Plain p) (trimmed : Str) :
    (Res.afterName names trimmed : Res E (Option Str)) = .ok (headField names trimmed) := by
  have hfind : (names.find? fun name => name <+: toLowercase trimmed) =
      names.find? fun name => startsNoCase name trimmed := by
    refine List.find?_congr fun p hp => ?_
    rw [decide_eq_decide]
    exact startsWith_toLowercase trimmed (h p hp)
  unfold Res.afterName headField
  rw [hfind]
  cases hf : names.find? fun name => startsNoCase name trimmed with
  | none => rfl
  | some p =>
    have hs : startsNoCase p trimmed := by simpa using List.find?_some hf
    have hp := h p (List.mem_of_find?_eq_some hf)
    have hcut : (Res.strFrom trimmed (byteLen p) : Res E Str) = .ok (trimmed.drop p.length) := by
      rw [← byteLen_of_startsNoCase hp.isAscii hs]
      conv_lhs => rw [← List.take_append_drop p.length trimmed]
      rw [List.take_append_drop]
      have := Res.strFrom_append (E := E) (trimmed.take p.length) (trimmed.drop p.length)
      rwa [List.take_append_drop] at this
    simp only [hcut]
    rfl

/-! ## Facts about numbers -/

theorem parseUnsigned_lt {w n : Nat} {s : Str} (h : parseUnsigned w s = some n) : n < 2 ^ w := by
  unfold parseUnsigned at h
  dsimp only at h
  split at h
  · rename_i hdigits
    cases h
    exact hdigits.2.2
  · cases h

/-- A printed number is read back if it is in range. -/
theorem parseUnsigned_showNat_eq (w n : Nat) :
    parseUnsigned w (showNat n) = if n < 2 ^ w then some n else none := by
  have hdigit : ∀ c ∈ showNat n, c.isDigit := fun c hc =>
    Nat.isDigit_of_mem_toDigits (by decide) (by decide) hc
  have hne : showNat n ≠ [] := Nat.toDigits_ne_nil
  have hval : Nat.ofDigitChars 10 (showNat n) 0 = n := Nat.ofDigitChars_ten_toDigits
  have hplus : stripPlus (showNat n) = showNat n := by
    unfold stripPlus
    split
    · rename_i ds hs
      exact absurd (hdigit '+' (by rw [hs]; exact List.mem_cons_self)) (by decide)
    · rfl
  rw [parseUnsigned, hplus, hval]
  exact if_congr ⟨fun h => h.2.2, fun h => ⟨hne, List.all_eq_true.mpr hdigit, h⟩⟩ rfl rfl

/-- **A printed number is read back.** -/
theorem parseUnsigned_showNat {w n : Nat} (h : n < 2 ^ w) : parseUnsigned w (showNat n) = some n := by
  rw [parseUnsigned_showNat_eq, if_pos h]

/-- What is read of its first digits is not more. -/
theorem parseUnsigned_take_le {w n k m : Nat} (h : parseUnsigned w ((showNat n).take k) = some m) : m ≤ n := by
  have hplus : stripPlus ((showNat n).take k) = (showNat n).take k := by
    unfold stripPlus
    split
    · rename_i ds hs
      have hmem : '+' ∈ showNat n := List.mem_of_mem_take (hs ▸ List.mem_cons_self)
      exact absurd (Nat.isDigit_of_mem_toDigits (by decide) (by decide) hmem) (by decide)
    · rfl
  rw [parseUnsigned, hplus] at h
  split at h
  · cases h
    calc Nat.ofDigitChars 10 ((showNat n).take k) 0
        ≤ 10 ^ ((showNat n).drop k).length * Nat.ofDigitChars 10 ((showNat n).take k) 0 :=
          Nat.le_mul_of_pos_left _ (Nat.pow_pos (by decide))
      _ ≤ Nat.ofDigitChars 10 ((showNat n).drop k) (Nat.ofDigitChars 10 ((showNat n).take k) 0) := by
          rw [Nat.ofDigitChars_eq_ofDigitChars_zero (l := (showNat n).drop k)]
          exact Nat.le_add_right _ _
      _ = n := by
          rw [← Nat.ofDigitChars_append, List.take_append_drop]
          exact Nat.ofDigitChars_ten_toDigits
  · cases h

end Minghe.Lib
