import Mathlib.Tactic.Common

/-!
# Base64

The encoding of bytes in the 64 characters of the standard alphabet, three bytes in four characters, the
last group filled up with `'='`. `decodeBase64` takes nothing but what `encodeBase64` returns.

* `decodeBase64_encodeBase64`: what is encoded is decoded again, whatever its length.
* `length_encodeBase64`: four characters for every three bytes that are begun.
* `mem_encodeBase64`: it consists of the characters of the alphabet and of `=`.
-/

namespace Minghe.Lib

/-- The characters of the values 0 to 63. -/
def base64Alphabet : List Char :=
  "ABCDEFGHIJKLMNOPQRSTUVWXYZabcdefghijklmnopqrstuvwxyz0123456789+/".toList

/-- The character of a value. -/
def base64Digit (n : Nat) : Char := base64Alphabet.getD n '='

/-- The value of a character. -/
def base64Value (c : Char) : Option Nat :=
  if c ∈ base64Alphabet then some (base64Alphabet.idxOf c) else none

/-- The characters of a string of bytes. -/
def encodeBase64 : List UInt8 → List Char
  | [] => []
  | [a] => [base64Digit (a.toNat / 4), base64Digit (a.toNat % 4 * 16), '=', '=']
  | [a, b] =>
    [base64Digit (a.toNat / 4), base64Digit (a.toNat % 4 * 16 + b.toNat / 16),
      base64Digit (b.toNat % 16 * 4), '=']
  | a :: b :: c :: rest =>
    base64Digit (a.toNat / 4) :: base64Digit (a.toNat % 4 * 16 + b.toNat / 16) ::
      base64Digit (b.toNat % 16 * 4 + c.toNat / 64) :: base64Digit (c.toNat % 64) :: encodeBase64 rest

/-- The bytes that the characters stand for. The bits that a last group leaves over are 0. -/
def decodeBase64 : List Char → Option (List UInt8)
  | [] => some []
  | w :: x :: y :: z :: rest => do
    let w ← base64Value w
    let x ← base64Value x
    if y = '=' ∧ z = '=' ∧ rest = [] then
      if x % 16 = 0 then some [UInt8.ofNat (w * 4 + x / 16)] else none
    else
      let y ← base64Value y
      if z = '=' ∧ rest = [] then
        if y % 4 = 0 then
          some [UInt8.ofNat (w * 4 + x / 16), UInt8.ofNat (x % 16 * 16 + y / 4)]
        else none
      else
        let z ← base64Value z
        let bytes ← decodeBase64 rest
        some (UInt8.ofNat (w * 4 + x / 16) :: UInt8.ofNat (x % 16 * 16 + y / 4) ::
          UInt8.ofNat (y % 4 * 64 + z) :: bytes)
  | _ => none

/-- A digit is an alphabet character that has its value. -/
theorem base64Digit_spec {n : Nat} (h : n < 64) :
    base64Value (base64Digit n) = some n ∧ base64Digit n ≠ '=' ∧
      ((base64Digit n).isAlphanum = true ∨ base64Digit n ∈ ['+', '/']) := by
  have hall : ∀ n : Fin 64, base64Value (base64Digit n) = some n.val ∧ base64Digit n ≠ '=' ∧
      ((base64Digit n).isAlphanum = true ∨ base64Digit n ∈ ['+', '/']) := by decide +kernel
  exact hall ⟨n, h⟩

/-- **What is encoded is decoded.** -/
theorem decodeBase64_encodeBase64 (bytes : List UInt8) : decodeBase64 (encodeBase64 bytes) = some bytes := by
  induction bytes using encodeBase64.induct with
  | case1 => rfl
  | case2 a =>
    have ha := a.toNat_lt
    have h₁ := (base64Digit_spec (n := a.toNat / 4) (by omega)).1
    have h₂ := (base64Digit_spec (n := a.toNat % 4 * 16) (by omega)).1
    have hbyte : a.toNat / 4 * 4 + a.toNat % 4 * 16 / 16 = a.toNat := by omega
    rw [encodeBase64, decodeBase64, h₁, h₂]
    simp only [bind, Option.bind, and_self, if_true, Nat.mul_mod_left, hbyte, UInt8.ofNat_toNat]
  | case3 a b =>
    have ha := a.toNat_lt
    have hb := b.toNat_lt
    have h₁ := (base64Digit_spec (n := a.toNat / 4) (by omega)).1
    have h₂ := (base64Digit_spec (n := a.toNat % 4 * 16 + b.toNat / 16) (by omega)).1
    obtain ⟨h₃, hne, -⟩ := base64Digit_spec (n := b.toNat % 16 * 4) (by omega)
    have hbyte₁ : a.toNat / 4 * 4 + (a.toNat % 4 * 16 + b.toNat / 16) / 16 = a.toNat := by omega
    have hbyte₂ : (a.toNat % 4 * 16 + b.toNat / 16) % 16 * 16 + b.toNat % 16 * 4 / 4 = b.toNat := by omega
    rw [encodeBase64, decodeBase64, h₁, h₂]
    simp only [bind, Option.bind, hne, false_and, if_false, h₃, and_self, if_true, Nat.mul_mod_left, hbyte₁,
      hbyte₂, UInt8.ofNat_toNat]
  | case4 a b c rest ih =>
    have ha := a.toNat_lt
    have hb := b.toNat_lt
    have hc := c.toNat_lt
    have h₁ := (base64Digit_spec (n := a.toNat / 4) (by omega)).1
    have h₂ := (base64Digit_spec (n := a.toNat % 4 * 16 + b.toNat / 16) (by omega)).1
    obtain ⟨h₃, hne₃, -⟩ := base64Digit_spec (n := b.toNat % 16 * 4 + c.toNat / 64) (by omega)
    obtain ⟨h₄, hne₄, -⟩ := base64Digit_spec (n := c.toNat % 64) (by omega)
    have hbyte₁ : a.toNat / 4 * 4 + (a.toNat % 4 * 16 + b.toNat / 16) / 16 = a.toNat := by omega
    have hbyte₂ : (a.toNat % 4 * 16 + b.toNat / 16) % 16 * 16 + (b.toNat % 16 * 4 + c.toNat / 64) / 4 =
        b.toNat := by omega
    have hbyte₃ : (b.toNat % 16 * 4 + c.toNat / 64) % 4 * 64 + c.toNat % 64 = c.toNat := by omega
    rw [encodeBase64, decodeBase64, h₁, h₂]
    simp only [bind, Option.bind, hne₃, hne₄, false_and, if_false, h₃, h₄, ih, hbyte₁, hbyte₂, hbyte₃,
      UInt8.ofNat_toNat]

theorem length_encodeBase64 (bytes : List UInt8) :
    (encodeBase64 bytes).length = 4 * ((bytes.length + 2) / 3) := by
  induction bytes using encodeBase64.induct with
  | case1 => rfl
  | case2 a => simp [encodeBase64]
  | case3 a b => simp [encodeBase64]
  | case4 a b c rest ih =>
    simp only [encodeBase64, List.length_cons, ih]
    omega

theorem mem_encodeBase64 {bytes : List UInt8} {c : Char} (h : c ∈ encodeBase64 bytes) :
    c.isAlphanum = true ∨ c ∈ ['+', '/', '='] := by
  have hdigit : ∀ {n}, n < 64 → c = base64Digit n → c.isAlphanum = true ∨ c ∈ ['+', '/', '='] := by
    rintro n hn rfl
    rcases (base64Digit_spec hn).2.2 with h | h
    · exact .inl h
    · exact .inr (List.mem_append_left ['='] h)
  induction bytes using encodeBase64.induct with
  | case1 => cases h
  | case2 a =>
    have ha := a.toNat_lt
    simp only [encodeBase64, List.mem_cons, List.not_mem_nil, or_false] at h
    rcases h with h | h | h | h
    · exact hdigit (by omega) h
    · exact hdigit (by omega) h
    · exact .inr (by simp [h])
    · exact .inr (by simp [h])
  | case3 a b =>
    have ha := a.toNat_lt
    have hb := b.toNat_lt
    simp only [encodeBase64, List.mem_cons, List.not_mem_nil, or_false] at h
    rcases h with h | h | h | h
    · exact hdigit (by omega) h
    · exact hdigit (by omega) h
    · exact hdigit (by omega) h
    · exact .inr (by simp [h])
  | case4 a b c rest ih =>
    have ha := a.toNat_lt
    have hb := b.toNat_lt
    have hc := c.toNat_lt
    simp only [encodeBase64, List.mem_cons] at h
    rcases h with h | h | h | h | h
    · exact hdigit (by omega) h
    · exact hdigit (by omega) h
    · exact hdigit (by omega) h
    · exact hdigit (by omega) h
    · exact ih h

end Minghe.Lib
