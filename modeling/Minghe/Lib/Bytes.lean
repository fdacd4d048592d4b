import Mathlib.Data.List.Basic
import Mathlib.Data.List.Induction
import Mathlib.Tactic.Ring

/-!
# Byte strings: big-endian numbers and the XOR of two strings

Byte strings are `List UInt8`.

* `beBytes w n` writes the low `8 w` bits of `n` in `w` bytes, most significant first, and `beNat`
  reads a byte string as a number.
* `xorBytes` is the bytewise XOR, as long as the shorter argument.

Results:
* `beNat_beBytes`, `beBytes_inj`: writing is injective below `256 ^ w`.
* `drop_beBytes`: the last bytes of a number are the bytes of the same number.
* `xorBytes_cancel`, `xorBytes_inj`: a mask as long as the text can be taken off again, so masking
  with a fixed key is injective.
-/

namespace Minghe.Lib.Bytes

/-- The low `8 w` bits of `n`, in `w` bytes, most significant byte first. -/
def beBytes : Nat → Nat → List UInt8
  | 0, _ => []
  | w + 1, n => beBytes w (n / 256) ++ [UInt8.ofNat n]

/-- The number a byte string spells, most significant byte first. -/
def beNat (bs : List UInt8) : Nat := bs.foldl (fun acc b => acc * 256 + b.toNat) 0

/-- The bytewise XOR, as long as the shorter of the two. -/
def xorBytes (a b : List UInt8) : List UInt8 := List.zipWith (· ^^^ ·) a b

/-! ## Big-endian numbers -/

@[simp] theorem length_beBytes : ∀ w n, (beBytes w n).length = w
  | 0, _ => rfl
  | w + 1, n => by simp [beBytes, length_beBytes w]

theorem beNat_append (a b : List UInt8) : beNat (a ++ b) = beNat a * 256 ^ b.length + beNat b := by
  induction b using List.reverseRecOn with
  | nil => simp [beNat]
  | append_singleton b x ih =>
    have hs : ∀ l : List UInt8, beNat (l ++ [x]) = beNat l * 256 + x.toNat := by simp [beNat]
    rw [← List.append_assoc, hs, hs, ih, List.length_append, List.length_singleton]
    ring

theorem beNat_beBytes : ∀ {w n : Nat}, n < 256 ^ w → beNat (beBytes w n) = n
  | 0, n, h => by simp only [Nat.pow_zero] at h; simp [beBytes, beNat]; omega
  | w + 1, n, h => by
    have hd : n / 256 < 256 ^ w := by
      rw [Nat.pow_succ] at h
      exact Nat.div_lt_of_lt_mul (by rw [Nat.mul_comm]; exact h)
    rw [beBytes, beNat_append, beNat_beBytes hd]
    simp [beNat]
    omega

/-- Two numbers that fit and are written alike are equal. -/
theorem beBytes_inj {w n m : Nat} (hn : n < 256 ^ w) (hm : m < 256 ^ w)
    (h : beBytes w n = beBytes w m) : n = m := by
  rw [← beNat_beBytes hn, ← beNat_beBytes hm, h]

/-- The last `b` bytes of the `a + b` bytes of `n` are the `b` bytes of `n`. -/
theorem drop_beBytes (a : Nat) : ∀ b n, (beBytes (a + b) n).drop a = beBytes b n
  | 0, n => by simp [beBytes]
  | b + 1, n => by
    rw [← Nat.add_assoc, beBytes, beBytes, List.drop_append_of_le_length (by simp),
      drop_beBytes a b]

/-! ## XOR -/

@[simp] theorem length_xorBytes (a b : List UInt8) :
    (xorBytes a b).length = min a.length b.length := List.length_zipWith

@[simp] theorem xorBytes_nil (b : List UInt8) : xorBytes [] b = [] := rfl

/-- Masking twice with a mask at least as long as the text gives the text back. -/
theorem xorBytes_cancel : ∀ {a k : List UInt8}, a.length ≤ k.length → xorBytes (xorBytes a k) k = a
  | [], _, _ => rfl
  | _ :: _, [], h => by simp at h
  | x :: a, y :: k, h => by
    have ih := xorBytes_cancel (a := a) (k := k) (by simpa using h)
    simp only [xorBytes, List.zipWith_cons_cons] at ih ⊢
    rw [ih, UInt8.xor_assoc, UInt8.xor_self, UInt8.xor_zero]

/-- A mask that is long enough may go on. -/
theorem xorBytes_append_right : ∀ {a k : List UInt8}, a.length ≤ k.length → ∀ l : List UInt8,
    xorBytes a (k ++ l) = xorBytes a k
  | [], _, _, _ => rfl
  | _ :: _, [], h, _ => by cases h
  | x :: a, y :: k, h, l => by
    have ih := xorBytes_append_right (a := a) (k := k) (by simpa using h) l
    simp only [xorBytes, List.cons_append, List.zipWith_cons_cons] at ih ⊢
    rw [ih]

/-- Masking with a fixed mask is injective. -/
theorem xorBytes_inj {a b k : List UInt8} (ha : a.length ≤ k.length) (hb : b.length ≤ k.length)
    (h : xorBytes a k = xorBytes b k) : a = b := by
  rw [← xorBytes_cancel ha, ← xorBytes_cancel hb, h]

end Minghe.Lib.Bytes
