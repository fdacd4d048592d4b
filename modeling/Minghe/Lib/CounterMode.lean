import Minghe.Lib.Bytes

/-!
# Counter mode

A block cipher run in counter mode XORs a text, cut into blocks of `w` bytes, with the keystream
blocks `ks 0, ks 1, …`. `xorBlocks ks n data` does that for the first `n` blocks, so with enough
blocks it is the whole text (`data.length ≤ n * w`). The keystream is an arbitrary function: nothing
here depends on how it is made.

* `length_xorBlocks`: the text keeps its length.
* `xorBlocks_cancel`: encryption and decryption are one operation, which undoes itself.
-/

namespace Minghe.Lib.CounterMode

open Minghe.Lib.Bytes

variable {w : Nat}

/-- The first `n` blocks of `data` under the keystream `ks`. -/
def xorBlocks (ks : Nat → Vector UInt8 w) (n : Nat) (data : List UInt8) : List UInt8 :=
  (List.range n).flatMap fun i => xorBytes ((data.drop (i * w)).take w) (ks i).toList

theorem xorBlocks_succ (ks : Nat → Vector UInt8 w) (n : Nat) (data : List UInt8) :
    xorBlocks ks (n + 1) data =
      xorBytes (data.take w) (ks 0).toList ++ xorBlocks (fun i => ks (i + 1)) n (data.drop w) := by
  unfold xorBlocks
  rw [List.range_succ_eq_map, List.flatMap_cons, List.flatMap_map, Nat.zero_mul, List.drop_zero]
  congr 1
  refine List.flatMap_congr fun i _ => ?_
  rw [List.drop_drop, Nat.succ_mul, Nat.add_comm]

theorem xorBlocks_nil (ks : Nat → Vector UInt8 w) : ∀ n, xorBlocks ks n [] = []
  | 0 => rfl
  | n + 1 => by rw [xorBlocks_succ, List.take_nil, List.drop_nil, xorBlocks_nil _ n]; rfl

theorem length_xorBlocks : ∀ (ks : Nat → Vector UInt8 w) {n : Nat} {data : List UInt8},
    data.length ≤ n * w → (xorBlocks ks n data).length = data.length
  | _, 0, data, h => by
    simp only [Nat.zero_mul, Nat.le_zero, List.length_eq_zero_iff] at h
    subst h; rfl
  | ks, n + 1, data, h => by
    rw [xorBlocks_succ, List.length_append,
      length_xorBlocks _ (by rw [List.length_drop]; rw [Nat.succ_mul] at h; omega)]
    simp only [length_xorBytes, List.length_take, Vector.length_toList, List.length_drop]
    omega

/-- **The text under its keystream**: byte by byte, block after block. -/
theorem xorBlocks_eq_xorBytes : ∀ (ks : Nat → Vector UInt8 w) {n : Nat} {data : List UInt8},
    data.length ≤ n * w →
      xorBlocks ks n data = xorBytes data ((List.range n).flatMap fun i => (ks i).toList)
  | _, 0, data, h => by
    simp only [Nat.zero_mul, Nat.le_zero, List.length_eq_zero_iff] at h
    subst h; rfl
  | ks, n + 1, data, h => by
    have hrest : (data.drop w).length ≤ n * w := by
      rw [List.length_drop]; rw [Nat.succ_mul] at h; omega
    rw [xorBlocks_succ, xorBlocks_eq_xorBytes _ hrest, List.range_succ_eq_map, List.flatMap_cons,
      List.flatMap_map]
    by_cases hw : w ≤ data.length
    · -- a full first block
      have hlen : (data.take w).length = (ks 0).toList.length := by simp [hw]
      unfold xorBytes
      rw [← List.zipWith_append hlen, List.take_append_drop]
    · -- the text ends inside the first block
      have hlen : data.length ≤ (ks 0).toList.length := by simp; omega
      rw [List.drop_eq_nil_of_le (by omega), List.take_of_length_le (by omega), xorBytes_nil,
        List.append_nil, xorBytes_append_right hlen]

/-- **Counter mode undoes itself.** -/
theorem xorBlocks_cancel : ∀ (ks : Nat → Vector UInt8 w) {n : Nat} {data : List UInt8},
    data.length ≤ n * w → xorBlocks ks n (xorBlocks ks n data) = data
  | _, 0, data, h => by
    simp only [Nat.zero_mul, Nat.le_zero, List.length_eq_zero_iff] at h
    subst h; rfl
  | ks, n + 1, data, h => by
    have hrest : (data.drop w).length ≤ n * w := by
      rw [List.length_drop]; rw [Nat.succ_mul] at h; omega
    have ih := xorBlocks_cancel (fun i => ks (i + 1)) hrest
    have hhead : xorBytes (xorBytes (data.take w) (ks 0).toList) (ks 0).toList = data.take w :=
      xorBytes_cancel (by simp)
    rw [xorBlocks_succ ks n data, xorBlocks_succ]
    by_cases hw : w ≤ data.length
    · -- a full first block: the split falls between it and the rest
      have hlen : (xorBytes (data.take w) (ks 0).toList).length = w := by simp [hw]
      rw [List.take_left' hlen, List.drop_left' hlen, hhead, ih, List.take_append_drop]
    · -- the text ends inside the first block
      have hdrop : data.drop w = [] := List.drop_eq_nil_of_le (by omega)
      have hlen : (xorBytes (data.take w) (ks 0).toList).length ≤ w := by simp
      rw [hdrop, xorBlocks_nil, List.append_nil, List.take_of_length_le hlen,
        List.drop_eq_nil_of_le hlen, xorBlocks_nil, List.append_nil, hhead,
        List.take_of_length_le (by omega)]

end Minghe.Lib.CounterMode
