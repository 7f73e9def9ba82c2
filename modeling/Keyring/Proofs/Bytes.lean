import Keyring.Bytes
import Mathlib.Algebra.Group.Nat.Defs

/-!
# Numbers of a fixed width

A number that fits in so many bytes is read back from them, and bytes are written again as the
number that they stand for.
-/

namespace Keyring.Bytes

variable {w n : Nat} {bs : Bytes}

theorem toNatLE_cons (b : UInt8) (bs : Bytes) : toNatLE (b :: bs) = b.toNat + 256 * toNatLE bs :=
  rfl

theorem length_ofNatLE (w n : Nat) : (ofNatLE w n).length = w := by
  rw [ofNatLE, List.length_map, List.length_range]

theorem ofNatLE_succ (w n : Nat) :
    ofNatLE (w + 1) n = UInt8.ofNat n :: ofNatLE w (n / 256) := by
  rw [ofNatLE, List.range_succ_eq_map, List.map_cons, List.map_map, ofNatLE]
  congr 1
  refine List.map_congr_left fun i _ => ?_
  have hshift : n >>> (8 * (i + 1)) = (n / 256) >>> (8 * i) := by
    rw [show 8 * (i + 1) = 8 + 8 * i by omega, Nat.shiftRight_add, Nat.shiftRight_eq_div_pow n 8]
  exact congrArg UInt8.ofNat hshift

theorem toNatLE_ofNatLE (h : n < 256 ^ w) : toNatLE (ofNatLE w n) = n := by
  induction w generalizing n with
  | zero =>
      obtain rfl : n = 0 := by simpa using h
      rfl
  | succ w ih =>
      have hrest : n / 256 < 256 ^ w := by
        rw [Nat.div_lt_iff_lt_mul (by decide), ← Nat.pow_succ]
        exact h
      have hlow : (UInt8.ofNat n).toNat = n % 256 := UInt8.toNat_ofNat'
      rw [ofNatLE_succ, toNatLE_cons, ih hrest, hlow]
      omega

theorem ofNatLE_toNatLE (h : bs.length = w) : ofNatLE w (toNatLE bs) = bs := by
  induction bs generalizing w with
  | nil =>
      subst h
      rfl
  | cons b bs ih =>
      subst h
      have hlt := b.toNat_lt
      have hlow : UInt8.ofNat (b.toNat + 256 * toNatLE bs) = b := by
        apply UInt8.toNat_inj.1
        rw [UInt8.toNat_ofNat']
        omega
      have hrest : (b.toNat + 256 * toNatLE bs) / 256 = toNatLE bs := by omega
      rw [List.length_cons, toNatLE_cons, ofNatLE_succ, hlow, hrest, ih rfl]

theorem toNatLE_lt (bs : Bytes) : toNatLE bs < 256 ^ bs.length := by
  induction bs with
  | nil => exact Nat.one_pos
  | cons b bs ih =>
      have hlt := b.toNat_lt
      rw [toNatLE_cons, List.length_cons, Nat.pow_succ]
      omega

end Keyring.Bytes
