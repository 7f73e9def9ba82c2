import Keyring.Proofs.Crypto.Prime
import Mathlib.NumberTheory.LegendreSymbol.Basic

/-!
# The field of the curve

The numbers that the curve computes with stand for elements of `ZMod p`, and its operations for the
operations of that field. Whether an element has a root is told by one power: `-1` has one, the
coefficient of the curve has none. What `rootOf` finds is a root of every element that has one.
-/

namespace Keyring.Ed25519

abbrev F := ZMod p

abbrev coefficient : F := (d : F)

theorem p_lt : p < 2 ^ 255 := Nat.sub_lt (by decide) (by decide)

/-- The remainder on which the way to find roots rests. -/
theorem p_mod_eight : p % 8 = 5 := rfl

theorem one_le_p : 1 ≤ p := by
  have := p_mod_eight
  omega

theorem one_lt_p : 1 < p := by
  have := p_mod_eight
  omega

/-! ## Operations -/

theorem cast_inv (x : Nat) : (inv x : F) = (x : F)⁻¹ := by
  have hp := p_mod_eight
  rw [inv, cast_powMod]
  by_cases hx : (x : F) = 0
  · rw [hx, inv_zero, zero_pow (by omega)]
  · have hpow : (x : F) * x ^ (p - 2) = 1 := by
      rw [← pow_succ', show p - 2 + 1 = p - 1 by omega]
      exact ZMod.pow_card_sub_one_eq_one hx
    exact eq_inv_of_mul_eq_one_right hpow

theorem cast_sub (x : Nat) {y : Nat} (hy : y ≤ p) : (sub x y : F) = x - y := by
  rw [sub, ZMod.natCast_mod, Nat.cast_add, Nat.cast_sub hy, ZMod.natCast_self, zero_sub,
    sub_eq_add_neg]

theorem cast_eq_zero_iff {x : Nat} (hx : x < p) : (x : F) = 0 ↔ x = 0 := by
  rw [ZMod.natCast_eq_zero_iff]
  exact ⟨fun h => Nat.eq_zero_of_dvd_of_lt h hx, fun h => h ▸ dvd_zero p⟩

theorem cast_inj {x y : Nat} (hx : x < p) (hy : y < p) : (x : F) = y ↔ x = y := by
  rw [ZMod.natCast_eq_natCast_iff', Nat.mod_eq_of_lt hx, Nat.mod_eq_of_lt hy]

theorem mul_self_mod_eq_iff {r x : Nat} (hx : x < p) : r * r % p = x ↔ (r : F) ^ 2 = x := by
  rw [← cast_inj (Nat.mod_lt _ one_le_p) hx, ZMod.natCast_mod, Nat.cast_mul, pow_two]

/-- The other root has the other parity. -/
theorem val_neg_mod_two {x : F} (hx : x ≠ 0) : (-x).val % 2 = 1 - x.val % 2 := by
  have hlt := ZMod.val_lt x
  have hp := p_mod_eight
  have : NeZero x := ⟨hx⟩
  rw [ZMod.val_neg_of_ne_zero]
  omega

/-! ## Roots -/

/-- The exponent by which an element with a root is told. -/
theorem isSquare_iff {a : F} (ha : a ≠ 0) : IsSquare a ↔ a ^ ((p - 1) / 2) = 1 := by
  have hp := p_mod_eight
  rw [ZMod.euler_criterion p ha, show p / 2 = (p - 1) / 2 by omega]

theorem isSquare_neg_one : IsSquare (-1 : F) := by
  have hp := p_mod_eight
  exact ZMod.exists_sq_eq_neg_one_iff.2 (by omega)

theorem coefficient_ne_zero : coefficient ≠ 0 := by
  have hlt : d < p := Nat.mod_lt _ one_le_p
  rw [Ne, cast_eq_zero_iff hlt]
  decide +kernel

theorem not_isSquare_coefficient : ¬ IsSquare coefficient := by
  rw [isSquare_iff coefficient_ne_zero, ← powMod_eq_one_iff one_lt_p]
  decide +kernel

/-- Two has no root, so that this power of it is a root of minus one. -/
theorem cast_powMod_two_sq : (powMod p 2 ((p - 1) / 4) : F) ^ 2 = -1 := by
  have hpow : powMod p 2 ((p - 1) / 2) = p - 1 := by decide +kernel
  have hcast := congrArg (Nat.cast (R := F)) hpow
  rw [cast_powMod, Nat.cast_sub one_le_p, ZMod.natCast_self, Nat.cast_one, zero_sub] at hcast
  have hp := p_mod_eight
  have hexp : (p - 1) / 4 * 2 = (p - 1) / 2 := by omega
  rw [cast_powMod, ← pow_mul, hexp, hcast]

theorem rootOf_lt (x2 : Nat) : Point.rootOf x2 < p := by
  rw [Point.rootOf]
  split
  next => exact powMod_eq p _ _ ▸ Nat.mod_lt _ one_le_p
  next => exact Nat.mod_lt _ one_le_p

theorem rootOf_sq {x2 : Nat} (hlt : x2 < p) (hsquare : IsSquare (x2 : F)) :
    (Point.rootOf x2 : F) ^ 2 = x2 := by
  have hp := p_mod_eight
  let r := powMod p x2 ((p + 3) / 8)
  have hroot : Point.rootOf x2 =
      if r * r % p = x2 then r else r * powMod p 2 ((p - 1) / 4) % p := rfl
  rw [hroot]
  split
  next h => exact (mul_self_mod_eq_iff hlt).1 h
  next h =>
    have hne : (r : F) ^ 2 ≠ x2 := (mul_self_mod_eq_iff hlt).not.1 h
    have hnonzero : (x2 : F) ≠ 0 := by
      intro hzero
      apply hne
      rw [cast_powMod, hzero, zero_pow (by omega), zero_pow two_ne_zero]
    -- The fourth power of the candidate is the square of the element.
    have hfourth : ((r : F) ^ 2) ^ 2 = (x2 : F) ^ 2 := by
      have hexp : (p + 3) / 8 * 2 * 2 = 2 + (p - 1) / 2 := by omega
      rw [← pow_mul, cast_powMod, ← pow_mul, ← mul_assoc, hexp, pow_add,
        (isSquare_iff hnonzero).1 hsquare, mul_one]
    have hneg : (r : F) ^ 2 = -x2 := (sq_eq_sq_iff_eq_or_eq_neg.1 hfourth).resolve_left hne
    rw [ZMod.natCast_mod, Nat.cast_mul, mul_pow, hneg, cast_powMod_two_sq, neg_mul_neg, mul_one]

end Keyring.Ed25519
