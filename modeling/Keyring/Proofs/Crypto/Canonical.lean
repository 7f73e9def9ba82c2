import Keyring.Proofs.Crypto.Encoding

/-!
# The curve test in whole numbers

What `isOnCurve` accepts, said without the field: of the number that 32 bytes stand for, the low 255
bits are a second coordinate that is reduced, and the bit above them is the parity of a first
coordinate that solves the equation of the curve modulo the prime. The test divides by `d·y² + 1`.
This is never zero, so what stands for its inverse is one.
-/

namespace Keyring.Ed25519

open Curve

variable {x y : Nat}

def Solves (x y : Nat) : Prop :=
  -(x : ℤ) ^ 2 + (y : ℤ) ^ 2 ≡ 1 + (d : ℤ) * (x : ℤ) ^ 2 * (y : ℤ) ^ 2 [ZMOD p]

/-- By what the test divides. -/
def denominator (y : Nat) : Nat := (d * (y * y % p) + 1) % p

theorem cast_denominator (y : Nat) : (denominator y : F) = coefficient * (y : F) ^ 2 + 1 := by
  rw [denominator, ZMod.natCast_mod, Nat.cast_add, Nat.cast_mul, ZMod.natCast_mod, Nat.cast_mul,
    pow_two, Nat.cast_one]

theorem xSquared_eq (y : Nat) :
    xSquared y = sub (y * y % p) 1 * inv (denominator y) % p := rfl

theorem cast_denominator_ne_zero (y : Nat) : (denominator y : F) ≠ 0 := by
  rw [cast_denominator]
  exact mul_sq_add_one_ne_zero not_isSquare_coefficient isSquare_neg_one _

theorem denominator_ne_zero (y : Nat) : denominator y ≠ 0 := by
  intro h
  apply cast_denominator_ne_zero y
  rw [h, Nat.cast_zero]

theorem inv_denominator (y : Nat) : denominator y * inv (denominator y) % p = 1 := by
  have hmod : denominator y * inv (denominator y) % p < p := Nat.mod_lt _ one_le_p
  rw [← cast_inj hmod one_lt_p, ZMod.natCast_mod, Nat.cast_mul, cast_inv, Nat.cast_one]
  exact mul_inv_cancel₀ (cast_denominator_ne_zero y)

theorem solves_iff_onCurve : Solves x y ↔ OnCurve coefficient (x : F) (y : F) := by
  unfold Solves OnCurve
  rw [← ZMod.intCast_eq_intCast_iff]
  push_cast
  exact Iff.rfl

theorem solves_iff : Solves x y ↔ (x : F) ^ 2 = xSquared y := by
  rw [solves_iff_onCurve, onCurve_iff, cast_xSquared]

/-- Roots in the field are numbers below the prime. -/
theorem exists_root_iff {s : Nat} : (∃ a : F, a ^ 2 = xSquared y ∧ a.val % 2 = s) ↔
    ∃ x < p, Solves x y ∧ x % 2 = s := by
  constructor
  · rintro ⟨a, ha, hsign⟩
    refine ⟨a.val, ZMod.val_lt a, solves_iff.2 ?_, hsign⟩
    rw [ZMod.natCast_zmod_val, ha]
  · rintro ⟨x, hx, hsolves, hsign⟩
    refine ⟨x, solves_iff.1 hsolves, ?_⟩
    rw [ZMod.val_cast_of_lt hx, hsign]

theorem coefficient_eq : 121666 * (d : ℤ) ≡ -121665 [ZMOD p] := by
  have h : 121666 * d % p = p - 121665 := by decide +kernel
  have hle : 121665 ≤ p := by decide +kernel
  have hcast := congrArg (Nat.cast (R := F)) h
  rw [← ZMod.intCast_eq_intCast_iff]
  rw [ZMod.natCast_mod, Nat.cast_mul, Nat.cast_sub hle, ZMod.natCast_self, zero_sub] at hcast
  push_cast at hcast ⊢
  exact hcast

/--
The curve test. It accepts 32 bytes if and only if they are the encoding of a point: the low 255
bits of their number are the second coordinate of a point of the curve, below the prime, and the bit
above is the parity of the first one. The prime is one, and the coefficient is the one of the
standard. What the test divides by is never zero, so it multiplies with an inverse.
-/
theorem isOnCurve_exactly (bs : Bytes) (hbs : bs.length = 32) :
    (isOnCurve bs = true ↔
      Bytes.toNatLE bs % 2 ^ 255 < p ∧
        ∃ x < p, Solves x (Bytes.toNatLE bs % 2 ^ 255) ∧ x % 2 = Bytes.toNatLE bs / 2 ^ 255) ∧
    (isOnCurve bs = true ↔ ∃ P : CurvePoint, P.encode = bs) ∧
    (p = 2 ^ 255 - 19 ∧ p.Prime ∧ 121666 * (d : ℤ) ≡ -121665 [ZMOD p]) ∧
    ∀ y, xSquared y = sub (y * y % p) 1 * inv (denominator y) % p ∧ denominator y ≠ 0 ∧
      denominator y * inv (denominator y) % p = 1 := by
  have hparts : parts bs = (Bytes.toNatLE bs / 2 ^ 255, Bytes.toNatLE bs % 2 ^ 255) := rfl
  refine ⟨?_, isOnCurve_iff hbs, ⟨rfl, prime_p, coefficient_eq⟩,
    fun y => ⟨xSquared_eq y, denominator_ne_zero y, inv_denominator y⟩⟩
  rw [isOnCurve_iff_hasRoot hbs, HasRoot, hparts]
  exact and_congr_right fun _ => exists_root_iff

/-- The neutral point is accepted, with a first coordinate of zero. No point has its encoding with
the sign bit set. -/
theorem isOnCurve_exactly_neutral :
    isOnCurve (1 :: List.replicate 31 0) = true ∧
      ¬ ∃ P : CurvePoint, P.encode = 1 :: List.replicate 30 0 ++ [128] := by
  obtain ⟨hplain, -⟩ := isOnCurve_exactly (1 :: List.replicate 31 0) rfl
  obtain ⟨-, hsigned, -⟩ := isOnCurve_exactly (1 :: List.replicate 30 0 ++ [128]) rfl
  constructor
  · rw [hplain, show Bytes.toNatLE (1 :: List.replicate 31 0) = 1 by decide +kernel]
    exact ⟨one_lt_p, 0, one_le_p, by simp [Solves], rfl⟩
  · have hrefused : isOnCurve (1 :: List.replicate 30 0 ++ [128]) = false := by decide +kernel
    rw [← hsigned, hrefused]
    exact Bool.false_ne_true

end Keyring.Ed25519
