import Keyring.Proofs.Crypto.Encoding

/-!
# Public keys are points

Points in extended coordinates stand for points of the curve, addition of the ones for addition of
the others. So every multiple of the base point is a point, and its compressed form, such as a
public key, is the encoding of one.
-/

namespace Keyring.Ed25519

open Curve

theorem two_ne_zero_field : (2 : F) ≠ 0 := by
  have hp := p_mod_eight
  have h := (cast_eq_zero_iff (x := 2) (by omega)).not.2 two_ne_zero
  exact_mod_cast h

namespace CurvePoint

theorem denominators (P Q : CurvePoint) :
    1 + coefficient * P.x * Q.x * P.y * Q.y ≠ 0 ∧ 1 - coefficient * P.x * Q.x * P.y * Q.y ≠ 0 :=
  P.on.denominators not_isSquare_coefficient isSquare_neg_one two_ne_zero_field Q.on

def zero : CurvePoint := ⟨0, 1, by simp [OnCurve]⟩

def add (P Q : CurvePoint) : CurvePoint where
  x := (P.x * Q.y + Q.x * P.y) / (1 + coefficient * P.x * Q.x * P.y * Q.y)
  y := (P.y * Q.y + P.x * Q.x) / (1 - coefficient * P.x * Q.x * P.y * Q.y)
  on := P.on.add not_isSquare_coefficient isSquare_neg_one two_ne_zero_field Q.on

end CurvePoint

namespace Point

structure Represents (a : Point) (P : CurvePoint) : Prop where
  small : a.x < p
  z : (a.z : F) ≠ 0
  x : (a.x : F) = P.x * a.z
  y : (a.y : F) = P.y * a.z
  t : (a.t : F) = P.x * P.y * a.z

variable {a b : Point} {P Q : CurvePoint}

theorem cast_add (ha : a.x ≤ p) (hb : b.x ≤ p) :
    ((a.add b).x : F) = 2 * (a.x * b.y + b.x * a.y) * (2 * (a.z * b.z - coefficient * a.t * b.t)) ∧
    ((a.add b).y : F) = 2 * (a.z * b.z + coefficient * a.t * b.t) * (2 * (a.y * b.y + a.x * b.x)) ∧
    ((a.add b).z : F) = 2 * (a.z * b.z - coefficient * a.t * b.t) *
      (2 * (a.z * b.z + coefficient * a.t * b.t)) ∧
    ((a.add b).t : F) = 2 * (a.x * b.y + b.x * a.y) * (2 * (a.y * b.y + a.x * b.x)) := by
  have hmod (n : Nat) : n % p ≤ p := (Nat.mod_lt n one_le_p).le
  rw [add]
  dsimp only
  push_cast [ZMod.natCast_mod, cast_sub _ (hmod _), cast_sub _ ha, cast_sub _ hb]
  refine ⟨?_, ?_, ?_, ?_⟩ <;> ring

theorem Represents.add (ha : a.Represents P) (hb : b.Represents Q) :
    (a.add b).Represents (P.add Q) := by
  obtain ⟨hx, hy, hz, ht⟩ := cast_add ha.small.le hb.small.le
  obtain ⟨hplus, hminus⟩ := P.denominators Q
  have hzz : (2 : F) * (a.z * b.z) ≠ 0 := mul_ne_zero two_ne_zero_field (mul_ne_zero ha.z hb.z)
  simp only [ha.x, ha.y, ha.t, hb.x, hb.y, hb.t] at hx hy hz ht
  have hz' : ((a.add b).z : F) = 2 * (a.z * b.z) * (1 - coefficient * P.x * Q.x * P.y * Q.y) *
      (2 * (a.z * b.z) * (1 + coefficient * P.x * Q.x * P.y * Q.y)) := by
    rw [hz]
    ring
  refine ⟨Nat.mod_lt _ one_le_p, ?_, ?_, ?_, ?_⟩
  · rw [hz']
    exact mul_ne_zero (mul_ne_zero hzz hminus) (mul_ne_zero hzz hplus)
  · rw [hx, hz', CurvePoint.add, div_mul_eq_mul_div, eq_div_iff hplus]
    ring
  · rw [hy, hz', CurvePoint.add, div_mul_eq_mul_div, eq_div_iff hminus]
    ring
  · rw [ht, hz', CurvePoint.add, div_mul_div_comm, div_mul_eq_mul_div,
      eq_div_iff (mul_ne_zero hplus hminus)]
    ring

theorem represents_neutral : neutral.Represents CurvePoint.zero where
  small := one_le_p
  z := by simp [neutral, affine]
  x := by simp [neutral, affine, CurvePoint.zero]
  y := by simp [neutral, affine, CurvePoint.zero]
  t := by simp [neutral, affine, CurvePoint.zero]

theorem Represents.compress (h : a.Represents P) : a.compress = P.encode := by
  have hcoordinate {n : Nat} {c : F} (hn : (n : F) = c * a.z) : n * inv a.z % p = c.val := by
    rw [← ZMod.val_natCast, Nat.cast_mul, cast_inv, hn, mul_inv_cancel_right₀ h.z]
  rw [Point.compress, hcoordinate h.x, hcoordinate h.y]
  rfl

/-- Every multiple of a point is a point. -/
theorem Represents.mul (h : a.Represents P) (n : Nat) : ∃ Q, (mul n a).Represents Q := by
  induction n, a using mul.induct generalizing P with
  | case1 a =>
      rw [Point.mul, dif_pos rfl]
      exact ⟨_, represents_neutral⟩
  | case2 n a hn hodd ih =>
      obtain ⟨Q, hQ⟩ := ih (h.add h)
      rw [Point.mul, dif_neg hn]
      simp only [if_pos hodd]
      exact ⟨_, h.add hQ⟩
  | case3 n a hn heven ih =>
      obtain ⟨Q, hQ⟩ := ih (h.add h)
      rw [Point.mul, dif_neg hn]
      simp only [if_neg heven]
      exact ⟨Q, hQ⟩

theorem exists_represents_base : ∃ P, base.Represents P := by
  have hcurve : (base.y * base.y) % p = (1 + base.x * base.x + d * (base.x * base.x) *
      (base.y * base.y)) % p := by
    decide +kernel
  have hcast := congrArg (Nat.cast (R := F)) hcurve
  push_cast [ZMod.natCast_mod] at hcast
  have hon : OnCurve coefficient (base.x : F) (base.y : F) := by
    rw [OnCurve]
    linear_combination hcast
  have hz : (base.z : F) = 1 := Nat.cast_one
  have ht : (base.t : F) = base.x * base.y := by
    rw [← Nat.cast_mul, ← ZMod.natCast_mod (base.x * base.y)]
    rfl
  refine ⟨⟨base.x, base.y, hon⟩, by decide +kernel, ?_, ?_, ?_, ?_⟩ <;> rw [hz]
  · exact one_ne_zero
  · rw [mul_one]
  · rw [mul_one]
  · rw [mul_one, ht]

end Point

/-- A public key is the encoding of a point, whatever the private key. -/
theorem exists_encode_publicKey (key : Bytes) : ∃ P : CurvePoint, publicKey key = P.encode := by
  obtain ⟨B, hB⟩ := Point.exists_represents_base
  obtain ⟨P, hP⟩ := hB.mul (secrets key).1
  exact ⟨P, hP.compress⟩

end Keyring.Ed25519
