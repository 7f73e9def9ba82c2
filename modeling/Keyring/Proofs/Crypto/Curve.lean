import Mathlib.Algebra.Field.Basic
import Mathlib.Algebra.Group.Even
import Mathlib.Tactic.FieldSimp
import Mathlib.Tactic.LinearCombination

/-!
# Adding points of a curve

Two points of the curve `-x² + y² = 1 + d·x²·y²` have a sum on the curve. Its denominators are never
zero, because `-1` has a root in the field and `d` has none.
-/

namespace Keyring.Curve

variable {K : Type} [Field K] {d x y u v : K}

def OnCurve (d x y : K) : Prop := -x ^ 2 + y ^ 2 = 1 + d * x ^ 2 * y ^ 2

/-- What is not a square is no square times a square, but for zero. -/
theorem eq_zero_of_sq_eq_mul_sq (hd : ¬ IsSquare d) {a b : K} (h : a ^ 2 = d * b ^ 2) : b = 0 := by
  by_contra hb
  refine hd ⟨a / b, ?_⟩
  rw [div_mul_div_comm, ← pow_two, ← pow_two, h, mul_div_cancel_right₀ _ (pow_ne_zero 2 hb)]

theorem mul_sq_add_one_ne_zero (hd : ¬ IsSquare d) (hi : IsSquare (-1 : K)) (y : K) :
    d * y ^ 2 + 1 ≠ 0 := by
  obtain ⟨i, hi⟩ := hi
  intro h
  have hsq : i ^ 2 = d * y ^ 2 := by linear_combination -hi - h
  have hy := eq_zero_of_sq_eq_mul_sq hd hsq
  simp [hy] at h

/-- What the denominators of a sum are made of is no root of one. -/
theorem OnCurve.complete (hd : ¬ IsSquare d) (hi : IsSquare (-1 : K)) (htwo : (2 : K) ≠ 0)
    (h : OnCurve d x y) (h' : OnCurve d u v) : (d * x * u * y * v) ^ 2 ≠ 1 := by
  obtain ⟨i, hi⟩ := hi
  unfold OnCurve at h h'
  obtain ⟨k, hk⟩ : ∃ k, k = d * x * u * y * v := ⟨_, rfl⟩
  rw [← hk]
  intro hone
  -- Each of these makes `d` a square, unless what it is multiplied with is zero.
  have hplus : (i * x + k * y) ^ 2 = d * (x * y * (i * u + v)) ^ 2 := by
    linear_combination (d * x ^ 2 * y ^ 2 * u ^ 2 - x ^ 2) * hi + (y ^ 2 - 1) * hone + h
      - d * x ^ 2 * y ^ 2 * h' + (k + d * x * u * y * v + 2 * i * x * y) * hk
  have hminus : (i * x - k * y) ^ 2 = d * (x * y * (i * u - v)) ^ 2 := by
    linear_combination (d * x ^ 2 * y ^ 2 * u ^ 2 - x ^ 2) * hi + (y ^ 2 - 1) * hone + h
      - d * x ^ 2 * y ^ 2 * h' + (k + d * x * u * y * v - 2 * i * x * y) * hk
  have hplus := eq_zero_of_sq_eq_mul_sq hd hplus
  have hminus := eq_zero_of_sq_eq_mul_sq hd hminus
  have hzero : 2 * (x * y * v) = 0 := by linear_combination hplus - hminus
  have hxyv : x * y * v = 0 := (mul_eq_zero.1 hzero).resolve_left htwo
  have hkzero : k = 0 := by linear_combination hk + d * u * hxyv
  simp [hkzero] at hone

theorem OnCurve.denominators (hd : ¬ IsSquare d) (hi : IsSquare (-1 : K)) (htwo : (2 : K) ≠ 0)
    (h : OnCurve d x y) (h' : OnCurve d u v) :
    1 + d * x * u * y * v ≠ 0 ∧ 1 - d * x * u * y * v ≠ 0 := by
  have hcomplete := h.complete hd hi htwo h'
  constructor
  · intro hzero
    exact hcomplete (by rw [← neg_eq_of_add_eq_zero_right hzero, neg_one_sq])
  · intro hzero
    exact hcomplete (by rw [← sub_eq_zero.1 hzero, one_pow])

theorem onCurve_div {a b e f : K} (he : e ≠ 0) (hf : f ≠ 0)
    (h : -(a * f) ^ 2 + (b * e) ^ 2 = (e * f) ^ 2 + d * (a * b) ^ 2) :
    OnCurve d (a / e) (b / f) := by
  rw [OnCurve]
  field_simp
  linear_combination h

/-- The sum of two points is a point. -/
theorem OnCurve.add (hd : ¬ IsSquare d) (hi : IsSquare (-1 : K)) (htwo : (2 : K) ≠ 0)
    (h : OnCurve d x y) (h' : OnCurve d u v) :
    OnCurve d ((x * v + u * y) / (1 + d * x * u * y * v))
      ((y * v + x * u) / (1 - d * x * u * y * v)) := by
  obtain ⟨hplus, hminus⟩ := h.denominators hd hi htwo h'
  refine onCurve_div hplus hminus ?_
  unfold OnCurve at h h'
  -- A combination of the equations of the two points.
  grind

end Keyring.Curve
