import Keyring.Proofs.Bytes
import Keyring.Proofs.Crypto.Curve
import Keyring.Proofs.Crypto.Field

/-!
# Encodings of points

A point is encoded as its second coordinate with the parity of the first in the bit that is left.
`isOnCurve` accepts just the encodings of points, and just these are decoded by RFC 8032, section
5.1.3, which unlike `decompress` turns down a second coordinate that is not reduced and a zero with
a sign.
-/

namespace Keyring.Ed25519

open Curve

structure CurvePoint where
  x : F
  y : F
  on : OnCurve coefficient x y

def encodingSize : Nat := 32

def CurvePoint.encode (P : CurvePoint) : Bytes :=
  Bytes.ofNatLE encodingSize (P.y.val + P.x.val % 2 * Nat.pow 2 255)

/-- Decompression as RFC 8032 requires it: the second coordinate is reduced, and a first coordinate
of zero has no sign. -/
def Point.decode? (bs : Bytes) : Option Point :=
  let (s, y) := parts bs
  if p ≤ y then none else (decompress bs).filter fun a => !(a.x == 0 && s == 1)

/-! ## The two parts of an encoding -/

variable {bs : Bytes} {x y : F}

theorem length_encode (P : CurvePoint) : P.encode.length = encodingSize :=
  Bytes.length_ofNatLE _ _

/-- What an encoding has room for: the second coordinate and one bit. -/
theorem pow_encodingSize : 256 ^ encodingSize = 2 * Nat.pow 2 255 := rfl

theorem parts_encode (P : CurvePoint) : parts P.encode = (P.x.val % 2, P.y.val) := by
  have hy : P.y.val < Nat.pow 2 255 := (ZMod.val_lt P.y).trans p_lt
  have hsign : P.x.val % 2 < 2 := Nat.mod_lt _ (by decide)
  have hwidth := pow_encodingSize
  have hfits : P.y.val + P.x.val % 2 * Nat.pow 2 255 < 256 ^ encodingSize := by
    have hbit := Nat.mul_le_mul_right (Nat.pow 2 255) (Nat.le_of_lt_succ hsign)
    omega
  rw [parts, CurvePoint.encode, Bytes.toNatLE_ofNatLE hfits]
  have hpos : 0 < Nat.pow 2 255 := Nat.zero_lt_of_lt hy
  rw [Nat.add_mul_div_right _ _ hpos, Nat.div_eq_of_lt hy, Nat.zero_add, Nat.add_mul_mod_self_right,
    Nat.mod_eq_of_lt hy]

theorem parts_fst_lt (hbs : bs.length = encodingSize) : (parts bs).1 < 2 := by
  have hlt := Bytes.toNatLE_lt bs
  rw [hbs, pow_encodingSize] at hlt
  exact (Nat.div_lt_iff_lt_mul (Nat.pow_pos (by decide))).2 hlt

theorem encode_eq (P : CurvePoint) (hbs : bs.length = encodingSize)
    (hparts : parts bs = (P.x.val % 2, P.y.val)) : P.encode = bs := by
  obtain ⟨hs, hy⟩ := Prod.mk.inj hparts
  rw [CurvePoint.encode, ← hs, ← hy, Nat.add_comm, Nat.div_add_mod', Bytes.ofNatLE_toNatLE hbs]

/-- The square that the equation of the curve gives. -/
theorem cast_xSquared (y : Nat) :
    (xSquared y : F) = ((y : F) ^ 2 - 1) / (coefficient * (y : F) ^ 2 + 1) := by
  rw [xSquared, ZMod.natCast_mod, Nat.cast_mul, cast_inv, cast_sub _ one_le_p, ZMod.natCast_mod,
    ZMod.natCast_mod, div_eq_mul_inv]
  push_cast
  rw [ZMod.natCast_mod]
  push_cast
  rw [← pow_two]

theorem onCurve_iff : OnCurve coefficient x y ↔
    x ^ 2 = (y ^ 2 - 1) / (coefficient * y ^ 2 + 1) := by
  rw [eq_div_iff (mul_sq_add_one_ne_zero not_isSquare_coefficient isSquare_neg_one y), OnCurve]
  constructor <;> intro h <;> linear_combination -h

/-! ## On the curve -/

/-- An encoding holds a point if its second coordinate is reduced and the square it asks for has a
root of its sign. -/
def HasRoot (bs : Bytes) : Prop :=
  (parts bs).2 < p ∧ ∃ x : F, x ^ 2 = xSquared (parts bs).2 ∧ x.val % 2 = (parts bs).1

theorem xSquared_lt (y : Nat) : xSquared y < p := Nat.mod_lt _ one_le_p

theorem hasRoot_iff (hbs : bs.length = encodingSize) :
    HasRoot bs ↔ ∃ P : CurvePoint, P.encode = bs := by
  constructor
  · rintro ⟨hy, x, hx, hsign⟩
    have hval : ((parts bs).2 : F).val = (parts bs).2 := ZMod.val_cast_of_lt hy
    have hon : OnCurve coefficient x ((parts bs).2 : F) :=
      onCurve_iff.2 (hx.trans (cast_xSquared _))
    exact ⟨⟨x, _, hon⟩, encode_eq _ hbs (Prod.ext hsign.symm hval.symm)⟩
  · rintro ⟨P, rfl⟩
    rw [HasRoot, parts_encode]
    refine ⟨ZMod.val_lt P.y, P.x, ?_, rfl⟩
    rw [cast_xSquared, ZMod.natCast_zmod_val]
    exact onCurve_iff.1 P.on

/-- A root that is not zero may be had with either sign. -/
theorem exists_root {a : F} {s : Nat} (ha : a ≠ 0) (hs : s < 2) (h : IsSquare a) :
    ∃ x : F, x ^ 2 = a ∧ x.val % 2 = s := by
  obtain ⟨x, hx⟩ := h
  have hne : x ≠ 0 := by
    rintro rfl
    exact ha (hx.trans (zero_mul 0))
  by_cases hsign : x.val % 2 = s
  · exact ⟨x, by rw [hx, pow_two], hsign⟩
  · refine ⟨-x, by rw [hx, neg_sq, pow_two], ?_⟩
    rw [val_neg_mod_two hne]
    omega

theorem isOnCurve_iff_hasRoot (hbs : bs.length = encodingSize) :
    isOnCurve bs = true ↔ HasRoot bs := by
  have hs := parts_fst_lt hbs
  have hcurve : isOnCurve bs = if p ≤ (parts bs).2 then false
      else if xSquared (parts bs).2 = 0 then (parts bs).1 == 0
      else powMod p (xSquared (parts bs).2) ((p - 1) / 2) == 1 := rfl
  rw [hcurve, HasRoot]
  by_cases hy : p ≤ (parts bs).2
  · simp [hy, Nat.not_lt.2 hy]
  · rw [if_neg hy, and_iff_right (Nat.not_le.1 hy)]
    by_cases hzero : xSquared (parts bs).2 = 0
    · rw [if_pos hzero, hzero, beq_iff_eq, Nat.cast_zero]
      constructor
      · intro hsign
        exact ⟨0, zero_pow two_ne_zero, by rw [ZMod.val_zero, hsign]⟩
      · rintro ⟨x, hx, hsign⟩
        rw [pow_eq_zero_iff two_ne_zero] at hx
        rw [← hsign, hx, ZMod.val_zero]
    · have hne : (xSquared (parts bs).2 : F) ≠ 0 := (cast_eq_zero_iff (xSquared_lt _)).not.2 hzero
      rw [if_neg hzero, beq_iff_eq, powMod_eq_one_iff one_lt_p, ← isSquare_iff hne]
      constructor
      · exact exists_root hne hs
      · rintro ⟨x, hx, -⟩
        exact ⟨x, by rw [← hx, pow_two]⟩

/-- Just the encodings of points are accepted. -/
theorem isOnCurve_iff (hbs : bs.length = encodingSize) :
    isOnCurve bs = true ↔ ∃ P : CurvePoint, P.encode = bs :=
  (isOnCurve_iff_hasRoot hbs).trans (hasRoot_iff hbs)

/-! ## Decoding -/

/-- A root of zero stays zero when it is given a sign. -/
theorem signed_eq_zero_iff {r : Nat} (hr : r < p) (s : Nat) :
    (if r % 2 = s then r else sub 0 r) = 0 ↔ r = 0 := by
  split
  next => exact Iff.rfl
  next =>
    have hlt : sub 0 r < p := Nat.mod_lt _ one_le_p
    rw [← cast_eq_zero_iff hlt, ← cast_eq_zero_iff hr, cast_sub 0 hr.le, Nat.cast_zero, zero_sub,
      neg_eq_zero]

/-- Decompression of a reduced second coordinate looks for a root, and gives it a sign. -/
theorem decompress_eq {s y : Nat} (hparts : parts bs = (s, y)) (hy : y < p) :
    Point.decompress bs =
      if (Point.rootOf (xSquared y) : F) ^ 2 = xSquared y then
        some (Point.affine (if Point.rootOf (xSquared y) % 2 = s then Point.rootOf (xSquared y)
          else sub 0 (Point.rootOf (xSquared y))) y)
      else none := by
  have hmod := mul_self_mod_eq_iff (r := Point.rootOf (xSquared y)) (xSquared_lt y)
  rw [Point.decompress, hparts]
  dsimp only
  rw [Nat.mod_eq_of_lt hy]
  by_cases hr : (Point.rootOf (xSquared y) : F) ^ 2 = xSquared y
  · rw [if_neg (not_not.2 (hmod.2 hr)), if_pos hr]
  · rw [if_pos (hmod.not.2 hr), if_neg hr]

theorem isSome_decode?_iff_rootOf {s y : Nat} (hparts : parts bs = (s, y)) :
    (Point.decode? bs).isSome = true ↔ y < p ∧
      (Point.rootOf (xSquared y) : F) ^ 2 = xSquared y ∧
        ¬ (Point.rootOf (xSquared y) = 0 ∧ s = 1) := by
  rw [Point.decode?, hparts]
  dsimp only
  by_cases hy : p ≤ y
  · simp [hy, Nat.not_lt.2 hy]
  · rw [if_neg hy, and_iff_right (Nat.not_le.1 hy), decompress_eq hparts (Nat.not_le.1 hy),
      ← signed_eq_zero_iff (rootOf_lt (xSquared y)) s, not_and_or]
    by_cases hr : (Point.rootOf (xSquared y) : F) ^ 2 = xSquared y
    · rw [if_pos hr, and_iff_right hr]
      simp [Option.filter, Point.affine]
    · rw [if_neg hr]
      exact ⟨nofun, fun h => absurd h.1 hr⟩

theorem exists_root_iff_rootOf {s y : Nat} (hs : s < 2) :
    (∃ x : F, x ^ 2 = xSquared y ∧ x.val % 2 = s) ↔
      (Point.rootOf (xSquared y) : F) ^ 2 = xSquared y ∧
        ¬ (Point.rootOf (xSquared y) = 0 ∧ s = 1) := by
  constructor
  · rintro ⟨x, hx, hsign⟩
    have hroot := rootOf_sq (xSquared_lt y) ⟨x, by rw [← hx, pow_two]⟩
    refine ⟨hroot, fun ⟨hzero, hone⟩ => ?_⟩
    rw [← hroot, hzero, Nat.cast_zero, zero_pow two_ne_zero, pow_eq_zero_iff two_ne_zero] at hx
    rw [hx, ZMod.val_zero] at hsign
    omega
  · rintro ⟨hroot, hsign⟩
    by_cases hzero : Point.rootOf (xSquared y) = 0
    · refine ⟨0, by rw [← hroot, hzero, Nat.cast_zero], ?_⟩
      rw [ZMod.val_zero]
      omega
    · have hne : (Point.rootOf (xSquared y) : F) ≠ 0 :=
        (cast_eq_zero_iff (rootOf_lt _)).not.2 hzero
      exact exists_root (hroot ▸ pow_ne_zero 2 hne) hs ⟨_, by rw [← hroot, pow_two]⟩

theorem isSome_decode?_iff_hasRoot (hbs : bs.length = encodingSize) :
    (Point.decode? bs).isSome = true ↔ HasRoot bs := by
  rw [HasRoot, exists_root_iff_rootOf (parts_fst_lt hbs)]
  exact isSome_decode?_iff_rootOf rfl

/-- Just what is accepted is decoded. -/
theorem isSome_decode? (hbs : bs.length = encodingSize) :
    (Point.decode? bs).isSome = isOnCurve bs := by
  rw [Bool.eq_iff_iff, isSome_decode?_iff_hasRoot hbs, isOnCurve_iff_hasRoot hbs]

end Keyring.Ed25519
