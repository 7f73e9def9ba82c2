import Keyring.Bytes

/-!
# Binary floating point

A `Binary64` is a number of the 64-bit binary format, held as its bits. `View` is what the bits
stand for: a finite number is `±m·2^q`. `ofFraction` is the nearest number to a fraction, a tie
going to the even neighbour, and every other way into the format goes through it.

`shortest` has the fewest decimal digits that still read back as the number, and of those the
nearest. A number is written positionally when its first digit stands between the fourth place after
the point and the sixteenth before it, and with an exponent otherwise.
-/

namespace Keyring

structure Fraction where
  num : Nat
  den : Nat

namespace Fraction

def ofNat (n : Nat) : Fraction := ⟨n, 1⟩

def scale (v : Fraction) (b : Nat) (e : Int) : Fraction :=
  if 0 ≤ e then { v with num := v.num * Nat.pow b e.toNat }
  else { v with den := v.den * Nat.pow b (-e).toNat }

def floor (v : Fraction) : Nat := v.num / v.den

/-- The nearest natural number, the even one of two that are equally near. -/
def round (v : Fraction) : Nat :=
  let k := v.floor
  let r := v.num % v.den
  if 2 * r < v.den then k else if v.den < 2 * r then k + 1 else k + k % 2

end Fraction

structure Binary64 where
  bits : UInt64
deriving DecidableEq

namespace Binary64

inductive View where
  | nan
  | infinite (neg : Bool)
  | finite (neg : Bool) (m : Nat) (q : Int)

def view (x : Binary64) : View :=
  let n := x.bits.toNat
  let neg := decide (Nat.pow 2 63 ≤ n)
  let e : Nat := n / Nat.pow 2 52 % 2048
  let f := n % Nat.pow 2 52
  if e = 2047 then (if f = 0 then .infinite neg else .nan)
  else if e = 0 then .finite neg f (-1074)
  else .finite neg (Nat.pow 2 52 + f) ((e : Int) - 1075)

def ofBits (neg : Bool) (n : Nat) : Binary64 :=
  ⟨UInt64.ofNat ((if neg then Nat.pow 2 63 else 0) + n)⟩

def zero (neg : Bool) : Binary64 := ofBits neg 0
def infinity (neg : Bool) : Binary64 := ofBits neg (2047 * Nat.pow 2 52)
def nan : Binary64 := ofBits false (4095 * Nat.pow 2 51)

def ofFraction (neg : Bool) (v : Fraction) : Binary64 :=
  if v.num = 0 ∨ v.den = 0 then zero neg
  else
    let e₀ : Int := (Nat.log2 v.num : Int) - Nat.log2 v.den - 53
    let e₁ := if Nat.pow 2 53 ≤ (v.scale 2 (-e₀)).floor then e₀ + 1 else e₀
    let e := max e₁ (-1074)
    let k := (v.scale 2 (-e)).round
    let b := if k < Nat.pow 2 52 then k else (e + 1074).toNat * Nat.pow 2 52 + k
    if 2047 * Nat.pow 2 52 ≤ b then infinity neg else ofBits neg b

/-- The number nearest to `±ds·10^e`, where `ds` has `count` digits. -/
def ofDecimal (neg : Bool) (ds count : Nat) (e : Int) : Binary64 :=
  if ds = 0 ∨ count + e < -340 then zero neg
  else if 400 < count + e ∧ Nat.pow 10 (count - 1) ≤ ds then infinity neg
  else ofFraction neg ((Fraction.ofNat ds).scale 10 e)

def ofInt (n : Int) : Binary64 :=
  ofFraction (decide (n < 0)) (Fraction.ofNat n.natAbs)

def toFloat (x : Binary64) : Float := Float.ofBits x.bits
def ofFloat (x : Float) : Binary64 := ⟨x.toBits⟩

def isZero (x : Binary64) : Bool :=
  match x.view with
  | .finite _ 0 _ => true
  | _ => false

/-- What a number without an integral part is. -/
inductive NotFinite where
  | nan
  | infinity

/-- The integer next to `x` on the side of zero. -/
def truncate (x : Binary64) : Except NotFinite Int :=
  match x.view with
  | .nan => .error .nan
  | .infinite _ => .error .infinity
  | .finite neg m q =>
    let n := ((Fraction.ofNat m).scale 2 q).floor
    .ok (if neg then -(n : Int) else n)

def NotFinite.message : NotFinite → String
  | .nan => "cannot convert float NaN to integer"
  | .infinity => "cannot convert float infinity to integer"

/-! ## Remainder and quotient -/

/-- The exact remainder of `x` by `y`, with the sign of `x`. -/
def remainder (x y : Binary64) : Binary64 :=
  match x.view, y.view with
  | .finite neg m q, .finite _ m' q' =>
    if m' = 0 then nan
    else
      let e := min q q'
      let r := (m * Nat.pow 2 (q - e).toNat) % (m' * Nat.pow 2 (q' - e).toNat)
      ofFraction neg ((Fraction.ofNat r).scale 2 e)
  | .finite .., .infinite _ => x
  | _, _ => nan

/--
The quotient of `x` by `y` as a whole number: `x` less its remainder is divided by `y`, and the
result is snapped to the nearest whole number.
-/
def floorDiv (x y : Binary64) : Binary64 :=
  let r := remainder x y
  let fx := x.toFloat
  let fy := y.toFloat
  let fr := r.toFloat
  let d := (fx - fr) / fy
  let d := if fr != 0 && decide (fy < 0) != decide (fr < 0) then d - 1 else d
  if d == 0 then ofFloat d
  else
    let k := d.floor
    ofFloat (if 0.5 < d - k then k + 1 else k)

/-! ## Decimal text -/

/-- Decimal digits, and the place of the point after the first `point` of them. -/
structure Digits where
  digits : List Nat
  point : Int

/-- The decimal exponent above `v`: the least `e` with `v < 10^e`. -/
def decimalExponent (v : Fraction) : Int :=
  let below : Int → Bool := fun e => (v.scale 10 (-e)).floor = 0
  let e₀ : Int := ((Nat.log2 v.num : Int) - Nat.log2 v.den - 1) * 30103 / 100000 - 1
  ((List.range 6).map fun i : Nat => e₀ + (i : Int)).find? below |>.getD (e₀ + 6)

/-- Whether `c·10^e` lies in the interval of reals that round to `m·2^q`. -/
def readsBack (m : Nat) (q : Int) (c : Nat) (e : Int) : Bool :=
  let lo := if m = Nat.pow 2 52 ∧ -1074 < q then 4 * m - 1 else 4 * m - 2
  let hi := 4 * m + 2
  let unit := (Fraction.ofNat 1).scale 2 (q - 2)
  let x := (Fraction.ofNat c).scale 10 e
  let a := x.num * unit.den
  let l := lo * unit.num * x.den
  let h := hi * unit.num * x.den
  if m % 2 = 0 then l ≤ a && a ≤ h else l < a && a < h

/-- On the grid of `k` digits: the neighbour of `m·2^q` that reads back, the nearer one of two. -/
def onGrid (m : Nat) (q : Int) (top : Int) (k : Nat) : Option (Nat × Int) :=
  let e := top - k
  let v := ((Fraction.ofNat m).scale 2 q).scale 10 (-e)
  let c := v.floor
  let near := v.round
  let far := if near = c then c + 1 else c
  if readsBack m q near e then some (near, e)
  else if readsBack m q far e then some (far, e)
  else none

def shortest (m : Nat) (q : Int) : Digits :=
  let top := decimalExponent ((Fraction.ofNat m).scale 2 q)
  let g := ((List.range 17).findSome? fun i => onGrid m q top (i + 1)).getD (0, 0)
  let ds := Radix.digits 10 g.1
  ⟨(ds.dropWhile (· = 0)).reverse, ds.length + g.2⟩

def digitChar (d : Nat) : Char := Char.ofNat (0x30 + d)

/-- The text of a positive number with the given digits. -/
def Digits.text (x : Digits) : List Char :=
  let ds := x.digits.map digitChar
  let n := ds.length
  let p := x.point
  if -4 < p ∧ p ≤ 16 then
    if p ≤ 0 then '0' :: '.' :: List.replicate (-p).toNat '0' ++ ds
    else if (n : Int) ≤ p then ds ++ List.replicate (p.toNat - n) '0' ++ ['.', '0']
    else ds.take p.toNat ++ '.' :: ds.drop p.toNat
  else
    let e := p - 1
    let es := (toString e.natAbs).toList
    let mantissa :=
      match ds with
      | [d] => [d]
      | d :: ds => d :: '.' :: ds
      | [] => []
    mantissa ++ 'e' :: (if e < 0 then '-' else '+') :: List.replicate (2 - es.length) '0' ++ es

/-- The text of `x`, the special values under the names given. -/
def textWith (nanName infinityName : String) (x : Binary64) : String :=
  match x.view with
  | .nan => nanName
  | .infinite neg => (if neg then "-" else "") ++ infinityName
  | .finite neg m q =>
    (if neg then "-" else "") ++ (if m = 0 then "0.0" else String.ofList (shortest m q).text)

def text : Binary64 → String := textWith "nan" "inf"

end Binary64

end Keyring
