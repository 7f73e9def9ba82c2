import Keyring.Crypto.Sha2

/-!
# The curve Ed25519 and its signatures

Field elements are natural numbers below the prime `p`. `isOnCurve` tells by one power whether 32
bytes are the one encoding of a point; `decompress` finds the point itself, also of bytes that are
not its canonical form. Points are kept in extended coordinates, in which addition needs no inverse,
and `sign` and `verify` are the signature scheme of RFC 8032 over them.
-/

namespace Keyring.Ed25519

def p : Nat := Nat.pow 2 255 - 19

def order : Nat := Nat.pow 2 252 + 27742317777372353535851937790883648493

def powMod (m b e : Nat) : Nat :=
  if h : e = 0 then 1 % m
  else
    let r := powMod m (b * b % m) (e / 2)
    if e % 2 = 1 then b * r % m else r
termination_by e
decreasing_by exact Nat.div_lt_self (Nat.pos_of_ne_zero h) (by decide)

/-- The inverse of a field element, zero for zero. -/
def inv (x : Nat) : Nat := powMod p x (p - 2)

def sub (x y : Nat) : Nat := (x + (p - y)) % p

/-- The coefficient of the curve `-x² + y² = 1 + d·x²·y²`. -/
def d : Nat := (p - 121665) * inv 121666 % p

def parts (bs : Bytes) : Nat × Nat :=
  let n := Bytes.toNatLE bs
  (n / Nat.pow 2 255, n % Nat.pow 2 255)

def xSquared (y : Nat) : Nat :=
  let y2 := y * y % p
  sub y2 1 * inv ((d * y2 + 1) % p) % p

/-- Whether an encoding is that of a point: the square it asks for must have a root of its sign. -/
def isOnCurve (bs : Bytes) : Bool :=
  let (s, y) := parts bs
  if p ≤ y then false
  else
    let x2 := xSquared y
    if x2 = 0 then s == 0 else powMod p x2 ((p - 1) / 2) == 1

/-- A point `(x / z, y / z)` with `t = x·y / z`. -/
structure Point where
  x : Nat
  y : Nat
  z : Nat
  t : Nat

namespace Point

def affine (x y : Nat) : Point := ⟨x, y, 1, x * y % p⟩

def neutral : Point := affine 0 1

def add (a b : Point) : Point :=
  let s := sub a.y a.x * sub b.y b.x % p
  let u := (a.y + a.x) * (b.y + b.x) % p
  let c := 2 * a.t * b.t % p * d % p
  let v := 2 * a.z * b.z % p
  let e := sub u s
  let f := sub v c
  let g := (v + c) % p
  let h := (u + s) % p
  ⟨e * f % p, g * h % p, f * g % p, e * h % p⟩

def neg (a : Point) : Point := ⟨sub 0 a.x, a.y, a.z, sub 0 a.t⟩

def mul (n : Nat) (a : Point) : Point :=
  if h : n = 0 then neutral
  else
    let r := mul (n / 2) (a.add a)
    if n % 2 = 1 then a.add r else r
termination_by n
decreasing_by exact Nat.div_lt_self (Nat.pos_of_ne_zero h) (by decide)

def compress (a : Point) : Bytes :=
  let i := inv a.z
  let x := a.x * i % p
  let y := a.y * i % p
  Bytes.ofNatLE 32 (y + x % 2 * Nat.pow 2 255)

/-- The candidate for the root of a square: right up to a root of minus one. -/
def rootOf (x2 : Nat) : Nat :=
  let r := powMod p x2 ((p + 3) / 8)
  if r * r % p = x2 then r else r * powMod p 2 ((p - 1) / 4) % p

/--
The point of an encoding. Unlike `isOnCurve` this asks for no canonical form: the second coordinate
is taken modulo `p`, and a first coordinate that is zero may have either sign.
-/
def decompress (bs : Bytes) : Option Point :=
  let (s, y) := parts bs
  let y := y % p
  let r := rootOf (xSquared y)
  if r * r % p ≠ xSquared y then none
  else some (affine (if r % 2 = s then r else sub 0 r) y)

def base : Point :=
  let y := 4 * inv 5 % p
  let r := rootOf (xSquared y)
  affine (if r % 2 = 0 then r else p - r) y

end Point

def secrets (key : Bytes) : Nat × Bytes :=
  let h := Sha2.sha512 key
  let a := Bytes.toNatLE (h.take 32)
  (Nat.pow 2 254 + a % Nat.pow 2 254 / 8 * 8, h.drop 32)

def publicKey (key : Bytes) : Bytes :=
  (Point.mul (secrets key).1 Point.base).compress

def challenge (r key message : Bytes) : Nat :=
  Bytes.toNatLE (Sha2.sha512 (r ++ key ++ message)) % order

def sign (key message : Bytes) : Bytes :=
  let (a, nonceKey) := secrets key
  let pub := (Point.mul a Point.base).compress
  let n := Bytes.toNatLE (Sha2.sha512 (nonceKey ++ message)) % order
  let r := (Point.mul n Point.base).compress
  r ++ Bytes.ofNatLE 32 ((n + challenge r pub message * a) % order)

def verify (key signature message : Bytes) : Bool :=
  if signature.length ≠ 64 then false
  else
    let r := signature.take 32
    let s := Bytes.toNatLE (signature.drop 32)
    if order ≤ s then false
    else
      match Point.decompress key with
      | none => false
      | some a =>
        let k := challenge r key message
        ((Point.mul s Point.base).add (Point.mul k a).neg).compress == r

end Keyring.Ed25519
