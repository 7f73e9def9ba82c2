/-!
# Byte strings

A byte string is a list of bytes, read as a number in either byte order. `Radix` holds the digits of
a number in any base, least significant first; numbers are read and written through it.
-/

namespace Keyring

abbrev Bytes := List UInt8

namespace Radix

/-- The digits of `n` in base `b`, least significant first and without leading zeros. -/
def digits (b n : Nat) : List Nat :=
  if _h : 1 < b ∧ 0 < n then n % b :: digits b (n / b) else []
termination_by n
decreasing_by exact Nat.div_lt_self _h.2 _h.1

/-- The number whose digits in base `b` are given, least significant first. -/
def ofDigits (b : Nat) : List Nat → Nat
  | [] => 0
  | d :: ds => d + b * ofDigits b ds

end Radix

namespace Bytes

def toNatLE (bs : Bytes) : Nat :=
  Radix.ofDigits 256 (bs.map UInt8.toNat)

def toNatBE (bs : Bytes) : Nat :=
  toNatLE bs.reverse

/-- The shortest big-endian form of a number. Zero has no bytes. -/
def ofNatBE (n : Nat) : Bytes :=
  ((Radix.digits 256 n).map UInt8.ofNat).reverse

/-- The `w` low bytes of a number, least significant first. -/
def ofNatLE (w n : Nat) : Bytes :=
  (List.range w).map fun i => UInt8.ofNat (n >>> (8 * i))

end Bytes

end Keyring
