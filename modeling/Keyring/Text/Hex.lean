import Keyring.Bytes
import Keyring.Text.Blank

/-!
# Hexadecimal text

A byte is written as two lower-case digits. The reader takes digits of either case and skips blanks
before each pair, and names the place of the first character that is out of order.
-/

namespace Keyring.Text.Hex

def digit (n : Nat) : Char :=
  if n < 10 then Char.ofNat (0x30 + n) else Char.ofNat (0x57 + n)

def digit? (c : Char) : Option Nat :=
  let n := c.toNat
  if 0x30 ≤ n && n ≤ 0x39 then some (n - 0x30)
  else if 0x61 ≤ n && n ≤ 0x66 then some (n - 0x57)
  else if 0x41 ≤ n && n ≤ 0x46 then some (n - 0x37)
  else none

def ofNat (width n : Nat) : List Char :=
  let ds := ((Radix.digits 16 n).map digit).reverse
  List.replicate (width - ds.length) '0' ++ ds

def encodeChars : Bytes → List Char
  | [] => []
  | b :: bs => digit (b.toNat / 16) :: digit (b.toNat % 16) :: encodeChars bs

def encode (bs : Bytes) : String :=
  String.ofList (encodeChars bs)

/-- Reads pairs of digits; `i` is the place of the next character. -/
def decodeChars (i : Nat) : List Char → Except Nat Bytes
  | [] => .ok []
  | [c] => if isAsciiBlank c then .ok [] else .error (if (digit? c).isSome then i + 1 else i)
  | c :: d :: cs =>
    if isAsciiBlank c then decodeChars (i + 1) (d :: cs)
    else
      match digit? c, digit? d with
      | none, _ => .error i
      | some _, none => .error (i + 1)
      | some h, some l => (decodeChars (i + 2) cs).map (UInt8.ofNat (16 * h + l) :: ·)

/--
The bytes of a hex text, or the place of the character that is at fault. A character beyond ASCII is
reported before any other fault.
-/
def decode (s : String) : Except Nat Bytes :=
  match s.toList.findIdx? fun c => 0x80 ≤ c.toNat with
  | some i => .error i
  | none => decodeChars 0 s.toList

end Keyring.Text.Hex
