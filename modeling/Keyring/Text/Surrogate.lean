/-!
# Surrogates

The two halves of a pair, a high one before a low one, together name a character beyond the first
65536. A written text may hold a half without the other, which is no character. It is held in
place of one as a stand-in: the character of private use that lies `offset` above the half. Two
stand-ins that would make a pair name no halves, since a pair is read as its character; they are
the characters of private use themselves.

So a half and its stand-in are not told apart. Outside such a pair, the 2048 characters of private
use from U+10D800 on are written, quoted and counted in the names of files as halves, which is not
what becomes of these characters themselves.
-/

namespace Keyring.Text.Surrogate

def isHigh (n : Nat) : Bool := 0xd800 ≤ n && n < 0xdc00
def isLow (n : Nat) : Bool := 0xdc00 ≤ n && n < 0xe000

def joined (h l : Nat) : Char := Char.ofNat (0x10000 + (h - 0xd800) * 0x400 + (l - 0xdc00))

def halves (c : Char) : Nat × Nat :=
  (0xd800 + (c.toNat - 0x10000) / 0x400, 0xdc00 + (c.toNat - 0x10000) % 0x400)

def offset : Nat := 0x100000

def standIn (half : Nat) : Char := Char.ofNat (offset + half)

/-- The half that a character stands for, if it is a stand-in. -/
def half? (c : Char) : Option Nat :=
  if offset ≤ c.toNat then
    let n := c.toNat - offset
    if isHigh n || isLow n then some n else none
  else none

/-- Whether a character stands for a half by which the name of a file holds a byte of no text. -/
def isByte (c : Char) : Bool := (half? c).any fun n => 0xdc80 ≤ n && n < 0xdd00

/-- Whether two characters that follow each other are stand-ins for the halves of a pair. -/
def isPair (c d : Char) : Bool :=
  (half? c).any isHigh && (half? d).any isLow

end Keyring.Text.Surrogate
