import Keyring.Text.Hex
import Keyring.Text.Printable
import Keyring.Text.Surrogate

/-!
# Quoted text

Messages quote the texts they speak of: between single quotes, or between double quotes when the
text holds a single quote and no double one. The quote in use, the backslash and every character
that does not print are written as escapes, and so is half of a pair of surrogates.
-/

namespace Keyring.Text

def quotedChar (q c : Char) : List Char :=
  if c = q || c = '\\' then ['\\', c]
  else if c = '\n' then ['\\', 'n']
  else if c = '\r' then ['\\', 'r']
  else if c = '\t' then ['\\', 't']
  else if isPrintable c then [c]
  else if let some half := Surrogate.half? c then '\\' :: 'u' :: Hex.ofNat 4 half
  else if c.toNat < 0x100 then '\\' :: 'x' :: Hex.ofNat 2 c.toNat
  else if c.toNat < 0x10000 then '\\' :: 'u' :: Hex.ofNat 4 c.toNat
  else '\\' :: 'U' :: Hex.ofNat 8 c.toNat

def quoteFor (cs : List Char) : Char :=
  if cs.contains '\x27' && !cs.contains '\x22' then '\x22' else '\x27'

def quotedChars (cs : List Char) : List Char :=
  let q := quoteFor cs
  q :: cs.flatMap (quotedChar q) ++ [q]

def quoted (s : String) : String :=
  String.ofList (quotedChars s.toList)

end Keyring.Text
