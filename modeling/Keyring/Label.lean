import Keyring.Text.Utf8

/-!
# Labels

Every session key carries `size` bytes for its owner's use. A text is kept there in UTF-8 with zero
bytes after it, and read back without them.
-/

namespace Keyring.Label

def size : Nat := 32

def blank : Bytes := List.replicate size 0

def ofText? (s : String) : Option Bytes :=
  let bs := Text.Utf8.encode s
  if bs.length ≤ size then some (bs ++ List.replicate (size - bs.length) 0) else none

def text (label : Bytes) : String :=
  Text.Utf8.decode (label.reverse.dropWhile (· == 0)).reverse

end Keyring.Label
