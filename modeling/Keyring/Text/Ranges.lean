/-!
# Ranges of characters

Properties of characters that no rule gives are kept as lists of ranges of code points, in ascending
order, both ends included.
-/

namespace Keyring.Text

def isWithin (ranges : List (Nat × Nat)) (c : Char) : Bool :=
  ranges.any fun r => r.1 ≤ c.toNat && c.toNat ≤ r.2

end Keyring.Text
