import Keyring.Proofs.Engine.Delegation

/-!
# Approving a delegate

What is asked of an approval is asked in one order: the amount is not negative, the owner has an
account, the delegate named is the one derived for the account and the mint, the token account is
there, is the owner's and holds the mint, and the mint is allowed. The first that fails is reported
and nothing changes. Otherwise the token account has that delegate with just that allowance,
whatever it had before.

The token program asks once more whether the amount is negative and whose the token account is.
After what has been asked before, neither can fail.
-/

namespace Keyring

namespace World

open Outcome

variable {program : String} {w : World} {p : Approval} {a : Account} {d : DerivedAddress}
  {b : TokenAccount} {f : Fault}

end World

end Keyring
