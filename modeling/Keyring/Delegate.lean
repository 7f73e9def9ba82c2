import Keyring.Fault

/-!
# Delegates

The delegate for one mint of an account is a derived address. What a caller names as the delegate is
never trusted: it must equal the address that the account and the mint give.
-/

namespace Keyring.Delegate

def expected (program ownerAccount mint : String) : Outcome DerivedAddress :=
  (Derivation.delegateAddress ownerAccount mint program).mapError .derivation

def bind (program ownerAccount mint supplied : String) : Outcome DerivedAddress :=
  match Derivation.delegateAddress ownerAccount mint program with
  | .error e => .error (.insufficient (.cannotDerive e))
  | .ok d => if d.address = supplied then .ok d else .error (.insufficient .wrongDelegate)

end Keyring.Delegate
