import Keyring.Fault

/-!
# Allowlists

The mints whose tokens may be moved on an owner's behalf. A list with no mints restricts nothing.
-/

namespace Keyring

structure Allowlist where
  mints : List String
deriving DecidableEq

namespace Allowlist

/-- The most mints a list may be given, repetitions counted. -/
def maxMints : Nat := 8

def empty : Allowlist := ⟨[]⟩

/-- The list of the given mints, each at its first place. -/
def ofList (mints : List String) : Outcome Allowlist :=
  if maxMints < mints.length then .error (.refusal (.tooManyMints mints.length maxMints))
  else .ok ⟨mints.eraseDups⟩

def isRestricted (a : Allowlist) : Bool := !a.mints.isEmpty

def contains (a : Allowlist) (mint : String) : Bool := a.mints.contains mint

def permits (a : Allowlist) (mint : String) : Bool := !a.isRestricted || a.contains mint

def require (a : Allowlist) (mint : String) : Outcome Unit :=
  if a.permits mint then .ok () else .error (.refusal (.mintNotAllowed mint))

def shown (a : Allowlist) : String :=
  "MintAllowlist(" ++ (Json.arr (a.mints.map .str)).quotedText ++ ")"

end Allowlist

end Keyring
