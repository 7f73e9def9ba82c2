import Keyring.Fault
import Keyring.Routine

/-!
# Tokens

A token account holds units of one mint for one owner, who may approve one delegate to spend up to
an allowance. The owner acts in its own name; a derived address acts by the seeds it is derived
from.
-/

namespace Keyring

structure TokenAccount where
  address : String
  owner : String
  mint : String
  amount : Int := 0
  delegate : Option String := none
  allowance : Int := 0
deriving DecidableEq

namespace TokenAccount

def approve (a : TokenAccount) (delegate : String) (amount : Int) : TokenAccount :=
  { a with delegate := some delegate, allowance := amount }

def clearDelegate (a : TokenAccount) : TokenAccount := { a with delegate := none, allowance := 0 }

/-- A spent allowance takes the delegate with it. -/
def spendAllowance (a : TokenAccount) (amount : Int) : TokenAccount :=
  let left := a.allowance - amount
  { a with allowance := left, delegate := if left = 0 then none else a.delegate }

def toJson (a : TokenAccount) : Json :=
  .obj [("address", .str a.address), ("owner", .str a.owner), ("mint", .str a.mint),
    ("amount", .int a.amount), ("delegate", (a.delegate.map Json.str).getD .null),
    ("delegated_amount", .int a.allowance)]

end TokenAccount

structure Mint where
  address : String
  decimals : Int
deriving DecidableEq

def Mint.defaultDecimals : Int := 6

def Mint.toJson (m : Mint) : Json :=
  .obj [("address", .str m.address), ("decimals", .int m.decimals)]

structure Tokens where
  /-- The program whose derived addresses may act by their seeds. -/
  program : String
  mints : List (String × Mint) := []
  accounts : List (String × TokenAccount) := []

structure TokenTransfer where
  source : String
  mint : String
  destination : String
  authority : String
  amount : Int
  decimals : Int
  signerSeeds : Option (List Bytes) := none

namespace Tokens

def createMint (t : Tokens) (m : Mint) : Tokens :=
  { t with mints := putField m.address m t.mints }

def mint (t : Tokens) (address : String) : Except TokenError Mint :=
  match field? address t.mints with
  | some m => .ok m
  | none => .error (.notFound address)

def account (t : Tokens) (address : String) : Except TokenError TokenAccount :=
  match field? address t.accounts with
  | some a => .ok a
  | none => .error (.notFound address)

def put (t : Tokens) (a : TokenAccount) : Tokens :=
  { t with accounts := putField a.address a t.accounts }

def owned (t : Tokens) (address authority : String) : Except TokenError TokenAccount :=
  match t.account address with
  | .error e => .error e
  | .ok a => if a.owner = authority then .ok a else .error (.notOwner authority address)

def modify (t : Tokens) (address : String) (f : TokenAccount → TokenAccount) : Tokens :=
  match field? address t.accounts with
  | none => t
  | some a => { t with accounts := putField address (f a) t.accounts }

/-- Whether the seeds derive the authority. Bad seeds derive nothing. -/
def seedsSignFor (t : Tokens) (seeds : List Bytes) (authority : String) : Except TokenError Bool :=
  match Derivation.createAddress seeds t.program with
  | .ok address => .ok (address == authority)
  | .error (.identity e) => .error (.program e)
  | .error _ => .ok false

def checkSeeds (t : Tokens) (x : TokenTransfer) : Except TokenError Unit :=
  match x.signerSeeds with
  | none => .ok ()
  | some seeds =>
    match t.seedsSignFor seeds x.authority with
    | .error e => .error e
    | .ok true => .ok ()
    | .ok false => .error (.seedsDoNotSign x.authority)

def checkAuthority (x : TokenTransfer) (source : TokenAccount) : Except TokenError Unit :=
  if x.authority = source.owner then .ok ()
  else if x.signerSeeds.isNone ∨ source.delegate ≠ some x.authority then
    .error (.neitherOwnerNorDelegate x.authority x.source)
  else if source.allowance < x.amount then
    .error (.allowanceTooSmall source.allowance x.amount)
  else .ok ()

def check (t : Tokens) (x : TokenTransfer) : Except TokenError TokenAccount := do
  let source ← t.account x.source
  let destination ← t.account x.destination
  let mint ← t.mint x.mint
  if source.mint ≠ x.mint ∨ destination.mint ≠ x.mint then .error .mintMismatch
  else if mint.decimals ≠ x.decimals then .error (.decimalsMismatch mint.decimals x.decimals)
  else
    t.checkSeeds x
    checkAuthority x source
    if source.amount < x.amount then
      .error (.balanceTooSmall x.source source.amount x.amount)
    else .ok source

def changing (address : String) (f : TokenAccount → TokenAccount) :
    Routine TokenError Tokens Unit :=
  modifyThe Tokens fun t => t.modify address f

def creatingAccount (a : TokenAccount) : Routine TokenError Tokens Unit := do
  let _ ← (← get).mint a.mint
  modifyThe Tokens fun t => t.put a

def approving (address delegate authority : String) (amount : Int) :
    Routine TokenError Tokens Unit := do
  Routine.refuse (amount < 0) .negativeApproval
  let _ ← (← get).owned address authority
  changing address fun a => a.approve delegate amount

def revoking (address authority : String) : Routine TokenError Tokens Unit := do
  let _ ← (← get).owned address authority
  changing address TokenAccount.clearDelegate

/-- Moves an amount: from the source, to the destination, and then out of the allowance, if the
authority is a delegate. -/
def transferring (x : TokenTransfer) : Routine TokenError Tokens Unit := do
  let source ← (← get).check x
  changing x.source fun a => { a with amount := a.amount - x.amount }
  changing x.destination fun a => { a with amount := a.amount + x.amount }
  if x.authority ≠ source.owner then
    changing x.source fun a => a.spendAllowance x.amount

def transfer (t : Tokens) (x : TokenTransfer) : Except TokenError Tokens := (transferring x).left t

end Tokens

inductive TokenStep where
  | createMint (m : Mint)
  | createAccount (a : TokenAccount)
  | approve (account delegate authority : String) (amount : Int)
  | revoke (account authority : String)
  | transfer (x : TokenTransfer)

namespace Tokens

def doing : TokenStep → Routine TokenError Tokens Unit
  | .createMint m => modifyThe Tokens fun t => t.createMint m
  | .createAccount a => creatingAccount a
  | .approve account delegate authority amount => approving account delegate authority amount
  | .revoke account authority => revoking account authority
  | .transfer x => transferring x

def step (t : Tokens) (s : TokenStep) : Except TokenError Tokens := (doing s).left t

end Tokens

end Keyring
