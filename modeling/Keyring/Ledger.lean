import Keyring.Fault
import Keyring.Routine

/-!
# The ledger

Balances by identity, and which spenders each source has authorized. A spender other than the source
moves funds only with an authorization, and nobody moves more than there is.
-/

namespace Keyring

structure Ledger where
  balances : List (String × Int) := []
  /-- Pairs of a source and a spender. -/
  authorized : List (String × String) := []

namespace Ledger

def balance (l : Ledger) (identity : String) : Int := (field? identity l.balances).getD 0

def setBalance (l : Ledger) (identity : String) (n : Int) : Ledger :=
  { l with balances := putField identity n l.balances }

def authorize (l : Ledger) (source spender : String) : Ledger :=
  if l.authorized.contains (source, spender) then l
  else { l with authorized := l.authorized ++ [(source, spender)] }

def deauthorize (l : Ledger) (source spender : String) : Ledger :=
  { l with authorized := l.authorized.filter (· != (source, spender)) }

def maySpend (l : Ledger) (source spender : String) : Bool :=
  spender == source || l.authorized.contains (source, spender)

def crediting (identity : String) (amount : Int) : Routine LedgerError Ledger Unit := do
  Routine.refuse (amount < 0) .negativeCredit
  modify fun l => l.setBalance identity (l.balance identity + amount)

/-- Moves an amount: the source pays, and then the destination is paid. -/
def transferring (source destination : String) (amount : Int) (spender : String) :
    Routine LedgerError Ledger Unit := do
  Routine.refuse (amount < 0) .negativeTransfer
  Routine.refuse (!(← get).maySpend source spender) (.unauthorized source spender)
  let balance := (← get).balance source
  Routine.refuse (balance < amount) (.insufficientFunds source balance amount)
  modify fun l => l.setBalance source (balance - amount)
  modify fun l => l.setBalance destination (l.balance destination + amount)

def transfer (l : Ledger) (source destination : String) (amount : Int) (spender : String) :
    Except LedgerError Ledger := (transferring source destination amount spender).left l

end Ledger

inductive LedgerStep where
  | credit (identity : String) (amount : Int)
  | authorize (source spender : String)
  | deauthorize (source spender : String)
  | transfer (source destination : String) (amount : Int) (spender : String)

namespace Ledger

def doing : LedgerStep → Routine LedgerError Ledger Unit
  | .credit identity amount => crediting identity amount
  | .authorize source spender => modify fun l => l.authorize source spender
  | .deauthorize source spender => modify fun l => l.deauthorize source spender
  | .transfer source destination amount spender => transferring source destination amount spender

def step (l : Ledger) (s : LedgerStep) : Except LedgerError Ledger := (doing s).left l

end Ledger

end Keyring
