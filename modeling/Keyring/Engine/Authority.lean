import Keyring.Engine.Keys

/-!
# Acting with a session key

A session key acts for its owner in two ways: it has an action executed, of which only a transfer
moves anything, or it moves tokens as the owner's delegate. Both begin at one gate, `authorize`: the
key must be there, not revoked and not expired, in this order.

The owner approves and revokes delegates directly.
-/

namespace Keyring

namespace Account

def authorize (c : Reading) (key : String) (a : Account) : Outcome SessionKey := do
  let k ← a.keys.get key
  if k.isRevoked then .error (.refusal (.keyRevoked key))
  else if k.isExpired c then .error (.refusal (.keyExpired key))
  else .ok k

end Account

namespace Permissions

def require (p : Permissions) : Request → Outcome Action
  | .foreign kind => .error (.foreign kind)
  | .action a =>
    match p.denial? a with
    | some d => .error (.insufficient (.denied d))
    | none => .ok a

end Permissions

namespace Action

def transferOf (recipient : String) (amount : Int) : Outcome Action :=
  if amount < 0 then .error (.invalid .negativeAmount)
  else .ok (.transfer recipient amount.toNat)

/-- Carries out an action for an account. Source and destination may be named, if rightly. -/
def settling (a : Account) (source? destination? : Option String) : Action → Doing Unit
  | .transfer recipient amount => do
    let source := source?.getD a.authority
    let destination := destination?.getD recipient
    Routine.refuse (source ≠ a.authority) (.insufficient .sourceNotOwner)
    Routine.refuse (destination ≠ recipient) (.insufficient .destinationNotRecipient)
    World.onLedger (Ledger.transferring source destination amount a.address)
  | _ => pure ()

end Action

namespace World

def execute (w : World) (authority signer : String) (request : Request)
    (source? destination? : Option String) : Outcome SessionKey × World :=
  w.perform do
    let c := (← get).clock
    let (k, action) ← transact authority false do
      let a := (← get).1
      let k ← a.authorize c signer
      let action ← k.permissions.require request
      around (action.settling a source? destination?)
      return (k, action)
    telling authority (.actionExecuted signer action.toJson c.time)
    return k

/-! ## Tokens -/

def expectedDelegate (w : World) (authority mint : String) : Outcome DerivedAddress := do
  let a ← w.store.load authority
  Delegate.expected w.binder a.address mint

def approve (w : World) (authority tokenAccount mint delegate : String) (amount : Int) :
    Outcome DerivedAddress × World :=
  w.perform do
    Routine.refuse (amount < 0) (.token .negativeApproval)
    let d ← transact authority false do
      let (a, w) ← get
      let d ← Delegate.bind w.binder a.address mint delegate
      let holding ← (w.tokens.account tokenAccount).mapError Fault.token
      Routine.refuse (holding.owner ≠ authority) (.insufficient .tokenAccountNotOwned)
      Routine.refuse (holding.mint ≠ mint) (.insufficient .tokenAccountMint)
      a.mints.require mint
      around (onTokens (Tokens.approving tokenAccount d.address authority amount))
      return d
    telling authority (.delegateApproved tokenAccount mint d.address amount)
    return d

def revokeDelegate (w : World) (authority tokenAccount : String) : Outcome Unit × World :=
  w.perform do
    transact authority false do
      around (onTokens (Tokens.revoking tokenAccount authority))
    telling authority (.delegateRevoked tokenAccount)

def delegatedTransfer (w : World) (authority signer source destination mint delegate : String)
    (amount : Int) : Outcome SessionKey × World :=
  w.perform do
    let c := (← get).clock
    let k ← transact authority false do
      let (a, w) ← get
      let k ← a.authorize c signer
      let action ← Action.transferOf destination amount
      let _ ← k.permissions.require (.action action)
      let d ← Delegate.bind w.binder a.address mint delegate
      a.mints.require mint
      let m ← (w.tokens.mint mint).mapError Fault.token
      around (onTokens (Tokens.transferring
        { source, mint, destination, authority := d.address, amount, decimals := m.decimals,
          signerSeeds := some d.signerSeeds }))
      return k
    telling authority (.delegatedTransfer signer source destination mint amount)
    return k

end World

end Keyring
