import Keyring.Engine.World

/-!
# Issuing, changing and withdrawing session keys

Each operation on an account is first a routine on the account alone, which changes it where it
stands. The engine runs that routine inside a transaction.
-/

namespace Keyring

structure KeySpec where
  key : String
  expiresAt : Int
  /-- The name of the unit. -/
  unit : String := ExpiryUnit.name .time
  permissions : Permissions := {}
  label : String := ""

def KeySpec.paddedLabel (s : KeySpec) : Outcome Bytes :=
  match Label.ofText? s.label with
  | none => .error (.invalid .labelTooLong)
  | some label => .ok label

structure KeyStatus where
  key : SessionKey
  isExpired : Bool
  isActive : Bool
  remaining : Int

namespace KeyStatus

def of (c : Reading) (k : SessionKey) : KeyStatus :=
  let expired := k.isExpired c
  ⟨k, expired, !k.isRevoked && !expired, k.remaining c⟩

def toJson (s : KeyStatus) : Json :=
  .obj (s.key.toFields ++ [("is_expired", .bool s.isExpired), ("is_active", .bool s.isActive),
    ("remaining", .int s.remaining)])

end KeyStatus

namespace Account

def keyOf (key : String) : Routine Fault Account SessionKey := do (← get).keys.get key

def changingKey (key : String) (f : SessionKey → SessionKey) : Routine Fault Account Unit :=
  modify fun a => { a with keys := a.keys.modify key f }

def issuing (c : Reading) (key : String) (expiresAt : Int) (unit : ExpiryUnit)
    (permissions : Permissions) (label : Bytes) : Routine Fault Account SessionKey := do
  c.requireFuture unit expiresAt
  let k ← SessionKey.make key c.time expiresAt unit permissions label
  let keys ← (← get).keys.add k
  modify fun a => { a with keys }
  return k

/-- Gives a key a new threshold, if there is one, by the unit that the key has. -/
def settingExpiry (c : Reading) (key : String) (unit : ExpiryUnit) :
    Option Int → Routine Fault Account Unit
  | none => pure ()
  | some expiresAt => do
    c.requireFuture unit expiresAt
    changingKey key fun k => { k with expiresAt }

def settingPermissions (key : String) : Option Permissions → Routine Fault Account Unit
  | none => pure ()
  | some permissions => changingKey key fun k => { k with permissions }

/-- Gives a key that is not revoked a new threshold, and then new permissions. -/
def revising (c : Reading) (key : String) (expiresAt? : Option Int)
    (permissions? : Option Permissions) : Routine Fault Account SessionKey := do
  let k ← keyOf key
  Routine.refuse k.isRevoked (.refusal (.keyRevoked key))
  settingExpiry c key k.unit expiresAt?
  settingPermissions key permissions?
  keyOf key

def revoking (key : String) : Routine Fault Account SessionKey := do
  let k ← keyOf key
  Routine.refuse k.isRevoked (.refusal (.keyAlreadyRevoked key))
  changingKey key SessionKey.revoke
  keyOf key

/-- Revokes every key; the answer counts all of them. -/
def revokingAll : Routine Fault Account Nat := do
  modify fun a => { a with keys := a.keys.revokeAll }
  return (← get).keys.size

/-- Drops the keys that are not valid; the answer counts those. -/
def pruning (c : Reading) : Routine Fault Account Nat := do
  let (removed, keys) := (← get).keys.retain (·.isValid c)
  modify fun a => { a with keys }
  return removed.length

def settingMints (mints : List String) : Routine Fault Account (List String) := do
  let list ← Allowlist.ofList mints
  modify fun a => { a with mints := list }
  return list.mints

def statuses (c : Reading) (a : Account) : List KeyStatus := a.keys.keys.map (KeyStatus.of c)

def activeKeys (c : Reading) (a : Account) : List KeyStatus :=
  (a.statuses c).filter (·.isActive)

def expiringKeys (c : Reading) (within : Int) (a : Account) : List KeyStatus :=
  (a.activeKeys c).filter fun s => s.remaining ≤ within

def isKeyValid (c : Reading) (key : String) (a : Account) : Bool :=
  (a.activeKeys c).any fun s => s.key.identity == key

end Account

namespace World

def openAccount (w : World) (authority : String) : Outcome Account × World :=
  w.perform do
    let a ← Account.opened authority (← get).program
    onStore (Store.creating a)
    return a

def issue (w : World) (authority : String) (s : KeySpec) : Outcome SessionKey × World :=
  w.perform do
    let c := (← get).clock
    let unit ← decoded (ExpiryUnit.ofName s.unit)
    let label ← s.paddedLabel
    changing authority (Account.issuing c s.key s.expiresAt unit s.permissions label)
      fun _ => some (.keyCreated s.key s.expiresAt unit.name s.permissions.toJson)

/-- Issues keys one after the other, up to the first that cannot be issued. -/
def issueAll (w : World) (authority : String) : List KeySpec → Outcome (List SessionKey) × World
  | [] => (.ok [], w)
  | s :: ss =>
    match w.issue authority s with
    | (.error e, w) => (.error e, w)
    | (.ok k, w) =>
      let (r, w) := w.issueAll authority ss
      (r.map (k :: ·), w)

def revise (w : World) (authority key : String) (expiresAt? : Option Int)
    (permissions? : Option Permissions) : Outcome SessionKey × World :=
  w.change authority (Account.revising w.clock key expiresAt? permissions?)
    fun k => some (.keyUpdated key k.expiresAt k.permissions.toJson)

def revoke (w : World) (authority key : String) : Outcome SessionKey × World :=
  w.change authority (Account.revoking key) fun _ => some (.keyRevoked key)

def revokeAll (w : World) (authority : String) : Outcome Nat × World :=
  w.change authority Account.revokingAll fun n => some (.allKeysRevoked n)

def prune (w : World) (authority : String) : Outcome Nat × World :=
  w.change authority (Account.pruning w.clock) fun _ => none

def setMints (w : World) (authority : String) (mints : List String) :
    Outcome (List String) × World :=
  w.change authority (Account.settingMints mints) fun mints => some (.mintsUpdated mints)

/-! ## Questions -/

def account (w : World) (authority : String) : Outcome Account := w.store.load authority

def key (w : World) (authority key : String) : Outcome SessionKey := do
  (← w.account authority).keys.get key

def statuses (w : World) (authority : String) : Outcome (List KeyStatus) :=
  (w.account authority).map (Account.statuses w.clock)

def activeKeys (w : World) (authority : String) : Outcome (List KeyStatus) :=
  (w.account authority).map (Account.activeKeys w.clock)

def expiringKeys (w : World) (authority : String) (within : Int) : Outcome (List KeyStatus) :=
  (w.account authority).map (Account.expiringKeys w.clock within)

def isKeyValid (w : World) (authority key : String) : Outcome Bool :=
  (w.account authority).map (Account.isKeyValid w.clock key)

end World

end Keyring
