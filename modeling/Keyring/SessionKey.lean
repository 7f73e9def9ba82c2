import Keyring.Calendar
import Keyring.Fault

/-!
# Session keys

A session key is one signing identity to which an owner lends some permissions until a threshold of
time or height is reached, or until the key is revoked. A threshold that equals the reading has been
reached.

The identity, the time of issue and the unit of the threshold never change, and revocation is not
undone. `assign` is the change of one attribute under these rules.
-/

namespace Keyring

inductive KeyState where
  | active
  | revoked
deriving DecidableEq

namespace KeyState

def name : KeyState → String
  | .active => "active"
  | .revoked => "revoked"

def ofName (s : String) : Except DecodeError KeyState :=
  if s = name .active then .ok .active
  else if s = name .revoked then .ok .revoked
  else .error (.notChoice (.str s) "KeyState")

end KeyState

structure SessionKey where
  identity : String
  createdAt : Int
  expiresAt : Int
  unit : ExpiryUnit
  permissions : Permissions := {}
  label : Bytes := Label.blank
  state : KeyState := .active
deriving DecidableEq

namespace SessionKey

def make (identity : String) (createdAt expiresAt : Int) (unit : ExpiryUnit)
    (permissions : Permissions) (label : Bytes) : Outcome SessionKey :=
  if label.length = Label.size then
    .ok ⟨identity, createdAt, expiresAt, unit, permissions, label, .active⟩
  else .error (.invalid .labelWidth)

def isRevoked (k : SessionKey) : Bool := k.state == .revoked

def revoke (k : SessionKey) : SessionKey := { k with state := .revoked }

def same (k l : SessionKey) : Bool := k == { l with state := k.state }

/-! ## Expiry -/

def isExpired (k : SessionKey) (c : Reading) : Bool := k.expiresAt ≤ c.current k.unit

def isValid (k : SessionKey) (c : Reading) : Bool := !k.isRevoked && !k.isExpired c

/-- The seconds or steps of height left, none when the threshold is reached. -/
def remaining (k : SessionKey) (c : Reading) : Int := max 0 (k.expiresAt - c.current k.unit)

/-! ## Assignment -/

inductive Assignment where
  | identity (v : String)
  | createdAt (v : Int)
  | expiresAt (v : Int)
  | unit (v : ExpiryUnit)
  | permissions (v : Permissions)
  | label (v : Bytes)
  | state (v : KeyState)
  /-- Attributes that are read off the state. -/
  | derived (name : String)
  /-- A name that is no attribute of a key. -/
  | other (name : String)

def assign (k : SessionKey) : Assignment → Except Frozen SessionKey
  | .identity _ => .error (.field "key_identity")
  | .createdAt _ => .error (.field "created_at")
  | .unit _ => .error (.field "expiration_type")
  | .expiresAt v => .ok { k with expiresAt := v }
  | .permissions v => .ok { k with permissions := v }
  | .label v => .ok { k with label := v }
  | .state v =>
    if k.isRevoked && v != .revoked then .error .reactivation else .ok { k with state := v }
  | .derived name => .error (.readOnly name "SessionKeyRecord")
  | .other _ => .ok k

/-! ## Text -/

def description (k : SessionKey) : String :=
  match k.unit with
  | .blockHeight => "Expires at block height " ++ toString k.expiresAt
  | .time =>
    "Expires at timestamp " ++ toString k.expiresAt
      ++ match Calendar.isoText? ⟨k.expiresAt, 0⟩ with
        | some date => " (" ++ date ++ ")"
        | none => ""

def labelText (k : SessionKey) : String := Label.text k.label

def toFields (k : SessionKey) : Fields :=
  [("key_identity", .str k.identity), ("created_at", .int k.createdAt),
    ("expires_at", .int k.expiresAt), ("expiration_type", .str k.unit.name),
    ("permissions", k.permissions.toJson), ("is_revoked", .bool k.isRevoked),
    ("label", .str (Text.Hex.encode k.label))]

def toJson (k : SessionKey) : Json := .obj k.toFields

end SessionKey

namespace Reading

def requireFuture (c : Reading) (unit : ExpiryUnit) (expiresAt : Int) : Outcome Unit :=
  if expiresAt ≤ c.current unit then
    .error (.refusal (.invalidExpiry unit expiresAt (c.current unit)))
  else .ok ()

end Reading

end Keyring
