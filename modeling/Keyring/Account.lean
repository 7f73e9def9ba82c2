import Keyring.Allowlist
import Keyring.Registry

/-!
# Owner accounts

An account holds what one owner has lent: the session keys and the mints they may move. It lives at
an address derived from the owner's identity, the authority. Authority, address and bump never
change.
-/

namespace Keyring

def version : String := "0.1.0"

structure Account where
  authority : String
  address : String
  bump : Int
  keys : Registry := Registry.empty Registry.maxKeys
  mints : Allowlist := Allowlist.empty
deriving DecidableEq

namespace Account

/-- An empty account at the address derived for its authority. -/
def opened (authority program : String) : Outcome Account :=
  match Derivation.ownerAddress authority program with
  | .error e => .error (.derivation e)
  | .ok d => .ok { authority, address := d.address, bump := d.bump }

inductive Assignment where
  | authority (v : String)
  | address (v : String)
  | bump (v : Int)
  | keys (v : Registry)
  | mints (v : Allowlist)
  /-- A name that is no attribute of an account. -/
  | other (name : String)

def assign (a : Account) : Assignment → Except Frozen Account
  | .authority _ => .error (.field "authority")
  | .address _ => .error (.field "address")
  | .bump _ => .error (.field "bump")
  | .keys v => .ok { a with keys := v }
  | .mints v => .ok { a with mints := v }
  | .other _ => .ok a

def toJson (a : Account) : Json :=
  .obj [("authority", .str a.authority), ("address", .str a.address), ("bump", .int a.bump),
    ("session_keys", .arr (a.keys.keys.map SessionKey.toJson)),
    ("allowed_mints", .arr (a.mints.mints.map .str))]

/-! ## Sizes -/

def identitySpace : Nat := Base58.identitySize

/-- Bytes of one key: identity, two numbers, unit, permissions, state, label. -/
def keySpace : Nat := identitySpace + 8 + 8 + 1 + 32 + 1 + Label.size

/-- The bytes to set aside for an account of so many keys and mints. -/
def space (keys mints : Int) : Int :=
  8 + identitySpace + 4 + keys * keySpace + 4 + mints * identitySpace + 1

end Account

end Keyring
