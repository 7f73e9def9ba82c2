import Keyring.Permissions

/-!
# Events

What is told of each change: whose account it concerns, and a notice of what was done. Notices carry
permissions and actions as documents. `EventKind` names the kinds of notice; an event without
details is of the general kind alone.
-/

namespace Keyring

inductive Notice where
  | general
  | keyCreated (key : String) (expiresAt : Int) (unit : String) (permissions : Json)
  | keyUpdated (key : String) (expiresAt : Int) (permissions : Json)
  | keyRevoked (key : String)
  | allKeysRevoked (count : Int)
  | actionExecuted (key : String) (action : Json) (timestamp : Int)
  | delegateApproved (tokenAccount mint delegate : String) (amount : Int)
  | delegatedTransfer (key source destination mint : String) (amount : Int)
  | delegateRevoked (tokenAccount : String)
  | mintsUpdated (mints : List String)

inductive EventKind where
  | general
  | keyCreated
  | keyUpdated
  | keyRevoked
  | allKeysRevoked
  | actionExecuted
  | delegateApproved
  | delegatedTransfer
  | delegateRevoked
  | mintsUpdated
deriving DecidableEq

namespace EventKind

def all : List EventKind :=
  [.general, .keyCreated, .keyUpdated, .keyRevoked, .allKeysRevoked, .actionExecuted,
    .delegateApproved, .delegatedTransfer, .delegateRevoked, .mintsUpdated]

def name : EventKind → String
  | .general => "session_event"
  | .keyCreated => "session_key_created"
  | .keyUpdated => "session_key_updated"
  | .keyRevoked => "session_key_revoked"
  | .allKeysRevoked => "all_session_keys_revoked"
  | .actionExecuted => "session_action_executed"
  | .delegateApproved => "token_delegate_approved"
  | .delegatedTransfer => "token_delegated_transfer"
  | .delegateRevoked => "token_delegate_revoked"
  | .mintsUpdated => "allowed_mints_updated"

def ofName? (s : String) : Option EventKind := all.find? fun k => k.name == s

end EventKind

namespace Notice

def kind : Notice → EventKind
  | .general => .general
  | .keyCreated .. => .keyCreated
  | .keyUpdated .. => .keyUpdated
  | .keyRevoked .. => .keyRevoked
  | .allKeysRevoked .. => .allKeysRevoked
  | .actionExecuted .. => .actionExecuted
  | .delegateApproved .. => .delegateApproved
  | .delegatedTransfer .. => .delegatedTransfer
  | .delegateRevoked .. => .delegateRevoked
  | .mintsUpdated .. => .mintsUpdated

def details : Notice → Fields
  | .general => []
  | .keyCreated key expiresAt unit permissions =>
    [("key_identity", .str key), ("expires_at", .int expiresAt), ("expiration_type", .str unit),
      ("permissions", permissions)]
  | .keyUpdated key expiresAt permissions =>
    [("key_identity", .str key), ("expires_at", .int expiresAt), ("permissions", permissions)]
  | .keyRevoked key => [("key_identity", .str key)]
  | .allKeysRevoked count => [("count", .int count)]
  | .actionExecuted key action timestamp =>
    [("key_identity", .str key), ("action", action), ("timestamp", .int timestamp)]
  | .delegateApproved tokenAccount mint delegate amount =>
    [("token_account", .str tokenAccount), ("mint", .str mint), ("delegate", .str delegate),
      ("amount", .int amount)]
  | .delegatedTransfer key source destination mint amount =>
    [("key_identity", .str key), ("from_token", .str source), ("to_token", .str destination),
      ("mint", .str mint), ("amount", .int amount)]
  | .delegateRevoked tokenAccount => [("token_account", .str tokenAccount)]
  | .mintsUpdated mints => [("mints", .arr (mints.map .str))]

end Notice

structure Event where
  authority : String
  notice : Notice

namespace Event

def toFields (e : Event) : Fields :=
  [("event_type", .str e.notice.kind.name), ("authority", .str e.authority),
    ("details", .obj e.notice.details)]

def toJson (e : Event) : Json := .obj e.toFields

def isOf (k : EventKind) (e : Event) : Bool := k == .general || e.notice.kind == k

end Event

end Keyring
