import Keyring.Account

/-!
# Reading documents

The way back from documents to permissions, actions, session keys and accounts. What the writers
produce is read back as it was; documents that came by other ways are read generously, field by
field in a fixed order, so that of several faults the first one is reported.
-/

namespace Keyring

def decoded {α : Type} (r : Except DecodeError α) : Outcome α := r.mapError .decode

namespace Json

def fields : Json → Outcome Fields
  | .obj fs => .ok fs
  | _ => .error (.decode .noFields)

end Json

namespace Permissions

def ofFields (fs : Fields) : Outcome Permissions := do
  let flag := fun name => (fs.getD name (.bool false)).truthy
  let cap ← decoded (fs.getD "max_transfer_amount" (.int 0)).toInt
  let flags ← decoded (fs.getD "custom_flags" (.int 0)).toInt
  (make (flag "can_transfer") (flag "can_delegate") (flag "can_execute_custom") cap flags).mapError
    fun e => .invalid (.permissions e)

def ofJson (j : Json) : Outcome Permissions := do
  ofFields (← j.fields)

def ofField (fs : Fields) (name : String) : Outcome Permissions := do
  ofFields (← decoded (fs.orElse name (.obj [])).toFields)

end Permissions

namespace Action

def ofFields (fs : Fields) : Outcome Action :=
  match fs.getD "type" .null with
  | .str "transfer" => do
    let recipient ← decoded (fs.require "recipient")
    let amount ← decoded (fs.require "amount")
    let amount ← decoded amount.toInt
    if amount < 0 then .error (.invalid .negativeAmount)
    else .ok (.transfer recipient.plain amount.toNat)
  | .str "delegate" => do
    let newKey ← decoded (fs.require "new_key_identity")
    let permissions ← Permissions.ofField fs "permissions"
    .ok (.delegate newKey.plain permissions)
  | .str "custom" => do
    let target ← decoded (fs.require "target_identity")
    let payload ← decoded (Json.toBytes (fs.orElse "payload" (.str "")).plain)
    .ok (.custom target.plain payload)
  | kind => .error (.decode (.notAction kind))

def ofJson (j : Json) : Outcome Action := do
  ofFields (← j.fields)

end Action

namespace SessionKey

def ofFields (fs : Fields) : Outcome SessionKey := do
  let label := (fs.orElse "label" (.str "")).plain
  let identity ← decoded (fs.require "key_identity")
  let createdAt ← decoded (fs.require "created_at")
  let createdAt ← decoded createdAt.toInt
  let expiresAt ← decoded (fs.require "expires_at")
  let expiresAt ← decoded expiresAt.toInt
  let unit ← decoded (fs.require "expiration_type")
  let unit ← decoded (ExpiryUnit.ofName unit.plain)
  let permissions ← Permissions.ofField fs "permissions"
  let label ← if label.isEmpty then .ok Label.blank else decoded (Json.toBytes label)
  let key ← make identity.plain createdAt expiresAt unit permissions label
  .ok (if (fs.getD "is_revoked" .null).truthy then key.revoke else key)

def ofJson (j : Json) : Outcome SessionKey := do
  ofFields (← j.fields)

end SessionKey

namespace Registry

/-- Adds the keys of a list of documents one after the other, each as soon as it is read. -/
def addDocuments (r : Registry) : List Json → Outcome Registry
  | [] => .ok r
  | j :: js => do
    let fs ← decoded j.toFields
    let key ← SessionKey.ofFields fs
    let r ← r.add key
    r.addDocuments js

end Registry

namespace Account

def ofFields (fs : Fields) : Outcome Account := do
  let authority ← decoded (fs.require "authority")
  let address ← decoded (fs.require "address")
  let bump ← decoded (fs.require "bump")
  let bump ← decoded bump.toInt
  let entries ← decoded (fs.orElse "session_keys" (.arr [])).toItems
  let keys ← (Registry.empty Registry.maxKeys).addDocuments entries
  let mints ← decoded (fs.orElse "allowed_mints" (.arr [])).toItems
  let mints ← Allowlist.ofList (mints.map Json.plain)
  .ok ⟨authority.plain, address.plain, bump, keys, mints⟩

def ofJson : Json → Outcome Account
  | .obj fs => ofFields fs
  | _ => .error (.decode .kind)

end Account

end Keyring
