import Keyring.Permissions

/-!
# Actions

What a session key asks to do on its owner's behalf, and the verdict of a permission set on it. Only
a transfer has an effect; the other two are acknowledged.

`Request` is what arrives at the engine: an action, or something of a foreign kind that no
permission set can judge.
-/

namespace Keyring

inductive Action where
  | transfer (recipient : String) (amount : Nat)
  | delegate (newKey : String) (permissions : Permissions)
  | custom (target : String) (payload : Bytes)
deriving DecidableEq

inductive Request where
  | action (a : Action)
  | foreign (kind : String)

def Request.foreignMessage (kind : String) : String :=
  "Unsupported session action type: " ++ kind

namespace Action

def toJson : Action → Json
  | .transfer recipient amount =>
    .obj [("type", .str "transfer"), ("recipient", .str recipient), ("amount", .int amount)]
  | .delegate newKey permissions =>
    .obj [("type", .str "delegate"), ("new_key_identity", .str newKey),
      ("permissions", permissions.toJson)]
  | .custom target payload =>
    .obj [("type", .str "custom"), ("target_identity", .str target),
      ("payload", .str (Text.Hex.encode payload))]

def negativeAmountMessage : String := "TransferAction.amount must be non-negative."

end Action

inductive Denial where
  | mayNotTransfer
  | exceedsCap (amount cap : Nat)
  | mayNotDelegate
  | mayNotExecuteCustom
deriving DecidableEq

def Denial.reason : Denial → String
  | .mayNotTransfer => "session key may not transfer"
  | .exceedsCap amount cap => "amount " ++ toString amount ++ " exceeds cap " ++ toString cap
  | .mayNotDelegate => "session key may not delegate"
  | .mayNotExecuteCustom => "session key may not execute custom actions"

namespace Permissions

def denial? (p : Permissions) : Action → Option Denial
  | .transfer _ amount =>
    if !p.canTransfer then some .mayNotTransfer
    else if !p.allowsAmount amount then some (.exceedsCap amount p.cap)
    else none
  | .delegate _ _ => if p.canDelegate then none else some .mayNotDelegate
  | .custom _ _ => if p.canExecuteCustom then none else some .mayNotExecuteCustom

def permits (p : Permissions) (a : Action) : Bool := (p.denial? a).isNone

/-- The reason given for the decision on an action, whichever way it goes. -/
def reason (p : Permissions) (a : Action) : String :=
  match p.denial? a with
  | some d => d.reason
  | none =>
    match a with
    | .transfer _ _ => "transfer permitted"
    | .delegate _ _ => "delegate permitted"
    | .custom _ _ => "custom action permitted"

end Permissions

end Keyring
