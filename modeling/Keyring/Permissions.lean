import Keyring.Json.Lenient

/-!
# Permissions

What a session key may do: transfer up to a cap, delegate, run custom actions. A cap of zero is no
cap. The custom flags are kept for the application, and no decision looks at them.
-/

namespace Keyring

structure Permissions where
  canTransfer : Bool := false
  canDelegate : Bool := false
  canExecuteCustom : Bool := false
  maxTransferAmount : UInt64 := 0
  customFlags : UInt32 := 0
deriving DecidableEq

namespace Permissions

inductive RangeError where
  | amount
  | flags
deriving DecidableEq

def RangeError.message : RangeError → String
  | .amount => "max_transfer_amount must fit in an unsigned 64-bit integer."
  | .flags => "custom_flags must fit in an unsigned 32-bit integer."

def make (transfer delegate custom : Bool) (cap flags : Int) : Except RangeError Permissions :=
  if cap < 0 ∨ UInt64.size ≤ cap then .error .amount
  else if flags < 0 ∨ UInt32.size ≤ flags then .error .flags
  else .ok ⟨transfer, delegate, custom, UInt64.ofNat cap.toNat, UInt32.ofNat flags.toNat⟩

def cap (p : Permissions) : Nat := p.maxTransferAmount.toNat

def isUnlimited (p : Permissions) : Bool := p.maxTransferAmount == 0

def allowsAmount (p : Permissions) (amount : Int) : Bool :=
  p.isUnlimited || amount ≤ p.cap

/-- Whether every bit of the mask is set. A negative mask has infinitely many bits. -/
def hasFlags (p : Permissions) (mask : Int) : Bool :=
  match mask with
  | .ofNat m => p.customFlags.toNat &&& m == m
  | .negSucc _ => false

def toJson (p : Permissions) : Json :=
  .obj [("can_transfer", .bool p.canTransfer), ("can_delegate", .bool p.canDelegate),
    ("can_execute_custom", .bool p.canExecuteCustom), ("max_transfer_amount", .int p.cap),
    ("custom_flags", .int p.customFlags.toNat)]

end Permissions

inductive Preset where
  | fullAccess
  | transferOnly
  | limitedTransfer
  | delegateOnly
  | customOnly
  | readOnly
deriving DecidableEq

namespace Preset

def all : List Preset :=
  [.fullAccess, .transferOnly, .limitedTransfer, .delegateOnly, .customOnly, .readOnly]

def name : Preset → String
  | .fullAccess => "full_access"
  | .transferOnly => "transfer_only"
  | .limitedTransfer => "limited_transfer"
  | .delegateOnly => "delegate_only"
  | .customOnly => "custom_only"
  | .readOnly => "read_only"

def ofName? (s : String) : Option Preset := all.find? fun p => p.name == s

def limitedTransferCap : UInt64 := 100000000

def permissions : Preset → Permissions
  | .fullAccess => { canTransfer := true, canDelegate := true, canExecuteCustom := true }
  | .transferOnly => { canTransfer := true }
  | .limitedTransfer => { canTransfer := true, maxTransferAmount := limitedTransferCap }
  | .delegateOnly => { canDelegate := true }
  | .customOnly => { canExecuteCustom := true }
  | .readOnly => {}

def ofJson : Json → Except DecodeError Preset
  | .str s =>
    match ofName? s with
    | some p => .ok p
    | none => .error (.notChoice (.str s) "PermissionPreset")
  | j => .error (.notChoice j "PermissionPreset")

end Preset

end Keyring
