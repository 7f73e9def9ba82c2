import Keyring.Engine.Keys
import Keyring.Proofs.Account.Lookup
import Keyring.Proofs.Routine

/-!
# What the changes of an account come to

Every routine on an account is worked out once, to a function of the account that gives the answer
and the account that is left. A key that is changed and looked up again is the key as it was, with
the changes made to it.
-/

namespace Keyring

namespace Account

open Outcome

def issue (c : Reading) (key : String) (expiresAt : Int) (unit : ExpiryUnit)
    (permissions : Permissions) (label : Bytes) (a : Account) : Outcome (SessionKey × Account) := do
  c.requireFuture unit expiresAt
  let k ← SessionKey.make key c.time expiresAt unit permissions label
  let keys ← a.keys.add k
  .ok (k, { a with keys })

def newExpiry (c : Reading) (k : SessionKey) : Option Int → Outcome SessionKey
  | none => .ok k
  | some expiresAt => do
    c.requireFuture k.unit expiresAt
    .ok { k with expiresAt }

def revise (c : Reading) (key : String) (expiresAt? : Option Int)
    (permissions? : Option Permissions) (a : Account) : Outcome (SessionKey × Account) := do
  let k ← a.keys.get key
  if k.isRevoked then .error (.refusal (.keyRevoked key))
  else
    let k ← newExpiry c k expiresAt?
    let k := { k with permissions := permissions?.getD k.permissions }
    .ok (k, { a with keys := a.keys.modify key fun _ => k })

def revoke (key : String) (a : Account) : Outcome (SessionKey × Account) := do
  let k ← a.keys.get key
  if k.isRevoked then .error (.refusal (.keyAlreadyRevoked key))
  else .ok (k.revoke, { a with keys := a.keys.modify key SessionKey.revoke })

/-- Revokes every key; the answer counts all of them. -/
def revokeAll (a : Account) : Nat × Account :=
  (a.keys.size, { a with keys := a.keys.revokeAll })

/-- Drops the keys that are not valid; the answer counts those. -/
def prune (c : Reading) (a : Account) : Nat × Account :=
  let (removed, keys) := a.keys.retain (·.isValid c)
  (removed.length, { a with keys })

def setMints (mints : List String) (a : Account) : Outcome (List String × Account) := do
  let mints ← Allowlist.ofList mints
  .ok (mints.mints, { a with mints })

variable {a : Account} {c : Reading} {key : String} {k : SessionKey}
  {f : SessionKey → SessionKey}

theorem outcome_keyOf (key : String) (a : Account) :
    (keyOf key).outcome a = (a.keys.get key).map fun k => (k, a) := by
  rw [keyOf, Routine.outcome_bind, Routine.outcome_get, ok_bind, Routine.outcome_liftM]

theorem outcome_keyOf_of_some (hk : a.keys.find? key = some k) :
    (keyOf key).outcome a = .ok (k, a) := by
  rw [outcome_keyOf, Registry.get_eq_ok_iff.2 hk]
  rfl

@[simp] theorem outcome_changingKey (key : String) (f : SessionKey → SessionKey) (a : Account) :
    (changingKey key f).outcome a = .ok ((), { a with keys := a.keys.modify key f }) := rfl

theorem outcome_issuing (c : Reading) (key : String) (expiresAt : Int) (unit : ExpiryUnit)
    (permissions : Permissions) (label : Bytes) (a : Account) :
    (issuing c key expiresAt unit permissions label).outcome a =
      a.issue c key expiresAt unit permissions label := by
  rw [issuing, issue, Routine.outcome_bind, Routine.outcome_liftM]
  cases c.requireFuture unit expiresAt with
  | error e => rfl
  | ok _ =>
      simp only [Except.map, ok_bind, Routine.outcome_bind, Routine.outcome_liftM]
      cases SessionKey.make key c.time expiresAt unit permissions label with
      | error e => rfl
      | ok k =>
          simp only [ok_bind, Routine.outcome_get]
          cases a.keys.add k <;> rfl

theorem outcome_settingPermissions (hk : a.keys.find? key = some k)
    (permissions? : Option Permissions) :
    (settingPermissions key permissions? >>= fun _ => keyOf key).outcome a =
      let k := { k with permissions := permissions?.getD k.permissions }
      .ok (k, { a with keys := a.keys.modify key fun _ => k }) := by
  rw [Routine.outcome_bind]
  cases permissions? with
  | none =>
      rw [settingPermissions, Routine.outcome_pure, ok_bind, outcome_keyOf_of_some hk]
      simp only [Option.getD_none, Registry.modify_of_find? hk]
  | some p =>
      let f : SessionKey → SessionKey := fun k => { k with permissions := p }
      have hfind := Registry.find?_modify_self (f := f) (fun _ h => h) hk
      have hconst := Registry.modify_const (f := f) hk
      rw [settingPermissions, outcome_changingKey, ok_bind, outcome_keyOf_of_some hfind, ← hconst]
      rfl

theorem outcome_revising (c : Reading) (key : String) (expiresAt? : Option Int)
    (permissions? : Option Permissions) (a : Account) :
    (revising c key expiresAt? permissions?).outcome a =
        a.revise c key expiresAt? permissions? := by
  rw [revising, revise, Routine.outcome_bind, outcome_keyOf]
  cases hget : a.keys.get key with
  | error e => rfl
  | ok k =>
      have hk := Registry.get_eq_ok_iff.1 hget
      rw [Except.map, ok_bind, ok_bind, Routine.outcome_bind, Routine.outcome_refuse]
      split
      next => rfl
      next =>
        rw [ok_bind, Routine.outcome_bind]
        cases expiresAt? with
        | none => exact outcome_settingPermissions hk permissions?
        | some e =>
            rw [settingExpiry, newExpiry, Routine.outcome_bind, Routine.outcome_liftM]
            cases c.requireFuture k.unit e with
            | error e => rfl
            | ok _ =>
                let f : SessionKey → SessionKey := fun k => { k with expiresAt := e }
                have hf : ∀ k, k.identity = key → (f k).identity = key := fun _ h => h
                have hfind := Registry.find?_modify_self hf hk
                have hlast := outcome_settingPermissions
                  (a := { a with keys := a.keys.modify key f }) hfind permissions?
                simp only [Registry.modify_modify hf] at hlast
                exact hlast

theorem outcome_revoking (key : String) (a : Account) :
    (revoking key).outcome a = a.revoke key := by
  rw [revoking, revoke, Routine.outcome_bind, outcome_keyOf]
  cases hget : a.keys.get key with
  | error e => rfl
  | ok k =>
      have hk := Registry.get_eq_ok_iff.1 hget
      have hfind := Registry.find?_modify_self (f := SessionKey.revoke) (fun _ h => h) hk
      simp only [Except.map, ok_bind, Routine.outcome_bind, Routine.outcome_refuse]
      cases k.isRevoked with
      | true => rfl
      | false => exact outcome_keyOf_of_some hfind

theorem outcome_revokingAll (a : Account) : revokingAll.outcome a = .ok a.revokeAll := by
  have hsize : a.keys.revokeAll.size = a.keys.size := List.length_map _
  rw [revokeAll, ← hsize]
  rfl

theorem outcome_pruning (c : Reading) (a : Account) : (pruning c).outcome a = .ok (a.prune c) := rfl

theorem outcome_settingMints (mints : List String) (a : Account) :
    (settingMints mints).outcome a = a.setMints mints := by
  rw [settingMints, setMints, Routine.outcome_bind, Routine.outcome_liftM]
  cases Allowlist.ofList mints <;> rfl

end Account

end Keyring
