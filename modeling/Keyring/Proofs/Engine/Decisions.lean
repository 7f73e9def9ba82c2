import Keyring.Proofs.Engine.Performing
import Keyring.Proofs.Ledger
import Keyring.Proofs.Token.Accounts

/-!
# What is decided before anything moves

The operations on ledger and tokens decide everything first, on the world as they find it. What they
decide is worked out here as a function of the world: the answer, and the ledger or the tokens as
they are to be. Each of them then either fails with the world as it was, or puts that in its place
and tells one notice.
-/

namespace Keyring

open Outcome

namespace Action

variable {a : Account} {source? destination? : Option String} {action : Action}

/-- The ledger after an action for an account. Source and destination may be named, if rightly. -/
def settle (l : Ledger) (a : Account) (source? destination? : Option String) :
    Action → Outcome Ledger
  | .transfer recipient amount =>
    let source := source?.getD a.authority
    let destination := destination?.getD recipient
    if source ≠ a.authority then .error (.insufficient .sourceNotOwner)
    else if destination ≠ recipient then .error (.insufficient .destinationNotRecipient)
    else (l.transfer source destination amount a.address).mapError .ledger
  | _ => .ok l

theorem atomic_settling : (action.settling a source? destination?).Atomic := by
  cases action with
  | transfer recipient amount =>
      refine Routine.looks_refuse.bind_atomic fun _ => Routine.looks_refuse.bind_atomic fun _ => ?_
      exact World.atomic_onLedger (Ledger.atomic_transferring _ _ _ _)
  | delegate newKey permissions => exact Routine.looks_pure.atomic
  | custom target payload => exact Routine.looks_pure.atomic

theorem outcome_settling (w : World) : (action.settling a source? destination?).outcome w =
    (action.settle w.ledger a source? destination?).map fun ledger => ((), { w with ledger }) := by
  cases action with
  | transfer recipient amount =>
      rw [settling, settle, Routine.outcome_bind, Routine.outcome_refuse]
      split
      next => rfl
      next =>
        rw [ok_bind, Routine.outcome_bind, Routine.outcome_refuse]
        split
        next => rfl
        next =>
          rw [ok_bind, World.outcome_onLedger]
          rfl
  | delegate newKey permissions => rfl
  | custom target payload => rfl

end Action

namespace World

variable {w : World}

def executed (w : World) (authority signer : String) (request : Request)
    (source? destination? : Option String) : Outcome (SessionKey × Action × Ledger) := do
  let a ← w.store.load authority
  let k ← a.authorize w.clock signer
  let action ← k.permissions.require request
  let ledger ← action.settle w.ledger a source? destination?
  .ok (k, action, ledger)

theorem execute_eq (w : World) (authority signer : String) (request : Request)
    (source? destination? : Option String) :
    w.execute authority signer request source? destination? =
      match w.executed authority signer request source? destination? with
      | .error e => (.error e.raised, w)
      | .ok (k, action, ledger) =>
        (.ok k, { w with ledger }.notify authority
          (.actionExecuted signer action.toJson w.clock.time)) := by
  rw [execute, perform_decided (d := w.executed authority signer request source? destination?)
    (f := fun (k, action, ledger) => (k, { w with ledger }.notify authority
      (.actionExecuted signer action.toJson w.clock.time)))]
  · rcases w.executed authority signer request source? destination? with _ | ⟨_, _, _⟩ <;> rfl
  · refine Routine.looks_get.bind_atomic fun _ => Routine.Atomic.bind ?_ fun _ => ?_
    · refine atomic_transact_false (Routine.Atomic.snd ?_)
      refine Routine.looks_get.bind_atomic fun _ => Routine.looks_liftM.bind_atomic fun _ => ?_
      refine Routine.looks_liftM.bind_atomic fun _ => ?_
      exact (atomic_around Action.atomic_settling).bind fun _ => Routine.succeeds_pure
    · exact (succeeds_telling _ _).bind fun _ => Routine.succeeds_pure
  · simp only [Routine.outcome_bind, Routine.outcome_get, outcome_transact_false, ok_bind,
      Routine.outcome_liftM, outcome_around, Action.outcome_settling, outcome_telling,
      Routine.outcome_pure, map_eq_bind, bind_assoc, executed]

/-! ## Tokens -/

def approved (w : World) (authority tokenAccount mint delegate : String) (amount : Int) :
    Outcome (DerivedAddress × Tokens) :=
  if amount < 0 then .error (.token .negativeApproval)
  else do
    let a ← w.store.load authority
    let d ← Delegate.bind w.binder a.address mint delegate
    let holding ← (w.tokens.account tokenAccount).mapError .token
    if holding.owner ≠ authority then .error (.insufficient .tokenAccountNotOwned)
    else if holding.mint ≠ mint then .error (.insufficient .tokenAccountMint)
    else
      a.mints.require mint
      let tokens ← (w.tokens.approve tokenAccount d.address authority amount).mapError .token
      .ok (d, tokens)

theorem approve_eq (w : World) (authority tokenAccount mint delegate : String) (amount : Int) :
    w.approve authority tokenAccount mint delegate amount =
      match w.approved authority tokenAccount mint delegate amount with
      | .error e => (.error e.raised, w)
      | .ok (d, tokens) =>
        (.ok d, { w with tokens }.notify authority
          (.delegateApproved tokenAccount mint d.address amount)) := by
  rw [approve, perform_decided (d := w.approved authority tokenAccount mint delegate amount)
    (f := fun (d, tokens) => (d, { w with tokens }.notify authority
      (.delegateApproved tokenAccount mint d.address amount)))]
  · rcases w.approved authority tokenAccount mint delegate amount with _ | ⟨_, _⟩ <;> rfl
  · refine Routine.looks_refuse.bind_atomic fun _ => Routine.Atomic.bind ?_ fun _ => ?_
    · refine atomic_transact_false (Routine.Atomic.snd ?_)
      refine Routine.looks_get.bind_atomic fun _ => Routine.looks_liftM.bind_atomic fun _ => ?_
      refine Routine.looks_liftM.bind_atomic fun _ => Routine.looks_refuse.bind_atomic fun _ => ?_
      refine Routine.looks_refuse.bind_atomic fun _ => Routine.looks_liftM.bind_atomic fun _ => ?_
      exact (atomic_around (atomic_onTokens (Tokens.atomic_approving _ _ _ _))).bind
        fun _ => Routine.succeeds_pure
    · exact (succeeds_telling _ _).bind fun _ => Routine.succeeds_pure
  · simp only [Routine.outcome_bind, Routine.outcome_get, outcome_transact_false, ok_bind,
      Routine.outcome_liftM, Routine.outcome_refuse, outcome_around, outcome_onTokens,
      outcome_telling, Routine.outcome_pure, map_eq_bind, bind_assoc, ite_bind, approved,
      Tokens.approve]

def delegateRevoked (w : World) (authority tokenAccount : String) : Outcome Tokens := do
  let _ ← w.store.load authority
  (w.tokens.revoke tokenAccount authority).mapError .token

theorem revokeDelegate_eq (w : World) (authority tokenAccount : String) :
    w.revokeDelegate authority tokenAccount =
      match w.delegateRevoked authority tokenAccount with
      | .error e => (.error e.raised, w)
      | .ok tokens =>
          (.ok (), { w with tokens }.notify authority (.delegateRevoked tokenAccount)) := by
  rw [revokeDelegate, perform_decided (d := w.delegateRevoked authority tokenAccount)
    (f := fun tokens => ((), { w with tokens }.notify authority (.delegateRevoked tokenAccount)))]
  · cases w.delegateRevoked authority tokenAccount <;> rfl
  · refine Routine.Atomic.bind ?_ fun _ => succeeds_telling _ _
    refine atomic_transact_false (Routine.Atomic.snd ?_)
    exact atomic_around (atomic_onTokens (Tokens.atomic_revoking _ _))
  · simp only [Routine.outcome_bind, outcome_transact_false, ok_bind, outcome_around,
      outcome_onTokens, outcome_telling, map_eq_bind, bind_assoc, delegateRevoked, Tokens.revoke]

def delegated (w : World) (authority signer source destination mint delegate : String)
    (amount : Int) : Outcome (SessionKey × Tokens) := do
  let a ← w.store.load authority
  let k ← a.authorize w.clock signer
  let action ← Action.transferOf destination amount
  let _ ← k.permissions.require (.action action)
  let d ← Delegate.bind w.binder a.address mint delegate
  a.mints.require mint
  let m ← (w.tokens.mint mint).mapError .token
  let tokens ← (w.tokens.transfer
    { source, mint, destination, authority := d.address, amount, decimals := m.decimals,
      signerSeeds := some d.signerSeeds }).mapError .token
  .ok (k, tokens)

theorem delegatedTransfer_eq (w : World)
    (authority signer source destination mint delegate : String) (amount : Int) :
    w.delegatedTransfer authority signer source destination mint delegate amount =
      match w.delegated authority signer source destination mint delegate amount with
      | .error e => (.error e.raised, w)
      | .ok (k, tokens) =>
        (.ok k, { w with tokens }.notify authority
          (.delegatedTransfer signer source destination mint amount)) := by
  rw [delegatedTransfer, perform_decided
    (d := w.delegated authority signer source destination mint delegate amount)
    (f := fun (k, tokens) => (k, { w with tokens }.notify authority
      (.delegatedTransfer signer source destination mint amount)))]
  · rcases w.delegated authority signer source destination mint delegate amount with _ | ⟨_, _⟩ <;>
      rfl
  · refine Routine.looks_get.bind_atomic fun _ => Routine.Atomic.bind ?_ fun _ => ?_
    · refine atomic_transact_false (Routine.Atomic.snd ?_)
      refine Routine.looks_get.bind_atomic fun _ => Routine.looks_liftM.bind_atomic fun _ => ?_
      refine Routine.looks_liftM.bind_atomic fun _ => Routine.looks_liftM.bind_atomic fun _ => ?_
      refine Routine.looks_liftM.bind_atomic fun _ => Routine.looks_liftM.bind_atomic fun _ => ?_
      refine Routine.looks_liftM.bind_atomic fun _ => ?_
      exact (atomic_around (atomic_onTokens (Tokens.atomic_transferring _))).bind
        fun _ => Routine.succeeds_pure
    · exact (succeeds_telling _ _).bind fun _ => Routine.succeeds_pure
  · simp only [Routine.outcome_bind, Routine.outcome_get, outcome_transact_false, ok_bind,
      Routine.outcome_liftM, outcome_around, outcome_onTokens, outcome_telling,
      Routine.outcome_pure, map_eq_bind, bind_assoc, delegated, Tokens.transfer]

end World

end Keyring
