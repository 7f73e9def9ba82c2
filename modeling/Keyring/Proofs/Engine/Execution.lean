import Keyring.Proofs.Account.Gate
import Keyring.Proofs.Engine.Reachable
import Keyring.Proofs.Ledger
import Keyring.Proofs.Permissions

/-!
# Executing an action

An action is executed just when the account is there, the session key is live and its permissions
allow the action, and, for a transfer, when source and destination are named rightly, the account
may spend for its owner and the owner has the amount. Otherwise the first of these that fails is
reported and nothing changes. A transfer moves the amount and touches no other balance.
-/

namespace Keyring

/-! ## Settling -/

namespace Action

/-- Whether an action can be settled for an account: its parties are named rightly, the account may
spend for its owner, and the owner has the amount. -/
def Covered (l : Ledger) (a : Account) (source? destination? : Option String) : Action → Prop
  | .transfer recipient amount =>
    (source? = none ∨ source? = some a.authority) ∧
      (destination? = none ∨ destination? = some recipient) ∧
      (a.address = a.authority ∨ (a.authority, a.address) ∈ l.authorized) ∧
      (amount : Int) ≤ l.balance a.authority
  | _ => True

/-- By how much an action of the owner `x` raises a balance. -/
def shift (x id : String) : Action → Int
  | .transfer recipient amount =>
    (if id = recipient then (amount : Int) else 0) - if id = x then (amount : Int) else 0
  | _ => 0

def settled (l : Ledger) (x : String) : Action → Ledger
  | .transfer recipient amount => l.moved x recipient amount
  | _ => l

theorem balance_settled (l : Ledger) (x id : String) (action : Action) :
    (action.settled l x).balance id = l.balance id + action.shift x id := by
  cases action with
  | transfer recipient amount =>
      rw [settled, Ledger.balance_moved, shift]
      omega
  | _ => exact (Int.add_zero _).symm

theorem authorized_settled (l : Ledger) (x : String) (action : Action) :
    (action.settled l x).authorized = l.authorized := by
  cases action <;> rfl

theorem settled_of_not_transfer (l : Ledger) (x : String) {action : Action}
    (h : ∀ recipient amount, action ≠ .transfer recipient amount) : action.settled l x = l := by
  cases action with
  | transfer recipient amount => exact absurd rfl (h recipient amount)
  | _ => rfl

theorem getD_eq_iff {o? : Option String} {x : String} :
    o?.getD x = x ↔ o? = none ∨ o? = some x := by
  cases o? <;> simp

theorem settle_transfer (l : Ledger) (a : Account) (source? destination? : Option String)
    (recipient : String) (amount : Nat) :
    settle l a source? destination? (.transfer recipient amount) =
      if source?.getD a.authority = a.authority then
        if destination?.getD recipient = recipient then
          if l.maySpend a.authority a.address then
            if l.balance a.authority < amount then
              .error (.ledger (.insufficientFunds a.authority (l.balance a.authority) amount))
            else .ok (l.moved a.authority recipient amount)
          else .error (.ledger (.unauthorized a.authority a.address))
        else .error (.insufficient .destinationNotRecipient)
      else .error (.insufficient .sourceNotOwner) := by
  rw [settle]
  by_cases hs : source?.getD a.authority = a.authority
  · by_cases hd : destination?.getD recipient = recipient
    · rw [hs, hd, if_neg (fun h => h rfl), if_neg (fun h => h rfl), if_pos rfl, if_pos rfl,
        Ledger.transfer_eq]
      split
      next =>
        split <;> rfl
      next => rfl
    · rw [hs, if_neg (fun h => h rfl), if_pos hd, if_pos rfl, if_neg hd]
  · rw [if_pos hs, if_neg hs]

theorem settle_eq_ok_iff {l l' : Ledger} {a : Account} {source? destination? : Option String}
    {action : Action} : action.settle l a source? destination? = .ok l' ↔
      action.Covered l a source? destination? ∧ l' = action.settled l a.authority := by
  cases action with
  | transfer recipient amount =>
      rw [settle_transfer, Covered, ← getD_eq_iff, ← getD_eq_iff, ← Ledger.maySpend_iff, settled]
      by_cases hs : source?.getD a.authority = a.authority
      · by_cases hd : destination?.getD recipient = recipient
        · by_cases hm : l.maySpend a.authority a.address = true
          · by_cases hb : l.balance a.authority < amount
            · simp [hs, hd, hm, hb, Int.not_le.2 hb]
            · simp [hs, hd, hm, hb, Int.not_lt.1 hb, eq_comm]
          · simp [hs, hd, hm]
        · simp [hs, hd]
      · simp [hs]
  | _ => simp [settle, Covered, settled, eq_comm]

end Action

/-! ## The operation -/

namespace World

/-- Why an action is not executed: the first that fails of all that is asked. -/
inductive Refuses (w : World) (x signer : String) (action : Action)
    (source? destination? : Option String) : Fault → Prop
  | account {f : Fault} (ha : w.store.load x = .error f) :
      Refuses w x signer action source? destination? f
  | missing {a : Account} (ha : w.store.load x = .ok a)
      (hk : ∀ k ∈ a.keys.keys, k.identity ≠ signer) :
      Refuses w x signer action source? destination? (.refusal (.keyNotFound signer))
  | revoked {a : Account} {k : SessionKey} (ha : w.store.load x = .ok a) (hk : k ∈ a.keys.keys)
      (hid : k.identity = signer) (hr : k.isRevoked = true) :
      Refuses w x signer action source? destination? (.refusal (.keyRevoked signer))
  | expired {a : Account} {k : SessionKey} (ha : w.store.load x = .ok a) (hk : k ∈ a.keys.keys)
      (hid : k.identity = signer) (hr : k.isRevoked = false)
      (he : k.expiresAt ≤ w.clock.current k.unit) :
      Refuses w x signer action source? destination? (.refusal (.keyExpired signer))
  | denied {a : Account} {k : SessionKey} {d : Denial} (ha : w.store.load x = .ok a)
      (hk : a.Live w.clock signer k) (hd : k.permissions.denial? action = some d) :
      Refuses w x signer action source? destination? (.insufficient (.denied d))
  | source {a : Account} {k : SessionKey} {recipient : String} {amount : Nat}
      (ha : w.store.load x = .ok a) (hk : a.Live w.clock signer k)
      (hp : k.permissions.Allows action) (hact : action = .transfer recipient amount)
      (hs : source?.getD x ≠ x) :
      Refuses w x signer action source? destination? (.insufficient .sourceNotOwner)
  | destination {a : Account} {k : SessionKey} {recipient : String} {amount : Nat}
      (ha : w.store.load x = .ok a) (hk : a.Live w.clock signer k)
      (hp : k.permissions.Allows action) (hact : action = .transfer recipient amount)
      (hs : source?.getD x = x) (hd : destination?.getD recipient ≠ recipient) :
      Refuses w x signer action source? destination? (.insufficient .destinationNotRecipient)
  | spender {a : Account} {k : SessionKey} {recipient : String} {amount : Nat}
      (ha : w.store.load x = .ok a) (hk : a.Live w.clock signer k)
      (hp : k.permissions.Allows action) (hact : action = .transfer recipient amount)
      (hs : source?.getD x = x) (hd : destination?.getD recipient = recipient)
      (hm : w.ledger.maySpend x a.address = false) :
      Refuses w x signer action source? destination? (.ledger (.unauthorized x a.address))
  | funds {a : Account} {k : SessionKey} {recipient : String} {amount : Nat}
      (ha : w.store.load x = .ok a) (hk : a.Live w.clock signer k)
      (hp : k.permissions.Allows action) (hact : action = .transfer recipient amount)
      (hs : source?.getD x = x) (hd : destination?.getD recipient = recipient)
      (hm : w.ledger.maySpend x a.address = true) (hb : w.ledger.balance x < amount) :
      Refuses w x signer action source? destination?
        (.ledger (.insufficientFunds x (w.ledger.balance x) amount))

variable {w : World} {program x signer : String} {action : Action}
  {source? destination? : Option String} {a : Account}

theorem executed_of_load (ha : w.store.load x = .ok a) :
    w.executed x signer (.action action) source? destination? = (do
      let k ← a.authorize w.clock signer
      let action ← k.permissions.require (.action action)
      let ledger ← action.settle w.ledger a source? destination?
      .ok (k, action, ledger)) := by
  rw [executed, ha]
  rfl

theorem executed_eq_ok_iff (ha : w.store.load x = .ok a)
    (hnd : (a.keys.keys.map SessionKey.identity).Nodup) {k : SessionKey} {action' : Action}
    {ledger : Ledger} :
    w.executed x signer (.action action) source? destination? = .ok (k, action', ledger) ↔
      a.Live w.clock signer k ∧ k.permissions.Allows action ∧
        action.Covered w.ledger a source? destination? ∧
        action' = action ∧ ledger = action.settled w.ledger a.authority := by
  rw [executed_of_load ha]
  constructor
  · intro h
    obtain ⟨k', hk, h⟩ := Outcome.bind_eq_ok.1 h
    obtain ⟨action'', hp, h⟩ := Outcome.bind_eq_ok.1 h
    obtain ⟨ledger', hl, h⟩ := Outcome.bind_eq_ok.1 h
    obtain ⟨rfl, rfl, rfl⟩ : k' = k ∧ action'' = action' ∧ ledger' = ledger := by
      simpa using h
    rw [Permissions.require_action] at hp
    cases hd : k'.permissions.denial? action with
    | some d =>
        rw [hd] at hp
        cases hp
    | none =>
        rw [hd] at hp
        obtain rfl := Except.ok.inj hp
        obtain ⟨hcovered, hledger⟩ := Action.settle_eq_ok_iff.1 hl
        exact ⟨(Account.authorize_eq_ok_iff hnd).1 hk, Permissions.denial?_eq_none_iff.1 hd,
          hcovered, rfl, hledger⟩
  · rintro ⟨hlive, hp, hcovered, rfl, rfl⟩
    rw [(Account.authorize_eq_ok_iff hnd).2 hlive, Outcome.ok_bind, Permissions.require_action,
      Permissions.denial?_eq_none_iff.2 hp]
    simp only [Outcome.ok_bind, Action.settle_eq_ok_iff.2 ⟨hcovered, rfl⟩]

theorem refuses_of_settle {k : SessionKey} {f : Fault} (ha : w.store.load x = .ok a)
    (hauthority : a.authority = x) (hlive : a.Live w.clock signer k)
    (hp : k.permissions.Allows action)
    (h : action.settle w.ledger a source? destination? = .error f) :
    w.Refuses x signer action source? destination? f := by
  cases action with
  | transfer recipient amount =>
      rw [Action.settle_transfer, hauthority] at h
      by_cases hs : source?.getD x = x
      · rw [if_pos hs] at h
        by_cases hd : destination?.getD recipient = recipient
        · rw [if_pos hd] at h
          cases hm : w.ledger.maySpend x a.address with
          | false =>
              rw [hm, if_neg Bool.false_ne_true] at h
              obtain rfl := Except.error.inj h
              exact .spender ha hlive hp rfl hs hd hm
          | true =>
              rw [hm, if_pos rfl] at h
              by_cases hb : w.ledger.balance x < amount
              · rw [if_pos hb] at h
                obtain rfl := Except.error.inj h
                exact .funds ha hlive hp rfl hs hd hm hb
              · rw [if_neg hb] at h
                cases h
        · rw [if_neg hd] at h
          obtain rfl := Except.error.inj h
          exact .destination ha hlive hp rfl hs hd
      · rw [if_neg hs] at h
        obtain rfl := Except.error.inj h
        exact .source ha hlive hp rfl hs
  | _ => cases h

theorem refuses_of_executed {f : Fault} (ha : w.store.load x = .ok a) (hauthority : a.authority = x)
    (hnd : (a.keys.keys.map SessionKey.identity).Nodup)
    (h : w.executed x signer (.action action) source? destination? = .error f) :
    w.Refuses x signer action source? destination? f := by
  rw [executed_of_load ha] at h
  rcases a.authorize_cases hnd w.clock signer with
    ⟨hk, hgate⟩ | ⟨k, hk, hid, hr, hgate⟩ | ⟨k, hk, hid, hr, he, hgate⟩ | ⟨k, hlive, hgate⟩
  · rw [hgate, Outcome.error_bind] at h
    exact Except.error.inj h ▸ .missing ha hk
  · rw [hgate, Outcome.error_bind] at h
    exact Except.error.inj h ▸ .revoked ha hk hid hr
  · rw [hgate, Outcome.error_bind] at h
    exact Except.error.inj h ▸ .expired ha hk hid hr he
  · rw [hgate, Outcome.ok_bind, Permissions.require_action] at h
    cases hd : k.permissions.denial? action with
    | some d =>
        rw [hd, Outcome.error_bind] at h
        exact Except.error.inj h ▸ .denied ha hlive hd
    | none =>
        have hp := Permissions.denial?_eq_none_iff.1 hd
        simp only [hd, Outcome.ok_bind] at h
        cases hl : action.settle w.ledger a source? destination? with
        | error g =>
            rw [hl, Outcome.error_bind] at h
            exact Except.error.inj h ▸ refuses_of_settle ha hauthority hlive hp hl
        | ok ledger =>
            rw [hl] at h
            cases h

theorem execute_of_error {f : Fault}
    (he : w.executed x signer (.action action) source? destination? = .error f) :
    w.execute x signer (.action action) source? destination? = (.error f.raised, w) := by
  simp only [execute_eq, he]

theorem execute_of_ok {k : SessionKey} {action' : Action} {ledger : Ledger}
    (he : w.executed x signer (.action action) source? destination? = .ok (k, action', ledger)) :
    w.execute x signer (.action action) source? destination? =
      (.ok k, { w with ledger }.notify x
        (.actionExecuted signer action'.toJson w.clock.time)) := by
  simp only [execute_eq, he]

/-- On a reachable store an action is refused, or all that is asked of it is met. -/
theorem executed_cases (h : w.store.Reachable program) (x signer : String) (action : Action)
    (source? destination? : Option String) :
    (∃ f, w.executed x signer (.action action) source? destination? = .error f ∧
      w.Refuses x signer action source? destination? f) ∨
    ∃ a k, w.store.load x = .ok a ∧ a.Live w.clock signer k ∧ k.permissions.Allows action ∧
      action.Covered w.ledger a source? destination? ∧
      w.executed x signer (.action action) source? destination? =
        .ok (k, action, action.settled w.ledger x) := by
  cases ha : w.store.load x with
  | error f =>
      refine .inl ⟨f, ?_, .account ha⟩
      rw [executed, ha, Outcome.error_bind]
  | ok a =>
      have hauthority := (h.sound ha).authority
      have hnd := (h.sound ha).wellFormed.keys.nodup
      cases he : w.executed x signer (.action action) source? destination? with
      | error f => exact .inl ⟨f, rfl, refuses_of_executed ha hauthority hnd he⟩
      | ok p =>
          obtain ⟨k, action', ledger⟩ := p
          obtain ⟨hlive, hp, hcovered, rfl, rfl⟩ := (executed_eq_ok_iff ha hnd).1 he
          exact .inr ⟨a, k, rfl, hlive, hp, hcovered, by rw [hauthority]⟩

/-- Executing an action on a reachable store, whatever the ledger holds and the clock reads. It
succeeds just when all that is asked is met. Then the ledger is changed by the transfer alone, one
event is told, and nothing else is different. Otherwise the fault of the first that fails is raised,
and nothing is different at all.
-/
theorem execute_exactly (h : w.store.Reachable program) (x signer : String) (action : Action)
    (source? destination? : Option String) :
    let r := w.execute x signer (.action action) source? destination?
    ((∃ k, r.1 = .ok k) ↔ ∃ a k, w.store.load x = .ok a ∧ a.authority = x ∧
        a.Live w.clock signer k ∧ k.permissions.Allows action ∧
        action.Covered w.ledger a source? destination?) ∧
      (∀ k, r.1 = .ok k → (∃ a, w.store.load x = .ok a ∧ a.Live w.clock signer k) ∧ ∃ ledger,
        r.2 = { w with
          ledger
          sink := w.sink.notify ⟨x, .actionExecuted signer action.toJson w.clock.time⟩ } ∧
        ledger.authorized = w.ledger.authorized ∧
        (∀ id, ledger.balance id = w.ledger.balance id + action.shift x id) ∧
        ((∀ recipient amount, action ≠ .transfer recipient amount) → ledger = w.ledger)) ∧
      ∀ f, r.1 = .error f →
        r.2 = w ∧ ∃ g, f = g.raised ∧ w.Refuses x signer action source? destination? g := by
  intro r
  rcases executed_cases h x signer action source? destination? with
    ⟨f, he, hrefuses⟩ | ⟨a, k, ha, hlive, hp, hcovered, he⟩
  · have hr : r = (.error f.raised, w) := execute_of_error he
    rw [hr]
    refine ⟨⟨?_, ?_⟩, nofun, ?_⟩
    · rintro ⟨k, hk⟩
      cases hk
    · rintro ⟨a, k, ha, -, hlive, hp, hcovered⟩
      have hok := (executed_eq_ok_iff ha (h.sound ha).wellFormed.keys.nodup).2
        ⟨hlive, hp, hcovered, rfl, rfl⟩
      rw [hok] at he
      cases he
    · intro g hg
      exact ⟨rfl, f, (Except.error.inj hg).symm, hrefuses⟩
  · have hr : r = (.ok k, { w with ledger := action.settled w.ledger x }.notify x
        (.actionExecuted signer action.toJson w.clock.time)) := execute_of_ok he
    rw [hr]
    refine ⟨⟨fun _ => ⟨a, k, ha, (h.sound ha).authority, hlive, hp, hcovered⟩,
      fun _ => ⟨k, rfl⟩⟩, ?_, nofun⟩
    intro k' hk'
    obtain rfl := Except.ok.inj hk'
    exact ⟨⟨a, ha, hlive⟩, _, rfl, Action.authorized_settled _ _ _,
      fun id => Action.balance_settled w.ledger x id action, Action.settled_of_not_transfer _ _⟩

/-- A transfer of five by a key without a cap, on an account that may spend for its owner. -/
theorem execute_exactly_transfer : ∃ w : World, w.store.Reachable "1" ∧
    (∃ k, (w.execute "1" "2" (.action (.transfer "3" 5)) none none).1 = .ok k) ∧
    (w.execute "1" "2" (.action (.transfer "3" 5)) none none).2.ledger.balance "3" = 5 := by
  obtain ⟨a, k, hreach, hsound, hlive, htransfer, hcap⟩ := Store.Reachable.exists_live
  let w : World := { World.empty "1" with
    store := .memory [("1", a)]
    ledger := ⟨[("1", 5)], [("1", a.address)]⟩ }
  have hload : w.store.load "1" = .ok a := Account.ofJson_toJson hsound.wellFormed
  have hcovered : (Action.transfer "3" 5).Covered w.ledger a none none := by
    rw [Action.Covered, hsound.authority]
    exact ⟨.inl rfl, .inl rfl, .inr (List.mem_singleton_self _), Int.le_refl 5⟩
  obtain ⟨hiff, heffect, -⟩ := execute_exactly (w := w) hreach "1" "2" (.transfer "3" 5) none none
  obtain ⟨k', hk'⟩ :=
    hiff.2 ⟨a, k, hload, hsound.authority, hlive, ⟨htransfer, .inl hcap⟩, hcovered⟩
  obtain ⟨-, ledger, hw, -, hbalance, -⟩ := heffect k' hk'
  refine ⟨w, hreach, ⟨k', hk'⟩, ?_⟩
  rw [hw]
  exact (hbalance "3").trans rfl

end World

end Keyring
