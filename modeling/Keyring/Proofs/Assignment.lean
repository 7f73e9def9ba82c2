import Keyring.Account
import Keyring.Proofs.Outcome

/-!
# What assignments can change

Who holds a key or an account may assign to each of its attributes. What is fixed when the one or
the other is made is not assigned a second time, and a revoked key is not made active again: an
attempt fails and changes nothing. So what is fixed stays along every sequence of assignments,
revocations and comparisons, and whether a key is revoked is whether one of them has revoked it.

A comparison looks past the state. What else a step makes of a key does not depend on the state
either, so two keys that differ in nothing else are never told apart, whatever is done to both.
-/

namespace Keyring

inductive KeyStep where
  | assign (v : SessionKey.Assignment)
  | revoke
  | compare (l : SessionKey)

/-- Whether a step revokes keys: it does so by name, or assigns the state. -/
def KeyStep.revokes : KeyStep → Bool
  | .revoke => true
  | .assign (.state v) => v == .revoked
  | _ => false

theorem KeyStep.revokes_iff {s : KeyStep} :
    s.revokes = true ↔ s = .revoke ∨ s = .assign (.state .revoked) := by
  cases s with
  | assign v => cases v <;> simp [revokes]
  | revoke => simp [revokes]
  | compare l => simp [revokes]

inductive KeyAnswer where
  | done
  | equal (b : Bool)
deriving DecidableEq

namespace SessionKey

def step (k : SessionKey) : KeyStep → Except Frozen KeyAnswer × SessionKey
  | .assign v =>
    match k.assign v with
    | .error e => (.error e, k)
    | .ok k => (.ok .done, k)
  | .revoke => (.ok .done, k.revoke)
  | .compare l => (.ok (.equal (k.same l)), k)

def run (k : SessionKey) (steps : List KeyStep) : SessionKey :=
  steps.foldl (fun k s => (k.step s).2) k

def fixed (k : SessionKey) : String × Int × ExpiryUnit := (k.identity, k.createdAt, k.unit)

def unrevoked (k : SessionKey) : SessionKey := { k with state := .active }

variable {k k' l : SessionKey} {v : Assignment}

/-! ## One step -/

/-- A revoked key takes no other state than the one that it has. -/
theorem assign_state_eq_ok_iff {v : KeyState} : k.assign (.state v) = .ok k' ↔
    (k.isRevoked = true → v = .revoked) ∧ k' = { k with state := v } := by
  rw [assign]
  split
  next hrefused =>
    rw [Bool.and_eq_true, bne_iff_ne] at hrefused
    exact ⟨nofun, fun h => (hrefused.2 (h.1 hrefused.1)).elim⟩
  next hallowed =>
    rw [Bool.and_eq_true, bne_iff_ne, not_and, Decidable.not_not] at hallowed
    exact ⟨fun h => ⟨hallowed, (Except.ok.inj h).symm⟩, fun h => h.2 ▸ rfl⟩

theorem fixed_of_assign (h : k.assign v = .ok k') : k'.fixed = k.fixed := by
  cases v with
  | identity v => cases h
  | createdAt v => cases h
  | unit v => cases h
  | derived name => cases h
  | state v => exact (assign_state_eq_ok_iff.1 h).2 ▸ rfl
  | _ => exact (Except.ok.inj h) ▸ rfl

theorem isRevoked_of_assign (h : k.assign v = .ok k') :
    k'.isRevoked = (k.isRevoked || (KeyStep.assign v).revokes) := by
  cases v with
  | identity v => cases h
  | createdAt v => cases h
  | unit v => cases h
  | derived name => cases h
  | state v =>
      obtain ⟨hallowed, rfl⟩ := assign_state_eq_ok_iff.1 h
      cases hk : k.isRevoked with
      | false => rfl
      | true =>
          obtain rfl := hallowed hk
          rfl
  | _ => exact (Except.ok.inj h) ▸ (Bool.or_false _).symm

theorem revokes_of_assign_error {e : Frozen} (h : k.assign v = .error e) :
    (KeyStep.assign v).revokes = false := by
  cases v with
  | state v =>
      cases v with
      | active => rfl
      | revoked =>
          -- Every key can be told to be revoked, also one that is.
          rw [assign_state_eq_ok_iff.2 ⟨fun _ => rfl, rfl⟩] at h
          cases h
  | _ => rfl

theorem step_of_error {s : KeyStep} {e : Frozen} (h : (k.step s).1 = .error e) :
    (k.step s).2 = k := by
  cases s with
  | assign v =>
      rw [step] at h ⊢
      cases hv : k.assign v with
      | error e => rfl
      | ok k' => rw [hv] at h; cases h
  | revoke => cases h
  | compare l => rfl

theorem fixed_step (k : SessionKey) (s : KeyStep) : (k.step s).2.fixed = k.fixed := by
  cases s with
  | assign v =>
      rw [step]
      cases hv : k.assign v with
      | error e => rfl
      | ok k' => exact fixed_of_assign hv
  | revoke => rfl
  | compare l => rfl

theorem isRevoked_step (k : SessionKey) (s : KeyStep) :
    (k.step s).2.isRevoked = (k.isRevoked || s.revokes) := by
  cases s with
  | assign v =>
      rw [step]
      cases hv : k.assign v with
      | error e => rw [revokes_of_assign_error hv, Bool.or_false]
      | ok k' => exact isRevoked_of_assign hv
  | revoke => exact (Bool.or_true _).symm
  | compare l => exact (Bool.or_false _).symm

/-- Whether a state is accepted or refused, nothing else changes. -/
theorem unrevoked_step_state (k : SessionKey) (v : KeyState) :
    (k.step (.assign (.state v))).2.unrevoked = k.unrevoked := by
  rw [step]
  cases hv : k.assign (.state v) with
  | error e => rfl
  | ok k' => exact (assign_state_eq_ok_iff.1 hv).2 ▸ rfl

/-- What a step makes of a key, its state apart, does not depend on the state. -/
theorem unrevoked_step (k : SessionKey) (s : KeyStep) :
    (k.step s).2.unrevoked = (k.unrevoked.step s).2.unrevoked := by
  cases s with
  | assign v =>
      cases v with
      | state v => exact (unrevoked_step_state k v).trans (unrevoked_step_state k.unrevoked v).symm
      | _ => rfl
  | revoke => rfl
  | compare l => rfl

/-! ## Comparison -/

theorem same_iff : k.same l = true ↔ k.unrevoked = l.unrevoked := by
  obtain ⟨i, c, x, u, p, b, s⟩ := k
  obtain ⟨i', c', x', u', p', b', s'⟩ := l
  simp [same, unrevoked]

theorem same_iff_fields : k.same l = true ↔ k.identity = l.identity ∧ k.createdAt = l.createdAt ∧
    k.expiresAt = l.expiresAt ∧ k.unit = l.unit ∧ k.permissions = l.permissions ∧
    k.label = l.label := by
  obtain ⟨i, c, x, u, p, b, s⟩ := k
  obtain ⟨i', c', x', u', p', b', s'⟩ := l
  simp [same]

/-- A comparison answers alike for keys that differ in their states only. -/
theorem same_congr {k' l' : SessionKey} (hk : k.unrevoked = k'.unrevoked)
    (hl : l.unrevoked = l'.unrevoked) : k.same l = k'.same l' := by
  rw [Bool.eq_iff_iff, same_iff, same_iff, hk, hl]

/-! ## Sequences of steps -/

theorem run_append (k : SessionKey) (steps later : List KeyStep) :
    k.run (steps ++ later) = (k.run steps).run later :=
  List.foldl_append

theorem fixed_run (k : SessionKey) (steps : List KeyStep) : (k.run steps).fixed = k.fixed := by
  induction steps generalizing k with
  | nil => rfl
  | cons s steps ih => exact (ih (k.step s).2).trans (fixed_step k s)

theorem isRevoked_run (k : SessionKey) (steps : List KeyStep) :
    (k.run steps).isRevoked = (k.isRevoked || steps.any KeyStep.revokes) := by
  induction steps generalizing k with
  | nil => exact (Bool.or_false _).symm
  | cons s steps ih =>
      calc ((k.step s).2.run steps).isRevoked
          = ((k.step s).2.isRevoked || steps.any KeyStep.revokes) := ih (k.step s).2
        _ = (k.isRevoked || s.revokes || steps.any KeyStep.revokes) := by rw [isRevoked_step]
        _ = (k.isRevoked || (s :: steps).any KeyStep.revokes) := by
            rw [List.any_cons, Bool.or_assoc]

theorem unrevoked_run {k k' : SessionKey} (h : k.unrevoked = k'.unrevoked)
    (steps : List KeyStep) : (k.run steps).unrevoked = (k'.run steps).unrevoked := by
  induction steps generalizing k k' with
  | nil => exact h
  | cons s steps ih =>
      refine ih ?_
      rw [unrevoked_step, h, ← unrevoked_step]

end SessionKey

namespace Account

def run (a : Account) (vs : List Assignment) : Account :=
  vs.foldl (fun a v => Outcome.stateAfter a (a.assign v)) a

def fixed (a : Account) : String × String × Int := (a.authority, a.address, a.bump)

theorem fixed_of_assign {a a' : Account} {v : Assignment} (h : a.assign v = .ok a') :
    a'.fixed = a.fixed := by
  cases v with
  | authority v => cases h
  | address v => cases h
  | bump v => cases h
  | _ => exact (Except.ok.inj h) ▸ rfl

theorem fixed_run (a : Account) (vs : List Assignment) : (a.run vs).fixed = a.fixed := by
  induction vs generalizing a with
  | nil => rfl
  | cons v vs ih =>
      refine (ih (Outcome.stateAfter a (a.assign v))).trans ?_
      cases hv : a.assign v with
      | error e => rfl
      | ok a' => exact fixed_of_assign hv

end Account

/-! ## Keys and accounts -/

/-- Whatever is assigned to a key from the time that it is made, in whatever order with revocations
and comparisons, its identity, the time of its issue and the unit of its threshold are those that it
was made with. It is revoked just when a step has revoked it, and stays so. A step that fails leaves
the key as it was. Comparisons are of all the fields but the state, and are answered the same after
the same steps whatever the states were. An account keeps its authority, address and bump. -/
theorem fixed_once_made {identity : String} {createdAt expiresAt : Int} {unit : ExpiryUnit}
    {permissions : Permissions} {label : Bytes} {k : SessionKey}
    (h : SessionKey.make identity createdAt expiresAt unit permissions label = .ok k)
    (steps : List KeyStep) (a : Account) (vs : List Account.Assignment) :
    ((k.run steps).identity = identity ∧ (k.run steps).createdAt = createdAt ∧
      (k.run steps).unit = unit) ∧
    ((k.run steps).isRevoked = true ↔
      ∃ s ∈ steps, s = .revoke ∨ s = .assign (.state .revoked)) ∧
    (∀ later, (k.run steps).isRevoked = true → (k.run (steps ++ later)).isRevoked = true) ∧
    (∀ s, (k.run steps).isRevoked = false → (k.run (steps ++ [s])).isRevoked = true →
      s = .revoke ∨ s = .assign (.state .revoked)) ∧
    (∀ s e, ((k.run steps).step s).1 = .error e → k.run (steps ++ [s]) = k.run steps) ∧
    (∀ l, ((k.run steps).step (.compare l)).1 = .ok (.equal ((k.run steps).same l)) ∧
      ((k.run steps).same l = true ↔
        (k.run steps).identity = l.identity ∧ (k.run steps).createdAt = l.createdAt ∧
        (k.run steps).expiresAt = l.expiresAt ∧ (k.run steps).unit = l.unit ∧
        (k.run steps).permissions = l.permissions ∧ (k.run steps).label = l.label) ∧
      ∀ s t, ({ k with state := s }.run steps).same { l with state := t } =
        (k.run steps).same l) ∧
    ((a.run vs).authority = a.authority ∧ (a.run vs).address = a.address ∧
      (a.run vs).bump = a.bump) ∧
    ∀ v e, (a.run vs).assign v = .error e → a.run (vs ++ [v]) = a.run vs := by
  obtain ⟨hfixed, hfresh⟩ : k.fixed = (identity, createdAt, unit) ∧ k.isRevoked = false := by
    rw [SessionKey.make] at h
    split at h
    next => exact (Except.ok.inj h) ▸ ⟨rfl, rfl⟩
    next => cases h
  have hkey := (SessionKey.fixed_run k steps).trans hfixed
  have haccount := Account.fixed_run a vs
  simp only [SessionKey.fixed, Account.fixed, Prod.mk.injEq] at hkey haccount
  refine ⟨hkey, ?_, fun later hl => ?_, fun s hbefore hafter => ?_, fun s e hs => ?_, fun l => ?_,
    haccount, fun v e hv => ?_⟩
  · rw [SessionKey.isRevoked_run, hfresh, Bool.false_or, List.any_eq_true]
    simp only [KeyStep.revokes_iff]
  · rw [SessionKey.run_append, SessionKey.isRevoked_run, hl, Bool.true_or]
  · rw [SessionKey.run_append, SessionKey.isRevoked_run, hbefore, Bool.false_or] at hafter
    exact KeyStep.revokes_iff.1 (by simpa using hafter)
  · rw [SessionKey.run_append]
    exact SessionKey.step_of_error hs
  · refine ⟨rfl, SessionKey.same_iff_fields, fun s t => SessionKey.same_congr ?_ rfl⟩
    have hstate : { k with state := s }.unrevoked = k.unrevoked := rfl
    exact SessionKey.unrevoked_run hstate steps
  · rw [Account.run, List.foldl_append]
    exact congrArg (Outcome.stateAfter (a.run vs)) hv

/-- A key that is revoked is not made active again, and is still equal to the key that was made. -/
theorem fixed_once_made_revoked :
    let k : SessionKey := ⟨"1", 0, 10, .time, {}, Label.blank, .active⟩
    let steps : List KeyStep := [.assign (.createdAt 1), .revoke, .assign (.state .active)]
    SessionKey.make "1" 0 10 .time {} Label.blank = .ok k ∧ (k.run steps).createdAt = 0 ∧
      (k.run (steps ++ [.assign (.state .active)])).isRevoked = true ∧
      k.run (steps ++ [.assign (.unit .blockHeight)]) = k.run steps ∧
      (k.run steps).same k = true := by
  intro k steps
  have hmake : SessionKey.make "1" 0 10 .time {} Label.blank = .ok k := rfl
  let a : Account := ⟨"owner", "address", 255, Registry.empty 10, Allowlist.empty⟩
  obtain ⟨⟨-, hcreated, -⟩, hrevoked, hstays, -, hfailed, hsame, -⟩ :=
    fixed_once_made hmake steps a []
  refine ⟨hmake, hcreated, hstays _ (hrevoked.2 ⟨.revoke, ?_, .inl rfl⟩), hfailed _ _ rfl,
    (hsame k).2.1.2 ⟨rfl, rfl, rfl, rfl, rfl, rfl⟩⟩
  exact List.mem_cons_of_mem _ List.mem_cons_self

end Keyring
