import Keyring.Engine.Run
import Keyring.Proofs.Account.Outcomes
import Keyring.Proofs.Store.Saving

/-!
# How an operation is carried out

An operation that only looks, until it makes its changes and tells of them, is carried out as its
outcome says, and leaves the world as it was if it fails. A change of an account works on an
account of its own, so that nothing is seen of it before it is saved; a save that fails leaves at
most a draft.
-/

namespace Keyring

def Sink.collected (es : List Event) : Sink := .memory (fun _ => false) es

theorem Fault.raised_eq_self {f : Fault}
    (h : ∀ n ∈ f.integers, Text.Integer.isTooLong n = false) : f.raised = f := by
  refine if_neg fun hlong => ?_
  obtain ⟨n, hn, hlong⟩ := List.any_eq_true.1 hlong
  rw [h n hn] at hlong
  cases hlong

theorem Fault.raised_cases (f : Fault) : f.raised = f ∨ f.raised = .unwritable := by
  rw [raised]
  split
  next => exact .inr rfl
  next => exact .inl rfl

theorem Fault.raised_of_isTooLong {f : Fault} {n : Int} (hn : n ∈ f.integers)
    (h : Text.Integer.isTooLong n = true) : f.raised = .unwritable :=
  if_pos (List.any_eq_true.2 ⟨n, hn, h⟩)

namespace World

variable {α : Type} {w w' : World} {x : String}

theorem perform_on (w : World) (p : Doing α) :
    w.perform p = ((p.on w).1.mapError Fault.raised, (p.on w).2) := rfl

theorem perform_eq {p : Doing α} (h : p.Atomic) (w : World) : w.perform p =
    match p.outcome w with
    | .ok (y, w') => (.ok y, w')
    | .error e => (.error e.raised, w) := by
  rw [perform_on, h.on_eq]
  rcases p.outcome w with _ | ⟨_, _⟩ <;> rfl

/-- What becomes of a world by an operation that decides all before it does anything. -/
theorem perform_decided {δ : Type} {p : Doing α} {d : Outcome δ} {f : δ → α × World}
    (h : p.Atomic) :
    (p.outcome w = d >>= fun y => .ok (f y)) → w.perform p =
      match d with
      | .error e => (.error e.raised, w)
      | .ok y => (.ok (f y).1, (f y).2) := by
  intro hd
  rw [perform_eq h, hd]
  cases d <;> rfl

theorem perform_get (w : World) (p : World → Doing α) :
    w.perform (get >>= p) = w.perform (p w) := rfl

theorem perform_liftM {β : Type} (r : Outcome β) (p : β → Doing α) (w : World) :
    w.perform (liftM r >>= p) =
      match r with
      | .error e => (.error e.raised, w)
      | .ok y => w.perform (p y) := by
  cases r <;> rfl

/-! ## Transactions that write nothing -/

theorem succeeds_telling (x : String) (n : Notice) : (telling x n).Succeeds :=
  Routine.succeeds_modify

@[simp] theorem outcome_telling (x : String) (n : Notice) (w : World) :
    (telling x n).outcome w = .ok ((), w.notify x n) := rfl

theorem outcome_onLedger (p : Routine LedgerError Ledger Unit) (w : World) :
    (onLedger p).outcome w =
      ((p.left w.ledger).mapError .ledger).map fun ledger => ((), { w with ledger }) := by
  rw [onLedger, Routine.outcome_within, Routine.left]
  rcases p.outcome w.ledger with _ | ⟨_, _⟩ <;> rfl

theorem outcome_onTokens (p : Routine TokenError Tokens Unit) (w : World) :
    (onTokens p).outcome w =
      ((p.left w.tokens).mapError .token).map fun tokens => ((), { w with tokens }) := by
  rw [onTokens, Routine.outcome_within, Routine.left]
  rcases p.outcome w.tokens with _ | ⟨_, _⟩ <;> rfl

theorem outcome_around (p : Doing α) (a : Account) (w : World) :
    (around p).outcome (a, w) = (p.outcome w).map fun r => (r.1, a, r.2) := by
  rw [around, Routine.outcome_within]
  cases p.outcome w <;> rfl

theorem atomic_onLedger {p : Routine LedgerError Ledger α} (h : p.Atomic) : (onLedger p).Atomic :=
  h.within _ fun _ => rfl

theorem atomic_onTokens {p : Routine TokenError Tokens α} (h : p.Atomic) : (onTokens p).Atomic :=
  h.within _ fun _ => rfl

theorem atomic_around {p : Doing α} (h : p.Atomic) : (around p).Atomic := h.within _ fun _ => rfl

theorem transact_on (x : String) (write : Bool) (body : Routine Fault (Account × World) α)
    (w : World) : (transact x write body).on w =
      match w.store.load x with
      | .error e => (.error e, w)
      | .ok a =>
        match body.on (a, w) with
        | (.error e, _, w') => (.error e, { w' with store := w.store })
        | (.ok y, b, w') =>
          if write then
            match (Store.saving b).on w.store with
            | (.error e, s) => (.error e, { w' with store := s })
            | (.ok (), s) => (.ok y, { w' with store := s })
          else (.ok y, { w' with store := w.store }) := by
  have hon : (transact x write body).on w =
      (((Store.transacting x write body).on (w.store, w)).1,
        { ((Store.transacting x write body).on (w.store, w)).2.2 with
          store := ((Store.transacting x write body).on (w.store, w)).2.1 }) := rfl
  rw [hon, Store.transacting_on]
  cases w.store.load x with
  | error e => rfl
  | ok a =>
      rcases body.on_cases (a, w) with ⟨y, ⟨b, w'⟩, hp⟩ | ⟨e, ⟨b, w'⟩, hp⟩ <;> simp only [hp]
      cases write with
      | false => rfl
      | true =>
          rcases (Store.saving b).on_cases w.store with ⟨⟨⟩, s, hs⟩ | ⟨e, s, hs⟩ <;>
            simp only [hs, if_true]

theorem outcome_transact_false (x : String) (body : Routine Fault (Account × World) α)
    (w : World) : (transact x false body).outcome w =
      w.store.load x >>= fun a => (body.outcome (a, w)).map fun r =>
        (r.1, { r.2.2 with store := w.store }) := by
  rw [Routine.outcome, transact_on]
  cases w.store.load x with
  | error e => rfl
  | ok a =>
      rw [Outcome.ok_bind, Routine.outcome]
      rcases body.on_cases (a, w) with ⟨y, ⟨b, w'⟩, hp⟩ | ⟨e, ⟨b, w'⟩, hp⟩ <;> simp only [hp] <;>
        rfl

/-- What a body does to its account is dropped with it, so that only the rest has to be
left alone. -/
theorem atomic_transact_false {body : Routine Fault (Account × World) α}
    (h : ∀ s e, (body.on s).1 = .error e → (body.on s).2.2 = s.2) :
    (transact x false body).Atomic := by
  intro w e he
  rw [transact_on] at he ⊢
  cases hload : w.store.load x with
  | error e' => rfl
  | ok a =>
      have hbody := h (a, w)
      rw [hload] at he
      rcases body.on_cases (a, w) with ⟨y, ⟨b, w'⟩, hp⟩ | ⟨e', ⟨b, w'⟩, hp⟩ <;>
        simp only [hp] at he hbody ⊢
      · cases he
      · rw [hbody e' rfl]

/-! ## Changes of an account -/

def Drafts (w w' : World) : Prop := ∃ s, w.store.Drafts s ∧ w' = { w with store := s }

theorem drafts_refl (w : World) : w.Drafts w := ⟨w.store, .nothing, rfl⟩

theorem Drafts.eq_of_isFlat (h : w.Drafts w') (hw : w.store.IsFlat) : w' = w := by
  obtain ⟨s, hs, rfl⟩ := h
  rw [hs.eq_of_isFlat hw]

def saved (w : World) (x : String) (s : Store) (n? : Option Notice) : World :=
  { w with store := s, sink := (n?.map fun n => w.sink.notify ⟨x, n⟩).getD w.sink }

/-- What it comes to that an account is changed: what `f` makes of the account is saved, and then
told. -/
def changed (w : World) (x : String) (f : Account → Outcome (α × Account))
    (notice? : α → Option Notice) : Outcome α × World :=
  match w.store.load x with
  | .error e => (.error e.raised, w)
  | .ok a =>
    match f a with
    | .error e => (.error e.raised, w)
    | .ok (y, b) =>
      match (Store.saving b).on w.store with
      | (.error e, s) => (.error e.raised, { w with store := s })
      | (.ok (), s) => (.ok y, w.saved x s (notice? y))

theorem transact_onAccount (x : String) (body : Routine Fault Account α) (w : World) :
    (transact x true (onAccount body)).on w =
      match w.store.load x with
      | .error e => (.error e, w)
      | .ok a =>
        match body.outcome a with
        | .error e => (.error e, w)
        | .ok (y, b) =>
          match (Store.saving b).on w.store with
          | (.error e, s) => (.error e, { w with store := s })
          | (.ok (), s) => (.ok y, { w with store := s }) := by
  rw [transact_on]
  cases w.store.load x with
  | error e => rfl
  | ok a =>
      rcases body.on_cases a with ⟨y, b, hp⟩ | ⟨e, b, hp⟩
      · have hbody : (onAccount body).on (a, w) = (.ok y, b, w) := by
          rw [onAccount, Routine.on_within, hp]
          rfl
        simp only [hbody, Routine.outcome_of_on hp, if_true]
      · have hbody : (onAccount body).on (a, w) = (.error e, b, w) := by
          rw [onAccount, Routine.on_within, hp]
          rfl
        simp only [hbody, Routine.outcome_of_on_error hp]

theorem changing_on (x : String) (body : Routine Fault Account α) (notice? : α → Option Notice)
    (w : World) : (changing x body notice?).on w =
      match (transact x true (onAccount body)).on w with
      | (.ok y, w') => (.ok y, w'.saved x w'.store (notice? y))
      | (.error e, w') => (.error e, w') := by
  rw [changing, Routine.on_bind]
  rcases (transact x true (onAccount body)).on_cases w with ⟨y, w', hp⟩ | ⟨e, w', hp⟩ <;>
    simp only [hp]
  cases hn : notice? y with
  | none => rfl
  | some n => rfl

theorem change_eq (w : World) (x : String) (body : Routine Fault Account α)
    (notice? : α → Option Notice) : w.change x body notice? = w.changed x body.outcome notice? := by
  rw [change, perform_on, changing_on, transact_onAccount, changed]
  cases w.store.load x with
  | error e => rfl
  | ok a =>
      cases hb : body.outcome a with
      | error e =>
          simp only [hb]
          rfl
      | ok r =>
          simp only [hb]
          rcases (Store.saving r.2).on_cases w.store with ⟨⟨⟩, s, hs⟩ | ⟨e, s, hs⟩ <;>
            simp only [hs] <;> rfl

/-- A change fails and leaves at most a draft, or saves what is made of the account and then tells
of it. -/
theorem changed_cases (w : World) (x : String) (f : Account → Outcome (α × Account))
    (notice? : α → Option Notice) :
    (∃ e w', w.changed x f notice? = (.error e, w') ∧ w.Drafts w') ∨
      ∃ a y a' s', w.store.load x = .ok a ∧ f a = .ok (y, a') ∧ w.store.save a' = .ok s' ∧
        w.changed x f notice? = (.ok y, w.saved x s' (notice? y)) := by
  rw [changed]
  cases w.store.load x with
  | error e => exact .inl ⟨_, w, rfl, drafts_refl w⟩
  | ok a =>
      cases hf : f a with
      | error e => exact .inl ⟨e.raised, w, by simp only [hf], drafts_refl w⟩
      | ok r =>
          obtain ⟨y, b⟩ := r
          rcases w.store.saving_cases b with ⟨s, hsave, hs⟩ | ⟨e, s, -, hs, hdrafts⟩
          · exact .inr ⟨a, y, b, s, rfl, hf, hsave, by simp only [hf, hs]⟩
          · exact .inl ⟨e.raised, _, by simp only [hf, hs], s, hdrafts, rfl⟩

theorem changed_of_ok {f : Account → Outcome (α × Account)} {a a' : Account} {y : α}
    {s' : Store} (hload : w.store.load x = .ok a) (hf : f a = .ok (y, a'))
    (hsave : w.store.save a' = .ok s') (notice? : α → Option Notice) :
    w.changed x f notice? = (.ok y, w.saved x s' (notice? y)) := by
  rw [changed, hload]
  simp only [hf, Routine.left_eq_ok_iff.1 hsave]

/-! ## The operations on accounts -/

theorem openAccount_eq (w : World) (x : String) : w.openAccount x =
    match Account.opened x w.program with
    | .error e => (.error e.raised, w)
    | .ok a =>
      match w.store.create a with
      | .error e => (.error e.raised, w)
      | .ok store => (.ok a, { w with store }) := by
  rw [openAccount, perform_get, perform_liftM]
  cases Account.opened x w.program with
  | error e => rfl
  | ok a =>
      have hatomic : (onStore (Store.creating a)).Atomic :=
        (Store.atomic_creating a).within _ fun _ => rfl
      simp only
      rw [perform_decided (d := w.store.create a) (f := fun store => (a, { w with store }))
        (hatomic.bind fun _ => Routine.succeeds_pure)]
      · cases w.store.create a <;> rfl
      · rw [Routine.outcome_bind, onStore, Routine.outcome_within, Store.create, Routine.left]
        rcases (Store.creating a).outcome w.store with _ | ⟨_, _⟩ <;> rfl

theorem issue_eq (w : World) (x : String) (s : KeySpec) : w.issue x s =
    match decoded (ExpiryUnit.ofName s.unit), Label.ofText? s.label with
    | .error e, _ => (.error e.raised, w)
    | .ok _, none => (.error (.invalid .labelTooLong), w)
    | .ok unit, some label =>
      w.changed x (Account.issue w.clock s.key s.expiresAt unit s.permissions label)
        fun _ => some (.keyCreated s.key s.expiresAt unit.name s.permissions.toJson) := by
  rw [issue, perform_get, perform_liftM]
  cases decoded (ExpiryUnit.ofName s.unit) with
  | error e => rfl
  | ok unit =>
      simp only [perform_liftM, KeySpec.paddedLabel]
      cases Label.ofText? s.label with
      | none => rfl
      | some label =>
          have hissue := funext
            (Account.outcome_issuing w.clock s.key s.expiresAt unit s.permissions label)
          simp only [← hissue, ← change_eq]
          rfl

theorem revise_eq (w : World) (x key : String) (expiresAt? : Option Int)
    (permissions? : Option Permissions) : w.revise x key expiresAt? permissions? =
      w.changed x (Account.revise w.clock key expiresAt? permissions?)
        fun k => some (.keyUpdated key k.expiresAt k.permissions.toJson) := by
  rw [revise, change_eq, funext (Account.outcome_revising w.clock key expiresAt? permissions?)]

theorem revoke_eq (w : World) (x key : String) :
    w.revoke x key = w.changed x (Account.revoke key) fun _ => some (.keyRevoked key) := by
  rw [revoke, change_eq, funext (Account.outcome_revoking key)]

theorem revokeAll_eq (w : World) (x : String) : w.revokeAll x =
    w.changed x (fun a => .ok a.revokeAll) fun n => some (.allKeysRevoked n) := by
  rw [revokeAll, change_eq, funext Account.outcome_revokingAll]

theorem prune_eq (w : World) (x : String) :
    w.prune x = w.changed x (fun a => .ok (a.prune w.clock)) fun _ => none := by
  rw [prune, change_eq, funext (Account.outcome_pruning w.clock)]

theorem setMints_eq (w : World) (x : String) (mints : List String) : w.setMints x mints =
    w.changed x (Account.setMints mints) fun mints => some (.mintsUpdated mints) := by
  rw [setMints, change_eq, funext (Account.outcome_settingMints mints)]

end World

end Keyring
