import Keyring.Proofs.Account.Edit
import Keyring.Proofs.Engine.Decisions
import Keyring.Proofs.Store.Contents
import Keyring.Proofs.Store.Saves

/-!
# What an operation does to the store

An operation opens an account, makes one change to one account, issues several keys in turn, or
leaves the store alone. `Operation.edit?` is the change. `step_edit` says that a change either fails
and leaves the world as it was, but for a draft where a folder has the name of the account, or finds
the account, fits it, and saves what it leaves. A batch is the run of those of its keys that come
before the first failure.
-/

namespace Keyring

/-- The account that an operation changes and the change, if its unit and its label make sense. -/
def Operation.edit? : Operation → Option (String × Edit)
  | .issue x spec =>
    match ExpiryUnit.ofName spec.unit, Label.ofText? spec.label with
    | .ok unit, some label => some (x, .issue spec.key spec.expiresAt unit spec.permissions label)
    | _, _ => none
  | .revise x k expiresAt? permissions? => some (x, .revise k expiresAt? permissions?)
  | .revoke x k => some (x, .revoke k)
  | .revokeAll x => some (x, .revokeAll)
  | .prune x => some (x, .prune)
  | .setMints x mints => some (x, .setMints mints)
  | _ => none

def Operation.isBatch : Operation → Bool
  | .issueAll _ _ => true
  | _ => false

namespace Reading

def Precedes (c c' : Reading) : Prop := c.time ≤ c'.time ∧ c.height ≤ c'.height

variable {c c' c'' : Reading}

theorem precedes_refl (c : Reading) : c.Precedes c := ⟨Int.le_refl _, Int.le_refl _⟩

theorem Precedes.trans (h : c.Precedes c') (h' : c'.Precedes c'') : c.Precedes c'' :=
  ⟨Int.le_trans h.1 h'.1, Int.le_trans h.2 h'.2⟩

theorem Precedes.current_le (h : c.Precedes c') (unit : ExpiryUnit) :
    c.current unit ≤ c'.current unit := by
  cases unit with
  | time => exact h.1
  | blockHeight => exact h.2

theorem precedes_of_moveTo {time? height? : Option Int} (h : c.moveTo time? height? = .ok c') :
    c.Precedes c' := by
  simp only [moveTo] at h
  split at h
  next => cases h
  next hle =>
    obtain rfl := Except.ok.inj h
    simp only [not_or, Int.not_lt] at hle
    exact hle

theorem precedes_of_advance {seconds height : Int} (h : c.advance seconds height = .ok c') :
    c.Precedes c' := by
  rw [advance] at h
  split at h
  next => cases h
  next hle =>
    obtain rfl := Except.ok.inj h
    simp only [not_or, Int.not_lt] at hle
    exact ⟨Int.le_add_of_nonneg_right hle.1, Int.le_add_of_nonneg_right hle.2⟩

end Reading

namespace World

variable {w : World} {op : Operation} {x : String} {e : Edit}

/-- An operation with a change is that change in every world, made by a body with an answer, and it
tells the notice of the change. -/
theorem step_eq_changed (he : op.edit? = some (x, e)) :
    ∃ (α : Type) (f : α → Answer) (body : Reading → Account → Outcome (α × Account))
      (notice? : α → Option Notice),
      (∀ w : World, w.step op = answered f (w.changed x (body w.clock) notice?)) ∧
        (∀ c a, Account.edit c a e = (body c a).map (·.2)) ∧
        ∀ c a y a', body c a = .ok (y, a') → notice? y = e.notice? a := by
  cases op with
  | issue y spec =>
      rw [Operation.edit?] at he
      split at he
      next unit label hunit hlabel =>
        obtain ⟨rfl, rfl⟩ := Prod.mk.inj (Option.some.inj he)
        refine ⟨SessionKey, .key,
          fun c => Account.issue c spec.key spec.expiresAt unit spec.permissions label,
          fun _ => some (.keyCreated spec.key spec.expiresAt unit.name spec.permissions.toJson),
          ?_, fun _ _ => rfl, fun _ _ _ _ _ => rfl⟩
        intro w
        rw [step, issue_eq, hunit, hlabel]
        rfl
      next => cases he
  | revise y key expiresAt? permissions? =>
      obtain ⟨rfl, rfl⟩ := Prod.mk.inj (Option.some.inj he)
      refine ⟨SessionKey, .key, fun c => Account.revise c key expiresAt? permissions?, _,
        fun w => by rw [step, revise_eq], fun _ _ => rfl, ?_⟩
      intro c a l a' h
      obtain ⟨k, hk, -, -, rfl, -⟩ := Account.revise_eq_ok_iff.1 h
      rw [Edit.notice?, hk]
      rfl
  | revoke y key =>
      obtain ⟨rfl, rfl⟩ := Prod.mk.inj (Option.some.inj he)
      exact ⟨SessionKey, .key, fun _ => Account.revoke key, _, fun w => by rw [step, revoke_eq],
        fun _ _ => rfl, fun _ _ _ _ _ => rfl⟩
  | revokeAll y =>
      obtain ⟨rfl, rfl⟩ := Prod.mk.inj (Option.some.inj he)
      refine ⟨Nat, .count, fun _ a => .ok a.revokeAll, _, fun w => by rw [step, revokeAll_eq],
        fun _ _ => rfl, ?_⟩
      intro c a n a' h
      obtain ⟨rfl, -⟩ := Prod.mk.inj (Except.ok.inj h)
      rfl
  | prune y =>
      obtain ⟨rfl, rfl⟩ := Prod.mk.inj (Option.some.inj he)
      exact ⟨Nat, .count, fun c a => .ok (a.prune c), _, fun w => by rw [step, prune_eq],
        fun _ _ => rfl, fun _ _ _ _ _ => rfl⟩
  | setMints y mints =>
      obtain ⟨rfl, rfl⟩ := Prod.mk.inj (Option.some.inj he)
      refine ⟨List String, .mints, fun _ => Account.setMints mints, _,
        fun w => by rw [step, setMints_eq], fun _ _ => rfl, ?_⟩
      intro c a ms a' h
      obtain ⟨-, rfl, -⟩ := Account.setMints_eq_ok_iff.1 h
      rfl
  | _ => cases he

/-- A change fails and leaves at most a draft, or saves what it leaves of the account and tells its
notice. -/
theorem step_edit_noticed (he : op.edit? = some (x, e)) :
    (∃ f w', w.step op = (.error f, w') ∧ w.Drafts w') ∨
      ∃ a a' s' answer, w.store.load x = .ok a ∧ a.edit w.clock e = .ok a' ∧
        w.store.save a' = .ok s' ∧ w.step op = (.ok answer, w.saved x s' (e.notice? a)) := by
  obtain ⟨α, f, body, notice?, hstep, hbody, hnotice⟩ := step_eq_changed he
  rw [hstep]
  rcases w.changed_cases x (body w.clock) notice? with
    ⟨g, w', h, hdrafts⟩ | ⟨a, y, a', s', hload, hok, hsave, h⟩
  · exact .inl ⟨g, w', by rw [h]; rfl, hdrafts⟩
  · refine .inr ⟨a, a', s', f y, hload, ?_, hsave, by rw [h, hnotice _ _ _ _ hok]; rfl⟩
    rw [hbody, hok]
    rfl

theorem step_edit (he : op.edit? = some (x, e)) :
    (∃ f w', w.step op = (.error f, w') ∧ w.Drafts w') ∨
      ∃ a a' s' sink answer, w.store.load x = .ok a ∧ a.edit w.clock e = .ok a' ∧
        w.store.save a' = .ok s' ∧
            w.step op = (.ok answer, { w with store := s', sink := sink }) := by
  rcases step_edit_noticed (w := w) he with h | ⟨a, a', s', answer, hload, hedit, hsave, h⟩
  · exact .inl h
  · exact .inr ⟨a, a', s', _, answer, hload, hedit, hsave, h⟩

/-- A change that no account fits is refused before anything is saved. -/
theorem step_of_unfit (he : op.edit? = some (x, e))
    (h : ∀ a, w.store.load x = .ok a → ¬ e.Fits w.clock a) : ∃ f, w.step op = (.error f, w) := by
  obtain ⟨α, g, body, notice?, hstep, hbody, -⟩ := step_eq_changed he
  rw [hstep, changed]
  cases hload : w.store.load x with
  | error f => exact ⟨f.raised, rfl⟩
  | ok a =>
      cases hok : body w.clock a with
      | error f => exact ⟨f.raised, by simp only [hok]; rfl⟩
      | ok r =>
          have hedit : a.edit w.clock e = .ok r.2 := by
            rw [hbody, hok]
            rfl
          exact absurd (Account.edit_eq_ok_iff.1 hedit).1 (h a hload)

/-- Where there are no folders a change that fails leaves the world as it was. -/
theorem step_edit_of_isFlat (hflat : w.store.IsFlat) (he : op.edit? = some (x, e)) :
    (∃ f, w.step op = (.error f, w)) ∨
      ∃ a a' s' sink answer, w.store.load x = .ok a ∧ a.edit w.clock e = .ok a' ∧
        w.store.save a' = .ok s' ∧
            w.step op = (.ok answer, { w with store := s', sink := sink }) := by
  rcases step_edit (w := w) he with ⟨f, w', h, hdrafts⟩ | h
  · exact .inl ⟨f, by rw [h, hdrafts.eq_of_isFlat hflat]⟩
  · exact .inr h

/-- A change is made if the account is there, fits it, and can be saved as changed. -/
theorem step_of_edit {a a' : Account} {s' : Store} (he : op.edit? = some (x, e))
    (hload : w.store.load x = .ok a) (hedit : a.edit w.clock e = .ok a')
    (hsave : w.store.save a' = .ok s') :
    ∃ answer sink, w.step op = (.ok answer, { w with store := s', sink := sink }) := by
  obtain ⟨α, f, body, notice?, hstep, hbody, -⟩ := step_eq_changed he
  rw [hbody, Outcome.map_eq_ok] at hedit
  obtain ⟨⟨y, a''⟩, hok, rfl⟩ := hedit
  exact ⟨f y, _, by rw [hstep, changed_of_ok hload hok hsave notice?]; rfl⟩

/-- After a change the account is found under its own authority as the change leaves it, and so is
each of its keys. -/
theorem found_step {w' : World} {answer : Answer} (he : op.edit? = some (x, e))
    (h : w.step op = (.ok answer, w')) :
    ∃ a a', w.store.load x = .ok a ∧ e.Fits w.clock a ∧ w.store.save a' = .ok w'.store ∧
      w'.store.load a.authority = .ok a' ∧
      ∀ j, a'.keys.find? j = e.onKey w.clock j (a.keys.find? j) := by
  rcases step_edit (w := w) he with
    ⟨f, v, hstep, -⟩ | ⟨a, a', s', sink, answer', hload, hedit, hsave, hstep⟩
  · rw [hstep] at h
    cases h
  · rw [hstep] at h
    cases h
    have hwf := Store.wellFormed_of_load hload
    have hfound := Store.load_save (hwf.edit hedit) hsave
    obtain ⟨hfits, rfl⟩ := Account.edit_eq_ok_iff.1 hedit
    exact ⟨a, _, hload, hfits, hsave, hfound, Edit.find?_registry hwf.keys.nodup hfits⟩

/-! ## Operations that change no account -/

theorem step_openAccount (w : World) (x : String) :
    (∃ f, w.step (.openAccount x) = (.error f, w)) ∨
      ∃ a s', Account.opened x w.program = .ok a ∧ w.store.create a = .ok s' ∧
        w.step (.openAccount x) = (.ok (.account a), { w with store := s' }) := by
  rw [step, openAccount_eq]
  cases ha : Account.opened x w.program with
  | error f => exact .inl ⟨_, rfl⟩
  | ok a =>
      cases hs : w.store.create a with
      | error f => exact .inl ⟨f.raised, by simp only [hs]; rfl⟩
      | ok s' => exact .inr ⟨a, s', rfl, hs, by simp only [hs]; rfl⟩

theorem step_issue_of_edit?_eq_none {spec : KeySpec}
    (he : (Operation.issue x spec).edit? = none) : ∃ f, w.step (.issue x spec) = (.error f, w) := by
  rw [Operation.edit?] at he
  rw [step, issue_eq]
  cases hunit : ExpiryUnit.ofName spec.unit with
  | error f => exact ⟨_, rfl⟩
  | ok unit =>
      cases hlabel : Label.ofText? spec.label with
      | none => exact ⟨_, rfl⟩
      | some label => simp [hunit, hlabel] at he

/-- A world in which the clock may have gone forward, and the accounts are the same. -/
structure Follows (w w' : World) : Prop where
  program : w'.program = w.program
  binder : w'.binder = w.binder
  store : w'.store = w.store
  clock : w.clock.Precedes w'.clock

theorem Follows.of_same {w w' : World} (hp : w'.program = w.program) (hb : w'.binder = w.binder)
    (hs : w'.store = w.store) (hc : w'.clock = w.clock) : w.Follows w' :=
  ⟨hp, hb, hs, hc ▸ Reading.precedes_refl w.clock⟩

theorem follows_execute (w : World) (x signer : String) (request : Request)
    (source? destination? : Option String) :
    w.Follows (w.execute x signer request source? destination?).2 := by
  rw [execute_eq]
  split <;> exact .of_same rfl rfl rfl rfl

theorem follows_approve (w : World) (x tokenAccount mint delegate : String) (amount : Int) :
    w.Follows (w.approve x tokenAccount mint delegate amount).2 := by
  rw [approve_eq]
  split <;> exact .of_same rfl rfl rfl rfl

theorem follows_revokeDelegate (w : World) (x tokenAccount : String) :
    w.Follows (w.revokeDelegate x tokenAccount).2 := by
  rw [revokeDelegate_eq]
  split <;> exact .of_same rfl rfl rfl rfl

theorem follows_delegatedTransfer (w : World) (x signer source destination mint delegate : String)
    (amount : Int) :
    w.Follows (w.delegatedTransfer x signer source destination mint delegate amount).2 := by
  rw [delegatedTransfer_eq]
  split <;> exact .of_same rfl rfl rfl rfl

theorem follows_setClock (w : World) {r : Except ClockError Reading}
    (hr : ∀ c, r = .ok c → w.clock.Precedes c) : w.Follows (w.setClock r).2 := by
  cases r with
  | error e => exact .of_same rfl rfl rfl rfl
  | ok c => exact ⟨rfl, rfl, rfl, hr c rfl⟩

/-- Whatever opens no account and makes no change leaves the accounts alone. -/
theorem follows_step (hop : op.isBatch = false) (he : op.edit? = none) :
    (∃ y, op = .openAccount y) ∨ w.Follows (w.step op).2 := by
  cases op with
  | openAccount y => exact .inl ⟨y, rfl⟩
  | issueAll y specs => cases hop
  | issue y spec =>
      obtain ⟨f, h⟩ := step_issue_of_edit?_eq_none (w := w) he
      rw [h]
      exact .inr (.of_same rfl rfl rfl rfl)
  | execute y signer request source? destination? => exact .inr (follows_execute w _ _ _ _ _)
  | approve y tokenAccount mint delegate amount => exact .inr (follows_approve w _ _ _ _ _)
  | revokeDelegate y tokenAccount => exact .inr (follows_revokeDelegate w _ _)
  | delegatedTransfer y signer source destination mint delegate amount =>
      exact .inr (follows_delegatedTransfer w _ _ _ _ _ _ _)
  | moveClock time? height? => exact .inr (follows_setClock w fun _ => Reading.precedes_of_moveTo)
  | advanceClock seconds height =>
      exact .inr (follows_setClock w fun _ => Reading.precedes_of_advance)
  | ledger s => exact .inr (.of_same rfl rfl rfl rfl)
  | tokens s => exact .inr (.of_same rfl rfl rfl rfl)
  | _ => first | exact .inr (.of_same rfl rfl rfl rfl) | cases he

end World

/-! ## What a single operation does -/

theorem Account.sound_opened {program x : String} {a : Account}
    (ha : Account.opened x program = .ok a) : a.Sound program x := by
  rw [Account.opened] at ha
  split at ha
  next => cases ha
  next d hd =>
    obtain rfl := Except.ok.inj ha
    exact ⟨rfl, ⟨d, hd, rfl, rfl⟩, ⟨⟨rfl, Nat.zero_le _, List.nodup_nil, nofun⟩,
      ⟨Nat.zero_le _, List.nodup_nil⟩⟩⟩

theorem Account.keys_opened {program x : String} {a : Account}
    (ha : Account.opened x program = .ok a) : a.keys = Registry.empty Registry.maxKeys := by
  rw [Account.opened] at ha
  split at ha
  next => cases ha
  next => exact Except.ok.inj ha ▸ rfl

theorem Account.mints_opened {program x : String} {a : Account}
    (ha : Account.opened x program = .ok a) : a.mints = Allowlist.empty := by
  rw [Account.opened] at ha
  split at ha
  next => cases ha
  next => exact Except.ok.inj ha ▸ rfl

/-- The authority of a single zero byte has an account with a program of the same name. -/
theorem Account.exists_opened : ∃ a, Account.opened "1" "1" = .ok a := by
  obtain ⟨d, hd⟩ := Derivation.ownerAddress_one
  exact ⟨_, by rw [Account.opened, hd]⟩

theorem Account.Sound.edit {program x : String} {c : Reading} {a a' : Account} {e : Edit}
    (ha : a.Sound program x) (he : a.edit c e = .ok a') : a'.Sound program x := by
  have hwf := ha.wellFormed.edit he
  obtain ⟨-, rfl⟩ := Account.edit_eq_ok_iff.1 he
  exact ⟨ha.authority, ha.derived, hwf⟩

namespace World

/-- What an operation that is no batch makes of the accounts: nothing, one more, or one changed. -/
inductive Moves (w : World) (op : Operation) (l : List (String × Account)) :
    List (String × Account) → Prop
  | same (hop : ∀ x e answer, op.edit? = some (x, e) → (w.step op).1 ≠ .ok answer) : Moves w op l l
  | opened {x : String} {a : Account} (hop : op = .openAccount x) (hx : field? x l = none)
      (ha : Account.opened x w.program = .ok a) : Moves w op l (l ++ [(x, a)])
  | edited {x : String} {e : Edit} {a a' : Account} {answer : Answer}
      (hop : op.edit? = some (x, e)) (hok : (w.step op).1 = .ok answer) (hx : field? x l = some a)
      (ha : a.edit w.clock e = .ok a') : Moves w op l (putField x a' l)

variable {w : World} {op : Operation} {l : List (String × Account)}

/-- An operation that is no batch keeps what a store holds, but for its own effect. -/
theorem moves_step (h : w.store.Holds w.program l) (hop : op.isBatch = false) :
    ∃ l', (w.step op).2.store.Holds w.program l' ∧ w.Moves op l l' ∧
      (w.step op).2.program = w.program ∧ w.clock.Precedes (w.step op).2.clock := by
  cases he : op.edit? with
  | some xe =>
      obtain ⟨x, e⟩ := xe
      rcases step_edit_of_isFlat h.isFlat he with
        ⟨f, hstep⟩ | ⟨a, a', s', sink, answer, hload, hedit, hsave, hstep⟩
      · refine ⟨l, ?_, .same ?_, ?_⟩
        · rw [hstep]
          exact h
        · rw [hstep]
          exact fun _ _ _ _ => nofun
        · rw [hstep]
          exact ⟨rfl, Reading.precedes_refl _⟩
      · have hx := h.load_eq_ok_iff.1 hload
        have hsound := (h.sound _ (mem_of_field? hx)).edit hedit
        refine ⟨_, ?_, .edited he (by rw [hstep]) hx hedit, ?_⟩
        · rw [hstep]
          exact h.save hsound hsave
        · rw [hstep]
          exact ⟨rfl, Reading.precedes_refl _⟩
  | none =>
      have hsame : w.Moves op l l := .same fun x e _ h => by rw [he] at h; cases h
      rcases follows_step (w := w) hop he with ⟨x, rfl⟩ | ⟨hprogram, -, hstore, hclock⟩
      · rcases w.step_openAccount x with ⟨f, hstep⟩ | ⟨a, s', ha, hcreate, hstep⟩
        · rw [hstep]
          exact ⟨l, h, hsame, rfl, Reading.precedes_refl _⟩
        · obtain ⟨hnone, hl⟩ := h.create (Account.sound_opened ha) hcreate
          rw [hstep]
          exact ⟨_, hl, .opened rfl hnone ha, rfl, Reading.precedes_refl _⟩
      · exact ⟨l, hstore ▸ h, hsame, hprogram, hclock⟩

theorem run_append (w : World) (ops : List Operation) (op : Operation) :
    w.run (ops ++ [op]) = ((w.run ops).step op).2 := by
  rw [run, List.foldl_append]
  rfl

/-! ## Readings -/

def withClock (w : World) (c : Reading) : World := { w with clock := c }

/-- An operation that is done at a reading of its own. -/
def stepAt (w : World) (c : Reading) (op : Operation) : Outcome Answer × World :=
  (w.withClock c).step op

def runAt (w : World) (ops : List (Reading × Operation)) : World :=
  ops.foldl (fun w op => (w.stepAt op.1 op.2).2) w

theorem runAt_append (w : World) (ops : List (Reading × Operation)) (c : Reading) (op : Operation) :
    w.runAt (ops ++ [(c, op)]) = ((w.runAt ops).stepAt c op).2 := by
  rw [runAt, List.foldl_append]
  rfl

/-! ## A batch -/

/-- The keys of a batch that come before the first that cannot be issued. -/
def issuedSpecs (w : World) (x : String) : List KeySpec → List KeySpec
  | [] => []
  | s :: ss =>
    match w.issue x s with
    | (.error _, _) => []
    | (.ok _, w) => s :: w.issuedSpecs x ss

theorem drafts_issue_of_error {x : String} {spec : KeySpec} {f : Fault}
    (h : (w.issue x spec).1 = .error f) : w.Drafts (w.issue x spec).2 := by
  cases he : (Operation.issue x spec).edit? with
  | none =>
      obtain ⟨g, hstep⟩ := step_issue_of_edit?_eq_none (w := w) he
      have hsame : (w.issue x spec).2 = w := congrArg Prod.snd hstep
      rw [hsame]
      exact drafts_refl w
  | some xe =>
      rcases step_edit (w := w) he with
        ⟨g, w', hstep, hdrafts⟩ | ⟨a, a', s', sink, answer, -, -, -, hstep⟩
      · have hsame : (w.issue x spec).2 = w' := congrArg Prod.snd hstep
        rw [hsame]
        exact hdrafts
      · have hok := congrArg Prod.fst hstep
        simp [step, answered, h, Except.map] at hok

/-- A batch is the run of its keys up to the first that cannot be issued, with the draft that this
one may have left. -/
theorem drafts_run_issueAll (w : World) (x : String) (specs : List KeySpec) :
    (w.run ((w.issuedSpecs x specs).map (.issue x))).Drafts (w.issueAll x specs).2 := by
  induction specs generalizing w with
  | nil => exact drafts_refl w
  | cons s ss ih =>
      rw [issueAll, issuedSpecs]
      cases h : w.issue x s with
      | mk r w' =>
          cases r with
          | error f =>
              have hdrafts := drafts_issue_of_error (w := w) (f := f) (by rw [h])
              rw [h] at hdrafts
              exact hdrafts
          | ok k =>
              have hstep : (w.step (.issue x s)).2 = w' := congrArg Prod.snd h
              simp only [List.map_cons, run, List.foldl_cons, hstep]
              exact ih w'

end World

end Keyring
