import Keyring.Proofs.Engine.Revising

/-!
# All or nothing

An operation that fails leaves balances, tokens, clock and events as they were, and the accounts as
anybody finds them; so does a transaction whose body has changed the account and then gives up, or
whose account cannot be saved. A folder with the name of an account can leave a draft behind, which
no lookup finds. A batch is the exception, since the keys before the failing one stay.

What the sink does with events is never seen: with another sink an operation gives the same answer
and the same world, but for what the sink has kept.
-/

namespace Keyring

/-! ## Stores that look alike -/

namespace Store

structure LooksLike (s s' : Store) : Prop where
  load : ∀ x, s'.load x = s.load x
  contains : ∀ x, s'.contains x = s.contains x
  authorities : s'.authorities = s.authorities

/-- Whether every account that is found is one of the authority under which it is found. -/
def InPlace (s : Store) : Prop := ∀ x a, s.load x = .ok a → a.authority = x

variable {s s' : Store}

theorem Drafts.looksLike (h : s.Drafts s') : s.LooksLike s' :=
  ⟨h.load_eq, h.contains_eq, h.authorities_eq⟩

/-- Where accounts are in place, one that cannot take the place of another leaves no draft. -/
theorem InPlace.saving_of_error {x : String} {a b : Account} {e : Fault} (h : s.InPlace)
    (ha : s.load x = .ok a) (hb : b.authority = a.authority)
    (hs : (saving b).on s = (.error e, s')) : s' = s := by
  obtain rfl : b.authority = x := hb.trans (h x a ha)
  rcases s.saving_cases b with ⟨t, -, ht⟩ | ⟨e', t, hsave, -, -⟩
  · rw [hs] at ht
    cases (Prod.mk.inj ht).1
  · rw [saving_of_load ha hsave] at hs
    exact (Prod.mk.inj hs).2.symm

theorem looksLike_drafted (f : Folder) (x text : String) :
    (folder f).LooksLike (folder (f.drafted x text)) :=
  ⟨Folder.load_drafted x text, Folder.contains_drafted x text, Folder.authorities_drafted x text⟩

end Store

namespace World

variable {α : Type} {w w' : World} {x : String} {f : Fault}

/-! ## Transactions that fail -/

def Loyal (body : Routine Fault Account α) : Prop :=
  ∀ a y b, body.on a = (.ok y, b) → b.authority = a.authority

/-- A transaction that fails, wherever it does, leaves at most a draft in the store. -/
theorem drafts_transact {write : Bool} {body : Routine Fault (Account × World) α}
    (h : w.perform (transact x write body) = (.error f, w')) : w.store.Drafts w'.store := by
  rw [perform_on, transact_on] at h
  cases hload : w.store.load x with
  | error e =>
      rw [hload] at h
      obtain ⟨-, rfl⟩ := Prod.mk.inj h
      exact .nothing
  | ok a =>
      rw [hload] at h
      rcases body.on_cases (a, w) with ⟨y, ⟨b, v⟩, hp⟩ | ⟨e, ⟨b, v⟩, hp⟩ <;> simp only [hp] at h
      · cases write with
        | false => cases (Prod.mk.inj h).1
        | true =>
            rcases w.store.saving_cases b with ⟨s, -, hs⟩ | ⟨e, s, -, hs, hdrafts⟩ <;>
              simp only [hs, if_true] at h
            · cases (Prod.mk.inj h).1
            · obtain ⟨-, rfl⟩ := Prod.mk.inj h
              exact hdrafts
      · obtain ⟨-, rfl⟩ := Prod.mk.inj h
        exact .nothing

/-- One that writes nothing leaves the store alone, whatever its body does and however it ends. -/
theorem store_transact_false (x : String) (body : Routine Fault (Account × World) α) (w : World) :
    (w.perform (transact x false body)).2.store = w.store := by
  rw [perform_on, transact_on]
  cases w.store.load x with
  | error e => rfl
  | ok a =>
      rcases body.on_cases (a, w) with ⟨y, ⟨b, v⟩, hp⟩ | ⟨e, ⟨b, v⟩, hp⟩
      · simp only [hp]
        rfl
      · simp only [hp]

/-- A body that is about its account alone touches nothing else. -/
theorem rest_transact (x : String) (write : Bool) (body : Routine Fault Account α) (w : World) :
    (w.perform (transact x write (onAccount body))).2 = { w with
      store := (w.perform (transact x write (onAccount body))).2.store } := by
  rw [perform_on, transact_on]
  cases w.store.load x with
  | error e => rfl
  | ok a =>
      have hbody : ((onAccount body).on (a, w)).2.2 = w := by
        rw [onAccount, Routine.on_within]
      rcases (onAccount body).on_cases (a, w) with ⟨y, ⟨b, v⟩, hp⟩ | ⟨e, ⟨b, v⟩, hp⟩ <;>
        rw [hp] at hbody <;> simp only [hp]
      · obtain rfl : v = w := hbody
        cases write with
        | false => rfl
        | true =>
            rcases (Store.saving b).on_cases v.store with ⟨⟨⟩, s, hs⟩ | ⟨e, s, hs⟩ <;>
              simp only [hs] <;> rfl
      · obtain rfl : v = w := hbody
        rfl

theorem transact_of_inPlace {write : Bool} {body : Routine Fault Account α} (hw : w.store.InPlace)
    (hbody : Loyal body) (h : w.perform (transact x write (onAccount body)) = (.error f, w')) :
    w'.store = w.store := by
  cases write with
  | false =>
      rw [← store_transact_false x (onAccount body) w, h]
  | true =>
      rw [perform_on, transact_onAccount] at h
      cases hload : w.store.load x with
      | error e =>
          rw [hload] at h
          obtain ⟨-, rfl⟩ := Prod.mk.inj h
          rfl
      | ok a =>
          rw [hload] at h
          rcases body.on_cases a with ⟨y, b, hp⟩ | ⟨e, b, hp⟩
          · simp only [Routine.outcome_of_on hp] at h
            rcases (Store.saving b).on_cases w.store with ⟨⟨⟩, s, hs⟩ | ⟨e, s, hs⟩ <;>
              simp only [hs] at h
            · cases (Prod.mk.inj h).1
            · obtain ⟨-, rfl⟩ := Prod.mk.inj h
              exact hw.saving_of_error hload (hbody a y b hp) hs
          · simp only [Routine.outcome_of_on_error hp] at h
            obtain ⟨-, rfl⟩ := Prod.mk.inj h
            rfl

/-! ## Operations that fail -/

theorem changed_of_inPlace {g : Account → Outcome (α × Account)} {notice? : α → Option Notice}
    (hw : w.store.InPlace) (hg : ∀ a y b, g a = .ok (y, b) → b.authority = a.authority)
    (h : w.changed x g notice? = (.error f, w')) : w' = w := by
  rw [changed] at h
  cases hload : w.store.load x with
  | error e =>
      rw [hload] at h
      exact (Prod.mk.inj h).2.symm
  | ok a =>
      rw [hload] at h
      cases hb : g a with
      | error e =>
          simp only [hb] at h
          exact (Prod.mk.inj h).2.symm
      | ok r =>
          simp only [hb] at h
          rcases (Store.saving r.2).on_cases w.store with ⟨⟨⟩, s, hs⟩ | ⟨e, s, hs⟩ <;>
            simp only [hs] at h
          · cases (Prod.mk.inj h).1
          · obtain ⟨-, rfl⟩ := Prod.mk.inj h
            rw [hw.saving_of_error hload (hg a r.1 r.2 hb) hs]

/-- Whether a result that is a failure comes with the world as it was, but for a draft where an
account that is found is not in place. -/
def Spares {α : Type} (w : World) (r : Outcome α × World) : Prop :=
  ∀ f, r.1 = .error f → w.Drafts r.2 ∧ (w.store.InPlace → r.2 = w)

theorem spares_error (f : Fault) : w.Spares ((.error f, w) : Outcome α × World) :=
  fun _ _ => ⟨drafts_refl w, fun _ => rfl⟩

theorem spares_ok (y : α) (w' : World) : w.Spares (.ok y, w') := nofun

theorem Spares.answered {r : Outcome α × World} (h : w.Spares r) (g : α → Answer) :
    w.Spares (answered g r) := by
  obtain ⟨r, w'⟩ := r
  cases r with
  | error e => exact fun _ _ => h e rfl
  | ok y => exact nofun

theorem spares_asked (r : Outcome α) (g : α → Answer) : w.Spares (w.asked g r) :=
  fun _ _ => ⟨drafts_refl w, fun _ => rfl⟩

theorem spares_setClock (r : Except ClockError Reading) : w.Spares (w.setClock r) := by
  cases r with
  | error e => exact spares_error _
  | ok c => exact spares_ok _ _

theorem spares_perform {p : Doing α} (h : p.Atomic) (w : World) : w.Spares (w.perform p) := by
  rw [perform_eq h]
  split
  next => exact spares_ok _ _
  next => exact spares_error _

theorem spares_edit {op : Operation} {e : Edit} (he : op.edit? = some (x, e)) :
    w.Spares (w.step op) := by
  intro f hf
  constructor
  · rcases step_edit (w := w) he with ⟨g, w', h, hdrafts⟩ | ⟨a, a', s', sink, answer, -, -, -, h⟩
    · rw [h]
      exact hdrafts
    · rw [h] at hf
      cases hf
  · intro hw
    obtain ⟨β, g, body, notice?, hstep, hedit, -⟩ := step_eq_changed he
    rw [hstep] at hf ⊢
    rcases hchanged : w.changed x (body w.clock) notice? with ⟨_ | y, w'⟩
    · refine changed_of_inPlace hw ?_ hchanged
      intro a y b hb
      exact Account.authority_edit (c := w.clock) (e := e) (by rw [hedit, hb]; rfl)
    · rw [hchanged] at hf
      cases hf

theorem spares_step {op : Operation} (w : World) (hop : op.isBatch = false) :
    w.Spares (w.step op) := by
  cases he : op.edit? with
  | some xe => exact spares_edit he
  | none =>
      cases op with
      | openAccount x =>
          rcases w.step_openAccount x with ⟨f, h⟩ | ⟨a, s', -, -, h⟩ <;> rw [h]
          · exact spares_error f
          · exact spares_ok _ _
      | issue x spec =>
          obtain ⟨f, h⟩ := step_issue_of_edit?_eq_none (w := w) he
          rw [h]
          exact spares_error f
      | execute y signer request source? destination? =>
          rw [step, execute_eq]
          split
          next => exact (spares_error _).answered _
          next => exact (spares_ok _ _).answered _
      | approve y tokenAccount mint delegate amount =>
          rw [step, approve_eq]
          split
          next => exact (spares_error _).answered _
          next => exact (spares_ok _ _).answered _
      | revokeDelegate y tokenAccount =>
          rw [step, revokeDelegate_eq]
          split
          next => exact (spares_error _).answered _
          next => exact (spares_ok _ _).answered _
      | delegatedTransfer y signer source destination mint delegate amount =>
          rw [step, delegatedTransfer_eq]
          split
          next => exact (spares_error _).answered _
          next => exact (spares_ok _ _).answered _
      | moveClock time? height? => exact spares_setClock _
      | advanceClock seconds height => exact spares_setClock _
      | ledger s => exact (spares_perform (atomic_onLedger (Ledger.atomic_doing s)) w).answered _
      | tokens s => exact (spares_perform (atomic_onTokens (Tokens.atomic_doing s)) w).answered _
      | issueAll x specs => cases hop
      | _ => first | exact spares_asked _ _ | cases he

/-! ## Another sink -/

def withSink (w : World) (sink : Sink) : World := { w with sink }

def Agrees {α : Type} (r r' : Outcome α × World) : Prop :=
  r'.1 = r.1 ∧ ∃ sink, r'.2 = r.2.withSink sink

variable {sink : Sink}

theorem agrees_withSink (r : Outcome α) (w : World) (sink : Sink) :
    Agrees (r, w) (r, w.withSink sink) := ⟨rfl, sink, rfl⟩

theorem Agrees.answered {r r' : Outcome α × World} (h : Agrees r r') (f : α → Answer) :
    Agrees (answered f r) (answered f r') := by
  obtain ⟨hr, hw⟩ := h
  exact ⟨congrArg (Except.map f) hr, hw⟩

theorem agrees_notify (r : Outcome α) (w : World) (sink : Sink) (x : String) (n : Notice) :
    Agrees (r, w.notify x n) (r, (w.withSink sink).notify x n) := ⟨rfl, _, rfl⟩

theorem agrees_changed (x : String) (g : Account → Outcome (α × Account))
    (notice? : α → Option Notice) :
    Agrees (w.changed x g notice?) ((w.withSink sink).changed x g notice?) := by
  have hstore : (w.withSink sink).store = w.store := rfl
  rw [changed, changed, hstore]
  cases w.store.load x with
  | error e => exact agrees_withSink _ w sink
  | ok a =>
      cases hg : g a with
      | error e =>
          simp only [hg]
          exact agrees_withSink _ w sink
      | ok r =>
          simp only [hg]
          rcases (Store.saving r.2).on_cases w.store with ⟨⟨⟩, s, hs⟩ | ⟨e, s, hs⟩ <;>
            simp only [hs]
          · exact ⟨rfl, _, rfl⟩
          · exact ⟨rfl, sink, rfl⟩

theorem agrees_openAccount (x : String) :
    Agrees (w.openAccount x) ((w.withSink sink).openAccount x) := by
  have hprogram : (w.withSink sink).program = w.program := rfl
  have hstore : (w.withSink sink).store = w.store := rfl
  rw [openAccount_eq, openAccount_eq, hprogram, hstore]
  cases Account.opened x w.program with
  | error e => exact agrees_withSink _ w sink
  | ok a =>
      cases hs : w.store.create a with
      | error e =>
          simp only [hs]
          exact agrees_withSink _ w sink
      | ok s =>
          simp only [hs]
          exact ⟨rfl, sink, rfl⟩

theorem agrees_issue (x : String) (spec : KeySpec) :
    Agrees (w.issue x spec) ((w.withSink sink).issue x spec) := by
  rw [issue_eq, issue_eq]
  split
  next => exact agrees_withSink _ w sink
  next => exact agrees_withSink _ w sink
  next => exact agrees_changed _ _ _

theorem agrees_issueAll (w : World) (sink : Sink) (x : String) (specs : List KeySpec) :
    Agrees (w.issueAll x specs) ((w.withSink sink).issueAll x specs) := by
  induction specs generalizing w sink with
  | nil => exact agrees_withSink _ w sink
  | cons s ss ih =>
      have hissue : Agrees (w.issue x s) ((w.withSink sink).issue x s) := agrees_issue x s
      obtain ⟨hr, sink', hw⟩ := hissue
      rw [issueAll, issueAll]
      cases h : w.issue x s with
      | mk r w₁ =>
          cases h' : (w.withSink sink).issue x s with
          | mk r' w₁' =>
              rw [h, h'] at hr hw
              obtain rfl : r' = r := hr
              obtain rfl : w₁' = w₁.withSink sink' := hw
              cases r' with
              | error f => exact agrees_withSink _ w₁ sink'
              | ok k =>
                  obtain ⟨hks, hrest⟩ := ih w₁ sink'
                  exact ⟨congrArg (Except.map (k :: ·)) hks, hrest⟩

theorem agrees_execute (x signer : String) (request : Request)
    (source? destination? : Option String) :
    Agrees (w.execute x signer request source? destination?)
      ((w.withSink sink).execute x signer request source? destination?) := by
  have hsame : (w.withSink sink).executed x signer request source? destination? =
      w.executed x signer request source? destination? := rfl
  rw [execute_eq, execute_eq, hsame]
  split
  next => exact agrees_withSink _ w sink
  next ledger _ => exact agrees_notify _ { w with ledger } sink _ _

theorem agrees_approve (x tokenAccount mint delegate : String) (amount : Int) :
    Agrees (w.approve x tokenAccount mint delegate amount)
      ((w.withSink sink).approve x tokenAccount mint delegate amount) := by
  have hsame : (w.withSink sink).approved x tokenAccount mint delegate amount =
      w.approved x tokenAccount mint delegate amount := rfl
  rw [approve_eq, approve_eq, hsame]
  split
  next => exact agrees_withSink _ w sink
  next tokens _ => exact agrees_notify _ { w with tokens } sink _ _

theorem agrees_revokeDelegate (x tokenAccount : String) :
    Agrees (w.revokeDelegate x tokenAccount)
      ((w.withSink sink).revokeDelegate x tokenAccount) := by
  have hsame : (w.withSink sink).delegateRevoked x tokenAccount =
      w.delegateRevoked x tokenAccount := rfl
  rw [revokeDelegate_eq, revokeDelegate_eq, hsame]
  split
  next => exact agrees_withSink _ w sink
  next tokens _ => exact agrees_notify _ { w with tokens } sink _ _

theorem agrees_delegatedTransfer (x signer source destination mint delegate : String)
    (amount : Int) :
    Agrees (w.delegatedTransfer x signer source destination mint delegate amount)
      ((w.withSink sink).delegatedTransfer x signer source destination mint delegate amount) := by
  have hsame : (w.withSink sink).delegated x signer source destination mint delegate amount =
      w.delegated x signer source destination mint delegate amount := rfl
  rw [delegatedTransfer_eq, delegatedTransfer_eq, hsame]
  split
  next => exact agrees_withSink _ w sink
  next tokens _ => exact agrees_notify _ { w with tokens } sink _ _

theorem agrees_setClock (r : Except ClockError Reading) :
    Agrees (w.setClock r) ((w.withSink sink).setClock r) := by
  cases r with
  | error e => exact agrees_withSink _ w sink
  | ok c => exact agrees_withSink _ { w with clock := c } sink

theorem agrees_step (w : World) (sink : Sink) (op : Operation) :
    Agrees (w.step op) ((w.withSink sink).step op) := by
  cases op with
  | openAccount x => exact (agrees_openAccount x).answered _
  | issue x spec => exact (agrees_issue x spec).answered _
  | issueAll x specs => exact (agrees_issueAll w sink x specs).answered _
  | revise x key expiresAt? permissions? =>
      rw [step, step, revise_eq, revise_eq]
      exact (agrees_changed _ _ _).answered _
  | revoke x key =>
      rw [step, step, revoke_eq, revoke_eq]
      exact (agrees_changed _ _ _).answered _
  | revokeAll x =>
      rw [step, step, revokeAll_eq, revokeAll_eq]
      exact (agrees_changed _ _ _).answered _
  | prune x =>
      rw [step, step, prune_eq, prune_eq]
      exact (agrees_changed _ _ _).answered _
  | setMints x mints =>
      rw [step, step, setMints_eq, setMints_eq]
      exact (agrees_changed _ _ _).answered _
  | execute x signer request source? destination? => exact (agrees_execute _ _ _ _ _).answered _
  | approve x tokenAccount mint delegate amount => exact (agrees_approve _ _ _ _ _).answered _
  | revokeDelegate x tokenAccount => exact (agrees_revokeDelegate _ _).answered _
  | delegatedTransfer x signer source destination mint delegate amount =>
      exact (agrees_delegatedTransfer _ _ _ _ _ _ _).answered _
  | moveClock time? height? => exact agrees_setClock _
  | advanceClock seconds height => exact agrees_setClock _
  | ledger s => exact ⟨rfl, sink, rfl⟩
  | tokens s => exact ⟨rfl, sink, rfl⟩
  | _ => exact agrees_withSink _ w sink

end World

/-- All or nothing. An operation that fails leaves every part of the world but the store as it was,
and a store that cannot be told from what it was by any lookup; the very same where there are no
folders, or where every account that is found is in place. So does a transaction whose body has done
whatever it likes to the account and gives up then, or whose account cannot be saved. One that is
not to write never changes the store. A draft whose writing has stopped anywhere is seen by no
lookup. With another sink, an operation answers the same and leaves the same world but for the sink.
-/
theorem World.all_or_nothing :
    (∀ (w w' : World) (op : Operation) (f : Fault), op.isBatch = false →
      w.step op = (.error f, w') →
      w' = { w with store := w'.store } ∧ w.store.LooksLike w'.store ∧
        (w.store.IsFlat ∨ w.store.InPlace → w' = w)) ∧
    (∀ {α : Type} (w w' : World) (x : String) (write : Bool) (body : Routine Fault Account α)
      (f : Fault), w.perform (transact x write (onAccount body)) = (.error f, w') →
      w' = { w with store := w'.store } ∧ w.store.LooksLike w'.store ∧
        (w.store.IsFlat ∨ w.store.InPlace ∧ Loyal body → w' = w)) ∧
    (∀ {α : Type} (w w' : World) (x : String) (write : Bool)
      (body : Routine Fault (Account × World) α) (f : Fault),
      w.perform (transact x write body) = (.error f, w') → w.store.LooksLike w'.store ∧
        (w.store.IsFlat → w'.store = w.store)) ∧
    (∀ {α : Type} (w : World) (x : String) (body : Routine Fault (Account × World) α),
      (w.perform (transact x false body)).2.store = w.store) ∧
    (∀ (f : Folder) (x text : String), (Store.folder f).LooksLike (.folder (f.drafted x text))) ∧
    ∀ (w : World) (sink : Sink) (op : Operation),
      ((w.withSink sink).step op).1 = (w.step op).1 ∧
        ∃ sink', ((w.withSink sink).step op).2 = (w.step op).2.withSink sink' := by
  refine ⟨?_, ?_, ?_, fun w x body => store_transact_false x body w,
    fun f x text => Store.looksLike_drafted f x text, fun w sink op => w.agrees_step sink op⟩
  · intro w w' op f hop h
    obtain ⟨hdrafts, hsame⟩ := w.spares_step hop f (congrArg Prod.fst h)
    rw [h] at hdrafts hsame
    obtain ⟨s, hs, rfl⟩ := hdrafts
    refine ⟨rfl, hs.looksLike, ?_⟩
    rintro (hflat | hplace)
    · exact congrArg (fun s => { w with store := s }) (hs.eq_of_isFlat hflat)
    · exact hsame hplace
  · intro α w w' x write body f h
    have hrest := rest_transact x write body w
    have hdrafts := drafts_transact h
    rw [h] at hrest
    refine ⟨hrest, hdrafts.looksLike, ?_⟩
    rintro (hflat | ⟨hplace, hloyal⟩)
    · rw [show w' = _ from hrest, hdrafts.eq_of_isFlat hflat]
    · rw [show w' = _ from hrest, transact_of_inPlace hplace hloyal h]
  · intro α w w' x write body f h
    have hdrafts := drafts_transact h
    exact ⟨hdrafts.looksLike, fun hflat => hdrafts.eq_of_isFlat hflat⟩

/-- A body revokes a key, and gives up then; and in a folder a threshold is set that cannot be
written down. The key stays as it was. -/
theorem World.all_or_nothing_late :
    (let k : SessionKey := { identity := "k", createdAt := 0, expiresAt := 5, unit := .time }
      let a : Account := { authority := "x", address := "", bump := 0, keys := ⟨10, [k]⟩ }
      let w : World := { store := .memory [("x", a)] }
      let body : Routine Fault Account Unit := do
        let _ ← Account.revoking "k"
        throw (.aborted "late")
      (body.on a).2.keys.keys = [k.revoke] ∧
        w.perform (transact "x" true (onAccount body)) = (.error (.aborted "late"), w) ∧
        w.key "x" "k" = .ok k) ∧
    ∃ (w : World) (a : Account) (k : SessionKey), w.store.load "1" = .ok a ∧ k ∈ a.keys.keys ∧
      w.step (.revise "1" "2" (some (Text.Integer.tooLong : Int)) none) =
          (.error .unwritable, w) := by
  obtain ⟨hstep, htransact, -⟩ := all_or_nothing
  constructor
  · intro k a w body
    have hwf : a.WellFormed := by
      refine ⟨⟨rfl, Nat.le_add_left 1 9, List.nodup_singleton _, ?_⟩,
        ⟨Nat.zero_le _, List.nodup_nil⟩⟩
      intro l hl
      rw [List.mem_singleton.1 hl]
      rfl
    have hload : w.store.load "x" = .ok a := Account.ofJson_toJson hwf
    -- The body has revoked the key of its own account when it gives up.
    have hbody : body.on a = (.error (.aborted "late"), { a with keys := ⟨10, [k.revoke]⟩ }) := rfl
    have hfails :
        (w.perform (transact "x" true (onAccount body))).1 = .error (.aborted "late") := by
      rw [perform_on, transact_onAccount, hload]
      simp only [Routine.outcome_of_on_error hbody]
      rfl
    obtain ⟨-, -, hsame⟩ := htransact w _ "x" true body _ (Prod.ext hfails rfl)
    refine ⟨rfl, Prod.ext hfails (hsame (.inl (Store.isFlat_memory _))), ?_⟩
    rw [key, account, hload]
    rfl
  · obtain ⟨f, a, hreach, hload, hkeys⟩ := Store.Reachable.issued_in_folder
    let w : World := { World.empty "1" with store := .folder f }
    let k : SessionKey := ⟨"2", 0, 1, .time, {}, Label.blank, .active⟩
    let op : Operation := .revise "1" "2" (some (Text.Integer.tooLong : Int)) none
    have hk : k ∈ a.keys.keys := hkeys ▸ List.mem_singleton_self _
    have hfar : w.Revisable "1" "2" (some (Text.Integer.tooLong : Int)) a k :=
      ⟨hload, hk, rfl, rfl, fun e he => Option.some.inj he ▸
        Int.natCast_pos.2 Text.Integer.tooLong_pos⟩
    have hfails : (w.step op).1 = .error .unwritable := by
      rw [step, hfar.unwritable hreach
        (Store.canWriteKey_of_isTooLong Text.Integer.isTooLong_tooLong)]
      rfl
    obtain ⟨l, hl⟩ := hreach.holds
    obtain ⟨-, -, hsame⟩ := hstep w _ op _ rfl (Prod.ext hfails rfl)
    exact ⟨w, a, k, hload, hk, Prod.ext hfails (hsame (.inl hl.isFlat))⟩

end Keyring
