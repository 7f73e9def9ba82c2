import Keyring.Proofs.Account.Replay
import Keyring.Proofs.Engine.Lifetime
import Keyring.Proofs.Engine.Pruning

/-!
# Events and accounts

In a run that begins with no accounts and no events, the events that are collected tell of every
account as it is in the end. Each operation tells what it changes, once and in order: a change that
fails tells nothing, a batch tells of the keys that it has issued, and what else is told is not
about accounts. Only a pruning changes something and tells nothing, so a key of which the events
tell, and which is not there, has been pruned.
-/

namespace Keyring

/-- Whether the events tell of every account of a store as it is. -/
structure Store.Replayed (s : Store) (es : List Event) : Prop where
  held {x : String} {a : Account} (h : s.load x = .ok a) : Replays x es a.keys.keys a.mints.mints
  absent {x : String} {f : Fault} (h : s.load x = .error f) : Replays x es [] []

/-- What is to be shown of each operation: it tells these events, with them the accounts afterwards
are as the events tell, and the keys that they tell to have been issued are there. -/
structure World.Reports (w w' : World) (ns : List Event) : Prop where
  sink {es : List Event} (h : w.sink = .collected es) : w'.sink = .collected (es ++ ns)
  replayed {es : List Event} (h : w.store.Replayed es) : w'.store.Replayed (es ++ ns)
  created {x j : String} (h : j ∈ ns.filterMap (Event.createdKey? x)) :
    ∃ k, w'.keyAt? x j = some k

/-! ## What is told of others -/

theorem Event.isQuiet_of_ne {x : String} {e : Event} (h : e.authority ≠ x) : e.IsQuiet x := by
  obtain ⟨y, n⟩ := e
  have hy : y ≠ x := h
  cases n <;> constructor <;> simp [createdKey?, newTerms?, revokesKey, newMints?, hy]

variable {es ns : List Event} {x y j : String} {s s' : Store}

theorem Replays.append_events {a : Account} {keys : List SessionKey} {mints : List String}
    (h : Replays y es keys mints) (hy : y ≠ x) (d : Edit) :
    Replays y (es ++ d.events x a) keys mints := by
  rw [Edit.events]
  cases d.notice? a with
  | none => exact (List.append_nil es).symm ▸ h
  | some n => exact h.append_quiet (Event.isQuiet_of_ne hy.symm)

/-- An account that is saved is as the events tell if they tell nothing of the others. -/
theorem Store.Replayed.save {program : String} {l : List (String × Account)} {a : Account}
    (h : s.Replayed es) (hl : s.Holds program l) (ha : a.Sound program x) (hs : s.save a = .ok s')
    (hx : Replays x (es ++ ns) a.keys.keys a.mints.mints)
    (hother : ∀ {y keys mints}, y ≠ x → Replays y es keys mints → Replays y (es ++ ns) keys mints) :
    s'.Replayed (es ++ ns) := by
  constructor
  · intro y b hb
    rw [hl.load_save ha hs] at hb
    split at hb
    next hy =>
      subst hy
      obtain rfl := Except.ok.inj hb
      exact hx
    next hy => exact hother hy (h.held hb)
  · intro y f hf
    rw [hl.load_save ha hs] at hf
    split at hf
    next => cases hf
    next hy => exact hother hy (h.absent hf)

namespace World

variable {w w' : World} {op : Operation} {a : Account} {k : SessionKey}

/-! ## One operation -/

theorem reports_silent (hstore : w'.store = w.store) (hsink : w'.sink = w.sink) :
    w.Reports w' [] := by
  refine ⟨fun h => ?_, fun h => ?_, nofun⟩
  · rw [hsink, h, List.append_nil]
  · rwa [hstore, List.append_nil]

theorem reports_refl (w : World) : w.Reports w [] := reports_silent rfl rfl

theorem reports_quiet {e : Event} (he : ∀ x, e.IsQuiet x) (hstore : w'.store = w.store)
    (hsink : w'.sink = w.sink.notify e) : w.Reports w' [e] := by
  constructor
  · intro es h
    rw [hsink, h]
    rfl
  · intro es h
    rw [hstore]
    exact ⟨fun ha => (h.held ha).append_quiet (he _), fun hf => (h.absent hf).append_quiet (he _)⟩
  · intro x j hj
    rw [List.filterMap_cons, (he x).created] at hj
    cases hj

/-- What opens no account and makes no change tells nothing of accounts. -/
theorem sink_step (hop : op.isBatch = false) (he : op.edit? = none) :
    (w.step op).2.sink = w.sink ∨
      ∃ e, (∀ x, e.IsQuiet x) ∧ (w.step op).2.sink = w.sink.notify e := by
  cases op with
  | openAccount y =>
      rcases w.step_openAccount y with ⟨f, h⟩ | ⟨a, s', -, -, h⟩ <;> exact .inl (by rw [h])
  | issue y spec =>
      obtain ⟨f, h⟩ := step_issue_of_edit?_eq_none (w := w) he
      exact .inl (by rw [h])
  -- What acts for an owner tells of the action, and that is not about an account.
  | execute | approve | revokeDelegate | delegatedTransfer =>
      simp only [step, answered, execute_eq, approve_eq, revokeDelegate_eq, delegatedTransfer_eq]
      split
      next => exact .inl rfl
      next => exact .inr ⟨_, fun _ => ⟨rfl, fun _ => rfl, fun _ => rfl, rfl⟩, rfl⟩
  | moveClock time? height? =>
      rw [step]
      cases w.clock.moveTo time? height? <;> exact .inl rfl
  | advanceClock seconds height =>
      rw [step]
      cases w.clock.advance seconds height <;> exact .inl rfl
  | ledger | tokens => exact .inl rfl
  | issueAll y specs => cases hop
  | _ => first | exact .inl rfl | cases he

theorem reports_openAccount (hw : w.store.Reachable w.program) (x : String) :
    w.Reports (w.step (.openAccount x)).2 [] := by
  rcases w.step_openAccount x with ⟨f, h⟩ | ⟨a, s', ha, hs, h⟩ <;> rw [h]
  · exact reports_refl w
  · obtain ⟨l, hl⟩ := hw.holds
    have hsound := Account.sound_opened ha
    obtain ⟨hnone, -⟩ := hl.create hsound hs
    obtain ⟨f, hf, -⟩ := hl.load_of_none hnone
    refine ⟨fun h => ?_, fun h => ?_, nofun⟩
    · rwa [List.append_nil]
    · refine h.save hl hsound (Store.save_of_create hs) ?_ fun _ hy => ?_
      · rw [Account.keys_opened ha, Account.mints_opened ha, List.append_nil]
        exact h.absent hf
      · rwa [List.append_nil]

/-- A change that is made tells its notice, and of a key that it issues it leaves the key there. -/
theorem reports_edit {d : Edit} (hw : w.store.Reachable w.program) (he : op.edit? = some (x, d)) :
    ∃ ns, w.Reports (w.step op).2 ns := by
  obtain ⟨l, hl⟩ := hw.holds
  rcases step_edit_noticed (w := w) he with
    ⟨f, w', h, hdrafts⟩ | ⟨a, a', s', answer, hload, hedit, hsave, h⟩ <;> rw [h]
  · rw [hdrafts.eq_of_isFlat hl.isFlat]
    exact ⟨[], reports_refl w⟩
  · have hsound := hw.sound hload
    have hsound' := hsound.edit hedit
    refine ⟨d.events x a, fun h => ?_, fun h => ?_, fun {y j} hj => ?_⟩
    · simp only [saved, h, Edit.events]
      cases d.notice? a with
      | none => exact congrArg Sink.collected (List.append_nil _).symm
      | some n => rfl
    · exact h.save hl hsound' hsave ((h.held hload).edit hsound.wellFormed hedit)
        fun hy hreplays => hreplays.append_events hy d
    · obtain ⟨rfl, expiresAt, unit, permissions, label, rfl⟩ := Edit.eq_issue_of_mem_events hj
      have hload' : s'.load x = .ok a' := by rw [hl.load_save hsound' hsave, if_pos rfl]
      obtain ⟨hfits, rfl⟩ := Account.edit_eq_ok_iff.1 hedit
      have hfind := Edit.find?_registry hsound.wellFormed.keys.nodup hfits j
      rw [Edit.onKey, if_pos rfl] at hfind
      exact ⟨_, by simp only [keyAt?, saved, hload', hfind]; rfl⟩

theorem reports_step (hw : w.store.Reachable w.program) (hop : op.isBatch = false) :
    ∃ ns, w.Reports (w.step op).2 ns := by
  cases he : op.edit? with
  | some xd => exact reports_edit hw he
  | none =>
      rcases follows_step (w := w) hop he with ⟨x, rfl⟩ | hfollows
      · exact ⟨[], reports_openAccount hw x⟩
      · rcases sink_step (w := w) hop he with hsink | ⟨e, he, hsink⟩
        · exact ⟨[], reports_silent hfollows.store hsink⟩
        · exact ⟨[e], reports_quiet he hfollows.store hsink⟩

/-! ## Any operation -/

/-- The keys that a batch has issued first are there when it ends. -/
theorem reports_issueAll (hw : w.store.Reachable w.program) (x : String) (specs : List KeySpec) :
    ∃ ns, w.Reports (w.step (.issueAll x specs)).2 ns := by
  induction specs generalizing w with
  | nil => exact ⟨[], reports_refl w⟩
  | cons s ss ih =>
      cases hs : (w.issue x s).1 with
      | error f =>
          obtain ⟨l, hl⟩ := hw.holds
          exact ⟨[], by rw [issueAll_of_error hl.isFlat hs]; exact reports_refl w⟩
      | ok k =>
          have hw₁ := reachable_step hw (.issue x s)
          have hissue : (Operation.issue x s).isBatch = false := rfl
          obtain ⟨ns₁, h₁⟩ := reports_step hw hissue
          obtain ⟨ns₂, h₂⟩ := ih hw₁
          rw [issueAll_of_ok hs]
          refine ⟨ns₁ ++ ns₂, fun h => ?_, fun h => ?_, fun hj => ?_⟩
          · rw [h₂.sink (h₁.sink h), List.append_assoc]
          · rw [← List.append_assoc]
            exact h₂.replayed (h₁.replayed h)
          · rw [List.filterMap_append, List.mem_append] at hj
            rcases hj with hj | hj
            · obtain ⟨l, hl⟩ := h₁.created hj
              obtain ⟨a, ha, hfind⟩ := exists_has hw₁ hl
              obtain ⟨-, a', ha', -, l', hfind', -⟩ := ha.issueAll_present hfind x ss
              exact ⟨l', (ha'.keyAt? _).trans hfind'⟩
            · exact h₂.created hj

theorem reports_any (hw : w.store.Reachable w.program) (op : Operation) :
    ∃ ns, w.Reports (w.step op).2 ns := by
  cases hop : op.isBatch with
  | false => exact reports_step hw hop
  | true =>
      cases op with
      | issueAll x specs => exact reports_issueAll hw x specs
      | _ => cases hop

/-! ## A run -/

/-- Whether in a run a pruning has dropped a key that was revoked or expired then, and no event told
since that the key has been issued. -/
def DropsAt (w : World) (x j : String) (ops : List (Reading × Operation)) : Prop :=
  ∃ before c after k later, ops = before ++ (c, .prune x) :: after ∧
    let u := w.runAt before
    u.keyAt? x j = some k ∧ (k.isRevoked = true ∨ k.isExpired c = true) ∧
      (u.stepAt c (.prune x)).2.keyAt? x j = none ∧
      (w.runAt ops).sink.events = u.sink.events ++ later ∧
      j ∉ later.filterMap (Event.createdKey? x)

/-- A pruning drops no valid key. -/
theorem Has.invalid_of_prune (h : w.Has x a) (hk : a.keys.find? j = some k)
    (hnone : (w.step (.prune x)).2.keyAt? x j = none) :
    k.isRevoked = true ∨ k.isExpired w.clock = true := by
  have hprune : (Operation.prune x).isBatch = false := rfl
  obtain ⟨a', h', -, ⟨rfl, -⟩ | ⟨d, -, hd, -, hedit⟩⟩ := h.step hprune
  · rw [h'.keyAt?, hk] at hnone
    cases hnone
  · obtain rfl : Edit.prune = d := congrArg Prod.snd (Option.some.inj hd)
    obtain rfl : (a.prune w.clock).2 = a' := Except.ok.inj hedit
    rw [h'.keyAt?, Account.find?_prune h.sound.wellFormed, hk, Option.filter_some] at hnone
    cases hr : k.isRevoked with
    | true => exact .inl rfl
    | false =>
        cases he : k.isExpired w.clock with
        | true => exact .inr rfl
        | false => simp [SessionKey.isValid, hr, he] at hnone

theorem DropsAt.append {ops : List (Reading × Operation)} (h : w.DropsAt x j ops)
    (p : Reading × Operation)
    (hevents : (w.runAt (ops ++ [p])).sink.events = (w.runAt ops).sink.events ++ ns)
    (hj : j ∉ ns.filterMap (Event.createdKey? x)) : w.DropsAt x j (ops ++ [p]) := by
  obtain ⟨before, c, after, k, later, rfl, hk, hinvalid, hnone, hlater, hj'⟩ := h
  refine ⟨before, c, after ++ [p], k, later ++ ns, ?_, hk, hinvalid, hnone, ?_, ?_⟩
  · rw [List.append_assoc, List.cons_append]
  · rw [hevents, hlater, List.append_assoc]
  · rw [List.filterMap_append, List.mem_append, not_or]
    exact ⟨hj', hj⟩

/-- The events tell of the accounts after every operation of a run, and of every key that they tell
to have been issued a pruning has dropped what is not there. -/
theorem runAt_replayed (hstore : w.store.IsEmpty) (hsink : w.sink = .collecting)
    (ops : List (Reading × Operation)) :
    let w' := w.runAt ops
    w'.store.Reachable w'.program ∧ ∃ es, w'.sink = .collected es ∧ w'.store.Replayed es ∧
      ∀ x j, j ∈ es.filterMap (Event.createdKey? x) →
        (∃ k, w'.keyAt? x j = some k) ∨ w.DropsAt x j ops := by
  induction ops using List.reverseRecOn with
  | nil =>
      have hl := hstore.holds w.program
      refine ⟨hstore.reachable w.program, [], hsink, ⟨fun ha => ?_, fun _ => replays_nil _⟩, nofun⟩
      cases hl.load_eq_ok_iff.1 ha
  | append_singleton ops p ih =>
      obtain ⟨c, op⟩ := p
      obtain ⟨hw, es, hes, hreplayed, hthere⟩ := ih
      obtain ⟨ns, hns⟩ := reports_any (w := (w.runAt ops).withClock c) hw op
      have hsink' : (w.runAt (ops ++ [(c, op)])).sink = .collected (es ++ ns) := by
        rw [runAt_append]
        exact hns.sink hes
      have hevents : (w.runAt (ops ++ [(c, op)])).sink.events =
          (w.runAt ops).sink.events ++ ns := by
        rw [hsink', hes]
        rfl
      refine ⟨?_, es ++ ns, hsink', ?_, ?_⟩
      · rw [runAt_append]
        exact reachable_step (w := (w.runAt ops).withClock c) hw op
      · rw [runAt_append]
        exact hns.replayed hreplayed
      · intro x j hj
        rw [runAt_append]
        -- What the operation tells to have been issued is there. Whatever else has been told of was
        -- there before, and stays unless this operation prunes it, or had been dropped already.
        by_cases hnew : j ∈ ns.filterMap (Event.createdKey? x)
        · exact .inl (hns.created hnew)
        · rw [List.filterMap_append, List.mem_append, or_iff_left hnew] at hj
          rcases hthere x j hj with ⟨k, hk⟩ | hdrops
          · obtain ⟨a, ha, hfind⟩ := exists_has (w := (w.runAt ops).withClock c) hw hk
            obtain ⟨a', ha', -, ⟨k', hk', -⟩ | ⟨rfl, hnone⟩⟩ := ha.next_present hfind op
            · exact .inl ⟨k', (ha'.keyAt? j).trans hk'⟩
            · have hnone' := (ha'.keyAt? j).trans hnone
              exact .inr ⟨ops, c, [], k, ns, rfl, hk, ha.invalid_of_prune hfind hnone', hnone',
                hevents, hnew⟩
          · exact .inr (hdrops.append (c, op) hevents hnew)

/--
Events tell of accounts. In every run that begins with an empty store and a sink that collects, each
operation at whatever reading, the events about an owner tell in the end what the owner's account
holds. Each key has the unit of its last creation, the threshold and the permissions of the last
update since then, or those of its creation, and is revoked just if its revocation or that of all
keys was told since then; the keys stand in the order of their last creations; the mints are those
told last. A key that was told to have been issued, and is not there, was dropped by a pruning when
it was revoked or expired.
-/
theorem events_replay (hstore : w.store.IsEmpty) (hsink : w.sink = .collecting)
    (ops : List (Reading × Operation)) (x : String) :
    let w' := w.runAt ops
    let es := w'.sink.events
    (∀ a, w'.store.load x = .ok a → Replays x es a.keys.keys a.mints.mints) ∧
      ∀ j ∈ es.filterMap (Event.createdKey? x),
        (∃ k, w'.keyAt? x j = some k) ∨ w.DropsAt x j ops := by
  obtain ⟨-, es, hes, hreplayed, hthere⟩ := runAt_replayed hstore hsink ops
  have hevents : (w.runAt ops).sink.events = es := by
    rw [hes]
    rfl
  intro w' es'
  rw [show es' = es from hevents]
  exact ⟨fun a ha => hreplayed.held ha, hthere x⟩

/-- The events of a run that opens an account and issues a key tell of the key. -/
theorem events_replay_issued :
    let w := (World.empty "1").runAt [(⟨0, 0⟩, .openAccount "1"),
      (⟨0, 0⟩, .issue "1" { key := "2", expiresAt := 1 })]
    ∃ a, w.store.load "1" = .ok a ∧ a.keys.keys.map SessionKey.identity = ["2"] ∧
      ∀ k ∈ a.keys.keys, k.Announced "1" w.sink.events := by
  obtain ⟨a, ha⟩ := Account.exists_opened
  have hsound := Account.sound_opened ha
  let w₁ : World := { World.empty "1" with store := .memory [("1", a)] }
  have hopen : ((World.empty "1").stepAt ⟨0, 0⟩ (.openAccount "1")).2 = w₁ :=
    congrArg Prod.snd (step_openAccount_empty ha)
  have he : (Operation.issue "1" { key := "2", expiresAt := 1 }).edit? =
      some ("1", .issue "2" 1 .time {} Label.blank) := rfl
  have hfuture : (⟨0, 0⟩ : Reading).current .time < 1 := by decide
  have hlabel : Label.blank.length = Label.size := by decide
  obtain ⟨a', hedit, hkeys⟩ := Account.edit_opened ha "2" hfuture {} hlabel
  obtain ⟨answer, sink, hissue⟩ := step_edit_memory (w := w₁) rfl hsound he hedit
  have hreplay := events_replay (w := World.empty "1") (.inl rfl) rfl
    [(⟨0, 0⟩, .openAccount "1"), (⟨0, 0⟩, .issue "1" { key := "2", expiresAt := 1 })] "1"
  have hload : ((World.empty "1").runAt [(⟨0, 0⟩, .openAccount "1"),
      (⟨0, 0⟩, .issue "1" { key := "2", expiresAt := 1 })]).store.load "1" = .ok a' := by
    rw [runAt, List.foldl_cons, hopen, List.foldl_cons, List.foldl_nil, stepAt,
      show w₁.withClock ⟨0, 0⟩ = w₁ from rfl, hissue]
    exact Account.ofJson_toJson (hsound.edit hedit).wellFormed
  exact ⟨a', hload, by rw [hkeys]; rfl, (hreplay.1 a' hload).announced⟩

end World

end Keyring
