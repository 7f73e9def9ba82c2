import Keyring.Proofs.Engine.Reachable
import Keyring.Proofs.Store.Apart

/-!
# Owners apart

Most operations are about one owner: they open the owner's account or ask about it, and neither read
nor change what belongs to anybody else. In worlds that agree about an owner such an operation gives
the same answer and writes the same account, which is what `Twins` says. So what is done for one
owner is not seen by another, and for two owners the order does not matter.
-/

namespace Keyring

/-- The owner whose account an operation opens, changes or asks about, if it touches nothing else
that others share. -/
def Operation.own? : Operation → Option String
  | .openAccount x | .account x | .issue x _ | .issueAll x _ | .revise x _ _ _ | .revoke x _
  | .revokeAll x | .prune x | .setMints x _ | .key x _ | .statuses x | .activeKeys x
  | .expiringKeys x _ | .isKeyValid x _ | .expectedDelegate x _ => some x
  | _ => none

theorem Account.authority_edit {c : Reading} {a a' : Account} {e : Edit} (h : a.edit c e = .ok a') :
    a'.authority = a.authority := by
  obtain ⟨-, rfl⟩ := edit_eq_ok_iff.1 h
  rfl

namespace World

structure MatchesAt (x : String) (w u : World) : Prop where
  program : u.program = w.program
  binder : u.binder = w.binder
  clock : u.clock = w.clock
  store : w.store.SameAt x u.store

structure SameRest (w u : World) : Prop where
  program : u.program = w.program
  binder : u.binder = w.binder
  clock : u.clock = w.clock

/-- Whether two results, each from its world, answer alike and have written the same for
an owner. -/
structure Twins {α : Type} (x : String) (w u : World) (r r' : Outcome α × World) : Prop where
  answer : r'.1 = r.1
  writes : ∃ a?, w.store.Writes x a? r.2.store ∧ u.store.Writes x a? r'.2.store
  left : w.SameRest r.2
  right : u.SameRest r'.2

variable {α : Type} {w u v : World} {x : String} {r r' : Outcome α × World}

theorem sameRest_refl (w : World) : w.SameRest w := ⟨rfl, rfl, rfl⟩

theorem SameRest.trans (h : w.SameRest u) (h' : u.SameRest v) : w.SameRest v :=
  ⟨h'.program.trans h.program, h'.binder.trans h.binder, h'.clock.trans h.clock⟩

theorem sameRest_saved (w : World) (x : String) (s : Store) (n? : Option Notice) :
    w.SameRest (w.saved x s n?) := ⟨rfl, rfl, rfl⟩

theorem Twins.matchesAt (h : Twins x w u r r') (hwu : w.MatchesAt x u) : r.2.MatchesAt x r'.2 := by
  obtain ⟨a?, hw, hu⟩ := h.writes
  refine ⟨?_, ?_, ?_, hw.sameAt hu hwu.store⟩
  · rw [h.right.program, h.left.program, hwu.program]
  · rw [h.right.binder, h.left.binder, hwu.binder]
  · rw [h.right.clock, h.left.clock, hwu.clock]

theorem Twins.answered (h : Twins x w u r r') (f : α → Answer) :
    Twins x w u (answered f r) (answered f r') :=
  ⟨congrArg (Except.map f) h.answer, h.writes, h.left, h.right⟩

/-- Nothing is written by what leaves the world as it was. -/
theorem twins_of_same (x : String) (w u : World) (r : Outcome α) : Twins x w u (r, w) (r, u) :=
  ⟨rfl, ⟨none, .nothing, .nothing⟩, sameRest_refl w, sameRest_refl u⟩

theorem twins_asked {r r' : Outcome α} (f : α → Answer) (hr : r' = r) :
    Twins x w u (w.asked f r) (u.asked f r') := by
  rw [hr]
  exact twins_of_same x w u _

/-! ## Changes -/

theorem twins_changed {f : Account → Outcome (α × Account)} (h : w.MatchesAt x u)
    (hx : w.store.OrderlyAt x)
    (hf : ∀ a y a', f a = .ok (y, a') → a'.authority = a.authority)
    (notice? : α → Option Notice) :
    Twins x w u (w.changed x f notice?) (u.changed x f notice?) := by
  have hload := h.store.load_eq
  rw [changed, changed, hload]
  cases ha : w.store.load x with
  | error e => exact twins_of_same x w u _
  | ok a =>
      obtain ⟨hauthority, hsole⟩ := hx a ha
      cases hb : f a with
      | error e =>
          simp only [hb]
          exact twins_of_same x w u _
      | ok p =>
          obtain ⟨y, a'⟩ := p
          have ha' : a'.authority = x := (hf a y a' hb).trans hauthority
          rcases h.store.saving_alike a' (ha' ▸ ha) (ha' ▸ hload.trans ha) with
            ⟨e, hs, ht⟩ | ⟨s', t', hsave, hsave', hs, ht⟩
          · simp only [hb, hs, ht]
            exact twins_of_same x w u _
          · simp only [hb, hs, ht]
            exact ⟨rfl,
              ⟨some a', .account ha' hsole hsave, .account ha' (h.store.sole hsole) hsave'⟩,
              sameRest_saved w x s' _, sameRest_saved u x t' _⟩

theorem twins_openAccount (h : w.MatchesAt x u) :
    Twins x w u (w.openAccount x) (u.openAccount x) := by
  rw [openAccount_eq, openAccount_eq, h.program]
  cases ha : Account.opened x w.program with
  | error e => exact twins_of_same x w u _
  | ok a =>
      have hsound := Account.sound_opened ha
      have hcontains := h.store.contains_eq
      simp only [Store.create_eq, hsound.authority, hcontains]
      cases hc : w.store.contains x with
      | error e => exact twins_of_same x w u _
      | ok there =>
          cases there with
          | true => exact twins_of_same x w u _
          | false =>
              have hsole := Store.sole_of_isPlain hsound.isPlain
              rcases h.store.save_alike a with ⟨e, hs, ht⟩ | ⟨s', t', hs, ht⟩
              · simp only [hs, ht]
                exact twins_of_same x w u _
              · simp only [hs, ht]
                exact ⟨rfl, ⟨some a, .account hsound.authority (hsole _) hs,
                  .account hsound.authority (hsole _) ht⟩, ⟨rfl, rfl, rfl⟩,
                  ⟨h.program.symm, rfl, rfl⟩⟩

theorem twins_edit {op : Operation} {e : Edit} (h : w.MatchesAt x u) (hx : w.store.OrderlyAt x)
    (he : op.edit? = some (x, e)) : Twins x w u (w.step op) (u.step op) := by
  obtain ⟨β, f, body, notice?, hstep, hedit, -⟩ := step_eq_changed he
  rw [hstep, hstep, h.clock]
  refine (twins_changed h hx ?_ notice?).answered f
  intro a y a' hb
  exact Account.authority_edit (c := w.clock) (e := e) (by rw [hedit, hb]; rfl)

theorem twins_issue (h : w.MatchesAt x u) (hx : w.store.OrderlyAt x) (spec : KeySpec) :
    Twins x w u (w.issue x spec) (u.issue x spec) := by
  rw [issue_eq, issue_eq, h.clock]
  split
  next => exact twins_of_same x w u _
  next => exact twins_of_same x w u _
  next =>
    refine twins_changed h hx ?_ _
    intro a k a' hb
    obtain ⟨-, -, rfl⟩ := Account.issue_eq_ok_iff.1 hb
    rfl

/-- A batch is issued alike: what its keys write comes to what the last of them has written. -/
theorem twins_issueAll (h : w.MatchesAt x u) (hx : w.store.OrderlyAt x) (specs : List KeySpec) :
    Twins x w u (w.issueAll x specs) (u.issueAll x specs) := by
  induction specs generalizing w u with
  | nil => exact twins_of_same x w u _
  | cons spec specs ih =>
      have hfirst := twins_issue h hx spec
      obtain ⟨a?, hw, hu⟩ := hfirst.writes
      obtain ⟨hks, ⟨b?, hw', hu'⟩, hl, hr⟩ := ih (hfirst.matchesAt h) (hw.orderlyAt hx)
      obtain ⟨hanswer, -, hleft, hright⟩ := hfirst
      rw [issueAll, issueAll]
      cases hissue : w.issue x spec with
      | mk r w₁ =>
          cases hissue' : u.issue x spec with
          | mk r' u₁ =>
              rw [hissue] at hanswer hw hw' hks hl hleft
              rw [hissue'] at hanswer hu hu' hks hr hright
              obtain rfl : r' = r := hanswer
              cases r' with
              | error f => exact ⟨rfl, ⟨a?, hw, hu⟩, hleft, hright⟩
              | ok k =>
                  exact ⟨congrArg (Except.map (k :: ·)) hks, ⟨_, hw.trans hw', hu.trans hu'⟩,
                    hleft.trans hl, hright.trans hr⟩

/-! ## Every operation of an owner -/

/-- An operation about an owner is the same in worlds that agree about the owner. -/
theorem twins_step {op : Operation} (h : w.MatchesAt x u) (hx : w.store.OrderlyAt x)
    (hop : op.own? = some x) : Twins x w u (w.step op) (u.step op) := by
  have haccount : u.account x = w.account x := h.store.load_eq
  cases op with
  | openAccount y =>
      obtain rfl := Option.some.inj hop
      exact (twins_openAccount h).answered _
  | issue y spec =>
      obtain rfl := Option.some.inj hop
      exact (twins_issue h hx spec).answered _
  | issueAll y specs =>
      obtain rfl := Option.some.inj hop
      exact (twins_issueAll h hx specs).answered _
  | revise y key expiresAt? permissions? =>
      obtain rfl := Option.some.inj hop
      exact twins_edit h hx rfl
  | revoke y key =>
      obtain rfl := Option.some.inj hop
      exact twins_edit h hx rfl
  | revokeAll y =>
      obtain rfl := Option.some.inj hop
      exact twins_edit h hx rfl
  | prune y =>
      obtain rfl := Option.some.inj hop
      exact twins_edit h hx rfl
  | setMints y mints =>
      obtain rfl := Option.some.inj hop
      exact twins_edit h hx rfl
  -- A question is answered from the account and the reading.
  | account y =>
      obtain rfl := Option.some.inj hop
      exact twins_asked _ haccount
  | key y key =>
      obtain rfl := Option.some.inj hop
      exact twins_asked _ (by rw [World.key, World.key, haccount])
  | statuses y =>
      obtain rfl := Option.some.inj hop
      exact twins_asked _ (by rw [statuses, statuses, haccount, h.clock])
  | activeKeys y =>
      obtain rfl := Option.some.inj hop
      exact twins_asked _ (by rw [activeKeys, activeKeys, haccount, h.clock])
  | expiringKeys y within =>
      obtain rfl := Option.some.inj hop
      exact twins_asked _ (by rw [expiringKeys, expiringKeys, haccount, h.clock])
  | isKeyValid y key =>
      obtain rfl := Option.some.inj hop
      exact twins_asked _ (by rw [isKeyValid, isKeyValid, haccount, h.clock])
  | expectedDelegate y mint =>
      obtain rfl := Option.some.inj hop
      exact twins_asked _ (by rw [expectedDelegate, expectedDelegate, h.store.load_eq, h.binder])
  | _ => cases hop

/-! ## Two owners -/

theorem matchesAt_refl (x : String) (w : World) : w.MatchesAt x w :=
  ⟨rfl, rfl, rfl, Store.sameAt_refl x w.store⟩

/-- What an operation does to a store in which accounts stand in places of their own. -/
theorem writes_step (h : w.store.Orderly) (op : Operation) :
    ∃ x a?, w.store.Writes x a? (w.step op).2.store := by
  cases hop : op.own? with
  | some x =>
      obtain ⟨a?, hwrites, -⟩ := (twins_step (matchesAt_refl x w) (h x) hop).writes
      exact ⟨x, a?, hwrites⟩
  | none =>
      have hbatch : op.isBatch = false := by cases op <;> first | rfl | cases hop
      have hedit : op.edit? = none := by cases op <;> first | rfl | cases hop
      rcases follows_step (w := w) hbatch hedit with ⟨y, rfl⟩ | hfollows
      · cases hop
      · exact ⟨"", none, hfollows.store ▸ .nothing⟩

variable {y : String} {op opA opB : Operation}

/-- What is done for one owner leaves a world that agrees with the world before about another. -/
theorem matchesAt_stepAt (hy : w.store.OrderlyAt y) (hop : op.own? = some y) (hxy : x ≠ y)
    (c c' : Reading) : (w.withClock c').MatchesAt x ((w.stepAt c op).2.withClock c') := by
  have htwins := twins_step (matchesAt_refl y (w.withClock c)) hy hop
  obtain ⟨a?, hwrites, -⟩ := htwins.writes
  exact ⟨htwins.left.program, htwins.left.binder, rfl, hwrites.sameAt_other hxy⟩

/-- What two operations about two owners write, in either order. -/
theorem writes_stepAt (hx : w.store.OrderlyAt x) (hy : w.store.OrderlyAt y) (hxy : x ≠ y)
    (hA : opA.own? = some x) (hB : opB.own? = some y) (cA cB : Reading) :
    let wA := (w.stepAt cA opA).2
    let wB := (w.stepAt cB opB).2
    ∃ a? b?, w.store.Writes x a? wA.store ∧ wA.store.Writes y b? (wA.stepAt cB opB).2.store ∧
      w.store.Writes y b? wB.store ∧ wB.store.Writes x a? (wB.stepAt cA opA).2.store := by
  have htwinsA := twins_step (matchesAt_stepAt hy hB hxy cB cA) hx hA
  have htwinsB := twins_step (matchesAt_stepAt hx hA hxy.symm cA cB) hy hB
  obtain ⟨a?, hwritesA, hwritesBA⟩ := htwinsA.writes
  obtain ⟨b?, hwritesB, hwritesAB⟩ := htwinsB.writes
  exact ⟨a?, b?, hwritesA, hwritesAB, hwritesB, hwritesBA⟩

/--
Owners are apart. In every store in which the accounts stand in places of their own, and that is any
store in memory with each account under its authority and any reachable store, what is done for one
owner changes nothing for another: the other's account, whether there is one, and what any operation
about the other answers at any reading. Done in either order, two operations about two owners give
the same two answers and the same store, with the same lookups.
-/
theorem owners_are_apart :
    (∀ l : List (String × Account), (∀ e ∈ l, e.2.authority = e.1) →
      (Store.memory l).Orderly) ∧
    (∀ (program : String) (s : Store), s.Reachable program → s.Orderly) ∧
    ∀ (w : World) (x y : String) (opA opB : Operation) (cA cB : Reading), w.store.Orderly →
      x ≠ y → opA.own? = some x → opB.own? = some y →
      let wA := (w.stepAt cA opA).2
      let wB := (w.stepAt cB opB).2
      (wA.store.load y = w.store.load y ∧ wA.store.contains y = w.store.contains y ∧
        ∀ q c, q.own? = some y → (wA.stepAt c q).1 = (w.stepAt c q).1) ∧
      (wA.stepAt cB opB).1 = (w.stepAt cB opB).1 ∧
      (wB.stepAt cA opA).1 = (w.stepAt cA opA).1 ∧
      let s := (wA.stepAt cB opB).2.store
      let t := (wB.stepAt cA opA).2.store
      s.Same t ∧ t.authorities = s.authorities ∧
        ∀ z, t.load z = s.load z ∧ t.contains z = s.contains z := by
  refine ⟨fun l => Store.orderly_memory, ?_, ?_⟩
  · intro program s hs
    obtain ⟨l, hl⟩ := hs.holds
    exact hl.orderly
  · intro w x y opA opB cA cB hw hxy hA hB wA wB
    have hanswerA {q : Operation} (c : Reading) (hq : q.own? = some y) :
        (wA.stepAt c q).1 = (w.stepAt c q).1 :=
      (twins_step (matchesAt_stepAt (hw x) hA hxy.symm cA c) (hw y) hq).answer
    have hanswerB : (wB.stepAt cA opA).1 = (w.stepAt cA opA).1 :=
      (twins_step (matchesAt_stepAt (hw y) hB hxy cB cA) (hw x) hA).answer
    have hsameAt := (matchesAt_stepAt (hw x) hA hxy.symm cA cB).store
    obtain ⟨a?, b?, hwA, hwAB, hwB, hwBA⟩ := writes_stepAt (hw x) (hw y) hxy hA hB cA cB
    have hsame := hwA.same hxy hwAB hwB hwBA
    have hplaces := hwA.sameAt_comm hxy hwAB hwB hwBA
    exact ⟨⟨hsameAt.load_eq, hsameAt.contains_eq, fun q c hq => hanswerA c hq⟩, hanswerA cB hB,
      hanswerB, hsame, hsame.authorities_eq,
      fun z => ⟨(hplaces z).load_eq, (hplaces z).contains_eq⟩⟩

/-- A key that two owners have issued under one identity is revoked for the first and stays valid
for the second. -/
theorem owners_are_apart_one_key :
    let k : SessionKey := { identity := "k", createdAt := 0, expiresAt := 5, unit := .time }
    let a : Account := { authority := "a/b", address := "", bump := 0, keys := ⟨10, [k]⟩ }
    let b : Account := { authority := "a_b", address := "", bump := 0, keys := ⟨10, [k]⟩ }
    let w : World := { store := .memory [("a/b", a), ("a_b", b)] }
    let wA := (w.stepAt ⟨1, 1⟩ (.revoke "a/b" "k")).2
    (wA.stepAt ⟨2, 2⟩ (.isKeyValid "a/b" "k")).1 = .ok (.truth false) ∧
      wA.store.load "a_b" = .ok b ∧
      (wA.stepAt ⟨2, 2⟩ (.isKeyValid "a_b" "k")).1 = .ok (.truth true) := by
  intro k a b w wA
  have hwf (x : String) (l : SessionKey) (hl : l.label = Label.blank) :
      ({ authority := x, address := "", bump := 0, keys := ⟨10, [l]⟩ } : Account).WellFormed := by
    refine ⟨⟨rfl, Nat.le_add_left 1 9, List.nodup_singleton _, ?_⟩, ⟨Nat.zero_le _, List.nodup_nil⟩⟩
    intro k' hk'
    rw [List.mem_singleton.1 hk', hl]
    rfl
  have ha : w.store.load "a/b" = .ok a := Account.ofJson_toJson (hwf _ k rfl)
  have hb : w.store.load "a_b" = .ok b := Account.ofJson_toJson (hwf _ k rfl)
  let a' : Account := { a with keys := ⟨10, [k.revoke]⟩ }
  have hsave : w.store.save a' = .ok (.memory [("a/b", a'), ("a_b", b)]) := by
    rw [Store.save_memory_eq, Account.ofJson_toJson (hwf _ k.revoke rfl)]
    rfl
  have he : (Operation.revoke "a/b" "k").edit? = some ("a/b", .revoke "k") := rfl
  have hedit : a.edit ⟨1, 1⟩ (.revoke "k") = .ok a' := rfl
  obtain ⟨answer, sink, hstep⟩ := step_of_edit (w := w.withClock ⟨1, 1⟩) he ha hedit hsave
  have ha' : wA.store.load "a/b" = .ok a' := by
    rw [show wA = _ from congrArg Prod.snd hstep]
    exact Account.ofJson_toJson (hwf _ k.revoke rfl)
  have horderly : w.store.Orderly := by
    apply owners_are_apart.1
    simp [a, b]
  obtain ⟨⟨hload, -, hanswers⟩, -⟩ := owners_are_apart.2.2 w "a/b" "a_b" (.revoke "a/b" "k")
    (.revoke "a_b" "k") ⟨1, 1⟩ ⟨1, 1⟩ horderly (by decide) rfl rfl
  have hasked (u : World) (x : String) : (u.stepAt ⟨2, 2⟩ (.isKeyValid x "k")).1 =
      ((u.store.load x).map (Account.isKeyValid ⟨2, 2⟩ "k")).map .truth := rfl
  refine ⟨?_, hload.trans hb, (hanswers _ ⟨2, 2⟩ rfl).trans ?_⟩
  · rw [hasked, ha']
    rfl
  · rw [hasked, hb]
    rfl

end World

end Keyring
