import Keyring.Proofs.Account.Amendment
import Keyring.Proofs.Engine.Changes

/-!
# Amending one key in a store

When a key of an account in a reachable store is amended, the answer depends on that key alone:
whether it is there, what the rule says to it, and whether the store can write down what the rule
makes of it. What is done to another key in between does not matter, then, and since of two accounts
that are saved under one authority the second is what stays, two keys are amended in either order to
the same effect.
-/

namespace Keyring

open Outcome

def Account.verdict (s : Store) (key : String) (rule : Rule) (a : Account) :
    Outcome SessionKey := do
  let k ← a.keys.get key
  let l ← rule k
  if s.canWriteKey l then .ok l else .error .unwritable

variable {program x key j : String} {a : Account} {k l m : SessionKey} {rule : Rule}

theorem Account.verdict_of_some (hk : a.keys.find? key = some k) (s : Store) (rule : Rule) :
    a.verdict s key rule =
      rule k >>= fun l => if s.canWriteKey l then .ok l else .error .unwritable := by
  rw [verdict, Registry.get_eq_ok_iff.2 hk]
  rfl

theorem Account.verdict_replaced (hkj : key ≠ j) (hm : m.identity = j) {s s' : Store}
    (hs : s'.canWriteKey = s.canWriteKey) (rule : Rule) :
    (a.replaced j m).verdict s' key rule = a.verdict s key rule := by
  have hget : (a.replaced j m).keys.get key = a.keys.get key := by
    rw [Registry.get, Registry.get, find?_replaced hm, if_neg hkj]
  rw [verdict, verdict, hget, hs]

theorem Account.Sound.replaced (ha : a.Sound program x) (hl : l.identity = key)
    (hlabel : l.label.length = Label.size) : (a.replaced key l).Sound program x :=
  ⟨ha.authority, ha.derived, ha.wellFormed.replaced hl hlabel⟩

namespace Store

variable {s s' : Store}

theorem canWriteKey_save (hs : s.save a = .ok s') : s'.canWriteKey = s.canWriteKey := by
  cases s with
  | memory l =>
      obtain ⟨kept, -, rfl⟩ := save_memory_eq_ok hs
      rfl
  | folder f =>
      obtain ⟨f', -, rfl⟩ := save_folder_eq_ok hs
      rfl

theorem Reachable.canWrite_replaced (h : s.Reachable program) (ha : s.load x = .ok a)
    (hk : a.keys.find? key = some k) (hl : l.identity = key)
    (hlabel : l.label.length = Label.size) :
    s.canWrite (a.replaced key l) = s.canWriteKey l :=
  h.canWrite_eq ha ((h.sound ha).replaced hl hlabel) (Account.mem_replaced_self hk hl)
    fun _ => Account.mem_replaced

end Store

namespace World

variable {w : World} {p q : Operation}

/-! ## One key -/

/-- What becomes of a key to which its rule has agreed. -/
theorem changed_amend_of_agreed (h : w.store.Reachable program) (ha : w.store.load x = .ok a)
    (hrule : rule.Keeps) (hk : a.keys.find? key = some k) (hl : rule k = .ok l)
    (notice? : SessionKey → Option Notice) :
    (w.store.canWriteKey l = false ∧
      w.changed x (Account.amend key rule) notice? = (.error .unwritable, w)) ∨
    (w.store.canWriteKey l = true ∧ ∃ s, w.store.save (a.replaced key l) = .ok s ∧
      w.store.Puts x (a.replaced key l) s ∧
      w.changed x (Account.amend key rule) notice? = (.ok l, w.saved x s (notice? l))) := by
  have hwell := (h.sound ha).wellFormed
  obtain ⟨hid, hlabel⟩ := hrule k l hl
  have hid : l.identity = key := hid.trans (Registry.identity_of_find? hk)
  have hlabel : l.label.length = Label.size :=
    hlabel ▸ hwell.keys.label k (Registry.mem_of_find? hk)
  have hamend : a.amend key rule = .ok (l, a.replaced key l) := by
    rw [Account.amend_of_some hk, hl]
    rfl
  rw [← h.canWrite_replaced ha hk hid hlabel]
  exact changed_of_agreed h ha hamend ((h.sound ha).replaced hid hlabel) notice?

/-- A key is amended as the verdict says, and nothing changes if that is a fault. -/
theorem changed_amend (h : w.store.Reachable program) (ha : w.store.load x = .ok a)
    (hrule : rule.Keeps) (notice? : SessionKey → Option Notice) :
    (∃ f, a.verdict w.store key rule = .error f ∧
      w.changed x (Account.amend key rule) notice? = (.error f.raised, w)) ∨
    ∃ l s, a.verdict w.store key rule = .ok l ∧ l.identity = key ∧
      w.store.save (a.replaced key l) = .ok s ∧ w.store.Puts x (a.replaced key l) s ∧
      w.changed x (Account.amend key rule) notice? = (.ok l, w.saved x s (notice? l)) := by
  cases hk : a.keys.find? key with
  | none =>
      refine .inl ⟨.refusal (.keyNotFound key), ?_, ?_⟩
      · rw [Account.verdict, Registry.get, hk]
        rfl
      · exact changed_of_refused ha (Account.amend_of_none hk) notice?
  | some k =>
      have hverdict := Account.verdict_of_some hk w.store rule
      cases hl : rule k with
      | error f =>
          have hamend : a.amend key rule = .error f := by
            rw [Account.amend_of_some hk, hl]
            rfl
          exact .inl ⟨f, by rw [hverdict, hl, error_bind], changed_of_refused ha hamend notice?⟩
      | ok l =>
          rw [hl, ok_bind] at hverdict
          rcases changed_amend_of_agreed h ha hrule hk hl notice? with
            ⟨hwrite, hchange⟩ | ⟨hwrite, s, hs, hputs, hchange⟩
          · exact .inl ⟨.unwritable, by rw [hverdict, hwrite]; rfl, hchange⟩
          · have hid := (hrule k l hl).1.trans (Registry.identity_of_find? hk)
            exact .inr ⟨l, s, by rw [hverdict, hwrite]; rfl, hid, hs, hputs, hchange⟩

/-! ## Two keys -/

structure Amends (p : Operation) (x key : String) (rule : Reading → Rule) : Prop where
  keeps : ∀ c, (rule c).Keeps
  step : ∃ notice? : SessionKey → Option Notice, ∀ w : World,
    w.step p = answered .key (w.changed x (Account.amend key (rule w.clock)) notice?)

/-- Whether two operations can change places: each is answered as it is alone, and together they
leave the same in either order, but for the order of what they tell. -/
structure Commute (w : World) (p q : Operation) : Prop where
  left : ((w.step q).2.step p).1 = (w.step p).1
  right : ((w.step p).2.step q).1 = (w.step q).1
  world : { ((w.step p).2.step q).2 with sink := w.sink } =
    { ((w.step q).2.step p).2 with sink := w.sink }

variable {r r' : Reading → Rule} {f : Fault}

theorem amends_revoke (x key : String) : Amends (.revoke x key) x key fun _ => .revocation key :=
  ⟨fun _ => Rule.keeps_revocation key, _, fun w => by
    rw [step, revoke_eq, show Account.revoke key = _ from funext (Account.revoke_eq_amend key)]⟩

theorem amends_revise (x key : String) (expiresAt? : Option Int)
    (permissions? : Option Permissions) :
    Amends (.revise x key expiresAt? permissions?) x key
      fun c => .revision c key expiresAt? permissions? :=
  ⟨fun c => Rule.keeps_revision c key expiresAt? permissions?, _, fun w => by
    rw [step, revise_eq, show Account.revise w.clock key expiresAt? permissions? = _ from
      funext (Account.revise_eq_amend w.clock key expiresAt? permissions?)]⟩

namespace Amends

theorem cases (hp : Amends p x key r) (h : w.store.Reachable program)
    (ha : w.store.load x = .ok a) :
    (∃ f, a.verdict w.store key (r w.clock) = .error f ∧ w.step p = (.error f.raised, w)) ∨
    ∃ l s sink, a.verdict w.store key (r w.clock) = .ok l ∧ l.identity = key ∧
      w.store.save (a.replaced key l) = .ok s ∧ s.load x = .ok (a.replaced key l) ∧
      w.step p = (.ok (.key l), { w with store := s, sink := sink }) := by
  obtain ⟨notice?, hstep⟩ := hp.step
  rw [hstep]
  rcases changed_amend h ha (hp.keeps w.clock) notice? with
    ⟨f, hverdict, hchange⟩ | ⟨l, s, hverdict, hid, hs, hputs, hchange⟩
  · exact .inl ⟨f, hverdict, by rw [hchange]; rfl⟩
  · exact .inr ⟨l, s, _, hverdict, hid, hs, hputs.here, by rw [hchange]; rfl⟩

theorem answer (hp : Amends p x key r) (h : w.store.Reachable program)
    (ha : w.store.load x = .ok a) :
    (w.step p).1 =
      ((a.verdict w.store key (r w.clock)).mapError Fault.raised).map .key := by
  rcases hp.cases h ha with ⟨f, hverdict, hstep⟩ | ⟨l, s, sink, hverdict, -, -, -, hstep⟩ <;>
    rw [hverdict, hstep] <;> rfl

theorem unchanged (hp : Amends p x key r) (h : w.store.Reachable program)
    (ha : w.store.load x = .ok a) (hf : (w.step p).1 = .error f) : (w.step p).2 = w := by
  rcases hp.cases h ha with ⟨g, -, hstep⟩ | ⟨l, s, sink, -, -, -, -, hstep⟩
  · rw [hstep]
  · rw [hstep] at hf
    cases hf

/-- The verdict about one key is the same when another has been amended. -/
theorem verdict_after (hq : Amends q x j r') (hkj : key ≠ j) (h : w.store.Reachable program)
    (ha : w.store.load x = .ok a) :
    ∃ b, (w.step q).2.store.load x = .ok b ∧ (w.step q).2.clock = w.clock ∧
      ∀ rule, b.verdict (w.step q).2.store key rule = a.verdict w.store key rule := by
  rcases hq.cases h ha with ⟨f, -, hstep⟩ | ⟨m, s, sink, -, hid, hs, hload, hstep⟩ <;> rw [hstep]
  · exact ⟨a, ha, rfl, fun _ => rfl⟩
  · exact ⟨_, hload, rfl, Account.verdict_replaced hkj hid (Store.canWriteKey_save hs)⟩

theorem answer_after (hp : Amends p x key r) (hq : Amends q x j r') (hkj : key ≠ j)
    (h : w.store.Reachable w.program) (ha : w.store.load x = .ok a) :
    ((w.step q).2.step p).1 = (w.step p).1 := by
  obtain ⟨b, hb, hclock, hverdict⟩ := hq.verdict_after hkj h ha
  rw [hp.answer (reachable_step h q) hb, hp.answer h ha, hclock, hverdict]

/-- A key that is refused is refused after another has been amended, and changes nothing then. -/
theorem unchanged_after (hp : Amends p x key r) (hq : Amends q x j r') (hkj : key ≠ j)
    (h : w.store.Reachable w.program) (ha : w.store.load x = .ok a) (hf : (w.step p).1 = .error f) :
    ((w.step q).2.step p).2 = ((w.step p).2.step q).2 := by
  obtain ⟨b, hb, -⟩ := hq.verdict_after hkj h ha
  have hf' := (hp.answer_after hq hkj h ha).trans hf
  rw [hp.unchanged (reachable_step h q) hb hf', hp.unchanged h ha hf]

theorem cases_of_ok (hp : Amends p x key r) (h : w.store.Reachable program)
    (ha : w.store.load x = .ok a) {y : Answer} (hy : (w.step p).1 = .ok y) :
    ∃ l s sink, a.verdict w.store key (r w.clock) = .ok l ∧ l.identity = key ∧
      w.store.save (a.replaced key l) = .ok s ∧ s.load x = .ok (a.replaced key l) ∧
      w.step p = (.ok (.key l), { w with store := s, sink := sink }) := by
  rcases hp.cases h ha with ⟨f, -, hstep⟩ | hcase
  · rw [hstep] at hy
    cases hy
  · exact hcase

/-- What is left of two keys that have both been amended is saved as if it had been at once. -/
theorem save_both (hp : Amends p x key r) (hq : Amends q x j r') (hkj : key ≠ j)
    (h : w.store.Reachable w.program) (ha : w.store.load x = .ok a) {y z : Answer}
    (hy : (w.step p).1 = .ok y) (hz : (w.step q).1 = .ok z) :
    ∃ l m s sink, a.verdict w.store key (r w.clock) = .ok l ∧ l.identity = key ∧
      a.verdict w.store j (r' w.clock) = .ok m ∧ m.identity = j ∧
      w.store.save ((a.replaced key l).replaced j m) = .ok s ∧
      ((w.step p).2.step q).2 = { w with store := s, sink := sink } := by
  have hz' := (hq.answer_after hp hkj.symm h ha).trans hz
  have hreach := reachable_step h p
  obtain ⟨l, s₁, t₁, hl, hlid, hs₁, hload₁, hstep₁⟩ := hp.cases_of_ok h ha hy
  rw [hstep₁] at hz' hreach ⊢
  obtain ⟨m, s, t, hm, hmid, hs, -, hstep⟩ := hq.cases_of_ok hreach hload₁ hz'
  rw [Account.verdict_replaced hkj.symm hlid (Store.canWriteKey_save hs₁)] at hm
  have hauthority : (a.replaced key l).authority = ((a.replaced key l).replaced j m).authority :=
      rfl
  exact ⟨l, m, s, t, hl, hlid, hm, hmid, Store.save_save hauthority hs₁ hs, by rw [hstep]⟩

/-- Keys of two identities are amended in either order. -/
theorem commute (hp : Amends p x key r) (hq : Amends q x j r') (hkj : key ≠ j)
    (h : w.store.Reachable w.program) (ha : w.store.load x = .ok a) : w.Commute p q := by
  refine ⟨hp.answer_after hq hkj h ha, hq.answer_after hp hkj.symm h ha, ?_⟩
  cases hy : (w.step p).1 with
  | error f => rw [hp.unchanged_after hq hkj h ha hy]
  | ok y =>
      cases hz : (w.step q).1 with
      | error g => rw [hq.unchanged_after hp hkj.symm h ha hz]
      | ok z =>
          obtain ⟨l, m, s, t, hl, hlid, hm, hmid, hs, hstep⟩ := hp.save_both hq hkj h ha hy hz
          obtain ⟨m', l', s', t', hm', -, hl', -, hs', hstep'⟩ :=
            hq.save_both hp hkj.symm h ha hz hy
          obtain rfl := Except.ok.inj (hl.symm.trans hl')
          obtain rfl := Except.ok.inj (hm.symm.trans hm')
          rw [← Account.replaced_comm hkj hlid hmid] at hs'
          obtain rfl := Except.ok.inj (hs.symm.trans hs')
          rw [hstep, hstep']

end Amends

end World

end Keyring
