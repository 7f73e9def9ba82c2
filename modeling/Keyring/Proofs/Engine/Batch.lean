import Keyring.Proofs.Engine.Amending
import Keyring.Proofs.Engine.Issuing
import Mathlib.Data.Nat.Find

/-!
# Issuing several keys

A batch is cut at the first request that does not make sense, asks for a threshold that has been
reached, finds no room behind the keys that are there and those asked for before it, or names one of
those once more. The keys asked for before the cut are put behind the keys that are there, one event
tells of each, and the fault is the one that the request at the cut meets by itself. So a batch that
is met can be made longer, or be made in two parts.
-/

namespace Keyring

namespace KeySpec

def namedUnit (s : KeySpec) : ExpiryUnit :=
  if s.unit = ExpiryUnit.name .blockHeight then .blockHeight else .time

/-- The key that is issued at the reading `c` if the request is met. -/
def keyAt (s : KeySpec) (c : Reading) : SessionKey := s.issued c s.namedUnit

def notice (s : KeySpec) : Notice := .keyCreated s.key s.expiresAt s.unit s.permissions.toJson

theorem Sensible.namedUnit_eq {s : KeySpec} {unit : ExpiryUnit} (h : s.Sensible unit) :
    s.namedUnit = unit := by
  rw [namedUnit, h.named]
  cases unit with
  | time => exact if_neg (by decide)
  | blockHeight => exact if_pos rfl

end KeySpec

namespace World

/-- Whether a request can be met once those before it are. A folder has to write the key down. -/
structure Accepts (w : World) (a : Account) (earlier : List KeySpec) (s : KeySpec) : Prop
    extends s.Sensible s.namedUnit where
  ahead : w.clock.current s.namedUnit < s.expiresAt
  room : a.keys.size + earlier.length < Registry.maxKeys
  new : ∀ k ∈ a.keys.keys, k.identity ≠ s.key
  single : ∀ t ∈ earlier, t.key ≠ s.key
  written : w.store.canWriteKey (s.keyAt w.clock) = true

/-- Whether the first request that cannot be met is the one at `i`, or there is none and they are
`i` in number. -/
structure CutAt (w : World) (a : Account) (specs : List KeySpec) (i : Nat) : Prop where
  le : i ≤ specs.length
  before : ∀ j s, j < i → specs[j]? = some s → w.Accepts a (specs.take j) s
  here : ∀ s, specs[i]? = some s → ¬ w.Accepts a (specs.take i) s

variable {program x : String} {w v : World} {a : Account} {s t : KeySpec} {specs : List KeySpec}
  {unit : ExpiryUnit} {i : Nat}

theorem exists_cutAt (w : World) (a : Account) (specs : List KeySpec) : ∃ i, w.CutAt a specs i := by
  classical
  let P (i : Nat) : Prop := ∀ s, specs[i]? = some s → ¬ w.Accepts a (specs.take i) s
  have hlength : P specs.length := by
    intro s hs
    rw [List.getElem?_eq_none (Nat.le_refl _)] at hs
    cases hs
  have hexists : ∃ i, P i := ⟨_, hlength⟩
  refine ⟨Nat.find hexists, Nat.find_min' hexists hlength, ?_, Nat.find_spec hexists⟩
  intro j s hj hs
  by_contra haccepts
  refine Nat.find_min hexists hj ?_
  intro t ht
  obtain rfl : s = t := Option.some.inj (hs.symm.trans ht)
  exact haccepts

/-! ## One request -/

/-- What becomes of a key that can be issued. -/
theorem Admits.issues (h : w.store.Reachable program) (hs : w.Admits x s unit a)
    (hwrite : w.store.canWriteKey (s.issued w.clock unit) = true) :
    ∃ st, st.Reachable program ∧ w.store.Puts x (a.extended (s.issued w.clock unit)) st ∧
      st.canWriteKey = w.store.canWriteKey ∧
      w.issue x s = (.ok (s.issued w.clock unit), w.saved x st (some s.notice)) := by
  have hcan := (hs.canWrite_eq h).trans hwrite
  have hedit : a.edit w.clock
      (.issue s.key s.expiresAt unit s.permissions (s.issued w.clock unit).label) =
        .ok (a.extended (s.issued w.clock unit)) := by
    rw [Account.edit, hs.issue h]
    rfl
  have hop : (Operation.issue x s).edit? = some (x,
      .issue s.key s.expiresAt unit s.permissions (s.issued w.clock unit).label) := by
    have hunit : ExpiryUnit.ofName s.unit = .ok unit := hs.named ▸ unit.ofName_name
    have hlabel : Label.ofText? s.label = some (s.issued w.clock unit).label :=
      Label.ofText?_eq_some_iff.2 ⟨hs.short, rfl⟩
    rw [Operation.edit?, hunit, hlabel]
  obtain ⟨st, hsave, hreach, hputs⟩ :=
    h.exists_edit hs.load hop hedit ((Store.canWrite_iff (hs.sound h)).1 hcan)
  refine ⟨st, hreach, hputs, Store.canWriteKey_save hsave, ?_⟩
  rw [issue_of_sensible hs.toSensible, KeySpec.notice, hs.named]
  rcases changed_of_agreed h hs.load (hs.issue h) (hs.sound h) _ with
    ⟨hfalse, -⟩ | ⟨-, st', hsave', -, hchange⟩
  · rw [hcan] at hfalse
    cases hfalse
  · obtain rfl : st = st' := Except.ok.inj (hsave.symm.trans hsave')
    exact hchange

theorem Accepts.admits (h : w.Accepts a [] s) (ha : w.store.load x = .ok a) :
    w.Admits x s s.namedUnit a :=
  ⟨h.toSensible, ha, h.ahead, h.room, h.new⟩

/-- A request that cannot be met fails, whatever the reason, and changes nothing. -/
theorem issue_of_not_accepts (h : w.store.Reachable program) (ha : w.store.load x = .ok a)
    (hs : ¬ w.Accepts a [] s) : ∃ f, w.issue x s = (.error f, w) := by
  rcases withholds_or_admits h x s with ⟨f, hf⟩ | ⟨unit, b, hb⟩
  · exact ⟨f.raised, issue_of_withholds h hf⟩
  · obtain rfl : a = b := Except.ok.inj (ha.symm.trans hb.load)
    obtain rfl := hb.namedUnit_eq
    refine ⟨.unwritable, hb.unwritable h (Bool.eq_false_iff.2 fun hwrite => hs ?_)⟩
    exact ⟨hb.toSensible, hb.ahead, hb.room, hb.new, nofun, hwrite⟩

/-! ## The requests behind it -/

/-- Once a key is issued, it counts as one of those that are there. -/
theorem Accepts.next (h : w.Accepts a (s :: specs) t) (hclock : v.clock = w.clock)
    (hwrite : v.store.canWriteKey = w.store.canWriteKey) :
    v.Accepts (a.extended (s.keyAt w.clock)) specs t := by
  refine ⟨h.toSensible, hclock ▸ h.ahead, ?_, ?_, ?_, ?_⟩
  · have hroom := h.room
    rw [List.length_cons] at hroom
    rw [Account.extended, Registry.size, List.length_append, List.length_singleton]
    rw [Registry.size] at hroom
    omega
  · intro k hk
    rcases List.mem_append.1 hk with hk | hk
    · exact h.new k hk
    · rw [List.mem_singleton.1 hk]
      exact h.single s List.mem_cons_self
  · intro u hu
    exact h.single u (List.mem_cons_of_mem s hu)
  · rw [hwrite, hclock]
    exact h.written

theorem Accepts.of_next (h : v.Accepts (a.extended (s.keyAt w.clock)) specs t)
    (hclock : v.clock = w.clock) (hwrite : v.store.canWriteKey = w.store.canWriteKey) :
    w.Accepts a (s :: specs) t := by
  refine ⟨h.toSensible, hclock ▸ h.ahead, ?_, ?_, ?_, ?_⟩
  · have hroom := h.room
    rw [Account.extended, Registry.size, List.length_append, List.length_singleton] at hroom
    rw [Registry.size, List.length_cons]
    omega
  · intro k hk
    exact h.new k (List.mem_append_left _ hk)
  · intro u hu
    rcases List.mem_cons.1 hu with rfl | hu
    · exact h.new _ (List.mem_append_right _ (List.mem_singleton_self _))
    · exact h.single u hu
  · rw [← hwrite, ← hclock]
    exact h.written

theorem CutAt.next (h : w.CutAt a (s :: specs) (i + 1)) (hclock : v.clock = w.clock)
    (hwrite : v.store.canWriteKey = w.store.canWriteKey) :
    v.CutAt (a.extended (s.keyAt w.clock)) specs i := by
  constructor
  · exact Nat.le_of_succ_le_succ h.le
  · intro j t hj ht
    exact (h.before (j + 1) t (Nat.succ_lt_succ hj) ht).next hclock hwrite
  · intro t ht haccepts
    exact h.here t ht (haccepts.of_next hclock hwrite)

/-! ## The batch -/

/-- A world whose store is another, and to which of the keys of some requests it has been told. -/
def announced (w : World) (x : String) (st : Store) (specs : List KeySpec) : World :=
  { w with
    store := st
    sink := (specs.map fun s => (⟨x, s.notice⟩ : Event)).foldl Sink.notify w.sink }

theorem issueAll_of_cutAt (h : w.store.Reachable program) (ha : w.store.load x = .ok a)
    (hcut : w.CutAt a specs i) :
    ∃ st, st.Reachable program ∧
      st.load x = .ok { a with keys := { a.keys with
        keys := a.keys.keys ++ (specs.take i).map (·.keyAt w.clock) } } ∧
      (∀ y, y ≠ x → st.load y = w.store.load y) ∧
      ((i = specs.length ∧ w.issueAll x specs =
          (.ok (specs.map (·.keyAt w.clock)), w.announced x st (specs.take i))) ∨
        ∃ s f, specs[i]? = some s ∧
          (w.announced x st (specs.take i)).issue x s =
              (.error f, w.announced x st (specs.take i)) ∧
          w.issueAll x specs = (.error f, w.announced x st (specs.take i))) := by
  induction specs generalizing w a i with
  | nil =>
      obtain rfl : i = 0 := Nat.le_zero.1 hcut.le
      refine ⟨w.store, h, ?_, fun _ _ => rfl, .inl ⟨rfl, rfl⟩⟩
      simpa using ha
  | cons s specs ih =>
      cases i with
      | zero =>
          obtain ⟨f, hf⟩ := issue_of_not_accepts h ha (hcut.here s rfl)
          refine ⟨w.store, h, ?_, fun _ _ => rfl, .inr ⟨s, f, rfl, hf, ?_⟩⟩
          · simpa using ha
          · rw [issueAll, hf]
            rfl
      | succ i =>
          have haccepts := hcut.before 0 s (Nat.succ_pos i) rfl
          obtain ⟨st, hreach, hputs, hwrite, hissue⟩ :=
            (haccepts.admits ha).issues h haccepts.written
          obtain ⟨st', hreach', hhere, helsewhere, hends⟩ := ih
            (w := w.saved x st (some s.notice)) hreach hputs.here (hcut.next rfl hwrite)
          refine ⟨st', hreach', ?_, ?_, ?_⟩
          · rw [hhere, List.take_succ_cons, List.map_cons]
            simp only [Account.extended, List.append_assoc, List.singleton_append]
            rfl
          · intro y hy
            exact (helsewhere y hy).trans (hputs.elsewhere y hy)
          · rcases hends with ⟨hi, hall⟩ | ⟨t, f, ht, hf, hall⟩
            · refine .inl ⟨congrArg Nat.succ hi, ?_⟩
              rw [issueAll, hissue]
              simp only [hall]
              rfl
            · refine .inr ⟨t, f, ht, hf, ?_⟩
              rw [issueAll, hissue]
              simp only [hall]
              rfl

/-- A batch that is met, and then more. -/
theorem issueAll_append {keys : List SessionKey} (h : w.issueAll x specs = (.ok keys, v))
    (more : List KeySpec) : w.issueAll x (specs ++ more) =
      ((v.issueAll x more).1.map (keys ++ ·), (v.issueAll x more).2) := by
  induction specs generalizing w keys with
  | nil =>
      obtain ⟨hkeys, rfl⟩ := Prod.mk.inj h
      obtain rfl := Except.ok.inj hkeys
      rw [List.nil_append]
      refine Prod.ext ?_ rfl
      cases (w.issueAll x more).1 <;> rfl
  | cons s specs ih =>
      rw [issueAll] at h
      rw [List.cons_append, issueAll]
      rcases hissue : w.issue x s with ⟨r, u⟩
      rw [hissue] at h
      cases r with
      | error f => cases (Prod.mk.inj h).1
      | ok k =>
          dsimp only at h ⊢
          rcases hrest : u.issueAll x specs with ⟨q, u'⟩
          rw [hrest] at h
          obtain ⟨hkeys, rfl⟩ := Prod.mk.inj h
          obtain ⟨rest, rfl, rfl⟩ := Outcome.map_eq_ok.1 hkeys
          rw [ih hrest]
          refine Prod.ext ?_ rfl
          cases (u'.issueAll x more).1 <;> rfl

/-- What a batch comes to, for any requests that are made of an account in a reachable store. It is
cut at one place. The keys asked for before the cut are then behind the keys that are there, in
their order, the accounts of others are as they were, and one event has been told for each of these
keys. If there is nothing behind the cut, the keys are the answer; otherwise the fault is the one
with which the next request fails by itself in the world as it is then, which it leaves as it is. A
batch that is met and then another come to the same as both of them in one.
-/
theorem issueAll_exactly (h : w.store.Reachable program) (ha : w.store.load x = .ok a)
    (specs : List KeySpec) :
    (∃ i, w.CutAt a specs i) ∧
    (∀ i, w.CutAt a specs i →
      ∃ st, let v : World := { w with
          store := st
          sink := ((specs.take i).map fun s => (⟨x, s.notice⟩ : Event)).foldl Sink.notify w.sink }
        st.Reachable program ∧
        st.load x = .ok { a with keys := { a.keys with
          keys := a.keys.keys ++ (specs.take i).map (·.keyAt w.clock) } } ∧
        (∀ y, y ≠ x → st.load y = w.store.load y) ∧
        (i = specs.length → w.issueAll x specs = (.ok (specs.map (·.keyAt w.clock)), v)) ∧
        ∀ s, specs[i]? = some s →
          ∃ f, v.issue x s = (.error f, v) ∧ w.issueAll x specs = (.error f, v)) ∧
    ∀ keys v, w.issueAll x specs = (.ok keys, v) → ∀ more,
      w.issueAll x (specs ++ more) =
        ((v.issueAll x more).1.map (keys ++ ·), (v.issueAll x more).2) := by
  refine ⟨exists_cutAt w a specs, ?_, fun keys v hv => issueAll_append hv⟩
  intro i hcut
  obtain ⟨st, hreach, hhere, helsewhere, hends⟩ := issueAll_of_cutAt h ha hcut
  refine ⟨st, hreach, hhere, helsewhere, ?_, ?_⟩
  · intro hi
    rcases hends with ⟨-, hall⟩ | ⟨s, f, hs, -⟩
    · exact hall
    · rw [hi, List.getElem?_eq_none (Nat.le_refl _)] at hs
      cases hs
  · intro s hs
    rcases hends with ⟨hi, -⟩ | ⟨t, f, ht, hf, hall⟩
    · rw [hi, List.getElem?_eq_none (Nat.le_refl _)] at hs
      cases hs
    · obtain rfl : s = t := Option.some.inj (hs.symm.trans ht)
      exact ⟨f, hf, hall⟩

/-- A batch of one request with which nothing is wrong, but that its threshold has too many digits
to be written down: no key is issued. -/
theorem issueAll_beyond_limits : ∃ (w : World) (a : Account),
    w.store.Reachable "1" ∧ w.store.load "1" = .ok a ∧
      let far : KeySpec := { key := "2", expiresAt := (Text.Integer.tooLong : Nat) }
      far.Sensible .time ∧ w.clock.current .time < far.expiresAt ∧
        a.keys.size < Registry.maxKeys ∧ (∀ k ∈ a.keys.keys, k.identity ≠ far.key) ∧
        w.issueAll "1" [far] = (.error .unwritable, w) := by
  obtain ⟨f, a, hreach, hload, ha⟩ := Store.Reachable.opened_in_folder
  let w : World := { World.empty "1" with store := .folder f }
  generalize hn : Text.Integer.tooLong = n
  have hpos : 0 < (n : Int) := Int.natCast_pos.2 (hn ▸ Text.Integer.tooLong_pos)
  have hlong : Text.Integer.isTooLong n = true := hn ▸ Text.Integer.isTooLong_tooLong
  have hfar : w.Admits "1" { key := "2", expiresAt := n } .time a := .of_opened ha hload hpos "2"
  refine ⟨w, a, hreach, hload, hfar.toSensible, hfar.ahead, hfar.room, hfar.new, ?_⟩
  rw [issueAll, hfar.unwritable hreach (Store.canWriteKey_of_isTooLong hlong)]

/-- Of four requests the third names the key of the first again, so that the first two are met, and
the fourth is not looked at. -/
theorem issueAll_exactly_repeated : ∃ (w : World) (a : Account) (st : Store) (sink : Sink),
    let first : KeySpec := { key := "2", expiresAt := 1 }
    let second : KeySpec := { key := "3", expiresAt := 1, unit := "block_height", label := "é" }
    let last : KeySpec := { key := "4", expiresAt := 1 }
    w.store.Reachable "1" ∧ w.store.load "1" = .ok a ∧
      w.issueAll "1" [first, second, first, last] =
        (.error (.refusal (.keyExists "2")), { w with store := st, sink := sink }) ∧
      st.load "1" = .ok { a with keys := { a.keys with
        keys := a.keys.keys ++ [first.issued w.clock .time,
            second.issued w.clock .blockHeight] } } ∧
      sink.events = [⟨"1", first.notice⟩, ⟨"1", second.notice⟩] := by
  obtain ⟨a, ha⟩ := Account.exists_opened
  let w : World := { World.empty "1" with store := .memory [("1", a)] }
  let first : KeySpec := { key := "2", expiresAt := 1 }
  let second : KeySpec := { key := "3", expiresAt := 1, unit := "block_height", label := "é" }
  let last : KeySpec := { key := "4", expiresAt := 1 }
  have hreach : w.store.Reachable "1" := .opened ha
  have hload : w.store.load "1" = .ok a :=
    Account.ofJson_toJson (Account.sound_opened ha).wellFormed
  have hkeys := Account.keys_opened ha
  have hroom (n : Nat) (hn : n < Registry.maxKeys) : a.keys.size + n < Registry.maxKeys := by
    rw [hkeys]
    exact (Nat.zero_add n).symm ▸ hn
  have hnew (s : KeySpec) : ∀ k ∈ a.keys.keys, k.identity ≠ s.key := by
    rw [hkeys]
    exact nofun
  have hcut : w.CutAt a [first, second, first, last] 2 := by
    refine ⟨by decide, ?_, ?_⟩
    · intro j s hj hs
      match j with
      | 0 =>
          obtain rfl := Option.some.inj hs
          exact ⟨⟨rfl, by decide⟩, Int.zero_lt_one, hroom 0 (by decide), hnew _, nofun, rfl⟩
      | 1 =>
          obtain rfl := Option.some.inj hs
          exact ⟨⟨rfl, by decide⟩, Int.zero_lt_one, hroom 1 (by decide), hnew _, by decide, rfl⟩
    · intro s hs haccepts
      obtain rfl := Option.some.inj hs
      exact haccepts.single first List.mem_cons_self rfl
  obtain ⟨-, hbatch, -⟩ := issueAll_exactly hreach hload [first, second, first, last]
  obtain ⟨st, hst, hhere, -, -, hfault⟩ := hbatch 2 hcut
  obtain ⟨f, hissue, hall⟩ := hfault first rfl
  have hkey : first.issued w.clock .time ∈
      a.keys.keys ++ [first.issued w.clock .time, second.issued w.clock .blockHeight] :=
    List.mem_append_right _ List.mem_cons_self
  have htwo : (a.keys.keys ++
      [first.issued w.clock .time, second.issued w.clock .blockHeight]).length <
        Registry.maxKeys := by
    rw [hkeys]
    exact (by decide : 2 < 10)
  have hsensible : first.Sensible .time := ⟨rfl, by decide⟩
  have htaken := Withholds.taken (w := w.announced "1" st [first, second]) hsensible hhere
    Int.zero_lt_one htwo hkey rfl
  have hrefused := (issue_of_withholds hst htaken).symm.trans hissue
  obtain rfl := Except.error.inj (Prod.mk.inj hrefused).1
  exact ⟨w, a, st, _, hreach, hload, hall, hhere, rfl⟩

end World

end Keyring
