import Keyring.Proofs.Account.Validity
import Keyring.Proofs.Engine.Changes
import Keyring.Proofs.Label

/-!
# Issuing a key

What is asked of a new key is asked in one order: its unit is one, its label fits, its owner has an
account, its threshold lies ahead, the account has room for it, and no key there has its identity,
live or not. The first that fails is reported and nothing changes. A key of which all of this holds
is put behind the keys that are there, and is valid.
-/

namespace Keyring

namespace KeySpec

structure Sensible (s : KeySpec) (unit : ExpiryUnit) : Prop where
  named : s.unit = unit.name
  short : s.label.utf8ByteSize ≤ 32

def issued (s : KeySpec) (c : Reading) (unit : ExpiryUnit) : SessionKey where
  identity := s.key
  createdAt := c.time
  expiresAt := s.expiresAt
  unit
  permissions := s.permissions
  label := s.label.toUTF8.data.toList ++ List.replicate (32 - s.label.utf8ByteSize) 0
  state := .active

end KeySpec

namespace World

structure Admits (w : World) (x : String) (s : KeySpec) (unit : ExpiryUnit) (a : Account) : Prop
    extends s.Sensible unit where
  load : w.store.load x = .ok a
  ahead : w.clock.current unit < s.expiresAt
  room : a.keys.size < Registry.maxKeys
  new : ∀ k ∈ a.keys.keys, k.identity ≠ s.key

/-- Why a key is not issued: the first that fails of all that is asked. -/
inductive Withholds (w : World) (x : String) (s : KeySpec) : Fault → Prop
  | unit (hu : ∀ unit : ExpiryUnit, s.unit ≠ unit.name) :
      Withholds w x s (.decode (.notChoice (.str s.unit) "ExpirationType"))
  | label {unit : ExpiryUnit} (hu : s.unit = unit.name) (hl : 32 < s.label.utf8ByteSize) :
      Withholds w x s (.invalid .labelTooLong)
  | account {unit : ExpiryUnit} {f : Fault} (hs : s.Sensible unit)
      (ha : w.store.load x = .error f) (hf : w.store.Lacks x f) : Withholds w x s f
  | expiry {unit : ExpiryUnit} {a : Account} (hs : s.Sensible unit) (ha : w.store.load x = .ok a)
      (he : s.expiresAt ≤ w.clock.current unit) :
      Withholds w x s (.refusal (.invalidExpiry unit s.expiresAt (w.clock.current unit)))
  | full {unit : ExpiryUnit} {a : Account} (hs : s.Sensible unit) (ha : w.store.load x = .ok a)
      (he : w.clock.current unit < s.expiresAt) (hfull : Registry.maxKeys ≤ a.keys.size) :
      Withholds w x s (.refusal (.tooManyKeys Registry.maxKeys))
  | taken {unit : ExpiryUnit} {a : Account} {k : SessionKey} (hs : s.Sensible unit)
      (ha : w.store.load x = .ok a) (he : w.clock.current unit < s.expiresAt)
      (hroom : a.keys.size < Registry.maxKeys) (hk : k ∈ a.keys.keys) (hid : k.identity = s.key) :
      Withholds w x s (.refusal (.keyExists s.key))

end World

theorem ExpiryUnit.ofName_of_ne {s : String} (h : ∀ u : ExpiryUnit, s ≠ u.name) :
    ofName s = .error (.notChoice (.str s) "ExpirationType") := by
  rw [ofName, if_neg (h .time), if_neg (h .blockHeight)]

/-! ## What an account makes of a new key -/

namespace Account

open Outcome

def extended (a : Account) (k : SessionKey) : Account :=
  { a with keys := { a.keys with keys := a.keys.keys ++ [k] } }

variable {c : Reading} {a : Account} {key : String} {expiresAt : Int} {unit : ExpiryUnit}
  {permissions : Permissions} {label : Bytes}

theorem issue_of_past (h : expiresAt ≤ c.current unit) :
    a.issue c key expiresAt unit permissions label =
      .error (.refusal (.invalidExpiry unit expiresAt (c.current unit))) := by
  rw [issue, Reading.requireFuture, if_pos h, error_bind]

/-- Once the threshold is found to lie ahead, the registry decides. -/
theorem issue_of_ahead (h : c.current unit < expiresAt) (hlabel : label.length = Label.size) :
    a.issue c key expiresAt unit permissions label =
      (a.keys.add ⟨key, c.time, expiresAt, unit, permissions, label, .active⟩).map fun keys =>
        (⟨key, c.time, expiresAt, unit, permissions, label, .active⟩, { a with keys }) := by
  rw [issue, requireFuture_eq_ok_iff (u := ()).2 h, ok_bind, make_eq_ok_iff.2 ⟨hlabel, rfl⟩,
    ok_bind]
  cases a.keys.add ⟨key, c.time, expiresAt, unit, permissions, label, .active⟩ <;> rfl

end Account

namespace World

open Outcome

variable {program x : String} {w : World} {s : KeySpec} {unit : ExpiryUnit} {a : Account}
    {f : Fault}

/-! ## What the engine makes of a request -/

theorem length_label_issued (hs : s.Sensible unit) (c : Reading) :
    (s.issued c unit).label.length = Label.size :=
  Label.length_of_ofText? (Label.ofText?_eq_some_iff.2 ⟨hs.short, rfl⟩)

/-- A request that makes sense is a change of the account. -/
theorem issue_of_sensible (hs : s.Sensible unit) (w : World) (x : String) :
    w.issue x s = w.changed x
      (Account.issue w.clock s.key s.expiresAt unit s.permissions (s.issued w.clock unit).label)
      fun _ => some (.keyCreated s.key s.expiresAt unit.name s.permissions.toJson) := by
  have hunit : ExpiryUnit.ofName s.unit = .ok unit := hs.named ▸ unit.ofName_name
  have hlabel : Label.ofText? s.label = some (s.issued w.clock unit).label :=
    Label.ofText?_eq_some_iff.2 ⟨hs.short, rfl⟩
  rw [issue_eq, hunit, hlabel]
  rfl

/-- Whatever the registry refuses is refused. -/
theorem issue_of_add_eq_error (hs : s.Sensible unit) (ha : w.store.load x = .ok a)
    (he : w.clock.current unit < s.expiresAt)
    (hadd : a.keys.add (s.issued w.clock unit) = .error f) :
    w.issue x s = (.error f.raised, w) := by
  rw [issue_of_sensible hs, changed_of_refused ha]
  rw [Account.issue_of_ahead he (length_label_issued hs w.clock)]
  exact congrArg (Except.map _) hadd

theorem issue_of_withholds (h : w.store.Reachable program) (hf : w.Withholds x s f) :
    w.issue x s = (.error f.raised, w) := by
  cases hf with
  | unit hu =>
      rw [issue_eq, ExpiryUnit.ofName_of_ne hu]
      rfl
  | @label unit hu hl =>
      have hunit : ExpiryUnit.ofName s.unit = .ok unit := hu ▸ unit.ofName_name
      rw [issue_eq, hunit, Label.ofText?_eq_none_iff.2 hl]
      rfl
  | account hs ha => rw [issue_of_sensible hs, changed_of_missing ha]
  | expiry hs ha he => rw [issue_of_sensible hs, changed_of_refused ha (Account.issue_of_past he)]
  | @full unit a hs ha he hfull =>
      have hcapacity := (h.sound ha).wellFormed.keys.capacity
      rw [← hcapacity]
      exact issue_of_add_eq_error hs ha he
        (Registry.add_of_full (hcapacity ▸ Int.ofNat_le.2 hfull))
  | @taken unit a k hs ha he hroom hk hid =>
      have hcapacity := (h.sound ha).wellFormed.keys.capacity
      exact issue_of_add_eq_error hs ha he
        (Registry.add_of_taken (hcapacity ▸ Int.ofNat_lt.2 hroom) ⟨k, hk, hid⟩)

/-- Unless something is asked in vain, the key can be issued. -/
theorem withholds_or_admits (h : w.store.Reachable program) (x : String) (s : KeySpec) :
    (∃ f, w.Withholds x s f) ∨ ∃ unit a, w.Admits x s unit a := by
  by_cases hunit : ∃ unit : ExpiryUnit, s.unit = unit.name
  case neg => exact .inl ⟨_, .unit fun unit hu => hunit ⟨unit, hu⟩⟩
  obtain ⟨unit, hunit⟩ := hunit
  by_cases hlabel : s.label.utf8ByteSize ≤ 32
  case neg => exact .inl ⟨_, .label hunit (Nat.not_le.1 hlabel)⟩
  have hs : s.Sensible unit := ⟨hunit, hlabel⟩
  cases ha : w.store.load x with
  | error f =>
      obtain ⟨l, hl⟩ := h.holds
      exact .inl ⟨f, .account hs ha (hl.lacks_of_load ha)⟩
  | ok a =>
      rcases Int.lt_or_le (w.clock.current unit) s.expiresAt with hahead | hpast
      case inr => exact .inl ⟨_, .expiry hs ha hpast⟩
      rcases Nat.lt_or_ge a.keys.size Registry.maxKeys with hroom | hfull
      case inr => exact .inl ⟨_, .full hs ha hahead hfull⟩
      by_cases hk : ∃ k ∈ a.keys.keys, k.identity = s.key
      · obtain ⟨k, hk, hid⟩ := hk
        exact .inl ⟨_, .taken hs ha hahead hroom hk hid⟩
      · exact .inr ⟨unit, a, hs, ha, hahead, hroom, fun k hmem hid => hk ⟨k, hmem, hid⟩⟩

theorem Admits.issue (h : w.store.Reachable program) (hs : w.Admits x s unit a) :
    a.issue w.clock s.key s.expiresAt unit s.permissions (s.issued w.clock unit).label =
      .ok (s.issued w.clock unit, a.extended (s.issued w.clock unit)) := by
  have hcapacity := (h.sound hs.load).wellFormed.keys.capacity
  rw [Account.issue_of_ahead hs.ahead (length_label_issued hs.toSensible w.clock)]
  exact congrArg (Except.map _)
    (Registry.add_of_new (hcapacity ▸ Int.ofNat_lt.2 hs.room) hs.new)

theorem Admits.sound (h : w.store.Reachable program) (hs : w.Admits x s unit a) :
    (a.extended (s.issued w.clock unit)).Sound program x := by
  refine (h.sound hs.load).edit (c := w.clock)
    (e := .issue s.key s.expiresAt unit s.permissions (s.issued w.clock unit).label) ?_
  rw [Account.edit, hs.issue h]
  rfl

theorem Admits.canWrite_eq (h : w.store.Reachable program) (hs : w.Admits x s unit a) :
    w.store.canWrite (a.extended (s.issued w.clock unit)) =
      w.store.canWriteKey (s.issued w.clock unit) := by
  refine h.canWrite_eq hs.load (hs.sound h) ?_ fun l hl => ?_
  · exact List.mem_append_right _ (List.mem_singleton_self _)
  · exact (List.mem_append.1 hl).imp_right List.mem_singleton.1

theorem Admits.unwritable (h : w.store.Reachable program) (hs : w.Admits x s unit a)
    (hwrite : w.store.canWriteKey (s.issued w.clock unit) = false) :
    w.issue x s = (.error .unwritable, w) := by
  rw [issue_of_sensible hs.toSensible]
  rcases changed_of_agreed h hs.load (hs.issue h) (hs.sound h) _ with
    ⟨-, hchange⟩ | ⟨htrue, -⟩
  · exact hchange
  · rw [hs.canWrite_eq h, hwrite] at htrue
    cases htrue

theorem isValid_issued (he : w.clock.current unit < s.expiresAt) :
    (s.issued w.clock unit).isValid w.clock = true :=
  SessionKey.isValid_iff.2 ⟨rfl, he⟩

/-- What issuing a key comes to, for any request that is made of a reachable store. Either something
is asked in vain, the first thing in the order of `Withholds`, and the fault of that is raised and
nothing changes; or everything is met. Then the account has all its keys as they were and where they
were, and behind them the new one, which is active, made out as it was asked for, valid, and found
under its identity, and one event is told. A folder has to write the key down, and cannot if one of
its two times has too many digits; then nothing changes either.
-/
theorem issue_exactly (h : w.store.Reachable program) (x : String) (s : KeySpec) :
    ((∃ f, w.Withholds x s f) ∨ ∃ unit a, w.Admits x s unit a) ∧
    (∀ f, w.Withholds x s f → w.issue x s = (.error f.raised, w)) ∧
    ∀ unit a, w.Admits x s unit a →
      let k := s.issued w.clock unit
      (w.store.canWriteKey k = true →
        ∃ st, let v : World := { w with
            store := st
            sink := w.sink.notify ⟨x,
                .keyCreated s.key s.expiresAt unit.name s.permissions.toJson⟩ }
          w.issue x s = (.ok k, v) ∧
          st.load x = .ok { a with keys := { a.keys with keys := a.keys.keys ++ [k] } } ∧
          (∀ y, y ≠ x → st.load y = w.store.load y) ∧
          k.isValid v.clock = true ∧ v.isKeyValid x s.key = .ok true ∧ v.key x s.key = .ok k) ∧
      (w.store.canWriteKey k = false → w.issue x s = (.error .unwritable, w)) := by
  refine ⟨withholds_or_admits h x s, fun f => issue_of_withholds h, ?_⟩
  intro unit a hs k
  have hvalid : k.isValid w.clock = true := isValid_issued hs.ahead
  rw [issue_of_sensible hs.toSensible, ← hs.canWrite_eq h]
  rcases changed_of_agreed h hs.load (hs.issue h) (hs.sound h) _ with
    ⟨hwrite, hchange⟩ | ⟨hwrite, st, -, hputs, hchange⟩
  · exact ⟨fun h => absurd (h.symm.trans hwrite) nofun, fun _ => hchange⟩
  · refine ⟨fun _ => ⟨st, hchange, hputs.here, hputs.elsewhere, hvalid, ?_, ?_⟩,
      fun h => absurd (hwrite.symm.trans h) nofun⟩
    · have hlive : (a.extended k).Live w.clock s.key k :=
        Account.live_iff.2 ⟨List.mem_append_right _ (List.mem_singleton_self _), rfl, hvalid⟩
      rw [isKeyValid, account, hputs.here]
      exact congrArg Except.ok (Account.isKeyValid_iff.2 ⟨k, hlive⟩)
    · have hnone : a.keys.find? k.identity = none := Registry.find?_eq_none_iff.2 fun hmem => by
        obtain ⟨l, hl, hid⟩ := List.mem_map.1 hmem
        exact hs.new l hl hid
      rw [key, account, hputs.here, ok_bind, Registry.get_eq_ok_iff]
      exact (Registry.find?_append s.key hnone).trans (if_pos rfl)

/-- An account just opened takes a key whose threshold lies ahead. -/
theorem Admits.of_opened {n : Int} (ha : Account.opened x program = .ok a)
    (hload : w.store.load x = .ok a) (hn : w.clock.current .time < n) (key : String) :
    w.Admits x { key, expiresAt := n } .time a := by
  have hkeys := Account.keys_opened ha
  have hblank : "".utf8ByteSize ≤ 32 := by decide
  have hroom : a.keys.size < Registry.maxKeys := by
    rw [hkeys]
    decide
  have hnew : ∀ k ∈ a.keys.keys, k.identity ≠ key := by
    rw [hkeys]
    exact nofun
  exact ⟨⟨rfl, hblank⟩, hload, hn, hroom, hnew⟩

/-- Words that are longer than can be written down. The name of an owner that is too long for a
file is reported in the place of the missing account, a threshold with too many digits in the
place of its being in the past, and of a key that nothing is wrong with it is reported that it
cannot be written. -/
theorem issue_beyond_limits :
    (let w : World := { World.empty "1" with store := .folder {} }
      let x := String.ofList (List.replicate 300 'a')
      w.store.Reachable "1" ∧ w.issue x { key := "2", expiresAt := 1 } =
        (.error (.file .nameTooLong), w)) ∧
    ∃ (w : World) (a : Account), w.store.Reachable "1" ∧ w.store.load "1" = .ok a ∧
      let n : Int := Text.Integer.tooLong
      let past : KeySpec := { key := "2", expiresAt := -n }
      let far : KeySpec := { key := "2", expiresAt := n }
      past.expiresAt ≤ w.clock.current .time ∧ w.issue "1" past = (.error .unwritable, w) ∧
        w.Admits "1" far .time a ∧ w.issue "1" far = (.error .unwritable, w) := by
  constructor
  · intro w x
    refine ⟨.folder _, ?_⟩
    have hmissing : w.store.load x = .error (.file .nameTooLong) := Store.load_of_long_name
    have hsensible : KeySpec.Sensible { key := "2", expiresAt := 1 } .time := ⟨rfl, by decide⟩
    rw [issue_of_sensible hsensible, changed_of_missing hmissing]
    rfl
  · obtain ⟨f, a, hreach, hload, ha⟩ := Store.Reachable.opened_in_folder
    let w : World := { World.empty "1" with store := .folder f }
    generalize hn : Text.Integer.tooLong = n
    have hblank : "".utf8ByteSize ≤ 32 := by decide
    have hpos : 0 < (n : Int) := Int.natCast_pos.2 (hn ▸ Text.Integer.tooLong_pos)
    have hlong : Text.Integer.isTooLong n = true := hn ▸ Text.Integer.isTooLong_tooLong
    have hpast : -(n : Int) ≤ w.clock.current .time := Int.neg_nonpos_of_nonneg (Int.le_of_lt hpos)
    have hfar : w.Admits "1" { key := "2", expiresAt := n } .time a := .of_opened ha hload hpos "2"
    refine ⟨w, a, hreach, hload, hpast, ?_, hfar,
      hfar.unwritable hreach (Store.canWriteKey_of_isTooLong hlong)⟩
    rw [issue_of_withholds hreach (.expiry ⟨rfl, hblank⟩ hload hpast)]
    rw [Fault.raised_of_isTooLong (n := -n) List.mem_cons_self]
    exact (Text.Integer.isTooLong_neg n).trans hlong

/-- An account just opened takes a key whose threshold lies ahead, and not one whose threshold has
been reached. A unit that is none is reported before that. -/
theorem issue_exactly_first : ∃ (w : World) (st : Store) (a : Account) (k : SessionKey),
    w.store.Reachable "1" ∧ w.store.load "1" = .ok a ∧
      (w.issue "1" { key := "2", expiresAt := 1 }).1 = .ok k ∧ k.label = Label.blank ∧
      (w.issue "1" { key := "2", expiresAt := 1 }).2.store = st ∧
      st.load "1" = .ok { a with keys := { a.keys with keys := a.keys.keys ++ [k] } } ∧
      w.issue "1" { key := "2", expiresAt := 0 } =
        (.error (.refusal (.invalidExpiry .time 0 0)), w) ∧
      w.issue "1" { key := "2", expiresAt := 0, unit := "never" } =
        (.error (.decode (.notChoice (.str "never") "ExpirationType")), w) := by
  obtain ⟨a, ha⟩ := Account.exists_opened
  let w : World := { World.empty "1" with store := .memory [("1", a)] }
  have hreach : w.store.Reachable "1" := .opened ha
  have hload : w.store.load "1" = .ok a :=
    Account.ofJson_toJson (Account.sound_opened ha).wellFormed
  have hkeys := Account.keys_opened ha
  let s : KeySpec := { key := "2", expiresAt := 1 }
  let late : KeySpec := { key := "2", expiresAt := 0 }
  have hs : w.Admits "1" s .time a :=
    ⟨⟨rfl, by decide⟩, hload, Int.zero_lt_one, by rw [hkeys]; decide, by rw [hkeys]; exact nofun⟩
  have hlate : w.Withholds "1" late (.refusal (.invalidExpiry .time 0 0)) :=
    .expiry ⟨rfl, by decide⟩ hload (Int.le_refl 0)
  have hunit : w.Withholds "1" { late with unit := "never" }
      (.decode (.notChoice (.str "never") "ExpirationType")) :=
    .unit fun unit => by cases unit <;> decide
  obtain ⟨-, -, hissue⟩ := issue_exactly hreach "1" s
  obtain ⟨-, hrefuse, -⟩ := issue_exactly hreach "1" late
  obtain ⟨-, hrefuse', -⟩ := issue_exactly hreach "1" { late with unit := "never" }
  obtain ⟨st, hok, hst, -⟩ := (hissue .time a hs).1 rfl
  have hshort : ∀ n ∈ [(0 : Int), 0], Text.Integer.isTooLong n = false :=
    fun n hn => Text.Integer.isTooLong_of_lt (by revert n; decide)
  have hraised : (Fault.refusal (.invalidExpiry .time 0 0)).raised = _ :=
      Fault.raised_eq_self hshort
  exact ⟨w, st, a, s.issued w.clock .time, hreach, hload, congrArg Prod.fst hok, rfl,
    congrArg (fun r => r.2.store) hok, hst, hraised ▸ hrefuse _ hlate, hrefuse' _ hunit⟩

end World

end Keyring
