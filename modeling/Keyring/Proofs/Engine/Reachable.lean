import Keyring.Proofs.Account.Gate
import Keyring.Proofs.Engine.Steps
import Mathlib.Algebra.Group.Nat.Defs

/-!
# Reachable stores

A store is reachable if it comes from an empty one by operations, whatever else the world holds at
each of them and whatever its clock reads. The accounts of a reachable store are sound, and from one
operation to the next a session key that is kept keeps what it was issued with and stays revoked.
Only pruning drops a key.
-/

namespace Keyring

/-- What stays of a session key as long as it is kept. -/
structure SessionKey.Continues (k l : SessionKey) : Prop where
  identity : l.identity = k.identity
  createdAt : l.createdAt = k.createdAt
  unit : l.unit = k.unit
  label : l.label = k.label
  revoked : k.isRevoked = true → l.isRevoked = true

namespace SessionKey

variable {k l m : SessionKey}

theorem continues_refl (k : SessionKey) : k.Continues k := ⟨rfl, rfl, rfl, rfl, id⟩

theorem Continues.trans (h : k.Continues l) (h' : l.Continues m) : k.Continues m :=
  ⟨h'.identity.trans h.identity, h'.createdAt.trans h.createdAt, h'.unit.trans h.unit,
    h'.label.trans h.label, h'.revoked ∘ h.revoked⟩

theorem continues_revoke (k : SessionKey) : k.Continues k.revoke :=
  ⟨rfl, rfl, rfl, rfl, fun _ => rfl⟩

theorem continues_revised (expiresAt? : Option Int) (permissions? : Option Permissions)
    (k : SessionKey) : k.Continues (k.revised expiresAt? permissions?) :=
  ⟨rfl, rfl, rfl, rfl, id⟩

end SessionKey

namespace Edit

variable {c : Reading} {a : Account} {e : Edit} {j : String} {k l : SessionKey}

theorem continues_onKey (hfits : e.Fits c a) (hk : a.keys.find? j = some k)
    (hl : e.onKey c j (some k) = some l) : k.Continues l := by
  cases e with
  | issue key expiresAt unit permissions label =>
      rw [onKey] at hl
      split at hl
      next hj => simp [hfits.2.2.2, hj] at hk
      next => exact Option.some.inj hl ▸ k.continues_refl
  | revise key expiresAt? permissions? =>
      rw [onKey] at hl
      split at hl
      next => exact Option.some.inj hl ▸ k.continues_revised expiresAt? permissions?
      next => exact Option.some.inj hl ▸ k.continues_refl
  | revoke key =>
      rw [onKey] at hl
      split at hl
      next => exact Option.some.inj hl ▸ k.continues_revoke
      next => exact Option.some.inj hl ▸ k.continues_refl
  | revokeAll => exact Option.some.inj hl ▸ k.continues_revoke
  | prune =>
      rw [onKey, Option.filter_eq_some_iff] at hl
      exact Option.some.inj hl.1 ▸ k.continues_refl
  | setMints mints => exact Option.some.inj hl ▸ k.continues_refl

/-- Only pruning drops a key. -/
theorem eq_prune_of_onKey (h : e.onKey c j (some k) = none) : e = .prune := by
  cases e with
  | prune => rfl
  | revokeAll => cases h
  | setMints mints => cases h
  | _ =>
      rw [onKey] at h
      split at h <;> cases h

end Edit

/-! ## From one operation to the next -/

namespace Account

variable {a a' a'' : Account}

/-- Whether the keys that are there before and after continue what they were. -/
def Evolves (a a' : Account) : Prop :=
  ∀ j k l, a.keys.find? j = some k → a'.keys.find? j = some l → k.Continues l

def Keeps (a a' : Account) : Prop :=
  ∀ j k, a.keys.find? j = some k → ∃ l, a'.keys.find? j = some l ∧ k.Continues l

theorem keeps_refl (a : Account) : a.Keeps a := fun _ k hk => ⟨k, hk, k.continues_refl⟩

theorem Keeps.trans (h : a.Keeps a') (h' : a'.Keeps a'') : a.Keeps a'' := by
  intro j k hk
  obtain ⟨l, hl, hkl⟩ := h j k hk
  obtain ⟨m, hm, hlm⟩ := h' j l hl
  exact ⟨m, hm, hkl.trans hlm⟩

theorem Keeps.evolves (h : a.Keeps a') : a.Evolves a' := by
  intro j k l hk hl
  obtain ⟨m, hm, hkm⟩ := h j k hk
  obtain rfl : m = l := Option.some.inj (hm.symm.trans hl)
  exact hkm

theorem evolves_edit {c : Reading} {e : Edit} (ha : a.WellFormed) (he : a.edit c e = .ok a') :
    a.Evolves a' ∧ (e ≠ .prune → a.Keeps a') := by
  obtain ⟨hfits, rfl⟩ := edit_eq_ok_iff.1 he
  have hfind := Edit.find?_registry ha.keys.nodup hfits
  refine ⟨?_, ?_⟩
  · intro j k l hk hl
    rw [hfind, hk] at hl
    exact Edit.continues_onKey hfits hk hl
  · intro hne j k hk
    cases hl : e.onKey c j (some k) with
    | none => exact absurd (Edit.eq_prune_of_onKey hl) hne
    | some l => exact ⟨l, by rw [hfind, hk, hl], Edit.continues_onKey hfits hk hl⟩

end Account

theorem Operation.eq_prune_of_edit? {op : Operation} {x : String}
    (h : op.edit? = some (x, .prune)) : op = .prune x := by
  cases op with
  | issue y spec =>
      rw [edit?] at h
      split at h <;> cases h
  | prune y => cases h; rfl
  | _ => cases h

namespace World

variable {w : World} {op : Operation} {l l' : List (String × Account)} {x : String} {a : Account}

theorem Moves.evolves (h : w.Moves op l l') (hl : ∀ e ∈ l, e.2.WellFormed)
    (hx : field? x l = some a) :
    ∃ a', field? x l' = some a' ∧ a.Evolves a' ∧ (op ≠ .prune x → a.Keeps a') := by
  cases h with
  | same => exact ⟨a, hx, a.keeps_refl.evolves, fun _ => a.keeps_refl⟩
  | @opened y b hop hy hb =>
      refine ⟨a, ?_, a.keeps_refl.evolves, fun _ => a.keeps_refl⟩
      have hne : x ≠ y := by
        rintro rfl
        rw [hy] at hx
        cases hx
      rw [← putField_of_not_mem (field?_eq_none_iff.1 hy), field?_putField, if_neg hne, hx]
  | @edited y e b b' answer hop hok hy hb =>
      rw [field?_putField]
      by_cases hxy : x = y
      · subst hxy
        obtain rfl : a = b := Option.some.inj (hx.symm.trans hy)
        obtain ⟨hevolves, hkeeps⟩ := Account.evolves_edit (hl _ (mem_of_field? hx)) hb
        refine ⟨b', by rw [if_pos rfl], hevolves, fun hne => hkeeps ?_⟩
        rintro rfl
        exact hne (Operation.eq_prune_of_edit? hop)
      · exact ⟨a, by rw [if_neg hxy, hx], a.keeps_refl.evolves, fun _ => a.keeps_refl⟩

/-- A run of issues loses no key. -/
theorem holds_run_issues (h : w.store.Holds w.program l) (x : String) (specs : List KeySpec) :
    ∃ l', (w.run (specs.map (.issue x))).store.Holds w.program l' ∧
      (w.run (specs.map (.issue x))).program = w.program ∧
      ∀ y a, field? y l = some a → ∃ a', field? y l' = some a' ∧ a.Keeps a' := by
  induction specs generalizing w l with
  | nil => exact ⟨l, h, rfl, fun y a hy => ⟨a, hy, a.keeps_refl⟩⟩
  | cons s ss ih =>
      have hissue : (Operation.issue x s).isBatch = false := rfl
      obtain ⟨l₁, h₁, hmoves, hprogram, -⟩ := moves_step h hissue
      obtain ⟨l₂, h₂, hprogram₂, hkeeps⟩ := ih (hprogram ▸ h₁)
      refine ⟨l₂, hprogram ▸ h₂, hprogram₂.trans hprogram, ?_⟩
      intro y a hy
      obtain ⟨a₁, hy₁, -, hk₁⟩ := hmoves.evolves (fun e he => (h.sound e he).wellFormed) hy
      obtain ⟨a₂, hy₂, hk₂⟩ := hkeeps y a₁ hy₁
      exact ⟨a₂, hy₂, (hk₁ nofun).trans hk₂⟩

/-- A batch on accounts that a store holds is the run of its keys up to the first that cannot be
issued. -/
theorem issueAll_eq_run (h : w.store.Holds w.program l) (x : String) (specs : List KeySpec) :
    (w.issueAll x specs).2 = w.run ((w.issuedSpecs x specs).map (.issue x)) := by
  obtain ⟨l', h', -⟩ := holds_run_issues h x (w.issuedSpecs x specs)
  exact (drafts_run_issueAll w x specs).eq_of_isFlat h'.isFlat

/-- What any operation keeps: the accounts of a store are sound, and their keys evolve. -/
theorem holds_step (h : w.store.Holds w.program l) (op : Operation) :
    ∃ l', (w.step op).2.store.Holds w.program l' ∧ (w.step op).2.program = w.program ∧
      ∀ x a, field? x l = some a →
        ∃ a', field? x l' = some a' ∧ a.Evolves a' ∧ (op ≠ .prune x → a.Keeps a') := by
  cases hop : op.isBatch with
  | false =>
      obtain ⟨l', h', hmoves, hprogram, -⟩ := moves_step h hop
      exact ⟨l', h', hprogram, fun x a hx =>
        hmoves.evolves (fun e he => (h.sound e he).wellFormed) hx⟩
  | true =>
      cases op with
      | issueAll x specs =>
          obtain ⟨l', h', hprogram, hkeeps⟩ := holds_run_issues h x (w.issuedSpecs x specs)
          have hstep : (w.step (.issueAll x specs)).2 =
              w.run ((w.issuedSpecs x specs).map (.issue x)) := issueAll_eq_run h x specs
          rw [hstep]
          refine ⟨l', h', hprogram, ?_⟩
          intro y a hy
          obtain ⟨a', hy', hk⟩ := hkeeps y a hy
          exact ⟨a', hy', hk.evolves, fun _ => hk⟩
      | _ => cases hop

end World

/-! ## Every reachable store -/

/-- In memory nothing keeps an account from being saved. -/
theorem World.step_edit_memory {w : World} {op : Operation} {e : Edit} {program x : String}
    {a a' : Account} (hw : w.store = .memory [(x, a)]) (ha : a.Sound program x)
    (he : op.edit? = some (x, e)) (hedit : a.edit w.clock e = .ok a') :
    ∃ answer sink, w.step op =
        (.ok answer, { w with store := .memory [(x, a')], sink := sink }) := by
  have hfind : field? x [(x, a)] = some a := by rw [field?, if_pos rfl]
  have hload : w.store.load x = .ok a := by
    rw [hw, Store.load, hfind]
    exact Account.ofJson_toJson ha.wellFormed
  have hsave : w.store.save a' = .ok (.memory [(x, a')]) := by
    rw [hw, Store.save_memory_eq, Account.ofJson_toJson (ha.edit hedit).wellFormed,
      (ha.edit hedit).authority]
    simp [Except.map, putField]
  exact step_of_edit he hload hedit hsave

/-- An account just opened takes any key whose threshold lies ahead. -/
theorem Account.edit_opened {program x : String} {c : Reading} {expiresAt : Int}
    {unit : ExpiryUnit} {label : Bytes} {a : Account} (ha : Account.opened x program = .ok a)
    (key : String) (hfuture : c.current unit < expiresAt) (permissions : Permissions)
    (hlabel : label.length = Label.size) :
    ∃ a', a.edit c (.issue key expiresAt unit permissions label) = .ok a' ∧
      a'.keys.keys = [⟨key, c.time, expiresAt, unit, permissions, label, .active⟩] := by
  have hkeys := Account.keys_opened ha
  refine ⟨_, Account.edit_eq_ok_iff.2 ⟨⟨hfuture, hlabel, ?_, ?_⟩, rfl⟩, ?_⟩
  · rw [hkeys]
    decide
  · rw [hkeys]
    rfl
  · rw [Edit.registry, hkeys]
    rfl

def World.empty (program : String) : World := { program, binder := program, tokens := { program } }

theorem World.step_openAccount_empty {program x : String} {a : Account}
    (ha : Account.opened x program = .ok a) :
    (World.empty program).step (.openAccount x) =
      (.ok (.account a), { World.empty program with store := .memory [(x, a)] }) := by
  have hsound := Account.sound_opened ha
  have hcreate : Store.create (.memory []) a = .ok (.memory [(x, a)]) := by
    rw [Store.create_eq, Store.contains, Store.save_memory_eq,
      Account.ofJson_toJson hsound.wellFormed, hsound.authority]
    rfl
  simp only [step, openAccount_eq, show (World.empty program).program = program from rfl, ha,
    show (World.empty program).store = .memory [] from rfl, hcreate]
  rfl

namespace Store

/-- The stores to which operations lead from an empty one, in memory or in a folder. -/
inductive Reachable (program : String) : Store → Prop
  | memory : Reachable program (.memory [])
  | folder (room : Nat) : Reachable program (.folder { room := room })
  | step {w : World} (op : Operation) (hw : Reachable program w.store) (hp : w.program = program) :
      Reachable program (w.step op).2.store

variable {program : String} {s : Store}

theorem IsEmpty.reachable (h : s.IsEmpty) (program : String) : s.Reachable program := by
  rcases h with rfl | ⟨room, rfl⟩
  · exact .memory
  · exact .folder room

theorem Reachable.holds (h : s.Reachable program) : ∃ l, s.Holds program l := by
  induction h with
  | memory => exact ⟨[], IsEmpty.holds (.inl rfl) program⟩
  | folder room => exact ⟨[], IsEmpty.holds (.inr ⟨room, rfl⟩) program⟩
  | step op hw hp ih =>
      obtain ⟨l, hl⟩ := ih
      subst hp
      obtain ⟨l', hl', -, -⟩ := World.holds_step hl op
      exact ⟨l', hl'⟩

theorem Reachable.sound {x : String} {a : Account} (h : s.Reachable program)
    (ha : s.load x = .ok a) : a.Sound program x := by
  obtain ⟨l, hl⟩ := h.holds
  exact hl.sound (x, a) (mem_of_field? (hl.load_eq_ok_iff.1 ha))

/-- The store in memory that holds one account, just opened. -/
theorem Reachable.opened {x : String} {a : Account} (ha : Account.opened x program = .ok a) :
    Reachable program (.memory [(x, a)]) := by
  have hstep := World.step_openAccount_empty ha
  have h := Reachable.step (w := World.empty program) (.openAccount x) .memory rfl
  rw [hstep] at h
  exact h

theorem Reachable.edited {x : String} {a a' : Account} {c : Reading} {op : Operation} {e : Edit}
    (h : Reachable program (.memory [(x, a)])) (ha : a.Sound program x)
    (he : op.edit? = some (x, e)) (hedit : a.edit c e = .ok a') :
    Reachable program (.memory [(x, a')]) := by
  let w : World := { World.empty program with store := .memory [(x, a)], clock := c }
  obtain ⟨answer, sink, hstep⟩ := World.step_edit_memory (w := w) rfl ha he hedit
  have hnext := Reachable.step (w := w) op h rfl
  rw [hstep] at hnext
  exact hnext

/-- There are reachable stores with one key, that may transfer, and with no restriction on mints. -/
theorem Reachable.exists_issued : ∃ a, Reachable "1" (.memory [("1", a)]) ∧ a.Sound "1" "1" ∧
    a.keys.keys = [⟨"2", 0, 1, .time, { canTransfer := true }, Label.blank, .active⟩] ∧
    a.mints.mints = [] := by
  obtain ⟨a, ha⟩ := Account.exists_opened
  have hsound := Account.sound_opened ha
  let spec : KeySpec := { key := "2", expiresAt := 1, permissions := { canTransfer := true } }
  have he : (Operation.issue "1" spec).edit? =
      some ("1", .issue "2" 1 .time { canTransfer := true } Label.blank) := rfl
  have hfuture : (⟨0, 0⟩ : Reading).current .time < 1 := by decide
  have hlabel : Label.blank.length = Label.size := by decide
  obtain ⟨a', hedit, hkeys⟩ :=
    Account.edit_opened ha "2" hfuture { canTransfer := true } hlabel
  have hmints : a'.mints = a.mints := by
    obtain ⟨-, rfl⟩ := Account.edit_eq_ok_iff.1 hedit
    rfl
  exact ⟨a', (Reachable.opened ha).edited hsound he hedit, hsound.edit hedit, hkeys,
    by rw [hmints, Account.mints_opened ha]; rfl⟩

theorem Reachable.exists_unrestricted : ∃ a k, Reachable "1" (.memory [("1", a)]) ∧
    a.Sound "1" "1" ∧ a.Live ⟨0, 0⟩ "2" k ∧ k.permissions.canTransfer = true ∧
    k.permissions.cap = 0 ∧ a.mints.mints = [] := by
  obtain ⟨a, hreach, hsound, hkeys, hmints⟩ := exists_issued
  let k : SessionKey := ⟨"2", 0, 1, .time, { canTransfer := true }, Label.blank, .active⟩
  have hmem : k ∈ a.keys.keys := hkeys ▸ List.mem_singleton_self _
  exact ⟨a, k, hreach, hsound, ⟨hmem, rfl, rfl, by decide⟩, rfl, rfl, hmints⟩

theorem Reachable.exists_live : ∃ a k, Reachable "1" (.memory [("1", a)]) ∧ a.Sound "1" "1" ∧
    a.Live ⟨0, 0⟩ "2" k ∧ k.permissions.canTransfer = true ∧ k.permissions.cap = 0 := by
  obtain ⟨a, k, hreach, hsound, hlive, htransfer, hcap, -⟩ := exists_unrestricted
  exact ⟨a, k, hreach, hsound, hlive, htransfer, hcap⟩

/--
The accounts of a reachable store. They are just those that it loads, each of them under its own
authority, at the address derived for it, and within its limits. In the operation after it, every
account stays, its surviving keys continue what they were, and only pruning drops a key.
-/
theorem accounts_of_reachable (h : s.Reachable program) :
    ∃ l, s.Contents l ∧ (l.map Prod.fst).Nodup ∧ (∀ x a, s.load x = .ok a ↔ (x, a) ∈ l) ∧
      (∀ x a, (x, a) ∈ l →
        a.authority = x ∧
        (∃ d, Derivation.ownerAddress x program = .ok d ∧ a.address = d.address ∧
          a.bump = d.bump) ∧
        a.keys.keys.length ≤ Registry.maxKeys ∧
        (a.keys.keys.map SessionKey.identity).Nodup ∧
        (∀ k ∈ a.keys.keys, k.label.length = 32 ∧ k.permissions.cap < 2 ^ 64 ∧
          k.permissions.customFlags.toNat < 2 ^ 32) ∧
        a.mints.mints.length ≤ Allowlist.maxMints ∧ a.mints.mints.Nodup) ∧
      ∀ (w : World) (op : Operation), w.store = s → w.program = program →
        ∀ x a, s.load x = .ok a → ∃ a', (w.step op).2.store.load x = .ok a' ∧
          (∀ k ∈ a.keys.keys, ∀ k' ∈ a'.keys.keys, k'.identity = k.identity → k.Continues k') ∧
          (op ≠ .prune x → ∀ k ∈ a.keys.keys, ∃ k' ∈ a'.keys.keys, k'.identity = k.identity) := by
  obtain ⟨l, hl⟩ := h.holds
  have hload (x : String) (a : Account) : s.load x = .ok a ↔ (x, a) ∈ l :=
    hl.load_eq_ok_iff.trans ⟨mem_of_field?, field?_of_mem hl.nodup⟩
  refine ⟨l, hl.contents, hl.nodup, hload, ?_, ?_⟩
  · intro x a hmem
    obtain ⟨hauthority, hderived, hkeys, hmints⟩ := hl.sound (x, a) hmem
    exact ⟨hauthority, hderived, hkeys.size, hkeys.nodup,
      fun k hk => ⟨hkeys.label k hk, k.permissions.maxTransferAmount.toNat_lt,
        k.permissions.customFlags.toNat_lt⟩, hmints.size, hmints.nodup⟩
  · rintro w op rfl rfl x a hx
    have hnodup := (hl.sound (x, a) ((hload x a).1 hx)).wellFormed.keys.nodup
    obtain ⟨l', hl', -, hevolves⟩ := World.holds_step hl op
    obtain ⟨a', hx', hsurvive, hkeep⟩ := hevolves x a (hl.load_eq_ok_iff.1 hx)
    have hnodup' := (hl'.sound (x, a') (mem_of_field? hx')).wellFormed.keys.nodup
    refine ⟨a', hl'.load_of_some hx', ?_, ?_⟩
    · intro k hk k' hk' hid
      have hfind' := Registry.find?_of_mem hnodup' hk'
      rw [hid] at hfind'
      exact hsurvive k.identity k k' (Registry.find?_of_mem hnodup hk) hfind'
    · intro hop k hk
      obtain ⟨k', hk', hcont⟩ := hkeep hop k.identity k (Registry.find?_of_mem hnodup hk)
      exact ⟨k', Registry.mem_of_find? hk', hcont.identity⟩

/-- An account with a key and a restriction on mints, whose key is there still once it
is revoked. -/
theorem accounts_of_reachable_revoked :
    let k : SessionKey := ⟨"2", 0, 1, .time, { canTransfer := true }, Label.blank, .active⟩
    ∃ a a' k', Reachable "1" (.memory [("1", a)]) ∧ a.authority = "1" ∧ a.keys.keys = [k] ∧
      k.label.length = 32 ∧ a.mints.mints = ["m", "n"] ∧ a.mints.mints.Nodup ∧
      let w : World := { World.empty "1" with store := .memory [("1", a)] }
      (w.step (.revoke "1" "2")).2.store.load "1" = .ok a' ∧ k' ∈ a'.keys.keys ∧
        k.Continues k' := by
  intro k
  obtain ⟨b, hb, hsound, hkeys, -⟩ := Reachable.exists_issued
  let a : Account := { b with mints := ⟨["m", "n"]⟩ }
  have he : (Operation.setMints "1" ["m", "n"]).edit? = some ("1", .setMints ["m", "n"]) := rfl
  have hedit : b.edit ⟨0, 0⟩ (.setMints ["m", "n"]) = .ok a := rfl
  have h := hb.edited hsound he hedit
  obtain ⟨l, hl, -, hload, haccounts, hstep⟩ := accounts_of_reachable h
  obtain rfl : [("1", a)] = l := hl
  have hmem : ("1", a) ∈ [("1", a)] := List.mem_singleton_self _
  obtain ⟨hauthority, -, -, -, hkey, -, hnodup⟩ := haccounts "1" a hmem
  let w : World := { World.empty "1" with store := .memory [("1", a)] }
  obtain ⟨a', ha', hcontinue, hstay⟩ :=
    hstep w (.revoke "1" "2") rfl rfl "1" a ((hload "1" a).2 hmem)
  have hk : k ∈ a.keys.keys := hkeys ▸ List.mem_singleton_self k
  obtain ⟨k', hk', hid⟩ := hstay nofun k hk
  exact ⟨a, a', k', h, hauthority, hkeys, (hkey k hk).1, rfl, hnodup, ha', hk',
    hcontinue k hk k' hk' hid⟩

end Store

/-! ## From one reachable store to the next -/

namespace World

variable {w : World}

theorem program_step (h : w.store.Reachable w.program) (op : Operation) :
    (w.step op).2.program = w.program := by
  obtain ⟨l, hl⟩ := h.holds
  obtain ⟨l', -, hprogram, -⟩ := holds_step hl op
  exact hprogram

theorem reachable_step (h : w.store.Reachable w.program) (op : Operation) :
    (w.step op).2.store.Reachable (w.step op).2.program :=
  program_step h op ▸ .step op h rfl

end World

end Keyring
