import Keyring.Proofs.Account.Validity
import Keyring.Proofs.Engine.Amending

/-!
# Revising a key

A key is revised if its owner has an account, the account holds the key, the key is not revoked, and
a threshold that is given lies ahead, by the unit of the key itself. Otherwise the first of these
that fails is reported, and neither the threshold nor the permissions are touched. A key that has
run out can be revised, and a threshold that is given brings it back.
-/

namespace Keyring.World

structure Revisable (w : World) (x key : String) (expiresAt? : Option Int) (a : Account)
    (k : SessionKey) : Prop where
  load : w.store.load x = .ok a
  mem : k ∈ a.keys.keys
  identity : k.identity = key
  active : k.isRevoked = false
  ahead : ∀ e ∈ expiresAt?, w.clock.current k.unit < e

/-- Why a key is not revised: the first that fails of all that is asked. -/
inductive Forbids (w : World) (x key : String) (expiresAt? : Option Int) : Fault → Prop
  | account {f : Fault} (ha : w.store.load x = .error f) (hf : w.store.Lacks x f) :
      Forbids w x key expiresAt? f
  | missing {a : Account} (ha : w.store.load x = .ok a)
      (hk : ∀ k ∈ a.keys.keys, k.identity ≠ key) :
      Forbids w x key expiresAt? (.refusal (.keyNotFound key))
  | revoked {a : Account} {k : SessionKey} (ha : w.store.load x = .ok a) (hk : k ∈ a.keys.keys)
      (hid : k.identity = key) (hr : k.isRevoked = true) :
      Forbids w x key expiresAt? (.refusal (.keyRevoked key))
  | expiry {a : Account} {k : SessionKey} {e : Int} (ha : w.store.load x = .ok a)
      (hk : k ∈ a.keys.keys) (hid : k.identity = key) (hr : k.isRevoked = false)
      (he : expiresAt? = some e) (hpast : e ≤ w.clock.current k.unit) :
      Forbids w x key expiresAt? (.refusal (.invalidExpiry k.unit e (w.clock.current k.unit)))

variable {program x key : String} {w : World} {a : Account} {k : SessionKey} {f : Fault}
  {expiresAt? : Option Int} {permissions? : Option Permissions}

theorem revise_eq_changed (w : World) (x key : String) (expiresAt? : Option Int)
    (permissions? : Option Permissions) :
    w.revise x key expiresAt? permissions? =
      w.changed x (Account.amend key (.revision w.clock key expiresAt? permissions?))
        fun k => some (.keyUpdated key k.expiresAt k.permissions.toJson) := by
  rw [revise_eq, show Account.revise w.clock key expiresAt? permissions? = _ from
    funext (Account.revise_eq_amend w.clock key expiresAt? permissions?)]

theorem find?_of_load (h : w.store.Reachable program) (ha : w.store.load x = .ok a)
    (hk : k ∈ a.keys.keys) (hid : k.identity = key) : a.keys.find? key = some k :=
  hid ▸ Registry.find?_of_mem (h.sound ha).wellFormed.keys.nodup hk

theorem revise_of_forbids (h : w.store.Reachable program) (hf : w.Forbids x key expiresAt? f)
    (permissions? : Option Permissions) :
    w.revise x key expiresAt? permissions? = (.error f.raised, w) := by
  rw [revise_eq_changed]
  cases hf with
  | account ha => exact changed_of_missing ha _
  | missing ha hk =>
      have hnone := Registry.find?_eq_none_iff.2 fun hmem => by
        obtain ⟨k, hmem, hid⟩ := List.mem_map.1 hmem
        exact hk k hmem hid
      exact changed_of_refused ha (Account.amend_of_none hnone) _
  | revoked ha hk hid hr =>
      refine changed_of_refused ha ?_ _
      rw [Account.amend_of_some (find?_of_load h ha hk hid), Rule.revision_of_isRevoked hr]
      rfl
  | expiry ha hk hid hr he hpast =>
      subst he
      refine changed_of_refused ha ?_ _
      rw [Account.amend_of_some (find?_of_load h ha hk hid), Rule.revision_of_past hr hpast]
      rfl

/-- Unless something is asked in vain, the key can be revised. -/
theorem forbids_or_revisable (h : w.store.Reachable program) (x key : String)
    (expiresAt? : Option Int) :
    (∃ f, w.Forbids x key expiresAt? f) ∨ ∃ a k, w.Revisable x key expiresAt? a k := by
  cases ha : w.store.load x with
  | error f =>
      obtain ⟨l, hl⟩ := h.holds
      exact .inl ⟨f, .account ha (hl.lacks_of_load ha)⟩
  | ok a =>
      by_cases hk : ∃ k ∈ a.keys.keys, k.identity = key
      case neg => exact .inl ⟨_, .missing ha fun k hmem hid => hk ⟨k, hmem, hid⟩⟩
      obtain ⟨k, hk, hid⟩ := hk
      cases hr : k.isRevoked with
      | true => exact .inl ⟨_, .revoked ha hk hid hr⟩
      | false =>
          by_cases he : ∃ e ∈ expiresAt?, e ≤ w.clock.current k.unit
          · obtain ⟨e, he, hpast⟩ := he
            exact .inl ⟨_, .expiry ha hk hid hr he hpast⟩
          · exact .inr ⟨a, k, ha, hk, hid, hr,
              fun e hmem => Int.not_le.1 fun hpast => he ⟨e, hmem, hpast⟩⟩

/-- A key that could be revised is left as it was if it could not be written down then. -/
theorem Revisable.unwritable (h : w.store.Reachable program) (hk : w.Revisable x key expiresAt? a k)
    (hwrite : w.store.canWriteKey (k.revised expiresAt? permissions?) = false) :
    w.revise x key expiresAt? permissions? = (.error .unwritable, w) := by
  have hfind := find?_of_load h hk.load hk.mem hk.identity
  rw [revise_eq_changed]
  rcases changed_amend_of_agreed h hk.load (Rule.keeps_revision _ _ _ _) hfind
    (Rule.revision_eq_ok_iff.2 ⟨hk.active, hk.ahead, rfl⟩) _ with ⟨-, hchange⟩ | ⟨htrue, -⟩
  · exact hchange
  · rw [hwrite] at htrue
    cases htrue

/-- What revising a key comes to, for any account of a reachable store, any key, and whatever is
given of a threshold and permissions. Either something is asked in vain, the first thing in the
order of `Forbids`, and the fault of that is raised and nothing changes; or the key takes on what is
given of the two and keeps what is not. Then nothing else in the account differs from what it was,
the key stays where it was, and one event tells of its threshold and permissions as they have
become: of a sink that keeps all events, it is the one more that it has. With a threshold that was
given the key is valid, whatever it was before. A folder has to write the key down, and cannot if
its threshold has too many digits; then nothing changes either.
-/
theorem revise_exactly (h : w.store.Reachable program) (x key : String) (expiresAt? : Option Int)
    (permissions? : Option Permissions) :
    ((∃ f, w.Forbids x key expiresAt? f) ∨ ∃ a k, w.Revisable x key expiresAt? a k) ∧
    (∀ f, w.Forbids x key expiresAt? f →
      w.revise x key expiresAt? permissions? = (.error f.raised, w)) ∧
    ∀ a k, w.Revisable x key expiresAt? a k →
      let l : SessionKey := { k with
        expiresAt := expiresAt?.getD k.expiresAt
        permissions := permissions?.getD k.permissions }
      (w.store.canWriteKey l = true →
        ∃ s, let v : World := { w with
            store := s
            sink := w.sink.notify ⟨x, .keyUpdated key l.expiresAt l.permissions.toJson⟩ }
          w.revise x key expiresAt? permissions? = (.ok l, v) ∧
          s.load x = .ok { a with keys := { a.keys with
            keys := a.keys.keys.map fun m => if m.identity = key then l else m } } ∧
          (∀ y, y ≠ x → s.load y = w.store.load y) ∧
          (∀ es, w.sink = .collected es →
            v.sink.events = es ++ [⟨x, .keyUpdated key l.expiresAt l.permissions.toJson⟩]) ∧
          (expiresAt?.isSome → l.isValid v.clock = true ∧ v.isKeyValid x key = .ok true)) ∧
      (w.store.canWriteKey l = false →
        w.revise x key expiresAt? permissions? = (.error .unwritable, w)) := by
  refine ⟨forbids_or_revisable h x key expiresAt?, fun f hf => revise_of_forbids h hf permissions?,
    ?_⟩
  intro a k hk l
  have hfind := find?_of_load h hk.load hk.mem hk.identity
  have hrule : Rule.revision w.clock key expiresAt? permissions? k = .ok l :=
    Rule.revision_eq_ok_iff.2 ⟨hk.active, hk.ahead, rfl⟩
  rw [revise_eq_changed]
  rcases changed_amend_of_agreed h hk.load (Rule.keeps_revision _ _ _ _) hfind hrule _ with
    ⟨hwrite, hchange⟩ | ⟨hwrite, s, -, hputs, hchange⟩
  · exact ⟨fun h => absurd (h.symm.trans hwrite) nofun, fun _ => hchange⟩
  · refine ⟨fun _ => ⟨s, hchange, ?_, hputs.elsewhere, fun es hes => hes ▸ rfl, ?_⟩,
      fun h => absurd (hwrite.symm.trans h) nofun⟩
    · rw [hputs.here, Account.replaced, Registry.modify,
        Registry.modifyKey_eq_map (h.sound hk.load).wellFormed.keys.nodup]
    · intro hgiven
      obtain ⟨e, rfl⟩ := Option.isSome_iff_exists.1 hgiven
      have hvalid : l.isValid w.clock = true :=
        SessionKey.isValid_iff.2 ⟨hk.active, hk.ahead e rfl⟩
      have hmem : l ∈ (a.replaced key l).keys.keys := Account.mem_replaced_self hfind hk.identity
      refine ⟨hvalid, ?_⟩
      rw [isKeyValid, account, hputs.here]
      exact congrArg Except.ok
        (Account.isKeyValid_iff.2 ⟨l, Account.live_iff.2 ⟨hmem, hk.identity, hvalid⟩⟩)

/-- Words that are longer than can be written down. The name of an owner that is too long for a
file is reported in the place of the missing account, a threshold with too many digits in the
place of its being in the past, and of one that nothing is wrong with it is reported that it
cannot be written. -/
theorem revise_beyond_limits :
    (let w : World := { World.empty "1" with store := .folder {} }
      let x := String.ofList (List.replicate 300 'a')
      w.store.Reachable "1" ∧ w.revise x "2" (some 1) none = (.error (.file .nameTooLong), w)) ∧
    ∃ (w : World) (a : Account) (k : SessionKey), w.store.Reachable "1" ∧
      w.store.load "1" = .ok a ∧ k ∈ a.keys.keys ∧ k.identity = "2" ∧ k.isValid w.clock = true ∧
      let n : Int := Text.Integer.tooLong
      w.Revisable "1" "2" (some n) a k ∧
        w.revise "1" "2" (some n) none = (.error .unwritable, w) ∧
        -n ≤ w.clock.current k.unit ∧
        w.revise "1" "2" (some (-n)) none = (.error .unwritable, w) := by
  constructor
  · intro w x
    refine ⟨.folder _, ?_⟩
    have hmissing : w.store.load x = .error (.file .nameTooLong) := Store.load_of_long_name
    rw [revise_eq_changed, changed_of_missing hmissing]
    rfl
  · obtain ⟨f, a, hreach, hload, hkeys⟩ := Store.Reachable.issued_in_folder
    let w : World := { World.empty "1" with store := .folder f }
    generalize hn : Text.Integer.tooLong = n
    let k : SessionKey := ⟨"2", 0, 1, .time, {}, Label.blank, .active⟩
    have hk : k ∈ a.keys.keys := hkeys ▸ List.mem_singleton_self _
    have hpos : 0 < (n : Int) := Int.natCast_pos.2 (hn ▸ Text.Integer.tooLong_pos)
    have hlong : Text.Integer.isTooLong n = true := hn ▸ Text.Integer.isTooLong_tooLong
    have hpast : -(n : Int) ≤ w.clock.current .time := Int.neg_nonpos_of_nonneg (Int.le_of_lt hpos)
    have hfar : w.Revisable "1" "2" (some n) a k :=
      ⟨hload, hk, rfl, rfl, fun e he => Option.some.inj he ▸ hpos⟩
    refine ⟨w, a, k, hreach, hload, hk, rfl, rfl, hfar, ?_, hpast, ?_⟩
    · exact hfar.unwritable hreach (Store.canWriteKey_of_isTooLong hlong)
    · rw [revise_of_forbids hreach (.expiry hload hk rfl rfl rfl hpast)]
      rw [Fault.raised_of_isTooLong (n := -n) List.mem_cons_self]
      exact (Text.Integer.isTooLong_neg n).trans hlong

/-- A key that has run out is brought back by a later threshold, with the permissions that it had,
and not by the one that it has reached. -/
theorem revise_exactly_expired : ∃ (w : World) (a : Account) (k l : SessionKey) (s : Store),
    w.store.Reachable "1" ∧ w.store.load "1" = .ok a ∧ k ∈ a.keys.keys ∧
      k.isValid w.clock = false ∧ w.sink.events = [] ∧
      (w.revise "1" "2" (some (k.expiresAt + 1)) none).1 = .ok l ∧
      (w.revise "1" "2" (some (k.expiresAt + 1)) none).2.store = s ∧
      (w.revise "1" "2" (some (k.expiresAt + 1)) none).2.sink.events =
        [⟨"1", .keyUpdated "2" l.expiresAt l.permissions.toJson⟩] ∧
      s.load "1" = .ok { a with keys := { a.keys with
        keys := a.keys.keys.map fun m => if m.identity = "2" then l else m } } ∧
      l.permissions = k.permissions ∧ l.isValid w.clock = true ∧
      w.revise "1" "2" (some k.expiresAt) (some {}) =
        (.error (.refusal (.invalidExpiry k.unit k.expiresAt k.expiresAt)), w) := by
  obtain ⟨a, hreach, hsound, hkeys, -⟩ := Store.Reachable.exists_issued
  let w : World := { World.empty "1" with store := .memory [("1", a)], clock := ⟨1, 1⟩ }
  let k : SessionKey := ⟨"2", 0, 1, .time, { canTransfer := true }, Label.blank, .active⟩
  have hmem : k ∈ a.keys.keys := hkeys ▸ List.mem_singleton_self _
  have hw : w.store.Reachable "1" := hreach
  have hload : w.store.load "1" = .ok a := Account.ofJson_toJson hsound.wellFormed
  have hk : w.Revisable "1" "2" (some 2) a k :=
    ⟨hload, hmem, rfl, rfl, fun e he => Option.some.inj he ▸ (by decide : (1 : Int) < 2)⟩
  have hpast : w.Forbids "1" "2" (some 1) (.refusal (.invalidExpiry .time 1 1)) :=
    .expiry hload hmem rfl rfl rfl (Int.le_refl 1)
  obtain ⟨-, -, hrevise⟩ := revise_exactly hw "1" "2" (some 2) none
  obtain ⟨-, hrefuse, -⟩ := revise_exactly hw "1" "2" (some 1) (some {})
  obtain ⟨s, hok, hs, -, hevents, hvalid⟩ := (hrevise a k hk).1 rfl
  have hshort : ∀ n ∈ [(1 : Int), 1], Text.Integer.isTooLong n = false :=
    fun n hn => Text.Integer.isTooLong_of_lt (by revert n; decide)
  have hraised : (Fault.refusal (.invalidExpiry .time 1 1)).raised = _ :=
      Fault.raised_eq_self hshort
  refine ⟨w, a, k, _, s, hreach, hload, hmem, rfl, rfl, congrArg Prod.fst hok,
    congrArg (fun r => r.2.store) hok, ?_, hs, rfl, (hvalid rfl).1, hraised ▸ hrefuse _ hpast⟩
  exact (congrArg (fun r => r.2.sink.events) hok).trans (hevents [] rfl)

end Keyring.World
