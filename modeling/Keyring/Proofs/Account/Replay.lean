import Keyring.Proofs.Account.Edit
import Mathlib.Data.List.Dedup

/-!
# What events tell of an account

The events about an owner tell what the owner's account holds. A key was issued as its last creation
tells, and since then only an update has given it other terms, and only a revocation has revoked it;
the keys stand in the order of these creations, and the mints are those told last. `Replays` says
so. It holds of an account with nothing in it before anything is told, and every change of an
account keeps it when the notice of the change is told.
-/

namespace Keyring

namespace Event

def createdKey? (x : String) : Event → Option String
  | ⟨y, .keyCreated key _ _ _⟩ => if y = x then some key else none
  | _ => none

/-- The threshold and the permissions that an event tells a key of `x` to have been given since it
was issued. -/
def newTerms? (x j : String) : Event → Option (Int × Json)
  | ⟨y, .keyUpdated key expiresAt permissions⟩ =>
    if y = x ∧ key = j then some (expiresAt, permissions) else none
  | _ => none

/-- Whether an event tells that a key of `x` was revoked: alone, or with all the others. -/
def revokesKey (x j : String) : Event → Bool
  | ⟨y, .keyRevoked key⟩ => y == x && key == j
  | ⟨y, .allKeysRevoked _⟩ => y == x
  | _ => false

def newMints? (x : String) : Event → Option (List String)
  | ⟨y, .mintsUpdated mints⟩ => if y = x then some mints else none
  | _ => none

structure IsQuiet (x : String) (e : Event) : Prop where
  created : e.createdKey? x = none
  terms (j : String) : e.newTerms? x j = none
  revokes (j : String) : e.revokesKey x j = false
  mints : e.newMints? x = none

structure Takes (x : String) (e : Event) (k k' : SessionKey) : Prop where
  identity : k'.identity = k.identity
  unit : k'.unit = k.unit
  created : e.createdKey? x ≠ some k.identity
  terms : (k'.expiresAt, k'.permissions.toJson) =
    (e.newTerms? x k.identity).getD (k.expiresAt, k.permissions.toJson)
  revoked : k'.isRevoked = (k.isRevoked || e.revokesKey x k.identity)

end Event

/--
Whether a key of `x` is as the events tell: as its last creation tells, but with the terms that were
told last, if any were told since then, and revoked just if a revocation was told since then.
-/
def SessionKey.Announced (x : String) (es : List Event) (k : SessionKey) : Prop :=
  ∃ before since expiresAt permissions,
    es = before ++ ⟨x, .keyCreated k.identity expiresAt k.unit.name permissions⟩ :: since ∧
      k.identity ∉ since.filterMap (Event.createdKey? x) ∧
      (k.expiresAt, k.permissions.toJson) =
        (since.filterMap (Event.newTerms? x k.identity)).getLast?.getD (expiresAt, permissions) ∧
      k.isRevoked = since.any (Event.revokesKey x k.identity)

/-- Whether the keys and mints of `x` are as the events tell. Of the creations of one key the last
counts for its place in the order. -/
structure Replays (x : String) (es : List Event) (keys : List SessionKey) (mints : List String) :
    Prop where
  announced : ∀ k ∈ keys, k.Announced x es
  order : (keys.map SessionKey.identity).Sublist (es.filterMap (Event.createdKey? x)).dedup
  allowed : mints = (es.filterMap (Event.newMints? x)).getLast?.getD []

/-! ## One event more -/

theorem getD_getLast?_append {α : Type} (l l' : List α) (d : α) :
    (l ++ l').getLast?.getD d = l'.getLast?.getD (l.getLast?.getD d) := by
  rw [List.getLast?_append]
  cases l'.getLast? <;> rfl

theorem filterMap_append_singleton {α β : Type} (f : α → Option β) (l : List α) (a : α) :
    (l ++ [a]).filterMap f = l.filterMap f ++ (f a).toList := by
  rw [List.filterMap_append, List.filterMap_cons]
  cases f a <;> rfl

/-- Of several occurrences the last is kept, so one that is appended takes the place of
the others. -/
theorem dedup_append_singleton {α : Type} [DecidableEq α] (l : List α) (a : α) :
    (l ++ [a]).dedup = l.dedup.filter (· ≠ a) ++ [a] := by
  induction l with
  | nil => rfl
  | cons b l ih =>
      rw [List.cons_append]
      by_cases hb : b ∈ l
      · rw [List.dedup_cons_of_mem (List.mem_append_left _ hb), ih, List.dedup_cons_of_mem hb]
      · rw [List.dedup_cons_of_notMem hb]
        by_cases hba : b = a
        · subst hba
          rw [List.dedup_cons_of_mem (List.mem_append_right _ (List.mem_singleton_self b)), ih,
            List.filter_cons_of_neg (by simp)]
        · have hnot : b ∉ l ++ [a] := by
            rw [List.mem_append, List.mem_singleton, not_or]
            exact ⟨hb, hba⟩
          rw [List.dedup_cons_of_notMem hnot, ih, List.filter_cons_of_pos (by simpa using hba),
            List.cons_append]

variable {x : String} {es ns : List Event} {e : Event} {k k' : SessionKey}

/-- An event that tells nothing of a key leaves it as it was. -/
theorem Event.takes_self (hcreated : e.createdKey? x ≠ some k.identity)
    (hterms : e.newTerms? x k.identity = none) (hrevokes : e.revokesKey x k.identity = false) :
    e.Takes x k k := by
  refine ⟨rfl, rfl, hcreated, ?_, ?_⟩
  · rw [hterms, Option.getD_none]
  · rw [hrevokes, Bool.or_false]

theorem Event.IsQuiet.takes (h : e.IsQuiet x) (k : SessionKey) : e.Takes x k k :=
  takes_self (h.created ▸ (Option.some_ne_none _).symm) (h.terms _) (h.revokes _)

theorem SessionKey.announced_created (es : List Event) {k : SessionKey} (hk : k.isRevoked = false) :
    k.Announced x
        (es ++ [⟨x, .keyCreated k.identity k.expiresAt k.unit.name k.permissions.toJson⟩]) :=
  ⟨es, [], k.expiresAt, k.permissions.toJson, rfl, List.not_mem_nil, rfl, hk⟩

theorem SessionKey.Announced.append (h : k.Announced x es) (he : e.Takes x k k') :
    k'.Announced x (es ++ [e]) := by
  obtain ⟨before, since, expiresAt, permissions, rfl, hlast, hterms, hrevoked⟩ := h
  refine ⟨before, since ++ [e], expiresAt, permissions, ?_, ?_, ?_, ?_⟩
  · rw [he.identity, he.unit, List.append_assoc, List.cons_append]
  · rw [he.identity, filterMap_append_singleton, List.mem_append, not_or]
    exact ⟨hlast, fun hmem => he.created (Option.mem_toList.1 hmem)⟩
  · rw [he.terms, he.identity, filterMap_append_singleton, getD_getLast?_append, hterms]
    cases e.newTerms? x k.identity <;> rfl
  · rw [he.revoked, he.identity, hrevoked, List.any_append, List.any_cons, List.any_nil,
      Bool.or_false]

theorem Replays.append_quiet {keys : List SessionKey} {mints : List String}
    (h : Replays x es keys mints) (he : e.IsQuiet x) : Replays x (es ++ [e]) keys mints := by
  refine ⟨fun k hk => (h.announced k hk).append (he.takes k), ?_, ?_⟩
  · rw [filterMap_append_singleton, he.created, Option.toList_none, List.append_nil]
    exact h.order
  · rw [filterMap_append_singleton, he.mints, Option.toList_none, List.append_nil]
    exact h.allowed

theorem replays_nil (x : String) : Replays x [] [] [] := ⟨nofun, List.nil_sublist _, rfl⟩

/-! ## One change more -/

namespace Edit

variable {c : Reading} {a : Account} {d : Edit} {n : Notice} {j : String}

/-- The notice of a change tells how a key that is kept has become another. -/
theorem takes_onKey (hfits : d.Fits c a) (hn : d.notice? a = some n)
    (hk : a.keys.find? j = some k) (hk' : d.onKey c j (some k) = some k') :
    (⟨x, n⟩ : Event).Takes x k k' := by
  obtain rfl := Registry.identity_of_find? hk
  have hnone : none ≠ some k.identity := (Option.some_ne_none _).symm
  cases d with
  | issue key expiresAt unit permissions label =>
      have hne : k.identity ≠ key := by
        rintro rfl
        rw [hfits.2.2.2] at hk
        cases hk
      rw [onKey, if_neg hne] at hk'
      obtain rfl := Option.some.inj hk'
      obtain rfl := Option.some.inj hn
      exact Event.takes_self (by simpa [Event.createdKey?] using hne.symm) rfl rfl
  | revise key expiresAt? permissions? =>
      obtain ⟨l, hl, -, -⟩ := hfits
      rw [notice?, hl] at hn
      obtain rfl := Option.some.inj hn
      rw [onKey] at hk'
      split at hk'
      next hj =>
        obtain rfl : k = l := Option.some.inj (hk.symm.trans (hj ▸ hl))
        obtain rfl := Option.some.inj hk'
        exact ⟨rfl, rfl, hnone, by simp [Event.newTerms?, hj], (Bool.or_false _).symm⟩
      next hj =>
        obtain rfl := Option.some.inj hk'
        exact Event.takes_self hnone (by simp [Event.newTerms?, Ne.symm hj]) rfl
  | revoke key =>
      obtain rfl := Option.some.inj hn
      rw [onKey] at hk'
      split at hk'
      next hj =>
        obtain rfl := Option.some.inj hk'
        exact ⟨rfl, rfl, hnone, rfl, by simp [Event.revokesKey, hj]⟩
      next hj =>
        obtain rfl := Option.some.inj hk'
        exact Event.takes_self hnone rfl (by simp [Event.revokesKey, Ne.symm hj])
  | revokeAll =>
      obtain rfl := Option.some.inj hn
      obtain rfl := Option.some.inj hk'
      exact ⟨rfl, rfl, hnone, rfl, by simp [Event.revokesKey]⟩
  | prune => cases hn
  | setMints mints =>
      obtain rfl := Option.some.inj hn
      obtain rfl := Option.some.inj hk'
      exact Event.takes_self hnone rfl rfl

/-- Only of a pruning nothing is told, and it leaves the keys that it keeps as they were. -/
theorem eq_of_notice?_eq_none (hfits : d.Fits c a) (hn : d.notice? a = none)
    (hk' : d.onKey c j (some k) = some k') : k' = k := by
  cases d with
  | prune =>
      rw [onKey, Option.filter_eq_some_iff] at hk'
      exact (Option.some.inj hk'.1).symm
  | revise key expiresAt? permissions? =>
      obtain ⟨l, hl, -, -⟩ := hfits
      rw [notice?, hl] at hn
      cases hn
  | _ => cases hn

def events (x : String) (a : Account) (d : Edit) : List Event :=
  ((d.notice? a).map (Event.mk x)).toList

theorem announced_registry (ha : a.WellFormed) (hfits : d.Fits c a)
    (h : ∀ k ∈ a.keys.keys, k.Announced x es) (hnd : ((d.registry c a.keys).keys.map
      SessionKey.identity).Nodup) (hk' : k' ∈ (d.registry c a.keys).keys) :
    k'.Announced x (es ++ d.events x a) := by
  have hfind := find?_registry ha.keys.nodup hfits k'.identity
  rw [Registry.find?_of_mem hnd hk'] at hfind
  cases hk : a.keys.find? k'.identity with
  | none =>
      rw [hk] at hfind
      obtain ⟨expiresAt, unit, permissions, label, rfl, hkey⟩ := eq_issue_of_onKey hfind.symm
      rw [hkey]
      exact SessionKey.announced_created es rfl
  | some k =>
      rw [hk] at hfind
      have hkept := h k (Registry.mem_of_find? hk)
      rw [events]
      cases hn : d.notice? a with
      | none =>
          rw [eq_of_notice?_eq_none hfits hn hfind.symm]
          exact (List.append_nil es).symm ▸ hkept
      | some n => exact hkept.append (takes_onKey hfits hn hk hfind.symm)

/-- A change that tells of a key issues it. -/
theorem eq_issue_of_mem_events {y : String}
    (h : j ∈ (d.events x a).filterMap (Event.createdKey? y)) :
    x = y ∧ ∃ expiresAt unit permissions label, d = .issue j expiresAt unit permissions label := by
  cases d with
  | issue key expiresAt unit permissions label =>
      obtain ⟨rfl, rfl⟩ : x = y ∧ key = j := by
        simpa [events, notice?, Event.createdKey?] using h
      exact ⟨rfl, expiresAt, unit, permissions, label, rfl⟩
  | revise key expiresAt? permissions? =>
      rw [events, notice?] at h
      cases hk : a.keys.find? key <;> rw [hk] at h <;> cases h
  | _ => cases h

/-- A change that issues no key adds none. -/
theorem sublist_registry (c : Reading) (r : Registry)
    (hd : ∀ key expiresAt unit permissions label,
      d ≠ .issue key expiresAt unit permissions label) :
    ((d.registry c r).keys.map SessionKey.identity).Sublist (r.keys.map SessionKey.identity) := by
  cases d with
  | issue key expiresAt unit permissions label =>
      exact absurd rfl (hd key expiresAt unit permissions label)
  | revise key expiresAt? permissions? =>
      rw [registry, Registry.modify,
        Registry.map_identity_modifyKey (f := SessionKey.revised _ _) fun _ h => h]
  | revoke key =>
      rw [registry, Registry.modify,
        Registry.map_identity_modifyKey (f := SessionKey.revoke) fun _ h => h]
  | revokeAll =>
      rw [registry, Registry.revokeAll, List.map_map]
      exact List.Sublist.refl _
  | prune => exact List.filter_sublist.map _
  | setMints mints => exact List.Sublist.refl _

theorem order_registry (hfits : d.Fits c a)
    (h : (a.keys.keys.map SessionKey.identity).Sublist
      (es.filterMap (Event.createdKey? x)).dedup) :
    ((d.registry c a.keys).keys.map SessionKey.identity).Sublist
      ((es ++ d.events x a).filterMap (Event.createdKey? x)).dedup := by
  rw [List.filterMap_append]
  by_cases hd : ∃ key expiresAt unit permissions label,
      d = .issue key expiresAt unit permissions label
  · obtain ⟨key, expiresAt, unit, permissions, label, rfl⟩ := hd
    have hcreated : ((issue key expiresAt unit permissions label).events x a).filterMap
        (Event.createdKey? x) = [key] := by
      simp [events, notice?, Event.createdKey?]
    have hkept : (a.keys.keys.map SessionKey.identity).filter (· ≠ key) =
        a.keys.keys.map SessionKey.identity := by
      rw [List.filter_eq_self]
      intro j hj
      rw [decide_eq_true_eq]
      rintro rfl
      exact Registry.find?_eq_none_iff.1 hfits.2.2.2 hj
    rw [hcreated, dedup_append_singleton, registry, List.map_append, List.map_singleton, ← hkept]
    exact (h.filter _).append_right [key]
  · have hnone : (d.events x a).filterMap (Event.createdKey? x) = [] := by
      rw [List.eq_nil_iff_forall_not_mem]
      intro j hj
      obtain ⟨-, hissue⟩ := eq_issue_of_mem_events hj
      exact hd ⟨j, hissue⟩
    rw [hnone, List.append_nil]
    refine (sublist_registry c a.keys ?_).trans h
    exact fun key expiresAt unit permissions label heq =>
      hd ⟨key, expiresAt, unit, permissions, label, heq⟩

theorem allowed_allowlist (x : String) (a : Account) (d : Edit) :
    (d.allowlist a.mints).mints =
      ((d.events x a).filterMap (Event.newMints? x)).getLast?.getD a.mints.mints := by
  cases d with
  | setMints mints => simp [allowlist, events, notice?, Event.newMints?]
  | revise key expiresAt? permissions? =>
      rw [events, notice?]
      cases a.keys.find? key <;> rfl
  | _ => rfl

end Edit

/-- A change keeps an account as the events tell. -/
theorem Replays.edit {c : Reading} {a a' : Account} {d : Edit} (ha : a.WellFormed)
    (hd : a.edit c d = .ok a') (h : Replays x es a.keys.keys a.mints.mints) :
    Replays x (es ++ d.events x a) a'.keys.keys a'.mints.mints := by
  have hnd := (ha.edit hd).keys.nodup
  obtain ⟨hfits, rfl⟩ := Account.edit_eq_ok_iff.1 hd
  refine ⟨fun k hk => Edit.announced_registry ha hfits h.announced hnd hk,
    Edit.order_registry hfits h.order, ?_⟩
  rw [List.filterMap_append, getD_getLast?_append, ← h.allowed]
  exact Edit.allowed_allowlist x a d

end Keyring
