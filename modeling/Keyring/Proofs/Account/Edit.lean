import Keyring.Proofs.Account.Outcomes

/-!
# Changes of an account

`Edit` names the six changes that an engine makes to an account. What a change asks of the account
is `Edit.Fits`, and what it leaves of the registry and the allowlist is a function of them, so that
`edit_eq_ok_iff` says once and for all what a change does. `Edit.onKey` is the same seen from one
identity: what a lookup gives after the change, from what it gave before.
-/

namespace Keyring

inductive Edit where
  | issue (key : String) (expiresAt : Int) (unit : ExpiryUnit) (permissions : Permissions)
      (label : Bytes)
  | revise (key : String) (expiresAt? : Option Int) (permissions? : Option Permissions)
  | revoke (key : String)
  | revokeAll
  | prune
  | setMints (mints : List String)

namespace SessionKey

def revised (expiresAt? : Option Int) (permissions? : Option Permissions) (k : SessionKey) :
    SessionKey :=
  { k with expiresAt := expiresAt?.getD k.expiresAt,
           permissions := permissions?.getD k.permissions }

@[simp] theorem isRevoked_revoke (k : SessionKey) : k.revoke.isRevoked = true := rfl

end SessionKey

namespace Account

def edit (c : Reading) (a : Account) : Edit → Outcome Account
  | .issue key expiresAt unit permissions label =>
    (a.issue c key expiresAt unit permissions label).map (·.2)
  | .revise key expiresAt? permissions? => (a.revise c key expiresAt? permissions?).map (·.2)
  | .revoke key => (a.revoke key).map (·.2)
  | .revokeAll => .ok a.revokeAll.2
  | .prune => .ok (a.prune c).2
  | .setMints mints => (a.setMints mints).map (·.2)

end Account

namespace Edit

def Fits (c : Reading) (a : Account) : Edit → Prop
  | .issue key expiresAt unit _ label =>
    c.current unit < expiresAt ∧ label.length = Label.size ∧
      (a.keys.size : Int) < a.keys.capacity ∧ a.keys.find? key = none
  | .revise key expiresAt? _ =>
    ∃ k, a.keys.find? key = some k ∧ k.isRevoked = false ∧
      ∀ e ∈ expiresAt?, c.current k.unit < e
  | .revoke key => ∃ k, a.keys.find? key = some k ∧ k.isRevoked = false
  | .setMints mints => mints.length ≤ Allowlist.maxMints
  | _ => True

def registry (c : Reading) (r : Registry) : Edit → Registry
  | .issue key expiresAt unit permissions label =>
    { r with keys := r.keys ++ [⟨key, c.time, expiresAt, unit, permissions, label, .active⟩] }
  | .revise key expiresAt? permissions? =>
    r.modify key (SessionKey.revised expiresAt? permissions?)
  | .revoke key => r.modify key SessionKey.revoke
  | .revokeAll => r.revokeAll
  | .prune => (r.retain (·.isValid c)).2
  | .setMints _ => r

def allowlist (m : Allowlist) : Edit → Allowlist
  | .setMints mints => ⟨mints.eraseDups⟩
  | _ => m

def onKey (c : Reading) (j : String) (k? : Option SessionKey) : Edit → Option SessionKey
  | .issue key expiresAt unit permissions label =>
    if j = key then some ⟨key, c.time, expiresAt, unit, permissions, label, .active⟩ else k?
  | .revise key expiresAt? permissions? =>
    if j = key then k?.map (SessionKey.revised expiresAt? permissions?) else k?
  | .revoke key => if j = key then k?.map SessionKey.revoke else k?
  | .revokeAll => k?.map SessionKey.revoke
  | .prune => k?.filter (·.isValid c)
  | .setMints _ => k?

/-- What is told of a change that is made to an account. Of a pruning nothing is told. -/
def notice? (a : Account) : Edit → Option Notice
  | .issue key expiresAt unit permissions _ =>
    some (.keyCreated key expiresAt unit.name permissions.toJson)
  | .revise key expiresAt? permissions? => (a.keys.find? key).map fun k =>
    let k := k.revised expiresAt? permissions?
    .keyUpdated key k.expiresAt k.permissions.toJson
  | .revoke key => some (.keyRevoked key)
  | .revokeAll => some (.allKeysRevoked a.keys.size)
  | .prune => none
  | .setMints mints => some (.mintsUpdated mints.eraseDups)

end Edit

namespace Account

open Outcome

variable {c : Reading} {a a' : Account}

theorem requireFuture_eq_ok_iff {unit : ExpiryUnit} {expiresAt : Int} {u : Unit} :
    c.requireFuture unit expiresAt = .ok u ↔ c.current unit < expiresAt := by
  rw [Reading.requireFuture]
  split
  next h => simp [Int.not_lt.2 h]
  next h => simp [Int.not_le.1 h]

theorem make_eq_ok_iff {identity : String} {createdAt expiresAt : Int} {unit : ExpiryUnit}
    {permissions : Permissions} {label : Bytes} {k : SessionKey} :
    SessionKey.make identity createdAt expiresAt unit permissions label = .ok k ↔
      label.length = Label.size ∧
        k = ⟨identity, createdAt, expiresAt, unit, permissions, label, .active⟩ := by
  rw [SessionKey.make]
  split
  next h => simp [h, eq_comm]
  next h => simp [h]

theorem issue_eq_ok_iff {key : String} {expiresAt : Int} {unit : ExpiryUnit}
    {permissions : Permissions} {label : Bytes} {k : SessionKey} :
    a.issue c key expiresAt unit permissions label = .ok (k, a') ↔
      (Edit.issue key expiresAt unit permissions label).Fits c a ∧
      k = ⟨key, c.time, expiresAt, unit, permissions, label, .active⟩ ∧
      a' = { a with
        keys := (Edit.issue key expiresAt unit permissions label).registry c a.keys } := by
  constructor
  · intro h
    obtain ⟨_, hfuture, h⟩ := bind_eq_ok.1 h
    obtain ⟨_, hmake, h⟩ := bind_eq_ok.1 h
    obtain ⟨_, hadd, h⟩ := bind_eq_ok.1 h
    obtain ⟨hlabel, rfl⟩ := make_eq_ok_iff.1 hmake
    obtain ⟨hsize, hnone, rfl⟩ := Registry.add_eq_ok_iff.1 hadd
    obtain ⟨rfl, rfl⟩ := Prod.mk.inj (Except.ok.inj h)
    exact ⟨⟨requireFuture_eq_ok_iff.1 hfuture, hlabel, hsize, hnone⟩, rfl, rfl⟩
  · rintro ⟨⟨hfuture, hlabel, hsize, hnone⟩, rfl, rfl⟩
    have hok := requireFuture_eq_ok_iff (u := ()).2 hfuture
    have hmake : SessionKey.make key c.time expiresAt unit permissions label =
        .ok ⟨key, c.time, expiresAt, unit, permissions, label, .active⟩ :=
      make_eq_ok_iff.2 ⟨hlabel, rfl⟩
    rw [issue, hok, ok_bind, hmake, ok_bind, Registry.add_eq_ok_iff.2 ⟨hsize, hnone, rfl⟩]
    rfl

theorem newExpiry_eq_ok_iff {k l : SessionKey} {expiresAt? : Option Int} :
    newExpiry c k expiresAt? = .ok l ↔
      (∀ e ∈ expiresAt?, c.current k.unit < e) ∧
        l = { k with expiresAt := expiresAt?.getD k.expiresAt } := by
  cases expiresAt? with
  | none =>
      simp only [newExpiry, Except.ok.injEq, Option.getD_none]
      have hnone : ∀ e ∈ (none : Option Int), c.current k.unit < e :=
        fun e he => absurd he (Option.not_mem_none e)
      exact ⟨fun h => ⟨hnone, h.symm⟩, fun h => h.2.symm⟩
  | some e =>
      constructor
      · intro h
        obtain ⟨_, hfuture, h⟩ := bind_eq_ok.1 h
        obtain rfl := Except.ok.inj h
        refine ⟨?_, rfl⟩
        rintro e' he
        obtain rfl := Option.some.inj he
        exact requireFuture_eq_ok_iff.1 hfuture
      · rintro ⟨hfuture, rfl⟩
        rw [newExpiry, requireFuture_eq_ok_iff (u := ()).2 (hfuture e rfl)]
        rfl

theorem revise_eq_ok_iff {key : String} {expiresAt? : Option Int}
    {permissions? : Option Permissions} {l : SessionKey} :
    a.revise c key expiresAt? permissions? = .ok (l, a') ↔
      ∃ k, a.keys.find? key = some k ∧ k.isRevoked = false ∧
        (∀ e ∈ expiresAt?, c.current k.unit < e) ∧ l = k.revised expiresAt? permissions? ∧
        a' = { a with
          keys := (Edit.revise key expiresAt? permissions?).registry c a.keys } := by
  constructor
  · intro h
    obtain ⟨k, hget, h⟩ := bind_eq_ok.1 h
    have hk := Registry.get_eq_ok_iff.1 hget
    split at h
    next => cases h
    next hrevoked =>
      obtain ⟨k', hexpiry, h⟩ := bind_eq_ok.1 h
      obtain ⟨hfuture, rfl⟩ := newExpiry_eq_ok_iff.1 hexpiry
      obtain ⟨rfl, rfl⟩ := Prod.mk.inj (Except.ok.inj h)
      refine ⟨k, hk, by simpa using hrevoked, hfuture, rfl, ?_⟩
      rw [Edit.registry, ← Registry.modify_const hk (f := SessionKey.revised _ _)]
      rfl
  · rintro ⟨k, hk, hrevoked, hfuture, rfl, rfl⟩
    have hexpiry := newExpiry_eq_ok_iff.2 ⟨hfuture, rfl⟩
    rw [revise, Registry.get_eq_ok_iff.2 hk, ok_bind, if_neg (by simp [hrevoked]), hexpiry,
      ok_bind, Edit.registry, ← Registry.modify_const hk (f := SessionKey.revised _ _)]
    rfl

theorem revoke_eq_ok_iff {key : String} {l : SessionKey} :
    a.revoke key = .ok (l, a') ↔
      ∃ k, a.keys.find? key = some k ∧ k.isRevoked = false ∧ l = k.revoke ∧
        a' = { a with keys := (Edit.revoke key).registry c a.keys } := by
  constructor
  · intro h
    obtain ⟨k, hget, h⟩ := bind_eq_ok.1 h
    split at h
    next => cases h
    next hrevoked =>
      obtain ⟨rfl, rfl⟩ := Prod.mk.inj (Except.ok.inj h)
      exact ⟨k, Registry.get_eq_ok_iff.1 hget, by simpa using hrevoked, rfl, rfl⟩
  · rintro ⟨k, hk, hrevoked, rfl, rfl⟩
    rw [revoke, Registry.get_eq_ok_iff.2 hk, ok_bind, if_neg (by simp [hrevoked])]
    rfl

theorem setMints_eq_ok_iff {mints ms : List String} :
    a.setMints mints = .ok (ms, a') ↔
      mints.length ≤ Allowlist.maxMints ∧ ms = mints.eraseDups ∧
        a' = { a with mints := ⟨mints.eraseDups⟩ } := by
  constructor
  · intro h
    obtain ⟨m, hgiven, h⟩ := bind_eq_ok.1 h
    obtain ⟨hsize, rfl⟩ := Allowlist.ofList_eq_ok_iff.1 hgiven
    obtain ⟨rfl, rfl⟩ := Prod.mk.inj (Except.ok.inj h)
    exact ⟨hsize, rfl, rfl⟩
  · rintro ⟨hsize, rfl, rfl⟩
    rw [setMints, Allowlist.ofList_eq_ok_iff.2 ⟨hsize, rfl⟩, ok_bind]

/-- What a change does: it asks what `Fits` says, and leaves what `registry` and `allowlist` say. -/
theorem edit_eq_ok_iff {e : Edit} : a.edit c e = .ok a' ↔
    e.Fits c a ∧ a' = { a with keys := e.registry c a.keys, mints := e.allowlist a.mints } := by
  cases e with
  | issue key expiresAt unit permissions label =>
      rw [edit, map_eq_ok]
      constructor
      · rintro ⟨⟨k, a''⟩, h, rfl⟩
        obtain ⟨hfits, -, rfl⟩ := issue_eq_ok_iff.1 h
        exact ⟨hfits, rfl⟩
      · rintro ⟨hfits, rfl⟩
        exact ⟨_, issue_eq_ok_iff.2 ⟨hfits, rfl, rfl⟩, rfl⟩
  | revise key expiresAt? permissions? =>
      rw [edit, map_eq_ok]
      constructor
      · rintro ⟨⟨l, a''⟩, h, rfl⟩
        obtain ⟨k, hk, hrevoked, hfuture, -, rfl⟩ := revise_eq_ok_iff.1 h
        exact ⟨⟨k, hk, hrevoked, hfuture⟩, rfl⟩
      · rintro ⟨⟨k, hk, hrevoked, hfuture⟩, rfl⟩
        exact ⟨_, revise_eq_ok_iff.2 ⟨k, hk, hrevoked, hfuture, rfl, rfl⟩, rfl⟩
  | revoke key =>
      rw [edit, map_eq_ok]
      constructor
      · rintro ⟨⟨l, a''⟩, h, rfl⟩
        obtain ⟨k, hk, hrevoked, -, rfl⟩ := (revoke_eq_ok_iff (c := c)).1 h
        exact ⟨⟨k, hk, hrevoked⟩, rfl⟩
      · rintro ⟨⟨k, hk, hrevoked⟩, rfl⟩
        exact ⟨_, (revoke_eq_ok_iff (c := c)).2 ⟨k, hk, hrevoked, rfl, rfl⟩, rfl⟩
  | revokeAll => simp [edit, revokeAll, Edit.Fits, Edit.registry, Edit.allowlist, eq_comm]
  | prune => simp [edit, prune, Edit.Fits, Edit.registry, Edit.allowlist, eq_comm]
  | setMints mints =>
      rw [edit, map_eq_ok]
      constructor
      · rintro ⟨⟨ms, a''⟩, h, rfl⟩
        obtain ⟨hsize, -, rfl⟩ := setMints_eq_ok_iff.1 h
        exact ⟨hsize, rfl⟩
      · rintro ⟨hsize, rfl⟩
        exact ⟨_, setMints_eq_ok_iff.2 ⟨hsize, rfl, rfl⟩, rfl⟩

end Account

/-! ## What a lookup gives afterwards -/

namespace Edit

variable {c : Reading} {a : Account} {e : Edit}

theorem find?_registry (hnd : (a.keys.keys.map SessionKey.identity).Nodup) (hfits : e.Fits c a)
    (j : String) : (e.registry c a.keys).find? j = e.onKey c j (a.keys.find? j) := by
  cases e with
  | issue key expiresAt unit permissions label => exact Registry.find?_append j hfits.2.2.2
  | revise key expiresAt? permissions? =>
      exact Registry.find?_modify (f := SessionKey.revised _ _) (fun _ h => h) a.keys j
  | revoke key => exact Registry.find?_modify (f := SessionKey.revoke) (fun _ h => h) a.keys j
  | revokeAll => exact Registry.find?_revokeAll a.keys j
  | prune => exact Registry.find?_retain hnd _ j
  | setMints mints => rfl

/-- A key that is not there comes only by being issued. -/
theorem eq_issue_of_onKey {j : String} {k : SessionKey} (h : e.onKey c j none = some k) :
    ∃ expiresAt unit permissions label, e = .issue j expiresAt unit permissions label ∧
      k = ⟨j, c.time, expiresAt, unit, permissions, label, .active⟩ := by
  cases e with
  | issue key expiresAt unit permissions label =>
      rw [onKey] at h
      split at h
      next hj =>
          exact ⟨expiresAt, unit, permissions, label, hj ▸ rfl, hj ▸ (Option.some.inj h).symm⟩
      next => cases h
  | revise key expiresAt? permissions? =>
      rw [onKey] at h
      split at h <;> cases h
  | revoke key =>
      rw [onKey] at h
      split at h <;> cases h
  | _ => cases h

end Edit

/-! ## Limits -/

namespace Registry

variable {r : Registry}

theorem WellFormed.modify {key : String} {f : SessionKey → SessionKey} (h : r.WellFormed)
    (hid : ∀ k, k.identity = key → (f k).identity = key)
    (hlabel : ∀ k, k.label.length = Label.size → (f k).label.length = Label.size) :
    (r.modify key f).WellFormed := by
  have hmap : (r.modify key f).keys.map SessionKey.identity = r.keys.map SessionKey.identity :=
    map_identity_modifyKey hid r.keys
  refine ⟨h.capacity, ?_, hmap ▸ h.nodup, ?_⟩
  · have hlen := congrArg List.length hmap
    rw [List.length_map, List.length_map] at hlen
    exact hlen ▸ h.size
  · intro l hl
    obtain ⟨k, hk, rfl | rfl⟩ := mem_modifyKey hl
    · exact h.label l hk
    · exact hlabel k (h.label k hk)

theorem WellFormed.revokeAll (h : r.WellFormed) : r.revokeAll.WellFormed := by
  have hmap : r.revokeAll.keys.map SessionKey.identity = r.keys.map SessionKey.identity := by
    rw [Registry.revokeAll, List.map_map]
    rfl
  refine ⟨h.capacity, ?_, hmap ▸ h.nodup, ?_⟩
  · rw [Registry.revokeAll, List.length_map]
    exact h.size
  · intro l hl
    obtain ⟨k, hk, rfl⟩ := List.mem_map.1 hl
    exact h.label k hk

theorem WellFormed.retain (h : r.WellFormed) (p : SessionKey → Bool) :
    (r.retain p).2.WellFormed := by
  have hsub : (r.retain p).2.keys.Sublist r.keys := List.filter_sublist
  exact ⟨h.capacity, Nat.le_trans hsub.length_le h.size, h.nodup.sublist (hsub.map _),
    fun k hk => h.label k (hsub.subset hk)⟩

theorem WellFormed.append {k : SessionKey} (h : r.WellFormed) (hsize : (r.size : Int) < r.capacity)
    (hnone : r.find? k.identity = none) (hlabel : k.label.length = Label.size) :
    ({ r with keys := r.keys ++ [k] } : Registry).WellFormed := by
  refine ⟨h.capacity, ?_, ?_, ?_⟩
  · rw [h.capacity, Registry.size] at hsize
    rw [List.length_append, List.length_singleton]
    omega
  · rw [List.map_append, List.nodup_append]
    refine ⟨h.nodup, List.pairwise_singleton _ _, ?_⟩
    rintro x hx y hy rfl
    rw [List.map_singleton, List.mem_singleton] at hy
    exact find?_eq_none_iff.1 hnone (hy ▸ hx)
  · intro l hl
    rcases List.mem_append.1 hl with hl | hl
    · exact h.label l hl
    · rw [List.mem_singleton.1 hl]
      exact hlabel

end Registry

/-- A change keeps an account within its limits. -/
theorem Account.WellFormed.edit {c : Reading} {a a' : Account} {e : Edit} (h : a.WellFormed)
    (he : a.edit c e = .ok a') : a'.WellFormed := by
  obtain ⟨hfits, rfl⟩ := edit_eq_ok_iff.1 he
  obtain ⟨hkeys, hmints⟩ := h
  cases e with
  | issue key expiresAt unit permissions label =>
      obtain ⟨-, hlabel, hsize, hnone⟩ := hfits
      exact ⟨hkeys.append hsize hnone hlabel, hmints⟩
  | revise key expiresAt? permissions? => exact ⟨hkeys.modify (fun _ h => h) fun _ h => h, hmints⟩
  | revoke key => exact ⟨hkeys.modify (fun _ h => h) fun _ h => h, hmints⟩
  | revokeAll => exact ⟨hkeys.revokeAll, hmints⟩
  | prune => exact ⟨hkeys.retain _, hmints⟩
  | setMints mints => exact ⟨hkeys, Allowlist.wellFormed_eraseDups hfits⟩

end Keyring
