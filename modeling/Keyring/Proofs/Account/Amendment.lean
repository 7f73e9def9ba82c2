import Keyring.Proofs.Account.Edit

/-!
# Amending one key

To revoke a key and to revise it are the same change under two rules: the key of an identity is
looked up, a rule makes another key of it or refuses, and that key takes its place. A rule looks at
nothing but the key, and keeps its identity and its label. So keys of two identities can be amended
in either order.
-/

namespace Keyring

abbrev Rule := SessionKey → Outcome SessionKey

namespace Rule

def Keeps (rule : Rule) : Prop :=
  ∀ k l, rule k = .ok l → l.identity = k.identity ∧ l.label = k.label

def revocation (key : String) : Rule := fun k =>
  if k.isRevoked then .error (.refusal (.keyAlreadyRevoked key)) else .ok k.revoke

def revision (c : Reading) (key : String) (expiresAt? : Option Int)
    (permissions? : Option Permissions) : Rule := fun k =>
  if k.isRevoked then .error (.refusal (.keyRevoked key))
  else (Account.newExpiry c k expiresAt?).map fun k =>
    { k with permissions := permissions?.getD k.permissions }

variable {c : Reading} {key : String} {expiresAt? : Option Int} {permissions? : Option Permissions}
  {k l : SessionKey}

theorem revocation_eq_ok_iff :
    revocation key k = .ok l ↔ k.isRevoked = false ∧ l = k.revoke := by
  cases hk : k.isRevoked <;> simp [revocation, hk, eq_comm]

theorem revision_eq_ok_iff : revision c key expiresAt? permissions? k = .ok l ↔
    k.isRevoked = false ∧ (∀ e ∈ expiresAt?, c.current k.unit < e) ∧
      l = k.revised expiresAt? permissions? := by
  rw [revision]
  cases hk : k.isRevoked with
  | true => simp
  | false =>
      rw [if_neg Bool.false_ne_true, Outcome.map_eq_ok]
      simp only [Account.newExpiry_eq_ok_iff, true_and]
      constructor
      · rintro ⟨_, ⟨hahead, rfl⟩, rfl⟩
        exact ⟨hahead, rfl⟩
      · rintro ⟨hahead, rfl⟩
        exact ⟨_, ⟨hahead, rfl⟩, rfl⟩

theorem revision_of_isRevoked (hk : k.isRevoked = true) :
    revision c key expiresAt? permissions? k = .error (.refusal (.keyRevoked key)) :=
  if_pos hk

theorem revision_of_past {e : Int} (hk : k.isRevoked = false) (he : e ≤ c.current k.unit) :
    revision c key (some e) permissions? k =
      .error (.refusal (.invalidExpiry k.unit e (c.current k.unit))) := by
  rw [revision, if_neg (by simp [hk]), Account.newExpiry, Reading.requireFuture, if_pos he]
  rfl

theorem keeps_revocation (key : String) : (revocation key).Keeps := by
  intro k l h
  obtain ⟨-, rfl⟩ := revocation_eq_ok_iff.1 h
  exact ⟨rfl, rfl⟩

theorem keeps_revision (c : Reading) (key : String) (expiresAt? : Option Int)
    (permissions? : Option Permissions) : (revision c key expiresAt? permissions?).Keeps := by
  intro k l h
  obtain ⟨-, -, rfl⟩ := revision_eq_ok_iff.1 h
  exact ⟨rfl, rfl⟩

end Rule

/-! ## Another key in the place of one -/

namespace Registry

variable {key j : String} {f g : SessionKey → SessionKey}

/-- Where identities are distinct, the first key of an identity is the only one. -/
theorem modifyKey_eq_map {ks : List SessionKey} (hnd : (ks.map SessionKey.identity).Nodup) :
    modifyKey key f ks = ks.map fun k => if k.identity = key then f k else k := by
  induction ks with
  | nil => rfl
  | cons k ks ih =>
      rw [List.map_cons, List.nodup_cons] at hnd
      rw [modifyKey, List.map_cons]
      split
      next hk =>
        have hrest : ks.map (fun l => if l.identity = key then f l else l) = ks.map id := by
          refine List.map_congr_left fun l hl => if_neg ?_
          rintro rfl
          exact hnd.1 (hk ▸ List.mem_map_of_mem (f := SessionKey.identity) hl)
        rw [hrest, List.map_id]
      next => rw [ih hnd.2]

theorem modify_comm (hkj : key ≠ j) (hf : ∀ k, k.identity = key → (f k).identity = key)
    (hg : ∀ k, k.identity = j → (g k).identity = j) (r : Registry) :
    (r.modify key f).modify j g = (r.modify j g).modify key f := by
  obtain ⟨capacity, ks⟩ := r
  simp only [modify, mk.injEq, true_and]
  induction ks with
  | nil => rfl
  | cons k ks ih =>
      by_cases hk : k.identity = key
      · have hne : ¬ (f k).identity = j := by rw [hf k hk]; exact hkj
        have hne' : ¬ k.identity = j := by rw [hk]; exact hkj
        simp only [modifyKey, if_pos hk, if_neg hne, if_neg hne']
      · by_cases hj : k.identity = j
        · have hne : ¬ (g k).identity = key := by rw [hg k hj]; exact hkj.symm
          simp only [modifyKey, if_neg hk, if_pos hj, if_neg hne]
        · simp only [modifyKey, if_neg hk, if_neg hj, ih]

end Registry

namespace Account

open Outcome

variable {a : Account} {key j : String} {k l m : SessionKey} {rule : Rule}

def replaced (a : Account) (key : String) (l : SessionKey) : Account :=
  { a with keys := a.keys.modify key fun _ => l }

/-- The key of an identity as a rule has it, in its place. -/
def amend (key : String) (rule : Rule) (a : Account) : Outcome (SessionKey × Account) := do
  let k ← a.keys.get key
  let l ← rule k
  .ok (l, a.replaced key l)

theorem find?_replaced (hl : l.identity = key) (a : Account) (j : String) :
    (a.replaced key l).keys.find? j =
      if j = key then (a.keys.find? j).map fun _ => l else a.keys.find? j :=
  Registry.find?_modify (f := fun _ => l) (fun _ _ => hl) a.keys j

theorem WellFormed.replaced (ha : a.WellFormed) (hl : l.identity = key)
    (hlabel : l.label.length = Label.size) : (a.replaced key l).WellFormed :=
  ⟨ha.keys.modify (fun _ _ => hl) fun _ _ => hlabel, ha.mints⟩

theorem replaced_comm (hkj : key ≠ j) (hl : l.identity = key) (hm : m.identity = j) (a : Account) :
    (a.replaced key l).replaced j m = (a.replaced j m).replaced key l := by
  rw [replaced, replaced, replaced, replaced]
  simp only [Registry.modify_comm (f := fun _ => l) (g := fun _ => m) hkj (fun _ _ => hl)
    (fun _ _ => hm) a.keys]

theorem mem_replaced_self (hk : a.keys.find? key = some k) (hl : l.identity = key) :
    l ∈ (a.replaced key l).keys.keys := by
  have hfind : (a.replaced key l).keys.find? key = some l := by
    rw [find?_replaced hl, if_pos rfl, hk, Option.map_some]
  exact Registry.mem_of_find? hfind

theorem mem_replaced (hk : k ∈ (a.replaced key l).keys.keys) : k ∈ a.keys.keys ∨ k = l := by
  obtain ⟨k', hk', rfl | rfl⟩ := Registry.mem_modifyKey hk
  · exact .inl hk'
  · exact .inr rfl

theorem revoke_eq_amend (key : String) (a : Account) :
    a.revoke key = a.amend key (Rule.revocation key) := by
  rw [revoke, amend]
  cases hk : a.keys.find? key with
  | none => simp [Registry.get, hk]
  | some k =>
      rw [Registry.get_eq_ok_iff.2 hk, ok_bind, ok_bind, Rule.revocation]
      split
      next => rfl
      next => rw [ok_bind, replaced, ← Registry.modify_const hk]

theorem revise_eq_amend (c : Reading) (key : String) (expiresAt? : Option Int)
    (permissions? : Option Permissions) (a : Account) :
    a.revise c key expiresAt? permissions? =
      a.amend key (Rule.revision c key expiresAt? permissions?) := by
  rw [revise, amend]
  congr 1
  funext k
  rw [Rule.revision]
  split
  next => rfl
  next => cases newExpiry c k expiresAt? <;> rfl

theorem amend_of_none (hk : a.keys.find? key = none) :
    a.amend key rule = .error (.refusal (.keyNotFound key)) := by
  rw [amend, Registry.get, hk]
  rfl

theorem amend_of_some (hk : a.keys.find? key = some k) :
    a.amend key rule = (rule k).map fun l => (l, a.replaced key l) := by
  rw [amend, Registry.get_eq_ok_iff.2 hk, ok_bind]
  cases rule k <;> rfl

end Account

end Keyring
