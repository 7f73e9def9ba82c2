import Keyring.Proofs.Account.Documents
import Keyring.Proofs.Assignment
import Mathlib.Data.List.Induction

/-!
# Accounts that can be built

Who holds an account can do more with its parts than an engine does: a key takes any label once
it has been made, a registry any capacity, and an account any registry. `Built` says of each
part what its constructors and its assignments can make of it. No more is left of the limits
than that no identity is in a registry twice, that a registry is within its own capacity, and
that mints are within theirs.

So there are accounts that are not read back from their documents. `ofJson_toJson_eq_ok_iff` says
which accounts are, and as what: a label that is empty is read as one of zero bytes, and any other
label of a wrong width, or a key too many, makes the document unreadable.
-/

namespace Keyring

open Outcome

/-! ## What can be built -/

namespace SessionKey

inductive Built : SessionKey → Prop
  | make {identity : String} {createdAt expiresAt : Int} {unit : ExpiryUnit}
      {permissions : Permissions} {label : Bytes} {k : SessionKey}
      (h : SessionKey.make identity createdAt expiresAt unit permissions label = .ok k) : Built k
  | assign {k k' : SessionKey} {v : Assignment} (hk : Built k) (h : k.assign v = .ok k') : Built k'

/-- There is no key that cannot be built: its label and its state are assigned to one that is made
without them. -/
theorem built (k : SessionKey) : k.Built := by
  obtain ⟨identity, createdAt, expiresAt, unit, permissions, label, state⟩ := k
  have hmake : SessionKey.make identity createdAt expiresAt unit permissions Label.blank =
      .ok ⟨identity, createdAt, expiresAt, unit, permissions, Label.blank, .active⟩ :=
    Account.make_eq_ok_iff.2 ⟨by decide, rfl⟩
  have hlabel : Built ⟨identity, createdAt, expiresAt, unit, permissions, label, .active⟩ :=
    (Built.make hmake).assign (v := .label label) rfl
  exact hlabel.assign (v := .state state) rfl

end SessionKey

namespace Registry

variable {r : Registry}

/-- A registry that has been made with some capacity, filled and thinned out, with its
keys changed. -/
inductive Built : Registry → Prop
  | empty (capacity : Int) : Built (.empty capacity)
  | add {r r' : Registry} {k : SessionKey} (hr : Built r) (hk : k.Built) (h : r.add k = .ok r') :
      Built r'
  | retain {r : Registry} (hr : Built r) (p : SessionKey → Bool) : Built (r.retain p).2
  | assign {r : Registry} {key : String} {k k' : SessionKey} {v : SessionKey.Assignment}
      (hr : Built r) (hk : r.get key = .ok k) (h : k.assign v = .ok k') :
      Built (r.modify key fun _ => k')

/-- What is left of the limits of a registry, whatever has been done to it. -/
structure Bounded (r : Registry) : Prop where
  nodup : (r.keys.map SessionKey.identity).Nodup
  size : r.keys = [] ∨ (r.size : Int) ≤ r.capacity

theorem Built.bounded (h : r.Built) : r.Bounded := by
  induction h with
  | empty capacity => exact ⟨List.nodup_nil, .inl rfl⟩
  | @add r r' k hr hk h ih =>
      obtain ⟨hsize, hnone, rfl⟩ := add_eq_ok_iff.1 h
      rw [size] at hsize
      refine ⟨?_, .inr ?_⟩
      · rw [List.map_append, List.nodup_append]
        refine ⟨ih.nodup, List.pairwise_singleton _ _, ?_⟩
        rintro x hx y hy rfl
        rw [List.map_singleton, List.mem_singleton] at hy
        exact find?_eq_none_iff.1 hnone (hy ▸ hx)
      · rw [size, List.length_append, List.length_singleton]
        change ((r.keys.length + 1 : Nat) : Int) ≤ r.capacity
        omega
  | @retain r hr p ih =>
      refine ⟨ih.nodup.sublist (List.filter_sublist.map _), ?_⟩
      have hless : (r.keys.filter p).length ≤ r.keys.length := List.length_filter_le p r.keys
      rcases ih.size with hnil | hsize
      · left
        rw [Registry.retain, hnil]
        rfl
      · right
        rw [size] at hsize
        rw [Registry.retain, size]
        exact Int.le_trans (Int.ofNat_le.2 hless) hsize
  | @assign r key k k' v hr hk h ih =>
      have hid : k'.identity = key :=
        (congrArg Prod.fst (SessionKey.fixed_of_assign h)).trans
          (identity_of_find? (get_eq_ok_iff.1 hk))
      have hmap := map_identity_modifyKey (f := fun _ => k') (fun _ _ => hid) r.keys
      have hlength := congrArg List.length hmap
      rw [List.length_map, List.length_map] at hlength
      refine ⟨?_, ?_⟩
      · rw [modify, hmap]
        exact ih.nodup
      · rcases ih.size with hnil | hsize
        · left
          rw [modify, hnil]
          rfl
        · right
          rw [size, modify, hlength]
          exact hsize

theorem Bounded.built (h : r.Bounded) : r.Built := by
  obtain ⟨capacity, keys⟩ := r
  induction keys using List.reverseRecOn with
  | nil => exact .empty capacity
  | append_singleton ks k ih =>
      obtain ⟨hnd, hsize⟩ := h
      rw [List.map_append, List.nodup_append] at hnd
      have hfull : ((ks ++ [k]).length : Int) ≤ capacity :=
        hsize.resolve_left (List.append_ne_nil_of_right_ne_nil ks (List.cons_ne_nil k []))
      rw [List.length_append, List.length_singleton] at hfull
      have hsmaller : (ks.length : Int) < capacity := by omega
      have hnew : k.identity ∉ ks.map SessionKey.identity := fun hmem =>
        hnd.2.2 _ hmem k.identity (by simp) rfl
      have hks : Built ⟨capacity, ks⟩ := ih ⟨hnd.1, .inr (Int.le_of_lt hsmaller)⟩
      exact hks.add k.built (add_of_fits hsmaller hnew)

end Registry

def Allowlist.Built (a : Allowlist) : Prop := ∃ mints, ofList mints = .ok a

theorem Allowlist.Built.wellFormed {a : Allowlist} (h : a.Built) : a.WellFormed := by
  obtain ⟨mints, hmints⟩ := h
  exact wellFormed_of_ofList hmints

theorem Allowlist.WellFormed.built {a : Allowlist} (h : a.WellFormed) : a.Built :=
  ⟨a.mints, ofList_mints h⟩

namespace Account

def Assignment.Built : Assignment → Prop
  | .keys v => v.Built
  | .mints v => v.Built
  | _ => True

inductive Built : Account → Prop
  | opened {authority program : String} {a : Account} (h : opened authority program = .ok a) :
      Built a
  | read {j : Json} {a : Account} (h : ofJson j = .ok a) : Built a
  | make (authority address : String) (bump : Int) {keys : Registry} {mints : Allowlist}
      (hkeys : keys.Built) (hmints : mints.Built) : Built ⟨authority, address, bump, keys, mints⟩
  | assign {a a' : Account} {v : Assignment} (ha : Built a) (hv : v.Built)
      (h : a.assign v = .ok a') : Built a'

variable {a b : Account}

theorem Built.parts (h : a.Built) : a.keys.Bounded ∧ a.mints.WellFormed := by
  induction h with
  | @opened authority program a h =>
      rw [Account.opened] at h
      split at h
      next => cases h
      next =>
        obtain rfl := Except.ok.inj h
        exact ⟨(Registry.Built.empty _).bounded, Nat.zero_le _, List.nodup_nil⟩
  | read h =>
      obtain ⟨hkeys, hmints⟩ := wellFormed_of_ofJson h
      exact ⟨⟨hkeys.nodup, .inr (hkeys.capacity ▸ Int.ofNat_le.2 hkeys.size)⟩, hmints⟩
  | make authority address bump hkeys hmints => exact ⟨hkeys.bounded, hmints.wellFormed⟩
  | @assign a a' v ha hv h ih =>
      cases v with
      | authority v => cases h
      | address v => cases h
      | bump v => cases h
      | keys v =>
          obtain rfl := Except.ok.inj h
          exact ⟨hv.bounded, ih.2⟩
      | mints v =>
          obtain rfl := Except.ok.inj h
          exact ⟨ih.1, hv.wellFormed⟩
      | other name =>
          obtain rfl := Except.ok.inj h
          exact ih

/-- No more is asked of an account than that its parts have been built. -/
theorem built_iff : a.Built ↔ a.keys.Bounded ∧ a.mints.WellFormed :=
  ⟨Built.parts, fun h => .make a.authority a.address a.bump h.1.built h.2.built⟩

end Account

/-! ## What is read back -/

namespace SessionKey

variable {k k' : SessionKey}

/-- Whether a reader takes the label of a key, or takes it for none. -/
def Legible (k : SessionKey) : Prop := k.label = [] ∨ k.label.length = Label.size

def reread (k : SessionKey) : SessionKey :=
  if k.label = [] then { k with label := Label.blank } else k

theorem identity_reread (k : SessionKey) : k.reread.identity = k.identity := by
  rw [reread]
  split <;> rfl

theorem ofFields_toFields_eq_ok_iff : ofFields k.toFields = .ok k' ↔ k.Legible ∧ k' = k.reread := by
  rw [ofFields_toFields_eq, Legible, reread]
  by_cases hnil : k.label = []
  · simp [hnil, eq_comm]
  · by_cases hsize : k.label.length = Label.size
    · simp [hnil, hsize, eq_comm]
    · simp [hnil, hsize]

/-- A document shows the label of its key. -/
theorem label_of_toJson_eq (h : k.toJson = k'.toJson) : k.label = k'.label := by
  simp only [toJson, toFields, Json.obj.injEq, List.cons.injEq, Prod.mk.injEq, Json.str.injEq] at h
  obtain ⟨-, -, -, -, -, -, ⟨-, hhex⟩, -⟩ := h
  have hbytes := congrArg Text.Hex.decode hhex
  rw [Text.Hex.decode_encode, Text.Hex.decode_encode] at hbytes
  exact Except.ok.inj hbytes

theorem toJson_reread_iff : k.reread.toJson = k.toJson ↔ k.label ≠ [] := by
  rw [reread]
  constructor
  · intro h hnil
    rw [if_pos hnil] at h
    have hblank : Label.blank = k.label := label_of_toJson_eq h
    rw [hnil] at hblank
    cases hblank
  · intro hne
    rw [if_neg hne]

end SessionKey

namespace Registry

variable {r r' : Registry} {ks : List SessionKey}

/-- Of keys that are told apart by their identities, just those are added from their documents for
which there is room, and that have a label that can be read. -/
theorem addDocuments_toJson_iff (hsize : (r.size : Int) ≤ r.capacity)
    (hnd : ((r.keys ++ ks).map SessionKey.identity).Nodup) :
    r.addDocuments (ks.map SessionKey.toJson) = .ok r' ↔
      ((r.size + ks.length : Nat) : Int) ≤ r.capacity ∧ (∀ k ∈ ks, k.Legible) ∧
        r' = { r with keys := r.keys ++ ks.map SessionKey.reread } := by
  induction ks generalizing r with
  | nil => simp [addDocuments, hsize, eq_comm]
  | cons k ks ih =>
      have hfirst : r.addDocuments ((k :: ks).map SessionKey.toJson) =
          SessionKey.ofFields k.toFields >>= fun l => r.add l >>= fun r₁ =>
            r₁.addDocuments (ks.map SessionKey.toJson) := rfl
      have hnew : k.reread.identity ∉ r.keys.map SessionKey.identity := by
        rw [k.identity_reread]
        intro hmem
        rw [List.map_append, List.nodup_append] at hnd
        exact hnd.2.2 _ hmem k.identity (by simp) rfl
      have hnd₁ : ((r.keys ++ [k.reread] ++ ks).map SessionKey.identity).Nodup := by
        simpa [k.identity_reread] using hnd
      -- What is left to be added comes after the first key, read back.
      have hrest (hroom : (r.size : Int) < r.capacity) :=
        ih (r := { r with keys := r.keys ++ [k.reread] })
          (by rw [size, List.length_append, List.length_singleton]; exact hroom) hnd₁
      have hcount : (r.size + (k :: ks).length : Nat) =
          (r.keys ++ [k.reread]).length + ks.length := by
        rw [size, List.length_append, List.length_cons, List.length_singleton]
        omega
      rw [hfirst, bind_eq_ok, hcount]
      constructor
      · rintro ⟨l, hl, h⟩
        obtain ⟨hlegible, rfl⟩ := SessionKey.ofFields_toFields_eq_ok_iff.1 hl
        obtain ⟨r₁, hadd, h⟩ := bind_eq_ok.1 h
        obtain ⟨hroom, -, rfl⟩ := add_eq_ok_iff.1 hadd
        obtain ⟨hfits, hall, rfl⟩ := (hrest hroom).1 h
        refine ⟨hfits, List.forall_mem_cons.2 ⟨hlegible, hall⟩, ?_⟩
        simp
      · rintro ⟨hfits, hall, rfl⟩
        obtain ⟨hlegible, hall⟩ := List.forall_mem_cons.1 hall
        have hroom : (r.size : Int) < r.capacity := by
          rw [List.length_append, List.length_singleton] at hfits
          rw [size]
          omega
        refine ⟨k.reread, SessionKey.ofFields_toFields_eq_ok_iff.2 ⟨hlegible, rfl⟩, ?_⟩
        rw [add_of_fits hroom hnew, ok_bind]
        refine (hrest hroom).2 ⟨hfits, hall, ?_⟩
        simp

end Registry

namespace Account

variable {a b : Account}

/-- Whether the document of an account can be read: there are no more keys than an owner may have,
and every label is one that a reader takes. -/
structure Readable (a : Account) : Prop where
  size : a.keys.size ≤ Registry.maxKeys
  legible : ∀ k ∈ a.keys.keys, k.Legible

def reread (a : Account) : Account :=
  { a with keys := ⟨Registry.maxKeys, a.keys.keys.map SessionKey.reread⟩ }

theorem Built.ofJson_toJson_eq_ok_iff (ha : a.Built) :
    ofJson a.toJson = .ok b ↔ a.Readable ∧ b = a.reread := by
  obtain ⟨hkeys, hmints⟩ := ha.parts
  have hroom : ((Registry.empty Registry.maxKeys).size : Int) ≤ Registry.maxKeys := by decide
  have hadded {r : Registry} :
      (Registry.empty Registry.maxKeys).addDocuments (a.keys.keys.map SessionKey.toJson) = .ok r ↔
          _ :=
    Registry.addDocuments_toJson_iff hroom hkeys.nodup
  rw [ofJson_toJson_eq hmints, map_eq_ok]
  constructor
  · rintro ⟨r, hr, rfl⟩
    obtain ⟨hsize, hlegible, rfl⟩ := hadded.1 hr
    refine ⟨⟨?_, hlegible⟩, rfl⟩
    have hsize : (0 + a.keys.keys.length : Nat) ≤ (Registry.maxKeys : Int) := hsize
    rw [Registry.size]
    omega
  · rintro ⟨⟨hsize, hlegible⟩, rfl⟩
    refine ⟨_, hadded.2 ⟨?_, hlegible, rfl⟩, rfl⟩
    change ((0 + a.keys.keys.length : Nat) : Int) ≤ (Registry.maxKeys : Int)
    rw [Registry.size] at hsize
    omega

/-- What is read back has the same document just when no label was empty. -/
theorem toJson_reread_iff : a.reread.toJson = a.toJson ↔ ∀ k ∈ a.keys.keys, k.label ≠ [] := by
  have hkeys : a.reread.toJson = a.toJson ↔
      (a.keys.keys.map SessionKey.reread).map SessionKey.toJson =
        a.keys.keys.map SessionKey.toJson := by
    simp [reread, toJson]
  rw [hkeys, List.map_map, List.map_inj_left]
  exact forall₂_congr fun k _ => SessionKey.toJson_reread_iff

/-- An account that can be built is read back with the same document just when it has no more keys
than an owner may have, each with a label of the right width. -/
theorem Built.same_document_iff (ha : a.Built) :
    (∃ b, ofJson a.toJson = .ok b ∧ b.toJson = a.toJson) ↔
      a.keys.size ≤ Registry.maxKeys ∧ ∀ k ∈ a.keys.keys, k.label.length = Label.size := by
  have hpositive : 0 < Label.size := by decide
  constructor
  · rintro ⟨b, hb, hsame⟩
    obtain ⟨hreadable, rfl⟩ := ha.ofJson_toJson_eq_ok_iff.1 hb
    refine ⟨hreadable.size, fun k hk => ?_⟩
    exact (hreadable.legible k hk).resolve_left (toJson_reread_iff.1 hsame k hk)
  · rintro ⟨hsize, hlabels⟩
    refine ⟨a.reread, ha.ofJson_toJson_eq_ok_iff.2 ⟨⟨hsize, ?_⟩, rfl⟩, toJson_reread_iff.2 ?_⟩
    · exact fun k hk => .inr (hlabels k hk)
    · intro k hk hnil
      have hwidth := hlabels k hk
      rw [hnil, List.length_nil] at hwidth
      omega

end Account

end Keyring
