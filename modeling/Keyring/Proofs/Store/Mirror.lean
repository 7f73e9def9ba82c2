import Keyring.Proofs.Derivation
import Keyring.Proofs.Store.Contents

/-!
# A folder in the place of memory

A folder that holds the accounts of a store in memory shows what that store shows: the same lookups,
for every authority that is short enough for the name of a file, and the same authorities. Saving in
the one and in the other keeps this so, as long as the document of the account can be written. The
authority of a sound account is always short enough, since its identity has at most 32 bytes.
-/

namespace Keyring

/-- Whether the document of an authority has a name that is short enough. -/
def Folder.Nameable (x : String) : Prop := size (fileName x) ≤ maxName

instance (x : String) : Decidable (Folder.Nameable x) :=
  inferInstanceAs (Decidable (Folder.size (Folder.fileName x) ≤ Folder.maxName))

namespace Store

def Documented (s : Store) : Prop := ∀ x a, s.load x = .ok a → a.toJson.isWritable = true

/-- A folder with all the room for names, and the accounts that it holds. -/
structure Mirrors (program : String) (l : List (String × Account)) (f : Folder) : Prop where
  holds : (Store.folder f).Holds program l
  room : f.room = Folder.maxName

end Store

variable {program x : String} {a : Account} {l : List (String × Account)} {f : Folder}

/-! ## Sound authorities -/

namespace Account.Sound

/-- The authority of a sound account is not empty, and has at most two letters for each byte. -/
theorem length_authority (ha : a.Sound program x) :
    x ≠ "" ∧ x.toList.length ≤ 2 * Derivation.maxSeedLength := by
  obtain ⟨d, hd, -⟩ := ha.derived
  obtain ⟨bs, hdecode, hshort⟩ := Derivation.ownerAddress_eq_ok hd
  constructor
  · rintro rfl
    cases hdecode
  · obtain ⟨-, rfl⟩ := Base58.encode_of_decode hdecode
    exact Nat.le_trans (Base58.length_encode_le bs) (Nat.mul_le_mul_left 2 hshort)

theorem size_draftName (ha : a.Sound program x) :
    Folder.size (Folder.draftName x) ≤ Folder.maxName := by
  have hsize := Folder.size_draftName_le ha.isPlain
  have hlength := ha.length_authority.2
  rw [Derivation.maxSeedLength] at hlength
  rw [Folder.maxName]
  omega

theorem nameable (ha : a.Sound program x) : Folder.Nameable x :=
  Nat.le_trans (Folder.size_fileName_le x) ha.size_draftName

/-- A sound account can be written if the times of its keys are short enough. -/
theorem isWritable_iff (ha : a.Sound program x) : a.toJson.isWritable = true ↔
    ∀ k ∈ a.keys.keys, k.toJson.isWritable = true := by
  obtain ⟨d, hd, -, hbump⟩ := ha.derived
  have hlt := Derivation.bump_lt_of_ownerAddress hd
  have hshort : Text.Integer.isTooLong a.bump = false := by
    rw [hbump]
    exact Text.Integer.isTooLong_of_lt (Nat.lt_trans hlt (by decide))
  rw [Account.isWritable_iff, hshort]
  simp only [true_and]

end Account.Sound

theorem Store.Holds.documented_iff {s : Store} (h : s.Holds program l) :
    s.Documented ↔ ∀ e ∈ l, e.2.toJson.isWritable = true := by
  constructor
  · intro hd e he
    exact hd e.1 e.2 (h.load_of_some (field?_of_mem h.nodup he))
  · intro hl y b hb
    exact hl (y, b) (mem_of_field? (h.load_eq_ok_iff.1 hb))

/-- A store in memory may hold just one account. -/
theorem Account.Sound.holds_singleton (ha : a.Sound program x) :
    (Store.memory [(x, a)]).Holds program [(x, a)] := by
  refine ⟨rfl, List.nodup_singleton _, ?_⟩
  intro e he
  rw [List.mem_singleton.1 he]
  exact ha

theorem Account.Sound.documented_singleton (ha : a.Sound program x)
    (hk : ∀ k ∈ a.keys.keys, k.toJson.isWritable = true) : (Store.memory [(x, a)]).Documented := by
  apply ha.holds_singleton.documented_iff.2
  intro e he
  rw [List.mem_singleton.1 he]
  exact ha.isWritable_iff.2 hk

/-! ## Lookups -/

namespace Folder

theorem has_of_none (h : Store.Holds program (.folder f) l) (hx : field? x l = none)
    (hlong : f.isTooLong (fileName x) = false) : f.has (fileName x) = .ok false := by
  obtain ⟨⟨hfolders, htexts, -⟩, -, hsound⟩ := h
  rw [has, hlong, hasFolder_eq_false hfolders, htexts, field?_written hsound, hx]
  split <;> rfl

theorem load_of_has_eq_false (h : f.has (fileName x) = .ok false) :
    f.load x = .error (.refusal (.accountNotFound x)) := by
  rw [load, read?, h]

theorem stems_written (hl : ∀ e ∈ l, e.2.Sound program e.1) :
    ((l.map written).map Prod.fst).filterMap stem? = l.map Prod.fst := by
  induction l with
  | nil => rfl
  | cons e l ih =>
      have he := hl e List.mem_cons_self
      have hstem : stem? (written e).1 = some e.1 := stem?_fileName he.isPlain he.length_authority.1
      rw [List.map_cons, List.map_cons, List.map_cons, List.filterMap_cons_some hstem,
        ih fun e he => hl e (List.mem_cons_of_mem _ he)]

end Folder

namespace Store.Mirrors

/-- In memory, the same accounts are held. -/
theorem memory (h : Mirrors program l f) : (Store.memory l).Holds program l :=
  ⟨rfl, h.holds.nodup, h.holds.sound⟩

theorem isTooLong_fileName (h : Mirrors program l f) (hx : Folder.Nameable x) :
    f.isTooLong (Folder.fileName x) = false := by
  rw [Folder.isTooLong, h.room, decide_eq_false_iff_not]
  exact Nat.not_lt.2 hx

theorem load_eq (h : Mirrors program l f) (hx : Folder.Nameable x) :
    (Store.folder f).load x = (Store.memory l).load x := by
  cases hfind : field? x l with
  | some a => rw [h.holds.load_of_some hfind, h.memory.load_of_some hfind]
  | none =>
      have hhas := Folder.has_of_none h.holds hfind (h.isTooLong_fileName hx)
      rw [load, load, hfind]
      exact Folder.load_of_has_eq_false hhas

theorem contains_eq (h : Mirrors program l f) (hx : Folder.Nameable x) :
    (Store.folder f).contains x = (Store.memory l).contains x := by
  cases hfind : field? x l with
  | some a => rw [h.holds.contains_of_some hfind, h.memory.contains_of_some hfind]
  | none =>
      rw [contains, contains, hfind]
      exact Folder.has_of_none h.holds hfind (h.isTooLong_fileName hx)

theorem authorities_eq (h : Mirrors program l f) :
    (Store.folder f).authorities = (Store.memory l).authorities := by
  obtain ⟨hfolders, htexts, -⟩ := h.holds.contents
  rw [authorities, authorities, hfolders, List.append_nil, htexts,
    Folder.stems_written h.holds.sound]

/-! ## Saving -/

theorem save_memory (ha : a.Sound program x) :
    (Store.memory l).save a = .ok (.memory (putField x a l)) := by
  rw [save_memory_eq, Account.ofJson_toJson ha.wellFormed, ha.authority]
  rfl

/-- What is saved in memory can be saved in the folder. -/
theorem save_folder (h : Mirrors program l f) (ha : a.Sound program x)
    (hwritable : a.toJson.isWritable = true) :
    ∃ f', (Store.folder f).save a = .ok (.folder f') ∧ Mirrors program (putField x a l) f' := by
  have hlong : f.isTooLong (Folder.draftName x) = false := by
    rw [Folder.isTooLong, h.room, decide_eq_false_iff_not]
    exact Nat.not_lt.2 ha.size_draftName
  have hplace := Folder.hasPlace h.holds.contents.1 ha.isPlain hlong
  have hsave : ∃ f', f.save a = .ok f' ∧ f'.room = f.room :=
    ⟨_, Folder.save_eq_ok_iff.2 ⟨hwritable, ha.authority ▸ hplace, rfl⟩, rfl⟩
  obtain ⟨f', hf', hroom⟩ := hsave
  have hstore : (Store.folder f).save a = .ok (.folder f') := by
    rw [save_folder_eq, hf']
    rfl
  exact ⟨f', hstore, h.holds.save ha hstore, hroom.trans h.room⟩

/-! ## Creating and changing -/

/-- What is in memory once an account is saved can be loaded, and its document be written. -/
theorem isWritable_of_documented (ha : a.Sound program x)
    (hd : (Store.memory (putField x a l)).Documented) : a.toJson.isWritable = true := by
  apply hd x a
  rw [load, field?_putField, if_pos rfl]
  exact Account.ofJson_toJson ha.wellFormed

/-- An account is refused for the same reason in both places, or created in both. -/
theorem create_eq (h : Mirrors program l f) (ha : a.Sound program x)
    (hd : ∀ s, (Store.memory l).create a = .ok s → s.Documented) :
    (∃ e, (Store.memory l).create a = .error e ∧ (Store.folder f).create a = .error e) ∨
      ∃ l' f', (Store.memory l).create a = .ok (.memory l') ∧
        (Store.folder f).create a = .ok (.folder f') ∧ Mirrors program l' f' := by
  have hsave : (Store.memory l).save a = .ok (.memory (putField x a l)) := save_memory ha
  have hcontains := h.contains_eq ha.nameable
  simp only [Store.create_eq, ha.authority, hcontains, hsave] at hd ⊢
  cases hc : (Store.memory l).contains x with
  | error e => exact .inl ⟨e, rfl, rfl⟩
  | ok b =>
      cases b with
      | true => exact .inl ⟨_, rfl, rfl⟩
      | false =>
          rw [hc] at hd
          obtain ⟨f', hsave', h'⟩ := h.save_folder ha (isWritable_of_documented ha (hd _ rfl))
          exact .inr ⟨_, f', rfl, hsave', h'⟩

end Store.Mirrors

end Keyring
