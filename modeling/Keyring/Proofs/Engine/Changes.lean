import Keyring.Proofs.Engine.Isolation
import Keyring.Proofs.Store.Mirror

/-!
# Changes of an account that is there

A change of an account in a reachable store is refused by its body, or leaves an account that cannot
be written down, or puts what it leaves in the place of the account. Only in a folder is anything
written down, and there only the times of a key can be too long for it: the account has been written
before, so that its names are short enough, and so are the times of the keys that it has.
-/

namespace Keyring

namespace Store

def canWrite : Store → Account → Bool
  | .memory _, _ => true
  | .folder _, a => a.toJson.isWritable

def canWriteKey : Store → SessionKey → Bool
  | .memory _, _ => true
  | .folder _, k => k.toJson.isWritable

structure Puts (s : Store) (x : String) (a : Account) (s' : Store) : Prop where
  here : s'.load x = .ok a
  elsewhere : ∀ y, y ≠ x → s'.load y = s.load y

/-! ## What can be written once can be written again -/

/-- Whether there is room for the draft of every account that can be loaded. -/
def Draftable (s : Store) : Prop :=
  ∀ f x a, s = .folder f → f.load x = .ok a → f.isTooLong (Folder.draftName x) = false

variable {program x : String} {s s' : Store} {a b : Account} {k : SessionKey}

theorem Writes.draftable {a? : Option Account} (h : s.Writes x a? s') (hs : s.Draftable) :
    s'.Draftable := by
  cases h with
  | nothing => exact hs
  | @account a s' ha hx hsave =>
      subst ha
      rintro f' y b rfl hb
      cases s with
      | memory l =>
          obtain ⟨kept, -, hf⟩ := save_memory_eq_ok hsave
          cases hf
      | folder f =>
          obtain ⟨g, hf, hg⟩ := save_folder_eq_ok hsave
          cases hg
          obtain ⟨-, hroom⟩ := Folder.folders_save hf
          rw [Folder.isTooLong, hroom]
          by_cases hy : y = a.authority
          · exact hy ▸ (Folder.save_eq_ok_iff.1 hf).2.1.isTooLong_draftName
          · have hload := (sameAt_save_other hx hsave hy).load_eq
            exact hs f y b rfl (hload.symm.trans hb)

/-- An account that can be loaded has been written once, and its draft with it; the room for names
has not changed since. -/
theorem Reachable.draftable (h : s.Reachable program) : s.Draftable := by
  induction h with
  | memory => exact nofun
  | folder room =>
      intro f x a hf ha
      cases hf
      have hempty := IsEmpty.holds (.inr ⟨room, rfl⟩) program
      cases hempty.load_eq_ok_iff.1 ha
  | step op hw hp ih =>
      obtain ⟨l, hl⟩ := hw.holds
      obtain ⟨y, a?, hwrites⟩ := World.writes_step hl.orderly op
      exact hwrites.draftable ih

/-- What an account of a reachable store becomes can be saved if its document can be written. -/
theorem Reachable.exists_save (h : s.Reachable program) (ha : s.load x = .ok a)
    (hb : b.Sound program x) (hw : s.canWrite b = true) : ∃ s', s.save b = .ok s' := by
  cases s with
  | memory l => exact ⟨_, by rw [save_memory_eq, Account.ofJson_toJson hb.wellFormed]; rfl⟩
  | folder f =>
      have hwritable : b.toJson.isWritable = true := hw
      obtain ⟨l, hl⟩ := h.holds
      have hplace := Folder.hasPlace hl.contents.1 hb.isPlain (h.draftable f x a rfl ha)
      exact exists_save_folder hwritable (hb.authority.symm ▸ hplace)

theorem save_of_canWrite_eq_false (hw : s.canWrite b = false) : s.save b = .error .unwritable := by
  cases s with
  | memory l => cases hw
  | folder f =>
      have hwritable : b.toJson.isWritable = false := hw
      rw [save_folder_eq, Folder.save_of_not_isWritable hwritable]
      rfl

theorem Reachable.puts (h : s.Reachable program) (hb : b.Sound program x)
    (hs : s.save b = .ok s') : s.Puts x b s' := by
  obtain ⟨l, hl⟩ := h.holds
  have hload := hl.load_save hb hs
  exact ⟨by rw [hload, if_pos rfl], fun y hy => by rw [hload, if_neg hy]⟩

/-- The document of an account in a reachable folder has been written. -/
theorem Reachable.canWrite (h : s.Reachable program) (ha : s.load x = .ok a) :
    s.canWrite a = true := by
  cases s with
  | memory l => rfl
  | folder f =>
      obtain ⟨l, hl⟩ := h.holds
      exact (hl.contents.2.2 _ (mem_of_field? (hl.load_eq_ok_iff.1 ha))).2

/-- An account that is saved as it is changes nothing. -/
theorem Reachable.save_self (h : s.Reachable program) (ha : s.load x = .ok a) :
    s.save a = .ok s := by
  obtain ⟨l, hl⟩ := h.holds
  have hfind := hl.load_eq_ok_iff.1 ha
  have hsound := hl.sound _ (mem_of_field? hfind)
  cases s with
  | memory accounts =>
      obtain rfl : accounts = l := hl.contents
      rw [Mirrors.save_memory hsound, putField_of_field? hfind]
  | folder f =>
      obtain ⟨hfolders, htexts, -⟩ := hl.contents
      have hplace := Folder.hasPlace hfolders hsound.isPlain (h.draftable f x a rfl ha)
      have htext : field? (Folder.fileName x) f.texts = some (a.toJson.render .sheet) := by
        rw [htexts, Folder.field?_written hl.sound, hfind, Option.map_some]
      have hwritable : a.toJson.isWritable = true := h.canWrite ha
      have hsave : f.save a = .ok f := by
        rw [Folder.save_eq_ok_iff, hsound.authority, Folder.erase_draftName htexts, Folder.put,
          putField_of_field? htext]
        exact ⟨hwritable, hplace, rfl⟩
      rw [save_folder_eq, hsave]
      rfl

/-- A sound account can be written down if each of its keys can be. -/
theorem canWrite_iff (ha : a.Sound program x) :
    s.canWrite a = true ↔ ∀ k ∈ a.keys.keys, s.canWriteKey k = true := by
  cases s with
  | memory l => exact ⟨fun _ _ _ => rfl, fun _ => rfl⟩
  | folder f => exact ha.isWritable_iff

theorem Reachable.canWriteKey (h : s.Reachable program) (ha : s.load x = .ok a)
    (hk : k ∈ a.keys.keys) : s.canWriteKey k = true :=
  (canWrite_iff (h.sound ha)).1 (h.canWrite ha) k hk

/-- The keys that an account has have been written before, so that only a new one matters. -/
theorem Reachable.canWrite_eq (h : s.Reachable program) (ha : s.load x = .ok a)
    (hb : b.Sound program x) (hk : k ∈ b.keys.keys)
    (hold : ∀ l ∈ b.keys.keys, l ∈ a.keys.keys ∨ l = k) : s.canWrite b = s.canWriteKey k := by
  rw [Bool.eq_iff_iff, canWrite_iff hb]
  constructor
  · intro hall
    exact hall k hk
  · intro hwrite l hl
    rcases hold l hl with hl | rfl
    · exact h.canWriteKey ha hl
    · exact hwrite

/-- A change that an account of a reachable store fits can be made if what it leaves can
be written. -/
theorem Reachable.exists_edit {op : Operation} {e : Edit} {c : Reading} (h : s.Reachable program)
    (ha : s.load x = .ok a) (he : op.edit? = some (x, e)) (hedit : a.edit c e = .ok b)
    (hkeys : ∀ k ∈ b.keys.keys, s.canWriteKey k = true) :
    ∃ s', s.save b = .ok s' ∧ s'.Reachable program ∧ s.Puts x b s' := by
  have hsound := (h.sound ha).edit hedit
  obtain ⟨s', hs'⟩ := h.exists_save ha hsound ((canWrite_iff hsound).2 hkeys)
  refine ⟨s', hs', ?_, h.puts hsound hs'⟩
  let w : World := { World.empty program with store := s, clock := c }
  obtain ⟨answer, sink, hstep⟩ := World.step_of_edit (w := w) he ha hedit hs'
  have hnext := Reachable.step (w := w) op h rfl
  rw [hstep] at hnext
  exact hnext

/-! ## Limits -/

theorem canWriteKey_of_isTooLong {f : Folder}
    (h : Text.Integer.isTooLong k.expiresAt = true) : (folder f).canWriteKey k = false := by
  rw [canWriteKey, Bool.eq_false_iff]
  intro hwritable
  rw [(SessionKey.isWritable_iff.1 hwritable).2] at h
  cases h

/-- There are reachable folders with an account in them, just opened. -/
theorem Reachable.opened_in_folder : ∃ (f : Folder) (a : Account), Reachable "1" (.folder f) ∧
    (Store.folder f).load "1" = .ok a ∧ Account.opened "1" "1" = .ok a := by
  obtain ⟨a, ha⟩ := Account.exists_opened
  have hsound := Account.sound_opened ha
  have hkeys := Account.keys_opened ha
  have hwritable : a.toJson.isWritable = true :=
    hsound.isWritable_iff.2 (by rw [hkeys]; exact nofun)
  let w : World := { World.empty "1" with store := .folder {} }
  have hplace : Folder.HasPlace {} a.authority := hsound.authority.symm ▸ ⟨rfl, rfl⟩
  obtain ⟨s, hs⟩ := exists_save_folder hwritable hplace
  obtain ⟨f, -, rfl⟩ := save_folder_eq_ok hs
  have hcreate : w.store.create a = .ok (.folder f) := by
    rw [create_eq, hsound.authority]
    exact hs
  have hstep : (w.step (.openAccount "1")).2.store = .folder f := by
    simp only [World.step, World.openAccount_eq, show w.program = "1" from rfl, ha, hcreate]
    rfl
  refine ⟨f, a, hstep ▸ .step (w := w) (.openAccount "1") (.folder _) rfl, ?_, ha⟩
  have hload := load_save hsound.wellFormed hs
  rwa [hsound.authority] at hload

/-- There are reachable folders with a live key in them. -/
theorem Reachable.issued_in_folder : ∃ (f : Folder) (a : Account), Reachable "1" (.folder f) ∧
    (Store.folder f).load "1" = .ok a ∧
    a.keys.keys = [⟨"2", 0, 1, .time, {}, Label.blank, .active⟩] := by
  obtain ⟨f, a, hreach, hload, ha⟩ := opened_in_folder
  have he : (Operation.issue "1" { key := "2", expiresAt := 1 }).edit? =
      some ("1", .issue "2" 1 .time {} Label.blank) := rfl
  have hfuture : (⟨0, 0⟩ : Reading).current .time < 1 := by decide
  have hlabel : Label.blank.length = Label.size := by decide
  obtain ⟨b, hedit, hkeys⟩ := Account.edit_opened ha "2" hfuture {} hlabel
  have hwrite : ∀ k ∈ b.keys.keys, (Store.folder f).canWriteKey k = true := by
    intro k hk
    rw [hkeys, List.mem_singleton] at hk
    subst hk
    exact SessionKey.isWritable_iff.2
      ⟨Text.Integer.isTooLong_of_lt (by decide), Text.Integer.isTooLong_of_lt (by decide)⟩
  obtain ⟨s, hsave, hs, hputs⟩ := hreach.exists_edit hload he hedit hwrite
  obtain ⟨g, -, rfl⟩ := save_folder_eq_ok hsave
  exact ⟨g, b, hs, hputs.here, hkeys⟩

theorem exists_folder_of_save {f : Folder} (hs : s.save a = .ok (.folder f)) :
    ∃ g, s = .folder g := by
  cases s with
  | memory l =>
      obtain ⟨kept, -, hf⟩ := save_memory_eq_ok hs
      cases hf
  | folder g => exact ⟨g, rfl⟩

end Store

namespace World

variable {α : Type} {program x : String} {w : World} {a b : Account} {y : α} {f : Fault}
  {body : Account → Outcome (α × Account)}

theorem changed_of_missing (ha : w.store.load x = .error f) (notice? : α → Option Notice) :
    w.changed x body notice? = (.error f.raised, w) := by
  rw [changed, ha]

theorem changed_of_refused (ha : w.store.load x = .ok a) (hb : body a = .error f)
    (notice? : α → Option Notice) : w.changed x body notice? = (.error f.raised, w) := by
  simp only [changed, ha, hb]

/-- What becomes of a change once its body has agreed to it. -/
theorem changed_of_agreed (h : w.store.Reachable program) (ha : w.store.load x = .ok a)
    (hb : body a = .ok (y, b)) (hsound : b.Sound program x) (notice? : α → Option Notice) :
    (w.store.canWrite b = false ∧ w.changed x body notice? = (.error .unwritable, w)) ∨
      (w.store.canWrite b = true ∧ ∃ s, w.store.save b = .ok s ∧ w.store.Puts x b s ∧
        w.changed x body notice? = (.ok y, w.saved x s (notice? y))) := by
  cases hw : w.store.canWrite b with
  | false =>
      have hsave := Store.saving_of_load (hsound.authority.symm ▸ ha)
        (Store.save_of_canWrite_eq_false hw)
      exact .inl ⟨rfl, by simp only [changed, ha, hb, hsave]; rfl⟩
  | true =>
      obtain ⟨s, hs⟩ := h.exists_save ha hsound hw
      exact .inr ⟨rfl, s, hs, h.puts hsound hs, changed_of_ok ha hb hs notice?⟩

end World

end Keyring
