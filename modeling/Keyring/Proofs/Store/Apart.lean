import Keyring.Proofs.Account.Documents
import Keyring.Proofs.Store.Contents

/-!
# Places of their own

An authority has its place in a store: an entry in memory, a document in a folder. `SameAt` says
that two stores have the same in the place of an authority; whatever a store answers about the
authority hangs on that alone. `Writes` is what an operation about one authority does to a store,
which is to write one account in its place or nothing. Every other place stays as it was, and two
writes in different places may be done in either order.
-/

namespace Keyring

namespace Store

/-- The name by which a store tells an authority from others. -/
def place : Store → String → String
  | .memory _, x => x
  | .folder _, x => Folder.stem x

/-- Whether two stores have the same in the place of an authority, and take the same names. -/
inductive SameAt (x : String) : Store → Store → Prop
  | memory {l l' : List (String × Account)} (h : field? x l' = field? x l) :
      SameAt x (.memory l) (.memory l')
  | folder {f g : Folder}
      (htexts : field? (Folder.fileName x) g.texts = field? (Folder.fileName x) f.texts)
      (hfolders : g.folders = f.folders) (hroom : g.room = f.room) :
      SameAt x (.folder f) (.folder g)

/-- Whether no other authority shares its place with `x`. -/
def Sole (x : String) : Store → Prop
  | .memory _ => True
  | .folder _ => ∀ y, Folder.fileName y = Folder.fileName x → y = x

/-- Whether an account that is loaded under `x` is an account of `x`, in a place of its own. -/
def OrderlyAt (x : String) (s : Store) : Prop :=
  ∀ a, s.load x = .ok a → a.authority = x ∧ s.Sole x

def Orderly (s : Store) : Prop := ∀ x, s.OrderlyAt x

/-- Whether two stores hold the same, in whatever order it came there. -/
inductive Same : Store → Store → Prop
  | memory {l l' : List (String × Account)} (h : l.Perm l') : Same (.memory l) (.memory l')
  | folder {f g : Folder} (htexts : f.texts.Perm g.texts) (hfolders : g.folders = f.folders)
      (hroom : g.room = f.room) : Same (.folder f) (.folder g)

/-- A store and what it becomes when an account of `x`, or nothing, is written to it. -/
inductive Writes (x : String) (s : Store) : Option Account → Store → Prop
  | nothing : Writes x s none s
  | account {a : Account} {s' : Store} (ha : a.authority = x) (hx : s.Sole x)
      (hs : s.save a = .ok s') : Writes x s (some a) s'

end Store

/-! ## What is written and read in one place -/

namespace Folder

variable {f g : Folder} {a b : Account} {x : String}

theorem has_eq {name : String} (hname : field? name g.texts = field? name f.texts)
    (hfolders : g.folders = f.folders) (hroom : g.room = f.room) : g.has name = f.has name := by
  rw [has, has, isTooLong, isTooLong, hasFolder, hasFolder, hname, hfolders, hroom]

theorem load_eq (hname : field? (fileName x) g.texts = field? (fileName x) f.texts)
    (hfolders : g.folders = f.folders) (hroom : g.room = f.room) : g.load x = f.load x := by
  have hread : g.read? (fileName x) = f.read? (fileName x) := by
    rw [read?, read?, has_eq hname hfolders hroom, hasFolder, hasFolder, hname, hfolders]
  rw [load, load, hread]

/-- Whether an account can be written hangs on its document, and on the names that are taken. -/
theorem save_alike (hfolders : g.folders = f.folders) (hroom : g.room = f.room) (a : Account) :
    (∃ e, f.save a = .error e ∧ g.save a = .error e) ∨
      ∃ f' g', f.save a = .ok f' ∧ g.save a = .ok g' := by
  have hobstacle (name : String) : g.obstacle? name = f.obstacle? name := by
    rw [obstacle?, obstacle?, isTooLong, isTooLong, hasFolder, hasFolder, hfolders, hroom]
  have hfolder (name : String) : g.hasFolder name = f.hasFolder name := by
    rw [hasFolder, hasFolder, hfolders]
  rw [save_eq, save_eq, hobstacle, hfolder]
  split
  next =>
    split
    next => exact .inl ⟨_, rfl, rfl⟩
    next =>
      split
      next => exact .inl ⟨_, rfl, rfl⟩
      next => exact .inr ⟨_, _, rfl, rfl⟩
  next => exact .inl ⟨_, rfl, rfl⟩

theorem folders_save {f' : Folder} (hf : f.save a = .ok f') :
    f'.folders = f.folders ∧ f'.room = f.room := by
  obtain ⟨-, -, rfl⟩ := save_eq_ok_iff.1 hf
  exact ⟨rfl, rfl⟩

theorem texts_save {f' : Folder} (hf : f.save a = .ok f') :
    f'.texts = putField (fileName a.authority) (a.toJson.render .sheet)
      (f.texts.filter fun e => e.1 != draftName a.authority) := by
  obtain ⟨-, -, rfl⟩ := save_eq_ok_iff.1 hf
  rfl

/-- The text of one authority is put before or after the draft of another is dropped. -/
theorem filter_putField_fileName (x y text : String) (t : List (String × String)) :
    (putField (fileName x) text t).filter (fun e => e.1 != draftName y) =
      putField (fileName x) text (t.filter fun e => e.1 != draftName y) := by
  apply filter_putField
  intro e he
  rw [bne_iff_ne, he]
  exact (draftName_ne_fileName y x).symm

/-- What a folder has under a name once an account is saved. -/
theorem field?_save {f' : Folder} (hf : f.save a = .ok f') (x : String) :
    field? (fileName x) f'.texts =
      if fileName x = fileName a.authority then some (a.toJson.render .sheet)
      else field? (fileName x) f.texts := by
  rw [texts_save hf, field?_putField]
  split
  next => rfl
  next => exact field?_filter_ne (draftName_ne_fileName a.authority x).symm _

/-- What has been written can be found: its name is no worse than that of its draft. -/
theorem has_of_save {f' : Folder} (hf : f.save a = .ok f')
    (hx : fileName x = fileName a.authority) :
    f'.has (fileName x) = .ok true ∧ f'.hasFolder (fileName x) = false := by
  obtain ⟨hfolders, hroom⟩ := folders_save hf
  have htext := field?_save hf a.authority
  rw [if_pos rfl] at htext
  obtain ⟨-, hplace, -⟩ := save_eq_ok_iff.1 hf
  obtain ⟨hnul, hencode⟩ := isPath_of_obstacle? hplace.draft
  have hlong' : f'.isTooLong (fileName a.authority) = false := by
    rw [isTooLong, hroom]
    exact isTooLong_fileName hplace.isTooLong_draftName
  have hfolder' : f'.hasFolder (fileName a.authority) = false := by
    rw [hasFolder, hfolders]
    exact hplace.name
  rw [hx, has, hencode, hnul, hlong', hfolder', htext]
  exact ⟨rfl, rfl⟩

/-- What is loaded once an account is saved is what its document is read as. -/
theorem load_of_save {f' : Folder} (hf : f.save a = .ok f')
    (hx : fileName x = fileName a.authority) : f'.load x = Account.ofJson a.toJson := by
  obtain ⟨hhas, hfolder⟩ := has_of_save hf hx
  have htext := field?_save hf x
  rw [if_pos hx] at htext
  have hread : f'.read? (fileName x) = .ok (some (a.toJson.render .sheet)) := by
    rw [read?, hhas]
    simp only [hfolder, htext, Option.map_some,
      Json.unifyNewlines_render (s := .sheet) rfl]
    rfl
  rw [load, hread]
  simp only [Json.parse_render (s := .sheet) rfl a.isReadable_toJson (save_eq_ok_iff.1 hf).1]

/-- The second of two accounts of one authority is saved as if the first had never been. -/
theorem save_save {f₁ f₂ : Folder} (hab : a.authority = b.authority) (hf : f.save a = .ok f₁)
    (hf₁ : f₁.save b = .ok f₂) : f.save b = .ok f₂ := by
  obtain ⟨hfolders, hroom⟩ := folders_save hf
  obtain ⟨hfolders₂, hroom₂⟩ := folders_save hf₁
  rcases save_alike hfolders hroom b with ⟨e, -, he⟩ | ⟨g, -, hg, -⟩
  · rw [hf₁] at he
    cases he
  · obtain ⟨hfoldersG, hroomG⟩ := folders_save hg
    have htexts : g.texts = f₂.texts := by
      rw [texts_save hg, texts_save hf₁, texts_save hf, hab, filter_putField_fileName,
        putField_putField, List.filter_filter]
      simp only [Bool.and_self]
    rw [hg]
    obtain ⟨texts, folders, room⟩ := g
    obtain rfl : texts = f₂.texts := htexts
    obtain rfl : folders = f₂.folders := hfoldersG.trans (hfolders₂.trans hfolders).symm
    obtain rfl : room = f₂.room := hroomG.trans (hroom₂.trans hroom).symm
    rfl

end Folder

/-- Whatever an account is read back as has the same authority. -/
theorem Account.authority_of_ofJson {a b : Account} (h : ofJson a.toJson = .ok b) :
    b.authority = a.authority := by
  obtain ⟨authority, hauthority, h⟩ := Outcome.bind_eq_ok.1 h
  obtain ⟨address, -, h⟩ := Outcome.bind_eq_ok.1 h
  obtain ⟨_, -, h⟩ := Outcome.bind_eq_ok.1 h
  obtain ⟨bump, -, h⟩ := Outcome.bind_eq_ok.1 h
  obtain ⟨entries, -, h⟩ := Outcome.bind_eq_ok.1 h
  obtain ⟨keys, -, h⟩ := Outcome.bind_eq_ok.1 h
  obtain ⟨_, -, h⟩ := Outcome.bind_eq_ok.1 h
  obtain ⟨mints, -, h⟩ := Outcome.bind_eq_ok.1 h
  obtain rfl : Json.str a.authority = authority := Except.ok.inj hauthority
  obtain rfl := Except.ok.inj h
  rfl

namespace Store

variable {s s' s₁ s₂ s₁₂ s₂₁ t t' u : Store} {x y : String} {a : Account} {a? b? : Option Account}

/-! ## The same in one place -/

theorem sameAt_refl (x : String) (s : Store) : s.SameAt x s := by
  cases s with
  | memory l => exact .memory rfl
  | folder f => exact .folder rfl rfl rfl

theorem SameAt.symm (h : s.SameAt x t) : t.SameAt x s := by
  cases h with
  | memory h => exact .memory h.symm
  | folder htexts hfolders hroom => exact .folder htexts.symm hfolders.symm hroom.symm

theorem SameAt.trans (h : s.SameAt x t) (h' : t.SameAt x u) : s.SameAt x u := by
  cases h with
  | memory h =>
      cases h' with
      | memory h' => exact .memory (h'.trans h)
  | folder htexts hfolders hroom =>
      cases h' with
      | folder htexts' hfolders' hroom' =>
          exact .folder (htexts'.trans htexts) (hfolders'.trans hfolders) (hroom'.trans hroom)

theorem SameAt.load_eq (h : s.SameAt x t) : t.load x = s.load x := by
  cases h with
  | memory h => rw [load, load, h]
  | folder htexts hfolders hroom => exact Folder.load_eq htexts hfolders hroom

theorem SameAt.contains_eq (h : s.SameAt x t) : t.contains x = s.contains x := by
  cases h with
  | memory h => rw [contains, contains, h]
  | folder htexts hfolders hroom => exact Folder.has_eq htexts hfolders hroom

theorem SameAt.sole (h : s.SameAt y t) (hs : s.Sole x) : t.Sole x := by
  cases h with
  | memory h => exact trivial
  | folder htexts hfolders hroom => exact hs

theorem SameAt.orderlyAt (h : s.SameAt x t) (hs : s.OrderlyAt x) : t.OrderlyAt x := by
  intro a ha
  obtain ⟨hauthority, hsole⟩ := hs a (h.load_eq ▸ ha)
  exact ⟨hauthority, h.sole hsole⟩

/-- Where a place is the same, an account is saved in both stores or in neither. -/
theorem SameAt.save_alike (h : s.SameAt x t) (a : Account) :
    (∃ e, s.save a = .error e ∧ t.save a = .error e) ∨
      ∃ s' t', s.save a = .ok s' ∧ t.save a = .ok t' := by
  cases h with
  | memory h =>
      rw [save_memory_eq, save_memory_eq]
      cases Account.ofJson a.toJson with
      | error e => exact .inl ⟨e, rfl, rfl⟩
      | ok kept => exact .inr ⟨_, _, rfl, rfl⟩
  | folder htexts hfolders hroom =>
      rw [save_folder_eq, save_folder_eq]
      rcases Folder.save_alike hfolders hroom a with ⟨e, hf, hg⟩ | ⟨f', g', hf, hg⟩ <;> rw [hf, hg]
      · exact .inl ⟨e, rfl, rfl⟩
      · exact .inr ⟨_, _, rfl, rfl⟩

/-! ## Writing -/

/-- Where an account is found in the same place, another is saved in its stead in both stores, or in
neither, with nothing left behind. -/
theorem SameAt.saving_alike {b : Account} (h : s.SameAt x t) (a : Account)
    (hs : s.load a.authority = .ok b) (ht : t.load a.authority = .ok b) :
    (∃ e, (saving a).on s = (.error e, s) ∧ (saving a).on t = (.error e, t)) ∨
      ∃ s' t', s.save a = .ok s' ∧ t.save a = .ok t' ∧ (saving a).on s = (.ok (), s') ∧
        (saving a).on t = (.ok (), t') := by
  rcases h.save_alike a with ⟨e, hse, hte⟩ | ⟨s', t', hs', ht'⟩
  · exact .inl ⟨e, saving_of_load hs hse, saving_of_load ht hte⟩
  · exact .inr ⟨s', t', hs', ht', Routine.left_eq_ok_iff.1 hs', Routine.left_eq_ok_iff.1 ht'⟩

theorem save_memory_eq_ok {l : List (String × Account)} (h : (memory l).save a = .ok s') :
    ∃ kept, Account.ofJson a.toJson = .ok kept ∧ s' = .memory (putField a.authority kept l) := by
  rw [save_memory_eq, Outcome.map_eq_ok] at h
  obtain ⟨kept, hkept, rfl⟩ := h
  exact ⟨kept, hkept, rfl⟩

theorem save_folder_eq_ok {f : Folder} (h : (folder f).save a = .ok s') :
    ∃ f', f.save a = .ok f' ∧ s' = .folder f' := by
  rw [save_folder_eq, Outcome.map_eq_ok] at h
  obtain ⟨f', hf, rfl⟩ := h
  exact ⟨f', hf, rfl⟩

theorem save_of_create (hs : s.create a = .ok s') : s.save a = .ok s' := by
  rw [create_eq] at hs
  split at hs
  next => cases hs
  next => cases hs
  next => exact hs

/-- What was in the place of an authority before its account is saved does not matter. -/
theorem sameAt_save (h : s.SameAt x t) (ha : a.authority = x) (hs : s.save a = .ok s')
    (ht : t.save a = .ok t') : s'.SameAt x t' := by
  cases h with
  | memory h =>
      obtain ⟨kept, hkept, rfl⟩ := save_memory_eq_ok hs
      obtain ⟨kept', hkept', rfl⟩ := save_memory_eq_ok ht
      obtain rfl : kept = kept' := Except.ok.inj (hkept.symm.trans hkept')
      exact .memory (by rw [field?_putField, field?_putField, if_pos ha.symm, if_pos ha.symm])
  | folder htexts hfolders hroom =>
      obtain ⟨f', hf, rfl⟩ := save_folder_eq_ok hs
      obtain ⟨g', hg, rfl⟩ := save_folder_eq_ok ht
      obtain ⟨hfolders₁, hroom₁⟩ := Folder.folders_save hf
      obtain ⟨hfolders₂, hroom₂⟩ := Folder.folders_save hg
      subst ha
      refine .folder ?_ ?_ ?_
      · rw [Folder.field?_save hf, Folder.field?_save hg, if_pos rfl, if_pos rfl]
      · rw [hfolders₁, hfolders₂, hfolders]
      · rw [hroom₁, hroom₂, hroom]

/-- An account that is saved touches no place but its own. -/
theorem sameAt_save_of_place (hs : s.save a = .ok s') (hy : s.place a.authority ≠ s.place y) :
    s.SameAt y s' := by
  cases s with
  | memory l =>
      obtain ⟨kept, -, rfl⟩ := save_memory_eq_ok hs
      exact .memory (by rw [field?_putField, if_neg fun h => hy h.symm])
  | folder f =>
      obtain ⟨f', hf, rfl⟩ := save_folder_eq_ok hs
      obtain ⟨hfolders, hroom⟩ := Folder.folders_save hf
      refine .folder ?_ hfolders hroom
      rw [Folder.field?_save hf, if_neg fun h => hy (Folder.fileName_eq_iff_stem_eq.1 h).symm]

/-- An account that is saved leaves the place of any other authority as it was. -/
theorem sameAt_save_other (hx : s.Sole a.authority) (hs : s.save a = .ok s')
    (hy : y ≠ a.authority) : s.SameAt y s' := by
  refine sameAt_save_of_place hs ?_
  cases s with
  | memory l => exact hy.symm
  | folder f => exact fun h => hy (hx y (Folder.fileName_eq_iff_stem_eq.2 h.symm))

/-- The second of two accounts of one authority is saved as if the first had never been. -/
theorem save_save {b : Account} (hab : a.authority = b.authority) (hs : s.save a = .ok s₁)
    (hs₁ : s₁.save b = .ok s₂) : s.save b = .ok s₂ := by
  cases s with
  | memory l =>
      obtain ⟨kept, -, rfl⟩ := save_memory_eq_ok hs
      obtain ⟨kept', hkept', rfl⟩ := save_memory_eq_ok hs₁
      rw [save_memory_eq, hkept', hab, putField_putField]
      rfl
  | folder f =>
      obtain ⟨f₁, hf, rfl⟩ := save_folder_eq_ok hs
      obtain ⟨f₂, hf₁, rfl⟩ := save_folder_eq_ok hs₁
      rw [save_folder_eq, Folder.save_save hab hf hf₁]
      rfl

/-- Accounts of two authorities may be saved in either order. -/
theorem same_save {b : Account} (hab : a.authority ≠ b.authority) (ha : s.Sole a.authority)
    (hs₁ : s.save a = .ok s₁) (hs₁₂ : s₁.save b = .ok s₁₂) (hs₂ : s.save b = .ok s₂)
    (hs₂₁ : s₂.save a = .ok s₂₁) : s₁₂.Same s₂₁ := by
  cases s with
  | memory l =>
      obtain ⟨keptA, hkeptA, rfl⟩ := save_memory_eq_ok hs₁
      obtain ⟨keptB, hkeptB, rfl⟩ := save_memory_eq_ok hs₂
      obtain ⟨keptB', hkeptB', rfl⟩ := save_memory_eq_ok hs₁₂
      obtain ⟨keptA', hkeptA', rfl⟩ := save_memory_eq_ok hs₂₁
      obtain rfl : keptA = keptA' := Except.ok.inj (hkeptA.symm.trans hkeptA')
      obtain rfl : keptB = keptB' := Except.ok.inj (hkeptB.symm.trans hkeptB')
      exact .memory (putField_comm hab.symm keptB keptA l)
  | folder f =>
      obtain ⟨f₁, hf₁, rfl⟩ := save_folder_eq_ok hs₁
      obtain ⟨f₂, hf₂, rfl⟩ := save_folder_eq_ok hs₂
      obtain ⟨f₁₂, hf₁₂, rfl⟩ := save_folder_eq_ok hs₁₂
      obtain ⟨f₂₁, hf₂₁, rfl⟩ := save_folder_eq_ok hs₂₁
      obtain ⟨hfolders₁, hroom₁⟩ := Folder.folders_save hf₁
      obtain ⟨hfolders₂, hroom₂⟩ := Folder.folders_save hf₂
      obtain ⟨hfolders₁₂, hroom₁₂⟩ := Folder.folders_save hf₁₂
      obtain ⟨hfolders₂₁, hroom₂₁⟩ := Folder.folders_save hf₂₁
      refine .folder ?_ ?_ ?_
      · rw [Folder.texts_save hf₁₂, Folder.texts_save hf₁, Folder.texts_save hf₂₁,
          Folder.texts_save hf₂, Folder.filter_putField_fileName, Folder.filter_putField_fileName,
          List.filter_comm]
        exact putField_comm (fun h => hab (ha _ h).symm) _ _ _
      · rw [hfolders₂₁, hfolders₂, hfolders₁₂, hfolders₁]
      · rw [hroom₂₁, hroom₂, hroom₁₂, hroom₁]

theorem orderlyAt_save (ha : s.Sole a.authority) (hs : s.save a = .ok s') :
    s'.OrderlyAt a.authority := by
  intro b hb
  cases s with
  | memory l =>
      obtain ⟨kept, hkept, rfl⟩ := save_memory_eq_ok hs
      rw [load, field?_putField, if_pos rfl] at hb
      have hauthority := Account.authority_of_ofJson hkept
      exact ⟨(Account.authority_of_ofJson hb).trans hauthority, trivial⟩
  | folder f =>
      obtain ⟨f', hf, rfl⟩ := save_folder_eq_ok hs
      rw [load, Folder.load_of_save hf rfl] at hb
      exact ⟨Account.authority_of_ofJson hb, ha⟩

/-! ## At most one write -/

theorem Writes.sameAt (h : s.Writes x a? s') (h' : t.Writes x a? t') (hst : s.SameAt x t) :
    s'.SameAt x t' := by
  cases h with
  | nothing =>
      cases h'
      exact hst
  | account ha hx hs =>
      cases h' with
      | account ha' hx' ht => exact sameAt_save hst ha hs ht

theorem Writes.sameAt_other (h : s.Writes x a? s') (hy : y ≠ x) : s.SameAt y s' := by
  cases h with
  | nothing => exact sameAt_refl y s
  | account ha hx hs =>
      subst ha
      exact sameAt_save_other hx hs hy

theorem Writes.orderlyAt (h : s.Writes x a? s') (hs : s.OrderlyAt x) : s'.OrderlyAt x := by
  cases h with
  | nothing => exact hs
  | account ha hx hs' =>
      subst ha
      exact orderlyAt_save hx hs'

/-- Two writes for one authority come to the second of them. -/
theorem Writes.trans (h : s.Writes x a? s₁) (h₁ : s₁.Writes x b? s₂) :
    s.Writes x (b?.or a?) s₂ := by
  cases h₁ with
  | nothing => exact h
  | account hb hx hs₁ =>
      cases h with
      | nothing => exact .account hb hx hs₁
      | account ha hx' hs => exact .account hb hx' (save_save (ha.trans hb.symm) hs hs₁)

theorem same_refl (s : Store) : s.Same s := by
  cases s with
  | memory l => exact .memory (List.Perm.refl l)
  | folder f => exact .folder (List.Perm.refl _) rfl rfl

theorem Writes.eq (h : s.Writes x a? s₁) (h' : s.Writes x a? s₂) : s₁ = s₂ := by
  cases h with
  | nothing =>
      cases h'
      rfl
  | account ha hx hs =>
      cases h' with
      | account ha' hx' hs' => exact Except.ok.inj (hs.symm.trans hs')

theorem Writes.same (hxy : x ≠ y) (h₁ : s.Writes x a? s₁) (h₁₂ : s₁.Writes y b? s₁₂)
    (h₂ : s.Writes y b? s₂) (h₂₁ : s₂.Writes x a? s₂₁) : s₁₂.Same s₂₁ := by
  cases h₁ with
  | nothing =>
      cases h₂₁
      obtain rfl := h₁₂.eq h₂
      exact same_refl _
  | account ha hx hs₁ =>
      cases h₁₂ with
      | nothing =>
          cases h₂
          obtain rfl := (Writes.account ha hx hs₁).eq h₂₁
          exact same_refl _
      | account hb hy hs₁₂ =>
          cases h₂ with
          | account hb' hy' hs₂ =>
              cases h₂₁ with
              | account ha' hx' hs₂₁ =>
                  subst ha hb
                  exact same_save hxy hx hs₁ hs₁₂ hs₂ hs₂₁

/-- Whichever write comes first, in the end every place has the same. -/
theorem Writes.sameAt_comm (hxy : x ≠ y) (h₁ : s.Writes x a? s₁) (h₁₂ : s₁.Writes y b? s₁₂)
    (h₂ : s.Writes y b? s₂) (h₂₁ : s₂.Writes x a? s₂₁) (z : String) : s₁₂.SameAt z s₂₁ := by
  by_cases hzx : z = x
  · subst hzx
    have hfirst : s₁.SameAt z s₂₁ := h₁.sameAt h₂₁ (h₂.sameAt_other hxy)
    exact (h₁₂.sameAt_other hxy).symm.trans hfirst
  · by_cases hzy : z = y
    · subst hzy
      have hsecond : s₂.SameAt z s₁₂ := h₂.sameAt h₁₂ (h₁.sameAt_other hzx)
      exact hsecond.symm.trans (h₂₁.sameAt_other hzx)
    · have h₁₂ := (h₁.sameAt_other hzx).trans (h₁₂.sameAt_other hzy)
      have h₂₁ := (h₂.sameAt_other hzy).trans (h₂₁.sameAt_other hzx)
      exact h₁₂.symm.trans h₂₁

end Store

theorem Store.sole_of_isPlain {x : String} (hx : Folder.IsPlain x) (s : Store) : s.Sole x := by
  cases s with
  | memory l => exact trivial
  | folder f => exact fun y hy => Folder.eq_of_fileName_eq hx hy

/-- The accounts that a store holds stand each in a place of its own. -/
theorem Store.Holds.orderly {s : Store} {program : String} {l : List (String × Account)}
    (h : s.Holds program l) : s.Orderly := by
  intro x a ha
  have hsound := h.sound _ (mem_of_field? (h.load_eq_ok_iff.1 ha))
  exact ⟨hsound.authority, sole_of_isPlain hsound.isPlain s⟩

/-- What is loaded once an account is saved. -/
theorem Store.Holds.load_save {s s' : Store} {program x : String} {l : List (String × Account)}
    {a : Account} (h : s.Holds program l) (ha : a.Sound program x) (hs : s.save a = .ok s')
    (y : String) : s'.load y = if y = x then .ok a else s.load y := by
  obtain rfl := ha.authority
  split
  next hy =>
    subst hy
    exact (h.save ha hs).load_of_some (by rw [field?_putField, if_pos rfl])
  next hy => exact (sameAt_save_other (sole_of_isPlain ha.isPlain s) hs hy).load_eq

/-- So do accounts that are kept in memory under their own authorities, whatever else they are. -/
theorem Store.orderly_memory {l : List (String × Account)} (hl : ∀ e ∈ l, e.2.authority = e.1) :
    (memory l).Orderly := by
  intro x a ha
  rw [load] at ha
  split at ha
  next => cases ha
  next kept hkept =>
    exact ⟨(Account.authority_of_ofJson ha).trans (hl _ (mem_of_field? hkept)), trivial⟩

/-! ## Names in order -/

theorem sorted_eq_of_perm {xs ys : List String} (h : xs.Perm ys) : sorted xs = sorted ys := by
  have hpairwise (zs : List String) :
      (sorted zs).Pairwise fun a b => decide (a ≤ b) = true := by
    apply List.pairwise_mergeSort
    · simp only [decide_eq_true_eq]
      exact fun _ _ _ => String.le_trans
    · simp only [Bool.or_eq_true, decide_eq_true_eq]
      exact String.le_total
  have hperm : (sorted xs).Perm (sorted ys) :=
    (List.mergeSort_perm xs _).trans (h.trans (List.mergeSort_perm ys _).symm)
  apply hperm.eq_of_pairwise _ (hpairwise xs) (hpairwise ys)
  intro a b _ _ hab hba
  exact String.le_antisymm (of_decide_eq_true hab) (of_decide_eq_true hba)

/-- Stores that hold the same show the same authorities. -/
theorem Store.Same.authorities_eq {s t : Store} (h : s.Same t) :
    t.authorities = s.authorities := by
  cases h with
  | memory h => exact sorted_eq_of_perm (h.symm.map _)
  | folder htexts hfolders hroom =>
      rw [authorities, authorities, hfolders]
      exact sorted_eq_of_perm (((htexts.symm.map _).append_right _).filterMap _)

end Keyring
