import Keyring.Files
import Keyring.Proofs.Table
import Mathlib.Data.List.Basic

/-!
# Texts in a tree

Making folders touches no text, and neither does putting back what was taken out of a folder: each
place of the tree has the text that it had, though the entries may change their order. Writing texts
moves no folder, so that a path that leads somewhere leads there still, and what is put in a folder
is found at its places.
-/

namespace Keyring

theorem Place.nameIn?_eq_some {q p : Place} {name : String} (h : nameIn? q p = some name) :
    q ++ [name] = p := by
  unfold nameIn? at h
  split at h
  next hq =>
    rw [← hq]
    exact List.dropLast_append_getLast? name h
  next => cases h

theorem Place.nameIn?_append (q : Place) (name : String) : nameIn? q (q ++ [name]) = some name := by
  rw [nameIn?, List.dropLast_concat, if_pos rfl, List.getLast?_concat]

namespace Files

def text? (f : Files) (x : Place) : Option String := field? x f.texts

/-! ## Folders -/

theorem texts_addFolder {f g : Files} {p : Path} (h : f.addFolder p = .ok g) :
    g.texts = f.texts := by
  unfold addFolder at h
  split at h
  next => cases h
  next =>
    split at h
    next => cases h
    next =>
      cases h
      rfl

@[simp] theorem texts_ensureFolder (f : Files) (p : Path) :
    (f.ensureFolder p).1.texts = f.texts := by
  unfold ensureFolder
  split
  next h => exact texts_addFolder h
  next => rfl

theorem texts_makeFolders (f : Files) (root : String) (names : List String) :
    (f.makeFolders root names).1.texts = f.texts := by
  induction names with
  | nil => exact texts_ensureFolder f _
  | cons name before ih =>
      rw [makeFolders]
      split
      next =>
        split
        next g hg =>
          rw [texts_ensureFolder, ← ih, hg]
        next g e hg =>
          rw [← ih, hg]
      next => exact texts_ensureFolder f _

@[simp] theorem texts_makeFolder (f : Files) (p : Path) : (f.makeFolder p).1.texts = f.texts :=
  texts_makeFolders f _ _

/-! ## The texts of one folder -/

theorem map_nameIn? (q : Place) (texts : List (Place × String)) :
    ((texts.filterMap fun e => (Place.nameIn? q e.1).map (·, e.2)).map fun e =>
        (q ++ [e.1], e.2)) =
      texts.filter fun e => (Place.nameIn? q e.1).isSome := by
  induction texts with
  | nil => rfl
  | cons e texts ih =>
      cases h : Place.nameIn? q e.1 with
      | none => simp [h, ih]
      | some name => simp [h, ih, Place.nameIn?_eq_some h]

/-- Putting the texts of a folder back changes the text of no place. -/
theorem text?_setTexts_folderAt (f : Files) (p : Path) (x : Place) :
    (f.setTexts p (f.folderAt p).texts).text? x = f.text? x := by
  unfold setTexts folderAt text?
  cases f.locate p with
  | error e => rfl
  | ok q =>
      dsimp only
      rw [map_nameIn?, field?_append, field?_filter fun y => (Place.nameIn? q y).isNone,
        field?_filter fun y => (Place.nameIn? q y).isSome]
      cases Place.nameIn? q x with
      | none => simp
      | some name => simp

/-! ## Where paths lead -/

variable {f g : Files} {p : Path} {q x : Place} {names : List String} {t : String}

theorem node?_eq_folder_iff :
    f.node? x = some .folder ↔ (Place.isGiven x || f.folders.contains x) = true := by
  rw [node?]
  split
  next h => exact iff_of_true rfl h
  next h =>
    refine iff_of_false ?_ h
    cases field? x f.texts <;> simp

/-- Only folders are met on the way, and texts do not come between. -/
theorem walk_eq_ok_of_folders (hg : g.folders = f.folders) (h : f.walk x names = .ok q) :
    g.walk x names = .ok q := by
  induction names generalizing x with
  | nil => exact h
  | cons name rest ih =>
      rw [walk] at h
      split at h
      next => cases h
      next => cases h
      next hx =>
        have hx' : g.node? x = some .folder := by
          rw [node?_eq_folder_iff, hg]
          exact node?_eq_folder_iff.1 hx
        rw [walk, hx']
        dsimp only
        split at h
        next => cases h
        next hlong =>
          rw [if_neg hlong]
          exact ih h

theorem locate_eq_ok_of_folders (hg : g.folders = f.folders) (h : f.locate p = .ok q) :
    g.locate p = .ok q := by
  rw [locate] at h ⊢
  split at h
  next => cases h
  next hnul =>
    split at h
    next => cases h
    next hlong =>
      rw [if_neg hnul, if_neg hlong]
      exact walk_eq_ok_of_folders hg h

theorem field?_folderAt (h : f.locate p = .ok q) (name : String) :
    field? name (f.folderAt p).texts = f.text? (q ++ [name]) := by
  rw [folderAt, h, text?]
  dsimp only
  induction f.texts with
  | nil => rfl
  | cons e texts ih =>
      rw [field?]
      by_cases he : e.1 = q ++ [name]
      · rw [if_pos he, List.filterMap_cons, he, Place.nameIn?_append, Option.map_some, field?,
          if_pos rfl]
      · rw [if_neg he, ← ih, List.filterMap_cons]
        cases hname : Place.nameIn? q e.1 with
        | none => rfl
        | some other =>
            have hne : other ≠ name := fun heq => he (heq ▸ Place.nameIn?_eq_some hname).symm
            rw [Option.map_some, field?, if_neg hne]

theorem mem_of_hasFolder {name : String} (h : f.locate p = .ok q)
    (hname : (f.folderAt p).hasFolder name = true) : q ++ [name] ∈ f.folders := by
  rw [Folder.hasFolder, folderAt, h, List.contains_iff_mem] at hname
  obtain ⟨x, hx, hin⟩ := List.mem_filterMap.1 hname
  rwa [Place.nameIn?_eq_some hin]

theorem text?_setTexts (h : f.locate p = .ok q) (texts : List (String × String)) (name : String) :
    (f.setTexts p texts).text? (q ++ [name]) = field? name texts := by
  rw [setTexts, h, text?]
  dsimp only
  rw [field?_append, field?_filter fun y => (Place.nameIn? q y).isNone, Place.nameIn?_append,
    if_neg (by simp), Option.none_or]
  induction texts with
  | nil => rfl
  | cons e texts ih =>
      rw [List.map_cons, field?, field?, ih]
      simp

/-- The texts of a folder are those right in it. -/
theorem text?_setTexts_other (h : f.locate p = .ok q) (texts : List (String × String))
    (hx : Place.nameIn? q x = none) : (f.setTexts p texts).text? x = f.text? x := by
  have htexts : field? x (texts.map fun e => (q ++ [e.1], e.2)) = none := by
    rw [field?_eq_none_iff, List.map_map]
    rintro hmem
    obtain ⟨e, -, rfl⟩ := List.mem_map.1 hmem
    rw [Function.comp_apply, Place.nameIn?_append] at hx
    cases hx
  rw [setTexts, h, text?, text?]
  dsimp only
  rw [field?_append, field?_filter fun y => (Place.nameIn? q y).isNone, hx, htexts, Option.or_none]
  rfl

theorem folders_setTexts (f : Files) (p : Path) (texts : List (String × String)) :
    (f.setTexts p texts).folders = f.folders := by
  rw [setTexts]
  split <;> rfl

theorem write_eq_ok (h : f.write p t = .ok g) :
    ∃ q, f.locate p = .ok q ∧ g = { f with texts := putField q t f.texts } := by
  rw [write] at h
  split at h
  next => cases h
  next q hq =>
    split at h
    next => cases h
    next => exact ⟨q, hq, (Except.ok.inj h).symm⟩

end Files

end Keyring
