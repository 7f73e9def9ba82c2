import Keyring.Proofs.Routine
import Keyring.Proofs.Store.Names
import Keyring.Proofs.Table

/-!
# How an account is saved

A folder is changed twice when an account is saved: its text is written as a draft, and the draft
takes the place of what was kept under the name of the account. Writing the draft may fail before
anything has changed. Moving it can fail only because the name belongs to a folder, and then the
draft stays behind, which nobody sees: no lookup asks for the name of a draft.
-/

namespace Keyring

namespace Folder

variable {f f' : Folder} {a : Account} {x : String}

structure HasPlace (f : Folder) (x : String) : Prop where
  draft : f.obstacle? (draftName x) = none
  name : f.hasFolder (fileName x) = false

theorem erase_put (f : Folder) (name text : String) :
    (f.put name text).erase name = f.erase name := by
  rw [erase, put, filter_putField_self]
  rfl

/-- The folder once the writing of an account has stopped, with any text in its draft. -/
def drafted (f : Folder) (x text : String) : Folder :=
  { f with texts := putField (draftName x) text f.texts }

/-- What becomes of a folder, and what is answered, when an account is saved. -/
theorem saving_on (f : Folder) (a : Account) : (saving a).on f =
    if a.toJson.isWritable then
      match f.obstacle? (draftName a.authority) with
      | some e => (.error (.file e), f)
      | none =>
        if f.hasFolder (fileName a.authority) then
          (.error (.file .isDirectory), f.drafted a.authority (a.toJson.render .sheet))
        else (.ok (), (f.erase (draftName a.authority)).put (fileName a.authority)
          (a.toJson.render .sheet))
    else (.error .unwritable, f) := by
  rw [saving, Routine.on_bind, Routine.on_refuse]
  cases a.toJson.isWritable with
  | false => rfl
  | true =>
      simp only [Bool.not_true, Bool.false_eq_true, if_false, if_true]
      rw [Routine.on_bind, writing, Routine.on_bind, Routine.on_get]
      cases ho : f.obstacle? (draftName a.authority) with
      | some e => simp only [ho, Routine.on_throw]
      | none =>
          simp only [ho, Routine.on_modify]
          rw [moving, Routine.on_bind, Routine.on_get]
          have hfolder : (f.put (draftName a.authority) (a.toJson.render .sheet)).hasFolder
              (fileName a.authority) = f.hasFolder (fileName a.authority) := rfl
          simp only [Routine.on_bind, Routine.on_refuse, hfolder]
          cases f.hasFolder (fileName a.authority) with
          | true => rfl
          | false =>
              have htext : field? (draftName a.authority)
                  (f.put (draftName a.authority) (a.toJson.render .sheet)).texts =
                    some (a.toJson.render .sheet) := by
                rw [put, field?_putField, if_pos rfl]
              simp only [Bool.false_eq_true, if_false, Routine.on_get, htext, Routine.on_modify,
                erase_put]

theorem save_eq (f : Folder) (a : Account) : f.save a =
    if a.toJson.isWritable then
      match f.obstacle? (draftName a.authority) with
      | some e => .error (.file e)
      | none =>
        if f.hasFolder (fileName a.authority) then .error (.file .isDirectory)
        else .ok ((f.erase (draftName a.authority)).put (fileName a.authority)
          (a.toJson.render .sheet))
    else .error .unwritable := by
  rw [save, Routine.left, Routine.outcome, saving_on]
  cases a.toJson.isWritable with
  | false => rfl
  | true =>
      cases f.obstacle? (draftName a.authority) with
      | some e => rfl
      | none => cases f.hasFolder (fileName a.authority) <;> rfl

theorem save_eq_ok_iff : f.save a = .ok f' ↔
    a.toJson.isWritable = true ∧ f.HasPlace a.authority ∧
      f' = (f.erase (draftName a.authority)).put (fileName a.authority)
        (a.toJson.render .sheet) := by
  rw [save_eq]
  constructor
  · intro h
    split at h
    next hw =>
      split at h
      next => cases h
      next ho =>
        split at h
        next => cases h
        next hfolder => exact ⟨hw, ⟨ho, Bool.eq_false_iff.2 hfolder⟩, (Except.ok.inj h).symm⟩
    next => cases h
  · rintro ⟨hw, ⟨ho, hfolder⟩, rfl⟩
    simp only [hw, ho, hfolder, if_true, Bool.false_eq_true, if_false]

theorem isTooLong_of_obstacle? {name : String} (h : f.obstacle? name = none) :
    f.isTooLong name = false := by
  rw [obstacle?] at h
  split_ifs at h with _ _ hlong
  exact Bool.eq_false_iff.2 hlong

/-- Where a draft can be written, the name of the document is a path as well. -/
theorem isPath_of_obstacle? (h : f.obstacle? (draftName x) = none) :
    hasNul (fileName x) = false ∧ isUnencodable (fileName x) = false := by
  rw [obstacle?] at h
  split_ifs at h with hencode hnul
  rw [Bool.eq_false_iff, Bool.eq_false_iff]
  constructor
  · intro hname
    have hmem := mem_draftName_of_mem_fileName (List.contains_iff_mem.1 hname)
    exact hnul (List.contains_iff_mem.2 hmem)
  · intro hname
    obtain ⟨c, hc, hbad⟩ := List.any_eq_true.1 hname
    exact hencode (List.any_eq_true.2 ⟨c, mem_draftName_of_mem_fileName hc, hbad⟩)

/-- What is found missing is not the name of a folder. -/
theorem hasFolder_of_contains (h : f.contains x = .ok false)
    (ho : f.obstacle? (draftName x) = none) : f.hasFolder (fileName x) = false := by
  obtain ⟨hnul, hencode⟩ := isPath_of_obstacle? ho
  rw [contains, has, hnul, hencode] at h
  cases hfolder : f.hasFolder (fileName x) with
  | false => rfl
  | true =>
      cases hlong : f.isTooLong (fileName x) <;> simp [hfolder, hlong] at h

theorem hasFolder_of_load (h : f.load x = .ok a) : f.hasFolder (fileName x) = false := by
  rw [load, read?] at h
  cases hfolder : f.hasFolder (fileName x) with
  | false => rfl
  | true =>
      rw [hfolder] at h
      cases hhas : f.has (fileName x) with
      | error e =>
          rw [hhas] at h
          cases h
      | ok there =>
          rw [hhas] at h
          cases there <;> cases h

/-- Nothing is left of a save that fails, but for the draft of an account whose name is a folder. -/
theorem saving_of_error {e : Fault} (h : ((saving a).on f).1 = .error e) :
    ((saving a).on f).2 = f ∨ f.obstacle? (draftName a.authority) = none ∧
      f.hasFolder (fileName a.authority) = true ∧
        ((saving a).on f).2 = f.drafted a.authority (a.toJson.render .sheet) := by
  rw [saving_on] at h ⊢
  cases hw : a.toJson.isWritable with
  | false => exact .inl rfl
  | true =>
      rw [hw, if_pos rfl] at h
      rw [if_pos rfl]
      cases ho : f.obstacle? (draftName a.authority) with
      | some e => exact .inl rfl
      | none =>
          rw [ho] at h
          cases hfolder : f.hasFolder (fileName a.authority) with
          | true => exact .inr ⟨rfl, rfl, rfl⟩
          | false =>
              rw [hfolder] at h
              cases h

theorem HasPlace.isTooLong_draftName (h : f.HasPlace x) : f.isTooLong (draftName x) = false :=
  isTooLong_of_obstacle? h.draft

theorem save_of_not_isWritable (hw : a.toJson.isWritable = false) :
    f.save a = .error .unwritable := by
  rw [save_eq, hw]
  rfl

/-! ## A draft that stays -/

theorem has_drafted {x name : String} (hname : name ≠ draftName x) (text : String) :
    (f.drafted x text).has name = f.has name := by
  rw [has, has, drafted, field?_putField, if_neg hname]
  rfl

theorem contains_drafted (x text y : String) :
    (f.drafted x text).contains y = f.contains y :=
  has_drafted (draftName_ne_fileName x y).symm text

theorem load_drafted (x text y : String) : (f.drafted x text).load y = f.load y := by
  have hname : fileName y ≠ draftName x := (draftName_ne_fileName x y).symm
  have hread : (f.drafted x text).read? (fileName y) = f.read? (fileName y) := by
    rw [read?, read?, has_drafted hname, drafted, field?_putField, if_neg hname]
    rfl
  rw [load, load, hread]

theorem stem?_draftName (x : String) : stem? (draftName x) = none := by
  rw [stem?, if_neg]
  rw [List.isSuffixOf_iff_suffix]
  rintro ⟨cs, hcs⟩
  have hlast := congrArg List.getLast? hcs
  simp [draftName, extension, String.toList_append] at hlast

theorem authorities_drafted (x text : String) :
    (Store.folder (f.drafted x text)).authorities = (Store.folder f).authorities := by
  have hnames : ((f.drafted x text).texts.map Prod.fst).filterMap stem? =
      (f.texts.map Prod.fst).filterMap stem? := by
    by_cases hmem : draftName x ∈ f.texts.map Prod.fst
    · rw [drafted, map_fst_putField hmem]
    · rw [drafted, putField_of_not_mem hmem, List.map_append, List.filterMap_append,
        List.map_singleton, List.filterMap_cons_none (stem?_draftName x), List.filterMap_nil,
        List.append_nil]
  rw [Store.authorities, Store.authorities, List.filterMap_append, List.filterMap_append, hnames]
  rfl

end Folder

/-! ## In either place -/

namespace Store

variable {s s' : Store} {a : Account}

theorem saving_folder (f : Folder) (a : Account) : (saving a).on (folder f) =
    (((Folder.saving a).on f).1, folder ((Folder.saving a).on f).2) := by
  unfold saving
  generalize Folder.saving a = p
  rfl

theorem saving_memory (l : List (String × Account)) (a : Account) : (saving a).on (memory l) =
    match Account.ofJson a.toJson with
    | .error e => (.error e, .memory l)
    | .ok kept => (.ok (), .memory (putField a.authority kept l)) := by
  unfold saving
  generalize Account.ofJson a.toJson = r
  cases r <;> rfl

theorem save_folder_eq (f : Folder) (a : Account) :
    (folder f).save a = (f.save a).map .folder := by
  rw [save, Folder.save, Routine.left, Routine.left, Routine.outcome, Routine.outcome,
    saving_folder]
  rcases (Folder.saving a).on f with ⟨r, g⟩
  cases r <;> rfl

theorem save_memory_eq (l : List (String × Account)) (a : Account) : (memory l).save a =
    (Account.ofJson a.toJson).map fun kept => .memory (putField a.authority kept l) := by
  rw [save, Routine.left, Routine.outcome, saving_memory]
  cases Account.ofJson a.toJson <;> rfl

theorem create_eq (s : Store) (a : Account) : s.create a =
    match s.contains a.authority with
    | .error e => .error e
    | .ok true => .error (.refusal (.accountExists a.authority))
    | .ok false => s.save a := by
  rw [create, creating, Routine.left, Routine.outcome_bind, Routine.outcome_get, Outcome.ok_bind,
    Routine.outcome_bind, Routine.outcome_liftM]
  cases s.contains a.authority with
  | error e => rfl
  | ok there =>
      rw [Except.map, Outcome.ok_bind, Routine.outcome_bind, Routine.outcome_refuse]
      cases there <;> rfl

/-- A store as it was, or with the draft of an account whose name belongs to a folder. -/
inductive Drafts (s : Store) : Store → Prop
  | nothing : Drafts s s
  | draft {f : Folder} {x : String} (hs : s = .folder f)
      (hx : f.hasFolder (Folder.fileName x) = true) (text : String) :
      Drafts s (.folder (f.drafted x text))

def IsFlat (s : Store) : Prop := ∀ f, s = .folder f → f.folders = []

theorem Drafts.eq_of_isFlat (h : s.Drafts s') (hs : s.IsFlat) : s' = s := by
  cases h with
  | nothing => rfl
  | @draft f x hf hx text =>
      rw [Folder.hasFolder, hs f hf] at hx
      cases hx

/-- What a draft that stays cannot be told from. -/
theorem Drafts.load_eq (h : s.Drafts s') (x : String) : s'.load x = s.load x := by
  cases h with
  | nothing => rfl
  | draft hs hx text =>
      subst hs
      exact Folder.load_drafted _ _ x

theorem Drafts.contains_eq (h : s.Drafts s') (x : String) : s'.contains x = s.contains x := by
  cases h with
  | nothing => rfl
  | draft hs hx text =>
      subst hs
      exact Folder.contains_drafted _ _ x

theorem Drafts.authorities_eq (h : s.Drafts s') : s'.authorities = s.authorities := by
  cases h with
  | nothing => rfl
  | draft hs hx text =>
      subst hs
      exact Folder.authorities_drafted _ _

/-- Saving succeeds as `save` says, or fails as it says and leaves at most a draft. -/
theorem saving_cases (s : Store) (a : Account) :
    (∃ s', s.save a = .ok s' ∧ (saving a).on s = (.ok (), s')) ∨
      ∃ e s', s.save a = .error e ∧ (saving a).on s = (.error e, s') ∧ s.Drafts s' := by
  rcases (saving a).on_cases s with ⟨⟨⟩, s', h⟩ | ⟨e, s', h⟩
  · exact .inl ⟨s', Routine.left_eq_ok_iff.2 h, h⟩
  · refine .inr ⟨e, s', ?_, h, ?_⟩
    · rw [save, Routine.left, Routine.outcome_of_on_error h]
      rfl
    · cases s with
      | memory l =>
          rw [saving_memory] at h
          split at h
          next =>
            obtain ⟨-, rfl⟩ := Prod.mk.inj h
            exact .nothing
          next => cases h
      | folder f =>
          rw [saving_folder] at h
          obtain ⟨hr, rfl⟩ := Prod.mk.inj h
          rcases Folder.saving_of_error hr with hsame | ⟨-, hfolder, hdrafted⟩
          · rw [hsame]
            exact .nothing
          · rw [hdrafted]
            exact .draft rfl hfolder _

/-- Nothing is left of a save that fails, unless a folder is in the way. -/
theorem saving_of_no_folder {e : Fault}
    (hs : ∀ f, s = .folder f → f.obstacle? (Folder.draftName a.authority) = none →
      f.hasFolder (Folder.fileName a.authority) = false)
    (he : ((saving a).on s).1 = .error e) : ((saving a).on s).2 = s := by
  cases s with
  | memory l =>
      rw [saving_memory] at he ⊢
      cases hkept : Account.ofJson a.toJson with
      | error e' => rfl
      | ok kept =>
          rw [hkept] at he
          cases he
  | folder f =>
      rw [saving_folder] at he ⊢
      dsimp only at he ⊢
      rcases Folder.saving_of_error he with hsame | ⟨ho, hfolder, -⟩
      · rw [hsame]
      · rw [hs f rfl ho] at hfolder
        cases hfolder

theorem saving_of_not_contains {e : Fault} (hc : s.contains a.authority = .ok false)
    (he : ((saving a).on s).1 = .error e) : ((saving a).on s).2 = s := by
  refine saving_of_no_folder ?_ he
  rintro f rfl ho
  exact Folder.hasFolder_of_contains hc ho

/-- Where an account is found there is no folder. -/
theorem saving_of_load {b : Account} {e : Fault} (hload : s.load a.authority = .ok b)
    (he : s.save a = .error e) : (saving a).on s = (.error e, s) := by
  rcases s.saving_cases a with ⟨s', hsave, -⟩ | ⟨e', s', hsave, hs, -⟩
  · rw [he] at hsave
    cases hsave
  · obtain rfl : e = e' := Except.error.inj (he.symm.trans hsave)
    have hsame : ((saving a).on s).2 = s := by
      refine saving_of_no_folder ?_ (congrArg Prod.fst hs)
      rintro f rfl -
      exact Folder.hasFolder_of_load hload
    rw [hs] at hsame
    rw [hs, show s' = s from hsame]

/-- An account is created, or all is left as it was: a name that is missing is not that of
a folder. -/
theorem atomic_creating (a : Account) : (creating a).Atomic := by
  intro s e he
  rw [creating, Routine.on_bind, Routine.on_get] at he ⊢
  simp only [Routine.on_bind, Routine.on_liftM, Routine.on_refuse] at he ⊢
  cases hc : s.contains a.authority with
  | error e' => rfl
  | ok there =>
      rw [hc] at he
      cases there with
      | true => rfl
      | false => exact saving_of_not_contains hc he

/-! ## Transactions -/

theorem transacting_on {α ρ : Type} (x : String) (write : Bool)
    (body : Routine Fault (Account × ρ) α) (s : Store) (r : ρ) :
    (transacting x write body).on (s, r) =
      match s.load x with
      | .error e => (.error e, s, r)
      | .ok a =>
        match body.on (a, r) with
        | (.error e, _, r) => (.error e, s, r)
        | (.ok y, b, r) =>
          if write then
            match (saving b).on s with
            | (.error e, s) => (.error e, s, r)
            | (.ok (), s) => (.ok y, s, r)
          else (.ok y, s, r) := by
  unfold transacting Routine.on ExceptT.run StateT.run
  dsimp only [Id.run]
  cases s.load x with
  | error e => rfl
  | ok a =>
      dsimp only
      generalize hq : body (a, r) = q
      rcases q with ⟨_ | y, b, r⟩
      · rfl
      · cases write with
        | false => rfl
        | true =>
          dsimp only
          generalize saving b s = q
          rcases q with ⟨_ | _, s⟩ <;> rfl

end Store

end Keyring
