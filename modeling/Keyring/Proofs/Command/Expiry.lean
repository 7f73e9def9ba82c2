import Keyring.Proofs.Command.Exit

/-!
# Thresholds counted from now

A call that gives a key so much time looks at the clock twice. At the first look it adds the time to
the component that belongs to the key, which is known from the options for a new key and from the
account for one that is there; at the second it asks whether the sum lies ahead. So the threshold
that is kept does not hang on the second look, and time that is none is never given.
-/

namespace Keyring

/-! ## What is kept in the folder -/

namespace Setup

variable {s : Setup} {w : World} {f : Files} {kept : Folder} {q x : Place} {authority : String}

/-- Whether the journal is not written over the document of an authority. -/
def SparesDocument (s : Setup) (f : Files) (authority : String) : Prop :=
  ∀ j q, s.journal? = some j → f.locate s.folder = .ok q →
    f.locate j ≠ .ok (q ++ [Folder.fileName authority])

/-- A journal is written where its path leads, or not at all. -/
theorem record_eq (s : Setup) (lines : List String) (f : Files) : s.record lines f = f ∨
    ∃ j q t, s.journal? = some j ∧ f.locate j = .ok q ∧
      s.record lines f = { f with texts := putField q t f.texts } := by
  unfold record
  split
  next => exact .inl rfl
  next j hj =>
    split
    next => exact .inl rfl
    next =>
      split
      next => exact .inl rfl
      next =>
        split
        next g hg =>
          obtain ⟨q, hq, rfl⟩ := Files.write_eq_ok hg
          exact .inr ⟨j, q, _, hj, hq, rfl⟩
        next => exact .inl rfl

theorem folders_record (s : Setup) (lines : List String) (f : Files) :
    (s.record lines f).folders = f.folders := by
  rcases s.record_eq lines f with h | ⟨j, q, t, -, -, h⟩ <;> rw [h]

theorem text?_record (hx : ∀ j, s.journal? = some j → f.locate j ≠ .ok x) (lines : List String) :
    (s.record lines f).text? x = f.text? x := by
  rcases s.record_eq lines f with h | ⟨j, q, t, hj, hq, h⟩
  · rw [h]
  · have hne : x ≠ q := fun heq => hx j hj (heq ▸ hq)
    rw [h, Files.text?, field?_putField, if_neg hne]
    rfl

/-- The texts of the folder take their place, and then the journal takes its own. -/
theorem keep_eq (hstore : w.store = .folder kept) (f : Files) :
    ∃ lines?, s.keep w f = match lines? with
      | some lines => s.record lines (f.setTexts s.folder kept.texts)
      | none => f.setTexts s.folder kept.texts := by
  unfold keep
  rw [hstore]
  dsimp only
  split
  next lines _ => exact ⟨some lines, rfl⟩
  next => exact ⟨none, rfl⟩

theorem folders_keep (hstore : w.store = .folder kept) (f : Files) :
    (s.keep w f).folders = f.folders := by
  obtain ⟨lines?, h⟩ := keep_eq (s := s) hstore f
  rw [h]
  cases lines? with
  | none => exact f.folders_setTexts s.folder kept.texts
  | some lines => exact (s.folders_record _ _).trans (f.folders_setTexts s.folder kept.texts)

theorem text?_keep_document (hstore : w.store = .folder kept) (hq : f.locate s.folder = .ok q)
    (hspares : s.SparesDocument f authority) :
    (s.keep w f).text? (q ++ [Folder.fileName authority]) =
      field? (Folder.fileName authority) kept.texts := by
  obtain ⟨lines?, h⟩ := keep_eq (s := s) hstore f
  rw [h]
  have htext := Files.text?_setTexts hq kept.texts (Folder.fileName authority)
  cases lines? with
  | none => exact htext
  | some lines =>
      refine (text?_record (fun j hj hlocate => ?_) lines).trans htext
      have hfolders := f.folders_setTexts s.folder kept.texts
      exact hspares j q hj hq (Files.locate_eq_ok_of_folders hfolders.symm hlocate)

/-- What has been saved is loaded again from the files that are kept. -/
theorem load_keep (hstore : w.store = .folder kept)
    (hfolders : kept.folders = (f.folderAt s.folder).folders)
    (hroom : kept.room = (f.folderAt s.folder).room) (hq : f.locate s.folder = .ok q)
    (hspares : s.SparesDocument f authority) :
    ((s.keep w f).folderAt s.folder).load authority = kept.load authority := by
  have hkept := folders_keep (s := s) hstore f
  have hq' := Files.locate_eq_ok_of_folders hkept hq
  refine Folder.load_eq ?_ ?_ ?_
  · rw [Files.field?_folderAt hq', text?_keep_document hstore hq hspares]
  · rw [hfolders, Files.folderAt, Files.folderAt, hq, hq']
    exact congrArg (List.filterMap (Place.nameIn? q)) hkept
  · rw [hroom, Files.folderAt, Files.folderAt, hq, hq']

/-- Where no folder is, nothing is loaded. -/
theorem exists_locate_of_load {p : Path} {a : Account} (h : (f.folderAt p).load authority = .ok a) :
    ∃ q, f.locate p = .ok q := by
  cases hq : f.locate p with
  | ok q => exact ⟨q, rfl⟩
  | error e =>
      have hempty : (Store.folder (f.folderAt p)).Holds "" [] := by
        rw [Files.folderAt, hq]
        exact Store.IsEmpty.holds (.inr ⟨_, rfl⟩) ""
      cases hempty.load_eq_ok_iff.1 h

end Setup

/-! ## The threshold -/

theorem Expiry.resolve_of_within {e : Expiry} {d : Int} {unit : ExpiryUnit} {c : Reading}
    {expiresAt? : Option Int} (h : e.within? = some d) (hok : e.resolve unit c = .ok expiresAt?) :
    expiresAt? = some (d + c.current unit) ∧ e.looks = 1 := by
  unfold resolve at hok
  rw [h] at hok
  cases hat : e.at? with
  | some n =>
      rw [hat] at hok
      cases hok
  | none =>
      rw [hat] at hok
      obtain rfl := Except.ok.inj hok
      rw [looks, h, hat]
      exact ⟨congrArg some (Int.add_comm _ _), rfl⟩

namespace Command

open Outcome

inductive Grants (a key : String) (d : Int) : Command → Prop
  | issue {o : IssueOptions} (h : o.expiry.within? = some d) : Grants a key d (.issue a key o)
  | revise {e : Expiry} {preset? : Option Preset} (h : e.within? = some d) :
      Grants a key d (.revise a key e preset?)

/-- The unit in which a command counts: the one it is given for a new key, and else the
key's own. -/
def unitIn? (a : Account) : Command → Option ExpiryUnit
  | .issue _ _ o => some o.unit
  | .revise _ key _ _ => (a.keys.find? key).map SessionKey.unit
  | _ => none

variable {c : Call} {w w₁ w' : World} {cmd : Command} {op : Operation} {a key : String} {d : Int}
  {answer : Answer}

theorem Grants.isChange (h : cmd.Grants a key d) : cmd.isChange := by
  cases h <;> rfl

theorem specOf_of_within {o : IssueOptions} {r : Reading} {spec : KeySpec}
    (h : o.expiry.within? = some d) (hspec : specOf key o r = .ok spec) :
    spec.key = key ∧ spec.unit = o.unit.name ∧ spec.expiresAt = d + r.current o.unit ∧
      o.expiry.looks = 1 := by
  obtain ⟨n, hn, hspec⟩ := bind_eq_ok.1 hspec
  obtain ⟨permissions, -, hspec⟩ := bind_eq_ok.1 hspec
  obtain rfl := Except.ok.inj hspec
  unfold Expiry.required at hn
  split at hn
  next => cases hn
  next => cases hn
  next n' hresolve =>
    obtain rfl := Except.ok.inj hn
    obtain ⟨hsome, hlooks⟩ := Expiry.resolve_of_within h hresolve
    exact ⟨rfl, rfl, Option.some.inj hsome, hlooks⟩

/-- The edit that comes of a command that gives so much time, and what a key has once it fits. A new
key with a label that is too long comes to no edit. -/
theorem Orders.edit_of_grants (h : Orders c w cmd w₁ op) (hcmd : cmd.Grants a key d) :
    (op.edit? = none ∧ ∃ spec, op = .issue a spec) ∨
      ∃ e, op.edit? = some (a, e) ∧ ∀ before, w.store.load a = .ok before → e.Fits w₁.clock before →
        ∃ k, cmd.unitIn? before = some k.unit ∧
          e.onKey w₁.clock key (before.keys.find? key) = some k ∧
          k.expiresAt = d + (c.readings 0).current k.unit ∧
          (c.readings 1).current k.unit < k.expiresAt := by
  cases hcmd with
  | @issue o hwithin =>
      cases h with
      | @issue _ _ _ spec hspec =>
          obtain ⟨rfl, hunit, hexpires, hlooks⟩ := specOf_of_within hwithin hspec
          have hname : ExpiryUnit.ofName spec.unit = .ok o.unit := hunit ▸ o.unit.ofName_name
          cases hlabel : Label.ofText? spec.label with
          | none => exact .inl ⟨by rw [Operation.edit?, hname, hlabel], spec, rfl⟩
          | some label =>
              refine .inr ⟨.issue spec.key spec.expiresAt o.unit spec.permissions label,
                by rw [Operation.edit?, hname, hlabel], ?_⟩
              intro before _ hfits
              rw [hlooks] at hfits
              exact ⟨_, rfl, if_pos rfl, hexpires, hfits.1⟩
  | @revise e preset? hwithin =>
      cases h with
      | revise hat =>
          obtain ⟨k, hk, hresolve⟩ := bind_eq_ok.1 hat
          obtain ⟨b, hb, hget⟩ := bind_eq_ok.1 hk
          obtain ⟨rfl, hlooks⟩ := Expiry.resolve_of_within hwithin hresolve
          refine .inr ⟨_, rfl, ?_⟩
          intro before hload hfits
          obtain rfl : b = before := Except.ok.inj (hb.symm.trans hload)
          have hfind := Registry.get_eq_ok_iff.1 hget
          obtain ⟨l, hl, -, hahead⟩ := hfits
          obtain rfl : k = l := Option.some.inj (hfind.symm.trans hl)
          rw [hlooks] at hahead
          refine ⟨k.revised (some _) (preset?.map Preset.permissions), by rw [unitIn?, hfind]; rfl,
            ?_, rfl, hahead _ rfl⟩
          rw [Edit.onKey, if_pos rfl, hfind, Option.map_some]

/-- What a command that is carried out keeps of the time it gives. -/
theorem Orders.grants (h : Orders c w cmd w₁ op) (hcmd : cmd.Grants a key d)
    (hstep : w₁.step op = (.ok answer, w')) :
    ∃ before after k, w.store.load a = .ok before ∧ cmd.unitIn? before = some k.unit ∧
      w.store.save after = .ok w'.store ∧ w'.store.load before.authority = .ok after ∧
      after.keys.find? key = some k ∧ k.expiresAt = d + (c.readings 0).current k.unit := by
  obtain ⟨hstore, -, -⟩ := h.kept
  rcases h.edit_of_grants hcmd with ⟨hnone, spec, rfl⟩ | ⟨e, he, hkey⟩
  · obtain ⟨f, hf⟩ := World.step_issue_of_edit?_eq_none hnone
    rw [hf] at hstep
    cases hstep
  · obtain ⟨before, after, hload, hfits, hsave, hfound, hkeys⟩ := World.found_step he hstep
    rw [hstore] at hload hsave
    obtain ⟨k, hunit, hk, hexpires, -⟩ := hkey before hload hfits
    exact ⟨before, after, k, hload, hunit, hsave, hfound, (hkeys key).trans hk, hexpires⟩

/-- Time that is none is not given, nor is anything else done: the threshold has been reached at the
second look. -/
theorem Orders.refused_of_grants (h : Orders c w cmd w₁ op) (hcmd : cmd.Grants a key d) (hd : d ≤ 0)
    (hclock : (c.readings 0).Precedes (c.readings 1)) : ∃ f, w₁.step op = (.error f, w₁) := by
  obtain ⟨hstore, -, -⟩ := h.kept
  rcases h.edit_of_grants hcmd with ⟨hnone, spec, rfl⟩ | ⟨e, he, hkey⟩
  · exact World.step_issue_of_edit?_eq_none hnone
  · refine World.step_of_unfit he fun before hload hfits => ?_
    rw [hstore] at hload
    obtain ⟨k, -, -, hexpires, hahead⟩ := hkey before hload hfits
    have hle := hclock.current_le k.unit
    omega

end Command

namespace Call

variable {c : Call} {m : Machine} {args : List String} {s : Setup} {cmd : Command} {a key : String}
  {d : Int} {w : World} {answer : Answer}

theorem run_of_comesTo? (h : c.comesTo? m.files args = some (s, cmd)) :
    run c m args = cmd.perform s c m := by
  rcases c.run_cases m args with ⟨s', cmd', hcall, hrun⟩ | ⟨hnone, -⟩
  · rw [hcall] at h
    obtain ⟨rfl, rfl⟩ := Prod.mk.inj (Option.some.inj h)
    exact hrun
  · rw [hnone] at h
    cases h

theorem not_commits_of_grants (hcmd : cmd.Grants a key d) (hd : d ≤ 0)
    (hclock : (c.readings 0).Precedes (c.readings 1)) (f : Files) (answer : Answer) (w : World) :
    ¬ s.Commits c f cmd answer w := by
  rintro ⟨g, -, w₁, op, horders, hstep⟩
  obtain ⟨e, he⟩ := horders.refused_of_grants hcmd hd hclock
  rw [he] at hstep
  cases hstep

/-- A call that gives a key so much time, whatever is in its folder. If it is carried out, the key
is kept in the account that was found under the authority, with a threshold that is that time and
what the first look at the clock showed for the key's own unit: the unit asked for, if the key is
new, and else the one in which the key was kept before. The account is kept in its document, and
loaded from it again, unless the journal is written over it. The code is zero only if the call is
carried out. And if the time is none and the clock does not go back, the code is one and every text
is as it was.
-/
theorem threshold_counts_from_first_look (hcall : c.comesTo? m.files args = some (s, cmd))
    (hcmd : cmd.Grants a key d) :
    (∀ answer w, s.Commits c m.files cmd answer w →
      let files := (s.prepare m.files).1
      ∃ before after k, (files.folderAt s.folder).load a = .ok before ∧
        cmd.unitIn? before = some k.unit ∧
        w.store.load before.authority = .ok after ∧ after.keys.find? key = some k ∧
        k.expiresAt = d + (c.readings 0).current k.unit ∧
        (s.SparesDocument files before.authority →
          ((run c m args).2.files.folderAt s.folder).load before.authority = .ok after)) ∧
    ((run c m args).1.code = 0 → ∃ answer w, s.Commits c m.files cmd answer w) ∧
    (d ≤ 0 → (c.readings 0).Precedes (c.readings 1) → (run c m args).1.code = 1 ∧
      ∀ x, (run c m args).2.files.text? x = m.files.text? x) := by
  rw [run_of_comesTo? hcall]
  refine ⟨?_, ?_, ?_⟩
  · intro answer w hcommits files
    have hfiles := congrArg Machine.files (Setup.perform_of_commits hcmd.isChange hcommits).1
    obtain ⟨g, hprepare, w₁, op, horders, hstep⟩ := hcommits
    obtain rfl : files = g := congrArg Prod.fst hprepare
    obtain ⟨before, after, k, hload, hunit, hsave, hfound, hfind, hexpires⟩ :=
      horders.grants hcmd hstep
    refine ⟨before, after, k, hload, hunit, hfound, hfind, hexpires, fun hspares => ?_⟩
    obtain ⟨kept, hkept, hstore⟩ := Store.save_folder_eq_ok hsave
    obtain ⟨hfolders, hroom⟩ := Folder.folders_save hkept
    obtain ⟨q, hq⟩ := Setup.exists_locate_of_load hload
    rw [hfiles]
    refine (Setup.load_keep hstore hfolders hroom hq hspares).trans ?_
    rw [hstore] at hfound
    exact hfound
  · intro hcode
    by_contra hnone
    refine (Setup.perform_of_not_commits hcmd.isChange fun answer w hcommits => ?_).1 hcode
    exact hnone ⟨answer, w, hcommits⟩
  · intro hd hclock
    obtain ⟨hcode, htexts⟩ := Setup.perform_of_fails (s := s) (m := m) hcmd.isChange
      (not_commits_of_grants hcmd hd hclock m.files)
    refine ⟨hcode, fun x => htexts x ?_⟩
    intro g w₁ op e w' _ horders hstep
    obtain ⟨hstore, hsink, -⟩ := horders.kept
    obtain ⟨f, hf⟩ := horders.refused_of_grants hcmd hd hclock
    obtain ⟨-, rfl⟩ := Prod.mk.inj (hstep.symm.trans hf)
    exact Setup.text?_keep hstore hsink x

/-- A key of an account that is kept in the tree can be given what the account allows. -/
theorem commits_revise_treeOf (c : Call) {b : Account} {a : Account} {k : SessionKey} {e : Expiry}
    {n : Int} (ha : a.WellFormed) (hwritable : a.toJson.isWritable)
    (hplace : Folder.HasPlace {} a.authority)
    (hk : a.keys.find? key = some k) (he : e.resolve k.unit (c.readings 0) = .ok (some n))
    (hedit : a.edit (c.readings e.looks) (.revise key (some n) none) = .ok b)
    (hb : b.toJson.isWritable) :
    ∃ answer w, plainSetup.Commits c (treeOf a) (.revise a.authority key e none) answer w := by
  let w := plainSetup.world c (c.readings 0) (treeOf a)
  have hload : w.store.load a.authority = .ok a :=
    load_treeOf c (c.readings 0) ha hwritable hplace
  have hauthority : b.authority = a.authority := by
    obtain ⟨-, rfl⟩ := Account.edit_eq_ok_iff.1 hedit
    rfl
  obtain ⟨s', hsave⟩ : ∃ s', w.store.save b = .ok s' :=
    exists_save_treeOf c (c.readings 0) hb hauthority hplace
  have hkey : w.key a.authority key = .ok k := by
    rw [World.key, World.account, hload]
    exact Registry.get_eq_ok_iff.2 hk
  have horders :
      (Command.revise a.authority key e none).Orders c w (w.withClock (c.readings e.looks))
      (.revise a.authority key (some n) none) :=
    .revise (by rw [hkey]; exact he)
  have hop : (Operation.revise a.authority key (some n) none).edit? =
      some (a.authority, .revise key (some n) none) := rfl
  obtain ⟨answer, sink, hstep⟩ :=
    World.step_of_edit (w := w.withClock (c.readings e.looks)) hop hload hedit hsave
  exact ⟨answer, Setup.commits_of_step rfl horders (congrArg Prod.fst hstep)⟩

/-- A key that is measured by height is given sixty: its threshold is then so many steps ahead, and
not so many seconds. A new key that is given no time is not made. -/
theorem threshold_counts_from_first_look_height :
    let c : Call := ⟨[], fun i => ⟨1700000000 + i, 7 + i⟩, ⟨1700000000, 250000⟩⟩
    let held : SessionKey :=
      { identity := "2", createdAt := 0, expiresAt := 9, unit := .blockHeight }
    let m : Machine := { files := treeOf ⟨"1", "p", 255, ⟨Registry.maxKeys, [held]⟩, ⟨[]⟩⟩ }
    let update := ["key", "update", "1", "2", "--expires-in", "60"]
    let create := ["key", "create", "1", "3", "--expires-in", "0", "--block-height"]
    (∃ after k, ((run c m update).2.files.folderAt plainSetup.folder).load "1" = .ok after ∧
      after.keys.find? "2" = some k ∧ k.expiresAt = 67) ∧
    (run c m create).1.code = 1 ∧ ∀ x, (run c m create).2.files.text? x = m.files.text? x := by
  intro c held m update create
  let a : Account := ⟨"1", "p", 255, ⟨Registry.maxKeys, [held]⟩, ⟨[]⟩⟩
  let b : Account := { a with keys := ⟨Registry.maxKeys, [{ held with expiresAt := 67 }]⟩ }
  have hclock : (c.readings 0).Precedes (c.readings 1) := ⟨by decide, by decide⟩
  have hwf : a.WellFormed := ⟨⟨rfl, by decide, by decide, List.forall_mem_singleton.2 rfl⟩,
    Nat.zero_le _, List.nodup_nil⟩
  have hshort : ∀ n ∈ [(0 : Int), 9, 67, 255], Text.Integer.isTooLong n = false :=
    fun n hn => Text.Integer.isTooLong_of_lt (by revert n; decide)
  have hwritable : a.toJson.isWritable = true := Account.isWritable_iff.2
    ⟨hshort 255 (by decide), List.forall_mem_singleton.2
      (SessionKey.isWritable_iff.2 ⟨hshort 0 (by decide), hshort 9 (by decide)⟩)⟩
  have hwritable' : b.toJson.isWritable = true := Account.isWritable_iff.2
    ⟨hshort 255 (by decide), List.forall_mem_singleton.2
      (SessionKey.isWritable_iff.2 ⟨hshort 0 (by decide), hshort 67 (by decide)⟩)⟩
  have hfind : a.keys.find? "2" = some held := by decide
  have hedit : a.edit (c.readings 1) (.revise "2" (some 67) none) = .ok b := rfl
  have hresolve : Expiry.resolve ⟨some 60, none⟩ held.unit (c.readings 0) = .ok (some 67) := rfl
  have hfree : Folder.HasPlace {} "1" := ⟨rfl, rfl⟩
  have hload := load_treeOf c (c.readings 0) hwf hwritable hfree
  obtain ⟨answer, w, hcommits⟩ :=
    commits_revise_treeOf c hwf hwritable hfree hfind hresolve hedit hwritable'
  have hcall : c.comesTo? m.files update =
      some (plainSetup, .revise "1" "2" ⟨some 60, none⟩ none) := rfl
  obtain ⟨hkept, -⟩ := threshold_counts_from_first_look hcall (.revise rfl)
  obtain ⟨before, after, k, hbefore, hunit, -, hfind', hexpires, hagain⟩ := hkept _ _ hcommits
  obtain rfl : a = before := Except.ok.inj (hload.symm.trans hbefore)
  obtain ⟨-, -, hnone⟩ := threshold_counts_from_first_look (c := c) (m := m) (a := "1") (d := 0)
    (show c.comesTo? m.files create = some (plainSetup, _) from rfl) (.issue rfl)
  refine ⟨⟨after, k, hagain nofun, hfind', ?_⟩, hnone (Int.le_refl 0) hclock⟩
  rw [Command.unitIn?, hfind] at hunit
  rw [hexpires, ← Option.some.inj hunit]
  rfl

end Call

end Keyring
