import Keyring.Proofs.Store.Apart

/-!
# What has been saved

A store to which accounts have been saved, one after the other, has one place for each name by which
it tells authorities apart: the authority itself in memory, its stem in a folder. In each place is
the account that was saved there last, and nothing else is found. So a folder is to its accounts
what memory is, as long as their authorities are their own stems. Two authorities of one stem share
a document, and either of them is answered with the account of the other.
-/

namespace Keyring

open Outcome

variable {s s' s₀ : Store} {as : List Account} {a : Account} {x y : String} {ps : List String}

namespace Store

def showing : Store → String → String
  | .memory _, p => p
  | .folder _, p => Folder.shown p

/-- A store and what it becomes when accounts are saved to it, one after the other. Saves that fail
do not count, since they leave the store as it is. -/
inductive Saves (s₀ : Store) : List Account → Store → Prop
  | nothing : Saves s₀ [] s₀
  | save {as : List Account} {a : Account} {s s' : Store} (h : Saves s₀ as s)
      (hs : s.save a = .ok s') : Saves s₀ (as ++ [a]) s'

def lastIn? (s : Store) (x : String) (as : List Account) : Option Account :=
  latest? (fun a => if s.place a.authority = s.place x then some a else none) as

theorem lastIn?_append (s : Store) (x : String) (as : List Account) (a : Account) :
    s.lastIn? x (as ++ [a]) =
      if s.place a.authority = s.place x then some a else s.lastIn? x as := by
  rw [lastIn?, latest?_append]
  split
  next => rfl
  next => rfl

theorem mem_of_lastIn? (h : s.lastIn? x as = some a) :
    a ∈ as ∧ s.place a.authority = s.place x := by
  have hmem := List.mem_of_getLast? h
  obtain ⟨b, hb, hba⟩ := List.mem_filterMap.1 hmem
  split at hba
  next hplace =>
    obtain rfl := Option.some.inj hba
    exact ⟨hb, hplace⟩
  next => cases hba

/-! ## One save -/

theorem place_save (hs : s.save a = .ok s') : s'.place = s.place ∧ s'.showing = s.showing := by
  cases s with
  | memory l =>
      obtain ⟨kept, -, rfl⟩ := save_memory_eq_ok hs
      exact ⟨rfl, rfl⟩
  | folder f =>
      obtain ⟨f', -, rfl⟩ := save_folder_eq_ok hs
      exact ⟨rfl, rfl⟩

theorem untouched (hs : s.save a = .ok s' ∨ s.create a = .ok s')
    (hy : s.place a.authority ≠ s.place y) :
    s'.contains y = s.contains y ∧ s'.load y = s.load y := by
  have hsame := sameAt_save_of_place (hs.elim id save_of_create) hy
  exact ⟨hsame.contains_eq, hsame.load_eq⟩

/-- In that place, the account is found that its document is read as. -/
theorem found_save (hs : s.save a = .ok s') (hx : s.place a.authority = s.place x) :
    s'.contains x = .ok true ∧ s'.load x = Account.ofJson a.toJson := by
  cases s with
  | memory l =>
      obtain ⟨kept, hkept, rfl⟩ := save_memory_eq_ok hs
      obtain rfl : a.authority = x := hx
      rw [contains, load, field?_putField, if_pos rfl, hkept]
      exact ⟨rfl, Account.ofJson_toJson (Account.wellFormed_of_ofJson hkept)⟩
  | folder f =>
      obtain ⟨f', hf, rfl⟩ := save_folder_eq_ok hs
      have hname : Folder.fileName x = Folder.fileName a.authority :=
        Folder.fileName_eq_iff_stem_eq.2 hx.symm
      exact ⟨(Folder.has_of_save hf hname).1, Folder.load_of_save hf hname⟩

/-- An account within its limits is found there as it was saved. -/
theorem load_save (ha : a.WellFormed) (hs : s.save a = .ok s') : s'.load a.authority = .ok a :=
  (found_save hs rfl).2.trans (Account.ofJson_toJson ha)

theorem wellFormed_of_load (h : s.load x = .ok a) : a.WellFormed := by
  cases s with
  | memory l =>
      rw [load] at h
      split at h
      next => cases h
      next => exact Account.wellFormed_of_ofJson h
  | folder f =>
      rw [load, Folder.load] at h
      split at h
      next => cases h
      next => cases h
      next =>
        split at h
        next => cases h
        next => exact Account.wellFormed_of_ofJson h

theorem SameAt.lacks {e : Fault} (h : s.SameAt x s') (he : s.Lacks x e) : s'.Lacks x e := by
  cases he with
  | absent => exact .absent
  | unnamed hs hlong =>
      cases h with
      | memory h => cases hs
      | folder htexts hfolders hroom =>
          obtain rfl := Store.folder.inj hs
          refine .unnamed rfl ?_
          rw [Folder.isTooLong, hroom]
          exact hlong

/-! ## All saves -/

def names : Store → List String
  | .memory l => l.map Prod.fst
  | .folder f => f.texts.map Prod.fst

/-- The name under which a store keeps what is in a place. -/
def named : Store → String → String
  | .memory _, p => p
  | .folder _, p => p ++ Folder.extension

/-- The places in which accounts have been saved, each at its first time. -/
def places (s : Store) (as : List Account) : List String :=
  (as.map fun a => s.place a.authority).eraseDups

/-- Whether a store holds what has been saved to it and nothing else. -/
structure Keeps (s : Store) (as : List Account) : Prop where
  found : ∀ x a, s.lastIn? x as = some a →
    s.contains x = .ok true ∧ s.load x = Account.ofJson a.toJson
  lacks : ∀ x, s.lastIn? x as = none →
    s.contains x ≠ .ok true ∧ ∃ e, s.load x = .error e ∧ s.Lacks x e
  names : s.names = (s.places as).map s.named
  /-- There are no folders in a folder. -/
  plain : ∀ f, s = .folder f → f.folders = []

theorem eraseDups_singleton (p : String) : [p].eraseDups = [p] := by
  rw [List.eraseDups_cons]
  rfl

theorem eraseDups_append_singleton (ps : List String) (p : String) :
    (ps ++ [p]).eraseDups =
      if p ∈ ps.eraseDups then ps.eraseDups else ps.eraseDups ++ [p] := by
  rw [List.eraseDups_append, List.removeAll]
  by_cases hp : p ∈ ps
  · simp [hp]
  · simp [hp, eraseDups_singleton]

theorem places_append (s : Store) (as : List Account) (a : Account) :
    s.places (as ++ [a]) = if s.place a.authority ∈ s.places as then s.places as
      else s.places as ++ [s.place a.authority] := by
  rw [places, List.map_append]
  exact eraseDups_append_singleton _ _

/-- A draft has no name of a document, so that none goes when a draft does. -/
theorem names_save (hs : s.save a = .ok s') (hnames : s.names = ps.map s.named) :
    s'.names =
      (if s.place a.authority ∈ ps then ps else ps ++ [s.place a.authority]).map s'.named := by
  cases s with
  | memory l =>
      obtain ⟨kept, -, rfl⟩ := save_memory_eq_ok hs
      exact map_fst_putField_map (g := id) (fun _ _ h => h) hnames a.authority kept
  | folder f =>
      obtain ⟨f', hf, rfl⟩ := save_folder_eq_ok hs
      have hnames : f.texts.map Prod.fst = ps.map (· ++ Folder.extension) := hnames
      have hdrafts : f.texts.filter (fun e => e.1 != Folder.draftName a.authority) = f.texts := by
        rw [List.filter_eq_self]
        intro e he
        obtain ⟨p, -, hp⟩ := List.mem_map.1 (hnames ▸ List.mem_map_of_mem (f := Prod.fst) he)
        exact bne_iff_ne.2 fun h => Folder.draftName_ne_append a.authority p (h.symm.trans hp.symm)
      have htexts := Folder.texts_save hf
      rw [hdrafts] at htexts
      have hinj (p q : String) (h : p ++ Folder.extension = q ++ Folder.extension) : p = q := by
        rw [← String.toList_inj, String.toList_append, String.toList_append,
          List.append_left_inj] at h
        exact String.toList_inj.1 h
      change f'.texts.map Prod.fst = _
      rw [htexts]
      exact map_fst_putField_map hinj hnames _ _

theorem Keeps.save (h : s.Keeps as) (hs : s.save a = .ok s') : s'.Keeps (as ++ [a]) := by
  obtain ⟨hplace, -⟩ := place_save hs
  have hlast (x : String) : s'.lastIn? x (as ++ [a]) =
      if s.place a.authority = s.place x then some a else s.lastIn? x as := by
    rw [lastIn?_append, hplace, lastIn?, lastIn?, hplace]
  refine ⟨?_, ?_, ?_, ?_⟩
  · intro x b hb
    rw [hlast] at hb
    split at hb
    next hx =>
      obtain rfl := Option.some.inj hb
      exact found_save hs hx
    next hx =>
      have hsame := sameAt_save_of_place hs hx
      rw [hsame.contains_eq, hsame.load_eq]
      exact h.found x b hb
  · intro x hx
    rw [hlast] at hx
    split at hx
    next => cases hx
    next hne =>
      have hsame := sameAt_save_of_place hs hne
      rw [hsame.contains_eq, hsame.load_eq]
      obtain ⟨hcontains, e, he, hlacks⟩ := h.lacks x hx
      exact ⟨hcontains, e, he, hsame.lacks hlacks⟩
  · rw [places_append, hplace, places, hplace]
    exact names_save hs h.names
  · rintro f' rfl
    cases s with
    | memory l =>
        obtain ⟨kept, -, hs'⟩ := save_memory_eq_ok hs
        cases hs'
    | folder f =>
        obtain ⟨g, hf, hg⟩ := save_folder_eq_ok hs
        obtain rfl := Store.folder.inj hg
        rw [(Folder.folders_save hf).1]
        exact h.plain f rfl

theorem IsEmpty.contains_ne (h : s.IsEmpty) (x : String) : s.contains x ≠ .ok true := by
  rcases h with rfl | ⟨room, rfl⟩
  · simp [contains, field?]
  · rw [contains, Folder.contains, Folder.has]
    split
    next => simp
    next =>
      split
      next => simp
      next => simp [Folder.hasFolder, field?]

theorem IsEmpty.keeps (h : s.IsEmpty) : s.Keeps [] := by
  refine ⟨?_, fun x _ => ⟨h.contains_ne x, (h.holds "").load_of_none rfl⟩, ?_, ?_⟩
  · intro x a hlast
    cases hlast
  · rcases h with rfl | ⟨room, rfl⟩ <;> rfl
  · rintro f rfl
    rcases h with h | ⟨room, h⟩
    · cases h
    · rw [Store.folder.inj h]

theorem Saves.keeps (h₀ : s₀.IsEmpty) (h : Saves s₀ as s) : s.Keeps as := by
  induction h with
  | nothing => exact h₀.keeps
  | save h hs ih => exact ih.save hs

theorem Saves.place_eq (h : Saves s₀ as s) :
    s.place = s₀.place ∧ s.showing = s₀.showing := by
  induction h with
  | nothing => exact ⟨rfl, rfl⟩
  | save h hs ih =>
      obtain ⟨hplace, hshowing⟩ := place_save hs
      exact ⟨hplace.trans ih.1, hshowing.trans ih.2⟩

/-- What is found has the authority of an account that has been saved in its place. -/
theorem Keeps.authority_of_load {b : Account} (h : s.Keeps as) (hb : s.load x = .ok b) :
    ∃ a ∈ as, s.place a.authority = s.place x ∧ b.authority = a.authority := by
  cases hlast : s.lastIn? x as with
  | none =>
      obtain ⟨-, e, he, -⟩ := h.lacks x hlast
      rw [he] at hb
      cases hb
  | some a =>
      obtain ⟨hmem, hplace⟩ := mem_of_lastIn? hlast
      rw [(h.found x a hlast).2] at hb
      exact ⟨a, hmem, hplace, Account.authority_of_ofJson hb⟩

/-- What has been saved is listed by its places, in order. -/
theorem Keeps.authorities_eq (h : s.Keeps as) :
    s.authorities = sorted ((s.places as).map s.showing) := by
  have hnames := h.names
  cases s with
  | memory l => exact congrArg sorted hnames
  | folder f =>
      have hnames : f.texts.map Prod.fst = _ := hnames
      rw [authorities, h.plain f rfl, List.append_nil]
      change sorted ((f.texts.map Prod.fst).filterMap Folder.stem?) = _
      rw [hnames, List.filterMap_map]
      congr 1
      rw [← List.filterMap_eq_map]
      congr 1
      funext p
      exact Folder.stem?_append p

end Store

/-! ## Authorities that are their own stems -/

namespace Folder

/-- Whether an authority is kept under its own name. -/
def IsWhole (x : String) : Prop := x ≠ "" ∧ '/' ∉ x.toList ∧ '\\' ∉ x.toList

theorem IsWhole.stem_eq (h : IsWhole x) : stem x = x := by
  rw [← String.toList_inj, toList_stem]
  apply map_safeChar
  intro c hc
  have hslash : c ≠ '/' := fun heq => h.2.1 (heq ▸ hc)
  have hback : c ≠ '\\' := fun heq => h.2.2 (heq ▸ hc)
  simp [safeChar, hslash, hback]

/-- Whole authorities are shown as they are. -/
theorem shown_stems (h : ∀ a ∈ as, IsWhole a.authority) :
    (as.map fun a => stem a.authority).eraseDups.map shown =
      (as.map Account.authority).eraseDups := by
  have hstems : (as.map fun a => stem a.authority) = as.map Account.authority :=
    List.map_congr_left fun a ha => (h a ha).stem_eq
  rw [hstems]
  refine (List.map_congr_left ?_).trans (List.map_id' _)
  intro x hx
  obtain ⟨a, ha, rfl⟩ := List.mem_map.1 (List.mem_eraseDups.1 hx)
  exact shown_of_ne (h a ha).1

end Folder

namespace Store

/-- What a new folder keeps of the accounts that are saved to it. To save or create an account
touches nothing that is asked about an authority of another stem. Under an authority is found the
account that was saved last under one of its stem, read back from its document, and nothing if there
is none. The stems are what is listed, each once and in order, an empty one as an extension.

Authorities that are not empty and have no slash of either kind are their own stems: no two of them
share a document, what is found under one is its own account, and if all are such they are listed as
a store in memory lists them. Two others may have one stem, and then share one document.
-/
theorem one_document_per_stem {room : Nat} (h : Saves (.folder { room }) as s) :
    (∀ a s', s.save a = .ok s' ∨ s.create a = .ok s' →
      ∀ y, Folder.stem a.authority ≠ Folder.stem y →
        s'.contains y = s.contains y ∧ s'.load y = s.load y) ∧
    (∀ x, match latest? (fun a =>
        if Folder.stem a.authority = Folder.stem x then some a else none) as with
      | some a => s.contains x = .ok true ∧ s.load x = Account.ofJson a.toJson
      | none => s.contains x ≠ .ok true ∧ ∃ e, s.load x = .error e ∧ s.Lacks x e) ∧
    s.authorities =
      sorted ((as.map fun a => Folder.stem a.authority).eraseDups.map Folder.shown) ∧
    (∀ x y, Folder.IsWhole x → Folder.IsWhole y → x ≠ y → Folder.stem x ≠ Folder.stem y) ∧
    ((∀ a ∈ as, Folder.IsWhole a.authority) →
      (∀ x b, Folder.IsWhole x → s.load x = .ok b → b.authority = x) ∧
      s.authorities = sorted (as.map Account.authority).eraseDups ∧
      ∀ m, Saves (.memory []) as m → s.authorities = m.authorities) := by
  have hkeeps := h.keeps (.inr ⟨room, rfl⟩)
  obtain ⟨hplace, hshowing⟩ := h.place_eq
  have hplaces : s.places as = (as.map fun a => Folder.stem a.authority).eraseDups := by
    rw [places, hplace]
    rfl
  have hlisted := hkeeps.authorities_eq
  have hapart (x y : String) (hx : Folder.IsWhole x) (hy : Folder.IsWhole y) (hxy : x ≠ y) :
      Folder.stem x ≠ Folder.stem y := by
    rw [hx.stem_eq, hy.stem_eq]
    exact hxy
  refine ⟨?_, ?_, ?_, hapart, ?_⟩
  · intro a s' hs y hy
    refine untouched hs ?_
    rw [hplace]
    exact hy
  · intro x
    have hlast : s.lastIn? x as =
        latest? (fun a => if Folder.stem a.authority = Folder.stem x then some a else none) as := by
      rw [lastIn?, hplace]
      rfl
    rw [← hlast]
    cases h : s.lastIn? x as with
    | some a => exact hkeeps.found x a h
    | none => exact hkeeps.lacks x h
  · rw [hlisted, hplaces, hshowing]
    rfl
  · intro hwhole
    have hown : s.authorities = sorted (as.map Account.authority).eraseDups := by
      rw [hlisted, places, hplace, hshowing]
      exact congrArg sorted (Folder.shown_stems hwhole)
    refine ⟨?_, hown, ?_⟩
    · intro x b hx hb
      obtain ⟨a, ha, hstem, hauthority⟩ := hkeeps.authority_of_load hb
      rw [hplace] at hstem
      by_contra hne
      exact hapart a.authority x (hwhole a ha) hx (hauthority ▸ hne) hstem
    · intro m hm
      obtain ⟨hplace', hshowing'⟩ := hm.place_eq
      rw [hown, (hm.keeps (.inl rfl)).authorities_eq, places, hplace', hshowing']
      exact congrArg sorted (List.map_id _).symm

/-- An account without keys can be saved where nothing keeps its name from being written. -/
theorem exists_save_blank
    (h : ({} : Folder).HasPlace x) :
    ∃ s, (Store.folder {}).save { authority := x, address := "p", bump := 255 } = .ok s := by
  have hbump : Text.Integer.isTooLong 255 = false := Text.Integer.isTooLong_of_lt (by decide)
  refine exists_save_folder (Account.isWritable_iff.2 ⟨hbump, ?_⟩) h
  exact fun _ hk => absurd hk List.not_mem_nil

/-- An account of a whole authority is found and listed, and is not found under another one. -/
theorem one_document_per_stem_whole :
    let a : Account := { authority := "a", address := "p", bump := 255 }
    ∃ s, Saves (.folder {}) [a] s ∧ Folder.IsWhole a.authority ∧ s.load "a" = .ok a ∧
      s.contains "b" ≠ .ok true ∧ s.authorities = ["a"] := by
  intro a
  have hwell : a.WellFormed := ⟨Registry.wellFormed_empty, Nat.zero_le _, List.nodup_nil⟩
  obtain ⟨s, hs⟩ := exists_save_blank (x := "a") ⟨rfl, rfl⟩
  have hsaves : Saves (.folder {}) [a] s := .save .nothing hs
  have hwhole : Folder.IsWhole a.authority := ⟨by decide, by decide, by decide⟩
  obtain ⟨-, hfound, -, -, hown⟩ := one_document_per_stem hsaves
  have hfirst : Folder.stem a.authority = Folder.stem "a" := rfl
  have hsecond : Folder.stem a.authority ≠ Folder.stem "b" := by decide
  have ha := hfound "a"
  have hb := hfound "b"
  simp only [latest?, List.filterMap_cons, List.filterMap_nil, if_pos hfirst] at ha
  simp only [latest?, List.filterMap_cons, List.filterMap_nil, if_neg hsecond] at hb
  obtain ⟨-, hlisted, -⟩ := hown fun b hb => List.mem_singleton.1 hb ▸ hwhole
  exact ⟨s, hsaves, hwhole, ha.2.trans (Account.ofJson_toJson hwell), hb.1,
    hlisted.trans (List.mergeSort_singleton ..)⟩

/-- The account of one authority is found under another, which has the same stem and has never been
saved, is listed by that name, and keeps the other from being created. -/
theorem one_document_for_two :
    let a : Account := { authority := "a/b", address := "p", bump := 255 }
    ∃ s, (Store.folder {}).save a = .ok s ∧ (Store.folder {}).contains "a_b" = .ok false ∧
      s.contains "a_b" = .ok true ∧ s.load "a_b" = .ok a ∧ s.authorities = ["a_b"] ∧
      ∀ b : Account, b.authority = "a_b" →
        s.create b = .error (.refusal (.accountExists "a_b")) := by
  intro a
  have hwell : a.WellFormed := ⟨Registry.wellFormed_empty, Nat.zero_le _, List.nodup_nil⟩
  obtain ⟨s, hs⟩ := exists_save_blank (x := "a/b") ⟨rfl, rfl⟩
  have hsaves : Saves (.folder {}) [a] s := .save .nothing hs
  have hstems : Folder.stem a.authority = Folder.stem "a_b" := by decide
  obtain ⟨hcontains, hload⟩ := found_save hs hstems
  have hlisted := (hsaves.keeps (.inr ⟨_, rfl⟩)).authorities_eq
  rw [places, hsaves.place_eq.1, hsaves.place_eq.2, List.map_singleton, eraseDups_singleton,
    sorted, List.map_singleton, List.mergeSort_singleton] at hlisted
  have hshown : Folder.shown (Folder.stem "a/b") = "a_b" := by decide
  have hauthorities : s.authorities = ["a_b"] := hlisted.trans (congrArg (fun p => [p]) hshown)
  refine ⟨s, hs, rfl, hcontains, hload.trans (Account.ofJson_toJson hwell), hauthorities, ?_⟩
  intro b hb
  rw [create_eq, hb, hcontains]

end Store

end Keyring
