import Keyring.Proofs.Account.Edit
import Keyring.Proofs.Store.Saving

/-!
# What a store holds

A store in memory and a store in a folder are seen alike: as a list of accounts, each under its own
authority. `Holds` says that a store is such a list, that no authority is there twice, and that each
account is sound: at the address derived for its authority, and within its limits. A lookup then
gives what the list gives, and what is written is what is there afterwards.
-/

namespace Keyring

/-- An account that belongs under the authority `x`. -/
structure Account.Sound (program x : String) (a : Account) : Prop where
  authority : a.authority = x
  derived : ∃ d, Derivation.ownerAddress x program = .ok d ∧ a.address = d.address ∧
    a.bump = d.bump
  wellFormed : a.WellFormed

namespace Folder

def written (e : String × Account) : String × String :=
  (fileName e.1, e.2.toJson.render .sheet)

/-- Whether an account has been written, and can be read back. -/
def Fits (f : Folder) (e : String × Account) : Prop :=
  f.isTooLong (fileName e.1) = false ∧ e.2.toJson.isWritable = true

end Folder

namespace Store

def Contents : Store → List (String × Account) → Prop
  | .memory accounts, l => accounts = l
  | .folder f, l => f.folders = [] ∧ f.texts = l.map Folder.written ∧ ∀ e ∈ l, f.Fits e

/-- What a store answers where it holds no account: that there is none, or that the file would have
too long a name. -/
inductive Lacks (s : Store) (x : String) : Fault → Prop
  | absent : Lacks s x (.refusal (.accountNotFound x))
  | unnamed {f : Folder} (hs : s = .folder f) (hlong : f.isTooLong (Folder.fileName x) = true) :
      Lacks s x (.file .nameTooLong)

structure Holds (program : String) (s : Store) (l : List (String × Account)) : Prop where
  contents : s.Contents l
  nodup : (l.map Prod.fst).Nodup
  sound : ∀ e ∈ l, e.2.Sound program e.1

end Store

variable {program x : String} {a : Account} {l : List (String × Account)}

theorem Account.Sound.isPlain (ha : a.Sound program x) : Folder.IsPlain x := by
  obtain ⟨d, hd, -⟩ := ha.derived
  rw [Derivation.ownerAddress, Derivation.decodeIdentity] at hd
  cases hx : Base58.decode x with
  | error e => simp [hx, Except.mapError] at hd
  | ok bs => exact Base58.mem_alphabet_of_decode hx

/-! ## In a folder -/

namespace Folder

variable {f : Folder}

theorem hasFolder_eq_false (hf : f.folders = []) (name : String) : f.hasFolder name = false := by
  simp [hasFolder, hf]

theorem fileName_eq_iff (hl : ∀ e ∈ l, e.2.Sound program e.1) {e : String × Account} (he : e ∈ l)
    (h : fileName e.1 = fileName x) : e.1 = x :=
  (eq_of_fileName_eq (hl e he).isPlain h.symm).symm

theorem field?_written (hl : ∀ e ∈ l, e.2.Sound program e.1) (x : String) :
    field? (fileName x) (l.map written) =
      (field? x l).map fun a => a.toJson.render .sheet :=
  field?_map (w := fun e : String × Account => e.2.toJson.render .sheet)
    fun _ he h => fileName_eq_iff hl he h

theorem has_of_some (h : Store.Holds program (.folder f) l) (hx : field? x l = some a) :
    f.has (fileName x) = .ok true := by
  obtain ⟨⟨hfolders, htexts, hfits⟩, -, hsound⟩ := h
  have hplain := (hsound _ (mem_of_field? hx)).isPlain
  have hlong := (hfits _ (mem_of_field? hx)).1
  have hnames : ∀ c ∈ (fileName x).toList, c ∈ nameChars := fun _ => mem_of_mem_fileName hplain
  rw [has, hasNul_eq_false hnames, isUnencodable_eq_false hnames, if_neg (by decide), hlong,
    if_neg (by decide), htexts, field?_written hsound, hx]
  simp

theorem load_of_some (h : Store.Holds program (.folder f) l) (hx : field? x l = some a) :
    f.load x = .ok a := by
  have hhas := has_of_some h hx
  obtain ⟨⟨hfolders, htexts, hfits⟩, -, hsound⟩ := h
  have hwritable := (hfits _ (mem_of_field? hx)).2
  have hread : f.read? (fileName x) = .ok (some (a.toJson.render .sheet)) := by
    rw [read?, hhas]
    simp only [hasFolder_eq_false hfolders, htexts, field?_written hsound, hx, Option.map_some,
      Json.unifyNewlines_render (s := .sheet) rfl]
    rfl
  rw [load, hread]
  simp only [Json.parse_render (s := .sheet) rfl a.isReadable_toJson hwritable]
  exact Account.ofJson_toJson (hsound _ (mem_of_field? hx)).wellFormed

theorem load_of_none (h : Store.Holds program (.folder f) l) (hx : field? x l = none) :
    ∃ e, f.load x = .error e ∧ Store.Lacks (.folder f) x e := by
  obtain ⟨⟨hfolders, htexts, -⟩, -, hsound⟩ := h
  have hnone : field? (fileName x) f.texts = none := by
    rw [htexts, field?_written hsound, hx, Option.map_none]
  have hread : f.read? (fileName x) = .ok none ∨
      f.isTooLong (fileName x) = true ∧ f.read? (fileName x) = .error (.file .nameTooLong) := by
    rw [read?, has, hasFolder_eq_false hfolders, hnone]
    by_cases hname : (hasNul (fileName x) || isUnencodable (fileName x)) = true
    · simp [hname]
    · cases hlong : f.isTooLong (fileName x) <;> simp [hname]
  rcases hread with hread | ⟨hlong, hread⟩ <;> rw [load, hread]
  · exact ⟨_, rfl, .absent⟩
  · exact ⟨_, rfl, .unnamed rfl hlong⟩

/-- A plain name has its place if its draft is short enough. -/
theorem hasPlace (hf : f.folders = []) (hx : IsPlain x)
    (hlong : f.isTooLong (draftName x) = false) : f.HasPlace x := by
  have hnames : ∀ c ∈ (draftName x).toList, c ∈ nameChars := fun _ => mem_of_mem_draftName hx
  refine ⟨?_, hasFolder_eq_false hf _⟩
  rw [obstacle?, isUnencodable_eq_false hnames, hasNul_eq_false hnames, hlong,
    hasFolder_eq_false hf]
  rfl

theorem isTooLong_fileName (hx : f.isTooLong (draftName x) = false) :
    f.isTooLong (fileName x) = false := by
  have hsize := size_fileName_le x
  rw [isTooLong, decide_eq_false_iff_not] at hx ⊢
  omega

theorem erase_draftName (htexts : f.texts = l.map written) (x : String) :
    f.erase (draftName x) = f := by
  have hfilter : f.texts.filter (fun e => e.1 != draftName x) = f.texts := by
    rw [List.filter_eq_self, htexts]
    intro e he
    obtain ⟨e', -, rfl⟩ := List.mem_map.1 he
    exact bne_iff_ne.2 (Ne.symm (draftName_ne_fileName x e'.1))
  rw [erase, hfilter]

theorem contents_save (h : Store.Holds program (.folder f) l) {f' : Folder}
    (hf : f.save a = .ok f') : Store.Contents (.folder f') (putField a.authority a l) := by
  obtain ⟨⟨hfolders, htexts, hfits⟩, -, hsound⟩ := h
  obtain ⟨hwritable, hplace, rfl⟩ := save_eq_ok_iff.1 hf
  rw [erase_draftName htexts]
  refine ⟨hfolders, ?_, ?_⟩
  · simp only [put, htexts]
    exact putField_map (w := fun e : String × Account => e.2.toJson.render .sheet)
      fun _ he h => fileName_eq_iff hsound he h
  · intro e he
    rcases mem_putField he with rfl | he
    · exact ⟨isTooLong_fileName hplace.isTooLong_draftName, hwritable⟩
    · exact hfits e he

end Folder

/-! ## In either place -/

namespace Store

variable {s s' : Store}

theorem isFlat_memory (l : List (String × Account)) : (memory l).IsFlat := nofun

/-- A folder that holds accounts holds nothing else. -/
theorem Holds.isFlat (h : s.Holds program l) : s.IsFlat := by
  rintro f rfl
  exact h.contents.1

/-- Whether a store holds nothing yet, in memory or in a folder. -/
def IsEmpty (s : Store) : Prop := s = .memory [] ∨ ∃ room, s = .folder { room := room }

theorem IsEmpty.holds (h : s.IsEmpty) (program : String) : s.Holds program [] := by
  rcases h with rfl | ⟨room, rfl⟩
  · exact ⟨rfl, List.nodup_nil, nofun⟩
  · exact ⟨⟨rfl, rfl, nofun⟩, List.nodup_nil, nofun⟩

/-- A name that is longer than any that a folder can hold. -/
theorem load_of_long_name :
    (folder {}).load (String.ofList (List.replicate 300 'a')) = .error (.file .nameTooLong) := by
  have hplain : Folder.IsPlain (String.ofList (List.replicate 300 'a')) := by
    intro c hc
    rw [String.toList_ofList] at hc
    rw [List.eq_of_mem_replicate hc]
    decide
  have hsize : Folder.size (Folder.fileName (String.ofList (List.replicate 300 'a'))) = 305 := by
    rw [Folder.fileName, Folder.stem_of_isPlain hplain, Folder.size_append,
      Folder.size_of_isPlain hplain, String.toList_ofList, List.length_replicate,
      show Folder.size Folder.extension = 5 from rfl]
  have hlong :
      Folder.isTooLong {} (Folder.fileName (String.ofList (List.replicate 300 'a'))) = true := by
    rw [Folder.isTooLong, hsize]
    rfl
  rw [load]
  exact Folder.load_of_isTooLong hplain hlong

/-- An account is saved to a folder if its document can be written, and has its place there. -/
theorem exists_save_folder {f : Folder} (hw : a.toJson.isWritable = true)
    (hplace : f.HasPlace a.authority) : ∃ s', (folder f).save a = .ok s' := by
  rw [save_folder_eq, Folder.save_eq_ok_iff.2 ⟨hw, hplace, rfl⟩]
  exact ⟨_, rfl⟩

theorem Holds.load_of_some (h : s.Holds program l) (hx : field? x l = some a) :
    s.load x = .ok a := by
  cases s with
  | folder f => exact Folder.load_of_some h hx
  | memory accounts =>
      obtain rfl : accounts = l := h.contents
      rw [load, hx]
      exact Account.ofJson_toJson (h.sound _ (mem_of_field? hx)).wellFormed

theorem Holds.load_of_none (h : s.Holds program l) (hx : field? x l = none) :
    ∃ e, s.load x = .error e ∧ s.Lacks x e := by
  cases s with
  | folder f => exact Folder.load_of_none h hx
  | memory accounts =>
      obtain rfl : accounts = l := h.contents
      rw [load, hx]
      exact ⟨_, rfl, .absent⟩

/-- An account that is not held is the only reason for a load to fail. -/
theorem Holds.lacks_of_load (h : s.Holds program l) {e : Fault} (he : s.load x = .error e) :
    s.Lacks x e := by
  cases hx : field? x l with
  | none =>
      obtain ⟨e', he', hlacks⟩ := h.load_of_none hx
      obtain rfl := Except.error.inj (he.symm.trans he')
      exact hlacks
  | some a =>
      rw [h.load_of_some hx] at he
      cases he

theorem Holds.load_eq_ok_iff (h : s.Holds program l) : s.load x = .ok a ↔ field? x l = some a := by
  cases hx : field? x l with
  | none =>
      obtain ⟨e, he, -⟩ := h.load_of_none hx
      simp [he]
  | some b => simp [h.load_of_some hx]

theorem Holds.contains_of_some (h : s.Holds program l) (hx : field? x l = some a) :
    s.contains x = .ok true := by
  cases s with
  | folder f => exact Folder.has_of_some h hx
  | memory accounts =>
      obtain rfl : accounts = l := h.contents
      rw [contains, hx]
      rfl

/-- What is written is held afterwards, in the place of what was there under its authority. -/
theorem Holds.save (h : s.Holds program l) (ha : a.Sound program x) (hs : s.save a = .ok s') :
    s'.Holds program (putField x a l) := by
  have hcontents : s'.Contents (putField x a l) := by
    rw [← ha.authority]
    cases s with
    | folder f =>
        rw [save_folder_eq, Outcome.map_eq_ok] at hs
        obtain ⟨f', hf, rfl⟩ := hs
        exact Folder.contents_save h hf
    | memory accounts =>
        obtain rfl : accounts = l := h.contents
        rw [save_memory_eq, Account.ofJson_toJson ha.wellFormed] at hs
        obtain rfl := Except.ok.inj hs
        rfl
  refine ⟨hcontents, nodup_putField h.nodup x a, ?_⟩
  intro e he
  rcases mem_putField he with rfl | he
  · exact ha
  · exact h.sound e he

/-- An account is created only where none is. -/
theorem Holds.create (h : s.Holds program l) (ha : a.Sound program x)
    (hs : s.create a = .ok s') :
    field? x l = none ∧ s'.Holds program (l ++ [(x, a)]) := by
  rw [create_eq, ha.authority] at hs
  have hnone : field? x l = none := by
    cases hx : field? x l with
    | none => rfl
    | some b => simp [h.contains_of_some hx] at hs
  refine ⟨hnone, ?_⟩
  split at hs
  next => cases hs
  next => cases hs
  next =>
    rw [← putField_of_not_mem (field?_eq_none_iff.1 hnone)]
    exact h.save ha hs

end Store

end Keyring
