import Keyring.Proofs.Base58
import Keyring.Store

/-!
# Names of files

An authority that is an identity in base 58 keeps its account under a name of its own: no other
authority, of whatever characters, is kept under the same name, and no draft bears the name of a
document. Such names can always be written, and the authority is read off the name of its document.
-/

namespace Keyring

namespace Folder

open Base58 (alphabet)

def IsPlain (authority : String) : Prop := ∀ c ∈ authority.toList, c ∈ alphabet

theorem safeChar_eq_of_mem {c : Char} (h : safeChar c ∈ alphabet) : safeChar c = c := by
  rw [safeChar] at h ⊢
  split at h
  next => exact absurd h (by decide)
  next hc => rw [if_neg hc]

theorem safeChar_of_mem {c : Char} (h : c ∈ alphabet) : safeChar c = c := by
  have hall : (alphabet.all fun c => safeChar c == c) = true := by decide
  exact eq_of_beq (List.all_eq_true.1 hall c h)

theorem toList_stem (x : String) : (stem x).toList = x.toList.map safeChar := by
  rw [stem, String.toList_ofList]

theorem map_safeChar {cs : List Char} (h : ∀ c ∈ cs, safeChar c = c) : cs.map safeChar = cs :=
  (List.map_congr_left h).trans (List.map_id' cs)

theorem stem_of_isPlain {x : String} (hx : IsPlain x) : stem x = x := by
  rw [← String.toList_inj, toList_stem]
  exact map_safeChar fun c hc => safeChar_of_mem (hx c hc)

theorem eq_of_stem_eq {x y : String} (hx : IsPlain x) (h : stem y = x) : y = x := by
  have hy : y.toList.map safeChar = x.toList := by rw [← toList_stem, h]
  have hmem : ∀ c ∈ y.toList, safeChar c = c := fun c hc =>
    safeChar_eq_of_mem (hx _ (hy ▸ List.mem_map_of_mem hc))
  rw [← String.toList_inj, ← hy, map_safeChar hmem]

theorem toList_fileName (x : String) :
    (fileName x).toList = (stem x).toList ++ extension.toList := by
  rw [fileName, String.toList_append]

theorem fileName_eq_iff_stem_eq {x y : String} : fileName x = fileName y ↔ stem x = stem y := by
  rw [fileName, fileName, ← String.toList_inj, String.toList_append, String.toList_append,
    List.append_left_inj, String.toList_inj]

/-- The name of a plain authority is that of no other authority. -/
theorem eq_of_fileName_eq {x y : String} (hx : IsPlain x) (h : fileName y = fileName x) :
    y = x := by
  have hstems := fileName_eq_iff_stem_eq.1 h
  rw [stem_of_isPlain hx] at hstems
  exact eq_of_stem_eq hx hstems

theorem draftName_ne_append (x p : String) : draftName x ≠ p ++ extension := by
  intro h
  have hlast := congrArg (fun s : String => s.toList.getLast?) h
  simp [draftName, extension, String.toList_append] at hlast

theorem draftName_ne_fileName (x y : String) : draftName x ≠ fileName y :=
  draftName_ne_append x (stem y)

theorem mem_draftName_of_mem_fileName {x : String} {c : Char} (hc : c ∈ (fileName x).toList) :
    c ∈ (draftName x).toList := by
  rw [draftName, String.toList_append, List.mem_append]
  rw [toList_fileName, List.mem_append] at hc
  rw [String.toList_append, List.mem_append]
  rcases hc with hc | hc
  · split
    next hempty => rw [String.isEmpty_iff.1 hempty] at hc; cases hc
    next => exact .inl (.inl hc)
  · exact .inl (.inr hc)

/-! ## Names that can be written -/

/-- The characters of the names under which plain authorities are kept, and their drafts. -/
def nameChars : List Char := alphabet ++ (extension.toList ++ ".tmp".toList)

theorem mem_of_mem_stem {x : String} (hx : IsPlain x) {c : Char} (hc : c ∈ (stem x).toList) :
    c ∈ nameChars := by
  rw [stem_of_isPlain hx] at hc
  exact List.mem_append_left _ (hx c hc)

theorem mem_of_mem_fileName {x : String} (hx : IsPlain x) {c : Char}
    (hc : c ∈ (fileName x).toList) : c ∈ nameChars := by
  rw [toList_fileName, List.mem_append] at hc
  rcases hc with hc | hc
  · exact mem_of_mem_stem hx hc
  · exact List.mem_append_right _ (List.mem_append_left _ hc)

theorem mem_of_mem_draftName {x : String} (hx : IsPlain x) {c : Char}
    (hc : c ∈ (draftName x).toList) : c ∈ nameChars := by
  rw [draftName, String.toList_append, String.toList_append, List.append_assoc,
    List.mem_append] at hc
  rcases hc with hc | hc
  · split at hc
    · exact List.mem_append_right _ (List.mem_append_left _ hc)
    · exact mem_of_mem_stem hx hc
  · exact List.mem_append_right _ hc

theorem hasNul_eq_false {name : String} (h : ∀ c ∈ name.toList, c ∈ nameChars) :
    hasNul name = false := by
  have hall : '\x00' ∉ nameChars := by decide
  rw [hasNul, Bool.eq_false_iff]
  exact fun hnul => hall (h _ (List.contains_iff_mem.1 hnul))

theorem isUnencodable_eq_false {name : String} (h : ∀ c ∈ name.toList, c ∈ nameChars) :
    isUnencodable name = false := by
  have hall : nameChars.any FileError.keepsFromEncoding = false := by decide
  rw [isUnencodable, List.any_eq_false]
  exact fun c hc => List.any_eq_false.1 hall c (h c hc)

theorem size_append (s t : String) : size (s ++ t) = size s + size t := by
  have hfold : ∀ (cs : List Char) (n : Nat),
      cs.foldl (fun n c => n + if Text.Surrogate.isByte c then 1 else c.utf8Size) n =
        n + cs.foldl (fun n c => n + if Text.Surrogate.isByte c then 1 else c.utf8Size) 0 := by
    intro cs
    induction cs with
    | nil => simp
    | cons c cs ih =>
        intro n
        rw [List.foldl_cons, List.foldl_cons, ih, ih (0 + _)]
        omega
  rw [size, size, size, String.toList_append, List.foldl_append, hfold]

/-- A document has room where its draft has. -/
theorem size_fileName_le (x : String) : size (fileName x) ≤ size (draftName x) := by
  rw [fileName, draftName]
  split
  next h =>
    have hempty : size "" = 0 := rfl
    rw [String.isEmpty_iff.1 h, size_append, size_append, size_append, hempty]
    omega
  next =>
    rw [size_append _ ".tmp"]
    omega

theorem size_of_isPlain {x : String} (hx : IsPlain x) : size x = x.toList.length := by
  have hall : (alphabet.all fun c =>
      (if Text.Surrogate.isByte c then 1 else c.utf8Size) == 1) = true := by decide
  have hone : ∀ c ∈ alphabet, (if Text.Surrogate.isByte c then 1 else c.utf8Size) = 1 :=
    fun c hc => eq_of_beq (List.all_eq_true.1 hall c hc)
  have hfold : ∀ (cs : List Char) (n : Nat), (∀ c ∈ cs, c ∈ alphabet) →
      cs.foldl (fun n c => n + if Text.Surrogate.isByte c then 1 else c.utf8Size) n =
        n + cs.length := by
    intro cs
    induction cs with
    | nil => simp
    | cons c cs ih =>
        intro n hcs
        rw [List.foldl_cons, hone c (hcs c List.mem_cons_self),
          ih _ fun d hd => hcs d (List.mem_cons_of_mem c hd), List.length_cons]
        omega
  rw [size, hfold _ 0 hx, Nat.zero_add]

/-- The draft of a plain authority takes a few bytes more than the authority has characters. -/
theorem size_draftName_le {x : String} (hx : IsPlain x) :
    size (draftName x) ≤ x.toList.length + 14 := by
  have hjson : size extension = 5 := rfl
  have htmp : size ".tmp" = 4 := rfl
  rw [draftName, size_append, size_append, stem_of_isPlain hx]
  split
  · omega
  · rw [size_of_isPlain hx]
    omega

theorem load_of_isTooLong {f : Folder} {x : String} (hx : IsPlain x)
    (hlong : f.isTooLong (fileName x) = true) : f.load x = .error (.file .nameTooLong) := by
  have hchars : ∀ c ∈ (fileName x).toList, c ∈ nameChars := fun _ => mem_of_mem_fileName hx
  rw [load, read?, has, hasNul_eq_false hchars, isUnencodable_eq_false hchars, hlong]
  rfl

/-! ## Stems -/

/-- How a stem is shown: a name that is an extension alone is its own stem. -/
def shown (stem : String) : String := if stem.isEmpty then extension else stem

theorem stem?_append (x : String) : stem? (x ++ extension) = some (shown x) := by
  have hchars : (x ++ extension).toList = x.toList ++ extension.toList := String.toList_append
  have hsuffix : extension.toList.isSuffixOf (x ++ extension).toList = true := by
    rw [List.isSuffixOf_iff_suffix, hchars]
    exact List.suffix_append _ _
  have htake : (x ++ extension).toList.take ((x ++ extension).length - extension.length) =
      x.toList := by
    rw [← String.length_toList, hchars, List.length_append, ← String.length_toList,
      Nat.add_sub_cancel, List.take_left']
    rfl
  rw [stem?, if_pos hsuffix, htake, shown]
  by_cases hx : x = ""
  · subst hx
    rfl
  · have hcons : x.toList.isEmpty = false := by
      rw [List.isEmpty_eq_false_iff]
      exact fun hnil => hx (String.toList_inj.1 hnil)
    have hempty : x.isEmpty = false := Bool.eq_false_iff.2 fun h => hx (String.isEmpty_iff.1 h)
    simp only [hcons, hempty, Bool.false_eq_true, if_false, String.ofList_toList]

theorem shown_of_ne {x : String} (hx : x ≠ "") : shown x = x := by
  rw [shown, if_neg fun h => hx (String.isEmpty_iff.1 h)]

/-- A plain authority is read off the name of its document. -/
theorem stem?_fileName {x : String} (hx : IsPlain x) (hne : x ≠ "") :
    stem? (fileName x) = some x := by
  rw [fileName, stem?_append, stem_of_isPlain hx, shown_of_ne hne]

end Folder

end Keyring
