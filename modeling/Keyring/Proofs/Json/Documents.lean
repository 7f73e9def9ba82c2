import Keyring.Proofs.Json.Written
import Keyring.Proofs.Table

/-!
# Written documents, read back

A document that is written in ASCII, on one line or on many, is read as itself. It must hold no
number with a fraction, give each field of an object a name of its own, hold no integer that is too
long to be written, and nest its brackets no deeper than the reader goes.

`Reads` says of one document that it is read wherever it stands. It is proved by induction over the
document: the items of an array and the fields of an object are read one after the other.
-/

namespace Keyring

namespace Json

mutual

/-- Whether a document can be read back, with room for so many brackets in each other. -/
def isReadable : Nat → Json → Bool
  | _, .float _ => false
  | 0, .arr _ => false
  | room + 1, .arr js => areReadable room js
  | 0, .obj _ => false
  | room + 1, .obj fs => decide (fs.map Prod.fst).Nodup && haveReadable room fs
  | _, _ => true

def areReadable : Nat → List Json → Bool
  | _, [] => true
  | room, j :: js => isReadable room j && areReadable room js

def haveReadable : Nat → List (String × Json) → Bool
  | _, [] => true
  | room, (_, j) :: fs => isReadable room j && haveReadable room fs

end

theorem areReadable_eq_all (room : Nat) (js : List Json) :
    areReadable room js = js.all (isReadable room) := by
  induction js with
  | nil => rfl
  | cons j js ih => rw [areReadable, ih, List.all_cons]

theorem areWritable_eq_all (js : List Json) : areWritable js = js.all isWritable := by
  induction js with
  | nil => rfl
  | cons j js ih => rw [areWritable, ih, List.all_cons]

namespace Reader

variable {s : Style}

/-! ## Blanks -/

theorem skip_of_not_isSpace {c : Char} (hc : isSpace c = false) (cs : List Char) :
    skip (c :: cs) = c :: cs := by
  rw [skip, List.dropWhile_cons_of_neg (by simp [hc])]

theorem isSpace_of_mem_newline {c : Char} {depth : Nat} (hc : c ∈ s.newline depth) :
    isSpace c = true := by
  unfold Style.newline at hc
  split at hc
  next => cases hc
  next =>
    rcases List.mem_cons.1 hc with rfl | hc
    · decide
    · obtain rfl := List.eq_of_mem_replicate hc
      decide

theorem skip_newline (depth : Nat) {c : Char} (hc : isSpace c = false) (cs : List Char) :
    skip (s.newline depth ++ c :: cs) = c :: cs := by
  rw [skip, List.dropWhile_append_of_pos fun d hd => isSpace_of_mem_newline hd]
  exact skip_of_not_isSpace hc cs

theorem skip_colon (s : Style) (cs : List Char) {c : Char} (hc : isSpace c = false) :
    ∃ r, s.colon = ':' :: r ∧ skip (r ++ c :: cs) = c :: cs := by
  unfold Style.colon
  split
  next => exact ⟨[], rfl, skip_of_not_isSpace hc cs⟩
  next =>
    refine ⟨[' '], rfl, ?_⟩
    have hblank : ∀ d ∈ [' '], isSpace d = true := fun d hd => List.mem_singleton.1 hd ▸ rfl
    rw [skip, List.dropWhile_append_of_pos hblank]
    exact skip_of_not_isSpace hc cs

theorem endsNumber_newline (depth : Nat) {c : Char} {cs : List Char} (hc : EndsNumber (c :: cs)) :
    EndsNumber (s.newline depth ++ c :: cs) := by
  unfold Style.newline
  split
  next => exact hc
  next => exact endsNumber_cons (by decide) (by decide) (by decide) (by decide)

/-! ## Heads -/

theorem not_isSpace_of_isDigit {c : Char} (hc : isDigit c = true) : isSpace c = false := by
  simp only [isSpace, Bool.or_eq_false_iff, decide_eq_false_iff_not]
  refine ⟨⟨⟨?_, ?_⟩, ?_⟩, ?_⟩ <;>
    · rintro rfl
      revert hc
      decide

/-- An integer is written as a digit and more, perhaps after a minus sign. -/
theorem toString_eq_cons (n : Int) :
    ∃ c cs, (toString n).toList = c :: cs ∧ (isDigit c = true ∨ c = '-') := by
  obtain ⟨c, cs, hcs⟩ := List.exists_cons_of_ne_nil (Nat.toDigits_ne_nil (n := n.natAbs) (b := 10))
  cases n with
  | ofNat m =>
      have htext : (toString (Int.ofNat m)).toList = Nat.toDigits 10 m := Nat.toList_repr
      have hmem : c ∈ Nat.toDigits 10 m := by
        rw [show Nat.toDigits 10 m = c :: cs from hcs]
        exact List.mem_cons_self
      exact ⟨c, cs, htext.trans hcs, .inl (isDigit_of_mem_toDigits hmem)⟩
  | negSucc m => exact ⟨'-', _, toString_negSucc m, .inr rfl⟩

/-- How a written document begins: with no blank, no closing bracket and no mark of byte order. -/
theorem chars_eq_cons (s : Style) (depth : Nat) {j : Json} (hj : ∀ x, j ≠ .float x) :
    ∃ c cs, chars s depth j = c :: cs ∧ isSpace c = false ∧ c ≠ ']' ∧ c ≠ '\ufeff' := by
  match j with
  | .null => exact ⟨'n', _, rfl, by decide, by decide, by decide⟩
  | .bool true => exact ⟨'t', _, rfl, by decide, by decide, by decide⟩
  | .bool false => exact ⟨'f', _, rfl, by decide, by decide, by decide⟩
  | .int n =>
      obtain ⟨c, cs, hcs, hc | rfl⟩ := toString_eq_cons n
      · exact ⟨c, cs, hcs, not_isSpace_of_isDigit hc, (ne_of_isDigit hc (by decide)).symm,
          (ne_of_isDigit hc (by decide)).symm⟩
      · exact ⟨'-', cs, hcs, by decide, by decide, by decide⟩
  | .float x => exact absurd rfl (hj x)
  | .str t => exact ⟨'\x22', _, rfl, by decide, by decide, by decide⟩
  | .arr [] => exact ⟨'[', _, rfl, by decide, by decide, by decide⟩
  | .arr (j :: js) => exact ⟨'[', _, rfl, by decide, by decide, by decide⟩
  | .obj [] => exact ⟨'\x7b', _, rfl, by decide, by decide, by decide⟩
  | .obj ((k, j) :: fs) => exact ⟨'\x7b', _, rfl, by decide, by decide, by decide⟩

/-! ## Reading one value -/

/-- A document is read wherever it stands, if enough fuel is left for its characters. -/
def Reads (s : Style) (room : Nat) (j : Json) : Prop :=
  ∀ fuel depth r, 2 * (chars s depth j).length ≤ fuel → EndsNumber r →
    value room fuel (chars s depth j ++ r) = .ok (j, r)

theorem value_of_atom {c : Char} {cs : List Char} (room fuel : Nat) (hq : c ≠ '\x22')
    (hb : c ≠ '[') (ho : c ≠ '\x7b') : value room (fuel + 1) (c :: cs) = atom (c :: cs) := by
  rw [value]
  · exact fun r h => hq (List.cons.inj h).1
  · exact fun r h => hb (List.cons.inj h).1
  · exact fun r h => ho (List.cons.inj h).1

theorem string_stringChars (t : String) (r : List Char) :
    ∃ cs, stringChars true t.toList ++ r = '\x22' :: cs ∧
      string ('\x22' :: cs).length cs.length.succ [] cs = .ok (t, r) := by
  refine ⟨escapedChars true t.toList ++ '\x22' :: r, by simp [stringChars], ?_⟩
  rw [string_escapedChars]
  · simp
  · have := length_le_length_escapedChars t.toList
    simp only [List.length_append]
    omega

/-- What follows a value: the break before a closing bracket or the comma before the next one. -/
theorem endsNumber_comma (cs : List Char) : EndsNumber (',' :: cs) :=
  endsNumber_cons (by decide) (by decide) (by decide) (by decide)

theorem endsNumber_close (depth : Nat) {c : Char} (hc : c = ']' ∨ c = '\x7d') (cs : List Char) :
    EndsNumber (s.newline depth ++ c :: cs) := by
  apply endsNumber_newline
  rcases hc with rfl | rfl <;>
    exact endsNumber_cons (by decide) (by decide) (by decide) (by decide)

/-- A document that is read wherever it stands, and is no number with a fraction. -/
def ReadsItem (s : Style) (room : Nat) (j : Json) : Prop :=
  Reads s room j ∧ ∀ x, j ≠ .float x

theorem items_item {room fuel depth : Nat} {j : Json} (hj : ReadsItem s room j)
    (hfuel : 2 * (chars s depth j).length ≤ fuel) (acc : List Json) {r : List Char}
    (hr : EndsNumber r) :
    items room (fuel + 1) acc (chars s depth j ++ r) =
      match skip r with
      | ']' :: r' => .ok (.arr (j :: acc).reverse, r')
      | ',' :: r' => items room fuel (j :: acc) (skip r')
      | r' => fail .comma r' := by
  rewrite [items, hj.1 fuel depth r hfuel hr]
  rfl

theorem fields_field {room fuel depth : Nat} {f : String × Json} (hs : s.ascii = true)
    (hf : ReadsItem s room f.2) (hfuel : 2 * (chars s depth f.2).length ≤ fuel)
    (acc : List (String × Json)) {r : List Char} (hr : EndsNumber r) :
    fields room (fuel + 1) acc
        (stringChars s.ascii f.1.toList ++ (s.colon ++ (chars s depth f.2 ++ r))) =
      match skip r with
      | '\x7d' :: r' => .ok (.obj (tabulate (f :: acc).reverse), r')
      | ',' :: r' => fields room fuel (f :: acc) (skip r')
      | r' => fail .comma r' := by
  obtain ⟨c, cs, hcs, hspace, -, -⟩ := chars_eq_cons s depth hf.2
  obtain ⟨col, hcol, hskip⟩ := skip_colon s (cs ++ r) hspace
  obtain ⟨ks, hks, hstring⟩ := string_stringChars f.1 (s.colon ++ (chars s depth f.2 ++ r))
  rw [hs, hks, fields, hstring]
  simp only
  rw [hcol, List.cons_append, skip_of_not_isSpace (by decide)]
  simp only
  rewrite [hcs, List.cons_append, hskip, ← List.cons_append, ← hcs, hf.1 fuel depth r hfuel hr]
  rfl

theorem items_of_reads {room : Nat} {j : Json} {js : List Json} (hj : ReadsItem s room j)
    (hjs : ∀ i ∈ js, ReadsItem s room i) (fuel depth close : Nat)
    (hfuel : 2 * (chars s depth j ++ itemChars s depth js).length < fuel) (acc : List Json)
    (r : List Char) :
    items room fuel acc
        (chars s depth j ++ (itemChars s depth js ++ (s.newline close ++ ']' :: r))) =
      .ok (.arr (acc.reverse ++ j :: js), r) := by
  induction js generalizing j fuel acc with
  | nil =>
      obtain ⟨fuel, rfl⟩ : ∃ n, fuel = n + 1 := ⟨fuel - 1, by omega⟩
      rw [itemChars, List.append_nil] at hfuel
      rw [itemChars, List.nil_append,
        items_item hj (by omega) acc (endsNumber_close close (.inl rfl) r),
        skip_newline close (by decide), List.reverse_cons]
      rfl
  | cons i js ih =>
      obtain ⟨fuel, rfl⟩ : ∃ n, fuel = n + 1 := ⟨fuel - 1, by omega⟩
      have hi := hjs i List.mem_cons_self
      obtain ⟨c, cs, hcs, hspace, -, -⟩ := chars_eq_cons s depth hi.2
      simp only [itemChars, List.length_append, List.length_cons] at hfuel
      simp only [itemChars, List.cons_append, List.append_assoc]
      rw [items_item hj (by omega) acc (endsNumber_comma _), skip_of_not_isSpace (by decide)]
      simp only
      rw [hcs, List.cons_append, skip_newline depth hspace, ← List.cons_append, ← hcs,
        ih hi (fun i' hi' => hjs i' (List.mem_cons_of_mem i hi')) fuel
          (by simp only [List.length_append]; omega)]
      simp

theorem fields_of_reads {room : Nat} {f : String × Json} {fs : List (String × Json)}
    (hs : s.ascii = true) (hf : ReadsItem s room f.2) (hfs : ∀ g ∈ fs, ReadsItem s room g.2)
    (fuel depth close : Nat)
    (hfuel : 2 * (chars s depth f.2 ++ fieldChars s depth fs).length < fuel)
    (acc : List (String × Json)) (r : List Char) :
    fields room fuel acc (stringChars s.ascii f.1.toList ++ (s.colon ++ (chars s depth f.2 ++
        (fieldChars s depth fs ++ (s.newline close ++ '\x7d' :: r))))) =
      .ok (.obj (tabulate (acc.reverse ++ f :: fs)), r) := by
  induction fs generalizing f fuel acc with
  | nil =>
      obtain ⟨fuel, rfl⟩ : ∃ n, fuel = n + 1 := ⟨fuel - 1, by omega⟩
      rw [fieldChars, List.append_nil] at hfuel
      rw [fieldChars, List.nil_append,
        fields_field hs hf (by omega) acc (endsNumber_close close (.inr rfl) r),
        skip_newline close (by decide), List.reverse_cons]
      rfl
  | cons g fs ih =>
      obtain ⟨fuel, rfl⟩ : ∃ n, fuel = n + 1 := ⟨fuel - 1, by omega⟩
      have hg := hfs g List.mem_cons_self
      simp only [fieldChars, List.length_append, List.length_cons] at hfuel
      simp only [fieldChars, List.cons_append, List.append_assoc]
      rw [fields_field hs hf (by omega) acc (endsNumber_comma _), skip_of_not_isSpace (by decide)]
      have hquote (t : List Char) :
          skip (s.newline depth ++ (stringChars s.ascii g.1.toList ++ t)) =
            stringChars s.ascii g.1.toList ++ t := skip_newline depth (by decide) _
      simp only [hquote]
      rw [ih hg (fun g' hg' => hfs g' (List.mem_cons_of_mem g hg')) fuel
        (by simp only [List.length_append]; omega)]
      simp

/-! ## Reading any value -/

theorem reads_arr {room : Nat} {js : List Json} (hjs : ∀ j ∈ js, ReadsItem s room j) :
    Reads s (room + 1) (.arr js) := by
  intro fuel depth r hfuel hr
  obtain ⟨fuel, rfl⟩ : ∃ n, fuel = n + 1 :=
    ⟨fuel - 1, by cases js <;> simp [chars] at hfuel <;> omega⟩
  cases js with
  | nil => rfl
  | cons j js =>
      have hj := hjs j List.mem_cons_self
      obtain ⟨c, cs, hcs, hspace, hclose, -⟩ := chars_eq_cons s (depth + 1) hj.2
      simp only [chars, List.length_append, List.length_cons, List.length_nil] at hfuel
      simp only [chars, List.cons_append, List.append_assoc, List.nil_append, value, inner]
      have hskip (t : List Char) : skip (s.newline (depth + 1) ++ (chars s (depth + 1) j ++ t)) =
          chars s (depth + 1) j ++ t := by
        rw [hcs]
        exact skip_newline (depth + 1) hspace _
      rw [hskip]
      have hitems := items_of_reads hj (fun i hi => hjs i (List.mem_cons_of_mem j hi)) fuel
        (depth + 1) depth (by simp only [List.length_append]; omega) [] r
      rw [hcs] at hitems ⊢
      simp only [List.cons_append] at hitems ⊢
      split
      next heq => exact absurd (List.cons.inj heq).1 hclose
      next => exact hitems

theorem reads_obj (hs : s.ascii = true) {room : Nat} {fs : List (String × Json)}
    (hnd : (fs.map Prod.fst).Nodup) (hfs : ∀ f ∈ fs, ReadsItem s room f.2) :
    Reads s (room + 1) (.obj fs) := by
  intro fuel depth r hfuel hr
  obtain ⟨fuel, rfl⟩ : ∃ n, fuel = n + 1 :=
    ⟨fuel - 1, by cases fs <;> simp [chars] at hfuel <;> omega⟩
  cases fs with
  | nil => rfl
  | cons f fs =>
      have hf := hfs f List.mem_cons_self
      simp only [chars, List.length_append, List.length_cons, List.length_nil] at hfuel
      simp only [chars, List.cons_append, List.append_assoc, List.nil_append, value, inner]
      have hskip (t : List Char) :
          skip (s.newline (depth + 1) ++ (stringChars s.ascii f.1.toList ++ t)) =
            stringChars s.ascii f.1.toList ++ t := skip_newline (depth + 1) (by decide) _
      rw [hskip]
      have hfields := fields_of_reads hs hf (fun g hg => hfs g (List.mem_cons_of_mem f hg)) fuel
        (depth + 1) depth (by simp only [List.length_append]; omega) [] r
      rw [List.reverse_nil, List.nil_append, tabulate_of_nodup hnd] at hfields
      exact hfields

theorem reads_atom {j : Json} {room : Nat}
    (hhead : ∃ c cs, (∀ depth, chars s depth j = c :: cs) ∧ c ≠ '\x22' ∧ c ≠ '[' ∧ c ≠ '\x7b')
    (hatom : ∀ depth r, EndsNumber r → atom (chars s depth j ++ r) = .ok (j, r)) :
    Reads s room j := by
  intro fuel depth r hfuel hr
  obtain ⟨c, cs, hcs, hq, hb, ho⟩ := hhead
  obtain ⟨fuel, rfl⟩ : ∃ n, fuel = n + 1 := ⟨fuel - 1, by simp [hcs] at hfuel; omega⟩
  have hread := hatom depth r hr
  rw [hcs] at hread ⊢
  rw [List.cons_append, value_of_atom room fuel hq hb ho]
  exact hread

theorem reads_str (hs : s.ascii = true) (room : Nat) (t : String) : Reads s room (.str t) := by
  intro fuel depth r hfuel hr
  obtain ⟨fuel, rfl⟩ : ∃ n, fuel = n + 1 :=
    ⟨fuel - 1, by simp [chars, stringChars] at hfuel; omega⟩
  obtain ⟨cs, hcs, hstring⟩ := string_stringChars t r
  rw [chars, hs, hcs, value, hstring]
  rfl

theorem reads_int (room : Nat) {n : Int} (hn : Text.Integer.isTooLong n = false) :
    Reads s room (.int n) := by
  obtain ⟨c, cs, hcs, hc⟩ := toString_eq_cons n
  refine reads_atom ⟨c, cs, fun _ => hcs, ?_⟩ fun _ r hr => atom_toString hn hr
  rcases hc with hc | rfl
  · exact ⟨(ne_of_isDigit hc (by decide)).symm, (ne_of_isDigit hc (by decide)).symm,
      (ne_of_isDigit hc (by decide)).symm⟩
  · decide

mutual

theorem reads_of_isReadable (hs : s.ascii = true) : ∀ (j : Json) (room : Nat),
    isReadable room j = true → isWritable j = true → ReadsItem s room j
  | .null, room => fun _ _ =>
      ⟨reads_atom ⟨'n', _, fun _ => rfl, by decide⟩ fun _ _ _ => rfl, fun _ => nofun⟩
  | .bool true, room => fun _ _ =>
      ⟨reads_atom ⟨'t', _, fun _ => rfl, by decide⟩ fun _ _ _ => rfl, fun _ => nofun⟩
  | .bool false, room => fun _ _ =>
      ⟨reads_atom ⟨'f', _, fun _ => rfl, by decide⟩ fun _ _ _ => rfl, fun _ => nofun⟩
  | .int n, room => fun _ hw => by
      rw [isWritable, Bool.not_eq_true'] at hw
      exact ⟨reads_int room hw, fun _ => nofun⟩
  | .float x, room => fun hr _ => by
      rw [isReadable] at hr
      cases hr
  | .str t, room => fun _ _ => ⟨reads_str hs room t, fun _ => nofun⟩
  | .arr js, room => fun hr hw => by
      cases room with
      | zero =>
          rw [isReadable] at hr
          cases hr
      | succ room =>
          rw [isReadable] at hr
          rw [isWritable] at hw
          exact ⟨reads_arr (readsItems_of_areReadable hs js room hr hw), fun _ => nofun⟩
  | .obj fs, room => fun hr hw => by
      cases room with
      | zero =>
          rw [isReadable] at hr
          cases hr
      | succ room =>
          rw [isReadable, Bool.and_eq_true, decide_eq_true_eq] at hr
          rw [isWritable] at hw
          exact ⟨reads_obj hs hr.1 (readsFields_of_haveReadable hs fs room hr.2 hw),
            fun _ => nofun⟩

theorem readsItems_of_areReadable (hs : s.ascii = true) : ∀ (js : List Json) (room : Nat),
    areReadable room js = true → areWritable js = true → ∀ j ∈ js, ReadsItem s room j
  | [], room => fun _ _ => nofun
  | i :: js, room => fun hr hw j hj => by
      rw [areReadable, Bool.and_eq_true] at hr
      rw [areWritable, Bool.and_eq_true] at hw
      rcases List.mem_cons.1 hj with hj | hj
      · rw [hj]
        exact reads_of_isReadable hs i room hr.1 hw.1
      · exact readsItems_of_areReadable hs js room hr.2 hw.2 j hj

theorem readsFields_of_haveReadable (hs : s.ascii = true) : ∀ (fs : List (String × Json))
    (room : Nat), haveReadable room fs = true → haveWritable fs = true →
      ∀ f ∈ fs, ReadsItem s room f.2
  | [], room => fun _ _ => nofun
  | (k, i) :: fs, room => fun hr hw f hf => by
      rw [haveReadable, Bool.and_eq_true] at hr
      rw [haveWritable, Bool.and_eq_true] at hw
      rcases List.mem_cons.1 hf with hf | hf
      · rw [hf]
        exact reads_of_isReadable hs i room hr.1 hw.1
      · exact readsFields_of_haveReadable hs fs room hr.2 hw.2 f hf

end

theorem endsNumber_nil : EndsNumber [] := by
  intro c hc
  cases hc

theorem document_chars (hs : s.ascii = true) {j : Json} (hr : isReadable maxDepth j = true)
    (hw : isWritable j = true) : document (chars s 0 j) = .ok j := by
  obtain ⟨hread, hfloat⟩ := reads_of_isReadable hs j maxDepth hr hw
  have hvalue := hread (2 * (chars s 0 j).length + 2) 0 [] (by omega) endsNumber_nil
  obtain ⟨c, cs, hcs, hspace, -, hbom⟩ := chars_eq_cons s 0 hfloat
  rw [List.append_nil] at hvalue
  rw [document, if_neg, hcs, skip_of_not_isSpace hspace, ← hcs, hvalue]
  · rfl
  · rw [hcs]
    simpa using hbom

end Reader

/-- What is written of a document is read as that document. -/
theorem parse_render {s : Style} (hs : s.ascii = true) {j : Json}
    (hr : isReadable Reader.maxDepth j = true) (hw : isWritable j = true) :
    parse (render s j) = .ok j := by
  rw [parse, render, String.toList_ofList]
  exact Reader.document_chars hs hr hw

end Json

end Keyring
