import Keyring.Proofs.Json.Numbers
import Keyring.Proofs.Json.Strings
import Keyring.Proofs.Radix

/-!
# What documents are written in

A document that is written in ASCII holds no control character, whatever its strings hold: all there
is beside the characters from the blank to the tilde are the breaks between its lines, if it is
spread over lines. So one kind of newline is left of it, and on one line it stays on that line.
-/

namespace Keyring

namespace Text

def IsAsciiText (c : Char) : Prop := 0x20 ≤ c.toNat ∧ c.toNat < 0x7f

instance : DecidablePred IsAsciiText := fun _ => instDecidableAnd

theorem isAsciiText_of_all {cs : List Char} (h : cs.all fun c => decide (IsAsciiText c)) :
    ∀ c ∈ cs, IsAsciiText c := by
  simpa using h

theorem IsAsciiText.isLineBreak {c : Char} (h : IsAsciiText c) : isLineBreak c = false := by
  unfold IsAsciiText at h
  simp [Text.isLineBreak]
  omega

theorem IsAsciiText.ne_return {c : Char} (h : IsAsciiText c) : c ≠ '\r' := by
  rintro rfl
  revert h
  decide

theorem unifyNewlines_of_return_not_mem {cs : List Char} (hcs : ∀ c ∈ cs, c ≠ '\r') :
    unifyNewlines cs = cs := by
  induction cs with
  | nil => rfl
  | cons c cs ih =>
      have hc := hcs c List.mem_cons_self
      rw [unifyNewlines, if_neg hc, ih fun d hd => hcs d (List.mem_cons_of_mem c hd)]
      rintro r rfl
      exact absurd rfl hc

end Text

open Text (IsAsciiText isAsciiText_of_all)

/-! ## Numbers -/

namespace Binary64

theorem isAsciiText_digitChar {d : Nat} (hd : d < 10) : IsAsciiText (digitChar d) := by
  have hall : ∀ d < 10, IsAsciiText (digitChar d) := by decide
  exact hall d hd

theorem lt_of_mem_shortest {m : Nat} {q : Int} {d : Nat} (hd : d ∈ (shortest m q).digits) :
    d < 10 := by
  unfold shortest at hd
  have hmem := (List.dropWhile_sublist _).subset (List.mem_reverse.1 hd)
  rw [Radix.digits_eq (by decide)] at hmem
  exact Nat.digits_lt_base (by decide) hmem

end Binary64

namespace Json.Reader

theorem isAsciiText_of_isDigit {c : Char} (hc : isDigit c = true) : IsAsciiText c := by
  simp only [isDigit, Bool.and_eq_true, decide_eq_true_eq] at hc
  exact ⟨by omega, by omega⟩

theorem isAsciiText_toDigits (n : Nat) : ∀ c ∈ Nat.toDigits 10 n, IsAsciiText c :=
  fun _ hc => isAsciiText_of_isDigit (isDigit_of_mem_toDigits hc)

theorem isAsciiText_toString (n : Int) : ∀ c ∈ (toString n).toList, IsAsciiText c := by
  cases n with
  | ofNat m =>
      rw [show (toString (Int.ofNat m)).toList = Nat.toDigits 10 m from Nat.toList_repr]
      exact isAsciiText_toDigits m
  | negSucc m =>
      rw [toString_negSucc, List.forall_mem_cons]
      exact ⟨by decide, isAsciiText_toDigits (m + 1)⟩

theorem isAsciiText_replicate {c : Char} (hc : IsAsciiText c) (n : Nat) :
    ∀ d ∈ List.replicate n c, IsAsciiText d :=
  fun _ hd => List.eq_of_mem_replicate hd ▸ hc

theorem isAsciiText_text {x : Binary64.Digits} (hx : ∀ d ∈ x.digits, d < 10) :
    ∀ c ∈ x.text, IsAsciiText c := by
  have hds : ∀ c ∈ x.digits.map Binary64.digitChar, IsAsciiText c := by
    intro c hc
    obtain ⟨d, hd, rfl⟩ := List.mem_map.1 hc
    exact Binary64.isAsciiText_digitChar (hx d hd)
  have hzero : IsAsciiText '0' := by decide
  have hpoint : IsAsciiText '.' := by decide
  have hzeros (n : Nat) := isAsciiText_replicate hzero n
  have hexponent (n : Nat) : ∀ c ∈ (toString n).toList, IsAsciiText c :=
    isAsciiText_toString (Int.ofNat n)
  unfold Binary64.Digits.text
  dsimp only
  generalize x.digits.map Binary64.digitChar = ds at hds ⊢
  by_cases hplace : -4 < x.point ∧ x.point ≤ 16
  · rw [if_pos hplace]
    split_ifs
    · simp only [List.cons_append, List.forall_mem_cons, List.forall_mem_append]
      exact ⟨hzero, hpoint, hzeros _, hds⟩
    · simp only [List.forall_mem_cons, List.forall_mem_append]
      exact ⟨⟨hds, hzeros _⟩, hpoint, hzero, List.forall_mem_nil _⟩
    · simp only [List.forall_mem_cons, List.forall_mem_append]
      exact ⟨fun c hc => hds c (List.mem_of_mem_take hc), hpoint,
        fun c hc => hds c (List.mem_of_mem_drop hc)⟩
  · rw [if_neg hplace]
    have hsign (e : Int) : IsAsciiText (if e < 0 then '-' else '+') := by
      split <;> decide
    have hletter : IsAsciiText 'e' := by decide
    simp only [List.forall_mem_append, List.forall_mem_cons, List.append_assoc, List.cons_append]
    refine ⟨?_, hletter, hsign _, hzeros _, hexponent _⟩
    split
    next d => exact hds
    next d ds _ =>
      rw [List.forall_mem_cons] at hds
      simp only [List.forall_mem_cons]
      exact ⟨hds.1, hpoint, hds.2⟩
    next => exact List.forall_mem_nil _

theorem isAsciiText_textWith (x : Binary64) :
    ∀ c ∈ (x.textWith "NaN" "Infinity").toList, IsAsciiText c := by
  have hsign (neg : Bool) : ∀ c ∈ (if neg then "-" else "").toList, IsAsciiText c :=
    isAsciiText_of_all (by cases neg <;> decide)
  unfold Binary64.textWith
  split
  next => exact isAsciiText_of_all (by decide)
  next neg _ =>
    rw [String.toList_append, List.forall_mem_append]
    exact ⟨hsign neg, isAsciiText_of_all (by decide)⟩
  next neg m q _ =>
    rw [String.toList_append, List.forall_mem_append]
    refine ⟨hsign neg, ?_⟩
    split
    · exact isAsciiText_of_all (by decide)
    · rw [String.toList_ofList]
      exact isAsciiText_text fun _ => Binary64.lt_of_mem_shortest

/-! ## Strings -/

theorem isAsciiText_unitEscape {n : Nat} (hn : n < 0x10000) :
    ∀ c ∈ unitEscape n, IsAsciiText c := by
  have hall : ∀ m < 16, IsAsciiText (Text.Hex.digit m) := by decide
  have hdigit (m : Nat) : IsAsciiText (Text.Hex.digit (m % 16)) := hall _ (Nat.mod_lt _ (by decide))
  have hbackslash : IsAsciiText '\\' := by decide
  have hu : IsAsciiText 'u' := by decide
  rw [unitEscape, Text.Hex.ofNat_four hn]
  simp [hbackslash, hu, hdigit]

theorem isAsciiText_of_letterEscape {e c : Char} (h : letterEscape? e = some c) :
    IsAsciiText e := by
  unfold letterEscape? at h
  split at h <;> first | decide | cases h

theorem isAsciiText_escapedChar (c : Char) : ∀ d ∈ escapedChar true c, IsAsciiText d := by
  have hbackslash : IsAsciiText '\\' := by decide
  rcases escapedChar_cases c with ⟨e, he, hc, -⟩ | ⟨he, hn⟩ | ⟨he, -, -, hc⟩ |
    ⟨h, l, he, hh, hl, -⟩
  · simp [he, hbackslash, isAsciiText_of_letterEscape hc]
  · rw [he]
    exact isAsciiText_unitEscape hn
  · rw [he, List.forall_mem_singleton]
    exact hc
  · rw [he, List.forall_mem_append]
    exact ⟨isAsciiText_unitEscape (Text.Surrogate.lt_of_isHigh hh),
      isAsciiText_unitEscape (Text.Surrogate.lt_of_isLow hl)⟩

theorem isAsciiText_escapedHalf (c : Char) : ∀ d ∈ escapedHalf true c, IsAsciiText d := by
  cases hc : Text.Surrogate.half? c with
  | none =>
      rw [escapedHalf_of_eq_none hc]
      exact isAsciiText_escapedChar c
  | some h =>
      rw [escapedHalf_of_eq_some hc]
      exact isAsciiText_unitEscape (Text.Surrogate.half?_eq_some hc).2.1

theorem isAsciiText_escapedChars (cs : List Char) :
    ∀ c ∈ escapedChars true cs, IsAsciiText c := by
  fun_induction escapedChars true cs with
  | case1 => exact List.forall_mem_nil _
  | case2 c => exact isAsciiText_escapedHalf c
  | case3 c d cs _ ih =>
      simp only [List.forall_mem_append]
      exact ⟨⟨isAsciiText_escapedChar c, isAsciiText_escapedChar d⟩, ih⟩
  | case4 c d cs _ ih =>
      rw [List.forall_mem_append]
      exact ⟨isAsciiText_escapedHalf c, ih⟩

theorem isAsciiText_stringChars {s : Style} (hs : s.ascii = true) (cs : List Char) :
    ∀ c ∈ stringChars s.ascii cs, IsAsciiText c := by
  have hquote : IsAsciiText '\x22' := by decide
  have hcs := isAsciiText_escapedChars cs
  simp only [hs, stringChars, List.cons_append, List.forall_mem_cons, List.forall_mem_append]
  exact ⟨hquote, hcs, hquote, List.forall_mem_nil _⟩

/-! ## Documents -/

section

variable {s : Style} {P : Char → Prop}

theorem isAsciiText_colon (s : Style) : ∀ c ∈ s.colon, IsAsciiText c := by
  unfold Style.colon
  split <;> exact isAsciiText_of_all (by decide)

mutual

/-- What holds of every character of ASCII text and of the breaks between lines. -/
theorem forall_mem_chars (hs : s.ascii = true) (hP : ∀ c, IsAsciiText c → P c)
    (hbreak : ∀ depth, ∀ c ∈ s.newline depth, P c) : ∀ (j : Json) (depth : Nat),
      ∀ c ∈ chars s depth j, P c
  | .null, _ => by
      rw [chars]
      exact fun c hc => hP c (isAsciiText_of_all (by decide) c hc)
  | .bool b, _ => by
      rw [chars]
      exact fun c hc => hP c (isAsciiText_of_all (by cases b <;> decide) c hc)
  | .int n, _ => by
      rw [chars]
      exact fun c hc => hP c (isAsciiText_toString n c hc)
  | .float x, _ => by
      rw [chars]
      exact fun c hc => hP c (isAsciiText_textWith x c hc)
  | .str t, _ => by
      rw [chars]
      exact fun c hc => hP c (isAsciiText_stringChars hs _ c hc)
  | .arr [], _ => by
      rw [chars]
      exact fun c hc => hP c (isAsciiText_of_all (by decide) c hc)
  | .arr (j :: js), depth => by
      have hj := forall_mem_chars hs hP hbreak j (depth + 1)
      have hjs := forall_mem_itemChars hs hP hbreak js (depth + 1)
      simp only [chars, List.forall_mem_append, List.forall_mem_cons, List.cons_append,
        List.append_assoc]
      exact ⟨hP _ (by decide), hbreak _, hj, hjs, hbreak _, hP _ (by decide),
        List.forall_mem_nil _⟩
  | .obj [], _ => by
      rw [chars]
      exact fun c hc => hP c (isAsciiText_of_all (by decide) c hc)
  | .obj ((k, j) :: fs), depth => by
      have hk : ∀ c ∈ stringChars s.ascii k.toList, P c :=
        fun c hc => hP c (isAsciiText_stringChars hs _ c hc)
      have hcolon : ∀ c ∈ s.colon, P c := fun c hc => hP c (isAsciiText_colon s c hc)
      have hj := forall_mem_chars hs hP hbreak j (depth + 1)
      have hfs := forall_mem_fieldChars hs hP hbreak fs (depth + 1)
      simp only [chars, List.forall_mem_append, List.forall_mem_cons, List.cons_append,
        List.append_assoc]
      exact ⟨hP _ (by decide), hbreak _, hk, hcolon, hj, hfs, hbreak _, hP _ (by decide),
        List.forall_mem_nil _⟩

theorem forall_mem_itemChars (hs : s.ascii = true) (hP : ∀ c, IsAsciiText c → P c)
    (hbreak : ∀ depth, ∀ c ∈ s.newline depth, P c) : ∀ (js : List Json) (depth : Nat),
      ∀ c ∈ itemChars s depth js, P c
  | [], _ => by
      rw [itemChars]
      exact List.forall_mem_nil _
  | j :: js, depth => by
      have hj := forall_mem_chars hs hP hbreak j depth
      have hjs := forall_mem_itemChars hs hP hbreak js depth
      simp only [itemChars, List.forall_mem_append, List.forall_mem_cons, List.cons_append,
        List.append_assoc]
      exact ⟨hP _ (by decide), hbreak _, hj, hjs⟩

theorem forall_mem_fieldChars (hs : s.ascii = true) (hP : ∀ c, IsAsciiText c → P c)
    (hbreak : ∀ depth, ∀ c ∈ s.newline depth, P c) : ∀ (fs : List (String × Json)) (depth : Nat),
      ∀ c ∈ fieldChars s depth fs, P c
  | [], _ => by
      rw [fieldChars]
      exact List.forall_mem_nil _
  | (k, j) :: fs, depth => by
      have hk : ∀ c ∈ stringChars s.ascii k.toList, P c :=
        fun c hc => hP c (isAsciiText_stringChars hs _ c hc)
      have hcolon : ∀ c ∈ s.colon, P c := fun c hc => hP c (isAsciiText_colon s c hc)
      have hj := forall_mem_chars hs hP hbreak j depth
      have hfs := forall_mem_fieldChars hs hP hbreak fs depth
      simp only [fieldChars, List.forall_mem_append, List.forall_mem_cons, List.cons_append,
        List.append_assoc]
      exact ⟨hP _ (by decide), hbreak _, hk, hcolon, hj, hfs⟩

end

end

end Json.Reader

namespace Json

/-- What is written of a document has one kind of newline. -/
theorem unifyNewlines_render {s : Style} (hs : s.ascii = true) (j : Json) :
    String.ofList (Text.unifyNewlines (render s j).toList) = render s j := by
  have hbreak (depth : Nat) : ∀ c ∈ s.newline depth, c ≠ '\r' := by
    unfold Style.newline
    split
    next => exact List.forall_mem_nil _
    next =>
      rw [List.forall_mem_cons]
      exact ⟨by decide, fun c hc => List.eq_of_mem_replicate hc ▸ by decide⟩
  rw [render, String.toList_ofList, Text.unifyNewlines_of_return_not_mem
    (Reader.forall_mem_chars hs (fun _ => IsAsciiText.ne_return) hbreak j 0)]

/-- A document on one line is written without control characters. -/
theorem isAsciiText_render (j : Json) : ∀ c ∈ (render .line j).toList, IsAsciiText c := by
  have hbreak (depth : Nat) : ∀ c ∈ Style.line.newline depth, IsAsciiText c := by
    simp [Style.newline, Style.line]
  rw [render, String.toList_ofList]
  exact Reader.forall_mem_chars rfl (fun _ => id) hbreak j 0

end Json

end Keyring
