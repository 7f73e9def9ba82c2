import Keyring.Command.Markup
import Keyring.Proofs.Outcome
import Mathlib.Data.List.Basic
import Mathlib.Tactic.Common

/-!
# Texts that can be printed

A text without brackets can always be printed. One with tags can be printed when every closing tag
finds its style open. What stands between the tags must have no opening bracket in it; it may have
backslashes, of which the last takes the effect of a closing tag away, so that its style stays open
to the end.
-/

namespace Keyring.Markup

/-! ## Styles -/

/-- The name of a style that is its own description and that can be applied. -/
structure IsStyle (name : List Char) : Prop where
  normal : styleName name = .ok name
  applies : Style.ofText name ≠ .error .component
  strip : Text.strip name = name
  first : name.head? ≠ none ∧ name.head? ≠ some '/' ∧ name.head? ≠ some '@'
  bare : name.takeWhile (· != '=') = name
  opening : ∀ cs, tag? (name ++ ']' :: cs) = some name
  closing : ∀ cs, tag? ('/' :: name ++ ']' :: cs) = some ('/' :: name)

theorem isStyle_bold : IsStyle "bold".toList where
  normal := rfl
  applies := nofun
  strip := by decide
  first := by decide
  bare := by decide
  opening := fun _ => rfl
  closing := fun _ => rfl

namespace Style

/-- Whether or not the colour is in the table, it is no colour with components. -/
theorem isColor_green : ∃ b, isColor "green".toList = .ok b := by
  unfold isColor
  split
  · exact ⟨true, rfl⟩
  · exact ⟨false, rfl⟩

theorem ofText_green :
    (∃ s, ofText "green".toList = .ok s ∧ s.text = "green".toList) ∨
      ofText "green".toList = .error .unknown := by
  obtain ⟨b, hb⟩ := isColor_green
  have hwords : Text.words "green".toList = ["green".toList] := by decide
  have hlower : Text.lower "green".toList = "green".toList := by decide
  have hattribute : attribute? "green".toList = none := by decide
  have h : ofText "green".toList =
      if b then .ok { color := some "green".toList } else .error .unknown := by
    rw [ofText, if_neg (by decide), hwords, ofWords]
    simp only [hlower, hattribute, colorOf, hb]
    cases b <;> rfl
  cases b with
  | false => exact .inr h
  | true => exact .inl ⟨_, h, rfl⟩

end Style

theorem isStyle_green : IsStyle "green".toList where
  normal := by
    unfold styleName Style.normal
    rcases Style.ofText_green with ⟨s, hs, htext⟩ | hs <;> simp only [hs]
    · rw [htext]
      rfl
    · rfl
  applies := by
    rcases Style.ofText_green with ⟨s, hs, -⟩ | hs <;> rw [hs] <;> nofun
  strip := by decide
  first := by decide
  bare := by decide
  opening := fun _ => rfl
  closing := fun _ => rfl

/-! ## Pieces that can be printed -/

/-- Pieces of which every closing tag closes the style that was opened last. -/
inductive Balanced : List (List Char) → List Piece → Prop
  | nil {names : List (List Char)} : (∀ n ∈ names, IsStyle n) → Balanced names []
  | text {names : List (List Char)} {ps : List Piece} (cs : List Char) :
      Balanced names ps → Balanced names (.text cs :: ps)
  | opening {names : List (List Char)} {name : List Char} {ps : List Piece} :
      IsStyle name → Balanced (name :: names) ps → Balanced names (.tag ⟨name, none⟩ :: ps)
  | closing {names : List (List Char)} {name : List Char} {ps : List Piece} :
      IsStyle name → Balanced names ps →
        Balanced (name :: names) (.tag ⟨'/' :: name, none⟩ :: ps)

namespace Printing

/-- That just the named styles are open, and that all styles can be applied. -/
structure Opens (s : Printing) (names : List (List Char)) : Prop where
  opened : s.opened.map OpenTag.tag = names.map (⟨·, none⟩)
  spans : ∀ x ∈ s.spans, Style.ofText x.style ≠ .error .component

variable {s : Printing} {names : List (List Char)} {name : List Char}

theorem applies_of_ne {x : Span} (hx : Style.ofText x.style ≠ .error .component) :
    s.applies x = true := by
  unfold applies
  split
  next h => exact absurd h hx
  next => rfl

theorem step_text (hs : s.Opens names) (cs : List Char) :
    ∃ s', s.step (.text cs) = .ok s' ∧ s'.Opens names :=
  ⟨_, rfl, hs.opened, hs.spans⟩

theorem step_opening (hn : IsStyle name) (hs : s.Opens names) :
    ∃ s', s.step (.tag ⟨name, none⟩) = .ok s' ∧ s'.Opens (name :: names) := by
  have hstep : s.step (.tag ⟨name, none⟩) =
      .ok { s with opened := ⟨⟨name, none⟩, s.out.length⟩ :: s.opened } := by
    rw [step]
    · rw [hn.normal]
      rfl
    · rintro cs p ⟨rfl, -⟩
      exact hn.first.2.1 rfl
  exact ⟨_, hstep, by simp [hs.opened], hs.spans⟩

theorem step_closing (hn : IsStyle name) (hs : s.Opens (name :: names)) :
    ∃ s', s.step (.tag ⟨'/' :: name, none⟩) = .ok s' ∧ s'.Opens names := by
  obtain ⟨hopened, hspans⟩ := hs
  rcases hs : s.opened with _ | ⟨t, ts⟩
  · rw [hs] at hopened
    cases hopened
  · rw [hs, List.map_cons, List.map_cons] at hopened
    obtain ⟨ht, hts⟩ := List.cons.inj hopened
    have hne : name.isEmpty = false := by
      rcases name with _ | ⟨c, cs⟩
      · exact absurd rfl hn.first.1
      · rfl
    have hhandler : t.tag.isHandler = false := by
      simp [Tag.isHandler, ht, hn.first.2.2]
    have hstyle : t.tag.style = name := by simp [Tag.style, ht]
    refine ⟨{ s with opened := ts, spans := s.span t :: s.spans }, ?_, hts, ?_⟩
    · have hclose : close? name s.opened = some (t, ts) := by simp [hs, close?, ht]
      simp only [step, hn.strip, hne, hn.normal, Outcome.ok_bind, hclose]
      simp [hhandler]
    · rw [List.forall_mem_cons]
      exact ⟨by rw [span, hstyle]; exact hn.applies, hspans⟩

theorem foldlM_step {ps : List Piece} (hps : Balanced names ps) (hs : s.Opens names) :
    ∃ s', ps.foldlM step s = .ok s' ∧ s'.allSpans.all s'.applies := by
  induction hps generalizing s with
  | nil hnames =>
      have hopen : ∀ t ∈ s.opened, Style.ofText (s.span t).style ≠ .error .component := by
        intro t ht
        have htag := List.mem_map_of_mem (f := OpenTag.tag) ht
        rw [hs.opened] at htag
        obtain ⟨n, hn, heq⟩ := List.mem_map.1 htag
        have hstyle : t.tag.style = n := by simp [Tag.style, ← heq]
        rw [span, hstyle]
        exact (hnames n hn).applies
      refine ⟨s, rfl, List.all_eq_true.2 fun x hx => ?_⟩
      rcases List.mem_append.1 hx with hx | hx
      · exact applies_of_ne (hs.spans x hx)
      · obtain ⟨t, ht, rfl⟩ := List.mem_map.1 hx
        exact applies_of_ne (hopen t ht)
  | text cs _ ih =>
      obtain ⟨s', hstep, hs'⟩ := step_text hs cs
      rw [List.foldlM_cons, hstep]
      exact ih hs'
  | opening hn _ ih =>
      obtain ⟨s', hstep, hs'⟩ := step_opening hn hs
      rw [List.foldlM_cons, hstep]
      exact ih hs'
  | closing hn _ ih =>
      obtain ⟨s', hstep, hs'⟩ := step_closing hn hs
      rw [List.foldlM_cons, hstep]
      exact ih hs'

end Printing

/-! ## Tags in a text -/

section

variable {cs rest : List Char} {names : List (List Char)} {name : List Char}

theorem piecesFrom_append (hcs : '[' ∉ cs) (rest plain : List Char) (slashes : Nat) :
    ∃ plain' slashes', piecesFrom plain slashes 0 (cs ++ rest) =
      piecesFrom plain' slashes' 0 rest := by
  induction cs generalizing plain slashes with
  | nil => exact ⟨plain, slashes, rfl⟩
  | cons c cs ih =>
      rw [List.mem_cons, not_or] at hcs
      obtain ⟨hc, hcs⟩ := hcs
      by_cases hslash : c = '\\'
      · obtain ⟨plain', slashes', h⟩ := ih hcs plain (slashes + 1)
        exact ⟨plain', slashes', by simpa [piecesFrom, hslash] using h⟩
      · obtain ⟨plain', slashes', h⟩ := ih hcs (c :: (List.replicate slashes '\\' ++ plain)) 0
        exact ⟨plain', slashes', by simpa [piecesFrom, hslash, Ne.symm hc] using h⟩

/-- Without backslashes none is pending. -/
theorem piecesFrom_append_of_calm (hcs : '[' ∉ cs) (hslash : '\\' ∉ cs) (rest plain : List Char) :
    piecesFrom plain 0 0 (cs ++ rest) = piecesFrom (cs.reverse ++ plain) 0 0 rest := by
  induction cs generalizing plain with
  | nil => rfl
  | cons c cs ih =>
      rw [List.mem_cons, not_or] at hcs hslash
      rw [List.cons_append, piecesFrom, if_neg (by omega), if_neg (Ne.symm hslash.1),
        if_neg (Ne.symm hcs.1)]
      simpa using ih hcs.2 hslash.2 (c :: plain)

theorem piecesFrom_skip (cs rest : List Char) :
    piecesFrom [] 0 cs.length (cs ++ rest) = pieces rest := by
  induction cs with
  | nil => rfl
  | cons c cs ih =>
      rw [List.cons_append, List.length_cons, piecesFrom, if_pos (Nat.succ_pos _)]
      exact ih

theorem piecesFrom_tag {inside : List Char} (h : tag? (inside ++ ']' :: rest) = some inside)
    (plain : List Char) (slashes : Nat) :
    piecesFrom plain slashes 0 ('[' :: (inside ++ ']' :: rest)) =
      .text plain.reverse :: tagPieces slashes inside ++ pieces rest := by
  have hskip := piecesFrom_skip (inside ++ [']']) rest
  rw [List.append_assoc, List.length_append] at hskip
  rw [piecesFrom, if_neg (by omega), if_neg (by decide), if_pos rfl, h]
  simpa using hskip

theorem tagPieces_zero (hn : IsStyle name) : tagPieces 0 name = [.tag ⟨name, none⟩] := by
  simp [tagPieces, Tag.ofInside, hn.bare]

theorem balanced_plain (hnames : ∀ n ∈ names, IsStyle n) (hcs : '[' ∉ cs) :
    Balanced names (pieces cs) := by
  obtain ⟨plain, slashes, h⟩ := piecesFrom_append hcs [] [] 0
  rw [List.append_nil] at h
  rw [pieces, h, piecesFrom]
  exact .text _ (.nil hnames)

theorem balanced_opening (hn : IsStyle name) (hcs : '[' ∉ cs) (hslash : '\\' ∉ cs)
    (hrest : Balanced (name :: names) (pieces rest)) :
    Balanced names (pieces (cs ++ '[' :: (name ++ ']' :: rest))) := by
  rw [pieces, piecesFrom_append_of_calm hcs hslash, piecesFrom_tag (hn.opening rest),
    tagPieces_zero hn]
  exact .text _ (.opening hn hrest)

/-- A closing tag may be without effect, so that what follows must do for either case. -/
theorem balanced_closing (hn : IsStyle name) (hcs : '[' ∉ cs)
    (hclosed : Balanced names (pieces rest)) (hopen : Balanced (name :: names) (pieces rest)) :
    Balanced (name :: names) (pieces (cs ++ '[' :: ('/' :: name ++ ']' :: rest))) := by
  obtain ⟨plain, slashes, h⟩ :=
    piecesFrom_append hcs ('[' :: ('/' :: name ++ ']' :: rest)) [] 0
  have hinside : Tag.ofInside ('/' :: name) = ⟨'/' :: name, none⟩ := by
    simp [Tag.ofInside, hn.bare]
  have htag : Balanced (name :: names)
      ((if slashes % 2 = 1 then .text ('[' :: ('/' :: name) ++ [']'])
        else .tag (.ofInside ('/' :: name))) :: pieces rest) := by
    split
    · exact .text _ hopen
    · rw [hinside]
      exact .closing hn hclosed
  rw [pieces, h, piecesFrom_tag (hn.closing rest), tagPieces]
  split
  · exact .text _ htag
  · exact .text _ (.text _ htag)

end

/-! ## Lines -/

def IsPrintable (s : String) : Prop := ∃ ls, lines s = .ok ls

theorem isPrintable_of_balanced {s : String} (h : Balanced [] (pieces s.toList)) :
    IsPrintable s := by
  obtain ⟨r, hr, hall⟩ := Printing.foldlM_step h (s := {}) ⟨rfl, List.forall_mem_nil _⟩
  unfold IsPrintable lines render
  rw [hr, Outcome.ok_bind, if_pos hall]
  exact ⟨_, rfl⟩

theorem isPrintable_plain {s : String} (hs : '[' ∉ s.toList) : IsPrintable s :=
  isPrintable_of_balanced (balanced_plain (List.forall_mem_nil _) hs)

section

variable {a b k : String}

theorem balanced_green {rest : List Char} (ha : '[' ∉ a.toList)
    (hrest : ∀ names : List (List Char), (∀ n ∈ names, IsStyle n) → Balanced names (pieces rest)) :
    Balanced [] (pieces ("[green]".toList ++ a.toList ++ "[/green]".toList ++ rest)) := by
  have hgreen : ∀ n ∈ ["green".toList], IsStyle n := by
    rw [List.forall_mem_singleton]
    exact isStyle_green
  have hnil (c : Char) : c ∉ ([] : List Char) := List.not_mem_nil
  have hclosing := balanced_closing isStyle_green ha (hrest [] (List.forall_mem_nil _))
    (hrest _ hgreen)
  simpa using balanced_opening isStyle_green (hnil _) (hnil _) hclosing

theorem balanced_bold {names : List (List Char)} (hnames : ∀ n ∈ names, IsStyle n)
    (hb : '[' ∉ b.toList) (hslash : '\\' ∉ b.toList) (hk : '[' ∉ k.toList) :
    Balanced names (pieces (b.toList ++ "[bold]".toList ++ k.toList ++ "[/bold]".toList)) := by
  have hbold : ∀ n ∈ "bold".toList :: names, IsStyle n := by
    rw [List.forall_mem_cons]
    exact ⟨isStyle_bold, hnames⟩
  have hnil : '[' ∉ ([] : List Char) := List.not_mem_nil
  have hclosing := balanced_closing isStyle_bold hk (balanced_plain hnames hnil)
    (balanced_plain hbold hnil)
  simpa using balanced_opening isStyle_bold hb hslash hclosing

theorem isPrintable_green (ha : '[' ∉ a.toList) (hb : '[' ∉ b.toList) :
    IsPrintable ("[green]" ++ a ++ "[/green]" ++ b) := by
  apply isPrintable_of_balanced
  simp only [String.toList_append]
  exact balanced_green ha fun names hnames => balanced_plain hnames hb

theorem isPrintable_green_bold (ha : '[' ∉ a.toList) (hb : '[' ∉ b.toList)
    (hslash : '\\' ∉ b.toList) (hk : '[' ∉ k.toList) :
    IsPrintable ("[green]" ++ a ++ "[/green]" ++ (b ++ "[bold]" ++ k ++ "[/bold]")) := by
  apply isPrintable_of_balanced
  simp only [String.toList_append]
  exact balanced_green ha fun names hnames => balanced_bold hnames hb hslash hk

end

end Keyring.Markup
