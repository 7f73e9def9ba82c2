import Mathlib.Tactic.Common
import Keyring.Text.Blank

/-!
# Lines

A break cuts a text in two: the lines of the whole are those up to the break, and then those of what
follows. That holds before and after the newlines are made one kind, though a carriage return before
a line feed goes with it into one break.
-/

namespace Keyring.Text

/-! ## Cutting at a break -/

@[simp] theorem lines_nil : lines [] = [] := rfl

theorem ne_return_of_not_isLineBreak {c : Char} (hc : isLineBreak c = false) : c ≠ '\r' := by
  rintro rfl
  exact absurd hc (by decide)

theorem linesFrom_of_ne_return {c : Char} (hc : c ≠ '\r') (line cs : List Char) :
    linesFrom line (c :: cs) =
      if isLineBreak c then line.reverse :: linesFrom [] cs else linesFrom (c :: line) cs := by
  rw [linesFrom]
  rintro r rfl
  exact absurd rfl hc

theorem linesFrom_feed (line cs : List Char) :
    linesFrom line ('\n' :: cs) = line.reverse :: linesFrom [] cs := by
  rw [linesFrom_of_ne_return (by decide), if_pos (by decide)]

/-- A character is made one kind of newline by itself, unless it is the first of two for one. -/
theorem unifyNewlines_cons {c : Char} {cs : List Char} (h : c = '\r' → cs.head? ≠ some '\n') :
    unifyNewlines (c :: cs) = (if c = '\r' then '\n' else c) :: unifyNewlines cs := by
  rw [unifyNewlines]
  rintro r rfl rfl
  exact h rfl rfl

theorem linesFrom_unifyNewlines_append {b : Char} (hb : isLineBreak b = true) {ds : List Char}
    (hds : b = '\r' → ds.head? ≠ some '\n') (cs line : List Char) :
    linesFrom line (unifyNewlines (cs ++ b :: ds)) =
      linesFrom line (unifyNewlines (cs ++ [b])) ++ linesFrom [] (unifyNewlines ds) := by
  have hone (c : Char) : (if c = '\r' then '\n' else c) ≠ '\r' := by
    split
    · decide
    · assumption
  fun_induction unifyNewlines cs generalizing line with
  | case1 =>
      have hbreak : isLineBreak (if b = '\r' then '\n' else b) = true := by
        split
        · rfl
        · exact hb
      rw [List.nil_append, List.nil_append, unifyNewlines_cons hds,
        unifyNewlines_cons (by simp), linesFrom_of_ne_return (hone b),
        linesFrom_of_ne_return (hone b), if_pos hbreak, if_pos hbreak]
      rfl
  | case2 cs ih => simp [unifyNewlines, linesFrom_feed, ih]
  | case3 c cs hcs ih =>
      by_cases hlast : c = '\r' ∧ cs = [] ∧ b = '\n'
      · -- A carriage return at the end takes the line feed to itself.
        obtain ⟨rfl, rfl, rfl⟩ := hlast
        simp [unifyNewlines, linesFrom_feed, linesFrom]
      · have hunify (es : List Char) : unifyNewlines (c :: (cs ++ b :: es)) =
            (if c = '\r' then '\n' else c) :: unifyNewlines (cs ++ b :: es) := by
          apply unifyNewlines_cons
          rintro rfl
          rcases cs with _ | ⟨d, cs⟩
          · exact fun hhead => hlast ⟨rfl, rfl, Option.some.inj hhead⟩
          · rintro hhead
            obtain rfl : d = '\n' := Option.some.inj hhead
            exact hcs cs rfl rfl
        have hne := hone c
        rw [List.cons_append, List.cons_append, hunify, hunify]
        generalize (if c = '\r' then '\n' else c) = d at hne ⊢
        rw [linesFrom_of_ne_return hne, linesFrom_of_ne_return hne]
        split
        · rw [ih, List.cons_append]
        · exact ih _

/-- The lines of a text that is cut behind a break. -/
theorem lines_unifyNewlines_append_of_isLineBreak {b : Char} (hb : isLineBreak b = true)
    (cs : List Char) {ds : List Char} (hds : b = '\r' → ds.head? ≠ some '\n') :
    lines (unifyNewlines (cs ++ [b] ++ ds)) =
      lines (unifyNewlines (cs ++ [b])) ++ lines (unifyNewlines ds) := by
  rw [List.append_assoc]
  exact linesFrom_unifyNewlines_append hb hds cs []

/-- The lines of a text that is cut behind a line feed. -/
theorem lines_unifyNewlines_append (cs ds : List Char) :
    lines (unifyNewlines (cs ++ ['\n'] ++ ds)) =
      lines (unifyNewlines (cs ++ ['\n'])) ++ lines (unifyNewlines ds) :=
  lines_unifyNewlines_append_of_isLineBreak (by decide) cs nofun

/-! ## One line -/

theorem linesFrom_of_not_isLineBreak {cs : List Char} (hcs : ∀ c ∈ cs, isLineBreak c = false)
    (line ds : List Char) : linesFrom line (cs ++ ds) = linesFrom (cs.reverse ++ line) ds := by
  induction cs generalizing line with
  | nil => rfl
  | cons c cs ih =>
      rw [List.forall_mem_cons] at hcs
      rw [List.cons_append, linesFrom_of_ne_return (ne_return_of_not_isLineBreak hcs.1),
        if_neg (by simp [hcs.1]), ih hcs.2]
      simp

/-- A text without breaks is one line, once a line feed ends it. -/
theorem lines_of_not_isLineBreak {cs : List Char} (hcs : ∀ c ∈ cs, isLineBreak c = false) :
    lines (cs ++ ['\n']) = [cs] := by
  rw [lines, linesFrom_of_not_isLineBreak hcs, linesFrom_feed]
  simp [linesFrom]

/-! ## Margins -/

theorem stripWith_append_of_pos {p : Char → Bool} {cs : List Char} (hcs : ∀ c ∈ cs, p c = true)
    (ds : List Char) : stripWith p (cs ++ ds) = stripWith p ds := by
  unfold stripWith
  rw [List.dropWhile_append_of_pos hcs]

/-- Margins are taken off at one end only, if the other has none. -/
theorem stripWith_append_of_last {p : Char → Bool} {c d : Char} {cs es : List Char}
    (hcs : cs.dropWhile p = c :: es) (hd : p d = false) (ds : List Char) :
    stripWith p (cs ++ (ds ++ [d])) = c :: es ++ (ds ++ [d]) := by
  unfold stripWith
  rw [List.dropWhile_append, hcs, if_neg (by simp), ← List.append_assoc, List.reverse_append]
  simp [hd]

theorem stripWith_of_ends {p : Char → Bool} {c d : Char} (hc : p c = false) (hd : p d = false)
    (cs : List Char) : stripWith p (c :: (cs ++ [d])) = c :: (cs ++ [d]) := by
  unfold stripWith
  rw [List.dropWhile_cons_of_neg (by simp [hc]), ← List.cons_append, List.reverse_append]
  simp [hd]

end Keyring.Text
