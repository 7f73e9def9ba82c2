import Keyring.Command.Markup

/-!
# Layout

How text is fitted into a width that is given in cells. A line is broken before a word for which no
room is left; blanks stay with the word before them. A word wider than all the room there is is
either folded, that is broken wherever the room ends, or left to be cut off.
-/

namespace Keyring.Layout

open Text.Width

/--
The words of a line, each with the blanks after it, the first one also with those before. `chunk` is
what has been read of a word, last character first, and `begun` whether it is more than blanks.
-/
def chunksFrom (chunk : List Char) (begun : Bool) : List Char → List (List Char)
  | [] => [chunk.reverse]
  | c :: cs =>
    if begun && !Text.isBlank c && chunk.head?.any Text.isBlank then
      chunk.reverse :: chunksFrom [c] true cs
    else chunksFrom (c :: chunk) (begun || !Text.isBlank c) cs

def chunks (cs : List Char) : List (List Char) := chunksFrom [] false cs

/-- A word in pieces that fit; `used` is how many cells the piece being made takes so far. -/
def chop (width : Nat) (piece : List Char) (used : Nat) : List Char → List (List Char)
  | [] => [piece.reverse]
  | c :: cs =>
    if width < used + cell c then piece.reverse :: chop width [c] (cell c) cs
    else chop width (c :: piece) (used + cell c) cs

/-- The lines for the given words; `line` is the one being made. -/
def breakAll (fold : Bool) (width : Nat) (line : List Char) : List (List Char) → List (List Char)
  | [] => [line]
  | w :: ws =>
    let size := cells (Text.stripEnd w)
    let before := if line.isEmpty then [] else [line]
    if cells line + size ≤ width then breakAll fold width (line ++ w) ws
    else if fold && width < size then
      let pieces := chop width [] 0 w
      before ++ pieces.dropLast ++ breakAll fold width (pieces.getLast?.getD []) ws
    else before ++ breakAll fold width w ws

/-- A line that has too many characters, without as many of the blanks at its end. -/
def dropExcess (width : Nat) (line : List Char) : List Char :=
  let blanks := line.length - (Text.stripEnd line).length
  line.take (line.length - min blanks (line.length - width))

/-- What a line says in so many cells. A wide character that has only half its room is left out. -/
def takeCells (room : Nat) : List Char → List Char
  | [] => List.replicate room ' '
  | c :: cs =>
    if cell c ≤ room then c :: takeCells (room - cell c) cs else List.replicate room ' '

/-- The lines of a text, with blanks for tabs, broken to fit a width. -/
def fitted (fold : Bool) (width : Nat) (cs : List Char) : List (List Char) :=
  (Text.splitOn '\n' cs).flatMap fun l =>
    (breakAll fold width [] (chunks (Markup.expandTabs 0 l))).map (dropExcess width)

/-- A line whose end is cut off if it is too wide, which three dots in one cell then tell. -/
def cutOff (width : Nat) (line : List Char) : List Char :=
  if cells line ≤ width then line else takeCells (width - 1) line ++ ['…']

def centered (width : Nat) (line : List Char) : List Char :=
  let line := Text.stripEnd line
  let line := if cells line ≤ width then line else takeCells width line
  Text.stripEnd (List.replicate ((width - cells line) / 2) ' ' ++ line)

def natural (cs : List Char) : Nat :=
  ((Text.lines cs).map cells).foldl max 0

end Keyring.Layout
