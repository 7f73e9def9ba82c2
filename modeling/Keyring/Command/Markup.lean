import Keyring.Command.Markup.Literal
import Keyring.Command.Markup.Style
import Keyring.Text.Emoji
import Keyring.Text.Width

/-!
# Markup

Printed texts carry styles between tags in square brackets. A tag begins with a lower-case letter or
one of `#`, `/`, `@`, and has no bracket inside; what follows an equals sign in it is its parameter.
A backslash before a tag takes its effect away, and two backslashes there stand for one. A closing
tag names the style it closes, or none for the last one. A tag that begins with `@` names a handler,
whose parameter is read when the tag is closed.

A text cannot be printed in which a closing tag closes nothing, or the parameter of a handler or a
component of a colour cannot be read. What can be printed has emoji in place of their names.
-/

namespace Keyring.Markup

structure Tag where
  name : List Char
  parameter? : Option (List Char) := none

def Tag.ofInside (inside : List Char) : Tag :=
  let name := inside.takeWhile (· != '=')
  ⟨name, if name.length < inside.length then some (inside.drop (name.length + 1)) else none⟩

inductive Piece where
  | text (cs : List Char)
  | tag (t : Tag)

def mayBeginTag (c : Char) : Bool :=
  ('a' ≤ c && c ≤ 'z') || c = '#' || c = '/' || c = '@'

def untilBracket : List Char → Option (List Char)
  | [] => none
  | c :: cs =>
    if c = ']' then some []
    else if c = '[' then none
    else (untilBracket cs).map (c :: ·)

/-- The inside of the tag whose opening bracket has just been passed. -/
def tag? : List Char → Option (List Char)
  | [] => none
  | c :: cs => if mayBeginTag c then (untilBracket cs).map (c :: ·) else none

/-- The pieces that a tag after so many backslashes amounts to. -/
def tagPieces (slashes : Nat) (inside : List Char) : List Piece :=
  let kept := if slashes < 2 then [] else [.text (List.replicate (slashes / 2) '\\')]
  kept ++ [if slashes % 2 = 1 then .text ('[' :: inside ++ [']'])
    else .tag (.ofInside inside)]

/--
The pieces of a text. `plain` is the text before this point, last character first, `slashes` the
backslashes right before it, and `skip` how many characters belong to a tag already taken.
-/
def piecesFrom (plain : List Char) (slashes skip : Nat) : List Char → List Piece
  | [] => [.text (List.replicate slashes '\\' ++ plain).reverse]
  | c :: cs =>
    if 0 < skip then piecesFrom plain slashes (skip - 1) cs
    else if c = '\\' then piecesFrom plain (slashes + 1) 0 cs
    else
      match if c = '[' then tag? cs else none with
      | some inside =>
        .text plain.reverse :: tagPieces slashes inside ++ piecesFrom [] 0 (inside.length + 1) cs
      | none => piecesFrom (c :: List.replicate slashes '\\' ++ plain) 0 0 cs

def pieces (cs : List Char) : List Piece := piecesFrom [] 0 0 cs

/-- A bracket that opens no tag may have a backslash before it, which is dropped. -/
def unescape : List Char → List Char
  | '\\' :: '[' :: cs => '[' :: unescape cs
  | c :: cs => c :: unescape cs
  | [] => []

inductive Unprintable where
  | closing
  | handler
  | color
deriving DecidableEq

/-- A style by its name; a colour in it may be unreadable. -/
def styleName (cs : List Char) : Except Unprintable (List Char) :=
  (Style.normal cs).mapError fun _ => .color

/-- Control characters that are never printed. -/
def isDropped (c : Char) : Bool :=
  c.toNat = 7 || c.toNat = 8 || (11 ≤ c.toNat && c.toNat ≤ 13)

namespace Tag

def isHandler (t : Tag) : Bool := t.name.head? = some '@'

/-- Whether the parameter of a handler, if there is one, can be read. -/
def holds (t : Tag) : Bool :=
  match t.parameter? with
  | none => true
  | some p => p.isEmpty || Literal.isHandler p

def style (t : Tag) : List Char :=
  t.name ++ match t.parameter? with
    | none => []
    | some p => ' ' :: p

end Tag

structure OpenTag where
  tag : Tag
  start : Nat

def close? (name : List Char) : List OpenTag → Option (OpenTag × List OpenTag)
  | [] => none
  | t :: ts =>
    if name = [] ∨ t.tag.name = name then some (t, ts)
    else (close? name ts).map fun r => (r.1, t :: r.2)

structure Span where
  style : List Char
  chars : List Char

structure Printing where
  /-- What is printed, last character first. -/
  out : List Char := []
  opened : List OpenTag := []
  spans : List Span := []

namespace Printing

def span (s : Printing) (t : OpenTag) : Span :=
  ⟨t.tag.style, (s.out.take (s.out.length - t.start)).reverse⟩

def step (s : Printing) : Piece → Except Unprintable Printing
  | .text cs =>
    let cs := (Text.Emoji.replace (unescape cs)).filter fun c => !isDropped c
    .ok { s with out := cs.reverse ++ s.out }
  | .tag ⟨'/' :: name, _⟩ => do
    let name := Text.strip name
    let name ← if name.isEmpty then .ok [] else styleName name
    match close? name s.opened with
    | none => .error .closing
    | some (t, opened) =>
      if !t.tag.isHandler then .ok { s with opened, spans := s.span t :: s.spans }
      else if t.tag.holds then .ok { s with opened }
      else .error .handler
  | .tag t => do
    let name ← styleName t.name
    .ok { s with opened := ⟨⟨name, t.parameter?⟩, s.out.length⟩ :: s.opened }

def allSpans (s : Printing) : List Span := s.spans ++ s.opened.map s.span

/--
Whether the style of a stretch can be applied, as it can if it is none at all. Where a text is taken
apart, at the ends of lines or at tabs, stretches without characters are lost.
-/
def applies (s : Printing) (x : Span) : Bool :=
  match Style.ofText x.style with
  | .error .component =>
    (s.out.contains '\n' || s.out.contains '\t') && x.chars.all (· = '\n')
  | _ => true

end Printing

def render (s : String) : Except Unprintable (List Char) := do
  let r ← (pieces s.toList).foldlM Printing.step {}
  if r.allSpans.all r.applies then .ok r.out.reverse else .error .color

def tabWidth : Nat := 8

/-- A line with blanks for its tabs; `column` is how many cells stand before. -/
def expandTabs (column : Nat) : List Char → List Char
  | [] => []
  | c :: cs =>
    if c = '\t' then
      let n := tabWidth - column % tabWidth
      List.replicate n ' ' ++ expandTabs (column + n) cs
    else c :: expandTabs (column + Text.Width.cell c) cs

def lines (s : String) : Except Unprintable (List String) :=
  (render s).map fun cs =>
    (Text.splitOn '\n' cs).map fun l => String.ofList (Text.stripEnd (expandTabs 0 l))

end Keyring.Markup
