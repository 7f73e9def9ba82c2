import Keyring.Command.Layout
import Keyring.Json.Printer

/-!
# The screen

What a command prints, piece by piece: texts with markup, documents, and tables. A piece that cannot
be printed stops the printing, and what was printed before it stays.

A table is as wide as its cells need it to be, with a blank on either side of each cell and lines
between and around the columns. Its title stands over it, broken at its width.
-/

namespace Keyring

open Markup (Unprintable)

structure Table where
  heading : String
  /-- What the table is about: the rest of its title. -/
  subject : String
  columns : List (List String)

inductive Print where
  | text (s : String)
  /-- A text of which the first line is shown. -/
  | opening (s : String)
  | document (j : Json)
  | table (t : Table)

namespace Table

def ofRows (heading subject : String) (names : List String) (rows : List (List String)) : Table :=
  ⟨heading, subject, names.zipIdx.map fun (name, i) => name :: rows.map fun r => r.getD i ""⟩

/-- The lines of the title. One that begins with the heading begins at the margin. -/
def titleLines (t : Table) (width : Nat) (title : List Char) : List String :=
  (Layout.fitted true width title).map fun l =>
    let line := Layout.centered width l
    let words := line.dropWhile (· = ' ')
    String.ofList (if t.heading.toList.isPrefixOf words then words else line)

/-- The lines of a row, of as many as its longest cell has, with the cells side by side. -/
def rowLines (cells : List (List String)) : List String :=
  let height := cells.foldl (fun n c => max n c.length) 1
  (List.range height).map fun i => " | ".intercalate (cells.map fun c => c.getD i "")

def layColumn (cells : List (List Char)) : Nat × List (List String) :=
  let width := (cells.map Layout.natural).foldl max 0
  (width, cells.map fun c =>
    (Layout.fitted false width c).map fun l =>
      String.ofList (Text.strip (Layout.cutOff width l)))

def lines (t : Table) : Except Unprintable (List String) := do
  let columns ← t.columns.mapM fun c => c.mapM Markup.render
  let title ← Markup.render (t.heading ++ t.subject)
  let columns := columns.map layColumn
  let width := columns.foldl (fun n c => n + c.1 + 3) 1
  let height := (columns.map fun c => c.2.length).foldl max 0
  .ok (t.titleLines width title
    ++ (List.range height).flatMap fun i => rowLines (columns.map fun c => c.2.getD i []))

end Table

namespace Print

def lines : Print → Except Unprintable (List String)
  | .text s => Markup.lines s
  | .opening s => (Markup.lines s).map (·.take 1)
  | .table t => t.lines
  | .document j =>
    .ok ((Text.splitOn '\n' (j.render .reading).toList).map fun l =>
      String.ofList (Text.stripEnd l))

end Print

def printAll : List Print → List String × Option Unprintable
  | [] => ([], none)
  | p :: ps =>
    match p.lines with
    | .error u => ([], some u)
    | .ok ls =>
      let (more, stop) := printAll ps
      (ls ++ more, stop)

def trimmed (ls : List String) : List String :=
  (ls.reverse.dropWhile String.isEmpty).reverse

end Keyring
