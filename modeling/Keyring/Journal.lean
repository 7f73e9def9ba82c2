import Keyring.Calendar
import Keyring.Event
import Keyring.Fault
import Keyring.Json.Printer

/-!
# Journals

A journal keeps events as lines of text, one document a line, stamped with the time of recording.
The lines are held in a buffer or appended to a file. Reading takes every line that is a document
and passes over the others.
-/

namespace Keyring

inductive Journal where
  | buffer (lines : List String)
  /-- The text of the file, if it exists. -/
  | file (text : Option String)

namespace Journal

open Calendar (Instant)

def line? (now : Instant) (e : Event) : Option String :=
  if e.toJson.isWritable then
    (Calendar.isoText? now).map fun recordedAt =>
      Json.render .line (.obj (("recorded_at", .str recordedAt) :: e.toFields))
  else none

def append (j : Journal) (line : String) : Journal :=
  match j with
  | .buffer lines => .buffer (lines ++ [line])
  | .file text => .file (some (text.getD "" ++ line ++ "\n"))

/-- Records an event. One that cannot be written leaves the journal as it is. -/
def emit (j : Journal) (now : Instant) (e : Event) : Journal :=
  match line? now e with
  | some line => j.append line
  | none => j

def drain : Journal → List String × Journal
  | .buffer lines => (lines, .buffer [])
  | .file text => ([], .file text)

/-- The text of a file as it is read: with one kind of newline. -/
def fileText (text : String) : String := String.ofList (Text.unifyNewlines text.toList)

def lines : Journal → List String
  | .buffer lines => lines
  | .file none => []
  | .file (some text) => (Text.lines (Text.unifyNewlines text.toList)).map String.ofList

/-- The documents among the lines. One that is too long or too deep to be read stops the reading. -/
def documents : List String → Outcome (List Json)
  | [] => .ok []
  | l :: ls =>
    let s := String.ofList (Text.strip l.toList)
    if s.isEmpty then documents ls
    else
      match Json.parse s with
      | .ok j => (documents ls).map (j :: ·)
      | .error (.flaw ..) => documents ls
      | .error e => .error (.document s e)

/--
The last `n` of some items. Without a number, or with zero, all of them; a negative number counts
the items to leave out at the front.
-/
def last {α : Type} (n : Option Int) (xs : List α) : List α :=
  match n with
  | none => xs
  | some n => if 0 < n then xs.drop (xs.length - n.toNat) else xs.drop (-n).toNat

def read (j : Journal) (tail : Option Int) : Outcome (List Json) :=
  (documents j.lines).map (last tail)

end Journal

end Keyring
