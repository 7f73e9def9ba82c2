import Keyring.Text.Blank

/-!
# Paths

A path is a root and the names on the way from it. Empty names and names of a single point are left
out of it; going up by two points is kept as written.
-/

namespace Keyring

structure Path where
  /-- Nothing, one slash or exactly two. -/
  root : String
  names : List String

namespace Path

def rootOf : List Char → String
  | '/' :: '/' :: '/' :: _ => "/"
  | '/' :: '/' :: _ => "//"
  | '/' :: _ => "/"
  | _ => ""

/-- Whether a part of a written path leads nowhere. -/
def isIdle (part : List Char) : Bool := part = [] || part = ['.']

def ofText (s : String) : Path :=
  let cs := s.toList
  ⟨rootOf cs, ((Text.splitOn '/' cs).filter fun n => !isIdle n).map String.ofList⟩

def text (p : Path) : String :=
  if p.root.isEmpty && p.names.isEmpty then "." else p.root ++ "/".intercalate p.names

/-- A path as it is written in the shortest way. -/
def normal (s : String) : String := (ofText s).text

def parent (p : Path) : Path := { p with names := p.names.dropLast }

def child (p : Path) (name : String) : Path := { p with names := p.names ++ [name] }

/-- The most bytes in a written path. -/
def maxSize : Nat := 4095

def isTooLong (s : String) : Bool := maxSize < s.utf8ByteSize

def meansFolder (s : String) : Bool := (Text.splitOn '/' s.toList).getLast?.any isIdle

end Path

end Keyring
