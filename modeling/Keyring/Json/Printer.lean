import Keyring.Json.Basic
import Keyring.Text.Integer

/-!
# Writing documents

`Style` holds what the written forms differ in: whether a document is spread over lines, and whether
characters beyond ASCII are written as escapes of their UTF-16 units, so that halves of pairs can be
written too. An empty array or object is never spread.
-/

namespace Keyring.Json

structure Style where
  /-- The blanks by which each level is indented, if the document is spread over lines. -/
  indent : Option Nat
  ascii : Bool

namespace Style

/-- One line, no blanks. -/
def line : Style := ⟨none, true⟩

/-- Two blanks for each level. -/
def sheet : Style := ⟨some 2, true⟩

/-- As `sheet`, with characters beyond ASCII as they are. -/
def reading : Style := ⟨some 2, false⟩

def newline (s : Style) (depth : Nat) : List Char :=
  match s.indent with
  | none => []
  | some n => '\n' :: List.replicate (n * depth) ' '

def colon (s : Style) : List Char :=
  match s.indent with
  | none => [':']
  | some _ => [':', ' ']

end Style

def unitEscape (n : Nat) : List Char :=
  '\\' :: 'u' :: Text.Hex.ofNat 4 n

def escapedChar (ascii : Bool) (c : Char) : List Char :=
  let n := c.toNat
  if c = '\x22' then ['\\', '\x22']
  else if c = '\\' then ['\\', '\\']
  else if c = '\n' then ['\\', 'n']
  else if c = '\r' then ['\\', 'r']
  else if c = '\t' then ['\\', 't']
  else if n = 8 then ['\\', 'b']
  else if n = 12 then ['\\', 'f']
  else if n < 0x20 then unitEscape n
  else if n < 0x7f || !ascii then [c]
  else if n < 0x10000 then unitEscape n
  else unitEscape (Text.Surrogate.halves c).1 ++ unitEscape (Text.Surrogate.halves c).2

/-- As `escapedChar`, but a stand-in is written as the half that it stands for. -/
def escapedHalf (ascii : Bool) (c : Char) : List Char :=
  match Text.Surrogate.half? c with
  | some half => if ascii then unitEscape half else [c]
  | none => escapedChar ascii c

/-- The characters of a string. Two stand-ins that would make a pair are written as they are. -/
def escapedChars (ascii : Bool) : List Char → List Char
  | [] => []
  | [c] => escapedHalf ascii c
  | c :: d :: cs =>
    if Text.Surrogate.isPair c d then
      escapedChar ascii c ++ escapedChar ascii d ++ escapedChars ascii cs
    else escapedHalf ascii c ++ escapedChars ascii (d :: cs)

def stringChars (ascii : Bool) (cs : List Char) : List Char :=
  '\x22' :: escapedChars ascii cs ++ ['\x22']

mutual

def chars (s : Style) (depth : Nat) : Json → List Char
  | .null => "null".toList
  | .bool b => (if b then "true" else "false").toList
  | .int n => (toString n).toList
  | .float x => (x.textWith "NaN" "Infinity").toList
  | .str t => stringChars s.ascii t.toList
  | .arr [] => ['[', ']']
  | .arr (j :: js) =>
    '[' :: s.newline (depth + 1) ++ chars s (depth + 1) j ++ itemChars s (depth + 1) js
      ++ s.newline depth ++ [']']
  | .obj [] => ['\x7b', '\x7d']
  | .obj ((k, j) :: fs) =>
    '\x7b' :: s.newline (depth + 1) ++ stringChars s.ascii k.toList ++ s.colon
      ++ chars s (depth + 1) j ++ fieldChars s (depth + 1) fs ++ s.newline depth ++ ['\x7d']

def itemChars (s : Style) (depth : Nat) : List Json → List Char
  | [] => []
  | j :: js => ',' :: s.newline depth ++ chars s depth j ++ itemChars s depth js

def fieldChars (s : Style) (depth : Nat) : List (String × Json) → List Char
  | [] => []
  | (k, j) :: fs =>
    ',' :: s.newline depth ++ stringChars s.ascii k.toList ++ s.colon ++ chars s depth j
      ++ fieldChars s depth fs

end

def render (s : Style) (j : Json) : String :=
  String.ofList (chars s 0 j)

mutual

def isWritable : Json → Bool
  | .int n => !Text.Integer.isTooLong n
  | .arr js => areWritable js
  | .obj fs => haveWritable fs
  | _ => true

def areWritable : List Json → Bool
  | [] => true
  | j :: js => isWritable j && areWritable js

def haveWritable : List (String × Json) → Bool
  | [] => true
  | (_, j) :: fs => isWritable j && haveWritable fs

end

end Keyring.Json
