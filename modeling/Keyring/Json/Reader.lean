import Keyring.Json.Basic
import Keyring.Text.Integer

/-!
# Reading documents

`parse` reads a text as one document. Beside the standard's grammar it takes the names `NaN`,
`Infinity` and `-Infinity`; of two fields of one name the later value counts, at the earlier place;
half of a surrogate pair without its other half is read as its stand-in.

A text that is no document is refused with the flaw met first and the place where it was met. Places
are counted as characters left, which only `Error.message` turns into lines and columns. Brackets
that stand too deep in others are refused as they are met, whatever follows them.
-/

namespace Keyring.Json

inductive Flaw where
  | byteOrderMark
  | value
  | name
  | colon
  | comma
  | unterminated
  | control
  | escape
  | unicodeEscape
  | extra

namespace Reader

inductive Nest where
  | array
  | object

inductive Error where
  | flaw (f : Flaw) (left : Nat)
  | integerTooLong (digits : Nat)
  | tooDeep (n : Nest)

def maxDepth : Nat := 980

abbrev Result (α : Type) := Except Error (α × List Char)

def fail {α : Type} (f : Flaw) (cs : List Char) : Except Error α :=
  .error (.flaw f cs.length)

def isSpace (c : Char) : Bool :=
  c = ' ' || c = '\n' || c = '\t' || c = '\r'

def skip (cs : List Char) : List Char := cs.dropWhile isSpace

def isDigit (c : Char) : Bool := 0x30 ≤ c.toNat && c.toNat ≤ 0x39

def natOf (ds : List Char) : Nat :=
  ds.foldl (fun n c => n * 10 + (c.toNat - 0x30)) 0

def fraction (cs : List Char) : List Char × List Char :=
  match cs with
  | '.' :: r =>
    match r.takeWhile isDigit with
    | [] => ([], cs)
    | ds => (ds, r.dropWhile isDigit)
  | _ => ([], cs)

def exponent (cs : List Char) : Option Int × List Char :=
  match cs with
  | c :: r =>
    if c = 'e' || c = 'E' then
      let (neg, r) := Text.Integer.sign r
      match r.takeWhile isDigit with
      | [] => (none, cs)
      | ds => (some (if neg then -(natOf ds : Int) else natOf ds), r.dropWhile isDigit)
    else (none, cs)
  | [] => (none, cs)

/-- The number after its sign: whole unless a fraction or an exponent follows. -/
def number (neg : Bool) (whole rest : List Char) : Result Json :=
  let (fs, rest₁) := fraction rest
  let (e, rest₂) := exponent rest₁
  if fs.isEmpty && e.isNone then
    if Text.Integer.maxDigits < whole.length then .error (.integerTooLong whole.length)
    else .ok (.int (if neg then -(natOf whole : Int) else natOf whole), rest)
  else
    let ds := natOf (whole ++ fs)
    let count := (Nat.toDigits 10 ds).length
    .ok (.float (Binary64.ofDecimal neg ds count (e.getD 0 - fs.length)), rest₂)

def after? (p cs : List Char) : Option (List Char) :=
  if p.isPrefixOf cs then some (cs.drop p.length) else none

def atom (cs : List Char) : Result Json :=
  let names : List (String × Json) :=
    [("null", .null), ("true", .bool true), ("false", .bool false), ("NaN", .float Binary64.nan),
      ("Infinity", .float (Binary64.infinity false)),
      ("-Infinity", .float (Binary64.infinity true))]
  match names.findSome? fun n => (after? n.1.toList cs).map (n.2, ·) with
  | some r => .ok r
  | none =>
    let (neg, ds) := match cs with
      | '-' :: r => (true, r)
      | _ => (false, cs)
    match ds with
    | '0' :: r => number neg ['0'] r
    | c :: _ =>
      if isDigit c then number neg (ds.takeWhile isDigit) (ds.dropWhile isDigit) else fail .value cs
    | [] => fail .value cs

def unit? : List Char → Option (Nat × List Char)
  | a :: b :: c :: d :: e :: r =>
    match Text.Hex.digit? a, Text.Hex.digit? b, Text.Hex.digit? c, Text.Hex.digit? d with
    | some a, some b, some c, some d => some (((a * 16 + b) * 16 + c) * 16 + d, e :: r)
    | _, _, _, _ => none
  | _ => none

open Text.Surrogate (isHigh isLow joined standIn)

def charOf (n : Nat) : Char := if isLow n then standIn n else Char.ofNat n

def letterEscape? : Char → Option Char
  | '\x22' => some '\x22'
  | '\\' => some '\\'
  | '/' => some '/'
  | 'b' => some (Char.ofNat 8)
  | 'f' => some (Char.ofNat 12)
  | 'n' => some '\n'
  | 'r' => some '\r'
  | 't' => some '\t'
  | _ => none

/-- The character of a unit escape and what follows it; `cs` is the text after the letter. -/
def unitEscape? (cs : List Char) : Option (Char × List Char) :=
  match unit? cs with
  | none => none
  | some (n, r) =>
    if isHigh n then
      match r with
      | '\\' :: 'u' :: r' =>
        if r'.length < 5 then some (standIn n, r)
        else
          match unit? r' with
          | none => none
          | some (m, r'') => if isLow m then some (joined n m, r'') else some (standIn n, r)
      | _ => some (standIn n, r)
    else some (charOf n, r)

/--
Where a unit escape is at fault: its own letter, or that of the second one of a pair; `cs` is the
text after the letter.
-/
def badUnit (cs : List Char) : List Char :=
  match unit? cs with
  | some (_, r) => r.drop 1
  | none => 'u' :: cs

/--
The characters up to the closing quote; `opened` is how many were left at the opening one. The fuel
bounds how many characters are read.
-/
def string (opened : Nat) : Nat → List Char → List Char → Result String
  | 0, _, _ => .error (.flaw .unterminated opened)
  | _ + 1, _, [] => .error (.flaw .unterminated opened)
  | fuel + 1, acc, c :: cs =>
    if c = '\x22' then .ok (String.ofList acc.reverse, cs)
    else if c = '\\' then
      match cs with
      | [] => .error (.flaw .unterminated opened)
      | e :: r =>
        if e = 'u' then
          match unitEscape? r with
          | some (x, r') => string opened fuel (x :: acc) r'
          | none => fail .unicodeEscape (badUnit r)
        else
          match letterEscape? e with
          | some x => string opened fuel (x :: acc) r
          | none => fail .escape (c :: cs)
    else if c.toNat < 0x20 then fail .control (c :: cs)
    else string opened fuel (c :: acc) cs

/-- One bracket fewer to stand in each other, if there is room for one. -/
def inner (n : Nest) : Nat → Except Error Nat
  | 0 => .error (.tooDeep n)
  | room + 1 => .ok room

mutual

/-- A value at the head of a text, with room for so many brackets in each other. -/
def value (room : Nat) : Nat → List Char → Result Json
  | 0, cs => fail .value cs
  | fuel + 1, cs =>
    match cs with
    | '\x22' :: r =>
      (string cs.length r.length.succ [] r).map fun p => (.str p.1, p.2)
    | '[' :: r =>
      match inner .array room with
      | .error e => .error e
      | .ok room =>
        match skip r with
        | ']' :: r' => .ok (.arr [], r')
        | r' => items room fuel [] r'
    | '\x7b' :: r =>
      match inner .object room with
      | .error e => .error e
      | .ok room =>
        match skip r with
        | '\x7d' :: r' => .ok (.obj [], r')
        | r' => fields room fuel [] r'
    | _ => atom cs

/-- The items that follow, `acc` being those before them, the last one first. -/
def items (room : Nat) : Nat → List Json → List Char → Result Json
  | 0, _, cs => fail .value cs
  | fuel + 1, acc, cs =>
    match value room fuel cs with
    | .error e => .error e
    | .ok (j, r) =>
      match skip r with
      | ']' :: r' => .ok (.arr (j :: acc).reverse, r')
      | ',' :: r' => items room fuel (j :: acc) (skip r')
      | r' => fail .comma r'

/-- The fields that follow, `acc` being those before them, the last one first. -/
def fields (room : Nat) : Nat → List (String × Json) → List Char → Result Json
  | 0, _, cs => fail .value cs
  | fuel + 1, acc, cs =>
    match cs with
    | '\x22' :: r =>
      match string cs.length r.length.succ [] r with
      | .error e => .error e
      | .ok (k, r) =>
        match skip r with
        | ':' :: r =>
          match value room fuel (skip r) with
          | .error e => .error e
          | .ok (j, r) =>
            match skip r with
            | '\x7d' :: r' => .ok (.obj (tabulate ((k, j) :: acc).reverse), r')
            | ',' :: r' => fields room fuel ((k, j) :: acc) (skip r')
            | r' => fail .comma r'
        | r' => fail .colon r'
    | _ => fail .name cs

end

def document (cs : List Char) : Except Error Json :=
  if cs.head? = some '\ufeff' then fail .byteOrderMark cs
  else
    match value maxDepth (2 * cs.length + 2) (skip cs) with
    | .error e => .error e
    | .ok (j, r) =>
      match skip r with
      | [] => .ok j
      | r' => fail .extra r'

end Reader

def parse (s : String) : Except Reader.Error Json :=
  Reader.document s.toList

def Flaw.message : Flaw → String
  | .byteOrderMark => "Unexpected UTF-8 BOM (decode using utf-8-sig)"
  | .value => "Expecting value"
  | .name => "Expecting property name enclosed in double quotes"
  | .colon => "Expecting ':' delimiter"
  | .comma => "Expecting ',' delimiter"
  | .unterminated => "Unterminated string starting at"
  | .control => "Invalid control character at"
  | .escape => "Invalid \\escape"
  | .unicodeEscape => "Invalid \\uXXXX escape"
  | .extra => "Extra data"

def Reader.Nest.name : Reader.Nest → String
  | .array => "array"
  | .object => "object"

/-- What is wrong with the text `s`, and where: line, column in it, and place overall. -/
def Reader.Error.message (s : String) : Reader.Error → String
  | .integerTooLong digits => Text.Integer.tooLongMessage digits
  | .tooDeep n =>
    "maximum recursion depth exceeded while decoding a JSON " ++ n.name ++ " from a unicode string"
  | .flaw f left =>
    let cs := s.toList
    let place := cs.length - left
    let before := cs.take place
    let line := (before.filter (· = '\n')).length + 1
    let column := (before.reverse.takeWhile (· != '\n')).length + 1
    f.message ++ ": line " ++ toString line ++ " column " ++ toString column ++ " (char "
      ++ toString place ++ ")"

end Keyring.Json
