import Keyring.Text.Blank
import Keyring.Text.Digit
import Keyring.Text.Hex
import Keyring.Text.Integer
import Keyring.Text.Word

/-!
# Literals

The parameters of a handler are written as a literal: numbers, texts, the names of constants, and
groups of literals in round or curly brackets. `isLiteral` tells whether a text is one.

A literal is first cut into tokens. Of the value it stands for only the `Kind` is kept, since all
that can go wrong beyond the grammar is a sign before something else than a number, a sum of other
things than a real and an imaginary number, and a member of a set or a key of a table that is itself
a set or a table.
-/

namespace Keyring.Markup.Literal

inductive Token where
  | number (imaginary : Bool)
  | text
  | bytes
  | constant
  /-- The name of the empty set, which counts with brackets after it. -/
  | set
  | mark (c : Char)
  | newline

def isNameChar (c : Char) : Bool := Text.isWordChar c || 0x80 ≤ c.toNat

/-! ## Numbers -/

/-- Digits with single low lines between them: the digits, and what follows. -/
def digitRun (isDigit : Char → Bool) : List Char → List Char × List Char
  | [] => ([], [])
  | '_' :: c :: cs =>
    if isDigit c then
      let (ds, rest) := digitRun isDigit cs
      (c :: ds, rest)
    else ([], '_' :: c :: cs)
  | c :: cs =>
    if isDigit c then
      let (ds, rest) := digitRun isDigit cs
      (c :: ds, rest)
    else ([], c :: cs)

def isDecimal (c : Char) : Bool := '0' ≤ c && c ≤ '9'

def decimals (cs : List Char) : List Char × List Char :=
  if cs.head? = some '_' then ([], cs) else digitRun isDecimal cs

/-- The letters that go before whole numbers of other bases, and their digits. -/
def bases : List (Char × (Char → Bool)) :=
  [('x', fun c => (Text.Hex.digit? c).isSome), ('o', fun c => '0' ≤ c && c ≤ '7'),
    ('b', fun c => c = '0' || c = '1')]

def exponent? : List Char → Option (List Char)
  | e :: cs =>
    if e.toLower = 'e' then
      let (_, cs) := Text.Integer.sign cs
      match decimals cs with
      | ([], _) => none
      | (_, rest) => some rest
    else none
  | [] => none

def decimal (cs : List Char) : Option (Token × List Char) :=
  let (whole, rest) := decimals cs
  let (hasPoint, part, rest) := match rest with
    | '.' :: rest =>
      let (ds, rest) := decimals rest
      (true, ds, rest)
    | _ => (false, [], rest)
  let (hasExponent, rest) := match exponent? rest with
    | some rest => (true, rest)
    | none => (false, rest)
  if whole.isEmpty && part.isEmpty then none
  else
    match rest with
    | 'j' :: rest => some (.number true, rest)
    | 'J' :: rest => some (.number true, rest)
    | _ =>
      if hasPoint || hasExponent then some (.number false, rest)
      else if whole.head? = some '0' && whole.any (· != '0') then none
      else if Text.Integer.maxDigits < whole.length then none
      else some (.number false, rest)

def based? : List Char → Option (List Char × List Char)
  | '0' :: b :: rest => (bases.find? fun e => e.1 = b.toLower).map fun e => digitRun e.2 rest
  | _ => none

def number (cs : List Char) : Option (Token × List Char) :=
  let read := match based? cs with
    | some ([], _) => none
    | some (_, rest) => some (Token.number false, rest)
    | none => decimal cs
  match read with
  | none => none
  | some (t, rest) => if rest.head?.any isNameChar then none else some (t, rest)

/-! ## Texts -/

/-- What follows so many hexadecimal digits, and the number they make. -/
def hexDigits (n value : Nat) (cs : List Char) : Option (Nat × List Char) :=
  match n, cs with
  | 0, cs => some (value, cs)
  | _ + 1, [] => none
  | n + 1, c :: cs =>
    match Text.Hex.digit? c with
    | some d => hexDigits n (16 * value + d) cs
    | none => none

/-- Whether the escapes of a text, or of a run of bytes, are as they should be. -/
def escapesHold (inBytes : Bool) : List Char → Bool
  | [] => true
  | '\\' :: c :: cs =>
    (match c with
      | 'x' => (hexDigits 2 0 cs).isSome
      | 'u' => inBytes || (hexDigits 4 0 cs).isSome
      | 'U' => inBytes || (hexDigits 8 0 cs).any fun r => r.1 < 0x110000
      | 'N' => inBytes || isNamed cs
      | _ => true) && escapesHold inBytes cs
  | _ :: cs => escapesHold inBytes cs
where
  /-- A character given by its name in curly brackets. -/
  isNamed (cs : List Char) : Bool :=
    match cs with
    | '\x7b' :: cs =>
      let name := cs.takeWhile (· != '\x7d')
      !name.isEmpty && name.length < cs.length
    | _ => false

/--
The characters up to the closing quotes, and what follows these; a backslash keeps the character
after it from closing anything.
-/
def quotedBy (quotes : List Char) : List Char → Option (List Char × List Char)
  | [] => none
  | c :: cs =>
    if quotes.isPrefixOf (c :: cs) then some ([], (c :: cs).drop quotes.length)
    else if c = '\n' && quotes.length = 1 then none
    else if c = '\\' then
      match cs with
      | [] => none
      | d :: cs => (quotedBy quotes cs).map fun r => (c :: d :: r.1, r.2)
    else (quotedBy quotes cs).map fun r => (c :: r.1, r.2)

/-- The letters that may stand before a quote: which leave escapes alone, and which mean bytes. -/
def textPrefixes : List (String × Bool × Bool) :=
  [("", false, false), ("u", false, false), ("r", true, false), ("b", false, true),
    ("br", true, true), ("rb", true, true)]

def text (name cs : List Char) : Option (Token × List Char) :=
  match cs with
  | [] => none
  | q :: _ =>
    let quotes := if [q, q, q].isPrefixOf cs then [q, q, q] else [q]
    match textPrefixes.find? fun p => p.1.toList = name.map Char.toLower,
        quotedBy quotes (cs.drop quotes.length) with
    | some (_, raw, inBytes), some (body, rest) =>
      if (raw || escapesHold inBytes body) && (!inBytes || body.all (·.toNat < 0x80)) then
        some (if inBytes then .bytes else .text, rest)
      else none
    | _, _ => none

/-! ## Tokens -/

def constants : List String := ["None", "True", "False"]

def isQuote (c : Char) : Bool := c = '\x22' || c = '\x27'

def word (cs : List Char) : Option (Token × List Char) :=
  let name := cs.takeWhile isNameChar
  let rest := cs.drop name.length
  if rest.head?.any isQuote then text name rest
  else if constants.contains (String.ofList name) then some (.constant, rest)
  else if name = "set".toList then some (.set, rest)
  else none

def token (cs : List Char) : Option (Token × List Char) :=
  match cs with
  | [] => none
  | '\n' :: rest => some (.newline, rest)
  | '.' :: '.' :: '.' :: rest => some (.constant, rest)
  | c :: rest =>
    if "(){},:+-".toList.contains c then some (.mark c, rest)
    else if isQuote c then text [] cs
    else if isDecimal c || c = '.' then number cs
    else if isNameChar c then word cs
    else none

/-- The text without the blanks and the comment at its head. -/
def skip : List Char → List Char
  | [] => []
  | '\\' :: '\n' :: c :: cs => skip (c :: cs)
  | c :: cs =>
    if c = ' ' || c = '\t' || c = '\x0c' then skip cs
    else if c = '#' then cs.dropWhile (· != '\n')
    else c :: cs

def tokens : Nat → List Char → Option (List Token)
  | 0, _ => none
  | fuel + 1, cs =>
    match skip cs with
    | [] => some []
    | cs => do
      let (t, rest) ← token cs
      (tokens fuel rest).map (t :: ·)

def maxDepth : Nat := 200

/-- How many brackets are open behind a token, if they are not too many. -/
def depthAfter (depth : Nat) : Token → Option Nat
  | .mark c =>
    if c = '(' || c = '\x7b' then (if depth < maxDepth then some (depth + 1) else none)
    else if c = ')' || c = '\x7d' then some (depth - 1)
    else some depth
  | _ => some depth

def isNewline : Token → Bool
  | .newline => true
  | _ => false

/--
The tokens without the line breaks within brackets, if brackets are not nested too deep; `depth` is
how many brackets are open. A line break outside of them ends the literal.
-/
def joined (depth : Nat) : List Token → Option (List Token)
  | [] => some []
  | t :: ts =>
    if isNewline t then
      if depth ≠ 0 then joined depth ts else if ts.all isNewline then some [] else none
    else
      match depthAfter depth t with
      | none => none
      | some depth => (joined depth ts).map (t :: ·)

/-! ## Values -/

inductive Kind where
  | real
  | imaginary
  /-- A number with a sign before it; true for an imaginary one. -/
  | signed (imaginary : Bool)
  /-- Any other value that may be a key. -/
  | key
  /-- A value that may be no key. -/
  | table
  /-- The bare name of the empty set. -/
  | set
deriving DecidableEq

namespace Kind

def sign : Kind → Option Kind
  | .real => some (.signed false)
  | .imaginary => some (.signed true)
  | _ => none

def plus : Kind → Kind → Option Kind
  | .real, .imaginary => some .key
  | .signed false, .imaginary => some .key
  | _, _ => none

def isKey : Kind → Bool
  | .table => false
  | .set => false
  | _ => true

def isValue (s : Kind) : Bool := s != .set

end Kind

/-- The value of a group in round brackets, by its members. -/
def tuple (members : List Kind) : Option Kind :=
  if members.all Kind.isKey then some .key
  else if members.all Kind.isValue then some .table
  else none

/-- The tokens after the texts that go on a text just passed, which must be of its kind. -/
def afterTexts (inBytes : Bool) : List Token → Option (List Token)
  | .text :: ts => if inBytes then none else afterTexts inBytes ts
  | .bytes :: ts => if inBytes then afterTexts inBytes ts else none
  | ts => some ts

mutual

def atom : Nat → List Token → Option (Kind × List Token)
  | 0, _ => none
  | fuel + 1, ts =>
    match ts with
    | .number false :: ts => some (.real, ts)
    | .number true :: ts => some (.imaginary, ts)
    | .text :: ts => (afterTexts false ts).map (.key, ·)
    | .bytes :: ts => (afterTexts true ts).map (.key, ·)
    | .constant :: ts => some (.key, ts)
    | .set :: ts => some (.set, ts)
    | .mark '(' :: .mark ')' :: ts => some (.key, ts)
    | .mark '(' :: ts =>
      match members fuel [] ')' ts with
      | some ([s], false, ts) => some (s, ts)
      | some (ss, _, ts) => (tuple ss).map (·, ts)
      | none => none
    | .mark '\x7b' :: .mark '\x7d' :: ts => some (.table, ts)
    | .mark '\x7b' :: ts =>
      match sum fuel ts with
      | some (_, .mark ':' :: _) => (entries fuel ts).map (.table, ·)
      | _ =>
        match members fuel [] '\x7d' ts with
        | some (ss, _, ts) => if ss.all Kind.isKey then some (.table, ts) else none
        | none => none
    | _ => none

/-- A value, and the brackets that make the name of the empty set a value. -/
def primary : Nat → List Token → Option (Kind × List Token)
  | 0, _ => none
  | fuel + 1, ts =>
    match atom fuel ts with
    | some (.set, .mark '(' :: .mark ')' :: ts) => some (.table, ts)
    | r => r

def factor : Nat → List Token → Option (Kind × List Token)
  | 0, _ => none
  | fuel + 1, ts =>
    match ts with
    | .mark '-' :: ts => signedFactor fuel ts
    | .mark '+' :: ts => signedFactor fuel ts
    | ts => primary fuel ts

def signedFactor : Nat → List Token → Option (Kind × List Token)
  | 0, _ => none
  | fuel + 1, ts =>
    match factor fuel ts with
    | some (s, ts) => s.sign.map (·, ts)
    | none => none

def sum : Nat → List Token → Option (Kind × List Token)
  | 0, _ => none
  | fuel + 1, ts =>
    match factor fuel ts with
    | some (s, .mark '+' :: ts) => added fuel s ts
    | some (s, .mark '-' :: ts) => added fuel s ts
    | r => r

/-- The second of two values that are added; a sum of three is none. -/
def added : Nat → Kind → List Token → Option (Kind × List Token)
  | 0, _, _ => none
  | fuel + 1, s, ts =>
    match factor fuel ts with
    | some (t, ts) => (s.plus t).map (·, ts)
    | none => none

/-- The values up to a closing bracket, and whether a comma stands behind the last one. -/
def members : Nat → List Kind → Char → List Token → Option (List Kind × Bool × List Token)
  | 0, _, _, _ => none
  | fuel + 1, before, close, ts =>
    match sum fuel ts with
    | some (s, .mark ',' :: .mark c :: ts) =>
      if c = close then some (before ++ [s], true, ts)
      else members fuel (before ++ [s]) close (.mark c :: ts)
    | some (s, .mark ',' :: ts) => members fuel (before ++ [s]) close ts
    | some (s, .mark c :: ts) => if c = close then some (before ++ [s], false, ts) else none
    | _ => none

def entries : Nat → List Token → Option (List Token)
  | 0, _ => none
  | fuel + 1, ts =>
    match sum fuel ts with
    | some (k, .mark ':' :: ts) =>
      match sum fuel ts with
      | some (v, .mark ',' :: .mark '\x7d' :: ts) =>
        if k.isKey && v.isValue then some ts else none
      | some (v, .mark ',' :: ts) => if k.isKey && v.isValue then entries fuel ts else none
      | some (v, .mark '\x7d' :: ts) => if k.isKey && v.isValue then some ts else none
      | _ => none
    | _ => none

end

/-- Values with commas between them up to the end, at least one. -/
def isList (fuel : Nat) : Nat → List Token → Bool
  | 0, _ => false
  | n + 1, ts =>
    match sum fuel ts with
    | some (s, []) => s.isValue
    | some (s, [.mark ',']) => s.isValue
    | some (s, .mark ',' :: ts) => s.isValue && isList fuel n ts
    | _ => false

/-- The text without the lines at its head that hold nothing. -/
def skipLines : Nat → List Char → List Char
  | 0, cs => cs
  | n + 1, cs =>
    match skip cs with
    | '\n' :: rest => skipLines n rest
    | _ => cs

def isLiteral (cs : List Char) : Bool :=
  let cs := Text.unifyNewlines cs
  let cs := skipLines cs.length (cs.dropWhile fun c => c = ' ' || c = '\t')
  if cs.contains '\x00' || cs.head?.any Text.isBlank then false
  else
    match (tokens (cs.length + 1) cs).bind (joined 0) with
    | none => false
    | some ts => isList (8 * ts.length + 8) (ts.length + 1) ts

/-! ## Handlers -/

/--
Whether the parameters of a handler can be read. A name alone takes none; a name may have the
literal of its parameters behind it in round brackets; anything else is itself the literal.
-/
def isHandler (cs : List Char) : Bool :=
  let cs := Text.strip cs
  let rest := cs.dropWhile fun c => Text.isWordChar c || c = '.'
  match rest with
  | [] => true
  | '(' :: _ =>
    if rest.getLast? = some ')' && !rest.contains '\n' then isLiteral rest else isLiteral cs
  | _ => isLiteral cs

end Keyring.Markup.Literal
