import Keyring.Json.Basic
import Keyring.Text.Integer

/-!
# Lenient decoding

Stored documents are read generously: a number may come as text, a truth value as anything, a text
as any value, an object as a list of pairs. `DecodeError` says why a value was refused all the same.
-/

namespace Keyring

inductive DecodeError where
  /-- A field that must be there is not. -/
  | missing (name : String)
  /-- Fields were looked up in a value that has none. -/
  | noFields
  /-- A value of a kind that cannot be converted. -/
  | kind
  | notInteger (text : String)
  | integerTooLong (digits : Nat)
  | notFinite (e : Binary64.NotFinite)
  /-- An entry of a list of pairs that is no pair. -/
  | notPair (index length : Nat)
  | notHex (place : Nat)
  /-- A value outside the named set of choices. -/
  | notChoice (value : Json) (choices : String)
  | notAction (type : Json)

namespace DecodeError

def quotedLimit : Nat := 200

def message? : DecodeError → Option String
  | .missing name => some (Text.quoted name)
  | .noFields => none
  | .kind => none
  | .notInteger text =>
    some ("invalid literal for int() with base 10: "
      ++ String.ofList ((Text.quotedChars text.toList).take quotedLimit))
  | .integerTooLong digits => some (Text.Integer.tooLongMessage digits)
  | .notFinite e => some e.message
  | .notPair index length =>
    some ("dictionary update sequence element #" ++ toString index ++ " has length "
      ++ toString length ++ "; 2 is required")
  | .notHex place =>
    some ("non-hexadecimal number found in fromhex() arg at position " ++ toString place)
  | .notChoice value choices => some (value.quotedText ++ " is not a valid " ++ choices)
  | .notAction type => some ("Unknown action type " ++ type.quotedText ++ ".")

end DecodeError

namespace Json

/-- A whole number, a number cut off at its point, a truth value as 0 or 1, or a number in text. -/
def toInt : Json → Except DecodeError Int
  | .int n => .ok n
  | .bool b => .ok (if b then 1 else 0)
  | .float x => x.truncate.mapError .notFinite
  | .str s =>
    match Text.Integer.parse s with
    | .ok n => .ok n
    | .error .malformed => .error (.notInteger s)
    | .error (.tooLong digits) => .error (.integerTooLong digits)
  | _ => .error .kind

/-- The values met when a value is gone through: items, characters, or names of fields. -/
def toItems : Json → Except DecodeError (List Json)
  | .arr items => .ok items
  | .str s => .ok (s.toList.map fun c => .str (String.ofList [c]))
  | .obj fs => .ok (fs.map fun f => .str f.1)
  | _ => .error .kind

/-- Whether a value may name a field: arrays and objects may not. -/
def isName : Json → Bool
  | .arr _ => false
  | .obj _ => false
  | _ => true

/-- The entry at place `i` of a list of pairs. Names that are no text are dropped later. -/
def toPair (i : Nat) (j : Json) : Except DecodeError (Json × Json) :=
  match j.toItems with
  | .error e => .error e
  | .ok [k, v] => if k.isName then .ok (k, v) else .error .kind
  | .ok items => .error (.notPair i items.length)

def toPairs (i : Nat) : List Json → Except DecodeError (List (Json × Json))
  | [] => .ok []
  | j :: js =>
    match toPair i j with
    | .error e => .error e
    | .ok p => (toPairs (i + 1) js).map (p :: ·)

/-- The fields of an object, or of a list of pairs. -/
def toFields : Json → Except DecodeError (List (String × Json))
  | .obj fs => .ok fs
  | j =>
    match j.toItems with
    | .error e => .error e
    | .ok items =>
      (toPairs 0 items).map fun ps =>
        tabulate (ps.filterMap fun p => match p.1 with
          | .str k => some (k, p.2)
          | _ => none)

def toBytes (s : String) : Except DecodeError Bytes :=
  (Text.Hex.decode s).mapError .notHex

end Json

abbrev Fields := List (String × Json)

namespace Fields

def require (fs : Fields) (name : String) : Except DecodeError Json :=
  match field? name fs with
  | some j => .ok j
  | none => .error (.missing name)

def getD (fs : Fields) (name : String) (default : Json) : Json :=
  (field? name fs).getD default

/-- The field `name`, or `default` if it is absent or counts as false. -/
def orElse (fs : Fields) (name : String) (default : Json) : Json :=
  match field? name fs with
  | some j => if j.truthy then j else default
  | none => default

end Fields

end Keyring
