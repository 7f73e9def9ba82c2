import Keyring.Binary64
import Keyring.Text.Quoted

/-!
# JSON documents

A document is a value of `Json`. Whole numbers are kept apart from numbers with a fraction or an
exponent, and an object keeps its fields in the order of their first appearance, one for each name.

`quoted` is the text by which messages speak of a value, `plain` the same but for a string, which
stands for itself.
-/

namespace Keyring

inductive Json where
  | null
  | bool (b : Bool)
  | int (n : Int)
  | float (x : Binary64)
  | str (s : String)
  | arr (items : List Json)
  | obj (fields : List (String × Json))

/-- Puts a value under a name: in place if the name is there, at the end otherwise. -/
def putField {α β : Type} [DecidableEq α] (k : α) (v : β) : List (α × β) → List (α × β)
  | [] => [(k, v)]
  | (k', v') :: r => if k' = k then (k, v) :: r else (k', v') :: putField k v r

def field? {α β : Type} [DecidableEq α] (k : α) : List (α × β) → Option β
  | [] => none
  | (k', v) :: r => if k' = k then some v else field? k r

/-- The fields as a table, a later one replacing an earlier one of its name. -/
def tabulate {α β : Type} [DecidableEq α] (fs : List (α × β)) : List (α × β) :=
  fs.foldl (fun t f => putField f.1 f.2 t) []

namespace Json

def get? (k : String) : Json → Option Json
  | .obj fs => field? k fs
  | _ => none

/-- What counts as true: everything but null, false, zero and whatever is empty. -/
def truthy : Json → Bool
  | .null => false
  | .bool b => b
  | .int n => n != 0
  | .float x => !x.isZero
  | .str s => !s.isEmpty
  | .arr items => !items.isEmpty
  | .obj fs => !fs.isEmpty

mutual

def quoted : Json → List Char
  | .null => "None".toList
  | .bool b => (if b then "True" else "False").toList
  | .int n => (toString n).toList
  | .float x => x.text.toList
  | .str s => Text.quotedChars s.toList
  | .arr items => '[' :: quotedItems items ++ [']']
  | .obj fs => '\x7b' :: quotedFields fs ++ ['\x7d']

def quotedItems : List Json → List Char
  | [] => []
  | [j] => quoted j
  | j :: js => quoted j ++ ',' :: ' ' :: quotedItems js

def quotedFields : List (String × Json) → List Char
  | [] => []
  | [(k, j)] => Text.quotedChars k.toList ++ ':' :: ' ' :: quoted j
  | (k, j) :: fs =>
    Text.quotedChars k.toList ++ ':' :: ' ' :: quoted j ++ ',' :: ' ' :: quotedFields fs

end

def quotedText (j : Json) : String := String.ofList (quoted j)

def plain : Json → String
  | .str s => s
  | j => quotedText j

end Json

end Keyring
