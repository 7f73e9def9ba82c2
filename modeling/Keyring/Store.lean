import Keyring.Codec
import Keyring.Json.Printer
import Keyring.Routine

/-!
# Stores

Where accounts are kept, in memory or as files of a folder. What is kept is always what a document
of the account is read back as, so that no caller holds a stored account.

A folder takes an account in two steps: its text is written as a draft, and the draft is moved to
its place. `transacting` has a body work on an account of its own, which is stored when the body is
done, if it is to be stored at all.
-/

namespace Keyring

def Folder.maxName : Nat := 255

/-- What a folder holds: texts by their names, and the names of other folders. -/
structure Folder where
  texts : List (String × String) := []
  folders : List String := []
  /-- The most bytes in a name for which there is room here. -/
  room : Nat := Folder.maxName

namespace Folder

def extension : String := ".json"

def safeChar (c : Char) : Char := if c = '/' || c = '\\' then '_' else c

/-- The name under which the account of an authority is kept, without its extension. -/
def stem (authority : String) : String := String.ofList (authority.toList.map safeChar)

def fileName (authority : String) : String := stem authority ++ extension

/-- The name under which a document is written before it takes its place. -/
def draftName (authority : String) : String :=
  let name := if (stem authority).isEmpty then extension else stem authority
  name ++ extension ++ ".tmp"

def size (name : String) : Nat :=
  name.toList.foldl (fun n c => n + if Text.Surrogate.isByte c then 1 else c.utf8Size) 0

def isTooLong (f : Folder) (name : String) : Bool := f.room < size name

def hasNul (name : String) : Bool := name.toList.contains '\x00'

def isUnencodable (name : String) : Bool := name.toList.any FileError.keepsFromEncoding

def erase (f : Folder) (name : String) : Folder :=
  { f with texts := f.texts.filter fun e => e.1 != name }

def hasFolder (f : Folder) (name : String) : Bool := f.folders.contains name

/-- Whether there is something of that name. There can be nothing of a name that is no path. -/
def has (f : Folder) (name : String) : Outcome Bool :=
  if hasNul name || isUnencodable name then .ok false
  else if f.isTooLong name then .error (.file .nameTooLong)
  else .ok (f.hasFolder name || (field? name f.texts).isSome)

def read? (f : Folder) (name : String) : Outcome (Option String) :=
  match f.has name with
  | .error e => .error e
  | .ok false => .ok none
  | .ok true =>
    if f.hasFolder name then .error (.file .isDirectory)
    else .ok ((field? name f.texts).map fun t => String.ofList (Text.unifyNewlines t.toList))

def load (f : Folder) (authority : String) : Outcome Account :=
  match f.read? (fileName authority) with
  | .error e => .error e
  | .ok none => .error (.refusal (.accountNotFound authority))
  | .ok (some text) =>
    match Json.parse text with
    | .error e => .error (.document text e)
    | .ok j => Account.ofJson j

def contains (f : Folder) (authority : String) : Outcome Bool := f.has (fileName authority)

def obstacle? (f : Folder) (name : String) : Option FileError :=
  if isUnencodable name then some (.unencodable name)
  else if hasNul name then some .embeddedNul
  else if f.isTooLong name then some .nameTooLong
  else if f.hasFolder name then some .isDirectory
  else none

def put (f : Folder) (name text : String) : Folder := { f with texts := putField name text f.texts }

def writing (name text : String) : Routine Fault Folder Unit := do
  match (← get).obstacle? name with
  | some e => throw (.file e)
  | none => modify fun f => f.put name text

/-- Gives a text another name, in the place of the text that has that name. -/
def moving (name newName : String) : Routine Fault Folder Unit := do
  Routine.refuse ((← get).hasFolder newName) (.file .isDirectory)
  match field? name (← get).texts with
  | none => throw (.file .missing)
  | some text => modify fun f => (f.erase name).put newName text

def saving (a : Account) : Routine Fault Folder Unit := do
  Routine.refuse (!a.toJson.isWritable) .unwritable
  writing (draftName a.authority) (a.toJson.render .sheet)
  moving (draftName a.authority) (fileName a.authority)

def save (f : Folder) (a : Account) : Outcome Folder := (saving a).left f

/-- The stem of the name of a document. A name that is an extension alone is its own stem. -/
def stem? (name : String) : Option String :=
  if extension.toList.isSuffixOf name.toList then
    let s := name.toList.take (name.length - extension.length)
    some (if s.isEmpty then name else String.ofList s)
  else none

end Folder

def sorted (xs : List String) : List String := xs.mergeSort fun a b => decide (a ≤ b)

inductive Store where
  | memory (accounts : List (String × Account))
  | folder (f : Folder)

namespace Store

def load (s : Store) (authority : String) : Outcome Account :=
  match s with
  | .folder f => f.load authority
  | .memory accounts =>
    match field? authority accounts with
    | none => .error (.refusal (.accountNotFound authority))
    | some a => Account.ofJson a.toJson

def saving (a : Account) : Routine Fault Store Unit := fun s =>
  match s with
  | .folder f =>
    let (r, f) := (Folder.saving a).on f
    (r, .folder f)
  | .memory accounts =>
    match Account.ofJson a.toJson with
    | .error e => (.error e, .memory accounts)
    | .ok kept => (.ok (), .memory (putField a.authority kept accounts))

def save (s : Store) (a : Account) : Outcome Store := (saving a).left s

def contains (s : Store) (authority : String) : Outcome Bool :=
  match s with
  | .folder f => f.contains authority
  | .memory accounts => .ok (field? authority accounts).isSome

def authorities : Store → List String
  | .folder f => sorted ((f.texts.map (·.1) ++ f.folders).filterMap Folder.stem?)
  | .memory accounts => sorted (accounts.map (·.1))

def creating (a : Account) : Routine Fault Store Unit := do
  let there ← (← get).contains a.authority
  Routine.refuse there (.refusal (.accountExists a.authority))
  saving a

def create (s : Store) (a : Account) : Outcome Store := (creating a).left s

/--
Opens an account for a body, which may change it and what is around. What the body leaves of the
account is stored, if it is to be; of a body that fails the account is dropped, as changed as it is.
-/
def transacting {α ρ : Type} (authority : String) (write : Bool)
    (body : Routine Fault (Account × ρ) α) : Routine Fault (Store × ρ) α := fun (s, r) =>
  match s.load authority with
  | .error e => (.error e, s, r)
  | .ok a =>
    match body.on (a, r) with
    | (.error e, _, r) => (.error e, s, r)
    | (.ok x, a, r) =>
      if write then
        match (saving a).on s with
        | (.error e, s) => (.error e, s, r)
        | (.ok (), s) => (.ok x, s, r)
      else (.ok x, s, r)

end Store

end Keyring
