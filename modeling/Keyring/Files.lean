import Keyring.Path
import Keyring.Store

/-!
# Files

A tree of folders and files around one folder that is always there, as are the folders above it. A
place is the list of names on the way to it, in which two points stand for going up where nothing
else is left to go up from.

A path is followed from folder to folder, so that all but its last name must be there. Reading,
writing and making folders meet the faults that a file system meets: a folder on the way that is
missing, a file where a folder should be, and so on.
-/

namespace Keyring

abbrev Place := List String

namespace Place

def top : Place := ["/"]

/-- Whether a place is the folder that is always there, or one above it. -/
def isGiven (p : Place) : Bool := p = top || p.all (· = "..")

def above (p : Place) : Place :=
  if p = top then top
  else if isGiven p then p ++ [".."]
  else p.dropLast

/-- One name further, or one up for two points. -/
def step (p : Place) (name : String) : Place :=
  if name = ".." then above p else p ++ [name]

def start (p : Path) : Place := if p.root.isEmpty then [] else top

/-- The name of what is right below a place. -/
def nameIn? (folder p : Place) : Option String :=
  if p.dropLast = folder then p.getLast? else none

end Place

structure Files where
  folders : List Place := []
  texts : List (Place × String) := []

namespace Files

inductive Node where
  | folder
  | text (t : String)

def node? (f : Files) (p : Place) : Option Node :=
  if Place.isGiven p || f.folders.contains p then some .folder
  else (field? p f.texts).map .text

def isFolder (f : Files) (p : Place) : Bool :=
  match f.node? p with
  | some .folder => true
  | _ => false

/-- The place that names lead to from a place, each of them looked up in a folder. -/
def walk (f : Files) (p : Place) : List String → Except FileError Place
  | [] => .ok p
  | name :: rest =>
    match f.node? p with
    | none => .error .missing
    | some (.text _) => .error .notDirectory
    | some .folder =>
      if Folder.maxName < Folder.size name then .error .nameTooLong
      else f.walk (Place.step p name) rest

def locate (f : Files) (p : Path) : Except FileError Place :=
  if p.names.any Folder.hasNul then .error .embeddedNul
  else if Path.isTooLong p.text then .error .nameTooLong
  else f.walk (Place.start p) p.names

def find? (f : Files) (s : String) : Option Node :=
  if s.isEmpty || Path.isTooLong s then none
  else
    match f.locate (Path.ofText s) with
    | .error _ => none
    | .ok p => if Path.meansFolder s && !f.isFolder p then none else f.node? p

/-! ## Folders -/

def leadsToFolder (f : Files) (p : Path) : Bool :=
  match f.locate p with
  | .ok q => f.isFolder q
  | .error _ => false

def addFolder (f : Files) (p : Path) : Except FileError Files :=
  match f.locate p with
  | .error e => .error e
  | .ok q =>
    if (f.node? q).isSome then .error .exists else .ok { f with folders := f.folders ++ [q] }

def ensureFolder (f : Files) (p : Path) : Files × Option FileError :=
  match f.addFolder p with
  | .ok f => (f, none)
  | .error e => (f, if f.leadsToFolder p then none else some e)

/--
Makes a folder and those on the way to it, its names being given from the last one back. Folders
that have been made stay when the rest cannot be made.
-/
def makeFolders (f : Files) (root : String) : List String → Files × Option FileError
  | [] => f.ensureFolder ⟨root, []⟩
  | name :: before =>
    let p : Path := ⟨root, (name :: before).reverse⟩
    match f.addFolder p with
    | .error .missing =>
      match f.makeFolders root before with
      | (f, none) => f.ensureFolder p
      | (f, some e) => (f, some e)
    | _ => f.ensureFolder p

def makeFolder (f : Files) (p : Path) : Files × Option FileError :=
  f.makeFolders p.root p.names.reverse

/-- The folder that a path leads to. Only so much room for names is left as the path leaves. -/
def folderAt (f : Files) (p : Path) : Folder :=
  match f.locate p with
  | .error _ => {}
  | .ok q =>
    { texts := f.texts.filterMap fun e => (Place.nameIn? q e.1).map (·, e.2)
      folders := f.folders.filterMap (Place.nameIn? q)
      room := min Folder.maxName (Path.maxSize - (p.child "").text.utf8ByteSize) }

def setTexts (f : Files) (p : Path) (texts : List (String × String)) : Files :=
  match f.locate p with
  | .error _ => f
  | .ok q =>
    { f with texts := f.texts.filter (fun e => (Place.nameIn? q e.1).isNone)
        ++ texts.map fun e => (q ++ [e.1], e.2) }

/-! ## Texts -/

def read? (f : Files) (p : Path) : Except FileError (Option String) :=
  match f.locate p with
  | .error e => .error e
  | .ok q =>
    match f.node? q with
    | some .folder => .error .isDirectory
    | some (.text t) => .ok (some t)
    | none => .ok none

def write (f : Files) (p : Path) (t : String) : Except FileError Files :=
  match f.locate p with
  | .error e => .error e
  | .ok q =>
    if f.isFolder q then .error .isDirectory else .ok { f with texts := putField q t f.texts }

end Files

end Keyring
