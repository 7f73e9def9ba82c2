import Keyring.Command.Run
import Std.Time.DateTime.Timestamp

/-!
# The program

The command `session-keys`. A call is run on a copy of the files that it may look into, and what it
leaves different there is then written back.
-/

namespace Keyring

def Place.systemName (p : Place) : String :=
  match p with
  | [] => "."
  | "/" :: names => "/" ++ "/".intercalate names
  | names => "/".intercalate names

namespace Program

/-- The paths of a call: those that lead to a folder of accounts, and those to single files. -/
def paths (environment : List (String × String)) (args : List String) :
    List String × List String :=
  let settings := (Settings.ofEnvironment environment).toOption
  let line := (CommandLine.parse args).toOption
  let outputs := ((line.bind CommandLine.command?).map fun c => Command.paths c.1 c.2).getD []
  (Setup.defaultFolder :: (settings.bind Settings.folder).toList
      ++ (line.bind CommandLine.folder?).toList,
    (settings.bind Settings.journal).toList ++ (line.bind CommandLine.journal?).toList
      ++ outputs.map (·.2))

def copyText (f : Files) (p : Place) : IO Files := do
  try
    let text ← IO.FS.readFile (Place.systemName p)
    return { f with texts := putField p text f.texts }
  catch _ => return f

def copyFolder (f : Files) (p : Place) : Files :=
  if f.isFolder p then f else { f with folders := f.folders ++ [p] }

/-- Copies what is found at a place; if asked to, also what a folder there holds. -/
def copyPlace (inside : Bool) (f : Files) (p : Place) : IO Files := do
  try
    let found ← IO.FS.realPath (Place.systemName p)
    if ← found.isDir then
      let f := copyFolder f p
      if !inside then return f
      (← found.readDir).toList.foldlM (fun f e => do
        let q := Place.step p e.fileName
        if ← e.path.isDir then return copyFolder f q else copyText f q) f
    else copyText f p
  catch _ => return f

def places (p : Path) : List Place :=
  (List.range (p.names.length + 1)).map fun n =>
    (p.names.take n).foldl Place.step (Place.start p)

/-- Copies what is found on the way of a path, and at its end. -/
def copyPath (inside : Bool) (f : Files) (s : String) : IO Files := do
  let way := places (.ofText s)
  let f ← way.dropLast.foldlM (copyPlace false) f
  (way.getLast?.toList).foldlM (copyPlace inside) f

def copy (environment : List (String × String)) (args : List String) : IO Files := do
  let (folders, files) := paths environment args
  let f ← folders.foldlM (copyPath true) {}
  files.foldlM (copyPath false) f

def writeBack (before after : Files) : IO Unit := do
  for p in after.folders do
    unless before.folders.contains p do IO.FS.createDirAll (Place.systemName p)
  for (p, text) in after.texts do
    unless field? p before.texts == some text do IO.FS.writeFile (Place.systemName p) text
  for (p, _) in before.texts do
    if (field? p after.texts).isNone then IO.FS.removeFile (Place.systemName p)

def environment : IO (List (String × String)) :=
  Settings.Field.all.filterMapM fun f => do
    return (← IO.getEnv f.variable).map (f.variable, ·)

def complaint? : Ending → Option String
  | .halted .misuse => some usage
  | .escaped _ (.fault f) => some (f.message?.getD "The files are not as they should be.")
  | .escaped _ (.print _) => some "The output holds a tag that cannot be understood."
  | _ => none

def billion : Nat := 1000000000

/-- A call at a time given in billionths of a second since the start of 1970. -/
def callAt (environment : List (String × String)) (nanos : Nat) : Call where
  environment
  readings _ := (Call.slots.read (Binary64.ofFraction false ⟨nanos, billion⟩)).toOption.getD ⟨0, 0⟩
  now := ⟨nanos / billion, nanos % billion / 1000⟩

def start (args : List String) : IO UInt32 := do
  let environment ← environment
  let nanos := (← Std.Time.Timestamp.now).toNanosecondsSinceUnixEpoch.val.toNat
  let key ← IO.getRandomBytes 32
  let files ← copy environment args
  let (ending, machine) := run (callAt environment nanos) ⟨files, [key.toList]⟩ args
  writeBack files machine.files
  for line in ending.out do IO.println line
  if let some complaint := complaint? ending then IO.eprintln complaint
  return ending.code.toUInt32

end Program

end Keyring

def main (args : List String) : IO UInt32 := Keyring.Program.start args
