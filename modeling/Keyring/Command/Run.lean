import Keyring.Command.Arguments
import Keyring.Command.Screen
import Keyring.Engine.Keys
import Keyring.Files
import Keyring.Settings
import Keyring.Signature

/-!
# Running commands

`run` takes a call of the program from its arguments to the way it ends: with output, with a
reported fault, with a fault that nothing catches, or before anything is done, because of its
arguments. Beside the arguments a call finds an environment, a clock at which it may look several
times, and what calls change: the files and the supply of fresh keys.
-/

namespace Keyring

structure Call where
  environment : List (String × String)
  /-- What the clock shows at each look of the call at it. -/
  readings : Nat → Reading
  /-- The time with which events are recorded. -/
  now : Calendar.Instant

/-- The clock of all calls: its height counts from the start of 1970, so that calls agree on it. -/
def Call.slots : SlotClock := ⟨SlotClock.defaultSlot, Binary64.zero false⟩

structure Machine where
  files : Files := {}
  /-- Private keys that nobody has used. -/
  freshKeys : List Bytes := []

inductive Escape where
  | fault (f : Fault)
  | print (u : Markup.Unprintable)

inductive Ending where
  | done (out : List String)
  | reported (out : List String)
  | escaped (out : List String) (e : Escape)
  | halted (h : Halt)

def usage : String := "Usage: session-keys [OPTIONS] COMMAND [ARGS]..."

/-- What is shown to whoever asks. Of a page of help only the usage of the program is
spelled out. -/
def Inquiry.lines : Inquiry → List String
  | .help => [usage]
  | .version => ["session-keys, version " ++ Keyring.version]

namespace Ending

def code : Ending → Nat
  | .done _ => 0
  | .reported _ => 1
  | .escaped _ _ => 1
  | .halted .misuse => 2
  | .halted (.inquiry _) => 0

def out : Ending → List String
  | .done out => out
  | .reported out => out
  | .escaped out _ => out
  | .halted .misuse => []
  | .halted (.inquiry i) => i.lines

def printing (f : List String → Ending) (ps : List Print) : Ending :=
  match printAll ps with
  | (ls, none) => f (trimmed ls)
  | (ls, some u) => .escaped (trimmed ls) (.print u)

def ofPrints (ps : List Print) : Ending := printing .done ps

def errorText (message : String) : String := "[red]Error:[/red] " ++ message

def ofReport (message : String) : Ending := printing .reported [.text (errorText message)]

def ofOutcome (caught : Fault → Bool) : Outcome (List Print) → Ending
  | .ok ps => ofPrints ps
  | .error f => if caught f then ofReport (f.message?.getD "") else .escaped [] (.fault f)

end Ending

namespace Fault

def isRefusal : Fault → Bool
  | .refusal _ => true
  | _ => false

/-- Whether a value is at fault: of the right kind, but not one that will do. -/
def isBadValue : Fault → Bool
  | .derivation _ => true
  | .decode (.missing _) => false
  | .decode .noFields => false
  | .decode .kind => false
  | .decode (.notFinite .infinity) => false
  | .decode _ => true
  | .document _ (.tooDeep _) => false
  | .document _ _ => true
  | .invalid _ => true
  | .clock (.notFinite .infinity) => false
  | .clock _ => true
  | .file .embeddedNul => true
  | .file (.unencodable _) => true
  | .unwritable => true
  | _ => false

def isReported (f : Fault) : Bool := f.isRefusal || f.isBadValue

/-- A fault of a file in a folder, told with the file's whole path. -/
def inFolder (p : Path) : Fault → Fault
  | .file (.unencodable name) => .file (.unencodable (p.child name).text)
  | f => f

end Fault

structure Setup where
  program : String
  folder : Path
  journal? : Option Path

namespace Setup

def defaultFolder : String := ".session-keys"

/-- A place named by an option goes before one that is set, and an empty name counts as none. -/
def chosen (option? set? : Option String) : Option String :=
  match option? with
  | some s => if s.isEmpty then set? else some s
  | none => set?

def of (l : CommandLine) (s : Settings) : Setup where
  program := s.program
  folder := .ofText ((chosen l.folder? s.folder).getD defaultFolder)
  journal? := (chosen l.journal? s.journal).map .ofText

def prepare (s : Setup) (f : Files) : Files × Option FileError :=
  match f.makeFolder s.folder, s.journal? with
  | (f, none), some j => f.makeFolder j.parent
  | made, _ => made

def world (s : Setup) (c : Call) (reading : Reading) (f : Files) : World where
  program := s.program
  store := .folder (f.folderAt s.folder)
  clock := reading
  tokens := { program := s.program }
  sink := match s.journal? with
    | none => .absent
    | some _ => .journal c.now (.buffer [])

def appended (lines : List String) (text? : Option String) : String :=
  match lines.foldl Journal.append (.file text?) with
  | .file text? => text?.getD ""
  | .buffer _ => ""

/-- The files with the lines added to the journal; a journal that cannot be written stays. -/
def record (s : Setup) (lines : List String) (f : Files) : Files :=
  match s.journal? with
  | none => f
  | some j =>
    match f.read? j with
    | .error _ => f
    | .ok text? =>
      if lines.isEmpty then f
      else
        match f.write j (appended lines text?) with
        | .ok f => f
        | .error _ => f

def keep (s : Setup) (w : World) (f : Files) : Files :=
  let f := match w.store with
    | .folder kept => f.setTexts s.folder kept.texts
    | .memory _ => f
  match w.sink with
  | .journal _ (.buffer lines) => s.record lines f
  | _ => f

def act (s : Setup) (c : Call) (m : Machine) (reading : Reading) (caught : Fault → Bool)
    (body : World → Outcome (List Print) × World) : Ending × Machine :=
  match s.prepare m.files with
  | (files, some e) => (.escaped [] (.fault (.file e)), { m with files })
  | (files, none) =>
    let (r, w) := body (s.world c reading files)
    (.ofOutcome caught (r.mapError fun f => f.inFolder s.folder),
      { m with files := s.keep w files })

end Setup

/-! ## What commands say -/

namespace Permissions

def summary (p : Permissions) : String :=
  let granted := [("transfer", p.canTransfer), ("delegate", p.canDelegate),
    ("custom", p.canExecuteCustom)].filterMap fun g => if g.2 then some g.1 else none
  if granted.isEmpty then "(none)"
  else
    let cap := if p.isUnlimited then "unlimited" else toString p.cap
    ", ".intercalate granted ++ if p.canTransfer then " (cap " ++ cap ++ ")" else ""

end Permissions

namespace KeyStatus

def word (s : KeyStatus) : String :=
  if s.key.isRevoked then "revoked" else if s.isExpired then "expired" else "active"

def row (s : KeyStatus) : List String :=
  [s.key.identity, s.key.labelText, s.key.unit.name, toString s.key.expiresAt,
    toString s.remaining, s.key.permissions.summary, s.word]

end KeyStatus

namespace Command

def versionPrints : List Print :=
  [.text ("[bold]session-keys[/bold] v" ++ Keyring.version),
    .text ("  Max session keys:  " ++ toString Registry.maxKeys),
    .text ("  Max allowed mints: " ++ toString Allowlist.maxMints)]

def openedPrints (authority : String) (a : Account) : List Print :=
  [.text ("[green]Initialized[/green] owner account for [bold]" ++ authority ++ "[/bold]"),
    .text ("  Address: " ++ a.address), .text ("  Bump:    " ++ toString a.bump)]

def accountPrints (c : Reading) (asJson : Bool) (a : Account) : List Print :=
  if asJson then [.document a.toJson]
  else
    [.text ("[bold]Owner account[/bold] " ++ a.address),
      .text ("  Authority:     " ++ a.authority),
      .text ("  Session keys:  " ++ toString a.keys.size ++ "/" ++ toString a.keys.capacity ++ " ("
        ++ toString (a.activeKeys c).length ++ " active)"),
      .text ("  Allowed mints: " ++ if a.mints.isRestricted then ", ".intercalate a.mints.mints
        else "(unrestricted)")]

/-- A key under the identity by which it was asked for. -/
def keyPrints (done key : String) (k : SessionKey) : List Print :=
  [.text ("[green]" ++ done ++ "[/green] session key [bold]" ++ key ++ "[/bold]"),
    .text ("  " ++ k.description), .text ("  Permissions: " ++ k.permissions.summary)]

def countPrints (done : String) (n : Nat) : List Print :=
  [.text ("[green]" ++ done ++ "[/green] " ++ toString n ++ " session key(s).")]

/-- A list of keys, unless it holds an integer that cannot be written. -/
def listPrints (authority : String) (asJson : Bool) (ss : List KeyStatus) :
    Outcome (List Print) :=
  let document := Json.arr (ss.map KeyStatus.toJson)
  if !document.isWritable then .error .unwritable
  else if asJson then .ok [.document document]
  else if ss.isEmpty then .ok [.text "[yellow]No session keys.[/yellow]"]
  else
    .ok [.table (.ofRows "Session Keys for " authority
      ["Key", "Label", "Type", "Expires At", "Remaining", "Permissions", "Status"]
      (ss.map KeyStatus.row))]

def mintsPrints (mints : List String) : List Print :=
  if mints.isEmpty then [.text "[green]Allowlist cleared[/green]; all mints are permitted."]
  else
    .text ("[green]Allowed mints set[/green] (" ++ toString mints.length ++ "):")
      :: mints.map fun m => .text ("  " ++ m)

end Command

/-! ## What commands do -/

namespace Expiry

def resolve (e : Expiry) (unit : ExpiryUnit) (c : Reading) : Outcome (Option Int) :=
  match e.within?, e.at? with
  | some _, some _ => .error (.invalid .expiryTwice)
  | some n, none => .ok (some (c.current unit + n))
  | none, at? => .ok at?

def looks (e : Expiry) : Nat := if e.within?.isSome ∧ e.at?.isNone then 1 else 0

def required (e : Expiry) (unit : ExpiryUnit) (c : Reading) : Outcome Int :=
  match e.resolve unit c with
  | .error f => .error f
  | .ok none => .error (.invalid .expiryMissing)
  | .ok (some n) => .ok n

end Expiry

namespace Command

def permissionsOf (o : IssueOptions) : Outcome Permissions :=
  match o.preset? with
  | some p => .ok p.permissions
  | none =>
    (Permissions.make o.canTransfer o.canDelegate o.canExecuteCustom o.maxAmount
      o.customFlags).mapError fun e => .invalid (.permissions e)

def specOf (key : String) (o : IssueOptions) (c : Reading) : Outcome KeySpec := do
  let expiresAt ← o.expiry.required o.unit c
  let permissions ← permissionsOf o
  .ok { key, expiresAt, unit := o.unit.name, permissions, label := o.label }

def printed {α : Type} (f : α → List Print) (r : Outcome α × World) :
    Outcome (List Print) × World :=
  (r.1.map f, r.2)

/-- Issues a key. The clock is looked at again when the key is made. -/
def issueBody (c : Call) (authority key : String) (o : IssueOptions) (w : World) :
    Outcome (List Print) × World :=
  match specOf key o (c.readings 0) with
  | .error f => (.error f, w)
  | .ok spec =>
    printed (keyPrints "Created" key)
      ({ w with clock := c.readings o.expiry.looks }.issue authority spec)

/-- Changes a key, whose own unit counts for an expiry that is relative. -/
def reviseBody (c : Call) (authority key : String) (e : Expiry) (preset? : Option Preset)
    (w : World) : Outcome (List Print) × World :=
  match (w.key authority key).bind fun k => e.resolve k.unit (c.readings 0) with
  | .error f => (.error f, w)
  | .ok expiresAt? =>
    printed (keyPrints "Updated" key)
      ({ w with clock := c.readings e.looks }.revise authority key expiresAt?
        (preset?.map Preset.permissions))

def makeKeypair (m : Machine) (output? : Option String) : Ending × Machine :=
  match Keypair.ofPrivate? .ed25519 (m.freshKeys.headD []) with
  | none => (.halted .misuse, m)
  | some k =>
    let m := { m with freshKeys := m.freshKeys.tail }
    let shown : Print := .text ("  Identity: [bold]" ++ k.identity ++ "[/bold]")
    match Setup.chosen output? none with
    | none => (.ofPrints [shown], m)
    | some path =>
      let document := Json.obj [("identity", .str k.identity),
        ("private_key", .str (Text.Hex.encode k.privateKey))]
      match m.files.write (.ofText path) (document.render .sheet) with
      | .error e => (.escaped [] (.fault (.file e)), m)
      | .ok files =>
        (.ofPrints [.text ("[green]Keypair written to[/green] " ++ path), shown], { m with files })

def perform (s : Setup) (c : Call) (m : Machine) (cmd : Command) : Ending × Machine :=
  let now := c.readings 0
  match cmd with
  | .version => (.ofPrints versionPrints, m)
  | .keygen output? => makeKeypair m output?
  | .openAccount a => s.act c m now Fault.isReported fun w =>
    printed (openedPrints a) (w.openAccount a)
  | .showAccount a asJson => s.act c m now Fault.isRefusal fun w =>
    printed (accountPrints now asJson) (w.account a, w)
  | .issue a key o => s.act c m now Fault.isReported (issueBody c a key o)
  | .revise a key e preset? => s.act c m now Fault.isReported (reviseBody c a key e preset?)
  | .revoke a key => s.act c m now Fault.isRefusal fun w =>
    printed (fun _ => [.text ("[green]Revoked[/green] session key [bold]" ++ key ++ "[/bold]")])
      (w.revoke a key)
  | .revokeAll a => s.act c m now Fault.isRefusal fun w =>
    printed (countPrints "Revoked") (w.revokeAll a)
  | .prune a => s.act c m now Fault.isRefusal fun w => printed (countPrints "Pruned") (w.prune a)
  | .listKeys a activeOnly asJson => s.act c m now Fault.isRefusal fun w =>
    ((if activeOnly then w.activeKeys a else w.statuses a).bind (listPrints a asJson), w)
  | .setMints a mints => s.act c m now Fault.isRefusal fun w =>
    printed mintsPrints (w.setMints a mints)

end Command

/-! ## Calls -/

/-- What is wrong with a path given by an option: only accounts are kept in a folder. -/
def checkPath (f : Files) (option path : String) : Option Ending :=
  if Folder.hasNul path then some (.escaped [] (.fault (.file .embeddedNul)))
  else
    match f.find? path with
    | none => none
    | some (.text _) =>
      if option = CommandLine.folderOption then some (.halted .misuse) else none
    | some .folder =>
      if option = CommandLine.folderOption then none else some (.halted .misuse)

def checkPaths (f : Files) (paths : List (String × String)) : Option Ending :=
  paths.findSome? fun p => checkPath f p.1 p.2

/-- How a call ends whose words name no command. They are read for options once more. -/
def misnamed (f : Files) (words : List String) : Ending :=
  match CommandLine.parse words with
  | .error h => .halted h
  | .ok line => (checkPaths f line.paths).getD (.halted .misuse)

/-- A report of flaws of the settings. Its first line, which counts them, is all that is shown. -/
def Ending.ofFlaws (flaws : List (Settings.Field × Settings.Flaw)) : Ending :=
  printing .reported
    [.opening (errorText ("invalid environment configuration: " ++ Settings.report flaws))]

def run (c : Call) (m : Machine) (args : List String) : Ending × Machine :=
  match CommandLine.parse args with
  | .error h => (.halted h, m)
  | .ok line =>
    match checkPaths m.files line.paths, line.command? with
    | some e, _ => (e, m)
    | none, none => (misnamed m.files line.words, m)
    | none, some (name, args) =>
      match Settings.ofEnvironment c.environment with
      | .error flaws => (.ofFlaws flaws, m)
      | .ok settings =>
        match checkPaths m.files (Command.paths name args), Command.parse name args with
        | some e, _ => (e, m)
        | none, .error h => (.halted h, m)
        | none, .ok cmd => cmd.perform (.of line settings) c m

end Keyring
