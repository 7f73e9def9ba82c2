import Keyring.Base58
import Keyring.Derivation
import Keyring.Json.Basic
import Keyring.Path

/-!
# Settings

How an engine is deployed: the program, the journal's file, the folder of the store, and how much is
logged. Settings are made from named values, or from the variables of an environment, where an empty
variable counts as absent. Every field is checked, and all flaws are reported in the order of the
fields.
-/

namespace Keyring

inductive LogLevel where
  | debug
  | info
  | warning
  | error
  | critical
deriving DecidableEq

namespace LogLevel

def all : List LogLevel := [.debug, .info, .warning, .error, .critical]

def name : LogLevel → String
  | .debug => "DEBUG"
  | .info => "INFO"
  | .warning => "WARNING"
  | .error => "ERROR"
  | .critical => "CRITICAL"

def severity : LogLevel → Nat
  | .debug => 10
  | .info => 20
  | .warning => 30
  | .error => 40
  | .critical => 50

/-- The capital of a letter of ASCII, or of the dotless `i`. -/
def capital (c : Char) : Char :=
  if c = '\u0131' then 'I' else c.toUpper

def ofName? (s : String) : Option LogLevel :=
  all.find? fun l => l.name.toList == s.toList.map capital

end LogLevel

structure Settings where
  program : String := Derivation.defaultProgram
  journal : Option String := none
  folder : Option String := none
  level : LogLevel := .info

namespace Settings

inductive Field where
  | program
  | journal
  | folder
  | level
deriving DecidableEq

def Field.name : Field → String
  | .program => "program_id"
  | .journal => "audit_log_path"
  | .folder => "store_dir"
  | .level => "log_level"

def Field.variable : Field → String
  | .program => "SESSION_KEYS_PROGRAM_ID"
  | .journal => "SESSION_KEYS_AUDIT_LOG"
  | .folder => "SESSION_KEYS_STORE_DIR"
  | .level => "SESSION_KEYS_LOG_LEVEL"

def Field.all : List Field := [.program, .journal, .folder, .level]

inductive Flaw where
  | notText
  | notPath
  | notIdentity (text : String)
  | notLevel (text : String)

namespace Flaw

def kind : Flaw → String
  | .notText => "string_type"
  | .notPath => "path_type"
  | .notIdentity _ => "value_error"
  | .notLevel _ => "value_error"

def message : Flaw → String
  | .notText => "Input should be a valid string"
  | .notPath => "Input is not a valid path for <class 'pathlib.Path'>"
  | .notIdentity text =>
    "Value error, program_id " ++ Text.quoted text ++ " is not a base58 identity"
  | .notLevel _ =>
    "Value error, log_level must be one of " ++ ", ".intercalate (LogLevel.all.map LogLevel.name)

def given? : Flaw → Option String
  | .notText => none
  | .notPath => none
  | .notIdentity text => some text
  | .notLevel text => some text

end Flaw

def checkProgram : Json → Except Flaw String
  | .str s => if Base58.isIdentity s then .ok s else .error (.notIdentity s)
  | _ => .error .notText

def checkPath : Json → Except Flaw (Option String)
  | .null => .ok none
  | .str s => .ok (some (Path.normal s))
  | _ => .error .notPath

def checkLevel : Json → Except Flaw LogLevel
  | .str s =>
    match LogLevel.ofName? s with
    | some l => .ok l
    | none => .error (.notLevel s)
  | _ => .error .notText

def checked {α : Type} (values : List (String × Json)) (f : Field) (default : α)
    (check : Json → Except Flaw α) : Except (Field × Flaw) α :=
  match field? f.name values with
  | none => .ok default
  | some j => (check j).mapError (f, ·)

def flawOf {α : Type} : Except (Field × Flaw) α → List (Field × Flaw)
  | .ok _ => []
  | .error e => [e]

/-- The settings of the given values, or all their flaws. Other names are passed over. -/
def ofValues (values : List (String × Json)) : Except (List (Field × Flaw)) Settings :=
  let program := checked values .program Derivation.defaultProgram checkProgram
  let journal := checked values .journal none checkPath
  let folder := checked values .folder none checkPath
  let level := checked values .level .info checkLevel
  match program, journal, folder, level with
  | .ok program, .ok journal, .ok folder, .ok level => .ok ⟨program, journal, folder, level⟩
  | _, _, _, _ =>
    .error (flawOf program ++ flawOf journal ++ flawOf folder ++ flawOf level)

def ofEnvironment (env : List (String × String)) : Except (List (Field × Flaw)) Settings :=
  ofValues (Field.all.filterMap fun f =>
    match field? f.variable env with
    | none => none
    | some s => if s.isEmpty then none else some (f.name, .str s))

/-! ## Reports -/

/-- As many of the first characters as there is room for in so many bytes. -/
def takeBytes (room : Nat) : List Char → List Char
  | [] => []
  | c :: cs => if c.utf8Size ≤ room then c :: takeBytes (room - c.utf8Size) cs else []

/-- A quoted value as a report shows it: of one that takes too many bytes only the two ends. -/
def shown (cs : List Char) : List Char :=
  if (String.ofList cs).utf8ByteSize ≤ 50 then cs
  else takeBytes 25 cs ++ "...".toList ++ (takeBytes 24 cs.reverse).reverse

def reportOf (f : Field) (e : Flaw) : String :=
  let given := match e.given? with
    | none => ""
    | some text =>
      ", input_value=" ++ String.ofList (shown (Text.quotedChars text.toList)) ++ ", input_type=str"
  "\n" ++ f.name ++ "\n  " ++ e.message ++ " [type=" ++ e.kind ++ given ++ "]"

def report (flaws : List (Field × Flaw)) : String :=
  let n := flaws.length
  toString n ++ " validation error" ++ (if n = 1 then "" else "s") ++ " for EngineSettings"
    ++ "".intercalate (flaws.map fun x => reportOf x.1 x.2)

end Settings

end Keyring
