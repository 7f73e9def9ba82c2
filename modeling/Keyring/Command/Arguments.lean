import Keyring.Clock
import Keyring.Permissions

/-!
# Command lines

A command line is read in two steps. `Arguments.parse` tells options from words: an option may carry
its value after an equals sign or as the next argument, whatever that looks like; the last of
several values counts; two dashes end the options. `Command.parse` then finds the command that the
words name and reads what belongs to it.

A line has no command if it is wrong in any way, or if it asks for help or for the version. It asks
as soon as its options can be told, whatever else is wrong with it.
-/

namespace Keyring

structure Flag where
  name : String
  takesValue : Bool

inductive Inquiry where
  | help
  | version

namespace Inquiry

def flag : Inquiry → String
  | .help => "--help"
  | .version => "--version"

def ofFlag? (name : String) : Option Inquiry := [help, version].find? fun i => i.flag = name

end Inquiry

inductive Halt where
  | misuse
  | inquiry (i : Inquiry)

structure Arguments where
  values : List (String × String) := []
  flags : List String := []
  words : List String := []

namespace Arguments

def isOption (arg : String) : Bool :=
  match arg.toList with
  | '-' :: _ :: _ => true
  | _ => false

def split (arg : String) : String × Option String :=
  let cs := arg.toList
  let name := cs.takeWhile (· != '=')
  (String.ofList name,
    if name.length < cs.length then some (String.ofList (cs.drop (name.length + 1))) else none)

def put (a : Arguments) (name value : String) : Arguments :=
  { a with values := putField name value a.values }

/-- Reads on after `a`. If options and words are not `mixed`, the first word ends the options. -/
def parseFrom (known : List Flag) (mixed : Bool) (a : Arguments) : List String → Option Arguments
  | [] => some a
  | arg :: rest =>
    if arg = "--" then some { a with words := a.words ++ rest }
    else if isOption arg then
      let (name, value?) := split arg
      match known.find? fun k => k.name == name with
      | none => none
      | some k =>
        if !k.takesValue then
          if value?.isSome then none
          else parseFrom known mixed { a with flags := name :: a.flags } rest
        else
          match value?, rest with
          | some v, rest => parseFrom known mixed (a.put name v) rest
          | none, v :: rest => parseFrom known mixed (a.put name v) rest
          | none, [] => none
    else if mixed then parseFrom known mixed { a with words := a.words ++ [arg] } rest
    else some { a with words := a.words ++ arg :: rest }

/-- What is asked by the first option that asks. -/
def inquiry? (a : Arguments) : Option Inquiry := a.flags.reverse.findSome? Inquiry.ofFlag?

/-- Help can be asked for everywhere. -/
def parse (known : List Flag) (mixed : Bool) (args : List String) : Except Halt Arguments :=
  match parseFrom (⟨Inquiry.help.flag, false⟩ :: known) mixed {} args with
  | none => .error .misuse
  | some a =>
    match a.inquiry? with
    | some i => .error (.inquiry i)
    | none => .ok a

/-- Why words that should name a command do not. They are read for options once more. -/
def misnamed (words : List String) : Halt :=
  match parse [] false words with
  | .error h => h
  | .ok _ => .misuse

def has (a : Arguments) (name : String) : Bool := a.flags.contains name

def value? (a : Arguments) (name : String) : Option String := field? name a.values

def int? (a : Arguments) (name : String) : Except Halt (Option Int) :=
  match a.value? name with
  | none => .ok none
  | some s =>
    match Text.Integer.parse s with
    | .ok n => .ok (some n)
    | .error _ => .error .misuse

def preset? (a : Arguments) (name : String) : Except Halt (Option Preset) :=
  match a.value? name with
  | none => .ok none
  | some s =>
    match Preset.ofName? s with
    | some p => .ok (some p)
    | none => .error .misuse

end Arguments

/-- How an expiry is asked for: so far ahead, or at a threshold. -/
structure Expiry where
  within? : Option Int
  at? : Option Int

structure IssueOptions where
  expiry : Expiry
  unit : ExpiryUnit
  preset? : Option Preset
  canTransfer : Bool
  canDelegate : Bool
  canExecuteCustom : Bool
  maxAmount : Int
  customFlags : Int
  label : String

inductive Command where
  | version
  | keygen (output? : Option String)
  | openAccount (authority : String)
  | showAccount (authority : String) (asJson : Bool)
  | issue (authority key : String) (options : IssueOptions)
  | revise (authority key : String) (expiry : Expiry) (preset? : Option Preset)
  | revoke (authority key : String)
  | revokeAll (authority : String)
  | prune (authority : String)
  | listKeys (authority : String) (activeOnly asJson : Bool)
  | setMints (authority : String) (mints : List String)

namespace Command

def expiryFlags : List Flag := [⟨"--expires-in", true⟩, ⟨"--expires-at", true⟩]

def expiry? (a : Arguments) : Except Halt Expiry := do
  .ok ⟨← a.int? "--expires-in", ← a.int? "--expires-at"⟩

def issueFlags : List Flag :=
  expiryFlags ++ [⟨"--block-height", false⟩, ⟨"--preset", true⟩, ⟨"--can-transfer", false⟩,
    ⟨"--can-delegate", false⟩, ⟨"--can-execute-custom", false⟩, ⟨"--max-amount", true⟩,
    ⟨"--custom-flags", true⟩, ⟨"--label", true⟩]

def parseIssue (args : List String) : Except Halt Command := do
  let a ← Arguments.parse issueFlags true args
  let expiry ← expiry? a
  let preset? ← a.preset? "--preset"
  let maxAmount ← a.int? "--max-amount"
  let customFlags ← a.int? "--custom-flags"
  match a.words with
  | [authority, key] =>
    .ok (.issue authority key {
      expiry, preset?
      unit := if a.has "--block-height" then .blockHeight else .time
      canTransfer := a.has "--can-transfer"
      canDelegate := a.has "--can-delegate"
      canExecuteCustom := a.has "--can-execute-custom"
      maxAmount := maxAmount.getD 0
      customFlags := customFlags.getD 0
      label := (a.value? "--label").getD "" })
  | _ => .error .misuse

def parseRevise (args : List String) : Except Halt Command := do
  let a ← Arguments.parse (expiryFlags ++ [⟨"--preset", true⟩]) true args
  let expiry ← expiry? a
  let preset? ← a.preset? "--preset"
  match a.words with
  | [authority, key] => .ok (.revise authority key expiry preset?)
  | _ => .error .misuse

def parseAccount (name : String) (args : List String) : Except Halt Command :=
  match name with
  | "init" => do
    match (← Arguments.parse [] true args).words with
    | [authority] => .ok (.openAccount authority)
    | _ => .error .misuse
  | "show" => do
    let a ← Arguments.parse [⟨"--json", false⟩] true args
    match a.words with
    | [authority] => .ok (.showAccount authority (a.has "--json"))
    | _ => .error .misuse
  | _ => .error (Arguments.misnamed (name :: args))

def parseKey (name : String) (args : List String) : Except Halt Command :=
  match name with
  | "create" => parseIssue args
  | "update" => parseRevise args
  | "revoke" => do
    match (← Arguments.parse [] true args).words with
    | [authority, key] => .ok (.revoke authority key)
    | _ => .error .misuse
  | "revoke-all" => do
    match (← Arguments.parse [] true args).words with
    | [authority] => .ok (.revokeAll authority)
    | _ => .error .misuse
  | "prune" => do
    match (← Arguments.parse [] true args).words with
    | [authority] => .ok (.prune authority)
    | _ => .error .misuse
  | "list" => do
    let a ← Arguments.parse [⟨"--active-only", false⟩, ⟨"--json", false⟩] true args
    match a.words with
    | [authority] => .ok (.listKeys authority (a.has "--active-only") (a.has "--json"))
    | _ => .error .misuse
  | _ => .error (Arguments.misnamed (name :: args))

def parseMints (name : String) (args : List String) : Except Halt Command :=
  match name with
  | "set" => do
    match (← Arguments.parse [] true args).words with
    | authority :: mints => .ok (.setMints authority mints)
    | [] => .error .misuse
  | _ => .error (Arguments.misnamed (name :: args))

/-- A command of a group: the first word names it. -/
def parseGroup (members : String → List String → Except Halt Command) (args : List String) :
    Except Halt Command := do
  match (← Arguments.parse [] false args).words with
  | name :: args => members name args
  | [] => .error .misuse

def keygenFlags : List Flag := [⟨"--output", true⟩]

def names : List String := ["version", "keygen", "account", "key", "mints"]

/-- The options among a command's arguments that name files, as far as they are looked at. -/
def paths (name : String) (args : List String) : List (String × String) :=
  if name = "keygen" then
    match Arguments.parse keygenFlags true args with
    | .ok a => a.values
    | .error _ => []
  else []

def parse (name : String) (args : List String) : Except Halt Command :=
  match name with
  | "version" => do
    if (← Arguments.parse [] true args).words.isEmpty then .ok .version else .error .misuse
  | "keygen" => do
    let a ← Arguments.parse keygenFlags true args
    if a.words.isEmpty then .ok (.keygen (a.value? "--output")) else .error .misuse
  | "account" => parseGroup parseAccount args
  | "key" => parseGroup parseKey args
  | "mints" => parseGroup parseMints args
  | _ => .error .misuse

end Command

structure CommandLine where
  /-- The options that name paths, in the order in which each is met first. -/
  paths : List (String × String)
  words : List String

namespace CommandLine

def folderOption : String := "--store-dir"
def journalOption : String := "--audit-log"

def flags : List Flag :=
  [⟨Inquiry.version.flag, false⟩, ⟨folderOption, true⟩, ⟨journalOption, true⟩]

def parse (args : List String) : Except Halt CommandLine :=
  (Arguments.parse flags false args).map fun a => ⟨a.values, a.words⟩

def folder? (l : CommandLine) : Option String := field? folderOption l.paths

def journal? (l : CommandLine) : Option String := field? journalOption l.paths

/-- The name of the command or group, if there is one of it, and what follows. -/
def command? (l : CommandLine) : Option (String × List String) :=
  match l.words with
  | name :: args => if Command.names.contains name then some (name, args) else none
  | [] => none

end CommandLine

end Keyring
