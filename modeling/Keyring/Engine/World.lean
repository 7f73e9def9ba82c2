import Keyring.Delegate
import Keyring.Journal
import Keyring.Ledger
import Keyring.Store
import Keyring.Token

/-!
# The world of an engine

What the operations of an engine act on: the stored accounts, the reading of the clock, the ledger,
the token program, and the sink to which events are delivered. A sink may refuse an event; no
operation ever learns of it.

An operation is a routine on the world. It is not undone when it fails, so that it has to check all
before it changes anything; only an account that it changes is its own until it is stored.
-/

namespace Keyring

inductive Sink where
  | absent
  /-- Keeps the events that it does not refuse, oldest first. -/
  | memory (refuses : Event → Bool) (events : List Event)
  /-- Records events in a journal, as of the given time. -/
  | journal (now : Calendar.Instant) (j : Journal)

namespace Sink

def collecting : Sink := .memory (fun _ => false) []

def broken : Sink := .memory (fun _ => true) []

def emit? : Sink → Event → Option Sink
  | .absent, _ => some .absent
  | .memory refuses events, e =>
    if refuses e then none else some (.memory refuses (events ++ [e]))
  | .journal now j, e => some (.journal now (j.emit now e))

def notify (s : Sink) (e : Event) : Sink := (s.emit? e).getD s

def events : Sink → List Event
  | .memory _ events => events
  | _ => []

end Sink

structure World where
  /-- The program that the addresses of accounts are derived for. -/
  program : String := Derivation.defaultProgram
  /-- The program that delegates are derived for. -/
  binder : String := Derivation.defaultProgram
  store : Store := .memory []
  clock : Reading := ⟨0, 0⟩
  ledger : Ledger := {}
  tokens : Tokens := { program := Derivation.defaultProgram }
  sink : Sink := .collecting

abbrev Doing (α : Type) := Routine Fault World α

namespace World

def notify (w : World) (authority : String) (n : Notice) : World :=
  { w with sink := w.sink.notify ⟨authority, n⟩ }

def telling (authority : String) (n : Notice) : Doing Unit := modify fun w => w.notify authority n

def onStore {α : Type} (p : Routine Fault Store α) : Doing α :=
  p.within World.store (fun w store => { w with store }) id

def onLedger {α : Type} (p : Routine LedgerError Ledger α) : Doing α :=
  p.within World.ledger (fun w ledger => { w with ledger }) .ledger

def onTokens {α : Type} (p : Routine TokenError Tokens α) : Doing α :=
  p.within World.tokens (fun w tokens => { w with tokens }) .token

/-- Opens an account for a body that may change it, and the world around it. -/
def transact {α : Type} (authority : String) (write : Bool)
    (body : Routine Fault (Account × World) α) : Doing α := fun w =>
  let (r, store, w) := (Store.transacting authority write body).on (w.store, w)
  (r, { w with store })

def onAccount {α : Type} (p : Routine Fault Account α) : Routine Fault (Account × World) α :=
  p.within Prod.fst (fun s a => (a, s.2)) id

def around {α : Type} (p : Doing α) : Routine Fault (Account × World) α :=
  p.within Prod.snd (fun s w => (s.1, w)) id

/-- Changes an account, and tells of it if there is a notice. -/
def changing {α : Type} (authority : String) (body : Routine Fault Account α)
    (notice? : α → Option Notice) : Doing α := do
  let x ← transact authority true (onAccount body)
  match notice? x with
  | some n => telling authority n
  | none => pure ()
  return x

/-- What a routine comes to in a world, with the fault that is raised if it fails. -/
def perform {α : Type} (w : World) (p : Doing α) : Outcome α × World :=
  let (r, w) := p.on w
  (r.mapError Fault.raised, w)

def change {α : Type} (w : World) (authority : String) (body : Routine Fault Account α)
    (notice? : α → Option Notice) : Outcome α × World :=
  w.perform (changing authority body notice?)

end World

end Keyring
