import Keyring.Engine.Authority

/-!
# Runs

`Operation` is everything that can be asked of an engine and of what it works with. `World.step`
does one operation and answers it; a failing operation answers with its fault. A run does one
operation after the other, whatever the answers are.
-/

namespace Keyring

inductive Operation where
  | openAccount (authority : String)
  | account (authority : String)
  | issue (authority : String) (spec : KeySpec)
  | issueAll (authority : String) (specs : List KeySpec)
  | revise (authority key : String) (expiresAt? : Option Int) (permissions? : Option Permissions)
  | revoke (authority key : String)
  | revokeAll (authority : String)
  | prune (authority : String)
  | setMints (authority : String) (mints : List String)
  | key (authority key : String)
  | statuses (authority : String)
  | activeKeys (authority : String)
  | expiringKeys (authority : String) (within : Int)
  | isKeyValid (authority key : String)
  | execute (authority signer : String) (request : Request) (source? destination? : Option String)
  | expectedDelegate (authority mint : String)
  | approve (authority tokenAccount mint delegate : String) (amount : Int)
  | revokeDelegate (authority tokenAccount : String)
  | delegatedTransfer (authority signer source destination mint delegate : String) (amount : Int)
  | moveClock (time? height? : Option Int)
  | advanceClock (seconds height : Int)
  | ledger (s : LedgerStep)
  | tokens (s : TokenStep)

inductive Answer where
  | done
  | account (a : Account)
  | key (k : SessionKey)
  | keys (ks : List SessionKey)
  | statuses (ss : List KeyStatus)
  | count (n : Nat)
  | truth (b : Bool)
  | mints (ms : List String)
  | delegate (d : DerivedAddress)
  | reading (c : Reading)

namespace World

def answered {α : Type} (f : α → Answer) (r : Outcome α × World) : Outcome Answer × World :=
  (r.1.map f, r.2)

def asked {α : Type} (w : World) (f : α → Answer) (r : Outcome α) : Outcome Answer × World :=
  (r.map f, w)

def setClock (w : World) : Except ClockError Reading → Outcome Answer × World
  | .ok c => (.ok (.reading c), { w with clock := c })
  | .error e => (.error (.clock e), w)

def step (w : World) : Operation → Outcome Answer × World
  | .openAccount a => answered .account (w.openAccount a)
  | .account a => w.asked .account (w.account a)
  | .issue a spec => answered .key (w.issue a spec)
  | .issueAll a specs => answered .keys (w.issueAll a specs)
  | .revise a key expiresAt? permissions? =>
    answered .key (w.revise a key expiresAt? permissions?)
  | .revoke a key => answered .key (w.revoke a key)
  | .revokeAll a => answered .count (w.revokeAll a)
  | .prune a => answered .count (w.prune a)
  | .setMints a mints => answered .mints (w.setMints a mints)
  | .key a key => w.asked .key (w.key a key)
  | .statuses a => w.asked .statuses (w.statuses a)
  | .activeKeys a => w.asked .statuses (w.activeKeys a)
  | .expiringKeys a within => w.asked .statuses (w.expiringKeys a within)
  | .isKeyValid a key => w.asked .truth (w.isKeyValid a key)
  | .execute a signer request source? destination? =>
    answered .key (w.execute a signer request source? destination?)
  | .expectedDelegate a mint => w.asked .delegate (w.expectedDelegate a mint)
  | .approve a tokenAccount mint delegate amount =>
    answered .delegate (w.approve a tokenAccount mint delegate amount)
  | .revokeDelegate a tokenAccount => answered (fun _ => .done) (w.revokeDelegate a tokenAccount)
  | .delegatedTransfer a signer source destination mint delegate amount =>
    answered .key (w.delegatedTransfer a signer source destination mint delegate amount)
  | .moveClock time? height? => w.setClock (w.clock.moveTo time? height?)
  | .advanceClock seconds height => w.setClock (w.clock.advance seconds height)
  | .ledger s => answered (fun _ => .done) (w.perform (onLedger (Ledger.doing s)))
  | .tokens s => answered (fun _ => .done) (w.perform (onTokens (Tokens.doing s)))

def run (w : World) (ops : List Operation) : World :=
  ops.foldl (fun w op => (w.step op).2) w

end World

end Keyring
