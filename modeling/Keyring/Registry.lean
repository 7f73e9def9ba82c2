import Keyring.SessionKey

/-!
# Registries

The session keys of one owner, in the order of their issue, each identity at most once and no more
keys than the capacity allows.
-/

namespace Keyring

structure Registry where
  capacity : Int
  keys : List SessionKey
deriving DecidableEq

namespace Registry

def maxKeys : Nat := 10

def empty (capacity : Int) : Registry := ⟨capacity, []⟩

def size (r : Registry) : Nat := r.keys.length

def isFull (r : Registry) : Bool := r.capacity ≤ r.size

def contains (r : Registry) (key : String) : Bool := r.keys.any (·.identity == key)

def find? (r : Registry) (key : String) : Option SessionKey := r.keys.find? (·.identity == key)

def get (r : Registry) (key : String) : Outcome SessionKey :=
  match r.find? key with
  | some k => .ok k
  | none => .error (.refusal (.keyNotFound key))

/-- Appends a key. A full registry is reported before a duplicate. -/
def add (r : Registry) (k : SessionKey) : Outcome Registry :=
  if r.isFull then .error (.refusal (.tooManyKeys r.capacity))
  else if r.contains k.identity then .error (.refusal (.keyExists k.identity))
  else .ok { r with keys := r.keys ++ [k] }

def addAll (r : Registry) : List SessionKey → Outcome Registry
  | [] => .ok r
  | k :: ks =>
    match r.add k with
    | .error e => .error e
    | .ok r => r.addAll ks

def retain (r : Registry) (p : SessionKey → Bool) : List SessionKey × Registry :=
  (r.keys.filter fun k => !p k, { r with keys := r.keys.filter p })

def modifyKey (key : String) (f : SessionKey → SessionKey) : List SessionKey → List SessionKey
  | [] => []
  | k :: ks => if k.identity = key then f k :: ks else k :: modifyKey key f ks

def modify (r : Registry) (key : String) (f : SessionKey → SessionKey) : Registry :=
  { r with keys := modifyKey key f r.keys }

def revokeAll (r : Registry) : Registry := { r with keys := r.keys.map SessionKey.revoke }

end Registry

end Keyring
