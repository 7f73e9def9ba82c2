import Keyring.Json.Lenient

/-!
# Clocks

A reading is a point in time and a height; a threshold is measured against one of the two. Every
operation takes one reading and judges all keys by it.

A settable clock moves only forward. A slot clock reads its height off the time: one step for each
slot since its genesis.
-/

namespace Keyring

inductive ExpiryUnit where
  | time
  | blockHeight
deriving DecidableEq

namespace ExpiryUnit

def name : ExpiryUnit → String
  | .time => "time"
  | .blockHeight => "block_height"

def ofName (s : String) : Except DecodeError ExpiryUnit :=
  if s = name .time then .ok .time
  else if s = name .blockHeight then .ok .blockHeight
  else .error (.notChoice (.str s) "ExpirationType")

end ExpiryUnit

structure Reading where
  time : Int
  height : Int
deriving DecidableEq

inductive ClockError where
  | backwards
  | slotNotPositive
  | notFinite (e : Binary64.NotFinite)

def ClockError.message : ClockError → String
  | .backwards => "ManualClock cannot move backwards."
  | .slotNotPositive => "slot_seconds must be positive."
  | .notFinite e => e.message

namespace Reading

def current (c : Reading) : ExpiryUnit → Int
  | .time => c.time
  | .blockHeight => c.height

/-- The clock set to new components, an omitted one staying as it is. -/
def moveTo (c : Reading) (time? height? : Option Int) : Except ClockError Reading :=
  let time := time?.getD c.time
  let height := height?.getD c.height
  if time < c.time ∨ height < c.height then .error .backwards else .ok ⟨time, height⟩

def advance (c : Reading) (seconds height : Int) : Except ClockError Reading :=
  if seconds < 0 ∨ height < 0 then .error .backwards else .ok ⟨c.time + seconds, c.height + height⟩

def expiryIn (c : Reading) (seconds : Int) : Int := c.time + seconds

end Reading

structure SlotClock where
  slotSeconds : Binary64
  genesis : Binary64

namespace SlotClock

def defaultSlot : Binary64 := Binary64.ofFraction false ⟨2, 5⟩

def make (slotSeconds genesis : Binary64) : Except ClockError SlotClock :=
  if slotSeconds.toFloat ≤ 0 then .error .slotNotPositive else .ok ⟨slotSeconds, genesis⟩

def read (c : SlotClock) (now : Binary64) : Except ClockError Reading :=
  match now.truncate with
  | .error e => .error (.notFinite e)
  | .ok time =>
    let elapsed := Binary64.ofFloat (now.toFloat - c.genesis.toFloat)
    match (elapsed.floorDiv c.slotSeconds).truncate with
    | .error e => .error (.notFinite e)
    | .ok height => .ok ⟨time, max 0 height⟩

end SlotClock

end Keyring
