/-!
# Dates

Instants are counted in seconds from the start of 1970, in universal time. `isoText?` writes an
instant of the years 1 to 9999 as date and time of day; other instants have no text.
-/

namespace Keyring.Calendar

structure Date where
  year : Int
  month : Nat
  day : Nat

/--
The date of a day counted from the start of 1970. Years are taken from March on, so that the leap
day comes last, in eras of 400 years.
-/
def dateOf (days : Int) : Date :=
  let z := days + 719468
  let era := z / 146097
  let d := (z % 146097).toNat
  let y := (d - d / 1460 + d / 36524 - d / 146096) / 365
  let inYear := d - (365 * y + y / 4 - y / 100)
  let m := (5 * inYear + 2) / 153
  let month := if m < 10 then m + 3 else m - 9
  ⟨era * 400 + y + (if month ≤ 2 then 1 else 0), month, inYear - (153 * m + 2) / 5 + 1⟩

def padded (width n : Nat) : String :=
  let ds := Nat.toDigits 10 n
  String.ofList (List.replicate (width - ds.length) '0' ++ ds)

/-- A point in time: whole seconds and millionths. -/
structure Instant where
  seconds : Int
  micros : Nat

def secondsPerDay : Int := 86400

def isoText? (t : Instant) : Option String :=
  let date := dateOf (t.seconds / secondsPerDay)
  let s := (t.seconds % secondsPerDay).toNat
  if date.year < 1 ∨ 9999 < date.year then none
  else
    some (padded 4 date.year.toNat ++ "-" ++ padded 2 date.month ++ "-" ++ padded 2 date.day ++ "T"
      ++ padded 2 (s / 3600) ++ ":" ++ padded 2 (s / 60 % 60) ++ ":" ++ padded 2 (s % 60)
      ++ (if t.micros = 0 then "" else "." ++ padded 6 t.micros) ++ "+00:00")

end Keyring.Calendar
