import Keyring.Text.Blank
import Keyring.Text.Digit

/-!
# Integers in text

An integer is a sign or none and a run of decimal digits of any script, in which single low lines
may stand between digits; blanks around it do not count. A run of more than `maxDigits` digits is
refused whatever follows it, and an integer that has more of them is never written.
-/

namespace Keyring.Text.Integer

inductive Error where
  | malformed
  | tooLong (digits : Nat)

def maxDigits : Nat := 4300

/-- Blanks that may surround a number: the information separators are none of them. -/
def isMargin (c : Char) : Bool :=
  isAsciiBlank c || isWideBlank c

/-- A run of digits: how many they are, their value, and what follows. -/
structure Run where
  count : Nat
  value : Nat
  rest : List Char

/-- Reads on after a digit, up to the first character that does not belong to the run. -/
def runFrom (count value : Nat) : List Char → Option Run
  | [] => some ⟨count, value, []⟩
  | [c] =>
    match digit? c with
    | some d => some ⟨count + 1, value * 10 + d, []⟩
    | none => if c = '_' then none else some ⟨count, value, [c]⟩
  | c :: c' :: cs =>
    match digit? c with
    | some d => runFrom (count + 1) (value * 10 + d) (c' :: cs)
    | none =>
      if c = '_' then
        match digit? c' with
        | some d => runFrom (count + 1) (value * 10 + d) cs
        | none => none
      else some ⟨count, value, c :: c' :: cs⟩

def run? : List Char → Option Run
  | [] => none
  | c :: cs => (digit? c).bind fun d => runFrom 1 d cs

def sign : List Char → Bool × List Char
  | '-' :: cs => (true, cs)
  | '+' :: cs => (false, cs)
  | cs => (false, cs)

def parse (s : String) : Except Error Int :=
  let (neg, cs) := sign (s.toList.dropWhile isMargin)
  match run? cs with
  | none => .error .malformed
  | some r =>
    if maxDigits < r.count then .error (.tooLong r.count)
    else if r.rest.all isMargin then .ok (if neg then -(r.value : Int) else r.value)
    else .error .malformed

/-- The least natural number with more than `maxDigits` digits. -/
def tooLong : Nat := Nat.pow 10 maxDigits

def isTooLong (n : Int) : Bool := tooLong ≤ n.natAbs

def limitMessage (found : String) : String :=
  "Exceeds the limit (" ++ toString maxDigits ++ " digits) for integer string conversion" ++ found
    ++ "; use sys.set_int_max_str_digits() to increase the limit"

def tooLongMessage (digits : Nat) : String :=
  limitMessage (": value has " ++ toString digits ++ " digits")

def unwritableMessage : String := limitMessage ""

end Keyring.Text.Integer
