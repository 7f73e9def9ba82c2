import Keyring.Text.Blank
import Keyring.Text.Emoji.Table
import Keyring.Text.Hex
import Keyring.Text.Lower

/-!
# Emoji by name

In a printed text a name between two colons stands for an emoji, in letters of either case. The name
may end in `-text` or `-emoji`, which asks for the plain or for the coloured look. A name that is in
no table stays as it is, colons and all, and no blank may stand in a name.
-/

namespace Keyring.Text.Emoji

def codePoint (digits : List Char) : Char :=
  Char.ofNat (digits.foldl (fun n c => 16 * n + (Hex.digit? c).getD 0) 0)

def entries : List String → List (String × List Char)
  | name :: codes :: rest => (name, (splitOn '-' codes.toList).map codePoint) :: entries rest
  | _ => []

def named : List (String × List Char) :=
  entries ((table.splitOn "\n").flatMap fun l => l.splitOn " ")

/-- The two looks, and the selector that asks for each. -/
def looks : List (String × Char) := [("-text", '\ufe0e'), ("-emoji", '\ufe0f')]

/-- A name without the look asked for at its end, and the selector of the look. -/
def splitLook (name : List Char) : List Char × List Char :=
  match looks.find? fun l => l.1.toList.isSuffixOf name with
  | some l => (name.take (name.length - l.1.length), [l.2])
  | none => (name, [])

def find? (inside : List Char) : Option (List Char) :=
  let (name, selector) := splitLook inside
  (named.find? fun e => e.1.toList == lower name).map (·.2 ++ selector)

/-- What stands between a colon just passed and the next one, if no blank is among it. -/
def inside? (cs : List Char) : Option (List Char) :=
  let name := cs.takeWhile fun c => c != ':' && !isBlank c
  if (cs.drop name.length).head? = some ':' then some name else none

/-- Puts emoji for their names; `skip` is how many characters belong to a name already taken. -/
def replaceFrom (skip : Nat) : List Char → List Char
  | [] => []
  | c :: cs =>
    if 0 < skip then replaceFrom (skip - 1) cs
    else
      match if c = ':' then inside? cs else none with
      | some name =>
        (find? name).getD (':' :: name ++ [':']) ++ replaceFrom (name.length + 1) cs
      | none => c :: replaceFrom 0 cs

def replace (cs : List Char) : List Char := replaceFrom 0 cs

end Keyring.Text.Emoji
