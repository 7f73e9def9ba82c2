import Keyring.Bytes
import Keyring.Text.Quoted

/-!
# Base 58

Identities are byte strings written in base 58: one leading `1` for every leading zero byte, then
the number that the rest stands for. The alphabet leaves out the characters `0`, `O`, `I` and `l`.
-/

namespace Keyring.Base58

inductive Error where
  | empty
  | badCharacter (c : Char) (text : String)
deriving DecidableEq

def Error.message : Error → String
  | .empty => "Identity string must not be empty."
  | .badCharacter c text =>
    "Invalid base58 character " ++ Text.quoted (String.ofList [c]) ++ " in identity "
      ++ Text.quoted text

def alphabet : List Char :=
  "123456789ABCDEFGHJKLMNPQRSTUVWXYZabcdefghijkmnopqrstuvwxyz".toList

def letter (d : Nat) : Char := alphabet.getD d '1'

def value? (c : Char) : Option Nat := alphabet.findIdx? (· == c)

def encodeChars (bs : Bytes) : List Char :=
  List.replicate (bs.takeWhile (· == 0)).length '1'
    ++ ((Radix.digits 58 (Bytes.toNatBE bs)).map letter).reverse

def encode (bs : Bytes) : String := String.ofList (encodeChars bs)

/-- The digits of a text, or its first character outside the alphabet. -/
def values : List Char → Except Char (List Nat)
  | [] => .ok []
  | c :: cs =>
    match value? c with
    | none => .error c
    | some d => (values cs).map (d :: ·)

def decode (s : String) : Except Error Bytes :=
  match s.toList with
  | [] => .error .empty
  | cs =>
    match values cs with
    | .error c => .error (.badCharacter c s)
    | .ok ds =>
      .ok (List.replicate (cs.takeWhile (· == '1')).length 0
        ++ Bytes.ofNatBE (Radix.ofDigits 58 ds.reverse))

def identitySize : Nat := 32

def isIdentity (s : String) : Bool :=
  match decode s with
  | .ok bs => bs.length == identitySize
  | .error _ => false

end Keyring.Base58
