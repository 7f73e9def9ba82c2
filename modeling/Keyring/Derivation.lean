import Keyring.Base58
import Keyring.Crypto.Ed25519

/-!
# Derived addresses

An address is derived from a list of seeds and a program by hashing them with a marker. It must not
be a point of the curve, so that no private key belongs to it: a last seed of one byte, the bump, is
counted down from 255 until the hash falls off the curve. Who presents the seeds may act for the
address.

The account of an owner is derived from the owner's identity, the delegate for one mint of an
account from the account's address and the mint.
-/

namespace Keyring

structure DerivedAddress where
  address : String
  bump : Nat
  /-- The seeds with the bump, which stand in for a signature. -/
  signerSeeds : List Bytes
deriving DecidableEq

namespace Derivation

inductive Error where
  | tooManySeeds
  | seedTooLong (length : Nat)
  | onCurve
  | noBump
  | identity (e : Base58.Error)
deriving DecidableEq

def maxSeeds : Nat := 16
def maxSeedLength : Nat := 32

namespace Error

/-- Whether the seeds are at fault; otherwise an identity could not be decoded. -/
def isSeedFault : Error → Bool
  | .identity _ => false
  | _ => true

def message : Error → String
  | .tooManySeeds => "At most " ++ toString maxSeeds ++ " seeds are allowed."
  | .seedTooLong n =>
    "Seed of length " ++ toString n ++ " exceeds " ++ toString maxSeedLength ++ " bytes."
  | .onCurve => "Derived address lies on the Ed25519 curve."
  | .noBump => "No bump produced an off-curve address."
  | .identity e => e.message

end Error

def decodeIdentity (s : String) : Except Error Bytes :=
  (Base58.decode s).mapError .identity

def marker : Bytes := "ProgramDerivedAddress".toList.map fun c => UInt8.ofNat c.toNat
def ownerSeed : Bytes := "user_account".toList.map fun c => UInt8.ofNat c.toNat
def delegateSeed : Bytes := "delegate".toList.map fun c => UInt8.ofNat c.toNat

def defaultProgram : String := "SessionKeys11111111111111111111111111111111"

/-- What is hashed: the seeds one after the other, the program, the marker. -/
def preimage (seeds : List Bytes) (program : Bytes) : Bytes :=
  seeds.flatten ++ program ++ marker

def createAddress (seeds : List Bytes) (program : String) : Except Error String :=
  if maxSeeds < seeds.length then .error .tooManySeeds
  else
    match seeds.find? fun s => maxSeedLength < s.length with
    | some s => .error (.seedTooLong s.length)
    | none =>
      match decodeIdentity program with
      | .error e => .error e
      | .ok prog =>
        let digest := Sha2.sha256 (preimage seeds prog)
        if Ed25519.isOnCurve digest then .error .onCurve else .ok (Base58.encode digest)

/-- Tries the bumps below `n`, the highest first. -/
def findBelow (seeds : List Bytes) (program : String) : Nat → Except Error DerivedAddress
  | 0 => .error .noBump
  | b + 1 =>
    let signerSeeds := seeds ++ [[UInt8.ofNat b]]
    match createAddress signerSeeds program with
    | .ok address => .ok ⟨address, b, signerSeeds⟩
    | .error e => if e.isSeedFault then findBelow seeds program b else .error e

def findAddress (seeds : List Bytes) (program : String) : Except Error DerivedAddress :=
  findBelow seeds program 256

def ownerAddress (authority program : String) : Except Error DerivedAddress :=
  match decodeIdentity authority with
  | .error e => .error e
  | .ok a => findAddress [ownerSeed, a] program

def delegateAddress (ownerAccount mint program : String) : Except Error DerivedAddress :=
  match decodeIdentity ownerAccount with
  | .error e => .error e
  | .ok o =>
    match decodeIdentity mint with
    | .error e => .error e
    | .ok m => findAddress [delegateSeed, o, m] program

end Derivation

end Keyring
