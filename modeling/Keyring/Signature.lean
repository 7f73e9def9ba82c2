import Keyring.Base58
import Keyring.Crypto.Ed25519

/-!
# Signers

A key pair's identity is its public key in base 58. `authenticate` turns an identity, a signature
and a message into a signer that may be relied on. Both are stated for any `Scheme`;
`Scheme.ed25519` is the one in use.
-/

namespace Keyring

structure Scheme where
  publicKey : Bytes → Bytes
  sign : Bytes → Bytes → Bytes
  /-- Whether a signature of a message is that of a public key. -/
  verify : Bytes → Bytes → Bytes → Bool

namespace Scheme

def keySize : Nat := 32

def ed25519 : Scheme where
  publicKey := Ed25519.publicKey
  sign := Ed25519.sign
  verify := Ed25519.verify

end Scheme

structure Keypair where
  privateKey : Bytes
  publicKey : Bytes

namespace Keypair

def ofPrivate? (S : Scheme) (key : Bytes) : Option Keypair :=
  if key.length = Scheme.keySize then some ⟨key, S.publicKey key⟩ else none

def identity (k : Keypair) : String := Base58.encode k.publicKey

def sign (S : Scheme) (k : Keypair) (message : Bytes) : Bytes := S.sign k.privateKey message

def shown (k : Keypair) : String := "SessionKeypair(identity=" ++ Text.quoted k.identity ++ ")"

def badSizeMessage : String := "An Ed25519 private key is 32 bytes long"

end Keypair

namespace Signer

inductive Reason where
  | undecodable (e : Base58.Error)
  | keySize
  | mismatch

def Reason.message : Reason → String
  | .undecodable e => e.message
  | .keySize => "An Ed25519 public key is 32 bytes long"
  | .mismatch => "signature mismatch"

structure Error where
  identity : String
  reason : Reason

def Error.message (e : Error) : String :=
  "Signature verification failed for " ++ Text.quoted e.identity ++ ": " ++ e.reason.message

/-- The identity itself, once the signature is known to be its own. -/
def authenticate (S : Scheme) (identity : String) (signature message : Bytes) :
    Except Error String :=
  match Base58.decode identity with
  | .error e => .error ⟨identity, .undecodable e⟩
  | .ok key =>
    if key.length ≠ Scheme.keySize then .error ⟨identity, .keySize⟩
    else if S.verify key signature message then .ok identity
    else .error ⟨identity, .mismatch⟩

end Signer

end Keyring
