import Keyring.Action
import Keyring.Clock
import Keyring.Derivation
import Keyring.Json.Reader
import Keyring.Label

/-!
# Faults

Everything that can make an operation fail, by cause. `Refusal` holds the failures that are the
engine's own: each has a code by which callers tell it from others. The other faults come from the
ledger, the token program, the decoding of documents and the files they are kept in.
-/

namespace Keyring

inductive Objection where
  | denied (d : Denial)
  | sourceNotOwner
  | destinationNotRecipient
  | cannotDerive (e : Derivation.Error)
  | wrongDelegate
  | tokenAccountNotOwned
  | tokenAccountMint
deriving DecidableEq

def Objection.reason : Objection → String
  | .denied d => d.reason
  | .sourceNotOwner => "transfer source is not the owner"
  | .destinationNotRecipient => "transfer destination does not match recipient"
  | .cannotDerive e => "cannot derive delegate: " ++ e.message
  | .wrongDelegate => "delegate identity does not match the derived delegate credential"
  | .tokenAccountNotOwned => "token account is not owned by the authority"
  | .tokenAccountMint => "token account mint does not match"

inductive Refusal where
  | invalidExpiry (unit : ExpiryUnit) (expiresAt current : Int)
  | tooManyKeys (limit : Int)
  | keyExists (key : String)
  | keyNotFound (key : String)
  | keyRevoked (key : String)
  | keyAlreadyRevoked (key : String)
  | keyExpired (key : String)
  | insufficientPermissions (o : Objection)
  | mintNotAllowed (mint : String)
  | tooManyMints (count limit : Nat)
  | accountNotFound (authority : String)
  | accountExists (authority : String)
deriving DecidableEq

namespace Refusal

def code : Refusal → String
  | .invalidExpiry .. => "invalid_expiry"
  | .tooManyKeys _ => "too_many_session_keys"
  | .keyExists _ => "session_key_already_exists"
  | .keyNotFound _ => "session_key_not_found"
  | .keyRevoked _ => "session_key_revoked"
  | .keyAlreadyRevoked _ => "session_key_already_revoked"
  | .keyExpired _ => "session_key_expired"
  | .insufficientPermissions _ => "insufficient_permissions"
  | .mintNotAllowed _ => "mint_not_allowed"
  | .tooManyMints .. => "too_many_allowed_mints"
  | .accountNotFound _ => "owner_account_not_found"
  | .accountExists _ => "owner_account_exists"

def message : Refusal → String
  | .invalidExpiry unit expiresAt current =>
    "Session key expiry must be in the future: " ++ unit.name ++ " threshold "
      ++ toString expiresAt ++ " is not greater than current " ++ toString current ++ "."
  | .tooManyKeys limit =>
    "Maximum number of session keys reached (" ++ toString limit
      ++ "). Revoke and prune unused keys before creating new ones."
  | .keyExists key => "Session key " ++ Text.quoted key ++ " already exists."
  | .keyNotFound key => "Session key " ++ Text.quoted key ++ " not found."
  | .keyRevoked key => "Session key " ++ Text.quoted key ++ " has been revoked."
  | .keyAlreadyRevoked key => "Session key " ++ Text.quoted key ++ " has already been revoked."
  | .keyExpired key => "Session key " ++ Text.quoted key ++ " has expired."
  | .insufficientPermissions o => "Insufficient permissions for this action: " ++ o.reason
  | .mintNotAllowed mint =>
    "Mint " ++ Text.quoted mint ++ " is not in the owner's allowlist."
  | .tooManyMints count limit =>
    "Too many allowed mints: " ++ toString count ++ " supplied, at most " ++ toString limit
      ++ " permitted."
  | .accountNotFound authority =>
    "No owner account for authority " ++ Text.quoted authority
      ++ ". Use initialize_owner_account() first."
  | .accountExists authority =>
    "Owner account for authority " ++ Text.quoted authority ++ " already exists."

end Refusal

inductive LedgerError where
  | negativeCredit
  | negativeTransfer
  | unauthorized (source spender : String)
  | insufficientFunds (source : String) (balance amount : Int)
deriving DecidableEq

def LedgerError.message : LedgerError → String
  | .negativeCredit => "credit amount must be non-negative."
  | .negativeTransfer => "transfer amount must be non-negative."
  | .unauthorized source spender =>
    Text.quoted spender ++ " is not authorized to spend from " ++ Text.quoted source ++ "."
  | .insufficientFunds source balance amount =>
    "Insufficient funds in " ++ Text.quoted source ++ ": balance " ++ toString balance
      ++ ", requested " ++ toString amount ++ "."

inductive TokenError where
  | notFound (address : String)
  | notOwner (authority account : String)
  | mintMismatch
  | decimalsMismatch (actual supplied : Int)
  | seedsDoNotSign (authority : String)
  | neitherOwnerNorDelegate (authority source : String)
  | allowanceTooSmall (allowance amount : Int)
  | balanceTooSmall (source : String) (balance amount : Int)
  | negativeApproval
  | program (e : Base58.Error)
deriving DecidableEq

def TokenError.message : TokenError → String
  | .notFound address => "Token account or mint " ++ Text.quoted address ++ " not found."
  | .notOwner authority account =>
    Text.quoted authority ++ " does not own token account " ++ Text.quoted account ++ "."
  | .mintMismatch => "Source, destination and mint do not agree."
  | .decimalsMismatch actual supplied =>
    "Decimals mismatch: mint has " ++ toString actual ++ ", got " ++ toString supplied ++ "."
  | .seedsDoNotSign authority => "Signer seeds do not derive " ++ Text.quoted authority ++ "."
  | .neitherOwnerNorDelegate authority source =>
    Text.quoted authority ++ " is neither owner nor delegate of " ++ Text.quoted source ++ "."
  | .allowanceTooSmall allowance amount =>
    "Delegate allowance " ++ toString allowance ++ " is below " ++ toString amount ++ "."
  | .balanceTooSmall source balance amount =>
    "Balance " ++ toString balance ++ " of " ++ Text.quoted source ++ " is below "
      ++ toString amount ++ "."
  | .negativeApproval => "approve amount must be non-negative."
  | .program e => e.message

inductive FileError where
  | missing
  | exists
  | notDirectory
  | isDirectory
  | nameTooLong
  | embeddedNul
  /-- A path holds halves of surrogate pairs. -/
  | unencodable (path : String)
deriving DecidableEq

namespace FileError

def keepsFromEncoding (c : Char) : Bool :=
  (Text.Surrogate.half? c).isSome && !Text.Surrogate.isByte c

/-- What of a path is said not to be encoded: the first such character, with the halves after it. -/
def notEncoded (path : List Char) : Nat × List Char :=
  let before := path.takeWhile fun c => !keepsFromEncoding c
  (before.length, (path.drop before.length).takeWhile fun c => (Text.Surrogate.half? c).isSome)

def message? : FileError → Option String
  | .embeddedNul => some "embedded null byte"
  | .unencodable path => some <|
    match notEncoded path.toList with
    | (n, [c]) =>
      "'utf-8' codec can't encode character " ++ Text.quoted c.toString ++ " in position "
        ++ toString n ++ ": surrogates not allowed"
    | (n, cs) =>
      "'utf-8' codec can't encode characters in position " ++ toString n ++ "-"
        ++ toString (n + cs.length - 1) ++ ": surrogates not allowed"
  | _ => none

end FileError

inductive Invalid where
  | permissions (e : Permissions.RangeError)
  | labelWidth
  | labelTooLong
  | negativeAmount
  /-- Two options that exclude each other, or the lack of both. -/
  | expiryTwice
  | expiryMissing
deriving DecidableEq

def Invalid.message : Invalid → String
  | .permissions e => e.message
  | .labelWidth => "label must be exactly " ++ toString Label.size ++ " bytes."
  | .labelTooLong => "label text exceeds " ++ toString Label.size ++ " bytes when encoded."
  | .negativeAmount => Action.negativeAmountMessage
  | .expiryTwice => "use either --expires-in or --expires-at, not both"
  | .expiryMissing => "one of --expires-in or --expires-at is required"

inductive Frozen where
  | field (name : String)
  | reactivation
  | readOnly (name owner : String)
deriving DecidableEq

def Frozen.message : Frozen → String
  | .field name => name ++ " cannot be changed after creation."
  | .reactivation => "A revoked session key cannot be reactivated."
  | .readOnly name owner =>
    "property " ++ Text.quoted name ++ " of " ++ Text.quoted owner ++ " object has no setter"

inductive Fault where
  | refusal (r : Refusal)
  | derivation (e : Derivation.Error)
  | decode (e : DecodeError)
  | document (text : String) (e : Json.Reader.Error)
  | invalid (e : Invalid)
  | frozen (e : Frozen)
  | foreign (kind : String)
  | clock (e : ClockError)
  | ledger (e : LedgerError)
  | token (e : TokenError)
  | file (e : FileError)
  /-- An integer has too many digits to be written. -/
  | unwritable
  /-- The body of a transaction gave up. -/
  | aborted (text : String)

namespace Fault

def insufficient (o : Objection) : Fault := .refusal (.insufficientPermissions o)

def message? : Fault → Option String
  | .refusal r => some r.message
  | .derivation e => some e.message
  | .decode e => e.message?
  | .document text e => some (e.message text)
  | .invalid e => some e.message
  | .frozen e => some e.message
  | .foreign kind => some (Request.foreignMessage kind)
  | .clock e => some e.message
  | .ledger e => some e.message
  | .token e => some e.message
  | .file e => e.message?
  | .unwritable => some Text.Integer.unwritableMessage
  | .aborted text => some text

def integers : Fault → List Int
  | .refusal (.invalidExpiry _ expiresAt current) => [expiresAt, current]
  | .refusal (.tooManyKeys limit) => [limit]
  | .refusal (.insufficientPermissions (.denied (.exceedsCap amount cap))) => [amount, cap]
  | .ledger (.insufficientFunds _ balance amount) => [balance, amount]
  | .token (.decimalsMismatch actual supplied) => [actual, supplied]
  | .token (.allowanceTooSmall allowance amount) => [allowance, amount]
  | .token (.balanceTooSmall _ balance amount) => [balance, amount]
  | _ => []

/-- The fault that is raised: a wording with an integer that cannot be written gives way. -/
def raised (f : Fault) : Fault :=
  if f.integers.any Text.Integer.isTooLong then .unwritable else f

end Fault

abbrev Outcome (α : Type) := Except Fault α

end Keyring
