import Keyring.Proofs.Derivation.Domains
import Keyring.Proofs.Signer

/-!
# Derived addresses never sign

A derived address is the digest of its seeds, and lies off the curve. Of a signature scheme it is
asked that public keys are encodings of points, and that nothing verifies under a key that RFC 8032
does not decode. Then no key pair has a derived address as its identity, and no signature passes as
the address's own.
-/

namespace Keyring

structure Scheme.Compliant (S : Scheme) : Prop where
  publicKey : ∀ key, key.length = Scheme.keySize →
    ∃ P : Ed25519.CurvePoint, S.publicKey key = P.encode
  verify : ∀ key signature message, key.length = Scheme.keySize →
    Ed25519.Point.decode? key = none → S.verify key signature message = false

/-- Ed25519 that verifies nothing under a key that is not decoded. -/
def Scheme.strict : Scheme :=
  { Scheme.ed25519 with
    verify := fun key signature message =>
      (Ed25519.Point.decode? key).isSome && Ed25519.verify key signature message }

theorem Scheme.compliant_strict : Scheme.strict.Compliant where
  publicKey key _ := Ed25519.exists_encode_publicKey key
  verify key signature message _ hkey := by simp [Scheme.strict, hkey]

/-- Nothing verifies under a key that is not even decompressed. -/
theorem Ed25519.verify_of_decompress {key : Bytes} (h : Point.decompress key = none)
    (signature message : Bytes) : verify key signature message = false := by
  rw [verify, h]
  dsimp only
  split_ifs <;> rfl

namespace Derivation

variable {S : Scheme} {program : String} {d : DerivedAddress}

def Found (program : String) (d : DerivedAddress) : Prop :=
  ∃ seeds, findAddress seeds program = .ok d

theorem found_of_address {s : Subject} (h : s.address program = .ok d) : Found program d := by
  rw [address_eq] at h
  obtain ⟨seeds, -, h⟩ := Outcome.bind_eq_ok.1 h
  exact ⟨seeds, h⟩

/-- What an address stands for is a digest off the curve. -/
theorem Found.digest (h : Found program d) : ∃ digest : Bytes,
    digest.length = Scheme.keySize ∧ Base58.decode d.address = .ok digest ∧
      Ed25519.isOnCurve digest = false := by
  obtain ⟨seeds, h⟩ := h
  obtain ⟨-, -, hcreate⟩ := findBelow_eq_ok h
  obtain ⟨-, -, prog, -, hcurve, haddress⟩ := createAddress_eq_ok_iff.1 hcreate
  have hlength := Sha2.length_sha256 (preimage d.signerSeeds prog)
  refine ⟨_, hlength, ?_, hcurve⟩
  rw [haddress]
  exact Base58.decode_encode (List.ne_nil_of_length_pos (by rw [hlength]; decide))

/--
A derived address is the identity of no private key of the right size, and every signature of every
message fails to verify as its own: of an address found from any seeds, so also of the account of an
owner and of a delegate.
-/
theorem addresses_never_sign (hS : S.Compliant)
    (h : Found program d ∨ ∃ s : Subject, s.address program = .ok d) :
    (∀ key : Bytes, key.length = Scheme.keySize →
      ∃ pair, Keypair.ofPrivate? S key = some pair ∧ pair.identity ≠ d.address) ∧
    ∀ signature message, Signer.authenticate S d.address signature message =
      .error ⟨d.address, .mismatch⟩ := by
  have hfound : Found program d := h.elim id fun ⟨_, h⟩ => found_of_address h
  obtain ⟨digest, hlength, hdecode, hcurve⟩ := hfound.digest
  constructor
  · intro key hkey
    refine ⟨⟨key, S.publicKey key⟩, if_pos hkey, fun heq => ?_⟩
    obtain ⟨P, hP⟩ := hS.publicKey key hkey
    have hne : P.encode ≠ [] :=
      List.ne_nil_of_length_pos (by rw [Ed25519.length_encode]; decide)
    have hdigest : Base58.decode d.address = .ok P.encode := by
      rw [← heq, Keypair.identity, hP, Base58.decode_encode hne]
    obtain rfl : P.encode = digest := Except.ok.inj (hdigest.symm.trans hdecode)
    have hon := (Ed25519.isOnCurve_iff hlength).2 ⟨P, rfl⟩
    rw [hcurve] at hon
    cases hon
  · intro signature message
    have hnone : Ed25519.Point.decode? digest = none := by
      rw [← Option.not_isSome_iff_eq_none, Ed25519.isSome_decode? hlength, hcurve]
      exact Bool.false_ne_true
    rw [Signer.authenticate_of_decode hdecode hlength,
      hS.verify digest signature message hlength hnone, if_neg Bool.false_ne_true]

/-- The account of the owner of a single zero byte, of which both schemes say the same. -/
theorem addresses_never_sign_owner : ∃ d, ownerAddress "1" "1" = .ok d ∧
    (∀ key : Bytes, key.length = Scheme.keySize →
      ∃ pair, Keypair.ofPrivate? .strict key = some pair ∧ pair.identity ≠ d.address) ∧
    ∀ signature message,
      Signer.authenticate .strict d.address signature message = .error ⟨d.address, .mismatch⟩ ∧
      Signer.authenticate .ed25519 d.address signature message = .error ⟨d.address, .mismatch⟩ := by
  let digest := Sha2.sha256 (preimage ([ownerSeed, [0]] ++ [[UInt8.ofNat 255]]) [0])
  have hone : Base58.decode "1" = .ok [0] := decodeIdentity_eq_ok_iff.1 decodeIdentity_one
  obtain ⟨d, hd, haddress⟩ := exists_address (s := .owner "1")
    (seeds_owner_eq_ok_iff.2 ⟨_, hone, rfl⟩) hone (by decide) (by decide) (by decide +kernel)
  have hlength : digest.length = Scheme.keySize := Sha2.length_sha256 _
  have hdecode : Base58.decode d.address = .ok digest := haddress ▸ Base58.decode_encode
    (List.ne_nil_of_length_pos (by rw [hlength]; decide))
  have hnone : Ed25519.Point.decompress digest = none :=
    Option.isNone_iff_eq_none.1 (by decide +kernel)
  obtain ⟨hkeys, hsignatures⟩ :=
    addresses_never_sign Scheme.compliant_strict (.inr ⟨.owner "1", hd⟩)
  refine ⟨d, hd, hkeys, fun signature message => ⟨hsignatures signature message, ?_⟩⟩
  rw [Signer.authenticate_of_decode hdecode hlength,
    show Scheme.ed25519.verify = Ed25519.verify from rfl,
    Ed25519.verify_of_decompress hnone, if_neg Bool.false_ne_true]

end Derivation

end Keyring
