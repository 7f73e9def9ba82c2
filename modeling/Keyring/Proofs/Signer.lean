import Keyring.Proofs.Base58
import Keyring.Proofs.Crypto.Group
import Keyring.Signature

/-!
# Who is taken for a signer

An identity is taken for the signer of a message if it is the text of a public key under which the
signature verifies. There is no other text of that key, so that comparing signers as texts is
comparing keys. Whatever else is presented is refused, for one of three reasons.
-/

namespace Keyring

namespace Signer

/-- Why an identity is not taken for the signer of a message: the first that fails of all that is
asked. -/
inductive Rejects (S : Scheme) (identity : String) (signature message : Bytes) : Reason → Prop
  | undecodable {e : Base58.Error} (h : Base58.decode identity = .error e) :
      Rejects S identity signature message (.undecodable e)
  | keySize {key : Bytes} (h : Base58.decode identity = .ok key)
      (hsize : key.length ≠ Scheme.keySize) : Rejects S identity signature message .keySize
  | mismatch {key : Bytes} (h : Base58.decode identity = .ok key)
      (hsize : key.length = Scheme.keySize) (hverify : S.verify key signature message = false) :
      Rejects S identity signature message .mismatch

/-- Whether a public key verifies a signature, and an identity is the one text of it. -/
structure Signs (S : Scheme) (identity : String) (signature message key : Bytes) : Prop where
  size : key.length = Scheme.keySize
  verify : S.verify key signature message = true
  only : ∀ s, Base58.decode s = .ok key ↔ s = identity

variable {S : Scheme} {identity signer : String} {signature message key : Bytes} {e : Error}

theorem authenticate_of_decode (hdecode : Base58.decode identity = .ok key)
    (hlength : key.length = Scheme.keySize) (signature message : Bytes) :
    authenticate S identity signature message =
      if S.verify key signature message then .ok identity else .error ⟨identity, .mismatch⟩ := by
  rw [authenticate, hdecode]
  exact if_neg (not_not.2 hlength)

theorem decode_eq_ok_iff_of_decode (h : Base58.decode identity = .ok key) (s : String) :
    Base58.decode s = .ok key ↔ s = identity := by
  constructor
  · intro hs
    rw [← (Base58.encode_of_decode hs).2, (Base58.encode_of_decode h).2]
  · rintro rfl
    exact h

theorem authenticate_of_signs (h : Signs S identity signature message key) :
    authenticate S identity signature message = .ok identity := by
  rw [authenticate_of_decode ((h.only identity).2 rfl) h.size, if_pos h.verify]

theorem authenticate_of_rejects {reason : Reason}
    (h : Rejects S identity signature message reason) :
    authenticate S identity signature message = .error ⟨identity, reason⟩ := by
  cases h with
  | undecodable h => rw [authenticate, h]
  | keySize h hsize =>
      rw [authenticate, h]
      exact if_pos hsize
  | mismatch h hsize hverify =>
      rw [authenticate_of_decode h hsize, hverify, if_neg Bool.false_ne_true]

/-- Unless there is a reason to reject it, an identity is that of the signer. -/
theorem rejects_or_signs (S : Scheme) (identity : String) (signature message : Bytes) :
    (∃ reason, Rejects S identity signature message reason) ∨
      ∃ key, Signs S identity signature message key := by
  cases hdecode : Base58.decode identity with
  | error e => exact .inl ⟨_, .undecodable hdecode⟩
  | ok key =>
      by_cases hsize : key.length = Scheme.keySize
      case neg => exact .inl ⟨_, .keySize hdecode hsize⟩
      cases hverify : S.verify key signature message with
      | false => exact .inl ⟨_, .mismatch hdecode hsize hverify⟩
      | true => exact .inr ⟨key, hsize, hverify, decode_eq_ok_iff_of_decode hdecode⟩

theorem authenticate_eq_ok_iff : authenticate S identity signature message = .ok signer ↔
    signer = identity ∧ ∃ key, Signs S identity signature message key := by
  constructor
  · intro h
    rcases rejects_or_signs S identity signature message with ⟨reason, hr⟩ | ⟨key, hs⟩
    · rw [authenticate_of_rejects hr] at h
      cases h
    · rw [authenticate_of_signs hs] at h
      exact ⟨(Except.ok.inj h).symm, key, hs⟩
  · rintro ⟨rfl, key, hs⟩
    exact authenticate_of_signs hs

theorem authenticate_eq_error_iff : authenticate S identity signature message = .error e ↔
    e.identity = identity ∧ Rejects S identity signature message e.reason := by
  constructor
  · intro h
    rcases rejects_or_signs S identity signature message with ⟨reason, hr⟩ | ⟨key, hs⟩
    · rw [authenticate_of_rejects hr] at h
      obtain rfl := Except.error.inj h
      exact ⟨rfl, hr⟩
    · rw [authenticate_of_signs hs] at h
      cases h
  · rintro ⟨rfl, hr⟩
    exact authenticate_of_rejects hr

/-- A pair whose signature verifies is the signer under its own identity. -/
theorem signs_identity {pair : Keypair} (hsize : pair.publicKey.length = Scheme.keySize)
    (hverify : S.verify pair.publicKey signature message = true) :
    Signs S pair.identity signature message pair.publicKey := by
  have hne : pair.publicKey ≠ [] := List.ne_nil_of_length_pos (by rw [hsize]; decide)
  exact ⟨hsize, hverify, decode_eq_ok_iff_of_decode (Base58.decode_encode hne)⟩

/-- Who is taken for a signer, by any scheme. A pair can be made of each private key of 32 bytes,
and what it signs is its own under its identity, if of that key and that message it holds that the
public key has 32 bytes and verifies what the private key signs. An identity is returned as it was
given, and just when it is the only text of some key of 32 bytes under which the signature verifies.
Anything else is refused under that identity: a text that stands for no bytes, one of a key of
another size, and one of a key under which the signature does not verify.
-/
theorem authenticate_exactly (S : Scheme) :
    (∀ key message : Bytes, key.length = 32 → (S.publicKey key).length = 32 →
      S.verify (S.publicKey key) (S.sign key message) message = true →
      ∃ pair, Keypair.ofPrivate? S key = some pair ∧
        authenticate S pair.identity (pair.sign S message) message = .ok pair.identity) ∧
    ∀ identity signature message,
      (∀ signer, authenticate S identity signature message = .ok signer ↔ signer = identity ∧
        ∃ key : Bytes, key.length = 32 ∧ S.verify key signature message = true ∧
          ∀ s, Base58.decode s = .ok key ↔ s = identity) ∧
      ∀ e, authenticate S identity signature message = .error e ↔
        e.identity = identity ∧ Rejects S identity signature message e.reason := by
  refine ⟨?_, fun identity signature message => ⟨fun signer => ?_, fun e => ?_⟩⟩
  · intro key message hkey hsize hverify
    exact ⟨⟨key, S.publicKey key⟩, if_pos hkey,
      authenticate_of_signs (signs_identity hsize hverify)⟩
  · rw [authenticate_eq_ok_iff]
    exact and_congr_right fun _ => exists_congr fun key =>
      ⟨fun h => ⟨h.size, h.verify, h.only⟩, fun ⟨hsize, hverify, honly⟩ => ⟨hsize, hverify, honly⟩⟩
  · exact authenticate_eq_error_iff

/-- There is a private key whose public key begins with a zero byte, and which signs a message. -/
theorem exists_signed_leading : ∃ key : Bytes, key.length = 32 ∧
    (Scheme.ed25519.publicKey key).head? = some 0 ∧
    Scheme.ed25519.verify (Scheme.ed25519.publicKey key) (Scheme.ed25519.sign key [1]) [1] = true :=
  ⟨[99, 1] ++ List.replicate 30 0, rfl, by decide +kernel, by decide +kernel⟩

/-- A pair whose public key begins with a zero byte is the signer of what it signs. No signature
at all is not taken for one of its own, and neither a text of one byte nor a letter that is none
signs anything. -/
theorem authenticate_exactly_leading : ∃ (pair : Keypair) (signature : Bytes),
    Keypair.ofPrivate? .ed25519 pair.privateKey = some pair ∧ pair.publicKey.head? = some 0 ∧
      pair.sign .ed25519 [1] = signature ∧
      authenticate .ed25519 pair.identity signature [1] = .ok pair.identity ∧
      authenticate .ed25519 pair.identity [] [1] = .error ⟨pair.identity, .mismatch⟩ ∧
      authenticate .ed25519 "1" signature [1] = .error ⟨"1", .keySize⟩ ∧
      authenticate .ed25519 "0" signature [1] =
        .error ⟨"0", .undecodable (.badCharacter '0' "0")⟩ := by
  obtain ⟨key, hkey, hhead, hown⟩ := exists_signed_leading
  obtain ⟨hpair, hexactly⟩ := authenticate_exactly .ed25519
  obtain ⟨P, hP⟩ := Ed25519.exists_encode_publicKey key
  rw [← show Scheme.ed25519.publicKey = Ed25519.publicKey from rfl] at hP
  have hsize : (Scheme.ed25519.publicKey key).length = 32 :=
    (congrArg List.length hP).trans (Ed25519.length_encode P)
  obtain ⟨pair, hmade, hsigner⟩ := hpair key [1] hkey hsize hown
  obtain rfl : ⟨key, Scheme.ed25519.publicKey key⟩ = pair :=
    Option.some.inj ((if_pos hkey).symm.trans hmade)
  have hdecode : Base58.decode (Base58.encode (Scheme.ed25519.publicKey key)) =
      .ok (Scheme.ed25519.publicKey key) :=
    Base58.decode_encode (List.ne_nil_of_length_pos (by rw [hsize]; decide))
  have hone : Base58.decode "1" = .ok [0] := by decide +kernel
  have hzero : Base58.decode "0" = .error (.badCharacter '0' "0") := by decide
  have hempty (key : Bytes) : Scheme.ed25519.verify key [] [1] = false := rfl
  refine ⟨_, _, hmade, hhead, rfl, hsigner, ?_, ?_, ?_⟩
  · exact ((hexactly _ [] [1]).2 ⟨_, .mismatch⟩).2 ⟨rfl, .mismatch hdecode hsize (hempty _)⟩
  · exact ((hexactly "1" _ [1]).2 ⟨"1", .keySize⟩).2 ⟨rfl, .keySize hone (by decide)⟩
  · exact ((hexactly "0" _ [1]).2 ⟨"0", _⟩).2 ⟨rfl, .undecodable hzero⟩

end Signer

end Keyring
