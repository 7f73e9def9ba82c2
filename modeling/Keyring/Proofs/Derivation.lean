import Keyring.Derivation
import Keyring.Proofs.Base58

/-!
# Derived addresses

When an address is created from seeds, and what is known of the seeds of an address that was found:
they are those given, with the bump, and every one of them is short. An authority with an address is
therefore an identity of no more than 32 bytes.
-/

namespace Keyring.Derivation

variable {seeds : List Bytes} {program address authority : String} {d : DerivedAddress}

theorem decodeIdentity_eq_ok_iff {s : String} {bs : Bytes} :
    decodeIdentity s = .ok bs ↔ Base58.decode s = .ok bs := by
  rw [decodeIdentity]
  cases Base58.decode s <;> simp [Except.mapError]

theorem find?_seedTooLong_eq_none_iff :
    seeds.find? (fun s => decide (maxSeedLength < s.length)) = none ↔
      ∀ s ∈ seeds, s.length ≤ maxSeedLength := by
  simp [List.find?_eq_none]

theorem createAddress_eq_ok_iff : createAddress seeds program = .ok address ↔
    seeds.length ≤ maxSeeds ∧ (∀ s ∈ seeds, s.length ≤ maxSeedLength) ∧
      ∃ prog, Base58.decode program = .ok prog ∧
        Ed25519.isOnCurve (Sha2.sha256 (preimage seeds prog)) = false ∧
        address = Base58.encode (Sha2.sha256 (preimage seeds prog)) := by
  rw [createAddress, ← find?_seedTooLong_eq_none_iff]
  by_cases hcount : maxSeeds < seeds.length
  · rw [if_pos hcount]
    simp [Nat.not_le.2 hcount]
  · rw [if_neg hcount]
    cases seeds.find? fun s => decide (maxSeedLength < s.length) with
    | some s => simp
    | none =>
        simp only [← decodeIdentity_eq_ok_iff]
        cases decodeIdentity program with
        | error e => simp
        | ok prog =>
            constructor
            · intro h
              dsimp only at h
              split at h
              next => cases h
              next hcurve =>
                exact ⟨Nat.not_lt.1 hcount, trivial, prog, rfl, Bool.eq_false_iff.2 hcurve,
                  (Except.ok.inj h).symm⟩
            · rintro ⟨-, -, prog', hprog, hcurve, rfl⟩
              obtain rfl := Except.ok.inj hprog
              simp only [hcurve, if_neg Bool.false_ne_true]

theorem findBelow_eq_ok {n : Nat} (h : findBelow seeds program n = .ok d) :
    d.bump < n ∧ d.signerSeeds = seeds ++ [[UInt8.ofNat d.bump]] ∧
      createAddress d.signerSeeds program = .ok d.address := by
  induction n with
  | zero => cases h
  | succ b ih =>
      rw [findBelow] at h
      split at h
      next address hcreate =>
        obtain rfl := Except.ok.inj h
        exact ⟨Nat.lt_succ_self b, rfl, hcreate⟩
      next =>
        split at h
        next =>
          obtain ⟨hlt, hseeds, hcreate⟩ := ih h
          exact ⟨Nat.lt_succ_of_lt hlt, hseeds, hcreate⟩
        next => cases h

/-- The seeds from which an address has been found are short. -/
theorem length_le_of_findAddress (h : findAddress seeds program = .ok d) :
    ∀ s ∈ seeds, s.length ≤ maxSeedLength := by
  obtain ⟨-, hseeds, hcreate⟩ := findBelow_eq_ok h
  obtain ⟨-, hshort, -⟩ := createAddress_eq_ok_iff.1 hcreate
  intro s hs
  apply hshort
  rw [hseeds]
  exact List.mem_append_left _ hs

theorem ownerAddress_eq_ok (h : ownerAddress authority program = .ok d) :
    ∃ bs, Base58.decode authority = .ok bs ∧ bs.length ≤ maxSeedLength := by
  rw [ownerAddress] at h
  cases hdecode : decodeIdentity authority with
  | error e =>
      rw [hdecode] at h
      cases h
  | ok bs =>
      rw [hdecode] at h
      have hshort := length_le_of_findAddress h
      exact ⟨bs, decodeIdentity_eq_ok_iff.1 hdecode, hshort bs (by simp)⟩

theorem bump_lt_of_ownerAddress (h : ownerAddress authority program = .ok d) : d.bump < 256 := by
  rw [ownerAddress] at h
  split at h
  next => cases h
  next => exact (findBelow_eq_ok h).1

/-! ## The shortest identity -/

theorem decodeIdentity_one : decodeIdentity "1" = .ok [0] := by
  have hdigits : Radix.digits 58 0 = [] := by rw [Radix.digits, dif_neg (by omega)]
  have hencode : Base58.encode [0] = "1" := by
    change String.ofList ('1' :: ((Radix.digits 58 0).map Base58.letter).reverse) = "1"
    rw [hdigits]
    rfl
  rw [decodeIdentity_eq_ok_iff, ← hencode]
  exact Base58.decode_encode (by decide)

theorem createAddress_one : ∃ address,
    createAddress ([ownerSeed, [0]] ++ [[UInt8.ofNat 255]]) "1" = .ok address := by
  have hcurve : Ed25519.isOnCurve (Sha2.sha256 (preimage
      ([ownerSeed, [0]] ++ [[UInt8.ofNat 255]]) [0])) = false := by
    decide +kernel
  exact ⟨_, createAddress_eq_ok_iff.2 ⟨by decide, by decide, [0],
    decodeIdentity_eq_ok_iff.1 decodeIdentity_one, hcurve, rfl⟩⟩

/-- The owner of a single zero byte has an address, in a program of the same name. -/
theorem ownerAddress_one : ∃ d, ownerAddress "1" "1" = .ok d := by
  obtain ⟨address, hcreate⟩ := createAddress_one
  refine ⟨⟨address, 255, [ownerSeed, [0]] ++ [[UInt8.ofNat 255]]⟩, ?_⟩
  rw [ownerAddress, decodeIdentity_one]
  simp only [findAddress, findBelow, hcreate]

end Keyring.Derivation
