import Keyring.Delegate
import Keyring.Proofs.Derivation.Search
import Keyring.Token

/-!
# Binding a delegate

The delegate for a mint of an account is found when account, mint and program are identities, the
first two of no more bytes than a seed may have, and some bump leads off the curve. Then one name is
bound, that of the delegate, and its seeds derive it in any token program that has the same program.
Everything else is refused for lack of permission, whichever of the three is malformed.
-/

namespace Keyring

namespace Derivation

variable {account mint program : String} {d : DerivedAddress}

theorem wellFormed_delegate_iff {o m : Bytes} : WellFormed [delegateSeed, o, m] ↔
    o.length ≤ maxSeedLength ∧ m.length ≤ maxSeedLength := by
  have hseed : delegateSeed.length ≤ maxSeedLength := by decide
  constructor
  · intro h
    exact ⟨h.short o (by simp), h.short m (by simp)⟩
  · rintro ⟨ho, hm⟩
    refine ⟨(by decide : 3 < maxSeeds), ?_⟩
    simp [hseed, ho, hm]

theorem delegateAddress_eq_ok_iff : delegateAddress account mint program = .ok d ↔
    ∃ o m, Base58.decode account = .ok o ∧ Base58.decode mint = .ok m ∧
      findAddress [delegateSeed, o, m] program = .ok d := by
  simp only [delegateAddress, ← decodeIdentity_eq_ok_iff]
  cases decodeIdentity account with
  | error e => simp
  | ok o =>
      cases decodeIdentity mint with
      | error e => simp
      | ok m => simp

/-- The seeds of a derived delegate derive it. -/
theorem create_of_delegateAddress (h : delegateAddress account mint program = .ok d) :
    createAddress d.signerSeeds program = .ok d.address := by
  obtain ⟨o, m, -, -, hfind⟩ := delegateAddress_eq_ok_iff.1 h
  exact (findBelow_eq_ok hfind).2.2

end Derivation

namespace Delegate

open Keyring.Derivation

variable {program account mint supplied : String} {d : DerivedAddress}

theorem bind_eq_ok_iff : bind program account mint supplied = .ok d ↔
    delegateAddress account mint program = .ok d ∧ d.address = supplied := by
  rw [bind]
  cases delegateAddress account mint program with
  | error e => simp
  | ok d' =>
      by_cases h : d'.address = supplied
      · simp only [if_pos h, Except.ok.injEq]
        exact ⟨fun heq => ⟨heq, heq ▸ h⟩, And.left⟩
      · simp only [if_neg h, Except.ok.injEq, reduceCtorEq, false_iff, not_and]
        rintro rfl
        exact h

/-- What keeps a name from being bound: no delegate can be derived, or it has another name. -/
theorem bind_eq_error {f : Fault} (h : bind program account mint supplied = .error f) :
    (∃ e, delegateAddress account mint program = .error e ∧ f = .insufficient (.cannotDerive e)) ∨
      ∃ d, delegateAddress account mint program = .ok d ∧ d.address ≠ supplied ∧
        f = .insufficient .wrongDelegate := by
  rw [bind] at h
  cases hd : delegateAddress account mint program with
  | error e =>
      rw [hd] at h
      exact .inl ⟨e, rfl, (Except.error.inj h).symm⟩
  | ok d =>
      rw [hd] at h
      dsimp only at h
      split at h
      next => cases h
      next hne => exact .inr ⟨d, rfl, hne, (Except.error.inj h).symm⟩

/-- The seeds of what is bound sign for its name alone. -/
theorem seedsSignFor_of_bind (h : bind program account mint supplied = .ok d) {t : Tokens}
    (ht : t.program = program) (address : String) :
    t.seedsSignFor d.signerSeeds address = .ok (supplied == address) := by
  obtain ⟨hd, rfl⟩ := bind_eq_ok_iff.1 h
  rw [Tokens.seedsSignFor, ht, create_of_delegateAddress hd]

/--
What is bound. A name is bound as the delegate of an account and a mint just when account, mint and
program are identities, the first two of no more than 32 bytes, some bump leads off the curve, and
the name is that of the digest at the largest such bump. So no other name is bound for the same
account, mint and program. The seeds that come with it are accepted for this name by every token
program of the same program, and for no other. In every other case permission is lacking: either
there is no delegate to derive, or the name is not that of the delegate.
-/
theorem bind_exactly (program account mint supplied : String) :
    ((∃ d, bind program account mint supplied = .ok d) ↔
      ∃ o m prog b, Base58.decode account = .ok o ∧ Base58.decode mint = .ok m ∧
        Base58.decode program = .ok prog ∧ o.length ≤ 32 ∧ m.length ≤ 32 ∧
        IsGreatest {b | b ≤ 255 ∧
          Ed25519.isOnCurve (digest [delegateSeed, o, m] prog b) = false} b ∧
        supplied = Base58.encode (digest [delegateSeed, o, m] prog b)) ∧
    (∀ d, bind program account mint supplied = .ok d →
      d.address = supplied ∧
      (∀ other e, bind program account mint other = .ok e → other = supplied) ∧
      ∀ t : Tokens, t.program = program → ∀ address,
        t.seedsSignFor d.signerSeeds address = .ok (supplied == address)) ∧
    ∀ f, bind program account mint supplied = .error f →
      (∃ e, delegateAddress account mint program = .error e ∧
        f = .insufficient (.cannotDerive e)) ∨
      ∃ d, delegateAddress account mint program = .ok d ∧ d.address ≠ supplied ∧
        f = .insufficient .wrongDelegate := by
  refine ⟨⟨?_, ?_⟩, fun d hd => ⟨(bind_eq_ok_iff.1 hd).2, ?_, ?_⟩, fun _ => bind_eq_error⟩
  · rintro ⟨d, h⟩
    obtain ⟨hd, rfl⟩ := bind_eq_ok_iff.1 h
    obtain ⟨o, m, ho, hm, hfind⟩ := delegateAddress_eq_ok_iff.1 hd
    obtain ⟨hseeds, prog, b, hprog, hb, rfl⟩ := findAddress_eq_ok_iff.1 hfind
    obtain ⟨hosize, hmsize⟩ := wellFormed_delegate_iff.1 hseeds
    exact ⟨o, m, prog, b, ho, hm, hprog, hosize, hmsize, hb, rfl⟩
  · rintro ⟨o, m, prog, b, ho, hm, hprog, hosize, hmsize, hb, rfl⟩
    have hseeds := wellFormed_delegate_iff.2 ⟨hosize, hmsize⟩
    have hfind := findAddress_eq_ok_iff.2 ⟨hseeds, prog, b, hprog, hb, rfl⟩
    exact ⟨_, bind_eq_ok_iff.2 ⟨delegateAddress_eq_ok_iff.2 ⟨o, m, ho, hm, hfind⟩, rfl⟩⟩
  · intro other e he
    obtain ⟨hderived, rfl⟩ := bind_eq_ok_iff.1 hd
    obtain ⟨hderived', rfl⟩ := bind_eq_ok_iff.1 he
    obtain rfl := Except.ok.inj (hderived.symm.trans hderived')
    rfl
  · exact fun t ht => seedsSignFor_of_bind hd ht

/-- The delegate of an owner's account is bound under its own name and no other, and not for the
empty mint. -/
theorem bind_exactly_named : ∃ (account mint : String) (d : DerivedAddress),
    bind "1" account mint d.address = .ok d ∧
      (∀ other e, bind "1" account mint other = .ok e → other = d.address) ∧
      ({ program := "1" } : Tokens).seedsSignFor d.signerSeeds "" = .ok (d.address == "") ∧
      bind "1" account "" d.address =
          .error (.insufficient (.cannotDerive (.identity .empty))) := by
  obtain ⟨mint, owner, d, -, hd⟩ := exists_delegateAddress
  have hbind := bind_eq_ok_iff.2 ⟨hd, rfl⟩
  obtain ⟨-, hbound, -⟩ := bind_exactly "1" owner.address mint d.address
  obtain ⟨-, hunique, hsigns⟩ := hbound d hbind
  obtain ⟨o, m, ho, -, -⟩ := delegateAddress_eq_ok_iff.1 hd
  have hempty : delegateAddress owner.address "" "1" = .error (.identity .empty) := by
    rw [delegateAddress, decodeIdentity_eq_ok_iff.2 ho]
    rfl
  refine ⟨owner.address, mint, d, hbind, hunique, hsigns _ rfl "", ?_⟩
  rw [bind, hempty]

end Delegate

end Keyring
