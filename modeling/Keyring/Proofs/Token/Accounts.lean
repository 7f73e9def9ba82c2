import Keyring.Proofs.Token.Transfer

/-!
# What token operations do to an account

Approving, revoking and transferring change a token account in its balance, its delegate and its
allowance alone, and leave every account alone that they do not name.
-/

namespace Keyring

theorem TokenTransfer.effect_eq (x : TokenTransfer) (y : String) (a : TokenAccount) :
    x.effect y a = { a with
      amount := (a.amount - if y = x.source then x.amount else 0) +
        if y = x.destination then x.amount else 0
      delegate := if y = x.source ∧ x.authority ≠ a.owner ∧ a.allowance = x.amount then none
        else a.delegate
      allowance := if y = x.source ∧ x.authority ≠ a.owner then a.allowance - x.amount
        else a.allowance } := by
  have hspent : a.allowance - x.amount = 0 ↔ a.allowance = x.amount := Int.sub_eq_zero
  unfold effect credit debit Tokens.withdrawn TokenAccount.spendAllowance
  simp only [hspent]
  split_ifs <;> simp_all

namespace Tokens

open Outcome

variable {t t' : Tokens} {x : TokenTransfer} {a : TokenAccount} {y z d o : String} {n : Int}

/-! ## Accounts and mints that are not there -/

theorem account_of_none (h : field? y t.accounts = none) : t.account y = .error (.notFound y) := by
  rw [account, h]

theorem mint_of_none (h : field? y t.mints = none) : t.mint y = .error (.notFound y) := by
  rw [mint, h]

theorem account_cases (t : Tokens) (y : String) :
    field? y t.accounts = none ∨ ∃ a, t.account y = .ok a := by
  cases h : field? y t.accounts with
  | none => exact .inl rfl
  | some a => exact .inr ⟨a, account_eq_ok_iff.2 h⟩

theorem mint_cases (t : Tokens) (y : String) :
    field? y t.mints = none ∨ ∃ m, t.mint y = .ok m := by
  cases h : field? y t.mints with
  | none => exact .inl rfl
  | some m => exact .inr ⟨m, by rw [mint, h]⟩

theorem mints_modify (t : Tokens) (y : String) (f : TokenAccount → TokenAccount) :
    (t.modify y f).mints = t.mints ∧ (t.modify y f).program = t.program := by
  rw [modify]
  split <;> exact ⟨rfl, rfl⟩

theorem mints_transfer (h : t.transfer x = .ok t') :
    t'.mints = t.mints ∧ t'.program = t.program := by
  obtain ⟨-, rfl⟩ := transfer_eq_ok_iff.1 h
  rw [(mints_modify _ _ _).1, (mints_modify _ _ _).2]
  exact mints_modify _ _ _

/-! ## Approving and revoking -/

def approve (t : Tokens) (address delegate authority : String) (amount : Int) :
    Except TokenError Tokens := (approving address delegate authority amount).left t

def revoke (t : Tokens) (address authority : String) : Except TokenError Tokens :=
  (revoking address authority).left t

theorem owned_eq_ok_iff : t.owned y o = .ok a ↔ t.account y = .ok a ∧ a.owner = o := by
  rw [owned]
  cases t.account y with
  | error e => simp
  | ok b =>
      by_cases hb : b.owner = o
      · simp only [if_pos hb, Except.ok.injEq]
        exact ⟨fun h => ⟨h, h ▸ hb⟩, And.left⟩
      · simp only [if_neg hb, Except.ok.injEq, reduceCtorEq, false_iff, not_and]
        rintro rfl
        exact hb

theorem approve_eq_ok_iff : t.approve y d o n = .ok t' ↔
    0 ≤ n ∧ (∃ a, t.account y = .ok a ∧ a.owner = o) ∧ t' = t.modify y fun a => a.approve d n := by
  simp only [← owned_eq_ok_iff]
  rw [approve, approving, Routine.left]
  by_cases hn : n < 0
  · simp [Routine.outcome_bind, hn, Int.not_le.2 hn, Except.map]
  · cases h : t.owned y o with
    | error e => simp [Routine.outcome_bind, hn, h, Except.map]
    | ok a => simp [Routine.outcome_bind, hn, h, Int.not_lt.1 hn, Except.map, eq_comm]

theorem revoke_eq_ok_iff : t.revoke y o = .ok t' ↔
    (∃ a, t.account y = .ok a ∧ a.owner = o) ∧ t' = t.modify y TokenAccount.clearDelegate := by
  simp only [← owned_eq_ok_iff]
  rw [revoke, revoking, Routine.left]
  cases h : t.owned y o with
  | error e => simp [Routine.outcome_bind, h, Except.map]
  | ok a => simp [Routine.outcome_bind, h, Except.map, eq_comm]

/-! ## Nothing is refused after a change -/

theorem succeeds_changing (y : String) (f : TokenAccount → TokenAccount) :
    (changing y f).Succeeds :=
  Routine.succeeds_modifyThe

theorem atomic_approving (y d o : String) (n : Int) : (approving y d o n).Atomic := by
  refine Routine.looks_refuse.bind_atomic fun _ => Routine.looks_get.bind_atomic fun _ => ?_
  exact Routine.looks_liftM.bind_atomic fun _ => (succeeds_changing _ _).atomic

theorem atomic_revoking (y o : String) : (revoking y o).Atomic := by
  refine Routine.looks_get.bind_atomic fun _ => ?_
  exact Routine.looks_liftM.bind_atomic fun _ => (succeeds_changing _ _).atomic

theorem atomic_transferring (x : TokenTransfer) : (transferring x).Atomic := by
  refine Routine.looks_get.bind_atomic fun t => Routine.looks_liftM.bind_atomic fun a => ?_
  refine Routine.Succeeds.atomic ?_
  refine (succeeds_changing _ _).bind fun _ => (succeeds_changing _ _).bind fun _ => ?_
  split
  · exact succeeds_changing _ _
  · exact Routine.succeeds_pure

theorem atomic_doing (s : TokenStep) : (doing s).Atomic := by
  cases s with
  | createMint m => exact Routine.succeeds_modifyThe.atomic
  | createAccount a =>
      refine Routine.looks_get.bind_atomic fun _ => ?_
      exact Routine.looks_liftM.bind_atomic fun _ => Routine.succeeds_modifyThe.atomic
  | approve y d o n => exact atomic_approving y d o n
  | revoke y o => exact atomic_revoking y o
  | transfer x => exact atomic_transferring x

end Tokens

end Keyring
