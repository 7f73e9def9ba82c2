import Keyring.Proofs.Derivation
import Keyring.Proofs.Routine
import Keyring.Proofs.Table
import Keyring.Token
import Mathlib.Tactic.SplitIfs

/-!
# Transfers of tokens

`Admits` is all that a checked transfer must meet, and `TokenTransfer.effect` is what it makes of
each account. A transfer of no less than nothing lowers the balance of its source alone, at the word
of the owner or of a delegate with enough left, and leaves no balance and no allowance below zero.

Nothing is asked of the sign of the amount. A transfer of less than nothing is drawn from its
destination, whoever owns that.
-/

namespace Keyring

namespace Tokens

open Outcome

variable {t t' : Tokens} {x : TokenTransfer} {a : TokenAccount} {y : String}

/-! ## What is asked -/

/-- Whether a transfer may draw on an account: in the name of its owner, or in that of its delegate,
by seeds that derive the delegate and with enough left of the allowance. -/
inductive Draws (t : Tokens) (x : TokenTransfer) (a : TokenAccount) : Prop
  | owner (h : x.authority = a.owner)
  | delegate {seeds : List Bytes} (hseeds : x.signerSeeds = some seeds)
      (hsigns : Derivation.createAddress seeds t.program = .ok x.authority)
      (hdelegate : a.delegate = some x.authority) (hallowance : x.amount ≤ a.allowance)

structure Admits (t : Tokens) (x : TokenTransfer) (a : TokenAccount) : Prop where
  source : t.account x.source = .ok a
  destination : ∃ d, t.account x.destination = .ok d ∧ d.mint = x.mint
  mint : a.mint = x.mint
  decimals : ∃ m, t.mint x.mint = .ok m ∧ m.decimals = x.decimals
  seeds : ∀ seeds ∈ x.signerSeeds, Derivation.createAddress seeds t.program = .ok x.authority
  draws : t.Draws x a
  balance : x.amount ≤ a.amount

theorem seedsSignFor_eq_ok_true_iff {seeds : List Bytes} {authority : String} :
    t.seedsSignFor seeds authority = .ok true ↔
      Derivation.createAddress seeds t.program = .ok authority := by
  rw [seedsSignFor]
  split
  next address h => simp [h]
  next h => simp [h]
  next h => simp [h]

theorem checkSeeds_eq_ok_iff {u : Unit} : t.checkSeeds x = .ok u ↔
    ∀ seeds ∈ x.signerSeeds, Derivation.createAddress seeds t.program = .ok x.authority := by
  rw [checkSeeds]
  cases hs : x.signerSeeds with
  | none => simp
  | some seeds =>
      simp only [Option.mem_some_iff, forall_eq']
      rw [← seedsSignFor_eq_ok_true_iff]
      cases t.seedsSignFor seeds x.authority with
      | error e => simp
      | ok signs => cases signs <;> simp

/-- A delegate signs by seeds, so that the seeds are there, and they have been checked. -/
theorem checkAuthority_eq_ok_iff {u : Unit}
    (hseeds : ∀ seeds ∈ x.signerSeeds, Derivation.createAddress seeds t.program = .ok x.authority) :
    checkAuthority x a = .ok u ↔ t.Draws x a := by
  rw [checkAuthority]
  by_cases howner : x.authority = a.owner
  · rw [if_pos howner]
    exact ⟨fun _ => .owner howner, fun _ => rfl⟩
  · rw [if_neg howner]
    constructor
    · intro h
      split at h
      next => cases h
      next hdelegate =>
        split at h
        next => cases h
        next hallowance =>
          rw [not_or, Decidable.not_not] at hdelegate
          cases hs : x.signerSeeds with
          | none => simp [hs] at hdelegate
          | some seeds =>
              exact .delegate hs (hseeds seeds hs) hdelegate.2 (Int.not_lt.1 hallowance)
    · intro h
      cases h with
      | owner h => exact absurd h howner
      | delegate hs hsigns hdelegate hallowance =>
          rw [if_neg (by simp [hs, hdelegate]), if_neg (Int.not_lt.2 hallowance)]

theorem check_eq_ok_iff : t.check x = .ok a ↔ t.Admits x a := by
  constructor
  · intro h
    obtain ⟨source, hsource, h⟩ := bind_eq_ok.1 h
    obtain ⟨destination, hdestination, h⟩ := bind_eq_ok.1 h
    obtain ⟨mint, hmint, h⟩ := bind_eq_ok.1 h
    split at h
    next => cases h
    next hmints =>
      split at h
      next => cases h
      next hdecimals =>
        obtain ⟨_, hseeds, h⟩ := bind_eq_ok.1 h
        obtain ⟨_, hauthority, h⟩ := bind_eq_ok.1 h
        split at h
        next => cases h
        next hbalance =>
          obtain rfl := Except.ok.inj h
          rw [not_or, Decidable.not_not, Decidable.not_not] at hmints
          rw [checkSeeds_eq_ok_iff] at hseeds
          exact ⟨hsource, ⟨destination, hdestination, hmints.2⟩, hmints.1,
            ⟨mint, hmint, Decidable.not_not.1 hdecimals⟩, hseeds,
            (checkAuthority_eq_ok_iff hseeds).1 hauthority, Int.not_lt.1 hbalance⟩
  · rintro ⟨hsource, ⟨d, hd, hdmint⟩, hmint, ⟨m, hm, hdecimals⟩, hseeds, hdraws, hbalance⟩
    have hauthority : checkAuthority x a = .ok () := (checkAuthority_eq_ok_iff hseeds).2 hdraws
    rw [check, hsource, ok_bind, hd, ok_bind, hm, ok_bind, if_neg (by simp [hmint, hdmint]),
      if_neg (by simp [hdecimals]), checkSeeds_eq_ok_iff (u := ()).2 hseeds, ok_bind, hauthority,
      ok_bind, if_neg (Int.not_lt.2 hbalance)]

/-! ## What is done -/

theorem account_eq_ok_iff : t.account y = .ok a ↔ field? y t.accounts = some a := by
  rw [account]
  cases field? y t.accounts <;> simp

theorem account_modify (t : Tokens) (z : String) (f : TokenAccount → TokenAccount) (y : String) :
    (t.modify z f).account y = if y = z then (t.account y).map f else t.account y := by
  rw [modify]
  by_cases hy : y = z
  · subst hy
    rw [if_pos rfl, account]
    cases ha : field? y t.accounts with
    | none =>
        simp only [account, ha]
        rfl
    | some a =>
        simp only [account, field?_putField, ha]
        rfl
  · rw [if_neg hy]
    cases ha : field? z t.accounts with
    | none => rfl
    | some a => simp only [account, field?_putField, if_neg hy]

variable {z : String} {f g : TokenAccount → TokenAccount}

/-- What is changed is what stands there. -/
theorem modify_congr (ha : t.account y = .ok a) (hfg : f a = g a) :
    t.modify y f = t.modify y g := by
  rw [modify, modify, account_eq_ok_iff.1 ha]
  simp only [hfg]

theorem modify_modify (t : Tokens) (y : String) (f g : TokenAccount → TokenAccount) :
    (t.modify y f).modify y g = t.modify y fun a => g (f a) := by
  rw [modify, modify, modify]
  cases ha : field? y t.accounts with
  | none => simp only [ha]
  | some a => simp only [field?_putField, if_true, putField_putField]

theorem modify_comm (hfg : ∀ a, f (g a) = g (f a)) (t : Tokens) (y z : String) :
    (t.modify y f).modify z g = (t.modify z g).modify y f := by
  by_cases hyz : y = z
  · subst hyz
    rw [modify_modify, modify_modify]
    simp only [hfg]
  · have hzy : ¬ z = y := fun h => hyz h.symm
    cases ha : field? y t.accounts with
    | none => cases hb : field? z t.accounts <;> simp [modify, ha, hb, field?_putField, hyz]
    | some a =>
        cases hb : field? z t.accounts with
        | none => simp [modify, ha, hb, field?_putField, hzy]
        | some b =>
            have hz := List.mem_map_of_mem (f := Prod.fst) (mem_of_field? hb)
            have hcomm := putField_comm_of_mem hzy hz (g b) (f a)
            simp [modify, ha, hb, field?_putField, hyz, hzy, hcomm]

/-- What a transfer makes of its source: it takes the amount, and takes it from the allowance as
well if the authority is a delegate. -/
def withdrawn (x : TokenTransfer) (a : TokenAccount) : TokenAccount :=
  let a' := { a with amount := a.amount - x.amount }
  if x.authority = a.owner then a' else a'.spendAllowance x.amount

end Tokens

namespace TokenTransfer

def debit (x : TokenTransfer) (y : String) (a : TokenAccount) : TokenAccount :=
  if y = x.source then Tokens.withdrawn x a else a

def credit (x : TokenTransfer) (y : String) (a : TokenAccount) : TokenAccount :=
  if y = x.destination then { a with amount := a.amount + x.amount } else a

def effect (x : TokenTransfer) (y : String) (a : TokenAccount) : TokenAccount :=
  x.credit y (x.debit y a)

variable (x : TokenTransfer) (y : String) (a : TokenAccount)

theorem amount_withdrawn : (Tokens.withdrawn x a).amount = a.amount - x.amount := by
  rw [Tokens.withdrawn]
  split <;> rfl

/-- The owner spends nothing of the allowance. -/
theorem allowance_withdrawn : (Tokens.withdrawn x a).allowance =
    if x.authority = a.owner then a.allowance else a.allowance - x.amount := by
  rw [Tokens.withdrawn]
  split <;> rfl

theorem amount_debit :
    (x.debit y a).amount = a.amount - if y = x.source then x.amount else 0 := by
  rw [debit]
  split
  next => exact amount_withdrawn x a
  next => rw [Int.sub_zero]

theorem amount_credit :
    (x.credit y a).amount = a.amount + if y = x.destination then x.amount else 0 := by
  rw [credit]
  split
  next => rfl
  next => rw [Int.add_zero]

theorem allowance_credit : (x.credit y a).allowance = a.allowance := by
  rw [credit]
  split <;> rfl

theorem amount_effect : (x.effect y a).amount =
    (a.amount - if y = x.source then x.amount else 0) +
      if y = x.destination then x.amount else 0 := by
  rw [effect, amount_credit, amount_debit]

theorem allowance_effect : (x.effect y a).allowance =
    if y = x.source then (Tokens.withdrawn x a).allowance else a.allowance := by
  rw [effect, allowance_credit, debit]
  split <;> rfl

end TokenTransfer

namespace Tokens

open Outcome

variable {t t' : Tokens} {x : TokenTransfer} {a a' : TokenAccount} {y : String}

@[simp] theorem outcome_changing (y : String) (f : TokenAccount → TokenAccount) (t : Tokens) :
    (changing y f).outcome t = .ok ((), t.modify y f) := rfl

theorem transfer_of_check_error {e : TokenError} (ha : t.check x = .error e) :
    t.transfer x = .error e := by
  rw [transfer, transferring, Routine.left]
  simp [Routine.outcome_bind, ha, Except.map]

/-- The allowance of the source may as well be spent before the destination is paid. -/
theorem transfer_of_check (ha : t.check x = .ok a) :
    t.transfer x = .ok ((t.modify x.source (withdrawn x)).modify x.destination
      fun a => { a with amount := a.amount + x.amount }) := by
  have haccount : t.account x.source = .ok a := (check_eq_ok_iff.1 ha).source
  rw [transfer, transferring, Routine.left]
  by_cases howner : x.authority = a.owner
  · have hpaid : t.modify x.source (withdrawn x) =
        t.modify x.source fun a => { a with amount := a.amount - x.amount } :=
      modify_congr haccount (by rw [withdrawn, if_pos howner])
    rw [hpaid]
    simp [Routine.outcome_bind, ha, howner, Except.map]
  · have hpaid : t.modify x.source (withdrawn x) =
        (t.modify x.source fun a => { a with amount := a.amount - x.amount }).modify x.source
          fun a => a.spendAllowance x.amount := by
      rw [modify_modify]
      exact modify_congr haccount (by rw [withdrawn, if_neg howner])
    rw [hpaid, modify_comm (by exact fun _ => rfl)]
    simp [Routine.outcome_bind, ha, howner, Except.map]

theorem transfer_eq_ok_iff : t.transfer x = .ok t' ↔
    (∃ a, t.Admits x a) ∧ t' = (t.modify x.source (withdrawn x)).modify x.destination
      fun a => { a with amount := a.amount + x.amount } := by
  simp only [← check_eq_ok_iff]
  cases ha : t.check x with
  | error e => simp [transfer_of_check_error ha]
  | ok a => simp [transfer_of_check ha, eq_comm]

theorem account_transfer (h : t.transfer x = .ok t') (y : String) :
    t'.account y = (t.account y).map (x.effect y) := by
  obtain ⟨-, rfl⟩ := transfer_eq_ok_iff.1 h
  rw [account_modify, account_modify]
  unfold TokenTransfer.effect TokenTransfer.credit TokenTransfer.debit
  cases t.account y <;> split_ifs <;> rfl

/-! ## Balances -/

def NonNegative (t : Tokens) : Prop :=
  ∀ y a, t.account y = .ok a → 0 ≤ a.amount ∧ 0 ≤ a.allowance

theorem nonNegative_of_forall_mem (h : ∀ e ∈ t.accounts, 0 ≤ e.2.amount ∧ 0 ≤ e.2.allowance) :
    t.NonNegative := by
  intro y a ha
  exact h (y, a) (mem_of_field? (account_eq_ok_iff.1 ha))

/-- An account after a transfer comes from the one before. -/
theorem exists_account_of_transfer (h : t.transfer x = .ok t') (ha' : t'.account y = .ok a') :
    ∃ a, t.account y = .ok a ∧ x.effect y a = a' := by
  rw [account_transfer h, map_eq_ok] at ha'
  exact ha'

theorem Admits.nonneg_effect (hx : ∃ b, t.Admits x b) (hamount : 0 ≤ x.amount)
    (ha : t.account y = .ok a) (hnn : 0 ≤ a.amount ∧ 0 ≤ a.allowance) :
    0 ≤ (x.effect y a).amount ∧ 0 ≤ (x.effect y a).allowance := by
  obtain ⟨b, hb⟩ := hx
  have hsource : y = x.source → a = b := by
    rintro rfl
    exact Except.ok.inj (ha.symm.trans hb.source)
  rw [TokenTransfer.amount_effect, TokenTransfer.allowance_effect,
    TokenTransfer.allowance_withdrawn]
  constructor
  · by_cases hs : y = x.source
    · have hbalance : x.amount ≤ a.amount := hsource hs ▸ hb.balance
      split_ifs <;> omega
    · split_ifs <;> omega
  · by_cases hs : y = x.source
    · rw [if_pos hs]
      cases hsource hs ▸ hb.draws with
      | owner howner =>
          rw [if_pos howner]
          exact hnn.2
      | delegate _ _ _ hallowance =>
          split
          next => exact hnn.2
          next => exact Int.sub_nonneg_of_le hallowance
    · rw [if_neg hs]
      exact hnn.2

/--
What a transfer does to balances. If its amount is not negative, it leaves no balance and no
allowance below zero, and the only account whose balance goes down is its source, on which the
authority may draw as owner or as delegate. If its amount is negative, the only such account is its
destination, and nothing has been asked of the owner of that.
-/
theorem balances_of_transfer (hnn : t.NonNegative) (h : t.transfer x = .ok t') :
    (0 ≤ x.amount → t'.NonNegative) ∧
      ∀ y a a', t.account y = .ok a → t'.account y = .ok a' → a'.amount < a.amount →
        (0 < x.amount ∧ y = x.source ∧ t.Draws x a) ∨ (x.amount < 0 ∧ y = x.destination) := by
  have hx := (transfer_eq_ok_iff.1 h).1
  constructor
  · intro hamount y a' ha'
    obtain ⟨a, ha, rfl⟩ := exists_account_of_transfer h ha'
    exact Admits.nonneg_effect hx hamount ha (hnn y a ha)
  · intro y a a' ha ha' hless
    rw [account_transfer h, ha] at ha'
    obtain rfl := Except.ok.inj ha'
    rw [TokenTransfer.amount_effect] at hless
    by_cases hs : y = x.source
    · subst hs
      obtain ⟨b, hb⟩ := hx
      obtain rfl : a = b := Except.ok.inj (ha.symm.trans hb.source)
      have hpos : 0 < x.amount := by
        rw [if_pos rfl] at hless
        split_ifs at hless <;> omega
      exact .inl ⟨hpos, rfl, hb.draws⟩
    · rw [if_neg hs] at hless
      split_ifs at hless with hd
      · exact .inr ⟨by omega, hd⟩
      · omega

/-- A delegate moves five of ten, which is all of its allowance. -/
theorem balances_of_transfer_delegate : ∃ (t t' : Tokens) (x : TokenTransfer) (a a' : TokenAccount),
    t.NonNegative ∧ t.transfer x = .ok t' ∧ t'.NonNegative ∧ t.account x.source = .ok a ∧
      t'.account x.source = .ok a' ∧ a'.amount < a.amount ∧ t.Draws x a := by
  obtain ⟨address, hsigns⟩ := Derivation.createAddress_one
  let a : TokenAccount :=
    { address := "x", owner := "o", mint := "m", amount := 10, delegate := some address
      allowance := 5 }
  let b : TokenAccount := { address := "y", owner := "p", mint := "m" }
  let t : Tokens :=
    { program := "1", mints := [("m", ⟨"m", 6⟩)], accounts := [("x", a), ("y", b)] }
  let x : TokenTransfer :=
    { source := "x", mint := "m", destination := "y", authority := address, amount := 5
      decimals := 6, signerSeeds := some ([Derivation.ownerSeed, [0]] ++ [[UInt8.ofNat 255]]) }
  have hnn : t.NonNegative := nonNegative_of_forall_mem (by simp [t, a, b])
  have hfive : (5 : Int) ≤ 5 := Int.le_refl 5
  have hten : (5 : Int) ≤ 10 := by decide
  have hpos : (0 : Int) ≤ 5 := by decide
  have hadmits : t.Admits x a :=
    ⟨rfl, ⟨b, rfl, rfl⟩, rfl, ⟨⟨"m", 6⟩, rfl, rfl⟩, fun _ hs => Option.some.inj hs ▸ hsigns,
      .delegate rfl hsigns rfl hfive, hten⟩
  have htransfer := transfer_eq_ok_iff.2 ⟨⟨a, hadmits⟩, rfl⟩
  have hafter := account_transfer htransfer x.source
  rw [hadmits.source] at hafter
  have hless : (x.effect x.source a).amount < a.amount := by
    rw [TokenTransfer.amount_effect]
    change (10 - 5 + 0 : Int) < 10
    decide
  obtain ⟨hsafe, hdraws⟩ := balances_of_transfer hnn htransfer
  rcases hdraws _ _ _ hadmits.source hafter hless with ⟨-, -, hd⟩ | ⟨hneg, -⟩
  · exact ⟨t, _, x, a, _, hnn, htransfer, hsafe hpos, hadmits.source, hafter, hless, hd⟩
  · cases hneg

/-- The owner of an empty account takes five from an account of somebody else, which holds three:
nobody has a say in it, and two less than nothing are left. -/
theorem overdraft_of_negative_transfer :
    let t : Tokens :=
      { program := "1", mints := [("m", ⟨"m", 6⟩)]
        accounts := [("x", { address := "x", owner := "o", mint := "m" }),
          ("y", { address := "y", owner := "p", mint := "m", amount := 3 })] }
    let x : TokenTransfer :=
      { source := "x", mint := "m", destination := "y", authority := "o", amount := -5
        decimals := 6 }
    t.NonNegative ∧ ∃ t' a a', t.transfer x = .ok t' ∧ t.account "y" = .ok a ∧
      t'.account "y" = .ok a' ∧ a.amount = 3 ∧ a'.amount = -2 ∧ ¬ t'.NonNegative ∧
        ¬ t.Draws x a := by
  intro t x
  have hnn : t.NonNegative := nonNegative_of_forall_mem (by simp [t])
  have hbelow {t' : Tokens} {a' : TokenAccount} (ha' : t'.account "y" = .ok a')
      (hamount : a'.amount = -2) : ¬ t'.NonNegative := by
    intro h
    have hpos := (h _ _ ha').1
    omega
  have hdraws {a : TokenAccount} (ho : a.owner = "p") : ¬ t.Draws x a := by
    intro h
    cases h with
    | owner h => exact absurd (h.trans ho) (by decide)
    | delegate hseeds => cases hseeds
  exact ⟨hnn, _, _, _, rfl, rfl, rfl, rfl, rfl, hbelow rfl rfl, hdraws rfl⟩

end Tokens

end Keyring
