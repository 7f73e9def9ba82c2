import Keyring.Engine.Run
import Keyring.Proofs.Routine
import Keyring.Proofs.Table
import Mathlib.Data.List.Induction

/-!
# The ledger

A ledger takes four steps: a credit, a transfer, and the two by which a source lets a spender spend
or no longer lets it. `Takes` says what each of them asks and what it leaves. No step brings a
balance below zero, only a credit changes the sum of all balances, and a spender other than the
source has what the source has last said of it on its side.

A run goes on after a step that fails, with the ledger as it was.
-/

namespace Keyring

namespace Ledger

variable {l l' : Ledger} {s : LedgerStep} {steps : List LedgerStep}

/-! ## Balances -/

@[simp] theorem balance_setBalance (l : Ledger) (i j : String) (n : Int) :
    (l.setBalance i n).balance j = if j = i then n else l.balance j := by
  rw [balance, setBalance, field?_putField]
  split <;> rfl

theorem maySpend_iff {source spender : String} :
    l.maySpend source spender = true ↔ spender = source ∨ (source, spender) ∈ l.authorized := by
  rw [maySpend, Bool.or_eq_true, beq_iff_eq, List.contains_iff_mem]

def moved (l : Ledger) (source destination : String) (amount : Int) : Ledger :=
  let l := l.setBalance source (l.balance source - amount)
  l.setBalance destination (l.balance destination + amount)

theorem transfer_of_neg {source destination spender : String} {amount : Int} (h : amount < 0) :
    l.transfer source destination amount spender = .error .negativeTransfer := by
  rw [transfer, transferring, Routine.left, Routine.outcome_bind, Routine.outcome_refuse, if_pos h]
  rfl

theorem transfer_eq {source destination spender : String} (amount : Nat) :
    l.transfer source destination amount spender =
      if l.maySpend source spender then
        if l.balance source < amount then
          .error (.insufficientFunds source (l.balance source) amount)
        else .ok (l.moved source destination amount)
      else .error (.unauthorized source spender) := by
  have hamount : ¬ (amount : Int) < 0 := by omega
  rw [transfer, transferring, Routine.left, Routine.outcome_bind, Routine.outcome_refuse,
    if_neg hamount]
  cases hspender : l.maySpend source spender with
  | false => simp [Routine.outcome_bind, hspender, Except.map]
  | true =>
      by_cases hfunds : l.balance source < amount <;>
        simp [Routine.outcome_bind, hspender, hfunds, Except.map, moved]

/-- A ledger is asked first, and nothing is refused once it changes. -/
theorem atomic_transferring (source destination : String) (amount : Int) (spender : String) :
    (transferring source destination amount spender).Atomic := by
  refine Routine.looks_refuse.bind_atomic fun _ => ?_
  refine Routine.looks_get.bind_atomic fun _ => Routine.looks_refuse.bind_atomic fun _ => ?_
  refine Routine.looks_get.bind_atomic fun _ => Routine.looks_refuse.bind_atomic fun _ => ?_
  exact (Routine.succeeds_modify.bind fun _ => Routine.succeeds_modify).atomic

theorem atomic_doing (s : LedgerStep) : (doing s).Atomic := by
  cases s with
  | credit id amount =>
      exact Routine.looks_refuse.bind_atomic fun _ => Routine.succeeds_modify.atomic
  | authorize source spender => exact Routine.succeeds_modify.atomic
  | deauthorize source spender => exact Routine.succeeds_modify.atomic
  | transfer source destination amount spender => exact atomic_transferring _ _ _ _

theorem balance_moved (l : Ledger) (source destination id : String) (amount : Int) :
    (l.moved source destination amount).balance id =
      l.balance id - (if id = source then amount else 0)
        + if id = destination then amount else 0 := by
  simp only [moved, balance_setBalance]
  by_cases hd : id = destination
  · subst hd
    rw [if_pos rfl, if_pos rfl]
    by_cases hs : id = source
    · subst hs
      rw [if_pos rfl, if_pos rfl]
    · rw [if_neg hs, if_neg hs, Int.sub_zero]
  · rw [if_neg hd, if_neg hd, Int.add_zero]
    by_cases hs : id = source
    · subst hs
      rw [if_pos rfl, if_pos rfl]
    · rw [if_neg hs, if_neg hs, Int.sub_zero]

def NonNegative (l : Ledger) : Prop := ∀ id, 0 ≤ l.balance id

theorem nonNegative_of_forall_mem (h : ∀ e ∈ l.balances, 0 ≤ e.2) : l.NonNegative := by
  intro id
  rw [balance]
  cases hid : field? id l.balances with
  | none => exact Int.le_refl 0
  | some n => exact h (id, n) (mem_of_field? hid)

def total (l : Ledger) : Int := (l.balances.map Prod.snd).sum

theorem total_setBalance (l : Ledger) (id : String) (n : Int) :
    (l.setBalance id n).total = l.total - l.balance id + n := by
  have hsum := sum_putField (fun n : Int => n) id n l.balances
  have hbalance : (field? id l.balances).elim 0 (fun n : Int => n) = l.balance id := by
    rw [balance]
    cases field? id l.balances <;> rfl
  rw [hbalance] at hsum
  exact hsum

/-- What leaves the source comes to the destination, also when the two are one. -/
theorem total_moved (l : Ledger) (source destination : String) (amount : Int) :
    (l.moved source destination amount).total = l.total := by
  rw [moved, total_setBalance, total_setBalance]
  omega

/-! ## One step -/

inductive Takes (l : Ledger) : LedgerStep → Ledger → Prop
  | credit (id : String) {amount : Int} (hamount : 0 ≤ amount) :
      Takes l (.credit id amount) (l.setBalance id (l.balance id + amount))
  | authorize (source spender : String) :
      Takes l (.authorize source spender) (l.authorize source spender)
  | deauthorize (source spender : String) :
      Takes l (.deauthorize source spender) (l.deauthorize source spender)
  | transfer {source spender : String} (destination : String) {amount : Int}
      (hamount : 0 ≤ amount)
      (hspender : spender = source ∨ (source, spender) ∈ l.authorized)
      (hfunds : amount ≤ l.balance source) :
      Takes l (.transfer source destination amount spender) (l.moved source destination amount)

theorem transfer_eq_ok_iff {source destination spender : String} {amount : Int} :
    l.transfer source destination amount spender = .ok l' ↔
      0 ≤ amount ∧ (spender = source ∨ (source, spender) ∈ l.authorized) ∧
        amount ≤ l.balance source ∧ l' = l.moved source destination amount := by
  rw [← maySpend_iff]
  by_cases hamount : amount < 0
  · rw [transfer_of_neg hamount]
    simp [Int.not_le.2 hamount]
  · obtain ⟨n, rfl⟩ := Int.eq_ofNat_of_zero_le (Int.not_lt.1 hamount)
    rw [transfer_eq]
    split
    next hspender =>
      split
      next hfunds => simp [Int.not_le.2 hfunds]
      next hfunds => simp [hspender, Int.not_lt.1 hfunds, eq_comm]
    next hspender => simp [hspender]

theorem step_eq_ok_iff : l.step s = .ok l' ↔ l.Takes s l' := by
  cases s with
  | credit id amount =>
      rw [step, doing, crediting, Routine.left, Routine.outcome_bind, Routine.outcome_refuse]
      split
      next hneg =>
        constructor
        · intro h
          cases h
        · rintro (⟨_, hamount⟩)
          omega
      next hamount =>
        constructor
        · intro h
          obtain rfl := Except.ok.inj h
          exact .credit id (Int.not_lt.1 hamount)
        · rintro ⟨⟩
          rfl
  | authorize source spender =>
      constructor
      · intro h
        obtain rfl := Except.ok.inj h
        exact .authorize source spender
      · rintro ⟨⟩
        rfl
  | deauthorize source spender =>
      constructor
      · intro h
        obtain rfl := Except.ok.inj h
        exact .deauthorize source spender
      · rintro ⟨⟩
        rfl
  | transfer source destination amount spender =>
      have hstep : l.step (.transfer source destination amount spender) =
          l.transfer source destination amount spender := rfl
      rw [hstep, transfer_eq_ok_iff]
      constructor
      · rintro ⟨hamount, hspender, hfunds, rfl⟩
        exact .transfer destination hamount hspender hfunds
      · rintro ⟨⟩
        exact ⟨‹_›, ‹_›, ‹_›, rfl⟩

end Ledger

namespace LedgerStep

def credited : LedgerStep → Int
  | .credit _ amount => amount
  | _ => 0

/-- What a step says about a spender for a source, if anything: whether it may spend. -/
def consent? (source spender : String) : LedgerStep → Option Bool
  | .authorize x y => if x = source ∧ y = spender then some true else none
  | .deauthorize x y => if x = source ∧ y = spender then some false else none
  | _ => none

/-- What was last said about a spender for a source. -/
def lastConsent? (source spender : String) (steps : List LedgerStep) : Option Bool :=
  latest? (consent? source spender) steps

theorem lastConsent?_append (source spender : String) (steps : List LedgerStep) (s : LedgerStep) :
    lastConsent? source spender (steps ++ [s]) =
      (s.consent? source spender).or (lastConsent? source spender steps) := latest?_append ..

end LedgerStep

namespace Ledger

variable {l l' : Ledger} {s : LedgerStep} {steps : List LedgerStep}

theorem Takes.nonNegative (h : l.Takes s l') (hl : l.NonNegative) : l'.NonNegative := by
  intro id
  have hid := hl id
  cases h with
  | credit x hamount =>
      rw [balance_setBalance]
      split
      next => exact Int.add_nonneg (hl x) hamount
      next => exact hid
  | authorize source spender =>
      rw [Ledger.authorize]
      split <;> exact hid
  | deauthorize source spender => exact hid
  | @transfer source spender destination amount hamount hspender hfunds =>
      rw [balance_moved]
      by_cases hs : id = source
      · subst hs
        split <;> omega
      · rw [if_neg hs]
        split <;> omega

theorem Takes.total_eq (h : l.Takes s l') : l'.total = l.total + s.credited := by
  cases h with
  | credit id hamount =>
      rw [total_setBalance, LedgerStep.credited]
      omega
  | authorize source spender =>
      rw [Ledger.authorize, LedgerStep.credited, Int.add_zero]
      · split <;> rfl
      · nofun
  | deauthorize source spender => exact (Int.add_zero _).symm
  | transfer destination hamount hspender hfunds =>
      rw [total_moved, LedgerStep.credited, Int.add_zero]
      nofun

theorem mem_authorize_iff (l : Ledger) (x y : String) (p : String × String) :
    p ∈ (l.authorize x y).authorized ↔ p = (x, y) ∨ p ∈ l.authorized := by
  rw [authorize]
  split
  next h =>
    have hmem := List.contains_iff_mem.1 h
    exact ⟨.inr, fun hp => hp.elim (fun hp => hp ▸ hmem) id⟩
  next => simp [or_comm]

theorem mem_deauthorize_iff (l : Ledger) (x y : String) (p : String × String) :
    p ∈ (l.deauthorize x y).authorized ↔ p ≠ (x, y) ∧ p ∈ l.authorized := by
  simp [deauthorize, and_comm]

/-- A spender is authorized after a step as the step says, or as before if it says nothing. -/
theorem Takes.mem_authorized_iff (h : l.Takes s l') (source spender : String) :
    (source, spender) ∈ l'.authorized ↔
      (s.consent? source spender).getD (decide ((source, spender) ∈ l.authorized)) = true := by
  cases h with
  | credit id hamount => simp [LedgerStep.consent?, setBalance]
  | authorize x y =>
      rw [mem_authorize_iff, LedgerStep.consent?]
      by_cases hxy : x = source ∧ y = spender
      · simp [hxy]
      · have hne : (source, spender) ≠ (x, y) := fun heq =>
          hxy ⟨(Prod.mk.inj heq).1.symm, (Prod.mk.inj heq).2.symm⟩
        simp [hxy, hne]
  | deauthorize x y =>
      rw [mem_deauthorize_iff, LedgerStep.consent?]
      by_cases hxy : x = source ∧ y = spender
      · simp [hxy]
      · have hne : (source, spender) ≠ (x, y) := fun heq =>
          hxy ⟨(Prod.mk.inj heq).1.symm, (Prod.mk.inj heq).2.symm⟩
        simp [hxy, hne]
  | transfer destination hamount hspender hfunds =>
      simp [LedgerStep.consent?, moved, setBalance]

/-! ## Runs -/

open Outcome

def after (l : Ledger) (s : LedgerStep) : Ledger := ((doing s).on l).2

theorem after_eq (l : Ledger) (s : LedgerStep) : l.after s = stateAfter l (l.step s) :=
  ((atomic_doing s).stateAfter_left l).symm

def run (l : Ledger) (steps : List LedgerStep) : Ledger := steps.foldl after l

/-- What the credits of a run bring in, those that succeed. -/
def credits (l : Ledger) : List LedgerStep → Int
  | [] => 0
  | s :: ss => (match l.step s with
    | .ok _ => s.credited
    | .error _ => 0) + (l.after s).credits ss

theorem run_append (l : Ledger) (steps : List LedgerStep) (s : LedgerStep) :
    l.run (steps ++ [s]) = (l.run steps).after s := by
  rw [run, List.foldl_append]
  rfl

theorem after_cases (l : Ledger) (s : LedgerStep) :
    (∃ e, l.step s = .error e ∧ l.after s = l) ∨
      ∃ l', l.step s = .ok l' ∧ l.after s = l' ∧ l.Takes s l' := by
  rw [after_eq]
  cases h : l.step s with
  | error e => exact .inl ⟨e, rfl, rfl⟩
  | ok l' => exact .inr ⟨l', rfl, rfl, step_eq_ok_iff.1 h⟩

theorem NonNegative.run (hl : l.NonNegative) (steps : List LedgerStep) :
    (l.run steps).NonNegative := by
  induction steps using List.reverseRecOn with
  | nil => exact hl
  | append_singleton steps s ih =>
      rw [run_append]
      rcases (l.run steps).after_cases s with ⟨e, -, h⟩ | ⟨l', -, h, htakes⟩
      · rw [h]
        exact ih
      · rw [h]
        exact htakes.nonNegative ih

theorem total_run (l : Ledger) (steps : List LedgerStep) :
    (l.run steps).total = l.total + l.credits steps := by
  induction steps generalizing l with
  | nil => exact (Int.add_zero _).symm
  | cons s ss ih =>
      have hrest : (l.run (s :: ss)).total = (l.after s).total + (l.after s).credits ss := ih _
      rw [hrest, credits]
      rcases l.after_cases s with ⟨e, hstep, h⟩ | ⟨l', hstep, h, htakes⟩
      · simp only [hstep, h, Int.zero_add]
      · simp only [hstep, h, htakes.total_eq, Int.add_assoc]

/-- Who starts with no authorization has what was last said. -/
theorem mem_authorized_run_iff (hl : l.authorized = []) (source spender : String)
    (steps : List LedgerStep) :
    (source, spender) ∈ (l.run steps).authorized ↔
      LedgerStep.lastConsent? source spender steps = some true := by
  induction steps using List.reverseRecOn with
  | nil => simp [run, hl, LedgerStep.lastConsent?, latest?]
  | append_singleton steps s ih =>
      rw [run_append, LedgerStep.lastConsent?_append]
      rcases (l.run steps).after_cases s with ⟨e, hstep, h⟩ | ⟨l', -, h, htakes⟩
      · -- A step that fails says nothing.
        have hnone : s.consent? source spender = none := by
          cases s with
          | authorize x y => cases hstep
          | deauthorize x y => cases hstep
          | _ => rfl
        rw [h, ih, hnone]
        rfl
      · rw [h, htakes.mem_authorized_iff]
        cases s.consent? source spender with
        | none => simpa using ih
        | some b => simp

/-- What a run of a ledger keeps, from balances that are not below zero and without an
authorization. No balance falls below zero, and all of them together are what they were and what the
credits brought. A step that fails changes nothing. A transfer that succeeds takes the amount from
its source and gives it to its destination, which changes nothing if they are one; only the source
has less than before, and the spender is the source itself or one of whom the source has last said
that it may spend.
-/
theorem books_balance (hbalances : ∀ e ∈ l.balances, 0 ≤ e.2) (hauthorized : l.authorized = [])
    (steps : List LedgerStep) :
    (∀ id, 0 ≤ (l.run steps).balance id) ∧
    (l.run steps).total = l.total + l.credits steps ∧
    ∀ before s rest, steps = before ++ s :: rest →
      (∀ e, (l.run before).step s = .error e → l.run (before ++ [s]) = l.run before) ∧
      ∀ source destination amount spender l',
        s = .transfer source destination amount spender → (l.run before).step s = .ok l' →
        l.run (before ++ [s]) = l' ∧
        (∀ id, l'.balance id = (l.run before).balance id - (if id = source then amount else 0) +
          if id = destination then amount else 0) ∧
        (∀ id, l'.balance id < (l.run before).balance id → id = source) ∧
        (spender = source ∨ LedgerStep.lastConsent? source spender before = some true) ∧
        (source = destination → ∀ id, l'.balance id = (l.run before).balance id) := by
  refine ⟨(nonNegative_of_forall_mem hbalances).run steps, l.total_run steps, ?_⟩
  rintro before s rest -
  constructor
  · intro e he
    rw [run_append, after_eq, he, stateAfter_error]
  · rintro source destination amount spender l' rfl hstep
    have hafter : l.run (before ++ [.transfer source destination amount spender]) = l' := by
      rw [run_append, after_eq, hstep, stateAfter_ok]
    obtain ⟨hamount, hspender, -, rfl⟩ := transfer_eq_ok_iff.1 hstep
    have hmoved := (l.run before).balance_moved source destination
    refine ⟨hafter, fun id => hmoved id amount, ?_, ?_, ?_⟩
    · intro id hless
      rw [hmoved] at hless
      by_cases hs : id = source
      · exact hs
      · rw [if_neg hs] at hless
        split at hless <;> omega
    · exact hspender.imp_right (mem_authorized_run_iff hauthorized source spender before).1
    · rintro rfl id
      rw [hmoved]
      omega

/-- A spender with leave moves three of five, nobody can move nine of three, and one is credited. -/
theorem books_balance_lent :
    let l : Ledger := { balances := [("a", 5)] }
    let lent : LedgerStep := .authorize "a" "s"
    let spent : LedgerStep := .transfer "a" "b" 3 "s"
    let overdrawn : LedgerStep := .transfer "b" "b" 9 "b"
    let steps := [lent, spent, overdrawn, .credit "b" 1]
    (∀ id, 0 ≤ (l.run steps).balance id) ∧ (l.run steps).total = 6 ∧
      LedgerStep.lastConsent? "a" "s" [lent] = some true ∧
      (l.run [lent, spent]).balance "a" = 2 ∧ (l.run [lent, spent]).balance "b" = 3 ∧
      l.run [lent, spent, overdrawn] = l.run [lent, spent] := by
  intro l lent spent overdrawn steps
  have hfive : ∀ e ∈ l.balances, 0 ≤ e.2 := by
    intro e he
    rw [List.mem_singleton.1 he]
    decide
  obtain ⟨hpos, htotal, hsteps⟩ := books_balance hfive rfl steps
  have hcredits : l.total + l.credits steps = 6 := by decide
  obtain ⟨-, hmoves⟩ := hsteps [lent] spent [overdrawn, .credit "b" 1] rfl
  obtain ⟨hrun, hmoved, -, hleave, -⟩ := hmoves "a" "b" 3 "s" _ rfl rfl
  obtain ⟨hrefused, -⟩ := hsteps [lent, spent] overdrawn [.credit "b" 1] rfl
  have ha := hmoved "a"
  have hb := hmoved "b"
  rw [← hrun] at ha hb
  exact ⟨hpos, htotal.trans hcredits, hleave.resolve_left (by decide), ha, hb, hrefused _ rfl⟩

end Ledger

/-- What a world does to its ledger, asked for these steps alone, is such a run. -/
theorem World.ledger_run (w : World) (steps : List LedgerStep) :
    (w.run (steps.map .ledger)).ledger = w.ledger.run steps := by
  induction steps generalizing w with
  | nil => rfl
  | cons s ss ih =>
      have hstep : (w.step (.ledger s)).2.ledger = w.ledger.after s := rfl
      have hrest : (w.run ((s :: ss).map .ledger)).ledger = (w.step (.ledger s)).2.ledger.run ss :=
        ih _
      rw [hrest, hstep]
      rfl

end Keyring
