import Keyring.Engine.Run
import Keyring.Proofs.Token.Accounts
import Mathlib.Data.List.Induction

/-!
# The supply of tokens

What the accounts of a mint hold together is changed by the making of accounts alone. Approving,
revoking and transferring leave it as it is, whatever the amount and also from an account to itself,
because a transfer gives its destination what it takes from its source, and both hold the same mint.

An allowance is there for a delegate only: the delegate goes when the allowance is spent, and an
account that is made has neither.
-/

namespace Keyring

namespace TokenAccount

def held (m : String) (a : TokenAccount) : Int := if a.mint = m then a.amount else 0

/-- Whether an account has neither a delegate nor an allowance, as when it is made. -/
def IsNew (a : TokenAccount) : Prop := a.delegate = none ∧ a.allowance = 0

def Settled (a : TokenAccount) : Prop := a.delegate = none → a.allowance = 0

/-- Whether two accounts differ in no more than balance, delegate and allowance. -/
structure SameHolder (a b : TokenAccount) : Prop where
  address : a.address = b.address
  owner : a.owner = b.owner
  mint : a.mint = b.mint

theorem SameHolder.refl (a : TokenAccount) : a.SameHolder a := ⟨rfl, rfl, rfl⟩

theorem IsNew.settled {a : TokenAccount} (h : a.IsNew) : a.Settled := fun _ => h.2

theorem held_add {m : String} {a b : TokenAccount} {n : Int} (hmint : b.mint = a.mint)
    (hamount : b.amount = a.amount + n) : b.held m = a.held m + if a.mint = m then n else 0 := by
  rw [held, held, hmint, hamount]
  split
  next => rfl
  next => rfl

end TokenAccount

namespace TokenStep

def creates : TokenStep → Bool
  | .createMint _ => true
  | .createAccount _ => true
  | _ => false

def named : TokenStep → List String
  | .createMint _ => []
  | .createAccount a => [a.address]
  | .approve y _ _ _ => [y]
  | .revoke y _ => [y]
  | .transfer x => [x.source, x.destination]

/-- What a step that succeeds makes of the account of an address, unless it makes the account. -/
def onAccount (y : String) : TokenStep → TokenAccount → TokenAccount
  | .approve z d _ n, a => if y = z then a.approve d n else a
  | .revoke z _, a => if y = z then a.clearDelegate else a
  | .transfer x, a => x.effect y a
  | _, a => a

variable (s : TokenStep) (y : String) (a : TokenAccount)

theorem sameHolder_onAccount : (s.onAccount y a).SameHolder a := by
  cases s with
  | createMint m => exact .refl a
  | createAccount b => exact .refl a
  | approve z d o n =>
      rw [onAccount]
      split
      next => exact ⟨rfl, rfl, rfl⟩
      next => exact .refl a
  | revoke z o =>
      rw [onAccount]
      split
      next => exact ⟨rfl, rfl, rfl⟩
      next => exact .refl a
  | transfer x =>
      rw [onAccount, x.effect_eq]
      exact ⟨rfl, rfl, rfl⟩

theorem onAccount_of_not_named (hy : y ∉ s.named) : s.onAccount y a = a := by
  cases s with
  | createMint m => rfl
  | createAccount b => rfl
  | approve z d o n => rw [onAccount, if_neg fun h => hy (List.mem_singleton.2 h)]
  | revoke z o => rw [onAccount, if_neg fun h => hy (List.mem_singleton.2 h)]
  | transfer x =>
      have hsource : y ≠ x.source := fun h => hy (h ▸ List.mem_cons_self)
      have hdestination : y ≠ x.destination := fun h => hy (by simp [named, h])
      simp [onAccount, x.effect_eq, hsource, hdestination]

end TokenStep

namespace Tokens

open Outcome

variable {t t' : Tokens} {s : TokenStep} {x : TokenTransfer} {a : TokenAccount} {y m : String}

/-! ## What the accounts of a mint hold together -/

def supply (t : Tokens) (m : String) : Int := (t.accounts.map fun e => e.2.held m).sum

theorem supply_modify {f : TokenAccount → TokenAccount} (ha : t.account y = .ok a) (m : String) :
    (t.modify y f).supply m = t.supply m - a.held m + (f a).held m := by
  have hfield := account_eq_ok_iff.1 ha
  rw [modify, hfield]
  have hsum := sum_putField (TokenAccount.held m) y (f a) t.accounts
  rw [hfield] at hsum
  exact hsum

/-- What is done to one account changes the supply of its mint by what it changes the balance. -/
theorem supply_modify_add {f : TokenAccount → TokenAccount} {n : Int} (ha : t.account y = .ok a)
    (hmint : (f a).mint = a.mint) (hamount : (f a).amount = a.amount + n) (m : String) :
    (t.modify y f).supply m = t.supply m + if a.mint = m then n else 0 := by
  rw [supply_modify ha, TokenAccount.held_add hmint hamount]
  omega

theorem account_modify_eq_map (t : Tokens) (z : String) (f : TokenAccount → TokenAccount)
    (y : String) :
    (t.modify z f).account y = (t.account y).map fun a => if y = z then f a else a := by
  rw [account_modify]
  by_cases hy : y = z
  · simp only [if_pos hy]
  · simp only [if_neg hy]
    cases t.account y <;> rfl

theorem addresses_modify (t : Tokens) (y : String) (f : TokenAccount → TokenAccount) :
    (t.modify y f).accounts.map Prod.fst = t.accounts.map Prod.fst := by
  rw [modify]
  split
  next => rfl
  next a ha => exact map_fst_putField (List.mem_map_of_mem (mem_of_field? ha))

/-- Nothing that leaves mint and balance as they are changes a supply. -/
theorem supply_modify_of_same {f : TokenAccount → TokenAccount} (ha : t.account y = .ok a)
    (hmint : (f a).mint = a.mint) (hamount : (f a).amount = a.amount) (m : String) :
    (t.modify y f).supply m = t.supply m := by
  rw [supply_modify_add ha hmint (hamount.trans (Int.add_zero _).symm), ite_self, Int.add_zero]

/-- The destination is looked up after the source has paid, since the two may be one. -/
theorem supply_transfer (h : t.transfer x = .ok t') (m : String) : t'.supply m = t.supply m := by
  obtain ⟨⟨a, hx⟩, rfl⟩ := transfer_eq_ok_iff.1 h
  obtain ⟨d, hd, hdmint⟩ := hx.destination
  have hpaid : (t.modify x.source (withdrawn x)).supply m =
      t.supply m + if x.mint = m then -x.amount else 0 := by
    rw [← hx.mint]
    exact supply_modify_add hx.source (by rw [withdrawn]; split <;> rfl)
      (by rw [TokenTransfer.amount_withdrawn, Int.sub_eq_add_neg]) m
  have hcredited : ∃ b, (t.modify x.source (withdrawn x)).account x.destination = .ok b ∧
      b.mint = x.mint := by
    rw [account_modify, hd]
    split
    next => exact ⟨_, rfl, by rw [withdrawn]; split <;> exact hdmint⟩
    next => exact ⟨d, rfl, hdmint⟩
  obtain ⟨b, hb, hbmint⟩ := hcredited
  rw [supply_modify_add hb rfl rfl, hpaid, hbmint]
  split <;> omega

/-! ## One step -/

theorem supply_step (hs : s.creates = false) (h : t.step s = .ok t') (m : String) :
    t'.supply m = t.supply m := by
  cases s with
  | createMint m => cases hs
  | createAccount a => cases hs
  | approve z d o n =>
      obtain ⟨-, ⟨a, ha, -⟩, rfl⟩ := approve_eq_ok_iff.1 h
      exact supply_modify_of_same ha rfl rfl m
  | revoke z o =>
      obtain ⟨⟨a, ha, -⟩, rfl⟩ := revoke_eq_ok_iff.1 h
      exact supply_modify_of_same ha rfl rfl m
  | transfer x => exact supply_transfer h m

theorem addresses_step (hs : s.creates = false) (h : t.step s = .ok t') :
    t'.accounts.map Prod.fst = t.accounts.map Prod.fst := by
  cases s with
  | createMint m => cases hs
  | createAccount a => cases hs
  | approve z d o n =>
      obtain ⟨-, -, rfl⟩ := approve_eq_ok_iff.1 h
      exact addresses_modify t z _
  | revoke z o =>
      obtain ⟨-, rfl⟩ := revoke_eq_ok_iff.1 h
      exact addresses_modify t z _
  | transfer x =>
      obtain ⟨-, rfl⟩ := transfer_eq_ok_iff.1 h
      rw [addresses_modify, addresses_modify]

theorem account_step (hs : s.creates = false) (h : t.step s = .ok t') (y : String) :
    t'.account y = (t.account y).map (s.onAccount y) := by
  cases s with
  | createMint m => cases hs
  | createAccount a => cases hs
  | approve z d o n =>
      obtain ⟨-, -, rfl⟩ := approve_eq_ok_iff.1 h
      exact account_modify_eq_map t z _ y
  | revoke z o =>
      obtain ⟨-, rfl⟩ := revoke_eq_ok_iff.1 h
      exact account_modify_eq_map t z _ y
  | transfer x => exact account_transfer h y

/-! ## Runs -/

def after (t : Tokens) (s : TokenStep) : Tokens := ((doing s).on t).2

theorem after_eq (t : Tokens) (s : TokenStep) : t.after s = stateAfter t (t.step s) :=
  ((atomic_doing s).stateAfter_left t).symm

def run (t : Tokens) (steps : List TokenStep) : Tokens := steps.foldl after t

def Settled (t : Tokens) : Prop := ∀ y a, t.account y = .ok a → a.Settled

theorem account_put (t : Tokens) (a : TokenAccount) (y : String) :
    (t.put a).account y = if y = a.address then .ok a else t.account y := by
  rw [account, put, field?_putField]
  by_cases hy : y = a.address
  · rw [if_pos hy, if_pos hy]
  · rw [if_neg hy, if_neg hy]
    rfl

theorem createAccount_eq_ok_iff : (creatingAccount a).left t = .ok t' ↔
    (∃ m, t.mint a.mint = .ok m) ∧ t' = t.put a := by
  rw [creatingAccount, Routine.left, Routine.outcome_bind, Routine.outcome_get, ok_bind,
    Routine.outcome_bind, Routine.outcome_liftM]
  cases t.mint a.mint with
  | error e => simp [Except.map]
  | ok m => simp [Except.map, eq_comm]

/-- Only who draws as a delegate spends an allowance, and an account that has no delegate after it
has no allowance after it. -/
theorem Draws.settled_effect (hdraws : y = x.source → t.Draws x a) (ha : a.Settled) :
    (x.effect y a).Settled := by
  rw [x.effect_eq]
  intro hnone
  by_cases hspent : y = x.source ∧ x.authority ≠ a.owner
  · rw [if_pos hspent]
    cases hdraws hspent.1 with
    | owner howner => exact absurd howner hspent.2
    | delegate hseeds hsigns hdelegate hallowance =>
        have hall : a.allowance = x.amount := by
          by_contra hleft
          simp [hleft, hdelegate] at hnone
        exact Int.sub_eq_zero.2 hall
  · rw [if_neg hspent]
    have hsame : ¬ (y = x.source ∧ x.authority ≠ a.owner ∧ a.allowance = x.amount) :=
      fun h => hspent ⟨h.1, h.2.1⟩
    exact ha (by simpa only [if_neg hsame] using hnone)

theorem Settled.step (ht : t.Settled) (hnew : ∀ b, s = .createAccount b → b.IsNew)
    (h : t.step s = .ok t') : t'.Settled := by
  intro y a' ha'
  cases s with
  | createMint m =>
      obtain rfl := Except.ok.inj h
      exact ht y a' ha'
  | createAccount b =>
      obtain ⟨-, rfl⟩ := createAccount_eq_ok_iff.1 h
      rw [account_put] at ha'
      split at ha'
      next =>
        obtain rfl := Except.ok.inj ha'
        exact (hnew b rfl).settled
      next => exact ht y a' ha'
  | approve z d o n =>
      rw [account_step rfl h, map_eq_ok] at ha'
      obtain ⟨a, ha, rfl⟩ := ha'
      rw [TokenStep.onAccount]
      split
      next => nofun
      next => exact ht y a ha
  | revoke z o =>
      rw [account_step rfl h, map_eq_ok] at ha'
      obtain ⟨a, ha, rfl⟩ := ha'
      rw [TokenStep.onAccount]
      split
      next => exact fun _ => rfl
      next => exact ht y a ha
  | transfer x =>
      obtain ⟨a, ha, rfl⟩ := exists_account_of_transfer h ha'
      obtain ⟨⟨b, hb⟩, -⟩ := transfer_eq_ok_iff.1 h
      refine Draws.settled_effect (t := t) ?_ (ht y a ha)
      rintro rfl
      obtain rfl : a = b := Except.ok.inj (ha.symm.trans hb.source)
      exact hb.draws

theorem Settled.run (ht : t.Settled) {steps : List TokenStep}
    (hnew : ∀ b, .createAccount b ∈ steps → b.IsNew) : (t.run steps).Settled := by
  induction steps generalizing t with
  | nil => exact ht
  | cons s ss ih =>
      refine ih ?_ fun b hb => hnew b (List.mem_cons_of_mem s hb)
      rw [after_eq]
      cases h : t.step s with
      | error e => exact ht
      | ok t' => exact ht.step (fun b hb => hnew b (hb ▸ List.mem_cons_self)) h

/-- What tokens keep. Approving, revoking and transferring, with whatever arguments, leave the
supply of every mint and the accounts that there are, with their addresses, owners and mints, and
every account that they do not name; they change nothing if they fail, and if they succeed each
account is what `TokenStep.onAccount` makes of it. In a run from new accounts, in which those that
are made are new, an account without a delegate has no allowance.
-/
theorem supply_conserved (t : Tokens) :
    (∀ s, s.creates = false →
      (∀ m, (t.after s).supply m = t.supply m) ∧
      (t.after s).accounts.map Prod.fst = t.accounts.map Prod.fst ∧
      (∀ y a, t.account y = .ok a → ∃ a', (t.after s).account y = .ok a' ∧ a'.SameHolder a ∧
        (y ∉ s.named → a' = a)) ∧
      (∀ e, t.step s = .error e → t.after s = t) ∧
      ∀ t', t.step s = .ok t' →
        t.after s = t' ∧ ∀ y, t'.account y = (t.account y).map (s.onAccount y)) ∧
    ((∀ y a, t.account y = .ok a → a.IsNew) →
      ∀ steps, (∀ b, .createAccount b ∈ steps → b.IsNew) →
        ∀ y a, (t.run steps).account y = .ok a → a.delegate = none → a.allowance = 0) := by
  constructor
  · intro s hs
    cases h : t.step s with
    | error e =>
        have hsame : t.after s = t := by rw [after_eq, h, stateAfter_error]
        rw [hsame]
        refine ⟨fun _ => rfl, rfl, ?_, fun _ _ => rfl, nofun⟩
        exact fun y a ha => ⟨a, ha, .refl a, fun _ => rfl⟩
    | ok t' =>
        have hnext : t.after s = t' := by rw [after_eq, h, stateAfter_ok]
        have haccount := account_step hs h
        rw [hnext]
        refine ⟨supply_step hs h, addresses_step hs h, ?_, nofun, ?_⟩
        · intro y a ha
          rw [haccount, ha]
          exact ⟨_, rfl, s.sameHolder_onAccount y a, s.onAccount_of_not_named y a⟩
        · rintro _ ⟨⟩
          exact ⟨rfl, haccount⟩
  · intro hnew steps hmade
    have hsettled : t.Settled := fun y a ha => (hnew y a ha).settled
    exact hsettled.run hmade

/-- Four of ten are paid by the owner, who approves a delegate before and revokes it after. -/
theorem supply_conserved_paid :
    let t : Tokens :=
      { program := "1", mints := [("m", ⟨"m", 6⟩)]
        accounts := [("x", { address := "x", owner := "o", mint := "m", amount := 10 }),
          ("y", { address := "y", owner := "p", mint := "m" })] }
    let paid : TokenStep := .transfer
      { source := "x", mint := "m", destination := "y", authority := "o", amount := 4
        decimals := 6 }
    let steps := [.approve "x" "d" "o" 5, paid, .revoke "x" "o"]
    (t.after paid).supply "m" = 10 ∧
      (∃ a, (t.after paid).account "y" = .ok a ∧ a.amount = 4 ∧ a.owner = "p") ∧
      ∃ a, (t.run steps).account "x" = .ok a ∧ a.amount = 6 ∧ a.allowance = 0 := by
  intro t paid steps
  have hnew : ∀ y a, t.account y = .ok a → a.IsNew := by
    intro y a ha
    have hmem := mem_of_field? (account_eq_ok_iff.1 ha)
    simp only [t, List.mem_cons, Prod.mk.injEq, List.not_mem_nil, or_false] at hmem
    rcases hmem with ⟨-, rfl⟩ | ⟨-, rfl⟩ <;> exact ⟨rfl, rfl⟩
  have hmade : ∀ b, .createAccount b ∈ steps → b.IsNew := by simp [steps, paid]
  obtain ⟨hstep, hrun⟩ := supply_conserved t
  obtain ⟨hsupply, -, -, -, heffect⟩ := hstep paid rfl
  have hten : t.supply "m" = 10 := by decide
  obtain ⟨hafter, hy⟩ := heffect _ rfl
  have hcredited := hy "y"
  rw [← hafter] at hcredited
  exact ⟨(hsupply "m").trans hten, ⟨_, hcredited, rfl, rfl⟩,
    ⟨_, rfl, rfl, hrun hnew steps hmade "x" _ rfl rfl⟩⟩

end Tokens

/-- What a world does to its tokens, asked for these steps alone, is such a run. -/
theorem World.tokens_run (w : World) (steps : List TokenStep) :
    (w.run (steps.map .tokens)).tokens = w.tokens.run steps := by
  induction steps generalizing w with
  | nil => rfl
  | cons s ss ih =>
      have hstep : (w.step (.tokens s)).2.tokens = w.tokens.after s := rfl
      have hrest : (w.run ((s :: ss).map .tokens)).tokens = (w.step (.tokens s)).2.tokens.run ss :=
        ih _
      rw [hrest, hstep]
      rfl

end Keyring
