import Keyring.Proofs.Engine.Delegation

/-!
# What delegates may spend

The engine has three ways of touching what stands between a token account and its delegate: it
approves one for an allowance, it revokes one, or it draws an amount. `Allotment` is what stands
between them, and `TokenAct.apply` is what each act makes of it. A step of the engine is such an act
or leaves the allotment alone, so that what all session keys together have drawn since an approval,
with what is left of the allowance, is what was approved. Once the allowance is spent or revoked
nothing can be drawn until the next approval.

The owner of the token account must not be a delegate itself: as the owner it would draw without
spending the allowance.
-/

namespace Keyring

/-- Whether an identity is the delegate of some owner's account, where the addresses of accounts are
derived for one program and those of delegates for another. -/
def Derivation.IsDelegate (program binder x : String) : Prop :=
  ∃ authority mint a d, ownerAddress authority program = .ok a ∧
    delegateAddress a.address mint binder = .ok d ∧ d.address = x

structure Allotment where
  delegate : Option String
  allowance : Int

def TokenAccount.allotment (b : TokenAccount) : Allotment := ⟨b.delegate, b.allowance⟩

inductive TokenAct where
  | approve (account delegate : String) (amount : Int)
  | revoke (account : String)
  | draw (account : String) (amount : Int)

namespace TokenAct

def account : TokenAct → String
  | approve y _ _ => y
  | revoke y => y
  | draw y _ => y

def apply (l : Allotment) : TokenAct → Allotment
  | approve _ delegate amount => ⟨some delegate, amount⟩
  | revoke _ => ⟨none, 0⟩
  | draw _ amount => ⟨if l.allowance = amount then none else l.delegate, l.allowance - amount⟩

def Fits (l : Allotment) : TokenAct → Prop
  | approve _ _ amount => 0 ≤ amount
  | revoke _ => True
  | draw _ amount => l.delegate ≠ none ∧ 0 ≤ amount ∧ amount ≤ l.allowance

def IsApproval : TokenAct → Prop
  | approve _ _ _ => True
  | _ => False

/-- Whether an act starts or ends an approval. -/
def Resets : TokenAct → Prop
  | draw _ _ => False
  | _ => True

def drawn (y : String) : TokenAct → Int
  | draw z amount => if z = y then amount else 0
  | _ => 0

theorem drawn_of_ne {y : String} {act : TokenAct} (h : act.account ≠ y) : act.drawn y = 0 := by
  cases act with
  | draw z amount => exact if_neg h
  | _ => rfl

end TokenAct

def Operation.tokenAct? : Operation → Option TokenAct
  | .approve _ tokenAccount _ delegate amount => some (.approve tokenAccount delegate amount)
  | .revokeDelegate _ tokenAccount => some (.revoke tokenAccount)
  | .delegatedTransfer _ _ source _ _ _ amount => some (.draw source amount)
  | _ => none

/-- Whether an operation is asked of the token program itself, past the engine. -/
def Operation.isDirect : Operation → Bool
  | .tokens _ => true
  | _ => false

namespace World

/-- What an operation does to an allotment. One that fails does nothing. -/
def act? (w : World) (op : Operation) : Option TokenAct :=
  match (w.step op).1 with
  | .ok _ => op.tokenAct?
  | .error _ => none

/-- Whether no operation of a run does this to the allotment of a token account. -/
def NeverActs (w : World) (y : String) (P : TokenAct → Prop) : List Operation → Prop
  | [] => True
  | op :: ops => (∀ act, w.act? op = some act → act.account = y → ¬ P act) ∧
    (w.step op).2.NeverActs y P ops

/-- Whether an operation revokes the delegate of a token account, or draws the last of its
allowance. -/
def Ends (w : World) (y : String) (op : Operation) : Prop :=
  w.act? op = some (.revoke y) ∨ ∃ amount b, w.act? op = some (.draw y amount) ∧
    (w.step op).2.tokens.account y = .ok b ∧ b.allowance = 0

def drawnBy (w : World) (y : String) : List Operation → Int
  | [] => 0
  | op :: ops => ((w.act? op).elim 0 (·.drawn y)) + (w.step op).2.drawnBy y ops

/-- A token account of the owner `x`, who is no delegate, where delegates are derived for the
program of the token program. -/
structure Stands (w : World) (y x : String) (b : TokenAccount) : Prop where
  reachable : w.store.Reachable w.program
  binder : w.tokens.program = w.binder
  account : w.tokens.account y = .ok b
  owner : b.owner = x
  plain : ¬ Derivation.IsDelegate w.program w.binder x

open Outcome

variable {w : World} {x y z : String} {b : TokenAccount} {op : Operation}

/-! ## One operation -/

theorem act?_of_error {f : Fault} (h : (w.step op).1 = .error f) : w.act? op = none := by
  rw [act?, h]

theorem act?_of_ok {answer : Answer} (h : (w.step op).1 = .ok answer) :
    w.act? op = op.tokenAct? := by
  rw [act?, h]

theorem Drafts.kept {w' : World} (h : w.Drafts w') :
    w'.tokens = w.tokens ∧ w'.binder = w.binder := by
  obtain ⟨s, -, rfl⟩ := h
  exact ⟨rfl, rfl⟩

theorem kept_edit {e : Edit} (he : op.edit? = some (x, e)) :
    (w.step op).2.tokens = w.tokens ∧ (w.step op).2.binder = w.binder := by
  rcases step_edit (w := w) he with
    ⟨f, w', h, hdrafts⟩ | ⟨a, a', s', sink, answer, -, -, -, h⟩ <;> rw [h]
  · exact hdrafts.kept
  · exact ⟨rfl, rfl⟩

theorem kept_issue (w : World) (authority : String) (spec : KeySpec) :
    (w.issue authority spec).2.tokens = w.tokens ∧
      (w.issue authority spec).2.binder = w.binder := by
  have hstep : (w.issue authority spec).2 = (w.step (.issue authority spec)).2 := rfl
  rw [hstep]
  cases he : (Operation.issue authority spec).edit? with
  | none =>
      obtain ⟨f, h⟩ := step_issue_of_edit?_eq_none (w := w) he
      rw [h]
      exact ⟨rfl, rfl⟩
  | some xe => exact kept_edit he

theorem kept_issueAll (w : World) (authority : String) (specs : List KeySpec) :
    (w.issueAll authority specs).2.tokens = w.tokens ∧
      (w.issueAll authority specs).2.binder = w.binder := by
  induction specs generalizing w with
  | nil => exact ⟨rfl, rfl⟩
  | cons s ss ih =>
      obtain ⟨htokens, hbinder⟩ := w.kept_issue authority s
      rw [issueAll]
      rcases h : w.issue authority s with ⟨r, w₁⟩
      rw [h] at htokens hbinder
      cases r with
      | error f => exact ⟨htokens, hbinder⟩
      | ok k => exact ⟨(ih w₁).1.trans htokens, (ih w₁).2.trans hbinder⟩

/-- No operation has delegates derived for another program. -/
theorem binder_step (w : World) (op : Operation) : (w.step op).2.binder = w.binder := by
  cases he : op.edit? with
  | some xe => exact (kept_edit he).2
  | none =>
      cases hop : op.isBatch with
      | true =>
          cases op with
          | issueAll authority specs => exact (w.kept_issueAll authority specs).2
          | _ => cases hop
      | false =>
          rcases follows_step (w := w) hop he with ⟨authority, rfl⟩ | hfollows
          · rcases w.step_openAccount authority with ⟨f, h⟩ | ⟨a, s', -, -, h⟩ <;> rw [h]
          · exact hfollows.binder

theorem tokens_setClock (w : World) (r : Except ClockError Reading) :
    (w.setClock r).2.tokens = w.tokens := by
  cases r <;> rfl

/-- Whatever does nothing to an allotment leaves the tokens alone. -/
theorem tokens_step (hop : op.isDirect = false) (hact : op.tokenAct? = none) :
    (w.step op).2.tokens = w.tokens := by
  cases he : op.edit? with
  | some xe => exact (kept_edit he).1
  | none =>
      cases op with
      | openAccount authority =>
          rcases w.step_openAccount authority with ⟨f, h⟩ | ⟨a, s', -, -, h⟩ <;> rw [h]
      | issue authority spec =>
          obtain ⟨f, h⟩ := step_issue_of_edit?_eq_none (w := w) he
          rw [h]
      | issueAll authority specs => exact (w.kept_issueAll authority specs).1
      | execute authority signer request source? destination? =>
          rw [step, answered, execute_eq]
          split <;> rfl
      | moveClock time? height? => exact w.tokens_setClock _
      | advanceClock seconds height => exact w.tokens_setClock _
      | tokens s => cases hop
      | approve authority tokenAccount mint delegate amount => cases hact
      | revokeDelegate authority tokenAccount => cases hact
      | delegatedTransfer authority signer source destination mint delegate amount => cases hact
      | _ => first | rfl | cases he

theorem approve_cases (w : World) (authority tokenAccount mint delegate : String) (amount : Int) :
    let r := w.approve authority tokenAccount mint delegate amount
    (∃ f, r = (.error f, w)) ∨ ∃ d tokens sink, r = (.ok d, { w with tokens, sink }) ∧
      w.tokens.approve tokenAccount delegate authority amount = .ok tokens := by
  intro r
  cases h : w.approved authority tokenAccount mint delegate amount with
  | error f => exact .inl ⟨f.raised, by simp only [r, approve_eq, h]⟩
  | ok p =>
      obtain ⟨d, tokens⟩ := p
      refine .inr ⟨d, tokens, _, by simp only [r, approve_eq, h]; rfl, ?_⟩
      rw [approved] at h
      split at h
      next => cases h
      next =>
        obtain ⟨a, -, h⟩ := bind_eq_ok.1 h
        obtain ⟨d', hd, h⟩ := bind_eq_ok.1 h
        obtain ⟨holding, -, h⟩ := bind_eq_ok.1 h
        split at h
        next => cases h
        next =>
          split at h
          next => cases h
          next =>
            obtain ⟨_, -, h⟩ := bind_eq_ok.1 h
            obtain ⟨tokens', htokens, h⟩ := bind_eq_ok.1 h
            obtain ⟨rfl, rfl⟩ := Prod.mk.inj (Except.ok.inj h)
            rw [mapError_eq_ok, (Delegate.bind_eq_ok_iff.1 hd).2] at htokens
            exact htokens

theorem revokeDelegate_cases (w : World) (authority tokenAccount : String) :
    let r := w.revokeDelegate authority tokenAccount
    (∃ f, r = (.error f, w)) ∨ ∃ tokens sink, r = (.ok (), { w with tokens, sink }) ∧
      w.tokens.revoke tokenAccount authority = .ok tokens := by
  intro r
  cases h : w.delegateRevoked authority tokenAccount with
  | error f => exact .inl ⟨f.raised, by simp only [r, revokeDelegate_eq, h]⟩
  | ok tokens =>
      refine .inr ⟨tokens, _, by simp only [r, revokeDelegate_eq, h]; rfl, ?_⟩
      obtain ⟨a, -, h⟩ := bind_eq_ok.1 h
      exact mapError_eq_ok.1 h

theorem Stands.next (h : w.Stands y x b) {b' : TokenAccount}
    (hprogram : (w.step op).2.tokens.program = w.tokens.program)
    (haccount : (w.step op).2.tokens.account y = .ok b') (howner : b'.owner = b.owner) :
    (w.step op).2.Stands y x b' := by
  have hsame := program_step h.reachable op
  have hbinder := w.binder_step op
  exact {
    reachable := hsame ▸ h.reachable.step op rfl
    binder := hprogram.trans (h.binder.trans hbinder.symm)
    account := haccount
    owner := howner.trans h.owner
    plain := by rw [hsame, hbinder]; exact h.plain }

def Turns (w : World) (y x : String) (op : Operation) (b : TokenAccount) : Prop :=
  ∃ b', (w.step op).2.Stands y x b' ∧
    ((b'.allotment = b.allotment ∧ ∀ act, w.act? op = some act → act.account ≠ y) ∨
      ∃ act, w.act? op = some act ∧ act.account = y ∧ act.Fits b.allotment ∧
        b'.allotment = act.apply b.allotment)

theorem Stands.turns_of_same (h : w.Stands y x b) (htokens : (w.step op).2.tokens = w.tokens)
    (hact : w.act? op = none) : w.Turns y x op b := by
  refine ⟨b, h.next (by rw [htokens]) (by rw [htokens, h.account]) rfl, .inl ⟨rfl, ?_⟩⟩
  rw [hact]
  nofun

theorem Stands.turns_of_error (h : w.Stands y x b) {f : Fault} (hstep : w.step op = (.error f, w)) :
    w.Turns y x op b :=
  h.turns_of_same (by rw [hstep]) (act?_of_error (congrArg Prod.fst hstep))

/-- An act that changes one account by a function. -/
theorem Stands.turns_of_modify (h : w.Stands y x b) {f : TokenAccount → TokenAccount}
    {act : TokenAct} (hact : w.act? op = some act)
    (htokens : (w.step op).2.tokens = w.tokens.modify act.account f)
    (hf : ∀ b, (f b).owner = b.owner ∧ (f b).allotment = act.apply b.allotment)
    (hfits : act.Fits b.allotment) : w.Turns y x op b := by
  have hprogram : (w.step op).2.tokens.program = w.tokens.program := by
    rw [htokens, (w.tokens.mints_modify _ _).2]
  have haccount := w.tokens.account_modify act.account f y
  rw [← htokens, h.account] at haccount
  by_cases hy : y = act.account
  · rw [if_pos hy] at haccount
    exact ⟨f b, h.next hprogram haccount (hf b).1, .inr ⟨act, hact, hy.symm, hfits, (hf b).2⟩⟩
  · rw [if_neg hy] at haccount
    refine ⟨b, h.next hprogram haccount rfl, .inl ⟨rfl, fun act' hact' => ?_⟩⟩
    obtain rfl : act = act' := Option.some.inj (hact.symm.trans hact')
    exact Ne.symm hy

theorem Stands.turns_approve (h : w.Stands y x b) (authority z mint delegate : String)
    (amount : Int) : w.Turns y x (.approve authority z mint delegate amount) b := by
  rcases w.approve_cases authority z mint delegate amount with ⟨f, hr⟩ | ⟨d, tokens, sink, hr, hok⟩
  · exact h.turns_of_error (f := f) (by rw [World.step, hr]; rfl)
  · have hstep : w.step (.approve authority z mint delegate amount) =
        (.ok (.delegate d), { w with tokens, sink }) := by
      rw [World.step, hr]
      rfl
    obtain ⟨hamount, -, rfl⟩ := Tokens.approve_eq_ok_iff.1 hok
    exact h.turns_of_modify (f := fun b => b.approve delegate amount)
      (act?_of_ok (congrArg Prod.fst hstep)) (by rw [hstep]; rfl) (fun _ => ⟨rfl, rfl⟩) hamount

theorem Stands.turns_revokeDelegate (h : w.Stands y x b) (authority z : String) :
    w.Turns y x (.revokeDelegate authority z) b := by
  rcases w.revokeDelegate_cases authority z with ⟨f, hr⟩ | ⟨tokens, sink, hr, hok⟩
  · exact h.turns_of_error (f := f) (by rw [World.step, hr]; rfl)
  · have hstep : w.step (.revokeDelegate authority z) = (.ok .done, { w with tokens, sink }) := by
      rw [World.step, hr]
      rfl
    obtain ⟨-, rfl⟩ := Tokens.revoke_eq_ok_iff.1 hok
    exact h.turns_of_modify (f := TokenAccount.clearDelegate)
      (act?_of_ok (congrArg Prod.fst hstep)) (by rw [hstep]; rfl) (fun _ => ⟨rfl, rfl⟩) trivial

/-- An order is signed by a derived delegate, which the owner is not. -/
theorem Stands.owner_ne_delegate (h : w.Stands y x b) {o : Order} {a : Account} {k : SessionKey}
    (hg : w.Grants o a k) : b.owner ≠ o.delegate := by
  intro heq
  obtain ⟨d, hd, hnamed⟩ := hg.delegate
  obtain ⟨e, he, haddress, -⟩ := (h.reachable.sound hg.load).derived
  exact h.plain ⟨o.authority, o.mint, e, d, he, haddress ▸ hd,
    hnamed.trans (heq.symm.trans h.owner)⟩

theorem allotment_afterOrder {o : Order} (howner : b.owner ≠ o.delegate) :
    (Tokens.afterOrder o y b).allotment =
      if o.source = y then (TokenAct.draw y o.amount).apply b.allotment else b.allotment := by
  by_cases hy : o.source = y
  · by_cases hspent : b.allowance = o.amount <;>
      simp [Tokens.afterOrder, TokenAccount.allotment, TokenAct.apply, hy, Ne.symm howner, hspent]
  · simp [Tokens.afterOrder, TokenAccount.allotment, hy, Ne.symm hy]

theorem Stands.turns_delegatedTransfer (h : w.Stands y x b)
    (authority signer source destination mint delegate : String) (amount : Int) :
    w.Turns y x
      (.delegatedTransfer authority signer source destination mint delegate amount) b := by
  let o : Order := ⟨authority, signer, source, destination, mint, delegate, amount⟩
  rcases delegatedTransfer_cases h.reachable h.binder o with
    ⟨f, hr, -⟩ | ⟨a, k, c, tokens, hg, hc, hdraw, -, hr, -, hprogram, haccounts⟩
  · exact h.turns_of_error (f := f.raised) (by rw [World.step, hr]; rfl)
  · have hstep : ∃ sink, w.step
        (.delegatedTransfer authority signer source destination mint delegate amount) =
          (.ok (.key k), { w with tokens, sink }) := ⟨_, by rw [World.step, hr]; rfl⟩
    obtain ⟨sink, hstep⟩ := hstep
    have haccount : tokens.account y = .ok (Tokens.afterOrder o y b) := by
      rw [haccounts, h.account]
      rfl
    have howner := h.owner_ne_delegate hg
    have hact :
        w.act? (.delegatedTransfer authority signer source destination mint delegate amount) =
          some (.draw source amount) := act?_of_ok (congrArg Prod.fst hstep)
    refine ⟨Tokens.afterOrder o y b,
      h.next (by rw [hstep]; exact hprogram) (by rw [hstep]; exact haccount) rfl, ?_⟩
    rw [allotment_afterOrder howner]
    by_cases hy : source = y
    · obtain rfl : b = c := Except.ok.inj (h.account.symm.trans (hy ▸ hc.source))
      obtain ⟨hnamed, hallowance⟩ := hdraw.resolve_left howner
      have hdelegate : b.allotment.delegate ≠ none := by simp [TokenAccount.allotment, hnamed]
      exact .inr ⟨_, hact, hy, ⟨hdelegate, hg.amount, hallowance⟩, if_pos hy⟩
    · refine .inl ⟨if_neg hy, fun act hact' => ?_⟩
      obtain rfl := Option.some.inj (hact.symm.trans hact')
      exact hy

theorem Stands.turns (h : w.Stands y x b) (hop : op.isDirect = false) : w.Turns y x op b := by
  cases hact : op.tokenAct? with
  | none =>
      refine h.turns_of_same (tokens_step hop hact) ?_
      rw [act?, hact]
      split <;> rfl
  | some act =>
      cases op with
      | approve authority z mint delegate amount => exact h.turns_approve _ _ _ _ _
      | revokeDelegate authority z => exact h.turns_revokeDelegate _ _
      | delegatedTransfer authority signer source destination mint delegate amount =>
          exact h.turns_delegatedTransfer _ _ _ _ _ _ _
      | _ => cases hact

/-! ## A run -/

/-- What has been drawn and what is left of the allowance stay the same together. -/
theorem Stands.run_draws (h : w.Stands y x b) {ops : List Operation}
    (hops : ∀ op ∈ ops, op.isDirect = false) (hnever : w.NeverActs y TokenAct.Resets ops) :
    ∃ b', (w.run ops).Stands y x b' ∧ w.drawnBy y ops + b'.allowance = b.allowance ∧
      0 ≤ w.drawnBy y ops ∧ (0 ≤ b.allowance → 0 ≤ b'.allowance) := by
  induction ops generalizing w b with
  | nil => exact ⟨b, h, Int.zero_add _, Int.le_refl 0, id⟩
  | cons op ops ih =>
      obtain ⟨b₁, h₁, hturn⟩ := h.turns (hops op List.mem_cons_self)
      have hone : (w.act? op).elim 0 (·.drawn y) + b₁.allowance = b.allowance ∧
          0 ≤ (w.act? op).elim 0 (·.drawn y) ∧ (0 ≤ b.allowance → 0 ≤ b₁.allowance) := by
        rcases hturn with ⟨hsame, hother⟩ | ⟨act, hact, hy, hfits, happly⟩
        · have hallowance : b₁.allowance = b.allowance := congrArg Allotment.allowance hsame
          have hdrawn : (w.act? op).elim 0 (·.drawn y) = 0 := by
            cases hact : w.act? op with
            | none => rfl
            | some act => exact TokenAct.drawn_of_ne (hother act hact)
          rw [hdrawn, hallowance, Int.zero_add]
          exact ⟨rfl, Int.le_refl 0, id⟩
        · have hreset := hnever.1 act hact hy
          cases act with
          | approve z delegate amount => exact absurd trivial hreset
          | revoke z => exact absurd trivial hreset
          | draw z amount =>
              have hallowance : b₁.allowance = b.allowance - amount :=
                congrArg Allotment.allowance happly
              obtain ⟨-, hpos, hle⟩ := hfits
              have hdrawn : (w.act? op).elim 0 (·.drawn y) = amount := by
                rw [hact]
                exact if_pos hy
              rw [hdrawn, hallowance]
              exact ⟨by omega, hpos, fun _ => Int.sub_nonneg_of_le hle⟩
      obtain ⟨b₂, h₂, hsum, hdrawn, hpos⟩ :=
        ih h₁ (fun op' hop' => hops op' (List.mem_cons_of_mem op hop')) hnever.2
      refine ⟨b₂, h₂, ?_, ?_, hpos ∘ hone.2.2⟩
      · rw [drawnBy]
        omega
      · exact Int.add_nonneg hone.2.1 hdrawn

/-- A delegate that is gone comes back only by an approval. -/
theorem Stands.run_ended (h : w.Stands y x b) (hnone : b.delegate = none) {ops : List Operation}
    (hops : ∀ op ∈ ops, op.isDirect = false) (hnever : w.NeverActs y TokenAct.IsApproval ops) :
    ∃ b', (w.run ops).Stands y x b' ∧ b'.delegate = none := by
  induction ops generalizing w b with
  | nil => exact ⟨b, h, hnone⟩
  | cons op ops ih =>
      obtain ⟨b₁, h₁, hturn⟩ := h.turns (hops op List.mem_cons_self)
      have hone : b₁.delegate = none := by
        rcases hturn with ⟨hsame, -⟩ | ⟨act, hact, hy, hfits, happly⟩
        · exact (congrArg Allotment.delegate hsame).trans hnone
        · cases act with
          | approve z delegate amount => exact absurd trivial (hnever.1 _ hact hy)
          | revoke z => exact congrArg Allotment.delegate happly
          | draw z amount => exact absurd hnone hfits.1
      exact ih h₁ hone (fun op' hop' => hops op' (List.mem_cons_of_mem op hop')) hnever.2

theorem Stands.not_draw (h : w.Stands y x b) (hnone : b.delegate = none) (o : Order)
    (hy : o.source = y) : ∃ f, (w.delegatedTransfer o.authority o.signer o.source o.destination
      o.mint o.delegate o.amount).1 = .error f := by
  rcases delegatedTransfer_cases h.reachable h.binder o with
    ⟨f, hr, -⟩ | ⟨a, k, c, tokens, hg, hc, hdraw, -⟩
  · exact ⟨f.raised, by rw [hr]⟩
  · obtain rfl : b = c := Except.ok.inj (h.account.symm.trans (hy ▸ hc.source))
    rcases hdraw with howner | ⟨hnamed, -⟩
    · exact absurd howner (h.owner_ne_delegate hg)
    · rw [hnone] at hnamed
      cases hnamed

theorem Stands.ended (h : w.Stands y x b) (hop : op.isDirect = false) (hends : w.Ends y op) :
    ∃ b', (w.step op).2.Stands y x b' ∧ b'.delegate = none := by
  obtain ⟨b₁, h₁, ⟨-, hother⟩ | ⟨act, hact, hy, -, happly⟩⟩ := h.turns hop
  · rcases hends with hrevoke | ⟨amount, -, hdraw, -⟩
    · exact absurd rfl (hother _ hrevoke)
    · exact absurd rfl (hother _ hdraw)
  · refine ⟨b₁, h₁, ?_⟩
    rcases hends with hrevoke | ⟨amount, b₂, hdraw, hb₂, hspent⟩
    · obtain rfl := Option.some.inj (hact.symm.trans hrevoke)
      exact congrArg Allotment.delegate happly
    · obtain rfl := Option.some.inj (hact.symm.trans hdraw)
      obtain rfl : b₁ = b₂ := Except.ok.inj (h₁.account.symm.trans hb₂)
      have hallowance : b₁.allowance = b.allowance - amount := congrArg Allotment.allowance happly
      have hall : b.allotment.allowance = amount := Int.eq_of_sub_eq_zero (hallowance ▸ hspent)
      exact (congrArg Allotment.delegate happly).trans (if_pos hall)

/-- What may be drawn from a token account whose owner is no delegate, over any run of the engine in
which delegates are derived for the program of the token program. The addresses of accounts may be
derived for another. After an approval, and until the next approval or revocation, what all
delegated transfers have drawn and what is left of the allowance make up the amount approved, and
neither is below zero. Once the delegate is revoked or the last of the allowance is drawn, every
delegated transfer fails, for whatever amount, until the next approval.
-/
theorem draws_within_allowance (hw : w.store.Reachable w.program)
    (hp : w.tokens.program = w.binder) (hx : ¬ Derivation.IsDelegate w.program w.binder x)
    (y : String) :
    (∀ mint delegate amount answer,
      (w.step (.approve x y mint delegate amount)).1 = .ok answer →
      let w₁ := (w.step (.approve x y mint delegate amount)).2
      ∀ ops : List Operation, (∀ op ∈ ops, op.isDirect = false) →
        w₁.NeverActs y TokenAct.Resets ops →
        ∃ b, (w₁.run ops).tokens.account y = .ok b ∧ b.owner = x ∧
          w₁.drawnBy y ops + b.allowance = amount ∧ 0 ≤ b.allowance ∧
          0 ≤ w₁.drawnBy y ops ∧ w₁.drawnBy y ops ≤ amount) ∧
    ∀ b op, w.tokens.account y = .ok b → b.owner = x → op.isDirect = false → w.Ends y op →
      ∀ ops : List Operation, (∀ op ∈ ops, op.isDirect = false) →
        (w.step op).2.NeverActs y TokenAct.IsApproval ops →
        ∀ o : Order, o.source = y → ∃ f,
          (((w.step op).2.run ops).delegatedTransfer o.authority o.signer o.source o.destination
            o.mint o.delegate o.amount).1 = .error f := by
  constructor
  · intro mint delegate amount answer hok w₁ ops hops hnever
    obtain ⟨b, hb, howner⟩ : ∃ b, w.tokens.account y = .ok b ∧ b.owner = x := by
      rcases w.approve_cases x y mint delegate amount with ⟨f, hr⟩ | ⟨d, tokens, sink, -, htokens⟩
      · rw [World.step, hr] at hok
        cases hok
      · exact (Tokens.approve_eq_ok_iff.1 htokens).2.1
    have h : w.Stands y x b := ⟨hw, hp, hb, howner, hx⟩
    have hact : w.act? (.approve x y mint delegate amount) = some (.approve y delegate amount) :=
      act?_of_ok hok
    obtain ⟨b₁, h₁, ⟨-, hother⟩ | ⟨act, hact', -, hfits, happly⟩⟩ :=
      h.turns_approve x y mint delegate amount
    · exact absurd rfl (hother _ hact)
    · obtain rfl := Option.some.inj (hact.symm.trans hact')
      have hallowance : b₁.allowance = amount := congrArg Allotment.allowance happly
      obtain ⟨b₂, h₂, hsum, hdrawn, hpos⟩ := h₁.run_draws hops hnever
      rw [hallowance] at hsum hpos
      have hleft := hpos hfits
      exact ⟨b₂, h₂.account, h₂.owner, hsum, hleft, hdrawn,
        hsum ▸ Int.le_add_of_nonneg_right hleft⟩
  · intro b op hb howner hop hends ops hops hnever o hy
    have h : w.Stands y x b := ⟨hw, hp, hb, howner, hx⟩
    obtain ⟨b₁, h₁, hnone⟩ := h.ended hop hends
    obtain ⟨b₂, h₂, hnone₂⟩ := h₁.run_ended hnone hops hnever
    exact h₂.not_draw hnone₂ o hy

/-- The owner of a token account may approve the delegate of a good order. -/
theorem approve_of_grants {o : Order} {a : Account} {k : SessionKey} {amount : Int}
    (hg : w.Grants o a k) (hb : w.tokens.account y = .ok b) (howner : b.owner = o.authority)
    (hmint : b.mint = o.mint) (hamount : 0 ≤ amount) :
    ∃ d sink, w.approve o.authority y o.mint o.delegate amount = (.ok d, { w with
      tokens := w.tokens.modify y fun b => b.approve o.delegate amount
      sink }) := by
  obtain ⟨d, hd, hnamed⟩ := hg.delegate
  have hbind := Delegate.bind_eq_ok_iff.2 ⟨hd, hnamed⟩
  have hrequire : a.mints.require o.mint = .ok () :=
    (Allowlist.require_eq a.mints o.mint).trans (if_pos hg.mint)
  have happrove : w.tokens.approve y d.address o.authority amount = .ok _ :=
    Tokens.approve_eq_ok_iff.2 ⟨hamount, ⟨b, hb, howner⟩, rfl⟩
  have happroved : w.approved o.authority y o.mint o.delegate amount =
      .ok (d, w.tokens.modify y fun b => b.approve d.address amount) := by
    rw [approved, if_neg (Int.not_lt.2 hamount), hg.load, ok_bind, hbind, ok_bind, hb]
    simp only [Except.mapError, ok_bind, howner, hmint, ne_eq, not_true_eq_false, if_false,
      hrequire, happrove]
  rw [hnamed] at happroved
  exact ⟨d, _, by simp only [approve_eq, happroved]; rfl⟩

/-- A delegate is approved for five, draws all of it without moving it away, and draws no more. -/
theorem draws_within_allowance_spent : ∃ (w : World) (mint delegate : String),
    w.store.Reachable w.program ∧ w.tokens.program = w.binder ∧
    ¬ Derivation.IsDelegate w.program w.binder "1" ∧
    let w₁ := (w.step (.approve "1" "x" mint delegate 5)).2
    let w₂ := (w₁.step (.delegatedTransfer "1" "2" "x" "x" mint delegate 5)).2
    (∃ b, w₂.tokens.account "x" = .ok b ∧ b.amount = 7 ∧ b.allowance = 0) ∧
    ∀ o : Order, o.source = "x" → ∃ f, (w₂.delegatedTransfer o.authority o.signer o.source
      o.destination o.mint o.delegate o.amount).1 = .error f := by
  obtain ⟨a, k, mint, d, hreach, hd, hgrants⟩ := exists_grants
  let source : TokenAccount := ⟨"x", "1", mint, 7, none, 0⟩
  let w : World := { World.empty "1" with
    store := .memory [("1", a)]
    tokens := ⟨"1", [(mint, ⟨mint, 6⟩)], [("x", source)]⟩ }
  let o : Order := ⟨"1", "2", "x", "x", mint, d.address, 5⟩
  have hfive : (0 : Int) ≤ 5 := by decide
  have hseven : (5 : Int) ≤ 7 := by decide
  have hplain : ¬ Derivation.IsDelegate "1" "1" "1" := by
    rintro ⟨authority, mint', e, d', -, hd', hone⟩
    exact Derivation.address_ne_one (s := .delegate e.address mint') hd' hone
  obtain ⟨e, sink, hr⟩ := approve_of_grants (w := w) (o := o) (y := "x") (b := source)
    (hgrants w "x" "x" 5 rfl rfl rfl hfive) rfl rfl rfl hfive
  let w₁ : World := { w with
    tokens := w.tokens.modify "x" fun b => b.approve d.address 5
    sink }
  have hw₁ : (w.step (.approve "1" "x" mint d.address 5)) = (.ok (.delegate e), w₁) := by
    rw [World.step, hr]
    rfl
  have hg : w₁.Grants o a k := hgrants w₁ "x" "x" 5 rfl rfl rfl hfive
  let approved : TokenAccount := ⟨"x", "1", mint, 7, some d.address, 5⟩
  have hmint : w₁.tokens.mint mint = .ok ⟨mint, 6⟩ := by
    simp [w₁, w, Tokens.mint, Tokens.modify, field?]
  have hholds : w₁.tokens.Holds o approved := ⟨⟨_, hmint⟩, rfl, ⟨approved, rfl, rfl⟩, rfl⟩
  obtain ⟨tokens, hok, -, -, haccounts⟩ := carries hg rfl
    (hreach.sound hg.load).wellFormed.keys.nodup hholds (.inr ⟨rfl, Int.le_refl 5⟩) hseven
  let draw : Operation := .delegatedTransfer "1" "2" "x" "x" mint d.address 5
  obtain ⟨w₂, hw₂, htokens⟩ : ∃ w₂, w₁.step draw = (.ok (.key k), w₂) ∧ w₂.tokens = tokens :=
    ⟨_, congrArg (answered Answer.key) (delegatedTransfer_of_ok hok), rfl⟩
  have hact : w₁.act? draw = some (.draw "x" 5) := act?_of_ok (congrArg Prod.fst hw₂)
  have hnever : w₁.NeverActs "x" TokenAct.Resets [draw] := by
    refine ⟨fun act hact' _ => ?_, trivial⟩
    obtain rfl := Option.some.inj (hact.symm.trans hact')
    exact id
  have hdirect : ∀ op ∈ [draw], op.isDirect = false := by simp [draw, Operation.isDirect]
  obtain ⟨b, hb, -, hsum, -⟩ := (draws_within_allowance (w := w) hreach rfl hplain "x").1 mint
    d.address 5 _ (congrArg Prod.fst hw₁) [draw] hdirect (hw₁ ▸ hnever)
  rw [hw₁] at hb hsum
  have hb : w₂.tokens.account "x" = .ok b := by
    rw [← show (w₁.step draw).2 = w₂ from congrArg Prod.snd hw₂]
    exact hb
  have hspent : b.allowance = 0 := by
    simp only [drawnBy, hact, Option.elim, TokenAct.drawn, if_pos] at hsum
    omega
  have hamount : b.amount = 7 := by
    rw [htokens, haccounts] at hb
    obtain rfl := Except.ok.inj hb
    rfl
  have hends : w₁.Ends "x" draw := .inr ⟨5, b, hact, by rw [hw₂]; exact hb, hspent⟩
  obtain ⟨-, hended⟩ := draws_within_allowance (w := w₁) hreach rfl hplain "x"
  refine ⟨w, mint, d.address, hreach, rfl, hplain, ?_⟩
  rw [hw₁]
  refine ⟨⟨b, by rw [hw₂]; exact hb, hamount, hspent⟩, fun o' ho' => ?_⟩
  exact hended approved draw rfl rfl rfl hends [] (List.forall_mem_nil _) trivial o' ho'

end World

end Keyring
