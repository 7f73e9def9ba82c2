import Keyring.Proofs.Derivation.Binding
import Keyring.Proofs.Engine.Execution
import Keyring.Proofs.Token.Accounts

/-!
# Moving tokens as a delegate

An order to move tokens is carried out just when the session key that signs it is live and may
transfer the amount, the delegate named is the one derived for the account and the mint, the mint is
allowed, and the token program lets that delegate draw the amount. Otherwise the first of these that
fails is reported and nothing changes. An order that is carried out touches the source and the
destination alone.

Two things that the token program asks of any transfer never fail here: the decimals are the mint's
own, and the seeds are those from which the delegate was derived.
-/

namespace Keyring

structure Order where
  authority : String
  signer : String
  source : String
  destination : String
  mint : String
  delegate : String
  amount : Int

namespace Order

variable (o : Order)

def transfer (d : DerivedAddress) (m : Mint) : TokenTransfer where
  source := o.source
  mint := o.mint
  destination := o.destination
  authority := d.address
  amount := o.amount
  decimals := m.decimals
  signerSeeds := some d.signerSeeds

def action : Action := .transfer o.destination o.amount.toNat

end Order

namespace Tokens

/-- Whether the token program knows the mint and both accounts of an order, and they hold that
mint; `b` is the account that is drawn on. -/
structure Holds (t : Tokens) (o : Order) (b : TokenAccount) : Prop where
  mint : ∃ m, t.mint o.mint = .ok m
  source : t.account o.source = .ok b
  destination : ∃ c, t.account o.destination = .ok c ∧ c.mint = o.mint
  sameMint : b.mint = o.mint

/-- Whether the delegate of an order owns a token account, or may spend the amount from it. -/
def MayDraw (o : Order) (b : TokenAccount) : Prop :=
  b.owner = o.delegate ∨ b.delegate = some o.delegate ∧ o.amount ≤ b.allowance

def afterOrder (o : Order) (y : String) (a : TokenAccount) : TokenAccount :=
  { a with
    amount := (a.amount - if y = o.source then o.amount else 0) +
      if y = o.destination then o.amount else 0
    delegate := if y = o.source ∧ o.delegate ≠ a.owner ∧ a.allowance = o.amount then none
      else a.delegate
    allowance := if y = o.source ∧ o.delegate ≠ a.owner then a.allowance - o.amount
      else a.allowance }

end Tokens

namespace World

structure Empowers (w : World) (o : Order) (a : Account) (k : SessionKey) : Prop where
  load : w.store.load o.authority = .ok a
  live : a.Live w.clock o.signer k
  amount : 0 ≤ o.amount
  allows : k.permissions.Allows o.action

structure Grants (w : World) (o : Order) (a : Account) (k : SessionKey) : Prop
    extends w.Empowers o a k where
  delegate : ∃ d, Derivation.delegateAddress a.address o.mint w.binder = .ok d ∧
    d.address = o.delegate
  mint : a.mints.mints = [] ∨ o.mint ∈ a.mints.mints

/-- Why an order is not carried out: the first that fails of all that is asked. -/
inductive Declines (w : World) (o : Order) : Fault → Prop
  | account {f : Fault} (ha : w.store.load o.authority = .error f)
      (hf : w.store.Lacks o.authority f) : Declines w o f
  | missing {a : Account} (ha : w.store.load o.authority = .ok a)
      (hk : ∀ k ∈ a.keys.keys, k.identity ≠ o.signer) :
      Declines w o (.refusal (.keyNotFound o.signer))
  | revoked {a : Account} {k : SessionKey} (ha : w.store.load o.authority = .ok a)
      (hk : k ∈ a.keys.keys) (hid : k.identity = o.signer) (hr : k.isRevoked = true) :
      Declines w o (.refusal (.keyRevoked o.signer))
  | expired {a : Account} {k : SessionKey} (ha : w.store.load o.authority = .ok a)
      (hk : k ∈ a.keys.keys) (hid : k.identity = o.signer) (hr : k.isRevoked = false)
      (he : k.expiresAt ≤ w.clock.current k.unit) :
      Declines w o (.refusal (.keyExpired o.signer))
  | negative {a : Account} {k : SessionKey} (ha : w.store.load o.authority = .ok a)
      (hk : a.Live w.clock o.signer k) (hn : o.amount < 0) :
      Declines w o (.invalid .negativeAmount)
  | denied {a : Account} {k : SessionKey} {d : Denial} (ha : w.store.load o.authority = .ok a)
      (hk : a.Live w.clock o.signer k) (hn : 0 ≤ o.amount)
      (hd : k.permissions.denial? o.action = some d) : Declines w o (.insufficient (.denied d))
  | underivable {a : Account} {k : SessionKey} {e : Derivation.Error} (hk : w.Empowers o a k)
      (he : Derivation.delegateAddress a.address o.mint w.binder = .error e) :
      Declines w o (.insufficient (.cannotDerive e))
  | delegate {a : Account} {k : SessionKey} {d : DerivedAddress} (hk : w.Empowers o a k)
      (hd : Derivation.delegateAddress a.address o.mint w.binder = .ok d)
      (hne : d.address ≠ o.delegate) : Declines w o (.insufficient .wrongDelegate)
  | allowlist {a : Account} {k : SessionKey} {d : DerivedAddress} (hk : w.Empowers o a k)
      (hd : Derivation.delegateAddress a.address o.mint w.binder = .ok d)
      (heq : d.address = o.delegate) (hsome : a.mints.mints ≠ [])
      (hm : o.mint ∉ a.mints.mints) : Declines w o (.refusal (.mintNotAllowed o.mint))
  | mint {a : Account} {k : SessionKey} (hg : w.Grants o a k)
      (hm : field? o.mint w.tokens.mints = none) : Declines w o (.token (.notFound o.mint))
  | source {a : Account} {k : SessionKey} (hg : w.Grants o a k)
      (hm : ∃ m, w.tokens.mint o.mint = .ok m)
      (hs : field? o.source w.tokens.accounts = none) :
      Declines w o (.token (.notFound o.source))
  | destination {a : Account} {k : SessionKey} {b : TokenAccount} (hg : w.Grants o a k)
      (hm : ∃ m, w.tokens.mint o.mint = .ok m) (hs : w.tokens.account o.source = .ok b)
      (hd : field? o.destination w.tokens.accounts = none) :
      Declines w o (.token (.notFound o.destination))
  | otherMint {a : Account} {k : SessionKey} {b c : TokenAccount} (hg : w.Grants o a k)
      (hm : ∃ m, w.tokens.mint o.mint = .ok m) (hs : w.tokens.account o.source = .ok b)
      (hd : w.tokens.account o.destination = .ok c) (hne : b.mint ≠ o.mint ∨ c.mint ≠ o.mint) :
      Declines w o (.token .mintMismatch)
  | stranger {a : Account} {k : SessionKey} {b : TokenAccount} (hg : w.Grants o a k)
      (hb : w.tokens.Holds o b) (howner : b.owner ≠ o.delegate)
      (hd : b.delegate ≠ some o.delegate) :
      Declines w o (.token (.neitherOwnerNorDelegate o.delegate o.source))
  | allowance {a : Account} {k : SessionKey} {b : TokenAccount} (hg : w.Grants o a k)
      (hb : w.tokens.Holds o b) (howner : b.owner ≠ o.delegate)
      (hd : b.delegate = some o.delegate) (hlow : b.allowance < o.amount) :
      Declines w o (.token (.allowanceTooSmall b.allowance o.amount))
  | balance {a : Account} {k : SessionKey} {b : TokenAccount} (hg : w.Grants o a k)
      (hb : w.tokens.Holds o b) (hdraw : Tokens.MayDraw o b) (hlow : b.amount < o.amount) :
      Declines w o (.token (.balanceTooSmall o.source b.amount o.amount))

end World

/-! ## What the token program makes of an order -/

namespace Tokens

open Outcome

variable {t t' : Tokens} {o : Order} {d : DerivedAddress} {m : Mint} {b : TokenAccount}

/-- Whether the delegate of an order is a derived address of the token program's own. -/
structure Recognizes (t : Tokens) (o : Order) (d : DerivedAddress) : Prop where
  named : d.address = o.delegate
  signs : Derivation.createAddress d.signerSeeds t.program = .ok d.address

theorem checkAuthority_order (hd : t.Recognizes o d) :
    checkAuthority (o.transfer d m) b =
      if b.owner = o.delegate then .ok ()
      else if b.delegate = some o.delegate then
        if b.allowance < o.amount then .error (.allowanceTooSmall b.allowance o.amount) else .ok ()
      else .error (.neitherOwnerNorDelegate o.delegate o.source) := by
  have hauthority : (o.transfer d m).authority = o.delegate := hd.named
  rw [checkAuthority, hauthority]
  by_cases howner : b.owner = o.delegate
  · rw [if_pos howner.symm, if_pos howner]
  · rw [if_neg (Ne.symm howner), if_neg howner]
    by_cases hdelegate : b.delegate = some o.delegate
    · rw [if_neg (by simp [Order.transfer, hdelegate]), if_pos hdelegate]
      rfl
    · rw [if_pos (Or.inr hdelegate), if_neg hdelegate]
      rfl

/-- Once the accounts are found to hold the mint, only the delegate and the balance are left to be
looked at: the decimals and the seeds are right. -/
theorem check_order (hd : t.Recognizes o d) (hm : t.mint o.mint = .ok m) (hb : t.Holds o b) :
    t.check (o.transfer d m) = (do
      checkAuthority (o.transfer d m) b
      if b.amount < o.amount then .error (.balanceTooSmall o.source b.amount o.amount)
      else .ok b) := by
  obtain ⟨c, hc, hcmint⟩ := hb.destination
  have hseeds : t.checkSeeds (o.transfer d m) = .ok () := by
    rw [checkSeeds_eq_ok_iff]
    rintro seeds hseeds
    obtain rfl : d.signerSeeds = seeds := Option.some.inj hseeds
    exact hd.signs
  rw [check, show (o.transfer d m).source = o.source from rfl, hb.source, ok_bind,
    show (o.transfer d m).destination = o.destination from rfl, hc, ok_bind,
    show (o.transfer d m).mint = o.mint from rfl, hm, ok_bind,
    if_neg (by simp [hb.sameMint, hcmint]), if_neg (fun h => h rfl), hseeds, ok_bind]
  rfl

/-- The four ways in which an order ends once the accounts are found to hold the mint. -/
theorem check_order_cases (hd : t.Recognizes o d) (hm : t.mint o.mint = .ok m) (hb : t.Holds o b) :
    (b.owner ≠ o.delegate ∧ b.delegate ≠ some o.delegate ∧
      t.check (o.transfer d m) = .error (.neitherOwnerNorDelegate o.delegate o.source)) ∨
    (b.owner ≠ o.delegate ∧ b.delegate = some o.delegate ∧ b.allowance < o.amount ∧
      t.check (o.transfer d m) = .error (.allowanceTooSmall b.allowance o.amount)) ∨
    (MayDraw o b ∧ b.amount < o.amount ∧
      t.check (o.transfer d m) = .error (.balanceTooSmall o.source b.amount o.amount)) ∨
    (MayDraw o b ∧ o.amount ≤ b.amount ∧ t.check (o.transfer d m) = .ok b) := by
  have hcheck := check_order hd hm hb
  have hauthority := checkAuthority_order (m := m) (b := b) hd
  have hdraw (hdraw : MayDraw o b) (hok : checkAuthority (o.transfer d m) b = .ok ()) :
      (MayDraw o b ∧ b.amount < o.amount ∧
        t.check (o.transfer d m) = .error (.balanceTooSmall o.source b.amount o.amount)) ∨
      (MayDraw o b ∧ o.amount ≤ b.amount ∧ t.check (o.transfer d m) = .ok b) := by
    rw [hok, ok_bind] at hcheck
    by_cases hlow : b.amount < o.amount
    · exact .inl ⟨hdraw, hlow, hcheck.trans (if_pos hlow)⟩
    · exact .inr ⟨hdraw, Int.not_lt.1 hlow, hcheck.trans (if_neg hlow)⟩
  by_cases howner : b.owner = o.delegate
  · exact .inr (.inr (hdraw (.inl howner) (hauthority.trans (if_pos howner))))
  · rw [if_neg howner] at hauthority
    by_cases hdelegate : b.delegate = some o.delegate
    · rw [if_pos hdelegate] at hauthority
      by_cases hlow : b.allowance < o.amount
      · rw [if_pos hlow] at hauthority
        rw [hauthority, error_bind] at hcheck
        exact .inr (.inl ⟨howner, hdelegate, hlow, hcheck⟩)
      · rw [if_neg hlow] at hauthority
        exact .inr (.inr (hdraw (.inr ⟨hdelegate, Int.not_lt.1 hlow⟩) hauthority))
    · rw [if_neg hdelegate] at hauthority
      rw [hauthority, error_bind] at hcheck
      exact .inl ⟨howner, hdelegate, hcheck⟩

theorem check_order_of_mayDraw (hd : t.Recognizes o d) (hm : t.mint o.mint = .ok m)
    (hb : t.Holds o b) (hdraw : MayDraw o b) (hbalance : o.amount ≤ b.amount) :
    t.check (o.transfer d m) = .ok b := by
  rcases check_order_cases hd hm hb with
    ⟨howner, hdelegate, -⟩ | ⟨howner, hdelegate, hlow, -⟩ | ⟨-, hlow, -⟩ | ⟨-, -, hok⟩
  · exact absurd hdraw (not_or.2 ⟨howner, fun h => hdelegate h.1⟩)
  · exact absurd hdraw (not_or.2 ⟨howner, fun h => Int.not_le.2 hlow h.2⟩)
  · exact absurd hbalance (Int.not_le.2 hlow)
  · exact hok

/-- Why an order is turned down before the delegate is looked at. -/
theorem check_order_of_not_holds (t : Tokens) (o : Order) (d : DerivedAddress)
    (hm : t.mint o.mint = .ok m) :
    (∃ b, t.Holds o b) ∨
    (field? o.source t.accounts = none ∧
      t.check (o.transfer d m) = .error (.notFound o.source)) ∨
    (∃ b, t.account o.source = .ok b ∧ field? o.destination t.accounts = none ∧
      t.check (o.transfer d m) = .error (.notFound o.destination)) ∨
    ∃ b c, t.account o.source = .ok b ∧ t.account o.destination = .ok c ∧
      (b.mint ≠ o.mint ∨ c.mint ≠ o.mint) ∧ t.check (o.transfer d m) = .error .mintMismatch := by
  rw [check, show (o.transfer d m).source = o.source from rfl,
    show (o.transfer d m).destination = o.destination from rfl,
    show (o.transfer d m).mint = o.mint from rfl]
  rcases t.account_cases o.source with hs | ⟨b, hs⟩
  · exact .inr (.inl ⟨hs, by rw [account_of_none hs, error_bind]⟩)
  · rw [hs, ok_bind]
    rcases t.account_cases o.destination with hd | ⟨c, hd⟩
    · exact .inr (.inr (.inl ⟨b, rfl, hd, by rw [account_of_none hd, error_bind]⟩))
    · rw [hd, ok_bind, hm, ok_bind]
      by_cases hne : b.mint ≠ o.mint ∨ c.mint ≠ o.mint
      · exact .inr (.inr (.inr ⟨b, c, rfl, rfl, hne, if_pos hne⟩))
      · rw [not_or, Decidable.not_not, Decidable.not_not] at hne
        exact .inl ⟨b, ⟨m, hm⟩, hs, ⟨c, hd, hne.2⟩, hne.1⟩

theorem effect_order (hd : d.address = o.delegate) (y : String) (a : TokenAccount) :
    (o.transfer d m).effect y a = afterOrder o y a := by
  rw [TokenTransfer.effect_eq, show (o.transfer d m).authority = o.delegate from hd]
  rfl

end Tokens

/-! ## What the engine makes of an order -/

namespace World

open Outcome

/-- What is found out about an order: the key that signs it and the tokens after it, or a fault. -/
def judged (w : World) (o : Order) : Outcome (SessionKey × Tokens) :=
  w.delegated o.authority o.signer o.source o.destination o.mint o.delegate o.amount

variable {program : String} {w : World} {o : Order} {a : Account} {k : SessionKey} {f : Fault}

theorem judged_of_live (ha : w.store.load o.authority = .ok a)
    (hk : a.authorize w.clock o.signer = .ok k) : w.judged o = (do
      let action ← Action.transferOf o.destination o.amount
      let _ ← k.permissions.require (.action action)
      let d ← Delegate.bind w.binder a.address o.mint o.delegate
      a.mints.require o.mint
      let m ← (w.tokens.mint o.mint).mapError .token
      let tokens ← (w.tokens.transfer (o.transfer d m)).mapError .token
      .ok (k, tokens)) := by
  rw [judged, delegated, ha, ok_bind, hk]
  rfl

theorem judged_of_empowers (hk : w.Empowers o a k)
    (hnd : (a.keys.keys.map SessionKey.identity).Nodup) : w.judged o = (do
      let d ← Delegate.bind w.binder a.address o.mint o.delegate
      a.mints.require o.mint
      let m ← (w.tokens.mint o.mint).mapError .token
      let tokens ← (w.tokens.transfer (o.transfer d m)).mapError .token
      .ok (k, tokens)) := by
  have haction : Action.transferOf o.destination o.amount = .ok o.action :=
    if_neg (Int.not_lt.2 hk.amount)
  rw [judged_of_live hk.load ((Account.authorize_eq_ok_iff hnd).2 hk.live), haction, ok_bind,
    Permissions.require_action, Permissions.denial?_eq_none_iff.2 hk.allows]
  rfl

theorem judged_of_grants {d : DerivedAddress} (hk : w.Empowers o a k)
    (hd : Derivation.delegateAddress a.address o.mint w.binder = .ok d)
    (hnamed : d.address = o.delegate) (hmint : a.mints.mints = [] ∨ o.mint ∈ a.mints.mints)
    (hnd : (a.keys.keys.map SessionKey.identity).Nodup) : w.judged o = (do
      let m ← (w.tokens.mint o.mint).mapError .token
      let tokens ← (w.tokens.transfer (o.transfer d m)).mapError .token
      .ok (k, tokens)) := by
  rw [judged_of_empowers hk hnd, Delegate.bind_eq_ok_iff.2 ⟨hd, hnamed⟩, ok_bind,
    Allowlist.require_eq, if_pos hmint, ok_bind]

/-- An order is declined on account of its signer or its amount, or a key may have that moved. -/
theorem declines_or_empowers (h : w.store.Reachable program) (o : Order) :
    (∃ f, w.judged o = .error f ∧ w.Declines o f) ∨ ∃ a k, w.Empowers o a k := by
  cases ha : w.store.load o.authority with
  | error f =>
      obtain ⟨l, hl⟩ := h.holds
      exact .inl ⟨f, by rw [judged, delegated, ha, error_bind], .account ha (hl.lacks_of_load ha)⟩
  | ok a =>
      have hnd := (h.sound ha).wellFormed.keys.nodup
      have hjudged {f : Fault} (hgate : a.authorize w.clock o.signer = .error f) :
          w.judged o = .error f := by
        rw [judged, delegated, ha, ok_bind, hgate, error_bind]
      rcases a.authorize_cases hnd w.clock o.signer with
        ⟨hk, hgate⟩ | ⟨k, hk, hid, hr, hgate⟩ | ⟨k, hk, hid, hr, he, hgate⟩ | ⟨k, hlive, hgate⟩
      · exact .inl ⟨_, hjudged hgate, .missing ha hk⟩
      · exact .inl ⟨_, hjudged hgate, .revoked ha hk hid hr⟩
      · exact .inl ⟨_, hjudged hgate, .expired ha hk hid hr he⟩
      · have hlater := judged_of_live ha hgate
        by_cases hn : o.amount < 0
        · rw [show Action.transferOf o.destination o.amount = .error (.invalid .negativeAmount) from
            if_pos hn, error_bind] at hlater
          exact .inl ⟨_, hlater, .negative ha hlive hn⟩
        · rw [show Action.transferOf o.destination o.amount = .ok o.action from if_neg hn, ok_bind,
            Permissions.require_action] at hlater
          cases hd : k.permissions.denial? o.action with
          | some d =>
              rw [hd, error_bind] at hlater
              exact .inl ⟨_, hlater, .denied ha hlive (Int.not_lt.1 hn) hd⟩
          | none =>
              exact .inr ⟨a, k, ha, hlive, Int.not_lt.1 hn, Permissions.denial?_eq_none_iff.1 hd⟩

theorem declines_or_grants (hk : w.Empowers o a k)
    (hnd : (a.keys.keys.map SessionKey.identity).Nodup) :
    (∃ f, w.judged o = .error f ∧ w.Declines o f) ∨ w.Grants o a k := by
  have hlater := judged_of_empowers hk hnd
  cases hd : Derivation.delegateAddress a.address o.mint w.binder with
  | error e =>
      rw [show Delegate.bind w.binder a.address o.mint o.delegate =
        .error (.insufficient (.cannotDerive e)) by rw [Delegate.bind, hd], error_bind] at hlater
      exact .inl ⟨_, hlater, .underivable hk hd⟩
  | ok d =>
      by_cases hnamed : d.address = o.delegate
      · by_cases hmint : a.mints.mints = [] ∨ o.mint ∈ a.mints.mints
        · exact .inr ⟨hk, ⟨d, hd, hnamed⟩, hmint⟩
        · rw [Delegate.bind_eq_ok_iff.2 ⟨hd, hnamed⟩, ok_bind, Allowlist.require_eq,
            if_neg hmint, error_bind] at hlater
          rw [not_or] at hmint
          exact .inl ⟨_, hlater, .allowlist hk hd hnamed hmint.1 hmint.2⟩
      · have hbind : Delegate.bind w.binder a.address o.mint o.delegate =
            .error (.insufficient .wrongDelegate) := by
          rw [Delegate.bind, hd]
          exact if_neg hnamed
        rw [hbind, error_bind] at hlater
        exact .inl ⟨_, hlater, .delegate hk hd hnamed⟩

/-- What the token program answers to a good order. -/
theorem judged_of_mint (hg : w.Grants o a k) {m : Mint} (hm : w.tokens.mint o.mint = .ok m)
    (hnd : (a.keys.keys.map SessionKey.identity).Nodup) :
    ∃ d, Derivation.delegateAddress a.address o.mint w.binder = .ok d ∧ d.address = o.delegate ∧
      w.judged o = (do
        let tokens ← (w.tokens.transfer (o.transfer d m)).mapError .token
        .ok (k, tokens)) := by
  obtain ⟨d, hd, hnamed⟩ := hg.delegate
  refine ⟨d, hd, hnamed, ?_⟩
  rw [judged_of_grants hg.toEmpowers hd hnamed hg.mint hnd, hm]
  rfl

/-- A good order comes to grief on what the token program finds wrong with it. -/
theorem judged_of_check_error {d : DerivedAddress} {m : Mint} {e : TokenError} (hg : w.Grants o a k)
    (hnd : (a.keys.keys.map SessionKey.identity).Nodup)
    (hd : Derivation.delegateAddress a.address o.mint w.binder = .ok d)
    (hnamed : d.address = o.delegate) (hm : w.tokens.mint o.mint = .ok m)
    (he : w.tokens.check (o.transfer d m) = .error e) : w.judged o = .error (.token e) := by
  rw [judged_of_grants hg.toEmpowers hd hnamed hg.mint hnd, hm, show
    (Except.ok m : Except TokenError Mint).mapError Fault.token = .ok m from rfl, ok_bind,
    Tokens.transfer_of_check_error he]
  rfl

theorem judged_of_low (hg : w.Grants o a k) (hp : w.tokens.program = w.binder)
    (hnd : (a.keys.keys.map SessionKey.identity).Nodup) {b : TokenAccount}
    (hb : w.tokens.Holds o b) (hdraw : Tokens.MayDraw o b) (hlow : b.amount < o.amount) :
    w.judged o = .error (.token (.balanceTooSmall o.source b.amount o.amount)) := by
  obtain ⟨m, hm⟩ := hb.mint
  obtain ⟨d, hd, hnamed⟩ := hg.delegate
  have hrecognizes : w.tokens.Recognizes o d :=
    ⟨hnamed, hp ▸ Derivation.create_of_delegateAddress hd⟩
  refine judged_of_check_error hg hnd hd hnamed hm ?_
  rcases Tokens.check_order_cases hrecognizes hm hb with
    ⟨howner, hdelegate, -⟩ | ⟨howner, -, hallowance, -⟩ | ⟨-, -, he⟩ | ⟨-, hbalance, -⟩
  · exact absurd hdraw (not_or.2 ⟨howner, fun h => hdelegate h.1⟩)
  · exact absurd hdraw (not_or.2 ⟨howner, fun h => Int.not_le.2 hallowance h.2⟩)
  · exact he
  · exact absurd hlow (Int.not_lt.2 hbalance)

/-- A good order is carried out if the accounts hold the mint, the delegate may draw the amount and
the amount is there. -/
theorem carries (hg : w.Grants o a k) (hp : w.tokens.program = w.binder)
    (hnd : (a.keys.keys.map SessionKey.identity).Nodup) {b : TokenAccount}
    (hb : w.tokens.Holds o b) (hdraw : Tokens.MayDraw o b) (hbalance : o.amount ≤ b.amount) :
    ∃ tokens, w.judged o = .ok (k, tokens) ∧ tokens.mints = w.tokens.mints ∧
      tokens.program = w.tokens.program ∧
      ∀ y, tokens.account y = (w.tokens.account y).map (Tokens.afterOrder o y) := by
  obtain ⟨m, hm⟩ := hb.mint
  obtain ⟨d, hd, hnamed, hjudged⟩ := judged_of_mint hg hm hnd
  have hrecognizes : w.tokens.Recognizes o d :=
    ⟨hnamed, hp ▸ Derivation.create_of_delegateAddress hd⟩
  have hcheck := Tokens.check_order_of_mayDraw hrecognizes hm hb hdraw hbalance
  have htransfer := Tokens.transfer_eq_ok_iff.2 ⟨⟨b, Tokens.check_eq_ok_iff.1 hcheck⟩, rfl⟩
  obtain ⟨hmints, hprogram⟩ := Tokens.mints_transfer htransfer
  refine ⟨_, by rw [hjudged, htransfer]; rfl, hmints, hprogram, fun y => ?_⟩
  rw [Tokens.account_transfer htransfer, funext (Tokens.effect_order hnamed y)]

/-- A good order is declined by the token program, or all that is asked of it is met. -/
theorem declines_or_draws (hg : w.Grants o a k) (hp : w.tokens.program = w.binder)
    (hnd : (a.keys.keys.map SessionKey.identity).Nodup) :
    (∃ f, w.judged o = .error f ∧ w.Declines o f) ∨
      ∃ b, w.tokens.Holds o b ∧ Tokens.MayDraw o b ∧ o.amount ≤ b.amount := by
  rcases w.tokens.mint_cases o.mint with hm | ⟨m, hm⟩
  · obtain ⟨d, hd, hnamed⟩ := hg.delegate
    have hjudged := judged_of_grants hg.toEmpowers hd hnamed hg.mint hnd
    rw [Tokens.mint_of_none hm] at hjudged
    exact .inl ⟨_, hjudged, .mint hg hm⟩
  · have hmint : ∃ m, w.tokens.mint o.mint = .ok m := ⟨m, hm⟩
    obtain ⟨d, hd, hnamed⟩ := hg.delegate
    have hrecognizes : w.tokens.Recognizes o d :=
      ⟨hnamed, hp ▸ Derivation.create_of_delegateAddress hd⟩
    have hfailed {e : TokenError} (he : w.tokens.check (o.transfer d m) = .error e) :
        w.judged o = .error (.token e) := judged_of_check_error hg hnd hd hnamed hm he
    rcases w.tokens.check_order_of_not_holds o d hm with
      ⟨b, hb⟩ | ⟨hs, he⟩ | ⟨b, hs, hdest, he⟩ | ⟨b, c, hs, hdest, hne, he⟩
    · rcases Tokens.check_order_cases hrecognizes hm hb with
        ⟨howner, hdelegate, he⟩ | ⟨howner, hdelegate, hlow, he⟩ | ⟨hdraw, hlow, he⟩ |
          ⟨hdraw, hbalance, -⟩
      · exact .inl ⟨_, hfailed he, .stranger hg hb howner hdelegate⟩
      · exact .inl ⟨_, hfailed he, .allowance hg hb howner hdelegate hlow⟩
      · exact .inl ⟨_, hfailed he, .balance hg hb hdraw hlow⟩
      · exact .inr ⟨b, hb, hdraw, hbalance⟩
    · exact .inl ⟨_, hfailed he, .source hg hmint hs⟩
    · exact .inl ⟨_, hfailed he, .destination hg hmint hs hdest⟩
    · exact .inl ⟨_, hfailed he, .otherMint hg hmint hs hdest hne⟩

/-- On a reachable store an order is declined, or all that is asked of it is met. -/
theorem judged_cases (h : w.store.Reachable program) (hp : w.tokens.program = w.binder)
    (o : Order) :
    (∃ f, w.judged o = .error f ∧ w.Declines o f) ∨
      ∃ a k b, w.Grants o a k ∧ w.tokens.Holds o b ∧ Tokens.MayDraw o b ∧
        o.amount ≤ b.amount := by
  rcases declines_or_empowers h o with hdeclined | ⟨a, k, hk⟩
  · exact .inl hdeclined
  · have hnd := (h.sound hk.load).wellFormed.keys.nodup
    rcases declines_or_grants hk hnd with hdeclined | hg
    · exact .inl hdeclined
    · rcases declines_or_draws hg hp hnd with hdeclined | ⟨b, hb⟩
      · exact .inl hdeclined
      · exact .inr ⟨a, k, b, hg, hb⟩

/-- The decimals are always the mint's own, and the seeds always sign. -/
theorem Declines.ne_token (h : w.Declines o f) :
    (∀ n n', f.raised ≠ .token (.decimalsMismatch n n')) ∧
      ∀ d, f.raised ≠ .token (.seedsDoNotSign d) := by
  have hne : (∀ n n', f ≠ .token (.decimalsMismatch n n')) ∧
      ∀ d, f ≠ .token (.seedsDoNotSign d) := by
    cases h with
    | account ha hlacks => cases hlacks <;> exact ⟨nofun, nofun⟩
    | _ => exact ⟨nofun, nofun⟩
  rcases f.raised_cases with hf | hf <;> rw [hf]
  · exact hne
  · exact ⟨nofun, nofun⟩

theorem delegatedTransfer_of_error (he : w.judged o = .error f) :
    w.delegatedTransfer o.authority o.signer o.source o.destination o.mint o.delegate o.amount =
      (.error f.raised, w) := by
  rw [judged] at he
  simp only [delegatedTransfer_eq, he]

theorem delegatedTransfer_of_ok {tokens : Tokens} (he : w.judged o = .ok (k, tokens)) :
    w.delegatedTransfer o.authority o.signer o.source o.destination o.mint o.delegate o.amount =
      (.ok k, { w with tokens }.notify o.authority
        (.delegatedTransfer o.signer o.source o.destination o.mint o.amount)) := by
  rw [judged] at he
  simp only [delegatedTransfer_eq, he]

/-- What becomes of an order: it is declined and nothing changes, or it is carried out. -/
theorem delegatedTransfer_cases (h : w.store.Reachable program)
    (hp : w.tokens.program = w.binder) (o : Order) :
    let r := w.delegatedTransfer o.authority o.signer o.source o.destination o.mint o.delegate
      o.amount
    (∃ f, r = (.error f.raised, w) ∧ w.judged o = .error f ∧ w.Declines o f) ∨
    ∃ a k b tokens, w.Grants o a k ∧ w.tokens.Holds o b ∧ Tokens.MayDraw o b ∧
      o.amount ≤ b.amount ∧
      r = (.ok k, { w with tokens }.notify o.authority
        (.delegatedTransfer o.signer o.source o.destination o.mint o.amount)) ∧
      tokens.mints = w.tokens.mints ∧ tokens.program = w.tokens.program ∧
      ∀ y, tokens.account y = (w.tokens.account y).map (Tokens.afterOrder o y) := by
  rcases judged_cases h hp o with ⟨f, he, hdeclines⟩ | ⟨a, k, b, hg, hb, hdraw, hbalance⟩
  · exact .inl ⟨f, delegatedTransfer_of_error he, he, hdeclines⟩
  · obtain ⟨tokens, hok, heffect⟩ :=
      carries hg hp (h.sound hg.load).wellFormed.keys.nodup hb hdraw hbalance
    exact .inr ⟨a, k, b, tokens, hg, hb, hdraw, hbalance, delegatedTransfer_of_ok hok, heffect⟩

/--
An order to move tokens on a reachable store, whatever the token program holds and the clock reads.
It is carried out just when all that is asked of it is met. Then the balances of the source and the
destination, and the allowance and the delegate of the source, are changed as `afterOrder` says, one
event is told, and nothing else is different. Otherwise the fault of the first that fails is raised,
and nothing is different at all.
-/
theorem delegatedTransfer_exactly (h : w.store.Reachable program)
    (hp : w.tokens.program = w.binder) (o : Order) :
    let r := w.delegatedTransfer o.authority o.signer o.source o.destination o.mint o.delegate
      o.amount
    ((∃ k, r.1 = .ok k) ↔ ∃ a k b, w.Grants o a k ∧ w.tokens.Holds o b ∧
        Tokens.MayDraw o b ∧ o.amount ≤ b.amount) ∧
      (∀ k, r.1 = .ok k → (∃ a, w.Grants o a k) ∧ ∃ tokens,
        r.2 = { w with
          tokens
          sink := w.sink.notify ⟨o.authority,
            .delegatedTransfer o.signer o.source o.destination o.mint o.amount⟩ } ∧
        tokens.mints = w.tokens.mints ∧ tokens.program = w.tokens.program ∧
        ∀ y, tokens.account y = (w.tokens.account y).map (Tokens.afterOrder o y)) ∧
      ∀ f, r.1 = .error f → r.2 = w ∧ (∃ g, f = g.raised ∧ w.Declines o g) ∧
        (∀ n n', f ≠ .token (.decimalsMismatch n n')) ∧ ∀ d, f ≠ .token (.seedsDoNotSign d) := by
  intro r
  rcases delegatedTransfer_cases h hp o with
    ⟨f, hr, he, hdeclines⟩ | ⟨a, k, b, tokens, hg, hb, hdraw, hbalance, hr, heffect⟩
  · rw [show r = _ from hr]
    refine ⟨⟨?_, ?_⟩, nofun, ?_⟩
    · rintro ⟨k, hk⟩
      cases hk
    · rintro ⟨a, k, b, hg, hb, hdraw, hbalance⟩
      obtain ⟨tokens, hok, -⟩ :=
        carries hg hp (h.sound hg.load).wellFormed.keys.nodup hb hdraw hbalance
      rw [hok] at he
      cases he
    · intro g hg
      obtain rfl := Except.error.inj hg
      exact ⟨rfl, ⟨f, rfl, hdeclines⟩, hdeclines.ne_token⟩
  · rw [show r = _ from hr]
    refine ⟨⟨fun _ => ⟨a, k, b, hg, hb, hdraw, hbalance⟩, fun _ => ⟨k, rfl⟩⟩, ?_, nofun⟩
    intro k' hk'
    obtain rfl := Except.ok.inj hk'
    exact ⟨⟨a, hg⟩, tokens, rfl, heffect⟩

/-- An account whose key may have any amount of a mint moved, with a delegate for that mint. -/
theorem exists_grants : ∃ (a : Account) (k : SessionKey) (mint : String) (d : DerivedAddress),
    Store.Reachable "1" (.memory [("1", a)]) ∧
    Derivation.delegateAddress a.address mint "1" = .ok d ∧
    ∀ (w : World) (source destination : String) (amount : Int), w.binder = "1" →
      w.store = .memory [("1", a)] → w.clock = ⟨0, 0⟩ → 0 ≤ amount →
      w.Grants ⟨"1", "2", source, destination, mint, d.address, amount⟩ a k := by
  obtain ⟨a, k, hreach, hsound, hlive, htransfer, hcap, hmints⟩ :=
    Store.Reachable.exists_unrestricted
  obtain ⟨mint, d, e, hd, he⟩ := Derivation.exists_delegateAddress
  have haddress : a.address = d.address := by
    obtain ⟨d', hd', haddress, -⟩ := hsound.derived
    obtain rfl : d = d' := Except.ok.inj (hd.symm.trans hd')
    exact haddress
  refine ⟨a, k, mint, e, hreach, haddress ▸ he, ?_⟩
  intro w source destination amount hbinder hstore hclock hamount
  have hload : w.store.load "1" = .ok a := by
    rw [hstore]
    exact Account.ofJson_toJson hsound.wellFormed
  have hdelegate : Derivation.delegateAddress a.address mint w.binder = .ok e := by
    rw [hbinder, haddress, he]
  exact ⟨⟨hload, hclock ▸ hlive, hamount, htransfer, .inl hcap⟩, ⟨e, hdelegate, rfl⟩, .inl hmints⟩

/-- Words that are longer than can be written down. The name of an owner that is too long for a file
is reported in the place of the missing account; and where the balance of the source is all that an
order fails on, it is not reported if it is a number with too many digits. -/
theorem delegatedTransfer_beyond_limits :
    (let w : World := { World.empty "1" with store := .folder {} }
      let x := String.ofList (List.replicate 300 'a')
      w.store.Reachable "1" ∧
        w.delegatedTransfer x "2" "x" "y" "m" "d" 5 = (.error (.file .nameTooLong), w)) ∧
    ∃ (w : World) (o : Order) (a : Account) (k : SessionKey) (b : TokenAccount),
      w.store.Reachable "1" ∧ w.tokens.program = w.binder ∧ w.Grants o a k ∧ w.tokens.Holds o b ∧
      Tokens.MayDraw o b ∧ b.amount < o.amount ∧
      w.delegatedTransfer o.authority o.signer o.source o.destination o.mint o.delegate o.amount =
        (.error .unwritable, w) := by
  constructor
  · intro w x
    refine ⟨.folder _, ?_⟩
    have hmissing : w.store.load x = .error (.file .nameTooLong) := Store.load_of_long_name
    rw [delegatedTransfer_eq, delegated, hmissing]
    rfl
  · obtain ⟨a, k, mint, d, hreach, hd, hgrants⟩ := exists_grants
    generalize hn : Text.Integer.tooLong = n
    have hlong : Text.Integer.isTooLong (-n) = true :=
      (Text.Integer.isTooLong_neg n).trans (hn ▸ Text.Integer.isTooLong_tooLong)
    let source : TokenAccount := ⟨"x", "1", mint, -n, some d.address, 0⟩
    let w : World := { World.empty "1" with
      store := .memory [("1", a)]
      tokens := ⟨"1", [(mint, ⟨mint, 6⟩)], [("x", source)]⟩ }
    let o : Order := ⟨"1", "2", "x", "x", mint, d.address, 0⟩
    have hmint : w.tokens.mint mint = .ok ⟨mint, 6⟩ := by simp [w, Tokens.mint, field?]
    have hholds : w.tokens.Holds o source := ⟨⟨_, hmint⟩, rfl, ⟨source, rfl, rfl⟩, rfl⟩
    have hg : w.Grants o a k := hgrants w "x" "x" 0 rfl rfl rfl (Int.le_refl 0)
    have hdraw : Tokens.MayDraw o source := .inr ⟨rfl, Int.le_refl 0⟩
    have hlow : source.amount < o.amount :=
      Int.neg_neg_of_pos (Int.natCast_pos.2 (hn ▸ Text.Integer.tooLong_pos))
    have hnd := (hreach.sound (a := a) hg.load).wellFormed.keys.nodup
    refine ⟨w, o, a, k, source, hreach, rfl, hg, hholds, hdraw, hlow, ?_⟩
    rw [delegatedTransfer_of_error (judged_of_low hg rfl hnd hholds hdraw hlow)]
    rw [Fault.raised_of_isTooLong (n := -n) List.mem_cons_self hlong]

/-- A delegate that is approved for five draws all of it, by order of a session key. -/
theorem delegatedTransfer_exactly_drawn : ∃ (w : World) (mint delegate : String),
    w.store.Reachable w.program ∧ w.tokens.program = w.binder ∧
    w.tokens.account "x" = .ok ⟨"x", "1", mint, 7, some delegate, 5⟩ ∧
    ∃ k w', w.delegatedTransfer "1" "2" "x" "y" mint delegate 5 = (.ok k, w') ∧
      w'.tokens.account "x" = .ok ⟨"x", "1", mint, 2, none, 0⟩ ∧
      w'.tokens.account "y" = .ok ⟨"y", "3", mint, 5, none, 0⟩ := by
  obtain ⟨a, k, mint, d, hreach, hd, hgrants⟩ := exists_grants
  let source : TokenAccount := ⟨"x", "1", mint, 7, some d.address, 5⟩
  let destination : TokenAccount := ⟨"y", "3", mint, 0, none, 0⟩
  let w : World := { World.empty "1" with
    store := .memory [("1", a)]
    tokens := ⟨"1", [(mint, ⟨mint, 6⟩)], [("x", source), ("y", destination)]⟩ }
  have hmint : w.tokens.mint mint = .ok ⟨mint, 6⟩ := by simp [w, Tokens.mint, field?]
  have hholds : w.tokens.Holds ⟨"1", "2", "x", "y", mint, d.address, 5⟩ source :=
    ⟨⟨_, hmint⟩, rfl, ⟨destination, rfl, rfl⟩, rfl⟩
  obtain ⟨hiff, heffect, -⟩ := delegatedTransfer_exactly (w := w) hreach rfl
    ⟨"1", "2", "x", "y", mint, d.address, 5⟩
  have hfive : (0 : Int) ≤ 5 := by decide
  have hseven : (5 : Int) ≤ 7 := by decide
  have howner : d.address ≠ "1" := Derivation.address_ne_one (s := .delegate a.address mint) hd
  obtain ⟨k', hk'⟩ :=
    hiff.2 ⟨a, k, source, hgrants w "x" "y" 5 rfl rfl rfl hfive, hholds, .inr ⟨rfl, Int.le_refl 5⟩,
      hseven⟩
  obtain ⟨-, tokens, hw, -, -, haccounts⟩ := heffect k' hk'
  refine ⟨w, mint, d.address, hreach, rfl, rfl, k', _, Prod.ext hk' hw, ?_, ?_⟩
  · refine (haccounts "x").trans ?_
    simp [w, Tokens.account, field?, Except.map, Tokens.afterOrder, source, howner]
  · exact (haccounts "y").trans rfl

end World

end Keyring
