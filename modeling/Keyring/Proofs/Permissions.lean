import Keyring.Engine.Authority

/-!
# What permissions permit

An action needs the flag of its kind, and a transfer needs an amount within the cap besides, where
zero is no cap. Hence one permission set permits no more than another just if it has no flag that
the other lacks and, should it allow transfers at all, no wider cap: zero is the widest of the caps,
and a cap without the flag for transfers counts for nothing.
-/

namespace Keyring.Permissions

def Allows (p : Permissions) : Action → Prop
  | .transfer _ amount => p.canTransfer = true ∧ (p.cap = 0 ∨ amount ≤ p.cap)
  | .delegate _ _ => p.canDelegate = true
  | .custom _ _ => p.canExecuteCustom = true

variable {p q : Permissions} {action : Action}

theorem allowsAmount_iff {amount : Nat} :
    p.allowsAmount amount = true ↔ p.cap = 0 ∨ amount ≤ p.cap := by
  have hzero : p.maxTransferAmount = 0 ↔ p.cap = 0 := by
    rw [cap, ← UInt64.toNat_inj]
    rfl
  rw [allowsAmount, isUnlimited, Bool.or_eq_true, beq_iff_eq, hzero, decide_eq_true_eq,
    Int.ofNat_le]

theorem denial?_eq_none_iff : p.denial? action = none ↔ p.Allows action := by
  cases action with
  | transfer recipient amount =>
      rw [denial?, Allows, ← allowsAmount_iff]
      cases p.canTransfer with
      | false => simp
      | true => cases p.allowsAmount amount <;> simp
  | delegate newKey permissions => cases h : p.canDelegate <;> simp [denial?, Allows, h]
  | custom target payload => cases h : p.canExecuteCustom <;> simp [denial?, Allows, h]

theorem permits_iff : p.permits action = true ↔ p.Allows action := by
  rw [permits, Option.isNone_iff_eq_none, denial?_eq_none_iff]

/-! ## What is required -/

theorem require_action (p : Permissions) (action : Action) :
    p.require (.action action) =
      match p.denial? action with
      | some d => .error (.insufficient (.denied d))
      | none => .ok action := rfl

theorem require_of_permits (h : p.permits action = true) :
    p.require (.action action) = .ok action := by
  rw [require_action, Option.isNone_iff_eq_none.1 h]

theorem reason_of_denied {d : Denial} (h : p.denial? action = some d) :
    p.reason action = d.reason := by
  simp only [reason, h]

/-- What is refused is refused for the reason of the decision. -/
theorem require_of_not_permits (h : p.permits action = false) :
    ∃ d, p.require (.action action) = .error (.insufficient (.denied d)) ∧
      d.reason = p.reason action := by
  cases hd : p.denial? action with
  | none => simp [permits, hd] at h
  | some d => exact ⟨d, by rw [require_action, hd], (reason_of_denied hd).symm⟩

/-! ## The order -/

/-- One cap admits no amount that another does not just if the other is none, or neither is and the
other is no smaller. -/
theorem forall_within_iff {m n : Nat} :
    (∀ amount, m = 0 ∨ amount ≤ m → n = 0 ∨ amount ≤ n) ↔ n = 0 ∨ m ≠ 0 ∧ n ≠ 0 ∧ m ≤ n := by
  constructor
  · intro h
    by_cases hm : m = 0
    · -- Without a cap there is an amount above any other.
      have habove := h (n + 1) (.inl hm)
      omega
    · have hat := h m (.inr (Nat.le_refl m))
      omega
  · rintro h amount hamount
    omega

theorem forall_permits_iff :
    (∀ action, p.permits action = true → q.permits action = true) ↔
      (p.canDelegate = true → q.canDelegate = true) ∧
      (p.canExecuteCustom = true → q.canExecuteCustom = true) ∧
      (p.canTransfer = true → q.canTransfer = true ∧
        (q.cap = 0 ∨ p.cap ≠ 0 ∧ q.cap ≠ 0 ∧ p.cap ≤ q.cap)) := by
  simp only [permits_iff]
  constructor
  · intro h
    refine ⟨h (.delegate "" {}), h (.custom "" []), fun ht => ?_⟩
    have htransfer (amount : Nat) (hamount : p.cap = 0 ∨ amount ≤ p.cap) :
        q.Allows (.transfer "" amount) := h (.transfer "" amount) ⟨ht, hamount⟩
    exact ⟨(htransfer 0 (.inr (Nat.zero_le p.cap))).1,
      forall_within_iff.1 fun amount hamount => (htransfer amount hamount).2⟩
  · rintro ⟨hdelegate, hcustom, htransfer⟩ action h
    cases action with
    | transfer recipient amount =>
        obtain ⟨ht, hcaps⟩ := htransfer h.1
        exact ⟨ht, forall_within_iff.2 hcaps amount h.2⟩
    | delegate newKey permissions => exact hdelegate h
    | custom target payload => exact hcustom h

/-- No decision looks at the custom flags. -/
theorem denial?_customFlags (p : Permissions) (flags : UInt32) (action : Action) :
    ({ p with customFlags := flags } : Permissions).denial? action = p.denial? action := by
  cases action <;> rfl

theorem reason_customFlags (p : Permissions) (flags : UInt32) (action : Action) :
    ({ p with customFlags := flags } : Permissions).reason action = p.reason action := by
  unfold reason
  rw [denial?_customFlags]

theorem permits_transfer_of_le {recipient : String} {amount less : Nat} (hless : less ≤ amount)
    (h : p.permits (.transfer recipient amount) = true) :
    p.permits (.transfer recipient less) = true := by
  obtain ⟨ht, hcap⟩ := permits_iff.1 h
  exact permits_iff.2 ⟨ht, hcap.imp_right (Nat.le_trans hless)⟩

/-- Permission sets are ordered by the actions that they permit. All that one permits another
permits as well just if each of the two plain flags goes from the one to the other, and with the
flag for transfers goes that the other has no cap, or both have one and that of the other is no
smaller. Custom flags play no part, neither in a decision nor in the reason given for it. A transfer
that is permitted is permitted for every smaller amount. What is required is given just if it is
permitted, and otherwise refused for the reason of the decision.
-/
theorem ordered_by_actions (p q : Permissions) :
    ((∀ action, p.permits action = true → q.permits action = true) ↔
      (p.canDelegate = true → q.canDelegate = true) ∧
      (p.canExecuteCustom = true → q.canExecuteCustom = true) ∧
      (p.canTransfer = true → q.canTransfer = true ∧
        (q.cap = 0 ∨ p.cap ≠ 0 ∧ q.cap ≠ 0 ∧ p.cap ≤ q.cap))) ∧
    (∀ flags action,
      ({ p with customFlags := flags } : Permissions).permits action = p.permits action ∧
      ({ p with customFlags := flags } : Permissions).reason action = p.reason action) ∧
    (∀ recipient amount less, less ≤ amount → p.permits (.transfer recipient amount) = true →
      p.permits (.transfer recipient less) = true) ∧
    ∀ action,
      (p.permits action = true → p.require (.action action) = .ok action) ∧
      (p.permits action = false →
        ∃ d, p.require (.action action) = .error (.insufficient (.denied d)) ∧
          d.reason = p.reason action) := by
  refine ⟨forall_permits_iff, fun flags action => ⟨?_, p.reason_customFlags flags action⟩,
    fun _ _ _ hless h => permits_transfer_of_le hless h,
    fun action => ⟨require_of_permits, require_of_not_permits⟩⟩
  rw [permits, permits, denial?_customFlags]

/-- A cap of five lies below none at all, but none at all does not lie below a cap of five. -/
example :
    let capped : Permissions := { canTransfer := true, maxTransferAmount := 5 }
    let free : Permissions := { canTransfer := true }
    capped.permits (.transfer "a" 5) = true ∧ capped.permits (.transfer "a" 6) = false ∧
      free.permits (.transfer "a" 6) = true := by
  decide

end Keyring.Permissions
