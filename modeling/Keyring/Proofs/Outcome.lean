import Keyring.Fault

/-!
# Results and faults

How a chain of checks is opened: it gives a result just when each of its parts does.
-/

namespace Keyring.Outcome

variable {ε α β : Type}

@[simp] theorem ok_bind (x : α) (f : α → Except ε β) : (Except.ok x >>= f) = f x := rfl

@[simp] theorem error_bind (e : ε) (f : α → Except ε β) : (Except.error e >>= f) = .error e := rfl

theorem bind_eq_ok {r : Except ε α} {f : α → Except ε β} {y : β} :
    (r >>= f) = .ok y ↔ ∃ x, r = .ok x ∧ f x = .ok y := by
  cases r with
  | error e => simp
  | ok x => simp

theorem map_eq_bind (f : α → β) (r : Except ε α) : r.map f = r >>= fun x => .ok (f x) := by
  cases r <;> rfl

theorem ite_bind (c : Prop) [Decidable c] (e : ε) (r : Except ε α) (f : α → Except ε β) :
    ((if c then .error e else r) >>= f) = if c then .error e else r >>= f := by
  split <;> rfl

theorem map_eq_ok {r : Except ε α} {f : α → β} {y : β} :
    r.map f = .ok y ↔ ∃ x, r = .ok x ∧ f x = y := by
  cases r with
  | error e => simp [Except.map]
  | ok x => simp [Except.map]

theorem mapError_eq_ok {ε' : Type} {r : Except ε α} {f : ε → ε'} {x : α} :
    r.mapError f = .ok x ↔ r = .ok x := by
  cases r with
  | error e => exact ⟨nofun, nofun⟩
  | ok y =>
      constructor
      · intro h
        cases h
        rfl
      · intro h
        cases h
        rfl

/-- The state after a step that may fail: what the step gives, or the state before it. -/
def stateAfter (x : α) (r : Except ε α) : α := r.toOption.getD x

@[simp] theorem stateAfter_ok (x y : α) : stateAfter x (.ok y : Except ε α) = y := rfl

@[simp] theorem stateAfter_error (x : α) (e : ε) : stateAfter x (.error e) = x := rfl

end Keyring.Outcome
