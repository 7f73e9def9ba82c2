import Keyring.Proofs.Outcome
import Keyring.Routine

/-!
# Routines part by part

`outcome` follows the parts of a routine, as long as they succeed. What is left by a routine that
fails is seen from the parts as well: one that only looks first, and then changes things without
failing any more, leaves all as it was when it fails, and so does anything that ends in a part
that cannot fail.
-/

namespace Keyring

namespace Routine

variable {ε ε' σ τ α β : Type} {p : Routine ε σ α} {f : α → Routine ε σ β} {s s' : σ}

/-! ## Routines that succeed -/

@[simp] theorem outcome_pure (x : α) (s : σ) :
    (pure x : Routine ε σ α).outcome s = .ok (x, s) := rfl

@[simp] theorem outcome_get (s : σ) : (get : Routine ε σ σ).outcome s = .ok (s, s) := rfl

@[simp] theorem outcome_modify (f : σ → σ) (s : σ) :
    (modify f : Routine ε σ PUnit).outcome s = .ok (⟨⟩, f s) := rfl

@[simp] theorem outcome_modifyGet (f : σ → α × σ) (s : σ) :
    (modifyGet f : Routine ε σ α).outcome s = .ok (f s) := rfl

@[simp] theorem outcome_liftM (r : Except ε α) (s : σ) :
    (liftM r : Routine ε σ α).outcome s = r.map fun x => (x, s) := by
  cases r <;> rfl

@[simp] theorem outcome_refuse (c : Prop) [Decidable c] (e : ε) (s : σ) :
    (refuse c e).outcome s = if c then .error e else .ok ((), s) := by
  unfold refuse
  split <;> rfl

theorem outcome_bind (p : Routine ε σ α) (f : α → Routine ε σ β) (s : σ) :
    (p >>= f).outcome s = p.outcome s >>= fun r => (f r.1).outcome r.2 := by
  rw [outcome, outcome, on_bind]
  rcases p.on s with ⟨r, s⟩
  cases r <;> rfl

theorem outcome_within (part : τ → σ) (replace : τ → σ → τ) (wrap : ε → ε')
    (p : Routine ε σ α) (t : τ) : (p.within part replace wrap).outcome t =
      ((p.outcome (part t)).mapError wrap).map fun r => (r.1, replace t r.2) := by
  rw [outcome, outcome, on_within]
  rcases p.on (part t) with ⟨r, s⟩
  cases r <;> rfl

theorem outcome_of_on {x : α} (h : p.on s = (.ok x, s')) : p.outcome s = .ok (x, s') := by
  rw [outcome, h]

theorem outcome_of_on_error {e : ε} (h : p.on s = (.error e, s')) : p.outcome s = .error e := by
  rw [outcome, h]

/-- A routine succeeds or fails as its outcome does. -/
theorem on_cases (p : Routine ε σ α) (s : σ) :
    (∃ x s', p.on s = (.ok x, s')) ∨ ∃ e s', p.on s = (.error e, s') := by
  rcases p.on s with ⟨_ | _, _⟩
  · exact .inr ⟨_, _, rfl⟩
  · exact .inl ⟨_, _, rfl⟩

theorem left_eq_ok_iff {p : Routine ε σ Unit} : p.left s = .ok s' ↔ p.on s = (.ok (), s') := by
  rw [left, outcome]
  rcases p.on s with ⟨r, t⟩
  cases r with
  | error e => exact ⟨nofun, nofun⟩
  | ok x => simp [Except.map]

/-! ## Routines that fail -/

def Looks (p : Routine ε σ α) : Prop := ∀ s, (p.on s).2 = s

def Succeeds (p : Routine ε σ α) : Prop := ∀ s, ∃ x, (p.on s).1 = .ok x

def Atomic (p : Routine ε σ α) : Prop := ∀ s e, (p.on s).1 = .error e → (p.on s).2 = s

theorem looks_pure {x : α} : Looks (pure x : Routine ε σ α) := fun _ => rfl

theorem looks_get : Looks (get : Routine ε σ σ) := fun _ => rfl

theorem looks_liftM {r : Except ε α} : Looks (liftM r : Routine ε σ α) := fun _ => rfl

theorem looks_refuse {c : Prop} [Decidable c] {e : ε} :
    Looks (refuse c e : Routine ε σ Unit) := fun s => by
  rw [on_refuse]

theorem succeeds_pure {x : α} : Succeeds (pure x : Routine ε σ α) := fun _ => ⟨x, rfl⟩

theorem succeeds_modify {f : σ → σ} : Succeeds (modify f : Routine ε σ PUnit) :=
  fun _ => ⟨⟨⟩, rfl⟩

theorem succeeds_modifyThe {f : σ → σ} : Succeeds (modifyThe σ f : Routine ε σ PUnit) :=
  fun _ => ⟨⟨⟩, rfl⟩

theorem Looks.atomic (h : Looks p) : Atomic p := fun s _ _ => h s

theorem Succeeds.atomic (h : Succeeds p) : Atomic p := by
  intro s e he
  obtain ⟨x, hx⟩ := h s
  rw [hx] at he
  cases he

theorem Succeeds.bind (h : Succeeds p) (hf : ∀ x, Succeeds (f x)) : Succeeds (p >>= f) := by
  intro s
  obtain ⟨y, hy⟩ := h s
  rw [on_bind]
  rcases p.on_cases s with ⟨x, t, hp⟩ | ⟨e, t, hp⟩ <;> rw [hp] at hy ⊢
  · exact hf x t
  · cases hy

/-- What comes after mere looking may change things, as far as it does not fail then. -/
theorem Looks.bind_atomic (h : Looks p) (hf : ∀ x, Atomic (f x)) : Atomic (p >>= f) := by
  intro s e he
  have hs := h s
  rw [on_bind] at he ⊢
  rcases p.on_cases s with ⟨x, t, hp⟩ | ⟨e', t, hp⟩ <;> rw [hp] at he hs ⊢
  · exact (hf x t e he).trans hs
  · exact hs

/-- What comes after a change may not fail. -/
theorem Atomic.bind (h : Atomic p) (hf : ∀ x, Succeeds (f x)) : Atomic (p >>= f) := by
  intro s e he
  have hs := h s
  rw [on_bind] at he ⊢
  rcases p.on_cases s with ⟨x, t, hp⟩ | ⟨e', t, hp⟩ <;> rw [hp] at he hs ⊢
  · obtain ⟨y, hy⟩ := hf x t
    exact absurd (hy.symm.trans he) nofun
  · exact hs e' rfl

theorem Atomic.within {part : τ → σ} {replace : τ → σ → τ} (wrap : ε → ε')
    (hr : ∀ t, replace t (part t) = t) (h : Atomic p) : Atomic (p.within part replace wrap) := by
  intro t e he
  have hs := h (part t)
  rw [on_within] at he ⊢
  rcases p.on_cases (part t) with ⟨x, s, hp⟩ | ⟨e', s, hp⟩ <;> rw [hp] at he hs ⊢
  · cases he
  · exact (congrArg (replace t) (hs e' rfl)).trans (hr t)

/-- Of a state in two parts the second is left alone as well. -/
theorem Atomic.snd {ρ : Type} {p : Routine ε (σ × ρ) α} (h : Atomic p) (s : σ × ρ) (e : ε)
    (he : (p.on s).1 = .error e) : (p.on s).2.2 = s.2 := by
  rw [h s e he]

/-- What an atomic routine answers and leaves is all in its outcome. -/
theorem Atomic.on_eq (h : Atomic p) (s : σ) : p.on s =
    match p.outcome s with
    | .ok (x, s') => (.ok x, s')
    | .error e => (.error e, s) := by
  have hs := h s
  rcases p.on_cases s with ⟨x, t, hp⟩ | ⟨e, t, hp⟩
  · rw [outcome_of_on hp, hp]
  · rw [hp] at hs
    rw [outcome_of_on_error hp, hp, show t = s from hs e rfl]

theorem Atomic.stateAfter_left {p : Routine ε σ Unit} (h : Atomic p) (s : σ) :
    Outcome.stateAfter s (p.left s) = (p.on s).2 := by
  rw [h.on_eq, left]
  cases p.outcome s <;> rfl

end Routine

end Keyring
