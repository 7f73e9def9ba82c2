/-!
# Routines

A routine works on a state, and answers or fails. What it has done before it fails stays done:
whoever needs it undone has to see to that.
-/

namespace Keyring

abbrev Routine (ε σ α : Type) := ExceptT ε (StateM σ) α

namespace Routine

variable {ε ε' σ τ α β : Type}

/-- What a routine answers from a state on, and the state that it leaves. -/
def on (p : Routine ε σ α) (s : σ) : Except ε α × σ := p.run.run s

def outcome (p : Routine ε σ α) (s : σ) : Except ε (α × σ) :=
  match p.on s with
  | (.ok x, s) => .ok (x, s)
  | (.error e, _) => .error e

def left (p : Routine ε σ Unit) (s : σ) : Except ε σ := (p.outcome s).map Prod.snd

def refuse (c : Prop) [Decidable c] (e : ε) : Routine ε σ Unit := if c then throw e else pure ()

def within (part : τ → σ) (replace : τ → σ → τ) (wrap : ε → ε') (p : Routine ε σ α) :
    Routine ε' τ α := fun t =>
  let (r, s) := p.on (part t)
  (r.mapError wrap, replace t s)

@[simp] theorem on_throw (e : ε) (s : σ) : on (throw e : Routine ε σ α) s = (.error e, s) := rfl

@[simp] theorem on_get (s : σ) : on (get : Routine ε σ σ) s = (.ok s, s) := rfl

@[simp] theorem on_modify (f : σ → σ) (s : σ) :
    on (modify f : Routine ε σ PUnit) s = (.ok ⟨⟩, f s) := rfl

@[simp] theorem on_liftM (r : Except ε α) (s : σ) : on (liftM r : Routine ε σ α) s = (r, s) := rfl

@[simp] theorem on_refuse (c : Prop) [Decidable c] (e : ε) (s : σ) :
    (refuse c e).on s = (if c then .error e else .ok (), s) := by
  unfold refuse
  split <;> rfl

@[simp] theorem on_within (part : τ → σ) (replace : τ → σ → τ) (wrap : ε → ε')
    (p : Routine ε σ α) (t : τ) : (p.within part replace wrap).on t =
      ((p.on (part t)).1.mapError wrap, replace t (p.on (part t)).2) := rfl

theorem on_bind (p : Routine ε σ α) (f : α → Routine ε σ β) (s : σ) :
    (p >>= f).on s = match p.on s with
      | (.ok x, s) => (f x).on s
      | (.error e, s) => (.error e, s) := by
  unfold on
  rw [ExceptT.run_bind, StateT.run_bind]
  cases StateT.run (ExceptT.run p) s with
  | mk r s => cases r <;> rfl

end Routine

end Keyring
