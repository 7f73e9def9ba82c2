import Keyring.Proofs.Engine.Reachable
import Mathlib.Data.List.Induction

/-!
# The life of a session key

A key of an account is followed from operation to operation. One that is there stays, with the same
threshold unless an operation gives it a new one, until a pruning drops it. One that is not there
stays away until an operation issues it. `run_key` puts the two together for a whole run.
-/

namespace Keyring

namespace World

def Has (w : World) (x : String) (a : Account) : Prop :=
  ∃ l, w.store.Holds w.program l ∧ field? x l = some a

def keyAt? (w : World) (x j : String) : Option SessionKey :=
  match w.store.load x with
  | .ok a => a.keys.find? j
  | .error _ => none

def issued (w : World) : Operation → List (String × String)
  | .issue x s => (w.issuedSpecs x [s]).map fun s => (x, s.key)
  | .issueAll x ss => (w.issuedSpecs x ss).map fun s => (x, s.key)
  | _ => []

def Renews (w : World) (x j : String) (op : Operation) : Prop :=
  ∃ expiresAt permissions? answer, op = .revise x j (some expiresAt) permissions? ∧
    (w.step op).1 = .ok answer

variable {w : World} {x j : String} {a : Account} {op : Operation}

theorem Has.load (h : w.Has x a) : w.store.load x = .ok a := by
  obtain ⟨l, hl, hx⟩ := h
  exact hl.load_of_some hx

theorem Has.sound (h : w.Has x a) : a.Sound w.program x := by
  obtain ⟨l, hl, hx⟩ := h
  exact hl.sound _ (mem_of_field? hx)

theorem Has.isFlat (h : w.Has x a) : w.store.IsFlat := by
  obtain ⟨l, hl, -⟩ := h
  exact hl.isFlat

theorem Has.keyAt? (h : w.Has x a) (j : String) : w.keyAt? x j = a.keys.find? j := by
  rw [World.keyAt?, h.load]

theorem has_of_load (hw : w.store.Reachable w.program) (h : w.store.load x = .ok a) :
    w.Has x a := by
  obtain ⟨l, hl⟩ := hw.holds
  exact ⟨l, hl, hl.load_eq_ok_iff.1 h⟩

theorem exists_has (hw : w.store.Reachable w.program) {k : SessionKey}
    (hk : w.keyAt? x j = some k) : ∃ a, w.Has x a ∧ a.keys.find? j = some k := by
  rw [keyAt?] at hk
  split at hk
  next a ha => exact ⟨a, has_of_load hw ha, hk⟩
  next => cases hk

/-! ## One operation -/

/-- What an operation that is no batch does to one account. -/
theorem Has.step (h : w.Has x a) (hop : op.isBatch = false) :
    ∃ a', (w.step op).2.Has x a' ∧ w.clock.Precedes (w.step op).2.clock ∧
      ((a' = a ∧ ∀ e answer, op.edit? = some (x, e) → (w.step op).1 ≠ .ok answer) ∨
        ∃ e answer, op.edit? = some (x, e) ∧ (w.step op).1 = .ok answer ∧
          a.edit w.clock e = .ok a') := by
  obtain ⟨l, hl, hx⟩ := h
  obtain ⟨l', hl', hmoves, hprogram, hclock⟩ := moves_step hl hop
  have hhas {a' : Account} (hx' : field? x l' = some a') : (w.step op).2.Has x a' :=
    ⟨l', hprogram ▸ hl', hx'⟩
  cases hmoves with
  | same hnot => exact ⟨a, hhas hx, hclock, .inl ⟨rfl, hnot x⟩⟩
  | @opened y b hy hnone hb =>
      refine ⟨a, hhas ?_, hclock, .inl ⟨rfl, fun _ _ he => ?_⟩⟩
      swap
      · rw [hy] at he
        cases he
      have hne : x ≠ y := by
        rintro rfl
        rw [hnone] at hx
        cases hx
      rw [← putField_of_not_mem (field?_eq_none_iff.1 hnone), field?_putField, if_neg hne, hx]
  | @edited y e b b' answer he hok hy hb =>
      by_cases hxy : x = y
      · subst hxy
        obtain rfl : a = b := Option.some.inj (hx.symm.trans hy)
        exact ⟨b', hhas (by rw [field?_putField, if_pos rfl]), hclock,
          .inr ⟨e, answer, he, hok, hb⟩⟩
      · refine ⟨a, hhas (by rw [field?_putField, if_neg hxy, hx]), hclock,
          .inl ⟨rfl, fun e' _ he' => ?_⟩⟩
        rw [he] at he'
        exact absurd (congrArg Prod.fst (Option.some.inj he')).symm hxy

end World

/-- A key that is kept has the same threshold, unless it is given a new one. -/
theorem Edit.expiresAt_onKey {c : Reading} {a : Account} {e : Edit} {j : String} {k l : SessionKey}
    (hfits : e.Fits c a) (hk : a.keys.find? j = some k) (hl : e.onKey c j (some k) = some l) :
    l.expiresAt = k.expiresAt ∨ ∃ expiresAt permissions?,
      e = .revise j (some expiresAt) permissions? := by
  cases e with
  | issue key expiresAt unit permissions label =>
      rw [onKey] at hl
      split at hl
      next hj => simp [hfits.2.2.2, hj] at hk
      next => exact .inl (Option.some.inj hl ▸ rfl)
  | revise key expiresAt? permissions? =>
      rw [onKey] at hl
      split at hl
      next hj =>
        cases expiresAt? with
        | none => exact .inl (Option.some.inj hl ▸ rfl)
        | some expiresAt => exact .inr ⟨expiresAt, permissions?, by rw [hj]⟩
      next => exact .inl (Option.some.inj hl ▸ rfl)
  | revoke key =>
      rw [onKey] at hl
      split at hl <;> exact .inl (Option.some.inj hl ▸ rfl)
  | revokeAll => exact .inl (Option.some.inj hl ▸ rfl)
  | prune =>
      rw [onKey, Option.filter_eq_some_iff] at hl
      exact .inl (Option.some.inj hl.1 ▸ rfl)
  | setMints mints => exact .inl (Option.some.inj hl ▸ rfl)

theorem Operation.eq_revise_of_edit? {op : Operation} {x j : String} {expiresAt? : Option Int}
    {permissions? : Option Permissions}
    (h : op.edit? = some (x, .revise j expiresAt? permissions?)) :
    op = .revise x j expiresAt? permissions? := by
  cases op with
  | issue y spec =>
      rw [edit?] at h
      split at h <;> cases h
  | revise y key expiresAt? permissions? => cases h; rfl
  | _ => cases h

theorem Operation.eq_issue_of_edit? {op : Operation} {x j : String} {expiresAt : Int}
    {unit : ExpiryUnit} {permissions : Permissions} {label : Bytes}
    (h : op.edit? = some (x, .issue j expiresAt unit permissions label)) :
    ∃ spec : KeySpec, op = .issue x spec ∧ spec.key = j := by
  cases op with
  | issue y spec =>
      rw [edit?] at h
      split at h
      next => cases h; exact ⟨spec, rfl, rfl⟩
      next => cases h
  | _ => cases h

namespace World

variable {w : World} {x j : String} {a : Account} {op : Operation} {k : SessionKey}

/-- What becomes of a key that is there, in an operation that is no batch. -/
theorem Has.step_present (h : w.Has x a) (hk : a.keys.find? j = some k)
    (hop : op.isBatch = false) :
    ∃ a', (w.step op).2.Has x a' ∧ w.clock.Precedes (w.step op).2.clock ∧
      ((∃ k', a'.keys.find? j = some k' ∧ k.Continues k' ∧
          (k'.expiresAt = k.expiresAt ∨ w.Renews x j op)) ∨
        op = .prune x ∧ a'.keys.find? j = none) := by
  obtain ⟨a', h', hclock, ⟨rfl, -⟩ | ⟨e, answer, he, hok, hedit⟩⟩ := h.step hop
  · exact ⟨a', h', hclock, .inl ⟨k, hk, k.continues_refl, .inl rfl⟩⟩
  · refine ⟨a', h', hclock, ?_⟩
    obtain ⟨hfits, rfl⟩ := Account.edit_eq_ok_iff.1 hedit
    have hfind := Edit.find?_registry h.sound.wellFormed.keys.nodup hfits j
    rw [hk] at hfind
    cases hk' : e.onKey w.clock j (some k) with
    | none =>
        obtain rfl := Edit.eq_prune_of_onKey hk'
        exact .inr ⟨Operation.eq_prune_of_edit? he, hfind.trans hk'⟩
    | some k' =>
        refine .inl ⟨k', hfind.trans hk', Edit.continues_onKey hfits hk hk', ?_⟩
        refine (Edit.expiresAt_onKey hfits hk hk').imp_right ?_
        rintro ⟨expiresAt, permissions?, rfl⟩
        exact ⟨expiresAt, permissions?, answer, Operation.eq_revise_of_edit? he, hok⟩

theorem step_issue_ok {spec : KeySpec} {answer : Answer}
    (hok : (w.step (.issue x spec)).1 = .ok answer) : ∃ l, (w.issue x spec).1 = .ok l := by
  cases h : (w.issue x spec).1 with
  | error f => simp [step, answered, h, Except.map] at hok
  | ok l => exact ⟨l, rfl⟩

theorem issuedSpecs_of_ok {spec : KeySpec} {specs : List KeySpec} {l : SessionKey}
    (h : (w.issue x spec).1 = .ok l) : w.issuedSpecs x (spec :: specs) =
      spec :: (w.step (.issue x spec)).2.issuedSpecs x specs := by
  rw [issuedSpecs, step, answered]
  split
  next heq =>
    rw [heq] at h
    cases h
  next heq => rw [heq]

theorem issuedSpecs_of_error {spec : KeySpec} {specs : List KeySpec} {f : Fault}
    (h : (w.issue x spec).1 = .error f) : w.issuedSpecs x (spec :: specs) = [] := by
  rw [issuedSpecs]
  split
  next => rfl
  next heq =>
    rw [heq] at h
    cases h

/-- No key is issued under the identity of one that is there. -/
theorem Has.issue_of_present {spec : KeySpec} (h : w.Has x a)
    (hk : a.keys.find? spec.key = some k) : ∃ f, (w.issue x spec).1 = .error f := by
  cases hok : (w.issue x spec).1 with
  | error f => exact ⟨f, rfl⟩
  | ok l =>
      have hstep : (w.step (.issue x spec)).1 = .ok (.key l) := by
        simp only [World.step, answered, hok]
        rfl
      cases he : (Operation.issue x spec).edit? with
      | none =>
          obtain ⟨f, hf⟩ := step_issue_of_edit?_eq_none (w := w) he
          rw [hf] at hstep
          cases hstep
      | some ye =>
          obtain ⟨y, e⟩ := ye
          rcases step_edit (w := w) he with ⟨f, v, hf, -⟩ | ⟨b, b', -, -, -, hload, hedit, -, -⟩
          · rw [hf] at hstep
            cases hstep
          · rw [Operation.edit?] at he
            split at he
            next =>
              obtain ⟨rfl, rfl⟩ := Prod.mk.inj (Option.some.inj he)
              obtain rfl : a = b := Except.ok.inj (h.load.symm.trans hload)
              have hnone := (Account.edit_eq_ok_iff.1 hedit).1.2.2.2
              rw [hk] at hnone
              cases hnone
            next => cases he

theorem Has.step_absent (h : w.Has x a) (hk : a.keys.find? j = none) (hop : op.isBatch = false)
    (hi : (x, j) ∉ w.issued op) :
    ∃ a', (w.step op).2.Has x a' ∧ w.clock.Precedes (w.step op).2.clock ∧
      a'.keys.find? j = none := by
  obtain ⟨a', h', hclock, ⟨rfl, -⟩ | ⟨e, answer, he, hok, hedit⟩⟩ := h.step hop
  · exact ⟨a', h', hclock, hk⟩
  · refine ⟨a', h', hclock, ?_⟩
    obtain ⟨hfits, rfl⟩ := Account.edit_eq_ok_iff.1 hedit
    refine (Edit.find?_registry h.sound.wellFormed.keys.nodup hfits j).trans ?_
    rw [hk]
    cases hj : e.onKey w.clock j none with
    | none => rfl
    | some k =>
        obtain ⟨expiresAt, unit, permissions, label, rfl, -⟩ := Edit.eq_issue_of_onKey hj
        obtain ⟨spec, rfl, rfl⟩ := Operation.eq_issue_of_edit? he
        obtain ⟨l, hl⟩ := step_issue_ok hok
        refine absurd ?_ hi
        rw [issued, issuedSpecs_of_ok hl]
        exact List.mem_cons_self

/-! ## A batch -/

theorem issueAll_of_ok {spec : KeySpec} {specs : List KeySpec} {l : SessionKey}
    (h : (w.issue x spec).1 = .ok l) : (w.step (.issueAll x (spec :: specs))).2 =
      ((w.step (.issue x spec)).2.step (.issueAll x specs)).2 := by
  simp only [step, answered, issueAll]
  split
  next heq =>
    rw [heq] at h
    cases h
  next heq => rw [heq]

theorem issueAll_of_error {spec : KeySpec} {specs : List KeySpec} {f : Fault}
    (hflat : w.store.IsFlat) (h : (w.issue x spec).1 = .error f) :
    (w.step (.issueAll x (spec :: specs))).2 = w := by
  simp only [step, answered, issueAll]
  split
  next heq =>
    have hw := (drafts_issue_of_error h).eq_of_isFlat hflat
    rw [heq] at hw
    exact hw
  next heq =>
    rw [heq] at h
    cases h

/-- A key that is there is not issued, and a batch for its owner leaves it as it was. -/
theorem Has.issueAll_present (h : w.Has x a) (hk : a.keys.find? j = some k) (y : String)
    (specs : List KeySpec) :
    (x, j) ∉ w.issued (.issueAll y specs) ∧
      ∃ a', (w.step (.issueAll y specs)).2.Has x a' ∧
        w.clock.Precedes (w.step (.issueAll y specs)).2.clock ∧
        ∃ k', a'.keys.find? j = some k' ∧ k.Continues k' ∧ k'.expiresAt = k.expiresAt := by
  induction specs generalizing w a k with
  | nil =>
      exact ⟨List.not_mem_nil, a, h, Reading.precedes_refl _, k, hk, k.continues_refl, rfl⟩
  | cons s ss ih =>
      cases hs : (w.issue y s).1 with
      | error f =>
          rw [issued, issuedSpecs_of_error hs, issueAll_of_error h.isFlat hs]
          exact ⟨List.not_mem_nil, a, h, Reading.precedes_refl _, k, hk, k.continues_refl, rfl⟩
      | ok l =>
          have hissue : (Operation.issue y s).isBatch = false := rfl
          obtain ⟨a₁, h₁, hc₁, hkey | ⟨hprune, -⟩⟩ := h.step_present hk hissue
          · obtain ⟨k₁, hk₁, hcont₁, hexp₁ | ⟨t, p, answer, hrevise, -⟩⟩ := hkey
            · obtain ⟨hnot, a₂, h₂, hc₂, k₂, hk₂, hcont₂, hexp₂⟩ := ih h₁ hk₁
              rw [issued, issuedSpecs_of_ok hs, issueAll_of_ok hs, List.map_cons, List.mem_cons,
                not_or]
              refine ⟨⟨?_, hnot⟩, a₂, h₂, hc₁.trans hc₂, k₂, hk₂, hcont₁.trans hcont₂,
                hexp₂.trans hexp₁⟩
              intro heq
              obtain ⟨rfl, rfl⟩ := Prod.mk.inj heq
              obtain ⟨f, hf⟩ := h.issue_of_present hk
              rw [hs] at hf
              cases hf
            · cases hrevise
          · cases hprune

theorem Has.issueAll_absent (h : w.Has x a) (hk : a.keys.find? j = none) (y : String)
    (specs : List KeySpec) (hi : (x, j) ∉ w.issued (.issueAll y specs)) :
    ∃ a', (w.step (.issueAll y specs)).2.Has x a' ∧
      w.clock.Precedes (w.step (.issueAll y specs)).2.clock ∧ a'.keys.find? j = none := by
  induction specs generalizing w a with
  | nil => exact ⟨a, h, Reading.precedes_refl _, hk⟩
  | cons s ss ih =>
      cases hs : (w.issue y s).1 with
      | error f =>
          rw [issueAll_of_error h.isFlat hs]
          exact ⟨a, h, Reading.precedes_refl _, hk⟩
      | ok l =>
          rw [issued, issuedSpecs_of_ok hs, List.map_cons, List.mem_cons, not_or] at hi
          have hone : (x, j) ∉ w.issued (.issue y s) := by
            rw [issued, issuedSpecs_of_ok hs]
            simpa [issuedSpecs] using hi.1
          have hissue : (Operation.issue y s).isBatch = false := rfl
          obtain ⟨a₁, h₁, hc₁, hk₁⟩ := h.step_absent hk hissue hone
          obtain ⟨a₂, h₂, hc₂, hk₂⟩ := ih h₁ hk₁ hi.2
          rw [issueAll_of_ok hs]
          exact ⟨a₂, h₂, hc₁.trans hc₂, hk₂⟩

/-! ## Any operation -/

theorem Has.not_mem_issued (h : w.Has x a) (hk : a.keys.find? j = some k) (op : Operation) :
    (x, j) ∉ w.issued op := by
  cases op with
  | issueAll y specs => exact (h.issueAll_present hk y specs).1
  | issue y spec => exact (h.issueAll_present hk y [spec]).1
  | _ => exact List.not_mem_nil

/-- What becomes of a key that is there. -/
theorem Has.next_present (h : w.Has x a) (hk : a.keys.find? j = some k) (op : Operation) :
    ∃ a', (w.step op).2.Has x a' ∧ w.clock.Precedes (w.step op).2.clock ∧
      ((∃ k', a'.keys.find? j = some k' ∧ k.Continues k' ∧
          (k'.expiresAt = k.expiresAt ∨ w.Renews x j op)) ∨
        op = .prune x ∧ a'.keys.find? j = none) := by
  cases hop : op.isBatch with
  | false => exact h.step_present hk hop
  | true =>
      cases op with
      | issueAll y specs =>
          obtain ⟨-, a', h', hc, k', hk', hcont, hexp⟩ := h.issueAll_present hk y specs
          exact ⟨a', h', hc, .inl ⟨k', hk', hcont, .inl hexp⟩⟩
      | _ => cases hop

/-- What becomes of a key that is not there, and is not issued. -/
theorem Has.next_absent (h : w.Has x a) (hk : a.keys.find? j = none)
    (hi : (x, j) ∉ w.issued op) :
    ∃ a', (w.step op).2.Has x a' ∧ w.clock.Precedes (w.step op).2.clock ∧
      a'.keys.find? j = none := by
  cases hop : op.isBatch with
  | false => exact h.step_absent hk hop hi
  | true =>
      cases op with
      | issueAll y specs => exact h.issueAll_absent hk y specs hi
      | _ => cases hop

/-! ## A run -/

def NeverIssues (w : World) (x j : String) (ops : List Operation) : Prop :=
  ∀ before op after, ops = before ++ op :: after → (x, j) ∉ (w.run before).issued op

def NeverRenews (w : World) (x j : String) (ops : List Operation) : Prop :=
  ∀ before op after, ops = before ++ op :: after → ¬ (w.run before).Renews x j op

def Drops (w : World) (x j : String) (ops : List Operation) : Prop :=
  ∃ before after k, ops = before ++ .prune x :: after ∧ (w.run before).keyAt? x j = some k ∧
    (w.run (before ++ [.prune x])).keyAt? x j = none

/-- What becomes of a key in a run that does not issue it: it is there with its threshold, unless it
was given a new one, or a pruning has dropped it. -/
theorem run_key (h : w.Has x a) (hk : a.keys.find? j = some k) (ops : List Operation)
    (hi : w.NeverIssues x j ops) :
    ∃ a', (w.run ops).Has x a' ∧ w.clock.Precedes (w.run ops).clock ∧
      ((∃ k', a'.keys.find? j = some k' ∧ k.Continues k' ∧
          (w.NeverRenews x j ops → k'.expiresAt = k.expiresAt)) ∨
        a'.keys.find? j = none ∧ w.Drops x j ops) := by
  induction ops using List.reverseRecOn with
  | nil =>
      exact ⟨a, h, Reading.precedes_refl _, .inl ⟨k, hk, k.continues_refl, fun _ => rfl⟩⟩
  | append_singleton ops op ih =>
      have hbefore : w.NeverIssues x j ops := fun before op' after heq =>
        hi before op' (after ++ [op]) (by rw [heq, List.append_assoc, List.cons_append])
      have hop : (x, j) ∉ (w.run ops).issued op := hi ops op [] rfl
      obtain ⟨a₁, h₁, hc₁, ⟨k₁, hk₁, hcont₁, hexp₁⟩ | ⟨hk₁, before, after, l, heq, hdrop⟩⟩ :=
        ih hbefore
      · obtain ⟨a₂, h₂, hc₂, ⟨k₂, hk₂, hcont₂, hexp₂⟩ | ⟨rfl, hk₂⟩⟩ := h₁.next_present hk₁ op
        · refine ⟨a₂, run_append w ops op ▸ h₂, run_append w ops op ▸ hc₁.trans hc₂,
            .inl ⟨k₂, hk₂, hcont₁.trans hcont₂, fun hnever => ?_⟩⟩
          have hops : w.NeverRenews x j ops := fun before op' after heq =>
            hnever before op' (after ++ [op]) (by rw [heq, List.append_assoc, List.cons_append])
          rcases hexp₂ with hexp₂ | hrenews
          · exact hexp₂.trans (hexp₁ hops)
          · exact absurd hrenews (hnever ops op [] rfl)
        · refine ⟨a₂, run_append w ops _ ▸ h₂, run_append w ops _ ▸ hc₁.trans hc₂,
            .inr ⟨hk₂, ops, [], k₁, rfl, (h₁.keyAt? j).trans hk₁, ?_⟩⟩
          rw [run_append, h₂.keyAt? j, hk₂]
      · obtain ⟨a₂, h₂, hc₂, hk₂⟩ := h₁.next_absent hk₁ hop
        refine ⟨a₂, run_append w ops op ▸ h₂, run_append w ops op ▸ hc₁.trans hc₂,
          .inr ⟨hk₂, before, after ++ [op], l, ?_, hdrop⟩⟩
        rw [heq, List.append_assoc, List.cons_append]

end World

end Keyring
