import Keyring.Allowlist
import Keyring.Proofs.Outcome
import Mathlib.Data.List.Induction
import Mathlib.Data.List.Perm.Subperm

/-!
# Allowlists in use

An allowlist is made from no mints or from some, and from then on its mints are replaced all at
once. It holds the mints that it is given, each where it first comes; repetitions count towards the
limit and are dropped only then. A step that gives too many fails, and the list stays as it is. So
what a list permits can be told from what it was given last: everything, if that was nothing, and
otherwise those mints alone (`permits_what_was_last_given`).
-/

namespace Keyring

/-- The mints that are kept of those given: each once, in the order in which they first come. -/
structure FirstOccurrences (given kept : List String) : Prop where
  mem_iff (mint : String) : mint ∈ kept ↔ mint ∈ given
  nodup : kept.Nodup
  ordered : kept.Pairwise fun m n => given.idxOf m < given.idxOf n

inductive AllowlistStep where
  /-- Another list is made, with the mints that are given if any are, and used from then on. -/
  | make (mints? : Option (List String))
  | replace (mints : List String)

namespace AllowlistStep

def mints : AllowlistStep → List String
  | .make mints? => mints?.getD []
  | .replace mints => mints

def made : AllowlistStep → Outcome Allowlist
  | .make none => .ok Allowlist.empty
  | .make (some mints) => Allowlist.ofList mints
  | .replace mints => Allowlist.ofList mints

end AllowlistStep

namespace Allowlist

structure WellFormed (a : Allowlist) : Prop where
  size : a.mints.length ≤ maxMints
  nodup : a.mints.Nodup

def step (a : Allowlist) (s : AllowlistStep) : Outcome Unit × Allowlist :=
  match s.made with
  | .error f => (.error f, a)
  | .ok b => (.ok (), b)

def run (a : Allowlist) (steps : List AllowlistStep) : Allowlist :=
  steps.foldl (fun a s => (a.step s).2) a

def taken (a : Allowlist) : List AllowlistStep → List AllowlistStep
  | [] => []
  | s :: steps =>
    match (a.step s).1 with
    | .error _ => (a.step s).2.taken steps
    | .ok _ => s :: (a.step s).2.taken steps

variable {a : Allowlist} {s : AllowlistStep} {steps : List AllowlistStep} {mints : List String}
  {mint : String} {f : Fault}

/-! ## First occurrences -/

theorem ordered_eraseDups (mints : List String) :
    mints.eraseDups.Pairwise fun m n => mints.idxOf m < mints.idxOf n := by
  induction mints using List.reverseRecOn with
  | nil => exact .nil
  | append_singleton mints x ih =>
      have hbefore {m : String} (hm : m ∈ mints) : (mints ++ [x]).idxOf m = mints.idxOf m :=
        List.idxOf_append_of_mem hm
      have hkept : mints.eraseDups.Pairwise fun m n =>
          (mints ++ [x]).idxOf m < (mints ++ [x]).idxOf n := by
        refine ih.imp_of_mem fun {m n} hm hn hlt => ?_
        rwa [hbefore (List.mem_eraseDups.1 hm), hbefore (List.mem_eraseDups.1 hn)]
      rw [List.eraseDups_append]
      -- The last mint adds nothing if it came before, and otherwise stands behind all that did.
      by_cases hx : x ∈ mints
      · have hnone : [x].removeAll mints = [] := by simp [List.removeAll, hx]
        rwa [hnone, List.eraseDups_nil, List.append_nil]
      · have hone : [x].removeAll mints = [x] := by simp [List.removeAll, hx]
        rw [hone]
        refine List.pairwise_append.2 ⟨hkept, List.pairwise_singleton _ x, fun m hm n hn => ?_⟩
        obtain rfl := List.mem_singleton.1 hn
        have hm := List.mem_eraseDups.1 hm
        have hlast : (mints ++ [n]).idxOf n = mints.length := by
          rw [List.idxOf_append_of_notMem hx]
          simp
        rw [hbefore hm, hlast]
        exact List.idxOf_lt_length_of_mem hm

theorem nodup_eraseDups (mints : List String) : mints.eraseDups.Nodup :=
  (ordered_eraseDups mints).imp fun hlt heq => Nat.ne_of_lt hlt (congrArg mints.idxOf heq)

theorem length_eraseDups_le (mints : List String) : mints.eraseDups.length ≤ mints.length :=
  (List.subperm_of_subset (nodup_eraseDups mints) fun _ => List.mem_eraseDups.1).length_le

theorem eraseDups_of_nodup (h : mints.Nodup) : mints.eraseDups = mints := by
  induction mints with
  | nil => rfl
  | cons m mints ih =>
      rw [List.nodup_cons] at h
      have hfilter : mints.filter (fun n => !n == m) = mints := by
        rw [List.filter_eq_self]
        intro n hn
        have hne : n ≠ m := fun heq => h.1 (heq ▸ hn)
        simpa using hne
      rw [List.eraseDups_cons, hfilter, ih h.2]

theorem eraseDups_eq_nil_iff : mints.eraseDups = [] ↔ mints = [] := by
  simp only [List.eq_nil_iff_forall_not_mem, List.mem_eraseDups]

/-- The first occurrences are no more than one list, as members and order are given. -/
theorem eraseDups_eq_iff {kept : List String} :
    mints.eraseDups = kept ↔ FirstOccurrences mints kept := by
  constructor
  · rintro rfl
    exact ⟨fun _ => List.mem_eraseDups, nodup_eraseDups mints, ordered_eraseDups mints⟩
  · intro h
    have hmem (m : String) : m ∈ mints.eraseDups ↔ m ∈ kept := by
      rw [List.mem_eraseDups, h.mem_iff]
    have hperm := (List.perm_ext_iff_of_nodup (nodup_eraseDups mints) h.nodup).2 hmem
    refine hperm.eq_of_pairwise ?_ (ordered_eraseDups mints) h.ordered
    exact fun m n _ _ hlt hgt => absurd hgt (Nat.lt_asymm hlt)

/-! ## The list of given mints -/

theorem ofList_eq_ok_iff : ofList mints = .ok a ↔
    mints.length ≤ maxMints ∧ a = ⟨mints.eraseDups⟩ := by
  rw [ofList]
  split
  next h => simp [Nat.not_le.2 h]
  next h => simp [Nat.not_lt.1 h, eq_comm]

theorem wellFormed_eraseDups (h : mints.length ≤ maxMints) :
    (⟨mints.eraseDups⟩ : Allowlist).WellFormed :=
  ⟨Nat.le_trans (length_eraseDups_le mints) h, nodup_eraseDups mints⟩

theorem wellFormed_of_ofList (h : ofList mints = .ok a) : a.WellFormed := by
  obtain ⟨hsize, rfl⟩ := ofList_eq_ok_iff.1 h
  exact wellFormed_eraseDups hsize

theorem ofList_mints (ha : a.WellFormed) : ofList a.mints = .ok a :=
  ofList_eq_ok_iff.2 ⟨ha.size, congrArg mk (eraseDups_of_nodup ha.nodup).symm⟩

/-! ## Questions -/

theorem isRestricted_iff : a.isRestricted = true ↔ a.mints ≠ [] := by
  rw [isRestricted, Bool.not_eq_true', ← Bool.not_eq_true, List.isEmpty_iff]

theorem permits_iff : a.permits mint = true ↔ a.mints = [] ∨ mint ∈ a.mints := by
  rw [permits, isRestricted, contains, Bool.not_not, Bool.or_eq_true, List.isEmpty_iff,
    List.contains_iff_mem]

theorem require_eq (a : Allowlist) (mint : String) : a.require mint =
    if a.mints = [] ∨ mint ∈ a.mints then .ok () else .error (.refusal (.mintNotAllowed mint)) :=
  if_congr permits_iff rfl rfl

/-- A list restricts just when it was given mints. -/
theorem isRestricted_iff_of_given (h : a.mints = mints.eraseDups) :
    a.isRestricted = true ↔ mints ≠ [] := by
  rw [isRestricted_iff, h, Ne, eraseDups_eq_nil_iff]

/-- A list that was given mints permits those, and one that was given none permits all. -/
theorem permits_iff_of_given (h : a.mints = mints.eraseDups) :
    a.permits mint = true ↔ mints = [] ∨ mint ∈ mints := by
  rw [permits_iff, h, eraseDups_eq_nil_iff, List.mem_eraseDups]

/-! ## One step -/

/-- To make a list from no mints at all is to make it from an empty list of them. -/
theorem made_eq_ofList (s : AllowlistStep) : s.made = ofList s.mints := by
  cases s with
  | make mints? => cases mints? <;> rfl
  | replace mints => rfl

theorem step_of_le (a : Allowlist) (h : s.mints.length ≤ maxMints) :
    a.step s = (.ok (), ⟨s.mints.eraseDups⟩) := by
  rw [step, made_eq_ofList, ofList_eq_ok_iff.2 ⟨h, rfl⟩]

theorem step_of_lt (a : Allowlist) (h : maxMints < s.mints.length) :
    a.step s = (.error (.refusal (.tooManyMints s.mints.length maxMints)), a) := by
  rw [step, made_eq_ofList, ofList, if_pos h]

theorem step_eq_ok_iff : (a.step s).1 = .ok () ↔ s.mints.length ≤ maxMints := by
  by_cases h : s.mints.length ≤ maxMints
  · rw [step_of_le a h]
    exact iff_of_true rfl h
  · rw [step_of_lt a (Nat.not_le.1 h)]
    exact iff_of_false nofun h

theorem step_of_error (h : (a.step s).1 = .error f) :
    f = .refusal (.tooManyMints s.mints.length maxMints) ∧ (a.step s).2 = a := by
  have hlt : maxMints < s.mints.length := by
    refine Nat.not_le.1 fun hle => ?_
    rw [step_of_le a hle] at h
    cases h
  rw [step_of_lt a hlt] at h ⊢
  exact ⟨(Except.error.inj h).symm, rfl⟩

/-! ## Sequences of steps -/

/-- After any steps a list holds what the last of them gave that did not fail, or what led to it. -/
theorem mints_run (h : a.mints = s.mints.eraseDups) (steps : List AllowlistStep) :
    (a.run steps).mints = ((a.taken steps).getLastD s).mints.eraseDups := by
  induction steps generalizing a s with
  | nil => exact h
  | cons t steps ih =>
      have hrun : a.run (t :: steps) = (a.step t).2.run steps := rfl
      by_cases ht : t.mints.length ≤ maxMints
      · rw [hrun, taken, step_of_le a ht, List.getLastD_cons]
        exact ih rfl
      · rw [hrun, taken, step_of_lt a (Nat.not_le.1 ht)]
        exact ih h

/-- A list that restricts is left for one that does not only by a step that gives no mints. -/
theorem exists_taken_of_run (h : a.mints = s.mints.eraseDups) (hbefore : a.isRestricted = true)
    (hafter : (a.run steps).isRestricted = false) : ∃ t ∈ a.taken steps, t.mints = [] := by
  have hlast : ((a.taken steps).getLastD s).mints = [] := by
    by_contra hne
    rw [(isRestricted_iff_of_given (mints_run h steps)).2 hne] at hafter
    cases hafter
  rcases List.mem_cons.1 (List.getLastD_mem_cons (l := a.taken steps) (a := s)) with heq | hmem
  · rw [heq] at hlast
    exact absurd hlast ((isRestricted_iff_of_given h).1 hbefore)
  · exact ⟨_, hmem, hlast⟩

/-- What holds of an allowlist, whatever it was made from, after any steps. A step succeeds just
when it gives no more mints than the limit, repetitions counted, and the list then holds their
first occurrences. A step that fails is told how many it gave, and leaves what is held and what is
permitted as it was. A list that restricts is left for one that does not only by being given an
empty list, or for another that is made without mints. What is permitted is told by the last step
that succeeded, the making included: everything if it gave no mints, and what it gave otherwise. -/
theorem permits_what_was_last_given {mints? : Option (List String)} {a : Allowlist}
    (h : (AllowlistStep.make mints?).made = .ok a) (steps : List AllowlistStep) :
    let now := a.run steps
    let last := (a.taken steps).getLastD (.make mints?)
    (∀ s, (now.step s).1 = .ok () ↔ s.mints.length ≤ maxMints) ∧
    (∀ s, (now.step s).1 = .ok () →
      ∀ kept, (now.step s).2.mints = kept ↔ FirstOccurrences s.mints kept) ∧
    (∀ s f, (now.step s).1 = .error f →
      f = .refusal (.tooManyMints s.mints.length maxMints) ∧ (now.step s).2.mints = now.mints ∧
        ∀ mint, (now.step s).2.permits mint = now.permits mint) ∧
    (∀ later, now.isRestricted = true → (now.run later).isRestricted = false →
      ∃ s ∈ now.taken later, s = .replace [] ∨ ∃ given?, s = .make given? ∧ s.mints = []) ∧
    FirstOccurrences last.mints now.mints ∧
    (now.isRestricted = true ↔ last.mints ≠ []) ∧
    ∀ mint, (now.permits mint = true ↔ last.mints = [] ∨ mint ∈ last.mints) ∧
      now.require mint = if last.mints = [] ∨ mint ∈ last.mints then .ok ()
        else .error (.refusal (.mintNotAllowed mint)) := by
  intro now last
  obtain ⟨-, hmade⟩ := ofList_eq_ok_iff.1 ((made_eq_ofList _).symm.trans h)
  have hnow : now.mints = last.mints.eraseDups := mints_run (congrArg Allowlist.mints hmade) steps
  refine ⟨fun s => step_eq_ok_iff, fun s hs kept => ?_, fun s f hs => ?_,
    fun later hbefore hafter => ?_, eraseDups_eq_iff.1 hnow.symm, isRestricted_iff_of_given hnow,
    fun mint => ⟨permits_iff_of_given hnow, ?_⟩⟩
  · rw [step_of_le now (step_eq_ok_iff.1 hs)]
    exact eraseDups_eq_iff
  · obtain ⟨hf, hsame⟩ := step_of_error hs
    rw [hsame]
    exact ⟨hf, rfl, fun _ => rfl⟩
  · obtain ⟨s, hs, hnone⟩ := exists_taken_of_run hnow hbefore hafter
    refine ⟨s, hs, ?_⟩
    cases s with
    | make given? => exact .inr ⟨given?, rfl, hnone⟩
    | replace mints => exact .inl (congrArg AllowlistStep.replace hnone)
  · rw [require_eq]
    exact if_congr (permits_iff.symm.trans (permits_iff_of_given hnow)) rfl rfl

/-- One mint that is given nine times is refused, and what was given before stays in force. -/
theorem permits_what_was_last_given_refused :
    let steps : List AllowlistStep := [.replace ["b", "a", "b"], .replace (List.replicate 9 "c")]
    ∃ a, (AllowlistStep.make (some ["a"])).made = .ok a ∧ (a.run steps).mints = ["b", "a"] ∧
      (a.run steps).permits "b" = true ∧ (a.run steps).permits "c" = false ∧
      ((a.run steps).step (.replace (List.replicate 9 "c"))).1 ≠ .ok () ∧
      ((a.run steps).step (.replace ["c", "c"])).2.mints = ["c"] := by
  intro steps
  have hmade : (AllowlistStep.make (some ["a"])).made = .ok ⟨["a"]⟩ := rfl
  obtain ⟨hfits, hholds, -, -, hnow, -, hpermits⟩ := permits_what_was_last_given hmade steps
  have hlast : ((taken ⟨["a"]⟩ steps).getLastD (.make (some ["a"]))).mints = ["b", "a", "b"] := rfl
  rw [hlast] at hnow
  refine ⟨_, hmade, (eraseDups_eq_iff.2 hnow).symm.trans (by decide), ?_, ?_, ?_, ?_⟩
  · exact (hpermits "b").1.2 (.inr (by rw [hlast]; decide))
  · rw [← Bool.not_eq_true, (hpermits "c").1, hlast]
    decide
  · exact fun hok => absurd ((hfits _).1 hok) (by decide)
  · exact (hholds _ ((hfits _).2 (by decide)) ["c"]).2 (eraseDups_eq_iff.1 (by decide))

end Allowlist

end Keyring
