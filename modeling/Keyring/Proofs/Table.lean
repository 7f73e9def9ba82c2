import Keyring.Json.Basic
import Mathlib.Algebra.Ring.Int.Defs

/-!
# Tables

A table is a list of names with values. Its names are distinct when each of them was put there by
`putField`, and a lookup then gives the value of an entry.
-/

namespace Keyring

variable {α β γ δ : Type} [DecidableEq α] [DecidableEq γ] {k : α} {v : β} {t : List (α × β)}

theorem mem_of_field? (h : field? k t = some v) : (k, v) ∈ t := by
  induction t with
  | nil => cases h
  | cons f t ih =>
      rw [field?] at h
      split at h
      next heq =>
        obtain rfl := Option.some.inj h
        rw [← heq]
        exact List.mem_cons_self
      next => exact List.mem_cons_of_mem f (ih h)

theorem field?_eq_none_iff : field? k t = none ↔ k ∉ t.map Prod.fst := by
  induction t with
  | nil => simp [field?]
  | cons f t ih =>
      rw [field?, List.map_cons, List.mem_cons, not_or]
      split
      next heq => simp [heq]
      next hne => rw [ih]; exact ⟨fun h => ⟨Ne.symm hne, h⟩, fun h => h.2⟩

theorem field?_of_mem (hnd : (t.map Prod.fst).Nodup) (h : (k, v) ∈ t) : field? k t = some v := by
  induction t with
  | nil => cases h
  | cons f t ih =>
      rw [List.map_cons, List.nodup_cons] at hnd
      rcases List.mem_cons.1 h with rfl | h
      · rw [field?, if_pos rfl]
      · have hne : f.1 ≠ k := fun heq => hnd.1 (heq ▸ List.mem_map_of_mem (f := Prod.fst) h)
        rw [field?, if_neg hne, ih hnd.2 h]

theorem field?_append (k : α) (t u : List (α × β)) :
    field? k (t ++ u) = (field? k t).or (field? k u) := by
  induction t with
  | nil => rfl
  | cons f t ih =>
      rw [List.cons_append, field?, field?]
      split
      next => rfl
      next => exact ih

/-- A lookup among the entries with certain names. -/
theorem field?_filter (p : α → Bool) (k : α) (t : List (α × β)) :
    field? k (t.filter fun e => p e.1) = if p k then field? k t else none := by
  induction t with
  | nil => simp [field?]
  | cons f t ih =>
      rw [List.filter_cons, field?]
      by_cases hk : f.1 = k
      · by_cases hp : p k <;> simp [hk, hp, ih, field?]
      · by_cases hp : p f.1 <;> simp [hk, hp, ih, field?]

/-- Dropping the entry of another name does not touch a lookup. -/
theorem field?_filter_ne {j : α} (hjk : k ≠ j) (t : List (α × β)) :
    field? k (t.filter fun e => e.1 != j) = field? k t := by
  rw [field?_filter (· != j), if_pos (by simpa using hjk)]

/-! ## Putting -/

theorem putField_of_not_mem (hk : k ∉ t.map Prod.fst) : putField k v t = t ++ [(k, v)] := by
  induction t with
  | nil => rfl
  | cons f t ih =>
      simp only [List.map_cons, List.mem_cons, not_or] at hk
      rw [putField, if_neg (Ne.symm hk.1), ih hk.2, List.cons_append]

theorem field?_putField (j k : α) (v : β) (t : List (α × β)) :
    field? j (putField k v t) = if j = k then some v else field? j t := by
  induction t with
  | nil => simp [putField, field?, eq_comm]
  | cons f t ih =>
      rw [putField]
      by_cases hf : f.1 = k
      · rw [if_pos hf, field?, field?, hf]
        by_cases hj : k = j
        · rw [if_pos hj, if_pos hj.symm]
        · rw [if_neg hj, if_neg (Ne.symm hj), if_neg hj]
      · rw [if_neg hf, field?, field?, ih]
        by_cases hj : f.1 = j
        · rw [if_pos hj, if_pos hj, if_neg fun h => hf (hj.trans h)]
        · rw [if_neg hj, if_neg hj]

theorem mem_putField {e : α × β} (h : e ∈ putField k v t) : e = (k, v) ∨ e ∈ t := by
  induction t with
  | nil => exact .inl (List.mem_singleton.1 h)
  | cons f t ih =>
      rw [putField] at h
      split at h
      next => exact (List.mem_cons.1 h).imp_right (List.mem_cons_of_mem f)
      next =>
        rcases List.mem_cons.1 h with rfl | h
        · exact .inr List.mem_cons_self
        · exact (ih h).imp_right (List.mem_cons_of_mem f)

theorem map_fst_putField (hk : k ∈ t.map Prod.fst) :
    (putField k v t).map Prod.fst = t.map Prod.fst := by
  induction t with
  | nil => cases hk
  | cons f t ih =>
      rw [putField]
      split
      next heq => rw [List.map_cons, List.map_cons, heq]
      next hne =>
        rw [List.map_cons, List.mem_cons] at hk
        rw [List.map_cons, List.map_cons, ih (hk.resolve_left (Ne.symm hne))]

theorem map_fst_putField_eq (k : α) (v : β) (t : List (α × β)) :
    (putField k v t).map Prod.fst =
      if k ∈ t.map Prod.fst then t.map Prod.fst else t.map Prod.fst ++ [k] := by
  split
  next hk => exact map_fst_putField hk
  next hk =>
    rw [putField_of_not_mem hk, List.map_append]
    rfl

theorem nodup_putField (hnd : (t.map Prod.fst).Nodup) (k : α) (v : β) :
    ((putField k v t).map Prod.fst).Nodup := by
  by_cases hk : k ∈ t.map Prod.fst
  · rw [map_fst_putField hk]
    exact hnd
  · rw [putField_of_not_mem hk, List.map_append, List.nodup_append]
    refine ⟨hnd, List.pairwise_singleton _ _, ?_⟩
    rintro x hx y hy rfl
    obtain rfl : x = k := List.mem_singleton.1 hy
    exact hk hx

theorem putField_putField (k : α) (u v : β) (t : List (α × β)) :
    putField k v (putField k u t) = putField k v t := by
  induction t with
  | nil => simp [putField]
  | cons f t ih =>
      rw [putField, putField]
      split
      next => rw [putField, if_pos rfl]
      next hf => rw [putField, if_neg hf, ih]

theorem putField_of_field? (h : field? k t = some v) : putField k v t = t := by
  induction t with
  | nil => cases h
  | cons f t ih =>
      rw [field?] at h
      rw [putField]
      split
      next hk =>
        rw [if_pos hk] at h
        rw [← hk, ← Option.some.inj h]
      next hk =>
        rw [if_neg hk] at h
        rw [ih h]

/-- Under two names entries are put in either order, but for the order in which new ones stand. -/
theorem putField_comm {j : α} (hjk : j ≠ k) (u v : β) (t : List (α × β)) :
    (putField j u (putField k v t)).Perm (putField k v (putField j u t)) := by
  induction t with
  | nil =>
      simp only [putField, if_neg hjk, if_neg hjk.symm]
      exact List.Perm.swap _ _ _
  | cons f t ih =>
      by_cases hj : f.1 = j
      · have hk : f.1 ≠ k := fun h => hjk (hj.symm.trans h)
        simp only [putField, if_pos hj, if_neg hk, if_neg hjk]
        exact List.Perm.refl _
      · by_cases hk : f.1 = k
        · simp only [putField, if_neg hj, if_pos hk, if_neg hjk.symm]
          exact List.Perm.refl _
        · simp only [putField, if_neg hj, if_neg hk]
          exact List.Perm.cons f ih

/-- An entry that is there is replaced where it stands. -/
theorem putField_comm_of_mem {j : α} (hjk : j ≠ k) (hj : j ∈ t.map Prod.fst) (u v : β) :
    putField j u (putField k v t) = putField k v (putField j u t) := by
  induction t with
  | nil => cases hj
  | cons f t ih =>
      by_cases hf : f.1 = j
      · have hk : f.1 ≠ k := fun h => hjk (hf.symm.trans h)
        simp only [putField, if_pos hf, if_neg hk, if_neg hjk]
      · have hrest : j ∈ t.map Prod.fst :=
          (List.mem_cons.1 hj).resolve_left fun h => hf h.symm
        by_cases hk : f.1 = k
        · simp only [putField, if_neg hf, if_pos hk, if_neg hjk.symm]
        · simp only [putField, if_neg hf, if_neg hk, ih hrest]

/-- An entry that is dropped does not matter. -/
theorem filter_putField_self (k : α) (v : β) (t : List (α × β)) :
    (putField k v t).filter (fun e => e.1 != k) = t.filter fun e => e.1 != k := by
  induction t with
  | nil => simp [putField]
  | cons f t ih =>
      rw [putField]
      split
      next hf => simp [hf]
      next hf => rw [List.filter_cons, List.filter_cons, ih]

/-- Entries of other names may be dropped before or after one is put. -/
theorem filter_putField {p : α × β → Bool} (hp : ∀ f : α × β, f.1 = k → p f = true)
    (t : List (α × β)) : (putField k v t).filter p = putField k v (t.filter p) := by
  induction t with
  | nil => simp [putField, hp (k, v) rfl]
  | cons f t ih =>
      by_cases hf : f.1 = k
      · rw [putField, if_pos hf, List.filter_cons_of_pos (hp (k, v) rfl),
          List.filter_cons_of_pos (hp f hf), putField, if_pos hf]
      · rw [putField, if_neg hf, List.filter_cons, List.filter_cons, ih]
        split
        next => rw [putField, if_neg hf]
        next => rfl

theorem tabulate_of_nodup (ht : (t.map Prod.fst).Nodup) : tabulate t = t := by
  have hfold : ∀ us ts : List (α × β), ((ts ++ us).map Prod.fst).Nodup →
      us.foldl (fun t f => putField f.1 f.2 t) ts = ts ++ us := by
    intro us
    induction us with
    | nil => simp
    | cons f us ih =>
        intro ts hnd
        have hf : f.1 ∉ ts.map Prod.fst := by
          intro hmem
          rw [List.map_append, List.nodup_append] at hnd
          exact hnd.2.2 _ hmem f.1 (by simp) rfl
        rw [List.foldl_cons, putField_of_not_mem hf, ih]
        · simp
        · simpa using hnd
  exact hfold t [] (by simpa using ht)

theorem sum_putField (g : β → Int) (k : α) (v : β) (t : List (α × β)) :
    ((putField k v t).map fun e => g e.2).sum =
      (t.map fun e => g e.2).sum - (field? k t).elim 0 g + g v := by
  induction t with
  | nil => simp [putField, field?]
  | cons f t ih =>
      rw [putField, field?]
      split
      next =>
        simp only [List.map_cons, List.sum_cons, Option.elim_some]
        omega
      next =>
        simp only [List.map_cons, List.sum_cons, ih]
        omega

/-! ## What came last -/

/-- The last of what the entries of a list give, if any of them gives something. -/
def latest? {σ τ : Type} (f : σ → Option τ) (xs : List σ) : Option τ := (xs.filterMap f).getLast?

theorem latest?_append {σ τ : Type} (f : σ → Option τ) (xs : List σ) (x : σ) :
    latest? f (xs ++ [x]) = (f x).or (latest? f xs) := by
  rw [latest?, List.filterMap_append, List.filterMap_cons, List.filterMap_nil]
  cases f x with
  | none => simp [latest?]
  | some y => simp

/-! ## Other names -/

section Rename

variable {g : α → γ} {w : α × β → δ}

/-- A lookup under another name, if it is the other name of no other entry. -/
theorem field?_map (hg : ∀ e ∈ t, g e.1 = g k → e.1 = k) :
    field? (g k) (t.map fun e => (g e.1, w e)) = (field? k t).map fun v => w (k, v) := by
  induction t with
  | nil => rfl
  | cons f t ih =>
      have ht := ih fun e he => hg e (List.mem_cons_of_mem f he)
      rw [List.map_cons, field?, field?]
      by_cases hf : f.1 = k
      · rw [if_pos (congrArg g hf), if_pos hf, ← hf]
        rfl
      · rw [if_neg fun h => hf (hg f List.mem_cons_self h), if_neg hf, ht]

/-- Where all names are other names of some, a new one is put after them. -/
theorem map_fst_putField_map {β : Type} {t : List (γ × β)} {ps : List α}
    (hg : ∀ p q, g p = g q → p = q) (ht : t.map Prod.fst = ps.map g) (p : α) (v : β) :
    (putField (g p) v t).map Prod.fst = (if p ∈ ps then ps else ps ++ [p]).map g := by
  have hmem : g p ∈ ps.map g ↔ p ∈ ps := by
    constructor
    · intro h
      obtain ⟨q, hq, hqp⟩ := List.mem_map.1 h
      exact hg q p hqp ▸ hq
    · exact List.mem_map_of_mem
  rw [map_fst_putField_eq, ht]
  by_cases hp : p ∈ ps
  · rw [if_pos (hmem.2 hp), if_pos hp]
  · rw [if_neg fun h => hp (hmem.1 h), if_neg hp, List.map_append]
    rfl

theorem putField_map (hg : ∀ e ∈ t, g e.1 = g k → e.1 = k) :
    putField (g k) (w (k, v)) (t.map fun e => (g e.1, w e)) =
      (putField k v t).map fun e => (g e.1, w e) := by
  induction t with
  | nil => rfl
  | cons f t ih =>
      have ht := ih fun e he => hg e (List.mem_cons_of_mem f he)
      rw [List.map_cons, putField, putField]
      by_cases hf : f.1 = k
      · rw [if_pos (congrArg g hf), if_pos hf]
        rfl
      · rw [if_neg fun h => hf (hg f List.mem_cons_self h), if_neg hf, ht]
        rfl

end Rename

end Keyring
