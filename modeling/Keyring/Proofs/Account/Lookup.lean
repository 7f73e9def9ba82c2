import Keyring.Proofs.Account.Codec

/-!
# Looking up session keys

In a registry of distinct identities the key of an identity is the one that a lookup gives. What
each change of a registry does to it is stated here as what a lookup gives afterwards.
-/

namespace Keyring.Registry

variable {r : Registry} {key : String} {k : SessionKey}

theorem find?_eq_none_iff : r.find? key = none ↔ key ∉ r.keys.map SessionKey.identity := by
  simp [find?, List.find?_eq_none]

theorem identity_of_find? (h : r.find? key = some k) : k.identity = key := by
  simpa using List.find?_some h

theorem mem_of_find? (h : r.find? key = some k) : k ∈ r.keys :=
  List.mem_of_find?_eq_some h

theorem find?_of_mem (hnd : (r.keys.map SessionKey.identity).Nodup) (hk : k ∈ r.keys) :
    r.find? k.identity = some k := by
  unfold find?
  generalize r.keys = ks at hnd hk
  induction ks with
  | nil => cases hk
  | cons l ks ih =>
      rw [List.map_cons, List.nodup_cons] at hnd
      rcases List.mem_cons.1 hk with rfl | hk
      · simp
      · have hne : l.identity ≠ k.identity := fun heq =>
          hnd.1 (heq ▸ List.mem_map_of_mem (f := SessionKey.identity) hk)
        rw [List.find?_cons_of_neg (by simpa using hne)]
        exact ih hnd.2 hk

theorem find?_eq_some_iff (hnd : (r.keys.map SessionKey.identity).Nodup) :
    r.find? key = some k ↔ k ∈ r.keys ∧ k.identity = key := by
  constructor
  · exact fun h => ⟨mem_of_find? h, identity_of_find? h⟩
  · rintro ⟨hk, rfl⟩
    exact find?_of_mem hnd hk

theorem contains_iff_find? : r.contains key = true ↔ ∃ k, r.find? key = some k := by
  rw [contains, List.any_eq_true, ← List.find?_isSome, Option.isSome_iff_exists]
  rfl

theorem get_eq_ok_iff : r.get key = .ok k ↔ r.find? key = some k := by
  rw [get]
  cases r.find? key with
  | none => simp
  | some l => simp

/-! ## Adding -/

theorem add_eq_ok_iff {r' : Registry} : r.add k = .ok r' ↔
    (r.size : Int) < r.capacity ∧ r.find? k.identity = none ∧
      r' = { r with keys := r.keys ++ [k] } := by
  rw [find?_eq_none_iff, ← contains_iff, add]
  by_cases hfull : r.isFull = true
  · rw [if_pos hfull]
    rw [isFull, decide_eq_true_eq] at hfull
    simp [Int.not_lt.2 hfull]
  · rw [if_neg hfull]
    rw [isFull, decide_eq_true_eq, Int.not_le] at hfull
    cases hk : r.contains k.identity with
    | true => simp
    | false => simp [hfull, eq_comm]

/-- Whether the identity is new is not looked at when there is no room. -/
theorem add_of_full (h : r.capacity ≤ r.size) :
    r.add k = .error (.refusal (.tooManyKeys r.capacity)) := by
  rw [add, if_pos (by rw [isFull, decide_eq_true_eq]; exact h)]

theorem add_of_taken (hroom : r.size < r.capacity) (h : ∃ l ∈ r.keys, l.identity = k.identity) :
    r.add k = .error (.refusal (.keyExists k.identity)) := by
  have hcontains : r.contains k.identity = true := contains_iff.2 (List.mem_map.2 h)
  rw [add, if_neg (by rw [isFull, decide_eq_true_eq]; exact Int.not_le.2 hroom), if_pos hcontains]

theorem add_of_new (hroom : r.size < r.capacity) (h : ∀ l ∈ r.keys, l.identity ≠ k.identity) :
    r.add k = .ok { r with keys := r.keys ++ [k] } := by
  refine add_eq_ok_iff.2 ⟨hroom, find?_eq_none_iff.2 fun hmem => ?_, rfl⟩
  obtain ⟨l, hl, hid⟩ := List.mem_map.1 hmem
  exact h l hl hid

theorem add_eq_error_iff : (∃ f, r.add k = .error f) ↔
    r.capacity ≤ r.size ∨ ∃ l ∈ r.keys, l.identity = k.identity := by
  constructor
  · rintro ⟨f, hf⟩
    by_contra hfits
    obtain ⟨hroom, hnew⟩ := not_or.1 hfits
    rw [add_of_new (Int.not_le.1 hroom) fun l hl hid => hnew ⟨l, hl, hid⟩] at hf
    cases hf
  · intro h
    by_cases hfull : r.capacity ≤ r.size
    · exact ⟨_, add_of_full hfull⟩
    · exact ⟨_, add_of_taken (Int.not_le.1 hfull) (h.resolve_left hfull)⟩

theorem find?_append (j : String) (hk : r.find? k.identity = none) :
    ({ r with keys := r.keys ++ [k] } : Registry).find? j =
      if j = k.identity then some k else r.find? j := by
  by_cases hj : j = k.identity
  · subst hj
    rw [if_pos rfl, find?, List.find?_append, show r.keys.find? _ = none from hk]
    simp
  · rw [if_neg hj, find?, List.find?_append, List.find?_cons_of_neg (by simpa using Ne.symm hj),
      List.find?_nil, Option.or_none]
    rfl

/-! ## Changing one key -/

section Modify

variable {f : SessionKey → SessionKey}

theorem map_identity_modifyKey (hf : ∀ k, k.identity = key → (f k).identity = key)
    (ks : List SessionKey) :
    (modifyKey key f ks).map SessionKey.identity = ks.map SessionKey.identity := by
  induction ks with
  | nil => rfl
  | cons l ks ih =>
      rw [modifyKey]
      split
      next hl => rw [List.map_cons, List.map_cons, hf l hl, hl]
      next => rw [List.map_cons, List.map_cons, ih]

theorem find?_modify (hf : ∀ k, k.identity = key → (f k).identity = key) (r : Registry)
    (j : String) :
    (r.modify key f).find? j = if j = key then (r.find? j).map f else r.find? j := by
  obtain ⟨capacity, ks⟩ := r
  simp only [modify, find?]
  induction ks with
  | nil => simp [modifyKey]
  | cons l ks ih =>
      rw [modifyKey]
      by_cases hl : l.identity = key
      · rw [if_pos hl]
        by_cases hj : j = key
        · simp [hj, hl, hf l hl]
        · have hlj : key ≠ j := Ne.symm hj
          rw [if_neg hj, List.find?_cons_of_neg (by simp [hf l hl, hlj]),
            List.find?_cons_of_neg (by simp [hl, hlj])]
      · rw [if_neg hl]
        by_cases hj : l.identity = j
        · simp [hj, show j ≠ key from fun h => hl (hj.trans h)]
        · rw [List.find?_cons_of_neg (by simpa using hj), ih,
            List.find?_cons_of_neg (by simpa using hj)]

theorem find?_modify_self (hf : ∀ k, k.identity = key → (f k).identity = key)
    (h : r.find? key = some k) : (r.modify key f).find? key = some (f k) := by
  rw [find?_modify hf, if_pos rfl, h, Option.map_some]

theorem mem_modifyKey {l : SessionKey} {ks : List SessionKey} (hl : l ∈ modifyKey key f ks) :
    ∃ k ∈ ks, l = k ∨ l = f k := by
  induction ks with
  | nil => cases hl
  | cons k ks ih =>
      rw [modifyKey] at hl
      split at hl
      next =>
        rcases List.mem_cons.1 hl with rfl | hl
        · exact ⟨k, List.mem_cons_self, .inr rfl⟩
        · exact ⟨l, List.mem_cons_of_mem k hl, .inl rfl⟩
      next =>
        rcases List.mem_cons.1 hl with rfl | hl
        · exact ⟨l, List.mem_cons_self, .inl rfl⟩
        · obtain ⟨k', hk', h⟩ := ih hl
          exact ⟨k', List.mem_cons_of_mem k hk', h⟩

/-- Only the key that a lookup gives is changed. -/
theorem modify_const (h : r.find? key = some k) :
    r.modify key (fun _ => f k) = r.modify key f := by
  obtain ⟨capacity, ks⟩ := r
  simp only [modify, find?] at h ⊢
  congr 1
  induction ks with
  | nil => rfl
  | cons l ks ih =>
      by_cases hl : l.identity = key
      · have hlk : l = k := by simpa [hl] using h
        rw [modifyKey, modifyKey, if_pos hl, if_pos hl, hlk]
      · rw [List.find?_cons_of_neg (by simpa using hl)] at h
        rw [modifyKey, modifyKey, if_neg hl, if_neg hl, ih h]

/-- A key that is put in its own place changes nothing. -/
theorem modify_of_find? (h : r.find? key = some k) : r.modify key (fun _ => k) = r := by
  have hid : r.modify key (fun _ => k) = r.modify key id := modify_const (f := id) h
  rw [hid]
  obtain ⟨capacity, ks⟩ := r
  simp only [modify]
  congr 1
  clear h hid
  induction ks with
  | nil => rfl
  | cons l ks ih => rw [modifyKey, ih, id, ite_self]

/-- Of two changes of one key the second finds what the first has made of it. -/
theorem modify_modify {g : SessionKey → SessionKey}
    (hf : ∀ k, k.identity = key → (f k).identity = key) (r : Registry) :
    (r.modify key f).modify key g = r.modify key fun k => g (f k) := by
  obtain ⟨capacity, ks⟩ := r
  simp only [modify]
  congr 1
  induction ks with
  | nil => rfl
  | cons l ks ih =>
      by_cases hl : l.identity = key
      · simp only [modifyKey, if_pos hl, if_pos (hf l hl)]
      · simp only [modifyKey, if_neg hl, ih]

end Modify

/-! ## Changing all keys -/

theorem find?_revokeAll (r : Registry) (j : String) :
    r.revokeAll.find? j = (r.find? j).map SessionKey.revoke := by
  rw [find?, revokeAll, List.find?_map]
  rfl

theorem find?_retain (hnd : (r.keys.map SessionKey.identity).Nodup) (p : SessionKey → Bool)
    (j : String) : (r.retain p).2.find? j = (r.find? j).filter p := by
  obtain ⟨capacity, ks⟩ := r
  simp only [retain, find?] at hnd ⊢
  induction ks with
  | nil => rfl
  | cons l ks ih =>
      rw [List.map_cons, List.nodup_cons] at hnd
      have hks := ih hnd.2
      by_cases hl : l.identity = j
      · have hnone : ks.find? (·.identity == j) = none :=
          find?_eq_none_iff (r := ⟨capacity, ks⟩).2 (hl ▸ hnd.1)
        cases hp : p l with
        | true => simp [hp, hl, Option.filter]
        | false =>
            rw [List.filter_cons_of_neg (by simp [hp]), hks, hnone,
              List.find?_cons_of_pos (by simpa using hl)]
            simp [hp, Option.filter]
      · rw [List.find?_cons_of_neg (by simpa using hl), ← hks, List.filter_cons]
        split
        next => rw [List.find?_cons_of_neg (by simpa using hl)]
        next => rfl

end Keyring.Registry
