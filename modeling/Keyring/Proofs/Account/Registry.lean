import Keyring.Proofs.Account.Amendment
import Keyring.Proofs.Account.Built

/-!
# A registry in use

A registry starts with the keys that it accepts. From then on keys are added, thinned out, revoked
and looked up, in any order, by steps that may fail. What it holds at the end can be told from what
it was given: each key that was accepted is followed through the steps that came after it, and those
that outlast them stand in the order in which they were accepted (`keys_run`).
-/

namespace Keyring

inductive RegistryStep where
  | add (k : SessionKey)
  | retain (p : SessionKey → Bool)
  | revoke (key : String)
  | find (key : String)
  | contains (key : String)

inductive RegistryAnswer where
  | done
  | removed (ks : List SessionKey)
  | found (k? : Option SessionKey)
  | held (b : Bool)

namespace RegistryStep

/-- What a step makes of a key that is there: the key after it, or none when the key goes. -/
def onKey (s : RegistryStep) (k : SessionKey) : Option SessionKey :=
  match s with
  | .retain p => Option.guard p k
  | .revoke key => some (if k.identity = key then k.revoke else k)
  | _ => some k

def followed (k : SessionKey) (steps : List RegistryStep) : Option SessionKey :=
  steps.foldlM (fun k s => s.onKey k) k

theorem followed_cons (k : SessionKey) (s : RegistryStep) (steps : List RegistryStep) :
    followed k (s :: steps) = (s.onKey k).bind fun k => followed k steps :=
  List.foldlM_cons

end RegistryStep

namespace Registry

open RegistryStep

def step (r : Registry) : RegistryStep → Outcome RegistryAnswer × Registry
  | .add k =>
    match r.add k with
    | .error f => (.error f, r)
    | .ok r => (.ok .done, r)
  | .retain p => (.ok (.removed (r.retain p).1), (r.retain p).2)
  | .revoke key =>
    match r.get key with
    | .error f => (.error f, r)
    | .ok _ => (.ok .done, r.modify key SessionKey.revoke)
  | .find key => (.ok (.found (r.find? key)), r)
  | .contains key => (.ok (.held (r.contains key)), r)

def run (r : Registry) (steps : List RegistryStep) : Registry :=
  steps.foldl (fun r s => (r.step s).2) r

def added? (r : Registry) : RegistryStep → Option SessionKey
  | .add k =>
    match r.add k with
    | .error _ => none
    | .ok _ => some k
  | _ => none

def additions (r : Registry) : List RegistryStep → List (SessionKey × List RegistryStep)
  | [] => []
  | s :: steps => (r.added? s).toList.map (·, steps) ++ (r.step s).2.additions steps

variable {r r' : Registry} {k : SessionKey} {key : String} {s : RegistryStep} {f : Fault}

/-! ## One step -/

theorem step_of_error (h : (r.step s).1 = .error f) : (r.step s).2 = r := by
  cases s with
  | add k =>
      rw [step] at h ⊢
      cases hadd : r.add k with
      | error f => rfl
      | ok r' => rw [hadd] at h; cases h
  | revoke key =>
      rw [step] at h ⊢
      cases hget : r.get key with
      | error f => rfl
      | ok k => rw [hget] at h; cases h
  | _ => cases h

theorem capacity_step (r : Registry) (s : RegistryStep) : (r.step s).2.capacity = r.capacity := by
  cases s with
  | add k =>
      rw [step]
      cases hadd : r.add k with
      | error f => rfl
      | ok r' =>
          obtain ⟨-, -, rfl⟩ := add_eq_ok_iff.1 hadd
          rfl
  | revoke key =>
      rw [step]
      cases r.get key <;> rfl
  | _ => rfl

theorem Built.step (h : r.Built) (s : RegistryStep) : (r.step s).2.Built := by
  cases s with
  | add k =>
      rw [Registry.step]
      cases hadd : r.add k with
      | error f => exact h
      | ok r' => exact h.add k.built hadd
  | retain p => exact h.retain p
  | revoke key =>
      rw [Registry.step]
      cases hget : r.get key with
      | error f => exact h
      | ok k =>
          have hassign : k.assign (.state .revoked) = .ok k.revoke :=
            SessionKey.assign_state_eq_ok_iff.2 ⟨fun _ => rfl, rfl⟩
          have hmodify := modify_const (f := SessionKey.revoke) (get_eq_ok_iff.1 hget)
          exact hmodify ▸ h.assign hget hassign
  | find key => exact h
  | contains key => exact h

/-- A step makes something of each key that is there, and puts what it adds behind them. -/
theorem keys_step (h : r.Built) (s : RegistryStep) :
    (r.step s).2.keys = r.keys.filterMap s.onKey ++ (r.added? s).toList := by
  have hkept (hs : s.onKey = some) : r.keys.filterMap s.onKey = r.keys := by
    rw [hs, List.filterMap_some]
  cases s with
  | add k =>
      rw [step, added?, hkept rfl]
      cases hadd : r.add k with
      | error f => exact (List.append_nil _).symm
      | ok r' =>
          obtain ⟨-, -, rfl⟩ := add_eq_ok_iff.1 hadd
          rfl
  | retain p => exact (congrFun List.filterMap_eq_filter.symm r.keys).trans (List.append_nil _).symm
  | revoke key =>
      have hmap : r.keys.filterMap (RegistryStep.revoke key).onKey =
          r.keys.map fun k => if k.identity = key then k.revoke else k :=
        congrFun List.filterMap_eq_map r.keys
      rw [hmap]
      refine Eq.trans ?_ (List.append_nil _).symm
      rw [step]
      cases hget : r.get key with
      | error f =>
          have hnone : key ∉ r.keys.map SessionKey.identity := by
            rw [← find?_eq_none_iff, Option.eq_none_iff_forall_ne_some]
            rintro k hk
            rw [get_eq_ok_iff.2 hk] at hget
            cases hget
          have hsame : ∀ k ∈ r.keys, (if k.identity = key then k.revoke else k) = id k := by
            intro k hk
            refine if_neg ?_
            rintro rfl
            exact hnone (List.mem_map_of_mem hk)
          exact ((List.map_congr_left hsame).trans (List.map_id _)).symm
      | ok k => exact modifyKey_eq_map h.bounded.nodup
  | find key => exact ((List.append_nil _).trans (hkept rfl)).symm
  | contains key => exact ((List.append_nil _).trans (hkept rfl)).symm

/-! ## Sequences of steps -/

theorem capacity_run (r : Registry) (steps : List RegistryStep) :
    (r.run steps).capacity = r.capacity := by
  induction steps generalizing r with
  | nil => rfl
  | cons s steps ih => exact (ih (r.step s).2).trans (capacity_step r s)

theorem Built.run (h : r.Built) (steps : List RegistryStep) : (r.run steps).Built := by
  induction steps generalizing r with
  | nil => exact h
  | cons s steps ih => exact ih (h.step s)

theorem keys_run (h : r.Built) (steps : List RegistryStep) :
    (r.run steps).keys = (r.keys.map (·, steps) ++ r.additions steps).filterMap
      fun e => followed e.1 e.2 := by
  induction steps generalizing r with
  | nil =>
      rw [additions, List.append_nil, List.filterMap_map]
      exact List.filterMap_some.symm
  | cons s steps ih =>
      have hfollowed : r.keys.filterMap (fun k => followed k (s :: steps)) =
          (r.keys.filterMap s.onKey).filterMap fun k => followed k steps := by
        rw [List.filterMap_filterMap]
        exact List.filterMap_congr fun k _ => followed_cons k s steps
      calc ((r.step s).2.run steps).keys
          = ((r.step s).2.keys.map (·, steps) ++ (r.step s).2.additions steps).filterMap
              fun e => followed e.1 e.2 := ih (h.step s)
        _ = (r.keys.map (·, s :: steps) ++ r.additions (s :: steps)).filterMap
              fun e => followed e.1 e.2 := by
            rw [keys_step h, additions, List.map_append, List.append_assoc, List.filterMap_append,
              List.filterMap_append (l := r.keys.map _), List.filterMap_map, List.filterMap_map]
            exact congrArg (· ++ _) hfollowed.symm

/-- A registry that is made is filled with the keys that it was given, in order. -/
theorem of_addAll {ks : List SessionKey} (hr : r.Built) (h : r.addAll ks = .ok r') :
    r'.Built ∧ r'.capacity = r.capacity ∧ r'.keys = r.keys ++ ks := by
  induction ks generalizing r with
  | nil =>
      obtain rfl := Except.ok.inj h
      exact ⟨hr, rfl, (List.append_nil _).symm⟩
  | cons k ks ih =>
      rw [addAll] at h
      cases hadd : r.add k with
      | error f => rw [hadd] at h; cases h
      | ok r₁ =>
          rw [hadd] at h
          obtain ⟨hbuilt, hcapacity, hkeys⟩ := ih (hr.add k.built hadd) h
          obtain ⟨-, -, rfl⟩ := add_eq_ok_iff.1 hadd
          exact ⟨hbuilt, hcapacity, by rw [hkeys, List.append_assoc]; rfl⟩

/-- What holds of a registry of any capacity, made from keys that it accepts, after any steps. No
identity is there twice, and there are no more keys than the capacity allows. They are those that
outlast the steps after their addition, in the order of their addition. The two ways to look for an
identity agree, and find the only key of it. A key is refused just when there is no room, which is
reported first, or its identity is taken, and is put last otherwise. A step that fails changes
nothing. What is retained and what is given along are each in their former order, and together all
that was there. -/
theorem accounted_for {capacity : Int} {ks : List SessionKey} {r : Registry}
    (h : (empty capacity).addAll ks = .ok r) (steps : List RegistryStep) :
    let now := r.run steps
    (now.keys.map SessionKey.identity).Nodup ∧
    (now.size : Int) ≤ max capacity 0 ∧
    now.keys = (ks.map (·, steps) ++ r.additions steps).filterMap (fun e => followed e.1 e.2) ∧
    (∀ key, now.contains key = true ↔ ∃ k, now.find? key = some k) ∧
    (∀ key k, now.find? key = some k → ∀ l, (l ∈ now.keys ∧ l.identity = key) ↔ l = k) ∧
    (∀ k, ((∃ f, now.add k = .error f) ↔
        capacity ≤ now.size ∨ ∃ l ∈ now.keys, l.identity = k.identity) ∧
      (capacity ≤ now.size → now.add k = .error (.refusal (.tooManyKeys capacity))) ∧
      (now.size < capacity → (∃ l ∈ now.keys, l.identity = k.identity) →
        now.add k = .error (.refusal (.keyExists k.identity))) ∧
      ∀ r', now.add k = .ok r' → r' = ⟨capacity, now.keys ++ [k]⟩) ∧
    (∀ s f, (now.step s).1 = .error f → r.run (steps ++ [s]) = now) ∧
    ∀ p, (now.retain p).1.Sublist now.keys ∧ (now.retain p).2.keys.Sublist now.keys ∧
      ((now.retain p).2.keys ++ (now.retain p).1).Perm now.keys ∧
      (∀ k ∈ (now.retain p).1, p k = false) ∧ ∀ k ∈ (now.retain p).2.keys, p k = true := by
  intro now
  obtain ⟨hbuilt, hcapacity, hkeys⟩ := of_addAll (.empty capacity) h
  have hcap : now.capacity = capacity := (capacity_run r steps).trans hcapacity
  have hbounded : now.Bounded := (hbuilt.run steps).bounded
  have hfound (key : String) (l : SessionKey) :
      now.find? key = some l ↔ l ∈ now.keys ∧ l.identity = key := find?_eq_some_iff hbounded.nodup
  refine ⟨hbounded.nodup, ?_, ?_, fun key => contains_iff_find?, fun key k hk l => ?_,
    fun k => ⟨hcap ▸ add_eq_error_iff, fun hfull => ?_, fun hroom => ?_, fun r' hr' => ?_⟩,
    fun s f hs => ?_, fun p => ⟨List.filter_sublist, List.filter_sublist,
      List.filter_append_perm p now.keys, fun k hk => ?_, fun k hk => ?_⟩⟩
  · rcases hbounded.size with hnil | hsize
    · rw [size, hnil]
      exact le_max_right capacity 0
    · exact hsize.trans (hcap ▸ le_max_left capacity 0)
  · have hrun := keys_run hbuilt steps
    rwa [hkeys] at hrun
  · rw [← hfound, hk, Option.some.injEq]
    exact eq_comm
  · exact hcap ▸ add_of_full (hcap.symm ▸ hfull)
  · exact add_of_taken (hcap.symm ▸ hroom)
  · rw [← hcap]
    exact (add_eq_ok_iff.1 hr').2.2
  · rw [run, List.foldl_append]
    exact step_of_error hs
  · simpa using (List.mem_filter.1 hk).2
  · exact (List.mem_filter.1 hk).2

/-- Of three keys one finds no room and one is dropped and added again, behind the one that
is left. -/
theorem accounted_for_again :
    let k (key : String) : SessionKey := ⟨key, 0, 10, .time, {}, Label.blank, .active⟩
    let steps : List RegistryStep := [.add (k "2"), .add (k "3"), .retain (·.identity != "1"),
      .revoke "2", .add (k "1")]
    ∃ r, (empty 2).addAll [k "1"] = .ok r ∧ (r.run steps).keys = [(k "2").revoke, k "1"] ∧
      (r.run steps).add (k "2") = .error (.refusal (.tooManyKeys 2)) := by
  intro k steps
  have hmade : (empty 2).addAll [k "1"] = .ok ⟨2, [k "1"]⟩ := rfl
  obtain ⟨-, -, hkeys, -, -, hadd, -⟩ := accounted_for hmade steps
  have hnow : (Registry.run ⟨2, [k "1"]⟩ steps).keys = [(k "2").revoke, k "1"] := hkeys.trans rfl
  refine ⟨_, hmade, hnow, (hadd (k "2")).2.1 ?_⟩
  rw [size, hnow]
  decide

end Registry

end Keyring
