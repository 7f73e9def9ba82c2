import Keyring.Proofs.Engine.Amending
import Keyring.Proofs.Engine.Pruning

/-!
# Revoking and pruning

To revoke every key of an account is to revoke its keys one after the other, in any order. After any
of them some of the keys are as they will be in the end and the others as they were, which is
`revokedAt`. To revoke or to prune once more changes nothing, and pruning once every key is revoked
leaves none. Keys of different identities do not get in each other's way.
-/

namespace Keyring

open Outcome

/-! ## What is left of an account -/

namespace Account

variable {a : Account} {c : Reading} {key : String} {k : SessionKey} {ks : List String}

def revokedAt (ks : List String) (a : Account) : Account :=
  { a with keys := { a.keys with
    keys := a.keys.keys.map fun k => if k.identity ∈ ks then k.revoke else k } }

theorem revokedAt_nil (a : Account) : a.revokedAt [] = a := by
  simp [revokedAt]

theorem revokedAt_replaced (hnd : (a.keys.keys.map SessionKey.identity).Nodup)
    (hk : a.keys.find? key = some k) (ks : List String) :
    (a.replaced key k.revoke).revokedAt ks = a.revokedAt (key :: ks) := by
  have hone : a.keys.modify key (fun _ => k.revoke) = a.keys.modify key SessionKey.revoke :=
    Registry.modify_const hk
  rw [revokedAt, revokedAt, replaced, hone, Registry.modify, Registry.modifyKey_eq_map hnd]
  simp only [List.map_map]
  congr 2
  apply List.map_congr_left
  intro l _
  by_cases hl : l.identity = key <;> by_cases hmem : l.identity ∈ ks <;>
    simp [hl, hmem, SessionKey.revoke]

/-- Keys that are revoked already are what revoking them would make of them. -/
theorem revokedAt_eq_revokeAll (h : ∀ k ∈ a.keys.keys, k.isRevoked = false → k.identity ∈ ks) :
    a.revokedAt ks = a.revokeAll.2 := by
  have hkeys : a.keys.keys.map (fun k => if k.identity ∈ ks then k.revoke else k) =
      a.keys.keys.map SessionKey.revoke := by
    refine List.map_congr_left fun k hk => ?_
    cases hr : k.isRevoked with
    | false => rw [if_pos (h k hk hr)]
    | true => rw [SessionKey.revoke_of_isRevoked hr, ite_self]
  rw [revokedAt, hkeys]
  rfl

theorem revokeAll_revokeAll (a : Account) : a.revokeAll.2.revokeAll = a.revokeAll := by
  simp [revokeAll, Registry.revokeAll, Registry.size, SessionKey.revoke]

theorem prune_of_forall_isValid (h : ∀ k ∈ a.keys.keys, k.isValid c = true) :
    a.prune c = (0, a) := by
  have hkept : a.keys.keys.filter (·.isValid c) = a.keys.keys := List.filter_eq_self.2 h
  have hgone : a.keys.keys.filter (fun k => !k.isValid c) = [] :=
    List.filter_eq_nil_iff.2 fun k hk => by simp [h k hk]
  simp only [prune, Registry.retain, hkept, hgone, List.length_nil]

theorem prune_of_forall_not_isValid (h : ∀ k ∈ a.keys.keys, k.isValid c = false) :
    a.prune c = (a.keys.size, { a with keys := { a.keys with keys := [] } }) := by
  have hkept : a.keys.keys.filter (·.isValid c) = [] :=
    List.filter_eq_nil_iff.2 fun k hk => by simp [h k hk]
  have hgone : a.keys.keys.filter (fun k => !k.isValid c) = a.keys.keys :=
    List.filter_eq_self.2 fun k hk => by simp [h k hk]
  simp only [prune, Registry.retain, hkept, hgone, Registry.size]

theorem prune_prune (c : Reading) (a : Account) :
    (a.prune c).2.prune c = (0, (a.prune c).2) :=
  prune_of_forall_isValid fun _ hk => (mem_prune.1 hk).2

theorem size_prune (c : Reading) (a : Account) :
    (a.prune c).1 + (a.prune c).2.keys.size = a.keys.size := by
  have hsplit := List.length_eq_length_filter_add (l := a.keys.keys) (·.isValid c)
  rw [Nat.add_comm] at hsplit
  exact hsplit.symm

/-- Nothing that is revoked is kept. -/
theorem prune_revokeAll (c : Reading) (a : Account) :
    a.revokeAll.2.prune c = (a.keys.size, { a with keys := { a.keys with keys := [] } }) := by
  have hinvalid : ∀ k ∈ a.revokeAll.2.keys.keys, k.isValid c = false := by
    intro k hk
    obtain ⟨l, -, rfl⟩ := List.mem_map.1 hk
    rw [SessionKey.isValid, SessionKey.isRevoked_revoke, Bool.not_true, Bool.false_and]
  have hsize : a.revokeAll.2.keys.size = a.keys.size := List.length_map _
  rw [prune_of_forall_not_isValid hinvalid, hsize]
  rfl

end Account

/-- Whether a key is revoked takes as much to write down as that it is not. -/
theorem Store.canWriteKey_revoke (s : Store) (k : SessionKey) :
    s.canWriteKey k.revoke = s.canWriteKey k := by
  cases s with
  | memory l => rfl
  | folder f =>
      rw [Bool.eq_iff_iff]
      exact SessionKey.isWritable_iff.trans SessionKey.isWritable_iff.symm

namespace World

variable {program x key : String} {w : World} {a : Account} {k : SessionKey} {ks : List String}

/-! ## One key after the other -/

theorem step_revoke (h : w.store.Reachable program) (ha : w.store.load x = .ok a)
    (hk : a.keys.find? key = some k) (hr : k.isRevoked = false) :
    ∃ s sink, w.store.save (a.replaced key k.revoke) = .ok s ∧
      s.load x = .ok (a.replaced key k.revoke) ∧
      w.step (.revoke x key) = (.ok (.key k.revoke), { w with store := s, sink := sink }) := by
  have hwrite : w.store.canWriteKey k.revoke = true := by
    rw [Store.canWriteKey_revoke]
    exact h.canWriteKey ha (Registry.mem_of_find? hk)
  have hagreed : a.verdict w.store key (.revocation key) = .ok k.revoke := by
    rw [Account.verdict_of_some hk, Rule.revocation_eq_ok_iff.2 ⟨hr, rfl⟩, ok_bind, if_pos hwrite]
  rcases (amends_revoke x key).cases h ha with
    ⟨f, hverdict, -⟩ | ⟨l, s, sink, hverdict, -, hs, hload, hstep⟩
  · cases hagreed.symm.trans hverdict
  · obtain rfl := Except.ok.inj (hagreed.symm.trans hverdict)
    exact ⟨s, sink, hs, hload, hstep⟩

/-- Of the accounts that are saved on the way only the last is left. -/
theorem save_run_revoke (h : w.store.Reachable w.program) (ha : w.store.load x = .ok a)
    (hnd : ks.Nodup)
    (hks : ∀ key ∈ ks, ∃ k, a.keys.find? key = some k ∧ k.isRevoked = false) :
    w.store.save (a.revokedAt ks) = .ok (w.run (ks.map (.revoke x))).store := by
  induction ks generalizing w a with
  | nil =>
      rw [Account.revokedAt_nil]
      exact h.save_self ha
  | cons key ks ih =>
      obtain ⟨hkey, hnd⟩ := List.nodup_cons.1 hnd
      obtain ⟨k, hk, hr⟩ := hks key List.mem_cons_self
      obtain ⟨s, sink, hs, hload, hstep⟩ := step_revoke h ha hk hr
      have hreach := reachable_step h (.revoke x key)
      have hrun : w.run ((key :: ks).map (.revoke x)) =
          World.run { w with store := s, sink := sink } (ks.map (.revoke x)) := by
        rw [List.map_cons, run, List.foldl_cons, hstep]
        rfl
      rw [hstep] at hreach
      have hkid : k.identity = key := Registry.identity_of_find? hk
      have hid : k.revoke.identity = key := hkid
      have hrest := ih hreach hload hnd fun j hj => by
        have hne : j ≠ key := fun hj' => hkey (hj' ▸ hj)
        rw [Account.find?_replaced hid, if_neg hne]
        exact hks j (List.mem_cons_of_mem key hj)
      rw [Account.revokedAt_replaced (h.sound ha).wellFormed.keys.nodup hk] at hrest
      have hauthority : (a.replaced key k.revoke).authority = (a.revokedAt (key :: ks)).authority :=
        rfl
      rw [hrun]
      exact Store.save_save hauthority hs hrest

/-- The keys that are left to revoke can be revoked in any order. -/
theorem save_run_revoke_of_perm (h : w.store.Reachable w.program) (ha : w.store.load x = .ok a)
    (hks : ks.Perm ((a.keys.keys.filter (!·.isRevoked)).map SessionKey.identity)) :
    w.store.save a.revokeAll.2 = .ok (w.run (ks.map (.revoke x))).store := by
  have hnodup := (h.sound ha).wellFormed.keys.nodup
  have hmem : ∀ key, key ∈ ks ↔ ∃ k ∈ a.keys.keys, k.isRevoked = false ∧ k.identity = key := by
    intro key
    rw [hks.mem_iff]
    simp only [List.mem_map, List.mem_filter, Bool.not_eq_true', and_assoc]
  have hall : a.revokedAt ks = a.revokeAll.2 :=
    Account.revokedAt_eq_revokeAll fun k hk hr => (hmem _).2 ⟨k, hk, hr, rfl⟩
  rw [← hall]
  refine save_run_revoke h ha ?_ fun key hkey => ?_
  · exact hks.nodup_iff.2 (hnodup.sublist (List.filter_sublist.map _))
  · obtain ⟨k, hk, hr, rfl⟩ := (hmem key).1 hkey
    exact ⟨k, Registry.find?_of_mem hnodup hk, hr⟩

/-! ## All keys at once -/

theorem exists_revokeAll (h : w.store.Reachable program) (ha : w.store.load x = .ok a) :
    ∃ s, w.store.save a.revokeAll.2 = .ok s ∧ s.Reachable program ∧
      w.store.Puts x a.revokeAll.2 s ∧
      w.revokeAll x = (.ok a.keys.size, w.saved x s (some (.allKeysRevoked a.keys.size))) := by
  have he : (Operation.revokeAll x).edit? = some (x, .revokeAll) := rfl
  have hwrite : ∀ k ∈ a.revokeAll.2.keys.keys, w.store.canWriteKey k = true := by
    intro l hl
    obtain ⟨k, hk, rfl⟩ := List.mem_map.1 hl
    rw [Store.canWriteKey_revoke]
    exact h.canWriteKey ha hk
  obtain ⟨s, hs, hreach, hputs⟩ := h.exists_edit (c := w.clock) ha he rfl hwrite
  refine ⟨s, hs, hreach, hputs, ?_⟩
  rw [revokeAll_eq, changed_of_ok ha rfl hs]

theorem revokeAll_of_revokeAll (h : w.store.Reachable program)
    (ha : w.store.load x = .ok a.revokeAll.2) :
    (w.revokeAll x).1 = .ok a.keys.size ∧ (w.revokeAll x).2.store = w.store := by
  obtain ⟨s, hs, -, -, hagain⟩ := exists_revokeAll h ha
  have hsize : a.revokeAll.2.keys.size = a.keys.size := List.length_map _
  rw [Account.revokeAll_revokeAll, h.save_self ha] at hs
  obtain rfl := Except.ok.inj hs
  rw [hagain, hsize]
  exact ⟨rfl, rfl⟩

theorem prune_of_revokeAll (h : w.store.Reachable program)
    (ha : w.store.load x = .ok a.revokeAll.2) :
    ∃ t, w.prune x = (.ok a.keys.size, { w with store := t }) ∧
      t.load x = .ok { a with keys := { a.keys with keys := [] } } := by
  obtain ⟨t, ht, -, hputs⟩ := h.prune ha w.clock
  have hprune := prune_of_load ha ht
  have hload := hputs.here
  rw [Account.prune_revokeAll] at hload hprune
  exact ⟨t, hprune, hload⟩

/-- What revoking and pruning come to, for any account of a reachable store and any reading. To
revoke all keys answers their number, those that were revoked already included, changes nothing of
the account but that its keys are revoked, and leaves the store as it is left by revoking the ones
that are not revoked yet one by one, in any order. To revoke all keys again answers and leaves the
same. To prune keeps the keys that are neither revoked nor expired, as they are and in their order,
and answers how many are gone; to prune again answers that none is gone. To prune when all keys have
been revoked, at any reading, answers their number again and leaves no key. And a key is revoked
before or after another one is revoked or revised to the same effect.
-/
theorem revoking_and_pruning (h : w.store.Reachable w.program) (ha : w.store.load x = .ok a) :
    (∃ s, let v : World := { w with
          store := s
          sink := w.sink.notify ⟨x, .allKeysRevoked a.keys.size⟩ }
        w.revokeAll x = (.ok a.keys.size, v) ∧
        s.load x = .ok { a with keys := { a.keys with
          keys := a.keys.keys.map fun k => { k with state := .revoked } } } ∧
        (∀ y, y ≠ x → s.load y = w.store.load y) ∧
        (∀ ks : List String, ks.Perm ((a.keys.keys.filter (!·.isRevoked)).map SessionKey.identity) →
          (w.run (ks.map (.revoke x))).store = s) ∧
        (v.revokeAll x).1 = .ok a.keys.size ∧ (v.revokeAll x).2.store = s ∧
        ∀ c, ∃ t, let u : World := { v with clock := c }
          u.prune x = (.ok a.keys.size, { u with store := t }) ∧
          t.load x = .ok { a with keys := { a.keys with keys := [] } }) ∧
    (∃ n t, let v : World := { w with store := t }
        let kept := a.keys.keys.filter fun k => !k.isRevoked && !k.isExpired w.clock
        w.prune x = (.ok n, v) ∧ n + kept.length = a.keys.size ∧
        t.load x = .ok { a with keys := { a.keys with keys := kept } } ∧
        (∀ y, y ≠ x → t.load y = w.store.load y) ∧
        v.prune x = (.ok 0, v)) ∧
    ∀ key j, key ≠ j → w.Commute (.revoke x key) (.revoke x j) ∧
      ∀ expiresAt? permissions?,
        w.Commute (.revoke x key) (.revise x j expiresAt? permissions?) := by
  refine ⟨?_, ?_, fun key j hkj => ⟨?_, fun expiresAt? permissions? => ?_⟩⟩
  · obtain ⟨s, hs, hreach, hputs, hrevoke⟩ := exists_revokeAll h ha
    refine ⟨s, hrevoke, hputs.here, hputs.elsewhere, ?_, ?_⟩
    · intro ks hks
      exact Except.ok.inj ((save_run_revoke_of_perm h ha hks).symm.trans hs)
    · obtain ⟨hcount, hsame⟩ := revokeAll_of_revokeAll
        (w := w.saved x s (some (.allKeysRevoked a.keys.size))) hreach hputs.here
      exact ⟨hcount, hsame, fun c => prune_of_revokeAll (w := { w with
        store := s, clock := c, sink := w.sink.notify ⟨x, .allKeysRevoked a.keys.size⟩ })
        hreach hputs.here⟩
  · obtain ⟨t, ht, hreach, hputs⟩ := h.prune ha w.clock
    have hsame : t.save ((a.prune w.clock).2.prune w.clock).2 = .ok t := by
      rw [Account.prune_prune]
      exact hreach.save_self hputs.here
    have hagain := prune_of_load (w := { w with store := t }) hputs.here hsame
    rw [Account.prune_prune] at hagain
    exact ⟨_, t, prune_of_load ha ht, Account.size_prune w.clock a, hputs.here, hputs.elsewhere,
      hagain⟩
  · exact (amends_revoke x key).commute (amends_revoke x j) hkj h ha
  · exact (amends_revoke x key).commute (amends_revise x j expiresAt? permissions?) hkj h ha

/-- A key that is valid is gone once all keys are revoked, one by one and the last one first, and
the rest pruned. That it is revoked does not depend on what becomes of another key. -/
theorem revoking_and_pruning_live : ∃ (w : World) (a : Account) (k : SessionKey) (s t : Store),
    w.store.Reachable w.program ∧ w.store.load "1" = .ok a ∧
      k ∈ a.keys.keys ∧ k.isValid w.clock = true ∧
      (w.run (((a.keys.keys.filter (!·.isRevoked)).map SessionKey.identity).reverse.map
        (.revoke "1"))).store = s ∧
      (w.revokeAll "1").1 = .ok a.keys.size ∧ (w.revokeAll "1").2.store = s ∧
      ((w.revokeAll "1").2.prune "1").1 = .ok a.keys.size ∧
      ((w.revokeAll "1").2.prune "1").2.store = t ∧
      t.load "1" = .ok { a with keys := { a.keys with keys := [] } } ∧
      w.Commute (.revoke "1" "2") (.revise "1" "3" none none) := by
  obtain ⟨a, k, hreach, hsound, hlive, -⟩ := Store.Reachable.exists_live
  let w : World := { World.empty "1" with store := .memory [("1", a)] }
  have hw : w.store.Reachable w.program := hreach
  have hload : w.store.load "1" = .ok a := Account.ofJson_toJson hsound.wellFormed
  have hvalid : k.isValid w.clock = true := SessionKey.isValid_iff.2 ⟨hlive.active, hlive.ahead⟩
  obtain ⟨⟨s, hrevoke, -, -, hsingly, -, -, hprune⟩, -, hcommute⟩ := revoking_and_pruning hw hload
  obtain ⟨t, hprune, hnone⟩ := hprune w.clock
  refine ⟨w, a, k, s, t, hw, hload, hlive.mem, hvalid, hsingly _ (List.reverse_perm _), ?_⟩
  rw [hrevoke]
  exact ⟨rfl, rfl, congrArg Prod.fst hprune, congrArg (fun r => r.2.store) hprune, hnone,
    (hcommute "2" "3" (by decide)).2 none none⟩

end World

end Keyring
