import Keyring.Proofs.Account.Validity
import Keyring.Proofs.Engine.Changes

/-!
# Pruning

Pruning drops the keys of an account that are not valid. A key that is not valid at one reading is
not valid at any later one, so at a later reading the keys that are dropped would have been refused
in any case. Hence nobody who acts or asks can tell a pruned store from the store before, except
that a key which was there and refused is now not there.

Pruning an account of a reachable store does not fail: the account has been written before, and what
is left of it is no harder to write.
-/

namespace Keyring

/-! ## An account that has been pruned -/

theorem SessionKey.isValid_of_precedes {k : SessionKey} {c c' : Reading} (hc : c.Precedes c')
    (h : k.isValid c' = true) : k.isValid c = true := by
  rw [isValid_iff] at h ⊢
  exact ⟨h.1, Int.lt_of_le_of_lt (hc.current_le k.unit) h.2⟩

namespace Account

variable {c c' : Reading} {a a₁ : Account} {key : String} {k : SessionKey}

theorem activeKeys_prune (hc : c.Precedes c') (a : Account) :
    (a.prune c).2.activeKeys c' = a.activeKeys c' := by
  have hkeys : (a.prune c).2.keys.keys = a.keys.keys.filter (·.isValid c) := rfl
  rw [activeKeys_eq, activeKeys_eq, hkeys, List.filter_filter]
  congr 1
  apply List.filter_congr
  intro k _
  cases hk : k.isValid c' with
  | false => rfl
  | true => rw [SessionKey.isValid_of_precedes hc hk]; rfl

theorem expiringKeys_prune (hc : c.Precedes c') (within : Int) (a : Account) :
    (a.prune c).2.expiringKeys c' within = a.expiringKeys c' within := by
  rw [expiringKeys, expiringKeys, activeKeys_prune hc]

theorem isKeyValid_prune (hc : c.Precedes c') (key : String) (a : Account) :
    (a.prune c).2.isKeyValid c' key = a.isKeyValid c' key := by
  rw [isKeyValid, isKeyValid, activeKeys_prune hc]

theorem find?_prune (ha : a.WellFormed) (key : String) :
    (a.prune c).2.keys.find? key = (a.keys.find? key).filter (·.isValid c) :=
  Registry.find?_retain ha.keys.nodup _ key

/-- At a later reading the gate of a pruned account decides as before, or it misses a key that it
would have refused. -/
theorem authorize_prune (ha : a.WellFormed) (hc : c.Precedes c') (key : String) :
    (a.prune c).2.authorize c' key = a.authorize c' key ∨
      (a.authorize c' key = .error (.refusal (.keyRevoked key)) ∨
        a.authorize c' key = .error (.refusal (.keyExpired key))) ∧
      (a.prune c).2.authorize c' key = .error (.refusal (.keyNotFound key)) := by
  have hfind := find?_prune (c := c) ha key
  cases hk : a.keys.find? key with
  | none =>
      rw [hk] at hfind
      exact .inl (by rw [authorize_of_none hfind, authorize_of_none hk])
  | some k =>
      rw [hk, Option.filter_some] at hfind
      cases hvalid : k.isValid c with
      | true =>
          rw [hvalid, if_pos rfl] at hfind
          exact .inl (by rw [authorize_of_some hfind, authorize_of_some hk])
      | false =>
          rw [hvalid, if_neg Bool.false_ne_true] at hfind
          refine .inr ⟨?_, authorize_of_none hfind⟩
          cases hr : k.isRevoked with
          | true => exact .inl (authorize_of_isRevoked hk hr)
          | false =>
              -- A key that was dropped without being revoked has run out, and stays so.
              refine .inr (authorize_of_isExpired hk hr ?_)
              have hinvalid : ¬ k.isValid c' = true := fun h => by
                rw [SessionKey.isValid_of_precedes hc h] at hvalid
                cases hvalid
              rw [SessionKey.isValid_iff, not_and, Int.not_lt] at hinvalid
              exact SessionKey.isExpired_iff.2 (hinvalid hr)

/-- Whatever key an account takes, it takes once it has been pruned. -/
theorem issue_prune {expiresAt : Int} {unit : ExpiryUnit} {permissions : Permissions}
    {label : Bytes} (ha : a.WellFormed)
    (h : a.issue c' key expiresAt unit permissions label = .ok (k, a₁)) (c : Reading) :
    ∃ b₁, (a.prune c).2.issue c' key expiresAt unit permissions label = .ok (k, b₁) ∧
      b₁.bump = a₁.bump ∧ b₁.keys.keys ⊆ a₁.keys.keys := by
  obtain ⟨⟨hfuture, hlabel, hsize, hnone⟩, rfl, rfl⟩ := issue_eq_ok_iff.1 h
  have hsub : (a.prune c).2.keys.keys.Sublist a.keys.keys := List.filter_sublist
  have hfits : (Edit.issue key expiresAt unit permissions label).Fits c' (a.prune c).2 := by
    refine ⟨hfuture, hlabel, Int.lt_of_le_of_lt (Int.ofNat_le.2 hsub.length_le) hsize, ?_⟩
    rw [find?_prune ha, hnone]
    rfl
  exact ⟨_, issue_eq_ok_iff.2 ⟨hfits, rfl, rfl⟩, rfl,
    List.append_subset.2 ⟨fun _ hl => List.mem_append_left _ (hsub.subset hl),
      List.subset_append_right _ _⟩⟩

end Account

namespace Store

variable {program x : String} {s s' : Store} {a : Account}

/-! ## A store that has been pruned -/

/-- Whether a store has of every account the same as another, or that account as it is pruned. -/
def Thinned (c : Reading) (s s' : Store) : Prop :=
  ∀ y, s'.load y = s.load y ∨ ∃ a, s.load y = .ok a ∧ s'.load y = .ok (a.prune c).2

/-- An account of a reachable store can be pruned. -/
theorem Reachable.prune (h : s.Reachable program) (ha : s.load x = .ok a) (c : Reading) :
    ∃ s', s.save (a.prune c).2 = .ok s' ∧ s'.Reachable program ∧ s.Puts x (a.prune c).2 s' := by
  have he : (Operation.prune x).edit? = some (x, .prune) := rfl
  exact h.exists_edit (c := c) ha he rfl fun _ hk => h.canWriteKey ha (Account.mem_prune.1 hk).1

theorem Puts.thinned {c : Reading} (h : s.Puts x (a.prune c).2 s') (ha : s.load x = .ok a) :
    s.Thinned c s' := by
  intro y
  by_cases hy : y = x
  · exact .inr ⟨a, hy ▸ ha, hy ▸ h.here⟩
  · exact .inl (h.elsewhere y hy)

end Store

namespace World

variable {program x : String} {w u : World} {s : Store} {a : Account} {c : Reading}

/-- Pruning tells nobody. -/
theorem prune_of_load (ha : w.store.load x = .ok a)
    (hs : w.store.save (a.prune w.clock).2 = .ok s) :
    w.prune x = (.ok (a.prune w.clock).1, { w with store := s }) := by
  rw [prune_eq, changed_of_ok ha rfl hs]
  rfl

/-! ## What is asked and done later -/

/-- Whether an outcome is as another, or misses a key that the other refuses. -/
def Misses {α : Type} (signer : String) (r r' : Outcome α) : Prop :=
  r' = r ∨ (r = .error (.refusal (.keyRevoked signer)) ∨
    r = .error (.refusal (.keyExpired signer))) ∧ r' = .error (.refusal (.keyNotFound signer))

/-- Whether two results differ in the store alone, and in that the second misses a key that the
first refuses. -/
structure EndsAlike {α : Type} (s : Store) (signer : String) (r r' : Outcome α × World) : Prop where
  answer : Misses signer r.1 r'.1
  world : r'.2 = { r.2 with store := s }

theorem Misses.endsAlike {α : Type} {signer : String} {r r' : Outcome α}
    {q q' : Outcome SessionKey × World} (h : Misses signer r r')
    (herror : ∀ f, r = .error f → q = (.error f.raised, u))
    (herror' : ∀ f, r' = .error f → q' = (.error f.raised, { u with store := s }))
    (hok : ∀ y, r = .ok y → r' = .ok y → q'.1 = q.1 ∧ q'.2 = { q.2 with store := s }) :
    EndsAlike s signer q q' := by
  rcases h with h | ⟨h | h, h'⟩
  · cases r with
    | error f =>
        rw [herror f rfl, herror' f h]
        exact ⟨.inl rfl, rfl⟩
    | ok y =>
        obtain ⟨hanswer, hworld⟩ := hok y rfl h
        exact ⟨.inl hanswer, hworld⟩
  · rw [herror _ h, herror' _ h']
    exact ⟨.inr ⟨.inl rfl, rfl⟩, rfl⟩
  · rw [herror _ h, herror' _ h']
    exact ⟨.inr ⟨.inr rfl, rfl⟩, rfl⟩

section Later

variable {t : Store} {c' : Reading}

/-- What is asked of an account without a difference to its pruning is answered as before. -/
theorem map_load_thinned {α : Type} (h : t.Thinned c s) {f : Account → α}
    (hf : ∀ a, f (a.prune c).2 = f a) (y : String) : (s.load y).map f = (t.load y).map f := by
  rcases h y with h | ⟨a, ha, h⟩
  · rw [h]
  · rw [h, ha]
    exact congrArg Except.ok (hf a)

/-- Whatever is done behind the gate, without a look at the keys, is done for a pruned account. -/
theorem misses_gated {α : Type} (ht : t.Reachable program) (h : t.Thinned c s)
    (hc : c.Precedes c') (y signer : String) {rest : Account → SessionKey → Outcome α}
    (hrest : ∀ a k, rest (a.prune c).2 k = rest a k) :
    Misses signer
      (t.load y >>= fun a => a.authorize c' signer >>= fun k => rest a k)
      (s.load y >>= fun a => a.authorize c' signer >>= fun k => rest a k) := by
  rcases h y with h | ⟨a, ha, h⟩
  · exact .inl (by rw [h])
  · rw [h, ha, Outcome.ok_bind, Outcome.ok_bind]
    simp only [hrest]
    rcases Account.authorize_prune (ht.sound ha).wellFormed hc signer with hg | ⟨hg, hg'⟩
    · exact .inl (by rw [hg])
    · rw [hg']
      refine .inr ⟨?_, rfl⟩
      rcases hg with hg | hg <;> rw [hg]
      · exact .inl rfl
      · exact .inr rfl

end Later

theorem endsAlike_execute (hu : u.store.Reachable program) (h : u.store.Thinned c s)
    (hc : c.Precedes u.clock) (y signer : String) (request : Request)
    (source? destination? : Option String) :
    EndsAlike s signer (u.execute y signer request source? destination?)
      ({ u with store := s }.execute y signer request source? destination?) := by
  have hmisses : Misses signer (u.executed y signer request source? destination?)
      ({ u with store := s }.executed y signer request source? destination?) :=
    misses_gated hu h hc y signer fun _ _ => rfl
  refine hmisses.endsAlike (fun f h => by rw [execute_eq, h]) (fun f h => by rw [execute_eq, h]) ?_
  intro p h h'
  rw [execute_eq, execute_eq, h, h']
  exact ⟨rfl, rfl⟩

theorem endsAlike_delegatedTransfer (hu : u.store.Reachable program) (h : u.store.Thinned c s)
    (hc : c.Precedes u.clock) (y signer source destination mint delegate : String) (amount : Int) :
    EndsAlike s signer (u.delegatedTransfer y signer source destination mint delegate amount)
      ({ u with store := s }.delegatedTransfer y signer source destination mint delegate
        amount) := by
  have hmisses : Misses signer (u.delegated y signer source destination mint delegate amount)
      ({ u with store := s }.delegated y signer source destination mint delegate amount) :=
    misses_gated hu h hc y signer fun _ _ => rfl
  refine hmisses.endsAlike (fun f h => by rw [delegatedTransfer_eq, h])
    (fun f h => by rw [delegatedTransfer_eq, h]) ?_
  intro p h h'
  rw [delegatedTransfer_eq, delegatedTransfer_eq, h, h']
  exact ⟨rfl, rfl⟩

theorem exists_issue_thinned {key : String} {expiresAt : Int} {unit : ExpiryUnit}
    {permissions : Permissions} {label : Bytes} {t : Store} {c' : Reading} {y : String}
    {a a₁ : Account} {k : SessionKey} (ht : t.Reachable program) (h : t.Thinned c s)
    (ha : t.load y = .ok a)
    (hissue : a.issue c' key expiresAt unit permissions label = .ok (k, a₁)) :
    ∃ b b₁, s.load y = .ok b ∧ b.issue c' key expiresAt unit permissions label = .ok (k, b₁) ∧
      b₁.bump = a₁.bump ∧ b₁.keys.keys ⊆ a₁.keys.keys := by
  rcases h y with h | ⟨a', ha', h⟩
  · exact ⟨a, a₁, h.trans ha, hissue, rfl, List.Subset.refl _⟩
  · obtain rfl : a' = a := Except.ok.inj (ha'.symm.trans ha)
    obtain ⟨b₁, hb₁, hbump, hsub⟩ := Account.issue_prune (ht.sound ha).wellFormed hissue c
    exact ⟨_, b₁, h, hb₁, hbump, hsub⟩

/-- A key that is issued is issued after a pruning as well. -/
theorem issue_thinned {spec : KeySpec} {y : String} {k : SessionKey}
    (hu : u.store.Reachable program) (hs : s.Reachable program) (h : u.store.Thinned c s)
    (hfolder : ∀ f, s = .folder f → ∃ g, u.store = .folder g)
    (hk : (u.issue y spec).1 = .ok k) : ({ u with store := s }.issue y spec).1 = .ok k := by
  rw [issue_eq] at hk ⊢
  split at hk
  next => cases hk
  next => cases hk
  next unit label hunit hlabel =>
    rcases u.changed_cases y _ _ with
      ⟨e, u', hchange, -⟩ | ⟨a, l, a₁, t₁, ha, hissue, hsave, hchange⟩ <;>
      rw [hchange] at hk
    · cases hk
    · obtain rfl : l = k := Except.ok.inj hk
      obtain ⟨b, b₁, hb, hissue', hbump, hsub⟩ := exists_issue_thinned hu h ha hissue
      have hsound : b₁.Sound program y :=
        (hs.sound hb).edit (c := u.clock) (e := .issue _ _ _ _ _)
            (by rw [Account.edit, hissue']; rfl)
      -- In a folder the account with all its keys has just been written, so this one can be.
      have hwrite : s.canWrite b₁ = true := by
        cases s with
        | memory l => rfl
        | folder f =>
            obtain ⟨g, hg⟩ := hfolder f rfl
            rw [hg] at hsave
            obtain ⟨g', hg', -⟩ := Store.save_folder_eq_ok hsave
            exact Account.isWritable_of_subset (Folder.save_eq_ok_iff.1 hg').1 hbump.symm hsub
      obtain ⟨s₁, hs₁⟩ := hs.exists_save hb hsound hwrite
      rw [changed_of_ok (w := { u with store := s }) hb hissue' hs₁]

/-- Pruning cannot be told from outside. An account of a reachable store can be pruned, and at the
reading of the pruning or any later one the pruned store stands in for the store before, whatever
else the world holds: the same keys are active, expiring and valid; an action is executed and tokens
are transferred with the same answer and the same effects, or refused with the same fault, except
that a key which was refused as revoked or expired may now be refused as not found; and every key
that could be issued can be issued.
-/
theorem pruning_is_invisible (h : w.store.Reachable program) (ha : w.store.load x = .ok a) :
    ∃ s, w.prune x = (.ok (a.prune w.clock).1, { w with store := s }) ∧
      s.load x = .ok (a.prune w.clock).2 ∧
      ∀ u : World, u.store = w.store → w.clock.Precedes u.clock →
        let v : World := { u with store := s }
        (∀ y, v.activeKeys y = u.activeKeys y) ∧
        (∀ y within, v.expiringKeys y within = u.expiringKeys y within) ∧
        (∀ y key, v.isKeyValid y key = u.isKeyValid y key) ∧
        (∀ y signer request source? destination?,
          EndsAlike s signer (u.execute y signer request source? destination?)
            (v.execute y signer request source? destination?)) ∧
        (∀ y signer source destination mint delegate amount,
          EndsAlike s signer (u.delegatedTransfer y signer source destination mint delegate amount)
            (v.delegatedTransfer y signer source destination mint delegate amount)) ∧
        ∀ y spec k, (u.issue y spec).1 = .ok k → (v.issue y spec).1 = .ok k := by
  obtain ⟨s, hsave, hs, hputs⟩ := h.prune ha w.clock
  refine ⟨s, prune_of_load ha hsave, hputs.here, ?_⟩
  intro u hstore hc v
  have hu : u.store.Reachable program := hstore ▸ h
  have hthin : u.store.Thinned w.clock s := hstore ▸ hputs.thinned ha
  have hfolder : ∀ f, s = .folder f → ∃ g, u.store = .folder g := by
    rintro f rfl
    rw [hstore]
    exact Store.exists_folder_of_save hsave
  refine ⟨?_, fun y within => ?_, fun y key => ?_, ?_, ?_, ?_⟩
  · exact map_load_thinned hthin (Account.activeKeys_prune hc)
  · exact map_load_thinned hthin (Account.expiringKeys_prune hc within) y
  · exact map_load_thinned hthin (Account.isKeyValid_prune hc key) y
  · exact endsAlike_execute hu hthin hc
  · exact endsAlike_delegatedTransfer hu hthin hc
  · exact fun y spec k => issue_thinned hu hs hthin hfolder

/-- A key whose threshold has been reached is refused as expired before it is pruned, and as not
found afterwards. -/
theorem pruning_is_invisible_expired : ∃ (w : World) (s : Store) (n : Nat),
    w.store.Reachable "1" ∧ w.prune "1" = (.ok n, { w with store := s }) ∧
      { w with store := s }.activeKeys "1" = w.activeKeys "1" ∧
      ∀ request, (w.execute "1" "2" request none none).1 = .error (.refusal (.keyExpired "2")) ∧
        ({ w with store := s }.execute "1" "2" request none none).1 =
          .error (.refusal (.keyNotFound "2")) := by
  obtain ⟨a, k, hreach, hsound, hlive, -⟩ := Store.Reachable.exists_live
  let c : Reading := ⟨k.expiresAt, k.expiresAt⟩
  let w : World := { World.empty "1" with store := .memory [("1", a)], clock := c }
  have ha : w.store.load "1" = .ok a := Account.ofJson_toJson hsound.wellFormed
  have hfind : a.keys.find? "2" = some k :=
    hlive.identity ▸ Registry.find?_of_mem hsound.wellFormed.keys.nodup hlive.mem
  have hexpired : k.isExpired c = true := by
    rw [SessionKey.isExpired_iff]
    cases k.unit <;> exact Int.le_refl _
  obtain ⟨s, hprune, hload, hlater⟩ := pruning_is_invisible (w := w) hreach ha
  obtain ⟨hactive, -⟩ := hlater w rfl (Reading.precedes_refl c)
  refine ⟨w, s, _, hreach, hprune, hactive "1", fun request => ⟨?_, ?_⟩⟩
  · rw [execute_eq, executed, ha, Outcome.ok_bind, show w.clock = c from rfl,
      Account.authorize_of_isExpired hfind hlive.active hexpired]
    rfl
  · have hnone : (a.prune c).2.keys.find? "2" = none := by
      rw [Account.find?_prune hsound.wellFormed, hfind, Option.filter_some, SessionKey.isValid,
        hexpired]
      simp
    rw [execute_eq, executed, hload, Outcome.ok_bind, show w.clock = c from rfl,
      Account.authorize_of_none hnone]
    rfl

end World

end Keyring
