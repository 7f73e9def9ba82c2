import Keyring.Proofs.Engine.Lifetime

/-!
# Keys that have been withdrawn or have run out

Once a key is revoked, whatever is done afterwards and however the clock goes on, nothing is done
with the key until it is issued again, and it is issued again only after a pruning has dropped it.
The same holds of a key that has expired, until it is given a new threshold.
-/

namespace Keyring

/-- What the gate says tells of no integers. -/
theorem Account.raised_of_authorize {c : Reading} {key : String} {a : Account} {f : Fault}
    (h : a.authorize c key = .error f) : f.raised = f := by
  cases hk : a.keys.find? key with
  | none =>
      rw [authorize_of_none hk] at h
      obtain rfl := Except.error.inj h
      rfl
  | some k =>
      rw [authorize_of_some hk] at h
      split_ifs at h <;> obtain rfl := Except.error.inj h <;> rfl

namespace World

/-- Whether everything that a key is used for fails in one way. -/
def RefusesAll (w : World) (x j : String) (f : Fault) : Prop :=
  (∀ request source? destination?, (w.execute x j request source? destination?).1 = .error f) ∧
    ∀ source destination mint delegate amount,
      (w.delegatedTransfer x j source destination mint delegate amount).1 = .error f

def Withdraws (w : World) (x j : String) (op : Operation) : Prop :=
  (∃ answer, (w.step op).1 = .ok answer) ∧
    (op = .revoke x j ∨ op = .revokeAll x ∧ ∃ k, w.keyAt? x j = some k)

variable {w : World} {x j : String} {a : Account} {k : SessionKey} {op : Operation}

theorem Has.refusesAll (h : w.Has x a) {f : Fault} (hf : a.authorize w.clock j = .error f) :
    w.RefusesAll x j f := by
  have hraised := Account.raised_of_authorize hf

  constructor
  · intro request source? destination?
    have he : w.executed x j request source? destination? = .error f := by
      rw [executed, h.load, Outcome.ok_bind, hf]
      rfl
    simp only [execute_eq, he, hraised]
  · intro source destination mint delegate amount
    have he : w.delegated x j source destination mint delegate amount = .error f := by
      rw [delegated, h.load, Outcome.ok_bind, hf]
      rfl
    simp only [delegatedTransfer_eq, he, hraised]

/-- After the revocation the key is there, and revoked. -/
theorem Withdraws.has (hw : w.store.Reachable w.program) (hop : w.Withdraws x j op) :
    ∃ a k, (w.step op).2.Has x a ∧ a.keys.find? j = some k ∧ k.isRevoked = true := by
  obtain ⟨⟨answer, hok⟩, hop⟩ := hop
  have hbatch : op.isBatch = false := by
    rcases hop with rfl | ⟨rfl, -⟩ <;> rfl
  obtain ⟨e, he, hrevoke⟩ : ∃ e, op.edit? = some (x, e) ∧
      ∀ k : SessionKey, e.onKey w.clock j (some k) = some k.revoke := by
    rcases hop with rfl | ⟨rfl, -⟩
    · exact ⟨.revoke j, rfl, fun k => if_pos rfl⟩
    · exact ⟨.revokeAll, rfl, fun k => rfl⟩
  rcases step_edit (w := w) he with ⟨f, w', hf, -⟩ | ⟨a, a', -, -, -, hload, hedit, -, -⟩
  · rw [hf] at hok
    cases hok
  · have h := has_of_load hw hload
    obtain ⟨k, hk⟩ : ∃ k, a.keys.find? j = some k := by
      rcases hop with rfl | ⟨rfl, k, hk⟩
      · obtain rfl : Edit.revoke j = e := congrArg Prod.snd (Option.some.inj he)
        obtain ⟨k, hk, -⟩ := (Account.edit_eq_ok_iff.1 hedit).1
        exact ⟨k, hk⟩
      · exact ⟨k, (h.keyAt? j).symm.trans hk⟩
    obtain ⟨a₁, h₁, -, ⟨-, hnot⟩ | ⟨e₁, -, he₁, -, hedit₁⟩⟩ := h.step hbatch
    · exact absurd hok (hnot e answer he)
    · obtain rfl : e = e₁ := congrArg Prod.snd (Option.some.inj (he.symm.trans he₁))
      obtain ⟨hfits, rfl⟩ := Account.edit_eq_ok_iff.1 hedit₁
      have hfind := Edit.find?_registry h.sound.wellFormed.keys.nodup hfits j
      rw [hk, hrevoke] at hfind
      exact ⟨_, k.revoke, h₁, hfind, rfl⟩

/--
Withdrawn and expired keys in any run that goes on from a reachable store. After a revocation, as
long as the key is not issued, everything that it is used for is refused as revoked while the key is
there, and as not found once a pruning has dropped it; no operation issues it before that. An
expired key that is not given a new threshold is refused likewise, as expired while it is not
revoked.
-/
theorem withdrawn_until_issued (hw : w.store.Reachable w.program) (x j : String) :
    (∀ op, w.Withdraws x j op → ∀ ops, (w.step op).2.NeverIssues x j ops →
      let w' := (w.step op).2.run ops
      (∃ k, w'.keyAt? x j = some k ∧ k.isRevoked = true ∧
          w'.RefusesAll x j (.refusal (.keyRevoked j)) ∧ ∀ op', (x, j) ∉ w'.issued op') ∨
        w'.keyAt? x j = none ∧ (w.step op).2.Drops x j ops ∧
          w'.RefusesAll x j (.refusal (.keyNotFound j))) ∧
    ∀ k, w.keyAt? x j = some k → k.isExpired w.clock = true →
      ∀ ops, w.NeverIssues x j ops → w.NeverRenews x j ops →
        let w' := w.run ops
        (∃ k', w'.keyAt? x j = some k' ∧ k'.isExpired w'.clock = true ∧
            w'.RefusesAll x j
              (.refusal (if k'.isRevoked then .keyRevoked j else .keyExpired j)) ∧
            ∀ op', (x, j) ∉ w'.issued op') ∨
          w'.keyAt? x j = none ∧ w.Drops x j ops ∧
            w'.RefusesAll x j (.refusal (.keyNotFound j)) := by
  constructor
  · intro op hop ops hi w'
    obtain ⟨a, k, h, hk, hrevoked⟩ := hop.has hw
    obtain ⟨a', h', -, ⟨k', hk', hcont, -⟩ | ⟨hk', hdrops⟩⟩ := run_key h hk ops hi
    · exact .inl ⟨k', (h'.keyAt? j).trans hk', hcont.revoked hrevoked,
        h'.refusesAll (Account.authorize_of_isRevoked hk' (hcont.revoked hrevoked)),
        h'.not_mem_issued hk'⟩
    · exact .inr ⟨(h'.keyAt? j).trans hk', hdrops, h'.refusesAll (Account.authorize_of_none hk')⟩
  · intro k hk hexpired ops hi hnever w'
    obtain ⟨a, h, hfind⟩ := exists_has hw hk
    obtain ⟨a', h', hclock, ⟨k', hk', hcont, hexp⟩ | ⟨hk', hdrops⟩⟩ := run_key h hfind ops hi
    · have hexpired' : k'.isExpired w'.clock = true := by
        rw [SessionKey.isExpired_iff] at hexpired ⊢
        rw [hexp hnever, hcont.unit]
        exact Int.le_trans hexpired (hclock.current_le k.unit)
      refine .inl ⟨k', (h'.keyAt? j).trans hk', hexpired', h'.refusesAll ?_, h'.not_mem_issued hk'⟩
      cases hr : k'.isRevoked with
      | true => exact Account.authorize_of_isRevoked hk' hr
      | false => exact Account.authorize_of_isExpired hk' hr hexpired'
    · exact .inr ⟨(h'.keyAt? j).trans hk', hdrops, h'.refusesAll (Account.authorize_of_none hk')⟩

/-- A key is revoked and not used again; in the same store it runs out and is not used again. -/
theorem withdrawn_until_issued_at_once : ∃ w : World, w.store.Reachable w.program ∧
    w.Withdraws "1" "2" (.revoke "1" "2") ∧
    (w.step (.revoke "1" "2")).2.RefusesAll "1" "2" (.refusal (.keyRevoked "2")) ∧
    w.RefusesAll "1" "2" (.refusal (.keyExpired "2")) := by
  obtain ⟨a, k, hreach, hsound, hlive, -, -⟩ := Store.Reachable.exists_live
  have hk : a.keys.find? "2" = some k :=
    hlive.identity ▸ Registry.find?_of_mem hsound.wellFormed.keys.nodup hlive.mem
  let w : World := { World.empty "1" with
    store := .memory [("1", a)]
    clock := ⟨k.expiresAt, k.expiresAt⟩ }
  have hw : w.store.Reachable w.program := hreach
  have hload : w.store.load "1" = .ok a := Account.ofJson_toJson hsound.wellFormed
  have hkey : w.keyAt? "1" "2" = some k := by
    rw [keyAt?, hload]
    exact hk
  have hexpired : k.isExpired w.clock = true := by
    rw [SessionKey.isExpired_iff]
    cases k.unit <;> exact Int.le_refl _
  have hedit := Account.edit_eq_ok_iff (c := w.clock) (e := .revoke "2").2
    ⟨⟨k, hk, hlive.active⟩, rfl⟩
  have hop : (Operation.revoke "1" "2").edit? = some ("1", .revoke "2") := rfl
  obtain ⟨answer, sink, hstep⟩ := step_edit_memory (w := w) rfl hsound hop hedit
  have hwithdraws : w.Withdraws "1" "2" (.revoke "1" "2") := ⟨⟨answer, by rw [hstep]⟩, .inl rfl⟩
  have hnone {ops : List Operation} {op : Operation} {before after : List Operation}
      (hops : ops = []) : ops ≠ before ++ op :: after := by
    rw [hops]
    exact (List.append_ne_nil_of_right_ne_nil before (List.cons_ne_nil op after)).symm
  obtain ⟨hrevoked, hstale⟩ := withdrawn_until_issued hw "1" "2"
  refine ⟨w, hw, hwithdraws, ?_, ?_⟩
  · obtain ⟨-, -, -, h, -⟩ | ⟨-, ⟨before, after, -, heq, -⟩, -⟩ :=
      hrevoked _ hwithdraws [] fun _ _ _ heq => absurd heq (hnone rfl)
    · exact h
    · exact absurd heq (hnone rfl)
  · obtain ⟨k', hk', -, h, -⟩ | ⟨-, ⟨before, after, -, heq, -⟩, -⟩ :=
      hstale k hkey hexpired [] (fun _ _ _ heq => absurd heq (hnone rfl))
        fun _ _ _ heq => absurd heq (hnone rfl)
    · obtain rfl : k = k' := Option.some.inj (hkey.symm.trans hk')
      rw [hlive.active] at h
      exact h
    · exact absurd heq (hnone rfl)

end World

end Keyring
