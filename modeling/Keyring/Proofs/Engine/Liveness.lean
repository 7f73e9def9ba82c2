import Keyring.Proofs.Engine.Pruning

/-!
# Liveness

Whether a session key is live is decided by several parts of an engine: by the question whether it
is valid, by the list of active keys, by the gate, and by pruning. In a reachable store identities
are distinct, and these agree: each finds a key live if its account holds it, it is not revoked,
and something of its time or height remains. A key that is not live is refused for the first
reason that there is.
-/

namespace Keyring.World

variable {program x : String} {w : World} {a : Account}

/-- What an account of a reachable store is pruned to. -/
theorem prune_keeps_iff (h : w.store.Reachable program) (ha : w.store.load x = .ok a)
    (key : String) :
    (∃ n s a', w.prune x = (.ok n, { w with store := s }) ∧ s.load x = .ok a' ∧
      ∃ k ∈ a'.keys.keys, k.identity = key) ↔ ∃ k, a.Live w.clock key k := by
  obtain ⟨s, hs, -, hload, -⟩ := h.prune ha w.clock
  have hprune := prune_of_load ha hs
  constructor
  · rintro ⟨n, s', a', hprune', hload', k, hk, hid⟩
    obtain rfl : s = s' := congrArg (fun r => r.2.store) (hprune.symm.trans hprune')
    obtain rfl := Except.ok.inj (hload.symm.trans hload')
    obtain ⟨hmem, hvalid⟩ := Account.mem_prune.1 hk
    exact ⟨k, Account.live_iff.2 ⟨hmem, hid, hvalid⟩⟩
  · rintro ⟨k, hk⟩
    obtain ⟨hmem, hid, hvalid⟩ := Account.live_iff.1 hk
    exact ⟨_, s, _, hprune, hload, k, Account.mem_prune.2 ⟨hmem, hvalid⟩, hid⟩

/-- All tests of liveness agree. For an account of a reachable store, any identity and any reading,
a key is found valid, listed as active, let through by the gate, and kept by a pruning just if the
account has a key of that identity that is not revoked and has something left. The gate then gives
the one key of that identity. Otherwise it says that there is none, or that it is revoked, whether
or not it is expired as well, or that it is expired, and nothing else.
-/
theorem liveness_agrees (h : w.store.Reachable program) (ha : w.store.load x = .ok a)
    (key : String) :
    let live : Prop :=
      ∃ k ∈ a.keys.keys, k.identity = key ∧ k.isRevoked = false ∧ 0 < k.remaining w.clock
    (w.isKeyValid x key = .ok true ↔ live) ∧
    ((∃ ss, w.activeKeys x = .ok ss ∧ ∃ s ∈ ss, s.key.identity = key) ↔ live) ∧
    ((∃ k, a.authorize w.clock key = .ok k) ↔ live) ∧
    ((∃ n s a', w.prune x = (.ok n, { w with store := s }) ∧ s.load x = .ok a' ∧
      ∃ k ∈ a'.keys.keys, k.identity = key) ↔ live) ∧
    (∀ k, a.authorize w.clock key = .ok k → ∀ l, l ∈ a.keys.keys ∧ l.identity = key ↔ l = k) ∧
    (a.authorize w.clock key = .error (.refusal (.keyNotFound key)) ↔
      ∀ k ∈ a.keys.keys, k.identity ≠ key) ∧
    (a.authorize w.clock key = .error (.refusal (.keyRevoked key)) ↔
      ∃ k ∈ a.keys.keys, k.identity = key ∧ k.isRevoked = true) ∧
    (a.authorize w.clock key = .error (.refusal (.keyExpired key)) ↔
      ∃ k ∈ a.keys.keys, k.identity = key ∧ k.isRevoked = false ∧ k.remaining w.clock = 0) ∧
    ∀ f, a.authorize w.clock key = .error f → f = .refusal (.keyNotFound key) ∨
      f = .refusal (.keyRevoked key) ∨ f = .refusal (.keyExpired key) := by
  intro live
  have hnd := (h.sound ha).wellFormed.keys.nodup
  have hlive : (∃ k, a.Live w.clock key k) ↔ live := by
    simp only [live, SessionKey.remaining_pos_iff]
    constructor
    · rintro ⟨k, hmem, hid, hactive, hahead⟩
      exact ⟨k, hmem, hid, hactive, hahead⟩
    · rintro ⟨k, hmem, hid, hactive, hahead⟩
      exact ⟨k, hmem, hid, hactive, hahead⟩
  have hvalid : w.isKeyValid x key = .ok true ↔ a.isKeyValid w.clock key = true := by
    rw [isKeyValid, account, ha]
    simp only [Except.map, Except.ok.injEq]
  have hlisted : (∃ ss, w.activeKeys x = .ok ss ∧ ∃ s ∈ ss, s.key.identity = key) ↔
      key ∈ (a.activeKeys w.clock).map (·.key.identity) := by
    rw [activeKeys, account, ha]
    simp only [Except.map, Except.ok.injEq, exists_eq_left', List.mem_map]
  refine ⟨hvalid.trans (Account.isKeyValid_iff.trans hlive),
    hlisted.trans (Account.mem_map_activeKeys.trans hlive), ?_,
    (prune_keeps_iff h ha key).trans hlive, ?_, Account.authorize_eq_keyNotFound_iff hnd,
    Account.authorize_eq_keyRevoked_iff hnd, ?_, ?_⟩
  · simp only [Account.authorize_eq_ok_iff hnd]
    exact hlive
  · intro k hk l
    obtain ⟨hmem, hid, -⟩ := (Account.authorize_eq_ok_iff hnd).1 hk
    constructor
    · rintro ⟨hl, hlid⟩
      have hfind := Registry.find?_of_mem hnd hl
      rw [hlid, ← hid, Registry.find?_of_mem hnd hmem] at hfind
      exact (Option.some.inj hfind).symm
    · rintro rfl
      exact ⟨hmem, hid⟩
  · simp only [SessionKey.remaining_eq_zero_iff]
    exact Account.authorize_eq_keyExpired_iff hnd
  · intro f hf
    rcases Account.authorize_cases hnd w.clock key with
      ⟨-, h'⟩ | ⟨_, -, -, -, h'⟩ | ⟨_, -, -, -, -, h'⟩ | ⟨_, -, h'⟩ <;> rw [h'] at hf
    · exact .inl (Except.error.inj hf).symm
    · exact .inr (.inl (Except.error.inj hf).symm)
    · exact .inr (.inr (Except.error.inj hf).symm)
    · cases hf

/-- A live key is found valid, and pruning keeps it. -/
theorem liveness_agrees_live : ∃ (w : World) (a : Account),
    w.store.Reachable "1" ∧ w.store.load "1" = .ok a ∧ w.isKeyValid "1" "2" = .ok true ∧
      ∃ n s a', w.prune "1" = (.ok n, { w with store := s }) ∧ s.load "1" = .ok a' ∧
        ∃ k ∈ a'.keys.keys, k.identity = "2" := by
  obtain ⟨a, k, hreach, hsound, ⟨hmem, hid, hactive, hahead⟩, -⟩ := Store.Reachable.exists_live
  let w : World := { World.empty "1" with store := .memory [("1", a)] }
  have ha : w.store.load "1" = .ok a := Account.ofJson_toJson hsound.wellFormed
  obtain ⟨hvalid, -, -, hkept, -⟩ := liveness_agrees (w := w) hreach ha "2"
  have hlive : ∃ k ∈ a.keys.keys, k.identity = "2" ∧ k.isRevoked = false ∧
      0 < k.remaining w.clock :=
    ⟨k, hmem, hid, hactive, SessionKey.remaining_pos_iff.2 hahead⟩
  exact ⟨w, a, hreach, ha, hvalid.2 hlive, hkept.2 hlive⟩

end Keyring.World
