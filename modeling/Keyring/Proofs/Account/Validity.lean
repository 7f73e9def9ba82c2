import Keyring.Proofs.Account.Edit
import Keyring.Proofs.Account.Gate

/-!
# Valid keys

Whether a key is valid is asked in several places: by the list of active keys, by the question of
one identity, by the gate, and by pruning. Here each of them comes to `SessionKey.isValid`.
-/

namespace Keyring

namespace SessionKey

variable {k : SessionKey} {c : Reading}

theorem isValid_iff :
    k.isValid c = true ↔ k.isRevoked = false ∧ c.current k.unit < k.expiresAt := by
  rw [isValid, Bool.and_eq_true, Bool.not_eq_true', Bool.not_eq_true', ← Bool.not_eq_true
    (k.isExpired c), isExpired_iff, Int.not_le]

theorem remaining_pos_iff : 0 < k.remaining c ↔ c.current k.unit < k.expiresAt := by
  rw [remaining]
  omega

theorem remaining_eq_zero_iff : k.remaining c = 0 ↔ k.expiresAt ≤ c.current k.unit := by
  rw [remaining]
  omega

end SessionKey

namespace Account

variable {c : Reading} {a : Account} {j : String} {k : SessionKey}

theorem live_iff : a.Live c j k ↔ k ∈ a.keys.keys ∧ k.identity = j ∧ k.isValid c = true := by
  rw [SessionKey.isValid_iff]
  constructor
  · rintro ⟨hmem, hid, hactive, hahead⟩
    exact ⟨hmem, hid, hactive, hahead⟩
  · rintro ⟨hmem, hid, hactive, hahead⟩
    exact ⟨hmem, hid, hactive, hahead⟩

/-- The active keys are how the valid keys stand. -/
theorem activeKeys_eq (c : Reading) (a : Account) :
    a.activeKeys c = (a.keys.keys.filter (·.isValid c)).map (KeyStatus.of c) := by
  rw [activeKeys, statuses, List.filter_map]
  rfl

theorem mem_map_activeKeys :
    j ∈ (a.activeKeys c).map (·.key.identity) ↔ ∃ k, a.Live c j k := by
  have hidentity : (fun s : KeyStatus => s.key.identity) ∘ KeyStatus.of c = SessionKey.identity :=
    rfl
  rw [activeKeys_eq, List.map_map, hidentity]
  simp only [List.mem_map, List.mem_filter, live_iff]
  constructor
  · rintro ⟨k, ⟨hmem, hvalid⟩, hid⟩
    exact ⟨k, hmem, hid, hvalid⟩
  · rintro ⟨k, hmem, hid, hvalid⟩
    exact ⟨k, ⟨hmem, hvalid⟩, hid⟩

theorem isKeyValid_iff : a.isKeyValid c j = true ↔ ∃ k, a.Live c j k := by
  rw [← mem_map_activeKeys, isKeyValid, List.any_eq_true, List.mem_map]
  simp only [beq_iff_eq]

theorem mem_prune : k ∈ (a.prune c).2.keys.keys ↔ k ∈ a.keys.keys ∧ k.isValid c = true :=
  List.mem_filter

end Account

end Keyring
