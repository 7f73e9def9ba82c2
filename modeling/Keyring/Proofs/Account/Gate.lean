import Keyring.Engine.Authority
import Keyring.Proofs.Account.Lookup

/-!
# The gate

A session key passes the gate if the account holds it, it is not revoked, and its threshold lies
ahead. A key that does not pass is refused for the first of these that fails.
-/

namespace Keyring

theorem SessionKey.isExpired_iff {k : SessionKey} {c : Reading} :
    k.isExpired c = true ↔ k.expiresAt ≤ c.current k.unit := by
  rw [SessionKey.isExpired, decide_eq_true_eq]

namespace Account

structure Live (c : Reading) (signer : String) (a : Account) (k : SessionKey) : Prop where
  mem : k ∈ a.keys.keys
  identity : k.identity = signer
  active : k.isRevoked = false
  ahead : c.current k.unit < k.expiresAt

variable {c : Reading} {signer : String} {a : Account} {k : SessionKey}

theorem authorize_of_none (h : a.keys.find? signer = none) :
    a.authorize c signer = .error (.refusal (.keyNotFound signer)) := by
  rw [authorize, Registry.get, h]
  rfl

theorem authorize_of_some (h : a.keys.find? signer = some k) :
    a.authorize c signer =
      if k.isRevoked then .error (.refusal (.keyRevoked signer))
      else if k.isExpired c then .error (.refusal (.keyExpired signer))
      else .ok k := by
  rw [authorize, Registry.get_eq_ok_iff.2 h]
  rfl

theorem authorize_of_isRevoked (h : a.keys.find? signer = some k) (hk : k.isRevoked = true) :
    a.authorize c signer = .error (.refusal (.keyRevoked signer)) := by
  rw [authorize_of_some h, if_pos hk]

theorem authorize_of_isExpired (h : a.keys.find? signer = some k) (hk : k.isRevoked = false)
    (he : k.isExpired c = true) :
    a.authorize c signer = .error (.refusal (.keyExpired signer)) := by
  rw [authorize_of_some h, if_neg (by simp [hk]), if_pos he]

/-- In a registry of distinct identities just the live key of an identity is authorized. -/
theorem authorize_eq_ok_iff (hnd : (a.keys.keys.map SessionKey.identity).Nodup) :
    a.authorize c signer = .ok k ↔ a.Live c signer k := by
  constructor
  · intro h
    cases hfind : a.keys.find? signer with
    | none =>
        rw [authorize_of_none hfind] at h
        cases h
    | some l =>
        rw [authorize_of_some hfind] at h
        split at h
        next => cases h
        next hr =>
          split at h
          next => cases h
          next he =>
            obtain rfl := Except.ok.inj h
            rw [SessionKey.isExpired_iff, Int.not_le] at he
            exact ⟨Registry.mem_of_find? hfind, Registry.identity_of_find? hfind,
              Bool.eq_false_iff.2 hr, he⟩
  · rintro ⟨hmem, rfl, hr, he⟩
    rw [authorize_of_some (Registry.find?_of_mem hnd hmem), if_neg (by simp [hr]), if_neg]
    rw [SessionKey.isExpired_iff, Int.not_le]
    exact he

/-- The four ways in which a key is looked at by the gate. -/
theorem authorize_cases (hnd : (a.keys.keys.map SessionKey.identity).Nodup) (c : Reading)
    (signer : String) :
    ((∀ k ∈ a.keys.keys, k.identity ≠ signer) ∧
      a.authorize c signer = .error (.refusal (.keyNotFound signer))) ∨
    (∃ k ∈ a.keys.keys, k.identity = signer ∧ k.isRevoked = true ∧
      a.authorize c signer = .error (.refusal (.keyRevoked signer))) ∨
    (∃ k ∈ a.keys.keys, k.identity = signer ∧ k.isRevoked = false ∧
      k.expiresAt ≤ c.current k.unit ∧
      a.authorize c signer = .error (.refusal (.keyExpired signer))) ∨
    ∃ k, a.Live c signer k ∧ a.authorize c signer = .ok k := by
  cases hfind : a.keys.find? signer with
  | none =>
      refine .inl ⟨fun k hk hid => ?_, authorize_of_none hfind⟩
      rw [← hid, Registry.find?_of_mem hnd hk] at hfind
      cases hfind
  | some k =>
      have hmem := Registry.mem_of_find? hfind
      have hid := Registry.identity_of_find? hfind
      cases hr : k.isRevoked with
      | true => exact .inr (.inl ⟨k, hmem, hid, hr, authorize_of_isRevoked hfind hr⟩)
      | false =>
          by_cases he : k.expiresAt ≤ c.current k.unit
          · exact .inr (.inr (.inl ⟨k, hmem, hid, hr, he,
              authorize_of_isExpired hfind hr (SessionKey.isExpired_iff.2 he)⟩))
          · have hlive : a.Live c signer k := ⟨hmem, hid, hr, Int.not_le.1 he⟩
            exact .inr (.inr (.inr ⟨k, hlive, (authorize_eq_ok_iff hnd).2 hlive⟩))

/-! ## What a refusal says -/

theorem authorize_eq_keyNotFound_iff (hnd : (a.keys.keys.map SessionKey.identity).Nodup) :
    a.authorize c signer = .error (.refusal (.keyNotFound signer)) ↔
      ∀ k ∈ a.keys.keys, k.identity ≠ signer := by
  constructor
  · intro h
    rcases authorize_cases hnd c signer with
      ⟨hnone, -⟩ | ⟨_, -, -, -, h'⟩ | ⟨_, -, -, -, -, h'⟩ | ⟨_, -, h'⟩
    · exact hnone
    all_goals rw [h'] at h; cases h
  · intro hnone
    apply authorize_of_none
    rw [Registry.find?_eq_none_iff, List.mem_map]
    rintro ⟨k, hk, hid⟩
    exact hnone k hk hid

theorem authorize_eq_keyRevoked_iff (hnd : (a.keys.keys.map SessionKey.identity).Nodup) :
    a.authorize c signer = .error (.refusal (.keyRevoked signer)) ↔
      ∃ k ∈ a.keys.keys, k.identity = signer ∧ k.isRevoked = true := by
  constructor
  · intro h
    rcases authorize_cases hnd c signer with
      ⟨-, h'⟩ | ⟨k, hk, hid, hr, -⟩ | ⟨_, -, -, -, -, h'⟩ | ⟨_, -, h'⟩
    · rw [h'] at h
      cases h
    · exact ⟨k, hk, hid, hr⟩
    all_goals rw [h'] at h; cases h
  · rintro ⟨k, hk, rfl, hr⟩
    exact authorize_of_isRevoked (Registry.find?_of_mem hnd hk) hr

theorem authorize_eq_keyExpired_iff (hnd : (a.keys.keys.map SessionKey.identity).Nodup) :
    a.authorize c signer = .error (.refusal (.keyExpired signer)) ↔
      ∃ k ∈ a.keys.keys, k.identity = signer ∧ k.isRevoked = false ∧
        k.expiresAt ≤ c.current k.unit := by
  constructor
  · intro h
    rcases authorize_cases hnd c signer with
      ⟨-, h'⟩ | ⟨_, -, -, -, h'⟩ | ⟨k, hk, hid, hr, he, -⟩ | ⟨_, -, h'⟩
    · rw [h'] at h
      cases h
    · rw [h'] at h
      cases h
    · exact ⟨k, hk, hid, hr, he⟩
    · rw [h'] at h
      cases h
  · rintro ⟨k, hk, rfl, hr, he⟩
    exact authorize_of_isExpired (Registry.find?_of_mem hnd hk) hr (SessionKey.isExpired_iff.2 he)

end Account

end Keyring
