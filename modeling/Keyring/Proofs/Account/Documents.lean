import Keyring.Proofs.Account.Edit

/-!
# Accounts and their documents

Whatever document is read as an account, the account is within its limits: the reader gives no key
without a label of the right width, adds keys only as long as there is room and none of them twice,
and takes no more mints than it may. So an account can be read back from its own document just when
it is within its limits, and a document that has been read and written once stays as it is.
-/

namespace Keyring

open Outcome

theorem SessionKey.length_label_of_ofFields {fs : Fields} {k : SessionKey}
    (h : SessionKey.ofFields fs = .ok k) : k.label.length = Label.size := by
  obtain ⟨identity, -, h⟩ := bind_eq_ok.1 h
  obtain ⟨_, -, h⟩ := bind_eq_ok.1 h
  obtain ⟨createdAt, -, h⟩ := bind_eq_ok.1 h
  obtain ⟨_, -, h⟩ := bind_eq_ok.1 h
  obtain ⟨expiresAt, -, h⟩ := bind_eq_ok.1 h
  obtain ⟨_, -, h⟩ := bind_eq_ok.1 h
  obtain ⟨unit, -, h⟩ := bind_eq_ok.1 h
  obtain ⟨permissions, -, h⟩ := bind_eq_ok.1 h
  -- Whichever label is taken, the key is made of it under the same check.
  have hmake : ∃ label key, SessionKey.make identity.plain createdAt expiresAt unit permissions
      label = .ok key ∧ k.label = key.label := by
    dsimp only at h
    split at h
    all_goals
      obtain ⟨label, -, h⟩ := bind_eq_ok.1 h
      obtain ⟨key, hmake, h⟩ := bind_eq_ok.1 h
      obtain rfl := Except.ok.inj h
      refine ⟨label, key, hmake, ?_⟩
      split <;> rfl
  obtain ⟨label, key, hmake, hlabel⟩ := hmake
  obtain ⟨hwidth, rfl⟩ := Account.make_eq_ok_iff.1 hmake
  rw [hlabel]
  exact hwidth

namespace Registry

variable {r r' : Registry}

theorem WellFormed.add {k : SessionKey} (hr : r.WellFormed) (hlabel : k.label.length = Label.size)
    (h : r.add k = .ok r') : r'.WellFormed := by
  obtain ⟨hsize, hnone, rfl⟩ := add_eq_ok_iff.1 h
  exact hr.append hsize hnone hlabel

theorem WellFormed.addDocuments {js : List Json} (hr : r.WellFormed)
    (h : r.addDocuments js = .ok r') : r'.WellFormed := by
  induction js generalizing r with
  | nil =>
      obtain rfl := Except.ok.inj h
      exact hr
  | cons j js ih =>
      obtain ⟨fs, -, h⟩ := bind_eq_ok.1 h
      obtain ⟨k, hk, h⟩ := bind_eq_ok.1 h
      obtain ⟨r₁, hadd, h⟩ := bind_eq_ok.1 h
      exact ih (hr.add (SessionKey.length_label_of_ofFields hk) hadd) h

theorem wellFormed_empty : (empty maxKeys).WellFormed :=
  ⟨rfl, Nat.zero_le _, List.nodup_nil, nofun⟩

end Registry

namespace Account

variable {j : Json} {a : Account}

theorem wellFormed_of_ofFields {fs : Fields} (h : ofFields fs = .ok a) : a.WellFormed := by
  obtain ⟨authority, -, h⟩ := bind_eq_ok.1 h
  obtain ⟨address, -, h⟩ := bind_eq_ok.1 h
  obtain ⟨_, -, h⟩ := bind_eq_ok.1 h
  obtain ⟨bump, -, h⟩ := bind_eq_ok.1 h
  obtain ⟨entries, -, h⟩ := bind_eq_ok.1 h
  obtain ⟨keys, hkeys, h⟩ := bind_eq_ok.1 h
  obtain ⟨_, -, h⟩ := bind_eq_ok.1 h
  obtain ⟨mints, hmints, h⟩ := bind_eq_ok.1 h
  obtain rfl := Except.ok.inj h
  exact ⟨Registry.wellFormed_empty.addDocuments hkeys, Allowlist.wellFormed_of_ofList hmints⟩

/-- An account that has neither keys nor mints. -/
theorem wellFormed_blank (authority address : String) (bump : Int) :
    WellFormed { authority, address, bump } :=
  ⟨Registry.wellFormed_empty, Nat.zero_le _, List.nodup_nil⟩

theorem wellFormed_of_ofJson (h : ofJson j = .ok a) : a.WellFormed := by
  cases j with
  | obj fs => exact wellFormed_of_ofFields h
  | _ => cases h

/--
Accounts and documents. An account is read back from its document as it was, in every field and with
its keys and mints in their order, just when it is within its limits. Any document at all is refused
or read as an account within its limits, and writing what was read gives a document of which the
same is true again, without a change.
-/
theorem documents_of_accounts :
    (∀ a : Account, ofJson a.toJson = .ok a ↔ a.WellFormed) ∧
    (∀ j : Json, (∃ f, ofJson j = .error f) ∨
      ∃ a, ofJson j = .ok a ∧ a.WellFormed ∧ ∀ k ∈ a.keys.keys,
        k.label.length = 32 ∧ k.permissions.cap < UInt64.size ∧
          k.permissions.customFlags.toNat < UInt32.size) ∧
    ∀ j d : Json, (ofJson j).map toJson = .ok d → (ofJson d).map toJson = .ok d := by
  refine ⟨fun a => ⟨wellFormed_of_ofJson, ofJson_toJson⟩, ?_, ?_⟩
  · intro j
    cases h : ofJson j with
    | error f => exact .inl ⟨f, rfl⟩
    | ok a =>
        have hwf := wellFormed_of_ofJson h
        exact .inr ⟨a, rfl, hwf, fun k hk => ⟨hwf.keys.label k hk,
          k.permissions.maxTransferAmount.toNat_lt_size,
          k.permissions.customFlags.toNat_lt_size⟩⟩
  · intro j d h
    obtain ⟨a, ha, rfl⟩ := map_eq_ok.1 h
    exact map_eq_ok.2 ⟨a, ofJson_toJson (wellFormed_of_ofJson ha), rfl⟩

/-- A revoked key and two mints, one of them given twice, from a document without the rest. -/
theorem documents_of_accounts_loose :
    let j : Json := .obj [("authority", .str "1"), ("address", .null), ("bump", .bool true),
      ("session_keys", .arr [.obj [("key_identity", .str "2"), ("created_at", .bool false),
        ("expires_at", .int 5), ("expiration_type", .str "block_height"),
        ("is_revoked", .int 1)]]),
      ("allowed_mints", .arr [.str "m", .str "n", .str "m"])]
    let k : SessionKey :=
      { identity := "2", createdAt := 0, expiresAt := 5, unit := .blockHeight, state := .revoked }
    let a : Account := ⟨"1", "None", 1, ⟨Registry.maxKeys, [k]⟩, ⟨["m", "n"]⟩⟩
    ofJson j = .ok a ∧ a.WellFormed ∧ ofJson a.toJson = .ok a ∧
      (ofJson a.toJson).map toJson = .ok a.toJson := by
  intro j k a
  have hread : ofJson j = .ok a := rfl
  have hwf : a.WellFormed := wellFormed_of_ofJson hread
  exact ⟨hread, hwf, (documents_of_accounts.1 a).2 hwf, documents_of_accounts.2.2 j a.toJson rfl⟩

end Account

end Keyring
