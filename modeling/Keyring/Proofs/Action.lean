import Keyring.Proofs.Account.Codec

/-!
# Actions and their documents

An action is read back from its document as it was. Other documents are read by their type: a
text is what its field shows, and a number the one that its field stands for. There is no action
with an amount below zero or with permissions that are out of range, and a document that tells
of one is refused.
-/

namespace Keyring

open Outcome

/-! ## Permissions -/

namespace Permissions

/-- Whether fields tell of permissions: each flag is what its value counts for and each number the
one that its value stands for, where a field that is left out stands for false or zero. -/
structure DescribedBy (fs : Fields) (p : Permissions) : Prop where
  canTransfer : p.canTransfer = (fs.getD "can_transfer" (.bool false)).truthy
  canDelegate : p.canDelegate = (fs.getD "can_delegate" (.bool false)).truthy
  canExecuteCustom : p.canExecuteCustom = (fs.getD "can_execute_custom" (.bool false)).truthy
  cap : (fs.getD "max_transfer_amount" (.int 0)).toInt = .ok p.cap
  customFlags : (fs.getD "custom_flags" (.int 0)).toInt = .ok p.customFlags.toNat

variable {fs : Fields} {p : Permissions}

/-- Permissions are made of numbers that are in range, and hold just these. -/
theorem make_eq_ok_iff {transfer delegate custom : Bool} {cap flags : Int} :
    make transfer delegate custom cap flags = .ok p ↔
      p.canTransfer = transfer ∧ p.canDelegate = delegate ∧ p.canExecuteCustom = custom ∧
        cap = p.cap ∧ flags = p.customFlags.toNat := by
  constructor
  · intro h
    rw [make] at h
    split at h
    next => cases h
    next hcap =>
      split at h
      next => cases h
      next hflags =>
        obtain rfl := Except.ok.inj h
        obtain ⟨hcap, hcap'⟩ := not_or.1 hcap
        obtain ⟨hflags, hflags'⟩ := not_or.1 hflags
        have hamount : (UInt64.ofNat cap.toNat).toNat = cap.toNat :=
          UInt64.toNat_ofNat_of_lt' (by omega)
        have hbits : (UInt32.ofNat flags.toNat).toNat = flags.toNat :=
          UInt32.toNat_ofNat_of_lt' (by omega)
        refine ⟨rfl, rfl, rfl, ?_, ?_⟩
        · rw [Permissions.cap, hamount]
          omega
        · rw [hbits]
          omega
  · rintro ⟨rfl, rfl, rfl, rfl, rfl⟩
    exact p.make_of_fields

theorem ofFields_eq_ok_iff : ofFields fs = .ok p ↔ DescribedBy fs p := by
  rw [ofFields]
  simp only [bind_eq_ok, decoded_eq_ok, mapError_eq_ok, make_eq_ok_iff]
  constructor
  · rintro ⟨cap, hcap, flags, hflags, htransfer, hdelegate, hcustom, rfl, rfl⟩
    exact ⟨htransfer, hdelegate, hcustom, hcap, hflags⟩
  · rintro ⟨htransfer, hdelegate, hcustom, hcap, hflags⟩
    exact ⟨_, hcap, _, hflags, htransfer, hdelegate, hcustom, rfl, rfl⟩

theorem exists_describedBy (p : Permissions) : ∃ fs, p.toJson = .obj fs ∧ DescribedBy fs p :=
  ⟨_, rfl, rfl, rfl, rfl, rfl, rfl⟩

end Permissions

/-! ## Fields -/

namespace Fields

variable {fs : Fields} {name : String}

theorem require_eq_ok_iff {j : Json} : fs.require name = .ok j ↔ field? name fs = some j := by
  rw [require]
  cases field? name fs with
  | none => simp
  | some j' => simp

theorem getD_null_eq_str_iff {s : String} :
    fs.getD name .null = .str s ↔ field? name fs = some (.str s) := by
  rw [getD]
  cases field? name fs with
  | none => simp
  | some j => simp

end Fields

namespace Action

inductive DescribedBy (fs : Fields) : Action → Prop
  | transfer {recipient amount : Json} {n : Nat} (htype : field? "type" fs = some (.str "transfer"))
      (hrecipient : field? "recipient" fs = some recipient)
      (hamount : field? "amount" fs = some amount) (hn : amount.toInt = .ok n) :
      DescribedBy fs (.transfer recipient.plain n)
  | delegate {newKey : Json} {inner : Fields} {p : Permissions}
      (htype : field? "type" fs = some (.str "delegate"))
      (hnewKey : field? "new_key_identity" fs = some newKey)
      (hinner : (fs.orElse "permissions" (.obj [])).toFields = .ok inner)
      (hp : p.DescribedBy inner) :
      DescribedBy fs (.delegate newKey.plain p)
  | custom {target : Json} {payload : Bytes} (htype : field? "type" fs = some (.str "custom"))
      (htarget : field? "target_identity" fs = some target)
      (hpayload : Text.Hex.decode (fs.orElse "payload" (.str "")).plain = .ok payload) :
      DescribedBy fs (.custom target.plain payload)

variable {fs : Fields} {a : Action}

theorem describedBy_of_ofFields (h : ofFields fs = .ok a) : DescribedBy fs a := by
  unfold ofFields at h
  split at h
  next htype =>
    have htype := Fields.getD_null_eq_str_iff.1 htype
    obtain ⟨recipient, hrecipient, h⟩ := bind_eq_ok.1 h
    obtain ⟨amount, hamount, h⟩ := bind_eq_ok.1 h
    obtain ⟨n, hn, h⟩ := bind_eq_ok.1 h
    split at h
    next => cases h
    next hpos =>
      obtain rfl := Except.ok.inj h
      obtain ⟨n, rfl⟩ := Int.eq_ofNat_of_zero_le (Int.not_lt.1 hpos)
      exact .transfer htype (Fields.require_eq_ok_iff.1 (decoded_eq_ok.1 hrecipient))
        (Fields.require_eq_ok_iff.1 (decoded_eq_ok.1 hamount)) (decoded_eq_ok.1 hn)
  next htype =>
    have htype := Fields.getD_null_eq_str_iff.1 htype
    obtain ⟨newKey, hnewKey, h⟩ := bind_eq_ok.1 h
    obtain ⟨p, hp, h⟩ := bind_eq_ok.1 h
    obtain ⟨inner, hinner, hp⟩ := bind_eq_ok.1 hp
    obtain rfl := Except.ok.inj h
    exact .delegate htype (Fields.require_eq_ok_iff.1 (decoded_eq_ok.1 hnewKey))
      (decoded_eq_ok.1 hinner) (Permissions.ofFields_eq_ok_iff.1 hp)
  next htype =>
    have htype := Fields.getD_null_eq_str_iff.1 htype
    obtain ⟨target, htarget, h⟩ := bind_eq_ok.1 h
    obtain ⟨payload, hpayload, h⟩ := bind_eq_ok.1 h
    obtain rfl := Except.ok.inj h
    exact .custom htype (Fields.require_eq_ok_iff.1 (decoded_eq_ok.1 htarget))
      (mapError_eq_ok.1 (decoded_eq_ok.1 hpayload))
  next => cases h

theorem DescribedBy.ofFields (h : DescribedBy fs a) : ofFields fs = .ok a := by
  cases h with
  | @transfer recipient amount n htype hrecipient hamount hn =>
      have hpos : ¬ (n : Int) < 0 := Int.not_lt.2 (Int.natCast_nonneg n)
      rw [Action.ofFields, Fields.getD_null_eq_str_iff.2 htype]
      simp only [Fields.require_eq_ok_iff.2 hrecipient, Fields.require_eq_ok_iff.2 hamount, hn,
        decoded_ok, ok_bind, if_neg hpos, Int.toNat_natCast]
  | @delegate newKey inner p htype hnewKey hinner hp =>
      rw [Action.ofFields, Fields.getD_null_eq_str_iff.2 htype]
      simp only [Fields.require_eq_ok_iff.2 hnewKey, Permissions.ofField, hinner,
        Permissions.ofFields_eq_ok_iff.2 hp, decoded_ok, ok_bind]
  | @custom target payload htype htarget hpayload =>
      rw [Action.ofFields, Fields.getD_null_eq_str_iff.2 htype]
      simp only [Fields.require_eq_ok_iff.2 htarget, Json.toBytes, mapError_eq_ok.2 hpayload,
        decoded_ok, ok_bind]

theorem ofJson_obj_eq_ok_iff : ofJson (.obj fs) = .ok a ↔ DescribedBy fs a :=
  ⟨describedBy_of_ofFields, DescribedBy.ofFields⟩

/-- The document of an action tells of it. -/
theorem exists_describedBy (a : Action) : ∃ fs, a.toJson = .obj fs ∧ DescribedBy fs a := by
  cases a with
  | transfer recipient amount =>
      exact ⟨_, rfl, @DescribedBy.transfer _ (.str recipient) (.int amount) amount rfl rfl rfl rfl⟩
  | delegate newKey permissions =>
      obtain ⟨inner, hinner, hdescribed⟩ := permissions.exists_describedBy
      have hfields : permissions.toJson.toFields = .ok inner := congrArg Json.toFields hinner
      exact ⟨_, rfl,
        @DescribedBy.delegate _ (.str newKey) inner permissions rfl rfl hfields hdescribed⟩
  | custom target payload =>
      refine ⟨_, rfl, @DescribedBy.custom _ (.str target) payload rfl rfl ?_⟩
      rw [Fields.plain_orElse_str rfl, Text.Hex.decode_encode]

def InRange : Action → Prop
  | .transfer _ amount => 0 ≤ (amount : Int)
  | .delegate _ permissions => permissions.cap < 2 ^ 64 ∧ permissions.customFlags.toNat < 2 ^ 32
  | .custom _ _ => True

theorem inRange (a : Action) : a.InRange := by
  cases a with
  | transfer recipient amount => exact Int.natCast_nonneg amount
  | delegate newKey permissions =>
      exact ⟨permissions.maxTransferAmount.toNat_lt_size, permissions.customFlags.toNat_lt_size⟩
  | custom target payload => trivial

/-- Actions and their documents. An action is read back from its document as it was: a transfer of
any amount to any recipient, the delegation of any permissions, and a custom action with any
payload, also an empty one. A document of fields, however loose, is read as an action just when it
tells of that action, and refused if it tells of none; so nothing is read with an amount below zero
or with permissions out of range. What has been read is read back from its own document.
-/
theorem documents_of_actions :
    (∀ a : Action, ofJson a.toJson = .ok a) ∧
    (∀ (fs : Fields) (a : Action), ofJson (.obj fs) = .ok a ↔ a.DescribedBy fs) ∧
    ∀ fs : Fields, (∃ f, ofJson (.obj fs) = .error f) ∨
      ∃ a, ofJson (.obj fs) = .ok a ∧ a.InRange ∧ ofJson a.toJson = .ok a := by
  have hback (a : Action) : ofJson a.toJson = .ok a := by
    obtain ⟨fs, hfs, hdescribed⟩ := a.exists_describedBy
    rw [hfs]
    exact hdescribed.ofFields
  refine ⟨hback, fun fs a => ofJson_obj_eq_ok_iff, fun fs => ?_⟩
  cases h : ofJson (.obj fs) with
  | error f => exact .inl ⟨f, rfl⟩
  | ok a => exact .inr ⟨a, rfl, a.inRange, hback a⟩

/-- A delegation whose permissions are a list of pairs, with the largest cap there is, given as
text. A cap that is larger by one is refused, and so is a transfer of less than nothing. -/
theorem documents_of_actions_loose :
    let delegation (cap : Json) : Fields := [("type", .str "delegate"), ("new_key_identity", .null),
      ("permissions", .arr [.arr [.str "can_transfer", .int 1],
        .arr [.str "max_transfer_amount", cap]])]
    let a : Action :=
      .delegate "None" { canTransfer := true, maxTransferAmount := 18446744073709551615 }
    (ofJson (.obj (delegation (.str " 18446744073709551615 "))) = .ok a ∧ ofJson a.toJson = .ok a) ∧
    ¬ (∃ b, ofJson (.obj (delegation (.int 18446744073709551616))) = .ok b) ∧
    ¬ ∃ b, ofJson (.obj [("type", .str "transfer"), ("recipient", .str "r"),
      ("amount", .int (-1))]) = .ok b := by
  intro delegation a
  refine ⟨⟨rfl, documents_of_actions.1 a⟩, ?_, ?_⟩
  · rintro ⟨b, hb⟩
    cases hb
  · rintro ⟨b, hb⟩
    cases hb

end Action

end Keyring
