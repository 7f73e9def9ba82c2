import Keyring.Codec
import Keyring.Proofs.Allowlist
import Keyring.Proofs.Json.Documents

/-!
# Written accounts, read back

An account that is within its limits is read back from its document as it was. The limits are those
that the reader checks: no more keys and mints than there is room for, none of them twice, and a
label of the right width on every key.
-/

namespace Keyring

@[simp] theorem decoded_ok {α : Type} (x : α) : decoded (.ok x) = .ok x := rfl

theorem decoded_eq_ok {α : Type} {r : Except DecodeError α} {x : α} :
    decoded r = .ok x ↔ r = .ok x := Outcome.mapError_eq_ok

@[simp] theorem Json.plain_str (s : String) : (Json.str s).plain = s := rfl

@[simp] theorem Json.toInt_int (n : Int) : (Json.int n).toInt = .ok n := rfl

/-- A text is itself, also where an empty one counts as none. -/
theorem Fields.plain_orElse_str {fs : Fields} {name s : String}
    (hfs : field? name fs = some (.str s)) : (fs.orElse name (.str "")).plain = s := by
  rw [orElse, hfs]
  cases hs : s.isEmpty with
  | true => simp [Json.truthy, String.isEmpty_iff.1 hs]
  | false => simp [Json.truthy, hs]

theorem Text.Integer.tooLong_pos : 0 < tooLong := by
  unfold tooLong
  generalize maxDigits = k
  exact Nat.pow_pos (Nat.succ_pos 9)

theorem Text.Integer.isTooLong_tooLong : isTooLong (tooLong : Int) = true := by
  unfold isTooLong
  generalize tooLong = n
  rw [Int.natAbs_natCast]
  exact decide_eq_true (Nat.le_refl n)

theorem Text.Integer.isTooLong_neg (n : Int) : isTooLong (-n) = isTooLong n := by
  rw [isTooLong, isTooLong, Int.natAbs_neg]

/-- A number that fits a word is short enough to be written. -/
theorem Text.Integer.isTooLong_of_lt {n : Int} (hn : n.natAbs < UInt64.size) :
    isTooLong n = false := by
  have hk : 20 ≤ maxDigits := by decide
  rw [isTooLong, decide_eq_false_iff_not]
  unfold tooLong
  generalize maxDigits = k at hk ⊢
  have hpow : UInt64.size ≤ Nat.pow 10 k :=
    Nat.le_trans (by decide) (Nat.pow_le_pow_right (by decide) hk)
  exact Nat.not_le.2 (Nat.lt_of_lt_of_le hn hpow)

/-! ## Permissions -/

namespace Permissions

theorem make_of_fields (p : Permissions) :
    make p.canTransfer p.canDelegate p.canExecuteCustom p.cap p.customFlags.toNat = .ok p := by
  have hcap : p.cap < UInt64.size := p.maxTransferAmount.toNat_lt_size
  have hflags : p.customFlags.toNat < UInt32.size := p.customFlags.toNat_lt_size
  rw [make, if_neg (by omega), if_neg (by omega)]
  simp [cap]

theorem ofFields_toFields (p : Permissions) :
    ((decoded p.toJson.toFields).bind ofFields) = .ok p := by
  have hmake := make_of_fields p
  simp [toJson, Json.toFields, ofFields, Fields.getD, field?, Json.truthy, Json.toInt, Except.bind,
    hmake, Except.mapError]

theorem ofField_eq {fs : Fields} {name : String} {p : Permissions}
    (hfs : field? name fs = some p.toJson) : ofField fs name = .ok p := by
  have htruthy : p.toJson.truthy = true := rfl
  rw [ofField, Fields.orElse, hfs]
  simp only [htruthy, if_true]
  exact ofFields_toFields p

theorem isReadable_toJson (p : Permissions) (room : Nat) :
    p.toJson.isReadable (room + 1) = true := by
  simp [toJson, Json.isReadable, Json.haveReadable]

theorem isWritable_toJson (p : Permissions) : p.toJson.isWritable = true := by
  have hcap : Text.Integer.isTooLong p.cap = false :=
    Text.Integer.isTooLong_of_lt p.maxTransferAmount.toNat_lt_size
  have hflags : Text.Integer.isTooLong p.customFlags.toNat = false :=
    Text.Integer.isTooLong_of_lt (Nat.lt_trans p.customFlags.toNat_lt_size (by decide))
  simp [toJson, Json.isWritable, Json.haveWritable, hcap, hflags]

end Permissions

/-! ## Session keys -/

theorem ExpiryUnit.ofName_name (u : ExpiryUnit) : ofName u.name = .ok u := by
  cases u <;> rfl

namespace SessionKey

theorem revoke_of_isRevoked {k : SessionKey} (hk : k.isRevoked = true) : k.revoke = k := by
  have hstate : k.state = .revoked := eq_of_beq hk
  rw [revoke, ← hstate]

theorem revoke_active {k : SessionKey} (hk : k.isRevoked = true) :
    ({ k with state := .active } : SessionKey).revoke = k := revoke_of_isRevoked hk

theorem active_of_not_isRevoked {k : SessionKey} (hk : k.isRevoked = false) :
    k.state = .active := by
  cases hs : k.state with
  | active => rfl
  | revoked => simp [isRevoked, hs] at hk

/-- A key that is made active and then revoked if it was is the key again. -/
theorem restore_eq (k : SessionKey) :
    (if k.isRevoked = true then ({ k with state := .active } : SessionKey).revoke
      else { k with state := .active }) = k := by
  split
  next hr => exact revoke_active hr
  next hr =>
    have hactive := active_of_not_isRevoked (Bool.eq_false_iff.2 hr)
    obtain ⟨identity, createdAt, expiresAt, unit, permissions, label, state⟩ := k
    obtain rfl : state = .active := hactive
    rfl

/-- What the document of a key is read as. A label of another width is refused, but for an empty
one, which is taken for no label at all. -/
theorem ofFields_toFields_eq (k : SessionKey) : ofFields k.toFields =
    if k.label = [] then .ok { k with label := Label.blank }
    else if k.label.length = Label.size then .ok k else .error (.invalid .labelWidth) := by
  have hlabel : (Fields.orElse k.toFields "label" (.str "")).plain = Text.Hex.encode k.label :=
    Fields.plain_orElse_str rfl
  have hbytes : decoded (Json.toBytes (Text.Hex.encode k.label)) = .ok k.label := by
    rw [Json.toBytes, Text.Hex.decode_encode]
    rfl
  have hpermissions : Permissions.ofField k.toFields "permissions" = .ok k.permissions :=
    Permissions.ofField_eq (by simp [toFields, field?])
  have hrevoked : (Fields.getD k.toFields "is_revoked" .null).truthy = k.isRevoked := by
    simp [toFields, Fields.getD, field?, Json.truthy]
  have hidentity : Fields.require k.toFields "key_identity" = .ok (.str k.identity) := rfl
  have hcreated : Fields.require k.toFields "created_at" = .ok (.int k.createdAt) := rfl
  have hexpires : Fields.require k.toFields "expires_at" = .ok (.int k.expiresAt) := rfl
  have hunit : Fields.require k.toFields "expiration_type" = .ok (.str k.unit.name) := rfl
  simp only [ofFields, hlabel, hpermissions, hrevoked, hidentity, hcreated, hexpires, hunit,
    decoded_ok, Outcome.ok_bind, Json.toInt_int, Json.plain_str, ExpiryUnit.ofName_name,
    Text.Hex.encode_isEmpty, List.isEmpty_iff]
  by_cases hnil : k.label = []
  · rw [if_pos hnil, if_pos hnil, make, if_pos (by decide), Outcome.ok_bind]
    exact congrArg Except.ok (restore_eq { k with label := Label.blank })
  · rw [if_neg hnil, if_neg hnil, hbytes, Outcome.ok_bind, make]
    by_cases hk : k.label.length = Label.size
    · rw [if_pos hk, if_pos hk, Outcome.ok_bind]
      exact congrArg Except.ok (restore_eq k)
    · rw [if_neg hk, if_neg hk]
      rfl

theorem ofFields_toFields {k : SessionKey} (hk : k.label.length = Label.size) :
    ofFields k.toFields = .ok k := by
  have hne : k.label ≠ [] := by
    rintro hnil
    rw [hnil] at hk
    cases hk
  rw [ofFields_toFields_eq, if_neg hne, if_pos hk]

theorem isReadable_toJson (k : SessionKey) (room : Nat) :
    k.toJson.isReadable (room + 2) = true := by
  have hp := Permissions.isReadable_toJson k.permissions room
  simp [toJson, toFields, Json.isReadable, Json.haveReadable, hp]

/-- A key can be written if its times are short enough. -/
theorem isWritable_iff {k : SessionKey} : k.toJson.isWritable = true ↔
    Text.Integer.isTooLong k.createdAt = false ∧ Text.Integer.isTooLong k.expiresAt = false := by
  simp [toJson, toFields, Json.isWritable, Json.haveWritable, k.permissions.isWritable_toJson]

end SessionKey

/-! ## Registries -/

namespace Registry

structure WellFormed (r : Registry) : Prop where
  capacity : r.capacity = maxKeys
  size : r.keys.length ≤ maxKeys
  nodup : (r.keys.map SessionKey.identity).Nodup
  label : ∀ k ∈ r.keys, k.label.length = Label.size

theorem contains_iff {r : Registry} {key : String} :
    r.contains key = true ↔ key ∈ r.keys.map SessionKey.identity := by
  simp [contains, List.any_eq_true]

theorem add_of_fits {r : Registry} {k : SessionKey} (hsize : (r.keys.length : Int) < r.capacity)
    (hk : k.identity ∉ r.keys.map SessionKey.identity) :
    r.add k = .ok { r with keys := r.keys ++ [k] } := by
  have hcontains : ¬ r.contains k.identity = true := fun h => hk (contains_iff.1 h)
  have hfull : ¬ r.isFull = true := by
    rw [isFull, size, decide_eq_true_eq]
    omega
  rw [add, if_neg hfull, if_neg hcontains]

theorem addDocuments_toJson {r : Registry} {ks : List SessionKey}
    (hsize : ((r.keys ++ ks).length : Int) ≤ r.capacity)
    (hnd : ((r.keys ++ ks).map SessionKey.identity).Nodup)
    (hlabel : ∀ k ∈ ks, k.label.length = Label.size) :
    r.addDocuments (ks.map SessionKey.toJson) = .ok { r with keys := r.keys ++ ks } := by
  induction ks generalizing r with
  | nil => simp [addDocuments]
  | cons k ks ih =>
      have hkey : SessionKey.ofFields k.toFields = .ok k :=
        SessionKey.ofFields_toFields (hlabel k List.mem_cons_self)
      have hnew : k.identity ∉ r.keys.map SessionKey.identity := by
        intro hmem
        rw [List.map_append, List.nodup_append] at hnd
        exact hnd.2.2 _ hmem k.identity (by simp) rfl
      have hadd : r.add k = .ok { r with keys := r.keys ++ [k] } := by
        apply add_of_fits _ hnew
        simp only [List.length_append, List.length_cons] at hsize
        omega
      have hrest := ih (r := { r with keys := r.keys ++ [k] }) (by simpa using hsize)
        (by simpa using hnd) fun l hl => hlabel l (List.mem_cons_of_mem k hl)
      simp only [List.map_cons, addDocuments, SessionKey.toJson, Json.toFields, decoded_ok,
        Outcome.ok_bind, hkey, hadd]
      rw [hrest]
      simp

end Registry

/-! ## Accounts -/

namespace Account

structure WellFormed (a : Account) : Prop where
  keys : a.keys.WellFormed
  mints : a.mints.WellFormed

theorem orElse_arr {fs : Fields} (name : String) (js : List Json)
    (hfs : field? name fs = some (.arr js)) : fs.orElse name (.arr []) = .arr js := by
  rw [Fields.orElse, hfs]
  cases js <;> rfl

/-- An account is read back from its document as it was, but for the keys, which are added one by
one. -/
theorem ofJson_toJson_eq {a : Account} (hmints : a.mints.WellFormed) : ofJson a.toJson =
    ((Registry.empty Registry.maxKeys).addDocuments (a.keys.keys.map SessionKey.toJson)).map
      fun keys => { a with keys } := by
  have hplain : (a.mints.mints.map Json.str).map Json.plain = a.mints.mints := by
    rw [List.map_map]
    exact List.map_id _
  have hallow := Allowlist.ofList_mints hmints
  rw [toJson, ofJson, ofFields]
  rw [orElse_arr "session_keys" (a.keys.keys.map SessionKey.toJson) rfl,
    orElse_arr "allowed_mints" (a.mints.mints.map .str) rfl]
  simp only [Fields.require, field?, decoded_ok, Outcome.ok_bind, Json.toItems, hplain, hallow]
  cases (Registry.empty Registry.maxKeys).addDocuments (a.keys.keys.map SessionKey.toJson) <;> rfl

/-- An account within its limits is read back from its document as it was. -/
theorem ofJson_toJson {a : Account} (ha : a.WellFormed) : ofJson a.toJson = .ok a := by
  obtain ⟨authority, address, bump, ⟨capacity, keys⟩, mints⟩ := a
  obtain ⟨⟨hcapacity, hsize, hnd, hlabel⟩, hmints⟩ := ha
  obtain rfl : capacity = Registry.maxKeys := hcapacity
  have hkeys : (Registry.empty Registry.maxKeys).addDocuments (keys.map SessionKey.toJson) =
      .ok ⟨Registry.maxKeys, keys⟩ :=
    Registry.addDocuments_toJson (r := Registry.empty Registry.maxKeys) (Int.ofNat_le.2 hsize)
      hnd hlabel
  rw [ofJson_toJson_eq hmints, hkeys]
  rfl

theorem isReadable_toJson (a : Account) : a.toJson.isReadable Json.Reader.maxDepth = true := by
  have hkeys (room : Nat) : (a.keys.keys.map SessionKey.toJson).all (Json.isReadable (room + 2)) =
      true := by
    simp [List.all_eq_true, SessionKey.isReadable_toJson]
  have hmints (room : Nat) : (a.mints.mints.map Json.str).all (Json.isReadable room) = true := by
    cases room <;> simp [List.all_eq_true, Json.isReadable]
  have hroom (room : Nat) : a.toJson.isReadable (room + 4) = true := by
    simp [toJson, Json.isReadable, Json.haveReadable, Json.areReadable_eq_all, hkeys, hmints]
  exact hroom 976

theorem isWritable_iff {a : Account} : a.toJson.isWritable = true ↔
    Text.Integer.isTooLong a.bump = false ∧ ∀ k ∈ a.keys.keys, k.toJson.isWritable = true := by
  have hmints : (a.mints.mints.map Json.str).all Json.isWritable = true := by
    simp [List.all_eq_true, Json.isWritable]
  simp [toJson, Json.isWritable, Json.haveWritable, Json.areWritable_eq_all, List.all_map, hmints]

/-- An account can be written if one with its keys and others can be. -/
theorem isWritable_of_subset {a a' : Account} (h : a'.toJson.isWritable = true)
    (hbump : a'.bump = a.bump) (hkeys : a.keys.keys ⊆ a'.keys.keys) :
    a.toJson.isWritable = true := by
  obtain ⟨hshort, hall⟩ := isWritable_iff.1 h
  exact isWritable_iff.2 ⟨hbump ▸ hshort, fun k hk => hall k (hkeys hk)⟩

end Account

end Keyring
