import Keyring.Text.Hex

/-!
# Hexadecimal text, read back

What is written of a byte string is read as that byte string. The digits of a number are those of
its sixteenth and one more, so that four of them hold every number below 65536.
-/

namespace Keyring.Text.Hex

theorem digit?_digit : ∀ n < 16, digit? (digit n) = some n := by decide

theorem not_isAsciiBlank_digit : ∀ n < 16, isAsciiBlank (digit n) = false := by decide

theorem toNat_digit_lt : ∀ n < 16, (digit n).toNat < 0x80 := by decide

theorem mem_encodeChars_lt {c : Char} {bs : Bytes} (h : c ∈ encodeChars bs) : c.toNat < 0x80 := by
  induction bs with
  | nil => simp [encodeChars] at h
  | cons b bs ih =>
      have hb : b.toNat < 256 := b.toNat_lt
      simp only [encodeChars, List.mem_cons] at h
      rcases h with rfl | rfl | h
      · exact toNat_digit_lt _ (by omega)
      · exact toNat_digit_lt _ (by omega)
      · exact ih h

theorem decodeChars_encodeChars (i : Nat) (bs : Bytes) :
    decodeChars i (encodeChars bs) = .ok bs := by
  induction bs generalizing i with
  | nil => rfl
  | cons b bs ih =>
      have hb : b.toNat < 256 := b.toNat_lt
      have hhi : b.toNat / 16 < 16 := by omega
      have hlo : b.toNat % 16 < 16 := by omega
      have hval : 16 * (b.toNat / 16) + b.toNat % 16 = b.toNat := by omega
      rw [encodeChars, decodeChars, not_isAsciiBlank_digit _ hhi, digit?_digit _ hhi,
        digit?_digit _ hlo, ih]
      simp [Except.map, hval]

theorem decode_encode (bs : Bytes) : decode (encode bs) = .ok bs := by
  have hascii : (encodeChars bs).findIdx? (fun c => decide (0x80 ≤ c.toNat)) = none := by
    rw [List.findIdx?_eq_none_iff]
    intro c hc
    have := mem_encodeChars_lt hc
    simpa using this
  simp only [decode, encode, String.toList_ofList, hascii, decodeChars_encodeChars]

theorem encode_isEmpty (bs : Bytes) : (encode bs).isEmpty = bs.isEmpty := by
  cases bs <;> simp [encode, encodeChars, String.isEmpty_iff, ← String.toList_inj]

/-! ## Numbers of four digits -/

theorem ofNat_zero (n : Nat) : ofNat 0 n = ((Radix.digits 16 n).map digit).reverse := by
  simp [ofNat]

theorem ofNat_succ (w n : Nat) : ofNat (w + 1) n = ofNat w (n / 16) ++ [digit (n % 16)] := by
  by_cases hn : 0 < n
  · have hd : Radix.digits 16 n = n % 16 :: Radix.digits 16 (n / 16) := by
      rw [Radix.digits, dif_pos ⟨by decide, hn⟩]
    simp only [ofNat, hd, List.map_cons, List.reverse_cons, List.length_append, List.length_cons,
      List.length_nil, Nat.zero_add, Nat.add_sub_add_right, List.append_assoc]
  · have h0 : n = 0 := by omega
    subst h0
    have hd : Radix.digits 16 0 = [] := by rw [Radix.digits, dif_neg (by omega)]
    simp [ofNat, hd, List.replicate_succ', digit]

theorem ofNat_four {n : Nat} (hn : n < 0x10000) :
    ofNat 4 n = [digit (n / 4096 % 16), digit (n / 256 % 16), digit (n / 16 % 16),
      digit (n % 16)] := by
  have h0 : ofNat 0 (n / 16 / 16 / 16 / 16) = [] := by
    have : n / 16 / 16 / 16 / 16 = 0 := by omega
    rw [this, ofNat_zero, Radix.digits, dif_neg (by omega)]
    rfl
  have h1 : n / 16 / 16 / 16 = n / 4096 := by omega
  have h2 : n / 16 / 16 = n / 256 := by omega
  rw [ofNat_succ, ofNat_succ, ofNat_succ, ofNat_succ, h0, h1, h2]
  rfl

end Keyring.Text.Hex
