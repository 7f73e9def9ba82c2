import Keyring.Text.Utf8
import Mathlib.Tactic.SplitIfs

/-!
# UTF-8, read back

What is written of a text is decoded to that text. The leading byte of a character announces the
bytes that follow and the range of the first of them, and that is in its range: a character
below it would have been written shorter, and one above it would be a surrogate or lie beyond
the last character.
-/

namespace Keyring.Text.Utf8

variable {bs : Bytes} {b more payload value lo hi n : Nat}

/-! ## One byte -/

theorem toNat_byte (h : n < 256) : (UInt8.ofNat n).toNat = n := UInt8.toNat_ofNat_of_lt' h

theorem decodeFrom_ascii (hn : n < 0x80) :
    decodeFrom none (UInt8.ofNat n :: bs) = Char.ofNat n :: decodeFrom none bs := by
  rw [decodeFrom, step, start, toNat_byte (by omega), lead?, if_pos hn]
  rfl

theorem decodeFrom_lead (hb : b < 256) (h : lead? b = some ⟨more + 1, payload, lo, hi⟩) :
    decodeFrom none (UInt8.ofNat b :: bs) =
      decodeFrom (some ⟨more + 1, payload, lo, hi⟩) bs := by
  rw [decodeFrom, step, start, toNat_byte hb, h]
  rfl

/-- A byte in its range adds its six bits. -/
theorem step_of_mem (hlo : lo ≤ 0x80 + n) (hhi : 0x80 + n ≤ hi) :
    step (some ⟨more + 1, value, lo, hi⟩) (0x80 + n) =
      if more = 0 then ([Char.ofNat (value * 64 + n)], none)
      else ([], some ⟨more, value * 64 + n, 0x80, 0xbf⟩) := by
  have hrange : (decide (lo ≤ 0x80 + n) && decide (0x80 + n ≤ hi)) = true := by
    simp [hlo, hhi]
  simp only [step, hrange, if_true, Nat.add_sub_cancel_left, Nat.add_sub_cancel, Nat.add_eq_right]

theorem decodeFrom_next (hn : n < 64) (hlo : lo ≤ 0x80 + n) (hhi : 0x80 + n ≤ hi) :
    decodeFrom (some ⟨more + 2, value, lo, hi⟩) (UInt8.ofNat (0x80 + n) :: bs) =
      decodeFrom (some ⟨more + 1, value * 64 + n, 0x80, 0xbf⟩) bs := by
  rw [decodeFrom, toNat_byte (by omega), step_of_mem hlo hhi, if_neg (Nat.succ_ne_zero more)]
  rfl

theorem decodeFrom_last (hn : n < 64) (hlo : lo ≤ 0x80 + n) (hhi : 0x80 + n ≤ hi) :
    decodeFrom (some ⟨1, value, lo, hi⟩) (UInt8.ofNat (0x80 + n) :: bs) =
      Char.ofNat (value * 64 + n) :: decodeFrom none bs := by
  rw [decodeFrom, toNat_byte (by omega), step_of_mem hlo hhi, if_pos rfl]
  rfl

/-! ## One character -/

theorem decodeFrom_encodeChar_append (c : Char) (bs : Bytes) :
    decodeFrom none (encodeChar c ++ bs) = c :: decodeFrom none bs := by
  have hvalid : c.toNat < 0xd800 ∨ 0xdfff < c.toNat ∧ c.toNat < 0x110000 := c.valid
  have hofNat : Char.ofNat c.toNat = c := Char.ofNat_toNat c
  simp only [encodeChar]
  generalize c.toNat = n at hvalid hofNat
  subst hofNat
  have hsix (m : Nat) : m % 64 < 64 := Nat.mod_lt m (by decide)
  have hlow (m : Nat) : 0x80 ≤ 0x80 + m % 64 := Nat.le_add_right _ _
  have hhigh (m : Nat) : 0x80 + m % 64 ≤ 0xbf := Nat.add_le_add_left (Nat.le_of_lt_succ (hsix m)) _
  split_ifs with hone htwo hthree <;> simp only [List.cons_append, List.nil_append]
  · exact decodeFrom_ascii hone
  · have hlead : lead? (0xc0 + n / 64) = some ⟨1, n / 64, 0x80, 0xbf⟩ := by
      rw [lead?, if_neg (by omega), if_neg (by omega), if_pos (by omega), Nat.add_sub_cancel_left]
    rw [decodeFrom_lead (by omega) hlead, decodeFrom_last (hsix n) (hlow n) (hhigh n),
      Nat.div_add_mod']
  · obtain ⟨lo, hlo⟩ : ∃ lo, lo = if 0xe0 + n / 4096 = 0xe0 then 0xa0 else 0x80 := ⟨_, rfl⟩
    obtain ⟨hi, hhi⟩ : ∃ hi, hi = if 0xe0 + n / 4096 = 0xed then 0x9f else 0xbf := ⟨_, rfl⟩
    have hlead : lead? (0xe0 + n / 4096) = some ⟨2, n / 4096, lo, hi⟩ := by
      rw [lead?, if_neg (by omega), if_neg (by omega), if_neg (by omega), if_pos (by omega),
        Nat.add_sub_cancel_left, hlo, hhi]
    have hlo : lo ≤ 0x80 + n / 64 % 64 := by split at hlo <;> omega
    have hhi : 0x80 + n / 64 % 64 ≤ hi := by split at hhi <;> omega
    have hvalue : (n / 4096 * 64 + n / 64 % 64) * 64 + n % 64 = n := by omega
    rw [decodeFrom_lead (by omega) hlead, decodeFrom_next (hsix _) hlo hhi,
      decodeFrom_last (hsix n) (hlow n) (hhigh n), hvalue]
  · obtain ⟨lo, hlo⟩ : ∃ lo, lo = if 0xf0 + n / 262144 = 0xf0 then 0x90 else 0x80 := ⟨_, rfl⟩
    obtain ⟨hi, hhi⟩ : ∃ hi, hi = if 0xf0 + n / 262144 = 0xf4 then 0x8f else 0xbf := ⟨_, rfl⟩
    have hlead : lead? (0xf0 + n / 262144) = some ⟨3, n / 262144, lo, hi⟩ := by
      rw [lead?, if_neg (by omega), if_neg (by omega), if_neg (by omega), if_neg (by omega),
        if_pos (by omega), Nat.add_sub_cancel_left, hlo, hhi]
    have hlo : lo ≤ 0x80 + n / 4096 % 64 := by split at hlo <;> omega
    have hhi : 0x80 + n / 4096 % 64 ≤ hi := by split at hhi <;> omega
    have hvalue : ((n / 262144 * 64 + n / 4096 % 64) * 64 + n / 64 % 64) * 64 + n % 64 = n := by
      omega
    rw [decodeFrom_lead (by omega) hlead, decodeFrom_next (hsix _) hlo hhi,
      decodeFrom_next (hsix _) (hlow _) (hhigh _), decodeFrom_last (hsix n) (hlow n) (hhigh n),
      hvalue]

theorem decode_encode (s : String) : decode (encode s) = s := by
  have hchars (cs : List Char) : decodeFrom none (cs.flatMap encodeChar) = cs := by
    induction cs with
    | nil => rfl
    | cons c cs ih => rw [List.flatMap_cons, decodeFrom_encodeChar_append, ih]
  rw [decode, encode, hchars, String.ofList_toList]

end Keyring.Text.Utf8
