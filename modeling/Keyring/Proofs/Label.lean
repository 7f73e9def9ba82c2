import Keyring.Label
import Keyring.Proofs.Text.Utf8
import Mathlib.Data.List.DropRight
import Mathlib.Tactic.SplitIfs

/-!
# What a label takes

The bytes of a text are those that UTF-8 gives it, as many as its size says. A label has room for
32, and zero bytes make up for what a text leaves free. They are the bytes of zero characters, and
no other character has one, so that a label is read as its text without the zeros at the end of it.
-/

namespace Keyring

namespace Text.Utf8

theorem encodeChar_eq (c : Char) : encodeChar c = String.utf8EncodeChar c := by
  have hlt : c.toNat < 0x110000 := by
    rcases c.valid with h | h
    · exact Nat.lt_trans h (by decide)
    · exact h.2
  simp only [encodeChar, String.utf8EncodeChar, show c.val.toNat = c.toNat from rfl]
  generalize c.toNat = n at hlt
  -- The leading bytes are cut to their width in one of the two, which they fit in any case.
  have htwo (h : n < 0x800) : n / 64 % 32 + 192 = 192 + n / 64 := by omega
  have hthree (h : n < 0x10000) : n / 4096 % 16 + 224 = 224 + n / 4096 := by omega
  have hfour : n / 262144 % 8 + 240 = 240 + n / 262144 := by omega
  have hnext (m : Nat) : m % 64 + 128 = 128 + m % 64 := Nat.add_comm _ _
  simp only [← Nat.lt_succ_iff (n := 127), ← Nat.lt_succ_iff (n := 2047),
    ← Nat.lt_succ_iff (n := 65535), hnext]
  split_ifs with h₁ h₂ h₃
  · rfl
  · rw [htwo h₂]
  · rw [hthree h₃]
  · rw [hfour]

theorem encode_eq (s : String) : encode s = s.toUTF8.data.toList := by
  have hchars : encodeChar = String.utf8EncodeChar := funext encodeChar_eq
  rw [encode, hchars, String.toUTF8, ← String.utf8Encode_toList, List.utf8Encode,
    List.toList_data_toByteArray]

theorem length_encode (s : String) : (encode s).length = s.utf8ByteSize := by
  rw [encode_eq]
  rfl

theorem encodeChar_ne_nil (c : Char) : encodeChar c ≠ [] := by
  simp only [encodeChar]
  split_ifs <;> exact List.cons_ne_nil _ _

theorem ofNat_ne_zero {n : Nat} (hpos : 0 < n) (hlt : n < 256) : UInt8.ofNat n ≠ 0 := by
  intro h
  have hzero : (UInt8.ofNat n).toNat = 0 := congrArg UInt8.toNat h
  rw [toNat_byte hlt] at hzero
  omega

/-- The last byte of a character says more than zero, unless the character is zero. -/
theorem getLast_encodeChar_ne_zero {c : Char} (hc : c ≠ '\x00') (h : encodeChar c ≠ []) :
    (encodeChar c).getLast h ≠ 0 := by
  have hpos : 0 < c.toNat := Nat.pos_of_ne_zero fun h => hc (Char.toNat_inj.1 h)
  revert h
  simp only [encodeChar]
  split_ifs with hone <;> intro h
  · exact ofNat_ne_zero hpos (by omega)
  all_goals exact ofNat_ne_zero (by omega) (by omega)

/-- The zero bytes at the end of a text are its zero characters there. -/
theorem rdropWhile_flatMap_encodeChar (cs : List Char) :
    (cs.flatMap encodeChar).rdropWhile (· == 0) =
      (cs.rdropWhile (· == '\x00')).flatMap encodeChar := by
  induction cs using List.reverseRecOn with
  | nil => rfl
  | append_singleton cs c ih =>
      rw [List.flatMap_append, List.flatMap_singleton]
      by_cases hc : c = '\x00'
      · subst hc
        rw [List.rdropWhile_concat_pos _ _ _ rfl, ← ih]
        exact List.rdropWhile_concat_pos _ _ _ rfl
      · rw [List.rdropWhile_concat_neg _ _ _ (by simpa using hc), List.flatMap_append,
          List.flatMap_singleton, List.rdropWhile_eq_self_iff]
        intro h
        rw [List.getLast_append_of_ne_nil h (encodeChar_ne_nil c)]
        simpa using getLast_encodeChar_ne_zero hc (encodeChar_ne_nil c)

end Text.Utf8

namespace Label

variable {s : String} {label : Bytes}

theorem ofText?_eq_some_iff : ofText? s = some label ↔ s.utf8ByteSize ≤ size ∧
    label = s.toUTF8.data.toList ++ List.replicate (size - s.utf8ByteSize) 0 := by
  simp only [ofText?, Text.Utf8.length_encode]
  rw [Text.Utf8.encode_eq]
  split
  next h => simp [h, eq_comm]
  next h => simp [h]

theorem ofText?_eq_none_iff : ofText? s = none ↔ size < s.utf8ByteSize := by
  simp only [ofText?, Text.Utf8.length_encode]
  split
  next h => simp [Nat.not_lt.2 h]
  next h => simp [Nat.not_le.1 h]

theorem length_of_ofText? (h : ofText? s = some label) : label.length = size := by
  obtain ⟨hsize, rfl⟩ := ofText?_eq_some_iff.1 h
  rw [List.length_append, List.length_replicate, ← Text.Utf8.encode_eq, Text.Utf8.length_encode]
  omega

/-! ## What is read of it -/

def padded (s : String) (n : Nat) : String := s ++ String.ofList (List.replicate n '\x00')

def bare (s : String) : String := String.ofList (s.toList.rdropWhile (· == '\x00'))

theorem encode_padded (s : String) (n : Nat) :
    Text.Utf8.encode (padded s n) = Text.Utf8.encode s ++ List.replicate n 0 := by
  rw [Text.Utf8.encode, Text.Utf8.encode, padded, String.toList_append, String.toList_ofList,
    List.flatMap_append, List.flatMap_replicate]
  congr 1
  exact List.flatten_replicate_singleton

theorem utf8ByteSize_padded (s : String) (n : Nat) :
    (padded s n).utf8ByteSize = s.utf8ByteSize + n := by
  rw [← Text.Utf8.length_encode, encode_padded, List.length_append, List.length_replicate,
    Text.Utf8.length_encode]

theorem bare_padded (s : String) (n : Nat) : bare (padded s n) = bare s := by
  rw [bare, padded, String.toList_append, String.toList_ofList]
  induction n with
  | zero => rw [List.replicate_zero, List.append_nil, bare]
  | succ n ih =>
      rw [List.replicate_succ', ← List.append_assoc, List.rdropWhile_concat_pos _ _ _ rfl, ih]

/-- Zero characters are all that a text has more than it has without them. -/
theorem exists_padded_bare (s : String) : ∃ n, s = padded (bare s) n := by
  have hzeros : s.toList.rtakeWhile (· == '\x00') =
      List.replicate (s.toList.rtakeWhile (· == '\x00')).length '\x00' :=
    List.eq_replicate_iff.2 ⟨rfl, fun c hc => by simpa using List.mem_rtakeWhile_imp hc⟩
  refine ⟨(s.toList.rtakeWhile (· == '\x00')).length, String.toList_inj.1 ?_⟩
  rw [padded, bare, String.toList_append, String.toList_ofList, String.toList_ofList, ← hzeros,
    List.rdropWhile_append_rtakeWhile]

/-- Two texts are the same without those if they differ in nothing else. -/
theorem bare_eq_bare_iff {t : String} :
    bare s = bare t ↔ ∃ u m n, s = padded u m ∧ t = padded u n := by
  constructor
  · intro h
    obtain ⟨m, hm⟩ := exists_padded_bare s
    obtain ⟨n, hn⟩ := exists_padded_bare t
    exact ⟨bare s, m, n, hm, h ▸ hn⟩
  · rintro ⟨u, m, n, rfl, rfl⟩
    rw [bare_padded, bare_padded]

theorem rdropWhile_encode (s : String) :
    (Text.Utf8.encode s).rdropWhile (· == 0) = Text.Utf8.encode (bare s) := by
  rw [Text.Utf8.encode, Text.Utf8.rdropWhile_flatMap_encodeChar, Text.Utf8.encode, bare,
    String.toList_ofList]

theorem text_of_ofText? (h : ofText? s = some label) : text label = bare s := by
  obtain ⟨hsize, rfl⟩ := ofText?_eq_some_iff.1 h
  rw [← Text.Utf8.encode_eq, ← encode_padded, ← bare_padded s (size - s.utf8ByteSize),
    ← Text.Utf8.decode_encode (bare _), ← rdropWhile_encode]
  rfl

/-- What is not read of a label is not needed to make it. -/
theorem ofText?_bare (h : ofText? s = some label) : ofText? (bare s) = some label := by
  obtain ⟨n, hn⟩ := exists_padded_bare s
  obtain ⟨hsize, rfl⟩ := ofText?_eq_some_iff.1 h
  have hbytes := utf8ByteSize_padded (bare s) n
  have hencode := encode_padded (bare s) n
  rw [← hn] at hbytes hencode
  refine ofText?_eq_some_iff.2 ⟨by omega, ?_⟩
  rw [← Text.Utf8.encode_eq, ← Text.Utf8.encode_eq, hencode, List.append_assoc,
    List.replicate_append_replicate]
  congr 2
  omega

theorem eq_iff_of_ofText? {t : String} {label' : Bytes} (h : ofText? s = some label)
    (h' : ofText? t = some label') : label = label' ↔ bare s = bare t := by
  constructor
  · rintro rfl
    rw [← text_of_ofText? h, text_of_ofText? h']
  · intro heq
    exact Option.some.inj ((ofText?_bare h).symm.trans (heq ▸ ofText?_bare h'))

end Label

end Keyring
