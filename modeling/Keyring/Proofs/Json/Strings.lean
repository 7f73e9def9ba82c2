import Keyring.Json.Printer
import Keyring.Json.Reader
import Keyring.Proofs.Text.Hex
import Mathlib.Tactic.SplitIfs

/-!
# Written strings, read back

A string that is written in ASCII is read as itself, character by character. Characters beyond the
first 65536 are read off two escapes, and a half of a pair off one. A high half is joined to a low
one that follows it, so it matters that a low half is never written right after a high one: the
two together are characters of their own and are written in full.
-/

namespace Keyring

namespace Text.Surrogate

theorem isValidChar (c : Char) : c.toNat < 0xd800 ∨ 0xdfff < c.toNat ∧ c.toNat < 0x110000 := c.valid

theorem not_isLow_toNat (c : Char) : isLow c.toNat = false := by
  have := isValidChar c
  simp only [isLow, Bool.and_eq_false_iff, decide_eq_false_iff_not]
  omega

theorem not_isHigh_toNat (c : Char) : isHigh c.toNat = false := by
  have := isValidChar c
  simp only [isHigh, Bool.and_eq_false_iff, decide_eq_false_iff_not]
  omega

theorem not_isLow_of_isHigh {n : Nat} (h : isHigh n = true) : isLow n = false := by
  simp only [isHigh, isLow, Bool.and_eq_true, decide_eq_true_eq, Bool.and_eq_false_iff,
    decide_eq_false_iff_not] at h ⊢
  omega

/-- A character beyond the first 65536 is named by a high half and a low one. -/
theorem halves_eq {c : Char} (hc : 0x10000 ≤ c.toNat) :
    ∃ h l, halves c = (h, l) ∧ isHigh h = true ∧ isLow l = true ∧ joined h l = c := by
  have hvalid := isValidChar c
  obtain ⟨m, hm⟩ : ∃ m, c.toNat = 0x10000 + m := ⟨_, (Nat.add_sub_of_le hc).symm⟩
  have hhalves : halves c = (0xd800 + m / 0x400, 0xdc00 + m % 0x400) := by
    rw [halves, hm, Nat.add_sub_cancel_left]
  refine ⟨_, _, hhalves, ?_, ?_, ?_⟩
  · simp only [isHigh, Bool.and_eq_true, decide_eq_true_eq]
    omega
  · simp only [isLow, Bool.and_eq_true, decide_eq_true_eq]
    omega
  · have hn : 0x10000 + (0xd800 + m / 0x400 - 0xd800) * 0x400 + (0xdc00 + m % 0x400 - 0xdc00) =
        c.toNat := by omega
    rw [joined, hn, Char.ofNat_toNat]

theorem lt_of_isHigh {n : Nat} (h : isHigh n = true) : n < 0x10000 := by
  simp only [isHigh, Bool.and_eq_true, decide_eq_true_eq] at h
  omega

theorem lt_of_isLow {n : Nat} (h : isLow n = true) : n < 0x10000 := by
  simp only [isLow, Bool.and_eq_true, decide_eq_true_eq] at h
  omega

theorem half?_eq_some {c : Char} {h : Nat} (hc : half? c = some h) :
    standIn h = c ∧ h < 0x10000 ∧ (isHigh h = true ∨ isLow h = true) := by
  simp only [half?] at hc
  split_ifs at hc with hle hhalf
  obtain rfl := Option.some.inj hc
  rw [Bool.or_eq_true] at hhalf
  have hlt : c.toNat - offset < 0xe000 := by
    simp only [isHigh, isLow, Bool.and_eq_true, decide_eq_true_eq] at hhalf
    omega
  have hadd : offset + (c.toNat - offset) = c.toNat := by omega
  exact ⟨by rw [standIn, hadd, Char.ofNat_toNat], by omega, hhalf⟩

end Text.Surrogate

namespace Json.Reader

open Text.Surrogate

theorem unit?_ofNat {n : Nat} (hn : n < 0x10000) {r : List Char} (hr : r ≠ []) :
    unit? (Text.Hex.ofNat 4 n ++ r) = some (n, r) := by
  obtain ⟨c, r, rfl⟩ := List.exists_cons_of_ne_nil hr
  have hd (m : Nat) : Text.Hex.digit? (Text.Hex.digit (m % 16)) = some (m % 16) :=
    Text.Hex.digit?_digit _ (Nat.mod_lt _ (by decide))
  have hval : ((n / 4096 % 16 * 16 + n / 256 % 16) * 16 + n / 16 % 16) * 16 + n % 16 = n := by
    omega
  rw [Text.Hex.ofNat_four hn]
  simp only [List.cons_append, List.nil_append, unit?, hd, hval]

/-- A text that does not go on with the escape of a low half. -/
def NoLow (r : List Char) : Prop :=
  ∀ t, r = '\\' :: 'u' :: t → ∃ m t', unit? t = some (m, t') ∧ isLow m = false

theorem noLow_of_head {c : Char} {r : List Char} (hc : c ≠ '\\') : NoLow (c :: r) := by
  intro t ht
  exact absurd (List.cons.inj ht).1 hc

theorem noLow_letter {c : Char} {r : List Char} (hc : c ≠ 'u') : NoLow ('\\' :: c :: r) := by
  intro t ht
  exact absurd (List.cons.inj (List.cons.inj ht).2).1 hc

theorem unitEscape_append_ne_nil (n : Nat) (r : List Char) : unitEscape n ++ r ≠ [] :=
  List.cons_ne_nil _ _

theorem noLow_unitEscape {n : Nat} (hn : n < 0x10000) (hlow : isLow n = false) {r : List Char}
    (hr : r ≠ []) : NoLow (unitEscape n ++ r) := by
  intro t ht
  obtain rfl : Text.Hex.ofNat 4 n ++ r = t := by
    simpa [unitEscape] using ht
  exact ⟨n, r, unit?_ofNat hn hr, hlow⟩

/-! ## One escape -/

theorem string_unitEscape {n : Nat} (hn : n < 0x10000) (hhigh : isHigh n = false) {r : List Char}
    (hr : r ≠ []) (opened fuel : Nat) (acc : List Char) :
    string opened (fuel + 1) acc (unitEscape n ++ r) = string opened fuel (charOf n :: acc) r := by
  have hu : unitEscape? (Text.Hex.ofNat 4 n ++ r) = some (charOf n, r) := by
    simp [unitEscape?, unit?_ofNat hn hr, hhigh]
  simp [unitEscape, string, hu]

theorem string_high {n : Nat} (hhigh : isHigh n = true) {r : List Char} (hr : r ≠ [])
    (hlow : NoLow r) (opened fuel : Nat) (acc : List Char) :
    string opened (fuel + 1) acc (unitEscape n ++ r) = string opened fuel (standIn n :: acc) r := by
  have hu : unitEscape? (Text.Hex.ofNat 4 n ++ r) = some (standIn n, r) := by
    simp only [unitEscape?, unit?_ofNat (lt_of_isHigh hhigh) hr, hhigh, if_true]
    split
    next t =>
      obtain ⟨m, t', hm, hml⟩ := hlow t rfl
      split <;> simp [hm, hml]
    next => rfl
  simp [unitEscape, string, hu]

theorem string_pair {h l : Nat} (hhigh : isHigh h = true) (hlow : isLow l = true) {r : List Char}
    (hr : r ≠ []) (opened fuel : Nat) (acc : List Char) :
    string opened (fuel + 1) acc (unitEscape h ++ (unitEscape l ++ r)) =
      string opened fuel (joined h l :: acc) r := by
  have hh := lt_of_isHigh hhigh
  have hl := lt_of_isLow hlow
  have hlen : ¬ (Text.Hex.ofNat 4 l ++ r).length < 5 := by
    have := List.length_pos_iff.2 hr
    simp [Text.Hex.ofNat_four hl]
    omega
  have hu : unitEscape? (Text.Hex.ofNat 4 h ++ ('\\' :: 'u' :: (Text.Hex.ofNat 4 l ++ r))) =
      some (joined h l, r) := by
    simp only [unitEscape?, unit?_ofNat hh (List.cons_ne_nil _ _), hhigh, if_true, if_neg hlen,
      unit?_ofNat hl hr, hlow]
  simp [unitEscape, string, hu]

/-! ## One character -/

theorem escapedHalf_of_eq_none {c : Char} (hc : half? c = none) (ascii : Bool) :
    escapedHalf ascii c = escapedChar ascii c := by
  rw [escapedHalf, hc]

theorem escapedHalf_of_eq_some {c : Char} {h : Nat} (hc : half? c = some h) :
    escapedHalf true c = unitEscape h := by
  rw [escapedHalf, hc]
  rfl

theorem string_letter {e c : Char} (he : letterEscape? e = some c) (hu : e ≠ 'u') (r : List Char)
    (opened fuel : Nat) (acc : List Char) :
    string opened (fuel + 1) acc ('\\' :: e :: r) = string opened fuel (c :: acc) r := by
  simp [string, hu, he]

theorem string_plain {c : Char} (hq : c ≠ '\x22') (hb : c ≠ '\\') (hc : 0x20 ≤ c.toNat)
    (r : List Char) (opened fuel : Nat) (acc : List Char) :
    string opened (fuel + 1) acc (c :: r) = string opened fuel (c :: acc) r := by
  have hn : ¬ c.toNat < 0x20 := by omega
  simp only [string, if_neg hq, if_neg hb, if_neg hn]

theorem charOf_toNat (c : Char) : charOf c.toNat = c := by
  rw [charOf, not_isLow_toNat, if_neg (by decide), Char.ofNat_toNat]

/-- The four ways in which a character is written: by a letter, by its number, as it is, or by the
two halves that name it. -/
theorem escapedChar_cases (c : Char) :
    (∃ e, escapedChar true c = ['\\', e] ∧ letterEscape? e = some c ∧ e ≠ 'u') ∨
      (escapedChar true c = unitEscape c.toNat ∧ c.toNat < 0x10000) ∨
      (escapedChar true c = [c] ∧ c ≠ '\x22' ∧ c ≠ '\\' ∧ 0x20 ≤ c.toNat ∧ c.toNat < 0x7f) ∨
      ∃ h l, escapedChar true c = unitEscape h ++ unitEscape l ∧ isHigh h = true ∧
        isLow l = true ∧ joined h l = c := by
  have hletter {e d : Char} (he : letterEscape? e = some d) (hu : e ≠ 'u') (hd : d = c) :
      ∃ e', ['\\', e] = ['\\', e'] ∧ letterEscape? e' = some c ∧ e' ≠ 'u' :=
    ⟨e, rfl, hd ▸ he, hu⟩
  unfold escapedChar
  dsimp only
  by_cases hq : c = '\x22'
  · rw [if_pos hq]
    exact .inl (hletter rfl (by decide) hq.symm)
  rw [if_neg hq]
  by_cases hb : c = '\\'
  · rw [if_pos hb]
    exact .inl (hletter rfl (by decide) hb.symm)
  rw [if_neg hb]
  by_cases hn : c = '\n'
  · rw [if_pos hn]
    exact .inl (hletter rfl (by decide) hn.symm)
  rw [if_neg hn]
  by_cases hr : c = '\r'
  · rw [if_pos hr]
    exact .inl (hletter rfl (by decide) hr.symm)
  rw [if_neg hr]
  by_cases ht : c = '\t'
  · rw [if_pos ht]
    exact .inl (hletter rfl (by decide) ht.symm)
  rw [if_neg ht]
  by_cases h8 : c.toNat = 8
  · rw [if_pos h8]
    exact .inl (hletter rfl (by decide) (by rw [← h8, Char.ofNat_toNat]))
  rw [if_neg h8]
  by_cases h12 : c.toNat = 12
  · rw [if_pos h12]
    exact .inl (hletter rfl (by decide) (by rw [← h12, Char.ofNat_toNat]))
  rw [if_neg h12]
  by_cases h20 : c.toNat < 0x20
  · rw [if_pos h20]
    exact .inr (.inl ⟨rfl, by omega⟩)
  rw [if_neg h20]
  by_cases h7f : c.toNat < 0x7f
  · rw [if_pos (by simp [h7f])]
    exact .inr (.inr (.inl ⟨rfl, hq, hb, by omega, h7f⟩))
  rw [if_neg (by simp [h7f])]
  by_cases h16 : c.toNat < 0x10000
  · rw [if_pos h16]
    exact .inr (.inl ⟨rfl, h16⟩)
  rw [if_neg h16]
  obtain ⟨h, l, hc, hh, hl, hj⟩ := halves_eq (c := c) (by omega)
  rw [hc]
  exact .inr (.inr (.inr ⟨h, l, rfl, hh, hl, hj⟩))

theorem string_escapedChar (c : Char) {r : List Char} (hr : r ≠ []) (opened fuel : Nat)
    (acc : List Char) :
    string opened (fuel + 1) acc (escapedChar true c ++ r) = string opened fuel (c :: acc) r := by
  rcases escapedChar_cases c with ⟨e, he, hc, hu⟩ | ⟨he, hn⟩ | ⟨he, hq, hb, hc⟩ |
    ⟨h, l, he, hh, hl, hj⟩
  · rw [he]
    exact string_letter hc hu r opened fuel acc
  · rw [he, string_unitEscape hn (not_isHigh_toNat c) hr, charOf_toNat]
  · rw [he]
    exact string_plain hq hb hc.1 r opened fuel acc
  · rw [he, List.append_assoc, string_pair hh hl hr, hj]

theorem noLow_escapedChar (c : Char) {r : List Char} (hr : r ≠ []) :
    NoLow (escapedChar true c ++ r) := by
  rcases escapedChar_cases c with ⟨e, he, hc, hu⟩ | ⟨he, hn⟩ | ⟨he, hq, hb, hc⟩ |
    ⟨h, l, he, hh, hl, hj⟩
  · rw [he]
    exact noLow_letter hu
  · rw [he]
    exact noLow_unitEscape hn (not_isLow_toNat c) hr
  · rw [he]
    exact noLow_of_head hb
  · rw [he, List.append_assoc]
    exact noLow_unitEscape (lt_of_isHigh hh) (not_isLow_of_isHigh hh)
      (unitEscape_append_ne_nil l r)

theorem string_escapedHalf (c : Char) {r : List Char} (hr : r ≠ [])
    (hlow : (half? c).any isHigh = true → NoLow r) (opened fuel : Nat) (acc : List Char) :
    string opened (fuel + 1) acc (escapedHalf true c ++ r) = string opened fuel (c :: acc) r := by
  cases hc : half? c with
  | none =>
      rw [escapedHalf_of_eq_none hc]
      exact string_escapedChar c hr opened fuel acc
  | some h =>
      obtain ⟨hstand, hlt, hhalf⟩ := half?_eq_some hc
      rw [escapedHalf_of_eq_some hc]
      cases hhigh : isHigh h with
      | true => rw [string_high hhigh hr (hlow (by simpa [hc] using hhigh)), hstand]
      | false =>
          have hl : isLow h = true := by simpa [hhigh] using hhalf
          rw [string_unitEscape hlt hhigh hr, charOf, hl, if_pos rfl, hstand]

theorem noLow_escapedHalf {c : Char} (hc : (half? c).any isLow = false) {r : List Char}
    (hr : r ≠ []) : NoLow (escapedHalf true c ++ r) := by
  cases hh : half? c with
  | none =>
      rw [escapedHalf_of_eq_none hh]
      exact noLow_escapedChar c hr
  | some h =>
      have hlow : isLow h = false := by simpa [hh] using hc
      rw [escapedHalf_of_eq_some hh]
      exact noLow_unitEscape (half?_eq_some hh).2.1 hlow hr

/-! ## All characters -/

/-- What is written after a high half that is no part of a pair does not begin with a low one. -/
theorem noLow_escapedChars {d : Char} (hd : (half? d).any isLow = false) (cs : List Char)
    {r : List Char} (hr : r ≠ []) : NoLow (escapedChars true (d :: cs) ++ r) := by
  cases cs with
  | nil => exact noLow_escapedHalf hd hr
  | cons e cs =>
      rw [escapedChars]
      split
      · rw [List.append_assoc, List.append_assoc]
        exact noLow_escapedChar d (by simp [hr])
      · rw [List.append_assoc]
        exact noLow_escapedHalf hd (by simp [hr])

theorem string_escapedChars (cs : List Char) (opened fuel : Nat) (hfuel : cs.length < fuel)
    (acc rest : List Char) :
    string opened fuel acc (escapedChars true cs ++ '\x22' :: rest) =
      .ok (String.ofList (acc.reverse ++ cs), rest) := by
  obtain ⟨fuel, rfl⟩ : ∃ n, fuel = n + 1 := ⟨fuel - 1, by omega⟩
  fun_induction escapedChars true cs generalizing fuel acc with
  | case1 => simp [string]
  | case2 c =>
      obtain ⟨fuel, rfl⟩ : ∃ n, fuel = n + 1 := ⟨fuel - 1, by simp at hfuel; omega⟩
      rw [string_escapedHalf c (List.cons_ne_nil _ _) fun _ => noLow_of_head (by decide)]
      simp [string]
  | case3 c d cs hpair ih =>
      obtain ⟨fuel, rfl⟩ : ∃ n, fuel = n + 2 := ⟨fuel - 2, by simp at hfuel; omega⟩
      rw [List.append_assoc, List.append_assoc, string_escapedChar c (by simp),
        string_escapedChar d (by simp), ih (d :: c :: acc) fuel (by simp at hfuel; omega)]
      simp
  | case4 c d cs hpair ih =>
      obtain ⟨fuel, rfl⟩ : ∃ n, fuel = n + 1 := ⟨fuel - 1, by simp at hfuel; omega⟩
      have hlow (hc : (half? c).any isHigh = true) :
          NoLow (escapedChars true (d :: cs) ++ '\x22' :: rest) := by
        apply noLow_escapedChars _ _ (List.cons_ne_nil _ _)
        simpa [isPair, hc] using hpair
      rw [List.append_assoc, string_escapedHalf c (by simp) hlow,
        ih (c :: acc) fuel (by simp at hfuel ⊢; omega)]
      simp

theorem length_escapedChar_pos (c : Char) : 0 < (escapedChar true c).length := by
  rcases escapedChar_cases c with ⟨e, he, -⟩ | ⟨he, -⟩ | ⟨he, -⟩ | ⟨h, l, he, -⟩ <;>
    exact he ▸ Nat.succ_pos _

theorem length_escapedHalf_pos (c : Char) : 0 < (escapedHalf true c).length := by
  cases hc : half? c with
  | none =>
      rw [escapedHalf_of_eq_none hc]
      exact length_escapedChar_pos c
  | some h =>
      rw [escapedHalf_of_eq_some hc]
      exact Nat.succ_pos _

theorem length_le_length_escapedChars (cs : List Char) :
    cs.length ≤ (escapedChars true cs).length := by
  fun_induction escapedChars true cs with
  | case1 => exact Nat.zero_le _
  | case2 c => exact length_escapedHalf_pos c
  | case3 c d cs _ ih =>
      have hc := length_escapedChar_pos c
      have hd := length_escapedChar_pos d
      simp only [List.length_append, List.length_cons]
      omega
  | case4 c d cs _ ih =>
      have hc := length_escapedHalf_pos c
      simp only [List.length_append, List.length_cons] at ih ⊢
      omega

end Json.Reader

end Keyring
