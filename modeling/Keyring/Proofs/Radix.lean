import Keyring.Bytes
import Mathlib.Data.List.TakeWhile
import Mathlib.Data.Nat.Digits.Lemmas

/-!
# Numerals

A numeral is a list of digits, the most significant first. `rebase b c` turns a numeral of base `b`
into one of base `c`: it keeps the zeros in front, and writes the number that the rest stands for
without any. Going to another base and back gives the numeral again, so that two numerals are never
turned into the same one.
-/

namespace Keyring.Radix

variable {b c : Nat} {ds : List Nat}

theorem digits_eq (hb : 1 < b) (n : Nat) : digits b n = Nat.digits b n := by
  induction n using Nat.strongRecOn with
  | ind n ih =>
      rw [digits]
      by_cases hn : 0 < n
      · rw [dif_pos ⟨hb, hn⟩, ih _ (Nat.div_lt_self hn hb), Nat.digits_def' hb hn]
      · rw [dif_neg fun h => hn h.2, Nat.eq_zero_of_not_pos hn, Nat.digits_zero]

theorem ofDigits_eq (b : Nat) (ds : List Nat) : ofDigits b ds = Nat.ofDigits b ds := by
  induction ds with
  | nil => rfl
  | cons d ds ih => rw [ofDigits, ih, Nat.ofDigits_cons]

/-- How many zeros a numeral has in front. -/
def leading (ds : List Nat) : Nat := (ds.takeWhile (· == 0)).length

def value (b : Nat) (ds : List Nat) : Nat := ofDigits b ds.reverse

def numeral (b n : Nat) : List Nat := (digits b n).reverse

def rebase (b c : Nat) (ds : List Nat) : List Nat :=
  List.replicate (leading ds) 0 ++ numeral c (value b ds)

/-! ## Zeros in front -/

theorem takeWhile_zero (ds : List Nat) :
    ds.takeWhile (· == 0) = List.replicate (leading ds) 0 := by
  have hzero : ∀ d ∈ ds.takeWhile (· == 0), d = 0 := by
    intro d hd
    have h := List.mem_takeWhile_imp (p := (· == 0)) hd
    exact eq_of_beq h
  exact List.eq_replicate_iff.2 ⟨rfl, hzero⟩

theorem replicate_leading_append (ds : List Nat) :
    List.replicate (leading ds) 0 ++ ds.dropWhile (· == 0) = ds := by
  rw [← takeWhile_zero]
  exact List.takeWhile_append_dropWhile

theorem leading_replicate_append (n : Nat) (hds : ds.head? ≠ some 0) :
    leading (List.replicate n 0 ++ ds) = n := by
  have hstop : ds.takeWhile (· == 0) = [] := by
    cases ds with
    | nil => rfl
    | cons d ds =>
        have hd : d ≠ 0 := fun h => hds (congrArg some h)
        exact List.takeWhile_cons_of_neg (by simpa using hd)
  have hzeros : ∀ d ∈ List.replicate n 0, (d == 0) = true := by
    intro d hd
    rw [List.eq_of_mem_replicate hd]
    rfl
  rw [leading, List.takeWhile_append_of_pos hzeros, hstop, List.append_nil, List.length_replicate]

/-- Zeros in front do not count. -/
theorem value_replicate_append (b n : Nat) (ds : List Nat) :
    value b (List.replicate n 0 ++ ds) = value b ds := by
  rw [value, value, ofDigits_eq, ofDigits_eq, List.reverse_append, List.reverse_replicate,
    Nat.ofDigits_append_replicate_zero]

/-! ## Numbers -/

theorem head?_numeral (hb : 1 < b) (n : Nat) : (numeral b n).head? ≠ some 0 := by
  rw [numeral, digits_eq hb, List.head?_reverse]
  intro h
  have hne : Nat.digits b n ≠ [] := by
    rintro hnil
    rw [hnil] at h
    cases h
  rw [List.getLast?_eq_some_getLast hne] at h
  exact Nat.getLast_digit_ne_zero b (Nat.digits_ne_nil_iff_ne_zero.1 hne) (Option.some.inj h)

theorem value_numeral (hb : 1 < b) (n : Nat) : value b (numeral b n) = n := by
  rw [value, numeral, List.reverse_reverse, digits_eq hb, ofDigits_eq, Nat.ofDigits_digits]

theorem lt_of_mem_numeral (hb : 1 < b) {d n : Nat} (hd : d ∈ numeral b n) : d < b := by
  rw [numeral, List.mem_reverse, digits_eq hb] at hd
  exact Nat.digits_lt_base hb hd

theorem numeral_value (hb : 1 < b) (hlt : ∀ d ∈ ds, d < b) (hds : ds.head? ≠ some 0) :
    numeral b (value b ds) = ds := by
  have hlast : ∀ h : ds.reverse ≠ [], ds.reverse.getLast h ≠ 0 := by
    intro h hzero
    apply hds
    rw [← List.getLast?_reverse, List.getLast?_eq_some_getLast h, hzero]
  rw [numeral, value, ofDigits_eq, digits_eq hb,
    Nat.digits_ofDigits b hb _ (fun d hd => hlt d (List.mem_reverse.1 hd)) hlast,
    List.reverse_reverse]

theorem value_lt (hb : 1 < b) (hlt : ∀ d ∈ ds, d < b) : value b ds < b ^ ds.length := by
  rw [value, ofDigits_eq, ← List.length_reverse]
  exact Nat.ofDigits_lt_base_pow_length hb fun d hd => hlt d (List.mem_reverse.1 hd)

theorem length_numeral_le (hb : 1 < b) {k n : Nat} (hn : n < b ^ k) : (numeral b n).length ≤ k := by
  rw [numeral, List.length_reverse, digits_eq hb]
  exact (Nat.digits_length_le_iff hb n).2 hn

/-! ## Another base -/

theorem lt_of_mem_rebase (hc : 1 < c) {d : Nat} (hd : d ∈ rebase b c ds) : d < c := by
  rcases List.mem_append.1 hd with hd | hd
  · rw [List.eq_of_mem_replicate hd]
    omega
  · exact lt_of_mem_numeral hc hd

theorem leading_rebase (hc : 1 < c) (ds : List Nat) : leading (rebase b c ds) = leading ds :=
  leading_replicate_append _ (head?_numeral hc _)

theorem value_rebase (hc : 1 < c) (ds : List Nat) : value c (rebase b c ds) = value b ds := by
  rw [rebase, value_replicate_append, value_numeral hc]

theorem head?_dropWhile_zero (ds : List Nat) : (ds.dropWhile (· == 0)).head? ≠ some 0 := by
  intro h
  have hzero := List.head?_dropWhile_not (· == 0) ds
  rw [h] at hzero
  cases hzero

/-- To another base and back again. -/
theorem rebase_rebase (hb : 1 < b) (hc : 1 < c) (hlt : ∀ d ∈ ds, d < b) :
    rebase c b (rebase b c ds) = ds := by
  have hrest : numeral b (value b ds) = ds.dropWhile (· == 0) := by
    have hvalue : value b ds = value b (ds.dropWhile (· == 0)) := by
      conv_lhs => rw [← replicate_leading_append ds]
      exact value_replicate_append b _ _
    rw [hvalue]
    exact numeral_value hb (fun d hd => hlt d ((List.dropWhile_sublist _).subset hd))
      (head?_dropWhile_zero ds)
  rw [rebase, leading_rebase hc, value_rebase hc, hrest]
  exact replicate_leading_append ds

theorem rebase_ne_nil (hb : 1 < b) (hc : 1 < c) (hlt : ∀ d ∈ ds, d < b) (hds : ds ≠ []) :
    rebase b c ds ≠ [] := by
  intro hnil
  apply hds
  have hback := rebase_rebase hb hc hlt
  rw [hnil] at hback
  rw [← hback]
  have hzero : value c [] = 0 := rfl
  rw [rebase, hzero, numeral, digits_eq hb, Nat.digits_zero]
  rfl

/-- A numeral is at most `k` times as long, if `k` digits of the new base do for one of the old. -/
theorem length_rebase_le (hb : 1 < b) (hc : 1 < c) {k : Nat} (hk : b ≤ c ^ k)
    (hlt : ∀ d ∈ ds, d < b) : (rebase b c ds).length ≤ k * ds.length := by
  have hpos : 0 < k := by
    rcases Nat.eq_zero_or_pos k with rfl | hpos
    · rw [Nat.pow_zero] at hk
      omega
    · exact hpos
  have hsplit := replicate_leading_append ds
  have hlength : leading ds + (ds.dropWhile (· == 0)).length = ds.length := by
    conv_rhs => rw [← hsplit]
    rw [List.length_append, List.length_replicate]
  have hvalue : value b ds < c ^ (k * (ds.dropWhile (· == 0)).length) := by
    calc value b ds = value b (ds.dropWhile (· == 0)) := by
          conv_lhs => rw [← hsplit]
          exact value_replicate_append b _ _
      _ < b ^ (ds.dropWhile (· == 0)).length :=
          value_lt hb fun d hd => hlt d ((List.dropWhile_sublist _).subset hd)
      _ ≤ (c ^ k) ^ (ds.dropWhile (· == 0)).length := Nat.pow_le_pow_left hk _
      _ = c ^ (k * (ds.dropWhile (· == 0)).length) := (Nat.pow_mul c k _).symm
  have hrest := length_numeral_le hc hvalue
  have hzeros : leading ds ≤ k * leading ds := Nat.le_mul_of_pos_left _ hpos
  rw [rebase, List.length_append, List.length_replicate, ← hlength, Nat.mul_add]
  omega

end Keyring.Radix
