import Keyring.Json.Printer
import Keyring.Json.Reader

/-!
# Written integers, read back

An integer is read as itself if it has few enough digits to be written and if what follows could
not belong to it: no digit, no point and no letter of an exponent.
-/

namespace Keyring.Json.Reader

/-- A text that does not go on with what could belong to an integer before it. -/
def EndsNumber (r : List Char) : Prop :=
  ∀ c ∈ r.head?, isDigit c = false ∧ c ≠ '.' ∧ c ≠ 'e' ∧ c ≠ 'E'

theorem endsNumber_cons {c : Char} {r : List Char} (hd : isDigit c = false) (hp : c ≠ '.')
    (he : c ≠ 'e') (hE : c ≠ 'E') : EndsNumber (c :: r) := by
  intro d hc
  obtain rfl : c = d := by simpa using hc
  exact ⟨hd, hp, he, hE⟩

theorem isDigit_eq_isDigit (c : Char) : isDigit c = c.isDigit := by
  rw [Bool.eq_iff_iff]
  simp only [isDigit, Char.isDigit, Bool.and_eq_true, decide_eq_true_eq, ge_iff_le,
    UInt32.le_iff_toNat_le]
  rfl

theorem isDigit_of_mem_toDigits {c : Char} {n : Nat} (hc : c ∈ Nat.toDigits 10 n) :
    isDigit c = true := by
  rw [isDigit_eq_isDigit]
  exact Nat.isDigit_of_mem_toDigits (by decide) (by decide) hc

theorem natOf_toDigits (n : Nat) : natOf (Nat.toDigits 10 n) = n := by
  have hfold : natOf (Nat.toDigits 10 n) = Nat.ofDigitChars 10 (Nat.toDigits 10 n) 0 := by
    simp only [natOf, Nat.ofDigitChars, Nat.mul_comm]
    rfl
  rw [hfold, Nat.ofDigitChars_ten_toDigits]

theorem length_toDigits_le {n : Nat} (hn : n < Text.Integer.tooLong) :
    (Nat.toDigits 10 n).length ≤ Text.Integer.maxDigits := by
  have hk : 0 < Text.Integer.maxDigits := by decide
  unfold Text.Integer.tooLong at hn
  generalize Text.Integer.maxDigits = k at hk hn ⊢
  exact (Nat.length_toDigits_le_iff (by decide) hk).2 hn

/-- Only zero is written with a leading zero. -/
theorem head_toDigits_ne_zero {n : Nat} (hn : n ≠ 0) :
    ∃ c cs, Nat.toDigits 10 n = c :: cs ∧ c ≠ '0' := by
  induction n using Nat.strongRecOn with
  | _ n ih =>
      by_cases hlt : n < 10
      · refine ⟨n.digitChar, [], Nat.toDigits_of_lt_base hlt, ?_⟩
        have hall : ∀ m < 10, m ≠ 0 → m.digitChar ≠ '0' := by decide
        exact hall n hlt hn
      · obtain ⟨c, cs, hcs, hc⟩ := ih (n / 10) (by omega) (by omega)
        exact ⟨c, cs ++ [(n % 10).digitChar],
          by rw [Nat.toDigits_of_base_le (by decide) (by omega), hcs, List.cons_append], hc⟩

theorem takeWhile_isDigit {ds r : List Char} (hds : ∀ c ∈ ds, isDigit c = true)
    (hr : EndsNumber r) : (ds ++ r).takeWhile isDigit = ds := by
  rw [List.takeWhile_append_of_pos hds]
  cases r with
  | nil => simp
  | cons c r => simp [(hr c rfl).1]

theorem dropWhile_isDigit {ds r : List Char} (hds : ∀ c ∈ ds, isDigit c = true)
    (hr : EndsNumber r) : (ds ++ r).dropWhile isDigit = r := by
  rw [List.dropWhile_append_of_pos hds]
  cases r with
  | nil => simp
  | cons c r => simp [(hr c rfl).1]

theorem fraction_of_endsNumber {r : List Char} (hr : EndsNumber r) : fraction r = ([], r) := by
  cases r with
  | nil => rfl
  | cons c r =>
      have hc := (hr c rfl).2.1
      unfold fraction
      split
      next heq => exact absurd (List.cons.inj heq).1 hc
      next => rfl

theorem exponent_of_endsNumber {r : List Char} (hr : EndsNumber r) :
    exponent r = (none, r) := by
  cases r with
  | nil => rfl
  | cons c r =>
      obtain ⟨-, -, he, hE⟩ := hr c rfl
      simp [exponent, he, hE]

theorem number_of_endsNumber (neg : Bool) {whole r : List Char} (hr : EndsNumber r)
    (hlen : whole.length ≤ Text.Integer.maxDigits) :
    number neg whole r = .ok (.int (if neg then -(natOf whole : Int) else natOf whole), r) := by
  simp [number, fraction_of_endsNumber hr, exponent_of_endsNumber hr, Nat.not_lt.2 hlen]

/-- The number that `ds` begins with, after its sign. -/
def digits (neg : Bool) (cs ds : List Char) : Result Json :=
  match ds with
  | '0' :: r => number neg ['0'] r
  | c :: _ =>
    if isDigit c then number neg (ds.takeWhile isDigit) (ds.dropWhile isDigit) else fail .value cs
  | [] => fail .value cs

theorem digits_toDigits (neg : Bool) {n : Nat} (hn : n < Text.Integer.tooLong) (cs : List Char)
    {r : List Char} (hr : EndsNumber r) :
    digits neg cs (Nat.toDigits 10 n ++ r) = .ok (.int (if neg then -(n : Int) else n), r) := by
  have hlen : (Nat.toDigits 10 n).length ≤ Text.Integer.maxDigits :=
    length_toDigits_le hn
  by_cases h0 : n = 0
  · subst h0
    exact number_of_endsNumber neg hr (show ['0'].length ≤ Text.Integer.maxDigits by decide)
  · obtain ⟨c, ds, hcs, hc⟩ := head_toDigits_ne_zero h0
    have hdigits : ∀ d ∈ c :: ds, isDigit d = true := by
      rw [← hcs]
      exact fun d hd => isDigit_of_mem_toDigits hd
    have hval : natOf (c :: ds) = n := by rw [← hcs, natOf_toDigits]
    rw [hcs] at hlen ⊢
    rw [List.cons_append, digits]
    · rw [if_pos (hdigits c List.mem_cons_self), ← List.cons_append, takeWhile_isDigit hdigits hr,
        dropWhile_isDigit hdigits hr, number_of_endsNumber neg hr hlen, hval]
    · exact hc

/-- Whether a text begins with a minus sign, and what follows the sign. -/
def signed (cs : List Char) : Bool × List Char :=
  match cs with
  | '-' :: r => (true, r)
  | _ => (false, cs)

theorem after?_of_ne {p ds cs : List Char} {c d : Char} (hp : p = d :: ds) (hd : d ≠ c) :
    after? p (c :: cs) = none := by
  subst hp
  simp [after?, hd]

/-- A text that begins with no name is read as a number. -/
theorem atom_of_unnamed {cs : List Char} (hn : after? "null".toList cs = none)
    (ht : after? "true".toList cs = none) (hf : after? "false".toList cs = none)
    (hN : after? "NaN".toList cs = none) (hI : after? "Infinity".toList cs = none)
    (hm : after? "-Infinity".toList cs = none) :
    atom cs = digits (signed cs).1 cs (signed cs).2 := by
  unfold atom
  simp only [List.findSome?_cons, List.findSome?_nil, hn, ht, hf, hN, hI, hm, Option.map_none]
  rfl

theorem ne_of_isDigit {c d : Char} (hc : isDigit c = true) (hd : isDigit d = false) : d ≠ c := by
  rintro rfl
  rw [hc] at hd
  cases hd

theorem atom_of_isDigit {c : Char} (hc : isDigit c = true) (cs : List Char) :
    atom (c :: cs) = digits false (c :: cs) (c :: cs) := by
  have hsign : signed (c :: cs) = (false, c :: cs) := by
    rw [signed]
    exact fun r heq => ne_of_isDigit hc rfl (List.cons.inj heq).1.symm
  have hne {p ds : List Char} {d : Char} (hp : p = d :: ds) (hd : isDigit d = false) :
      after? p (c :: cs) = none := after?_of_ne hp (ne_of_isDigit hc hd)
  rw [atom_of_unnamed (hne rfl rfl) (hne rfl rfl) (hne rfl rfl) (hne rfl rfl) (hne rfl rfl)
    (hne rfl rfl), hsign]

theorem atom_of_minus {c : Char} (hc : isDigit c = true) (cs : List Char) :
    atom ('-' :: c :: cs) = digits true ('-' :: c :: cs) (c :: cs) := by
  have hne {p ds : List Char} {d : Char} (hp : p = d :: ds) (hd : d ≠ '-') :
      after? p ('-' :: c :: cs) = none := after?_of_ne hp hd
  have hm : after? "-Infinity".toList ('-' :: c :: cs) = none := by
    have hc' : 'I' ≠ c := ne_of_isDigit hc rfl
    rw [show "-Infinity".toList = '-' :: 'I' :: "nfinity".toList from rfl]
    simp [after?, hc']
  rw [atom_of_unnamed (hne rfl (by decide)) (hne rfl (by decide)) (hne rfl (by decide))
    (hne rfl (by decide)) (hne rfl (by decide)) hm]
  rfl

theorem toString_negSucc (m : Nat) :
    (toString (Int.negSucc m)).toList = '-' :: Nat.toDigits 10 (m + 1) := by
  rw [Int.toString_eq_repr, Int.repr_eq_if, if_neg (by omega), String.toList_append,
    Nat.toList_repr]
  rfl

theorem atom_toString {n : Int} (hn : Text.Integer.isTooLong n = false) {r : List Char}
    (hr : EndsNumber r) : atom ((toString n).toList ++ r) = .ok (.int n, r) := by
  have hlt : n.natAbs < Text.Integer.tooLong := by
    simpa only [Text.Integer.isTooLong, decide_eq_false_iff_not, Nat.not_le] using hn
  obtain ⟨c, cs, hcs⟩ := List.exists_cons_of_ne_nil (Nat.toDigits_ne_nil (n := n.natAbs) (b := 10))
  have hc : isDigit c = true := isDigit_of_mem_toDigits (by rw [hcs]; exact List.mem_cons_self)
  cases n with
  | ofNat m =>
      have htext : (toString (Int.ofNat m)).toList = Nat.toDigits 10 m := Nat.toList_repr
      rw [htext, show Nat.toDigits 10 m = c :: cs from hcs, List.cons_append,
        atom_of_isDigit hc, ← List.cons_append, ← hcs]
      exact digits_toDigits false hlt _ hr
  | negSucc m =>
      rw [toString_negSucc, show Nat.toDigits 10 (m + 1) = c :: cs from hcs, List.cons_append,
        List.cons_append, atom_of_minus hc, ← List.cons_append, ← hcs]
      exact digits_toDigits true hlt _ hr

end Keyring.Json.Reader
