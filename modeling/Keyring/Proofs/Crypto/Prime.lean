import Keyring.Crypto.Ed25519
import Mathlib.NumberTheory.LucasPrimality
import Mathlib.Tactic.NormNum.Prime

/-!
# The prime of the field

`powMod` computes powers, so that the test of `lucas_primality` can be run with it: a number `n` is
prime if some witness has order `n - 1` modulo `n`, and this is seen from its powers to
`(n - 1) / q` for the primes `q` that make up `n - 1`. For the prime of the field the larger of
these primes need a witness of their own, and so on down to primes small enough to be divided out.
-/

namespace Keyring.Ed25519

theorem powMod_eq (m b e : Nat) : powMod m b e = b ^ e % m := by
  have hhalf (b e : Nat) : (b * b % m) ^ (e / 2) % m = b ^ (2 * (e / 2)) % m := by
    rw [← Nat.pow_mod, pow_mul, pow_two]
  induction b, e using powMod.induct m with
  | case1 b => rw [powMod, dif_pos rfl, pow_zero]
  | case2 b e he hodd ih =>
      rw [powMod, dif_neg he]
      simp only [if_pos hodd]
      rw [ih, hhalf, Nat.mul_mod_mod, ← pow_succ', show 2 * (e / 2) + 1 = e by omega]
  | case3 b e he heven ih =>
      rw [powMod, dif_neg he]
      simp only [if_neg heven]
      rw [ih, hhalf, show 2 * (e / 2) = e by omega]

theorem cast_powMod (m b e : Nat) : (powMod m b e : ZMod m) = (b : ZMod m) ^ e := by
  rw [powMod_eq, ZMod.natCast_mod, Nat.cast_pow]

theorem powMod_eq_one_iff {m : Nat} (hm : 1 < m) (b e : Nat) :
    powMod m b e = 1 ↔ (b : ZMod m) ^ e = 1 := by
  rw [powMod_eq, ← Nat.cast_pow, ← Nat.cast_one (R := ZMod m), ZMod.natCast_eq_natCast_iff',
    Nat.mod_eq_of_lt hm]

/-! ## Certificates -/

/-- A number with a witness of its being prime and the prime factors of the number before it. -/
structure Certificate where
  number : Nat
  witness : Nat
  factors : List Nat

namespace Certificate

/-- What the test asks of a certificate, by numbers that are known to be prime. -/
structure Passes (known : List Nat) (c : Certificate) : Prop where
  large : 1 < c.number
  product : c.factors.prod = c.number - 1
  factors_known : ∀ q ∈ c.factors, q ∈ known
  full : powMod c.number c.witness (c.number - 1) = 1
  part : ∀ q ∈ c.factors, powMod c.number c.witness ((c.number - 1) / q) ≠ 1

instance (known : List Nat) (c : Certificate) : Decidable (c.Passes known) :=
  decidable_of_iff (1 < c.number ∧ c.factors.prod = c.number - 1 ∧ (∀ q ∈ c.factors, q ∈ known) ∧
      powMod c.number c.witness (c.number - 1) = 1 ∧
      ∀ q ∈ c.factors, powMod c.number c.witness ((c.number - 1) / q) ≠ 1)
    ⟨fun ⟨h₁, h₂, h₃, h₄, h₅⟩ => ⟨h₁, h₂, h₃, h₄, h₅⟩,
      fun ⟨h₁, h₂, h₃, h₄, h₅⟩ => ⟨h₁, h₂, h₃, h₄, h₅⟩⟩

variable {known : List Nat} {c : Certificate}

theorem Passes.factor_lt (h : c.Passes known) {q : Nat} (hq : q ∈ c.factors) : q < c.number := by
  have hlarge := h.large
  have hdvd : q ∣ c.number - 1 := h.product ▸ List.dvd_prod hq
  have hle := Nat.le_of_dvd (by omega) hdvd
  omega

theorem Passes.prime (h : c.Passes known) (hfactors : ∀ q ∈ c.factors, q.Prime) :
    c.number.Prime := by
  refine lucas_primality c.number c.witness ((powMod_eq_one_iff h.large _ _).1 h.full) ?_
  intro q hq hdvd
  rw [← h.product] at hdvd
  obtain ⟨r, hr, hqr⟩ := (Prime.dvd_prod_iff hq.prime).1 hdvd
  obtain rfl : q = r := (Nat.prime_dvd_prime_iff_eq hq (hfactors r hr)).1 hqr
  exact fun hone => h.part q hr ((powMod_eq_one_iff h.large _ _).2 hone)

/-- Certificates may rest on each other, since a number is above its factors. -/
theorem prime_of_passes {l : List Nat} {cs : List Certificate} (hl : ∀ q ∈ l, q.Prime)
    (hcs : ∀ c ∈ cs, c.Passes (l ++ cs.map number)) : ∀ n ∈ cs.map number, n.Prime := by
  intro n
  induction n using Nat.strong_induction_on with
  | h n ih =>
      intro hn
      obtain ⟨c, hc, rfl⟩ := List.mem_map.1 hn
      have hpass := hcs c hc
      refine hpass.prime fun q hq => ?_
      obtain hdivided | hcertified := List.mem_append.1 (hpass.factors_known q hq)
      · exact hl q hdivided
      · exact ih q (hpass.factor_lt hq) hcertified

end Certificate

/-! ## The prime -/

def smallPrimes : List Nat :=
  [2, 3, 5, 7, 13, 19, 31, 47, 107, 127, 223, 353, 2437, 4153, 57467, 65147, 75707, 132049, 430751,
    569003, 1923133, 8574133]

def certificates : List Certificate :=
  [⟨p, 2, [74058212732561358302231226437062788676166966415465897661863160754340907, 2, 2, 3,
      65147]⟩,
    ⟨74058212732561358302231226437062788676166966415465897661863160754340907, 2,
      [31757755568855353, 75445702479781427272750846543864801, 2, 3, 353, 57467, 132049, 1923133]⟩,
    ⟨75445702479781427272750846543864801, 7,
      [72106336199, 1919519569386763, 2, 2, 2, 2, 2, 3, 3, 5, 5, 75707]⟩,
    ⟨31757755568855353, 10, [2, 2, 2, 3, 31, 107, 223, 4153, 430751]⟩,
    ⟨1919519569386763, 2, [2, 3, 7, 19, 47, 47, 127, 8574133]⟩,
    ⟨72106336199, 7, [2773320623, 2, 13]⟩,
    ⟨2773320623, 5, [2, 2437, 569003]⟩]

theorem prime_smallPrimes : ∀ q ∈ smallPrimes, q.Prime := by
  norm_num [smallPrimes]

theorem certificates_pass :
    ∀ c ∈ certificates, c.Passes (smallPrimes ++ certificates.map Certificate.number) := by
  decide +kernel

theorem prime_p : p.Prime :=
  Certificate.prime_of_passes prime_smallPrimes certificates_pass p (.head _)

instance : Fact p.Prime := ⟨prime_p⟩

end Keyring.Ed25519
