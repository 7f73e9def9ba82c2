import Keyring.Proofs.Account.Validity
import Keyring.Proofs.Engine.Reachable
import Mathlib.Order.Bounds.Basic

/-!
# Keys that are about to expire

An engine lists the active keys with no more than some number of seconds or steps of height left.
What is left is told apart from the clock, by a subtraction that stops at zero. Here both are put in
terms of the clock alone, set forward by that number in both of its components: what is left is the
first number by which the key is found expired, and the keys that are listed are those that are
active now and expired then.
-/

namespace Keyring

namespace Reading

variable {c : Reading} {n : Int}

def later (c : Reading) (n : Int) : Reading := ⟨c.time + n, c.height + n⟩

theorem current_later (c : Reading) (n : Int) (unit : ExpiryUnit) :
    (c.later n).current unit = c.current unit + n := by
  cases unit <;> rfl

theorem advance_eq_later (c : Reading) (hn : 0 ≤ n) : c.advance n n = .ok (c.later n) :=
  if_neg (by omega)

end Reading

namespace SessionKey

variable {k : SessionKey} {c : Reading} {n : Int}

theorem isExpired_later_iff (hn : 0 ≤ n) :
    k.isExpired (c.later n) = true ↔ k.remaining c ≤ n := by
  rw [isExpired_iff, Reading.current_later, remaining]
  omega

theorem remaining_nonneg (k : SessionKey) (c : Reading) : 0 ≤ k.remaining c :=
  Int.le_max_left 0 _

theorem isLeast_remaining (k : SessionKey) (c : Reading) :
    IsLeast {n : Int | 0 ≤ n ∧ k.isExpired (c.later n) = true} (k.remaining c) := by
  have hnonneg := k.remaining_nonneg c
  refine ⟨⟨hnonneg, (isExpired_later_iff hnonneg).2 (Int.le_refl _)⟩, ?_⟩
  rintro n ⟨hn, hexpired⟩
  exact (isExpired_later_iff hn).1 hexpired

/-- A key that is valid at one reading can become invalid at another only by expiring. -/
theorem isValid_of_isValid (h : k.isValid c = true) (c' : Reading) :
    k.isValid c' = !k.isExpired c' := by
  rw [isValid, (isValid_iff.1 h).1]
  rfl

end SessionKey

namespace Account

variable {a : Account} {c : Reading} {key : String} {m n : Int}

theorem expiringKeys_eq (hn : 0 ≤ n) (c : Reading) (a : Account) :
    a.expiringKeys c n =
      (a.keys.keys.filter fun k =>
        k.isValid c && k.isExpired (c.later n)).map (KeyStatus.of c) := by
  rw [expiringKeys, activeKeys_eq, List.filter_map, List.filter_filter]
  congr 2
  funext k
  have hleft : decide (k.remaining c ≤ n) = k.isExpired (c.later n) := by
    rw [Bool.eq_iff_iff, decide_eq_true_eq, SessionKey.isExpired_later_iff hn]
  rw [Bool.and_comm (k.isValid c), ← hleft]
  rfl

/-- What is active has something left. -/
theorem remaining_pos_of_mem {s : KeyStatus} (hs : s ∈ a.activeKeys c) : 0 < s.remaining := by
  rw [activeKeys_eq, List.mem_map] at hs
  obtain ⟨k, hk, rfl⟩ := hs
  exact SessionKey.remaining_pos_iff.2 (SessionKey.isValid_iff.1 (List.mem_filter.1 hk).2).2

theorem expiringKeys_of_nonpos (hn : n ≤ 0) (c : Reading) (a : Account) :
    a.expiringKeys c n = [] := by
  refine List.filter_eq_nil_iff.2 fun s hs => ?_
  have hleft := remaining_pos_of_mem hs
  rw [decide_eq_true_eq]
  omega

theorem expiringKeys_sublist (hmn : m ≤ n) (c : Reading) (a : Account) :
    (a.expiringKeys c m).Sublist (a.expiringKeys c n) := by
  refine List.monotone_filter_right _ fun s hs => ?_
  rw [decide_eq_true_eq] at hs ⊢
  exact Int.le_trans hs hmn

theorem expiringKeys_eq_activeKeys_iff : a.expiringKeys c n = a.activeKeys c ↔
    ∀ k ∈ a.keys.keys, k.isValid c = true → k.remaining c ≤ n := by
  rw [expiringKeys, List.filter_eq_self, activeKeys_eq]
  simp only [List.forall_mem_map, List.mem_filter, and_imp, decide_eq_true_eq]
  exact Iff.rfl

/-- In an account of distinct identities, a key expires within a time just when it is valid and,
after that time, is not. -/
theorem mem_expiringKeys_iff (hnd : (a.keys.keys.map SessionKey.identity).Nodup) (hn : 0 ≤ n) :
    (∃ s ∈ a.expiringKeys c n, s.key.identity = key) ↔
      a.isKeyValid c key = true ∧ a.isKeyValid (c.later n) key = false := by
  rw [expiringKeys_eq hn, ← Bool.not_eq_true, isKeyValid_iff, isKeyValid_iff]
  simp only [List.mem_map, List.mem_filter, Bool.and_eq_true, live_iff]
  constructor
  · rintro ⟨_, ⟨k, ⟨hmem, hvalid, hexpired⟩, rfl⟩, hid⟩
    refine ⟨⟨k, hmem, hid, hvalid⟩, ?_⟩
    rintro ⟨l, hl, hid', hahead⟩
    obtain rfl : l = k := List.inj_on_of_nodup_map hnd hl hmem (hid'.trans hid.symm)
    rw [SessionKey.isValid_of_isValid hvalid, hexpired] at hahead
    cases hahead
  · rintro ⟨⟨k, hmem, hid, hvalid⟩, hnone⟩
    refine ⟨KeyStatus.of c k, ⟨k, ⟨hmem, hvalid, ?_⟩, rfl⟩, hid⟩
    by_contra hahead
    refine hnone ⟨k, hmem, hid, ?_⟩
    rw [SessionKey.isValid_of_isValid hvalid, Bool.eq_false_iff.2 hahead]
    rfl

end Account

namespace World

variable {program x : String} {w : World} {a : Account}

theorem expiringKeys_of_load (ha : w.store.load x = .ok a) (n : Int) :
    w.expiringKeys x n = .ok (a.expiringKeys w.clock n) := by
  rw [expiringKeys, account, ha]
  rfl

/-- What is left of a key of a reachable account is the least number by which the clock can be set
forward, in both components, for the key to be found expired. The keys that expire within a number
of seconds or steps of height are, in the order of the registry, those that are active now and
expired after a clock is advanced by it. There are none within zero or less, no fewer within more,
and all that are active within as much as is left of each. So an identity is listed just when it is
valid and, once the clock has been advanced, is not.
-/
theorem expiring_as_of_later (h : w.store.Reachable program) (ha : w.store.load x = .ok a) :
    (∀ k ∈ a.keys.keys, IsLeast {n : Int | 0 ≤ n ∧ k.isExpired (w.clock.later n) = true}
      (k.remaining w.clock)) ∧
    (∀ n, 0 ≤ n →
      w.expiringKeys x n = .ok ((a.keys.keys.filter fun k =>
        k.isValid w.clock && k.isExpired (w.clock.later n)).map (KeyStatus.of w.clock)) ∧
      (w.step (.advanceClock n n)).2 = { w with clock := w.clock.later n } ∧
      ∀ key, (∃ ss, w.expiringKeys x n = .ok ss ∧ ∃ s ∈ ss, s.key.identity = key) ↔
        w.isKeyValid x key = .ok true ∧
          (w.step (.advanceClock n n)).2.isKeyValid x key = .ok false) ∧
    (∀ n ≤ 0, w.expiringKeys x n = .ok []) ∧
    (∀ m n, m ≤ n → ∃ ss ts, w.expiringKeys x m = .ok ss ∧ w.expiringKeys x n = .ok ts ∧
      ss.Sublist ts) ∧
    ∀ n, (∀ k ∈ a.keys.keys, k.remaining w.clock ≤ n) → w.expiringKeys x n = w.activeKeys x := by
  have hnd := (h.sound ha).wellFormed.keys.nodup
  have hactive : w.activeKeys x = .ok (a.activeKeys w.clock) := by
    rw [activeKeys, account, ha]
    rfl
  simp only [expiringKeys_of_load ha, hactive, Except.ok.injEq, exists_eq_left']
  refine ⟨fun k _ => k.isLeast_remaining w.clock, fun n hn => ?_,
    fun n hn => Account.expiringKeys_of_nonpos hn w.clock a,
    fun m n hmn => ⟨_, _, rfl, rfl, Account.expiringKeys_sublist hmn w.clock a⟩,
    fun n hall => Account.expiringKeys_eq_activeKeys_iff.2 fun k hk _ => hall k hk⟩
  have hlater : (w.step (.advanceClock n n)).2 = { w with clock := w.clock.later n } := by
    rw [step, Reading.advance_eq_later w.clock hn]
    rfl
  refine ⟨Account.expiringKeys_eq hn w.clock a, hlater, fun key => ?_⟩
  rw [hlater, isKeyValid, isKeyValid, account, account, ha]
  simp only [Except.map, Except.ok.injEq]
  exact Account.mem_expiringKeys_iff hnd hn

/-- Nothing is listed within zero, and a valid key makes the list within what is left of it. -/
theorem expiring_as_of_later_live : ∃ (w : World) (a : Account) (k : SessionKey),
    w.store.Reachable "1" ∧ w.store.load "1" = .ok a ∧ k ∈ a.keys.keys ∧
      w.expiringKeys "1" 0 = .ok [] ∧
      w.expiringKeys "1" (k.remaining w.clock) ≠ .ok [] ∧
      IsLeast {n : Int | 0 ≤ n ∧ k.isExpired (w.clock.later n) = true} (k.remaining w.clock) := by
  obtain ⟨a, k, hreach, hsound, ⟨hmem, hid, hactive, hahead⟩, -⟩ := Store.Reachable.exists_live
  let w : World := { World.empty "1" with store := .memory [("1", a)] }
  have ha : w.store.load "1" = .ok a := Account.ofJson_toJson hsound.wellFormed
  obtain ⟨hleast, hlisted, hnone, -, -⟩ := expiring_as_of_later (w := w) hreach ha
  have hexpired := (hleast k hmem).1
  refine ⟨w, a, k, hreach, ha, hmem, hnone 0 (Int.le_refl 0), fun hnil => ?_, hleast k hmem⟩
  have hall := Except.ok.inj ((hlisted _ hexpired.1).1.symm.trans hnil)
  rw [List.map_eq_nil_iff, List.filter_eq_nil_iff] at hall
  have hvalid : k.isValid w.clock = true := SessionKey.isValid_iff.2 ⟨hactive, hahead⟩
  exact hall k hmem (by rw [hvalid, hexpired.2]; rfl)

end World

end Keyring
