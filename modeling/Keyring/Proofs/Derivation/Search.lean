import Keyring.Proofs.Derivation.Domains
import Mathlib.Order.Lattice.Nat

/-!
# The search for a bump

The bumps are tried from the highest down, and a try fails for its seeds alone or for the program
alone: a failure of the first kind sends the search on to the next bump, one of the second ends it.
So what is found belongs to the largest bump that leads off the curve, a search without such a bump
comes to its end, and a program that is no identity is told as such by the first try.
-/

namespace Keyring.Derivation

variable {seeds : List Bytes} {program address : String} {prog : Bytes} {n b : Nat}

/-- Seeds of which none is too long, and which leave room for a bump. -/
structure WellFormed (seeds : List Bytes) : Prop where
  count : seeds.length < maxSeeds
  short : ∀ s ∈ seeds, s.length ≤ maxSeedLength

def digest (seeds : List Bytes) (prog : Bytes) (bump : Nat) : Bytes :=
  Sha2.sha256 (seeds.flatten ++ [UInt8.ofNat bump] ++ prog ++ marker)

def offCurve (seeds : List Bytes) (prog : Bytes) : Set Nat :=
  {b | b ≤ 255 ∧ Ed25519.isOnCurve (digest seeds prog b) = false}

/-! ## One try -/

def tryBump (seeds : List Bytes) (program : String) (b : Nat) : Except Error String :=
  createAddress (seeds ++ [[UInt8.ofNat b]]) program

theorem preimage_bump (seeds : List Bytes) (prog : Bytes) (b : Nat) :
    Sha2.sha256 (preimage (seeds ++ [[UInt8.ofNat b]]) prog) = digest seeds prog b := by
  simp [preimage, digest]

theorem wellFormed_iff (b : UInt8) : WellFormed seeds ↔
    ¬ maxSeeds < (seeds ++ [[b]]).length ∧
      (seeds ++ [[b]]).find? (fun s => decide (maxSeedLength < s.length)) = none := by
  have hbump : 1 ≤ maxSeedLength := by decide
  rw [find?_seedTooLong_eq_none_iff, List.length_append, List.length_singleton]
  constructor
  · rintro ⟨hcount, hshort⟩
    refine ⟨by omega, fun s hs => ?_⟩
    rcases List.mem_append.1 hs with hs | hs
    · exact hshort s hs
    · obtain rfl := List.mem_singleton.1 hs
      exact hbump
  · rintro ⟨hcount, hshort⟩
    exact ⟨by omega, fun s hs => hshort s (List.mem_append_left _ hs)⟩

theorem tryBump_of_ok (hseeds : WellFormed seeds) (hprog : Base58.decode program = .ok prog)
    (b : Nat) : tryBump seeds program b =
      if Ed25519.isOnCurve (digest seeds prog b) then .error .onCurve
      else .ok (Base58.encode (digest seeds prog b)) := by
  obtain ⟨hcount, hshort⟩ := (wellFormed_iff (UInt8.ofNat b)).1 hseeds
  rw [tryBump, createAddress, if_neg hcount, hshort, decodeIdentity_eq_ok_iff.2 hprog]
  simp only [preimage_bump]

theorem tryBump_of_error {e : Base58.Error} (hseeds : WellFormed seeds)
    (hprog : Base58.decode program = .error e) (b : Nat) :
    tryBump seeds program b = .error (.identity e) := by
  obtain ⟨hcount, hshort⟩ := (wellFormed_iff (UInt8.ofNat b)).1 hseeds
  have hdecode : decodeIdentity program = .error (.identity e) := by
    rw [decodeIdentity, hprog]
    rfl
  rw [tryBump, createAddress, if_neg hcount, hshort, hdecode]

/-- A try that leaves the search to go on. -/
def Fails (seeds : List Bytes) (program : String) (b : Nat) : Prop :=
  ∃ e, tryBump seeds program b = .error e ∧ e.isSeedFault = true

theorem fails_of_not_wellFormed (hseeds : ¬ WellFormed seeds) (b : Nat) :
    Fails seeds program b := by
  rw [wellFormed_iff (UInt8.ofNat b), not_and_or, not_not] at hseeds
  unfold Fails tryBump createAddress
  rcases hseeds with hcount | hlong
  · exact ⟨.tooManySeeds, if_pos hcount, rfl⟩
  · obtain ⟨s, hs⟩ := Option.ne_none_iff_exists'.1 hlong
    split_ifs
    · exact ⟨.tooManySeeds, rfl, rfl⟩
    · exact ⟨.seedTooLong s.length, by rw [hs], rfl⟩

theorem fails_of_isOnCurve (hseeds : WellFormed seeds) (hprog : Base58.decode program = .ok prog)
    (hcurve : Ed25519.isOnCurve (digest seeds prog b) = true) : Fails seeds program b :=
  ⟨.onCurve, by rw [tryBump_of_ok hseeds hprog, if_pos hcurve], rfl⟩

/-! ## The search -/

theorem findBelow_of_fails (h : ∀ b < n, Fails seeds program b) :
    findBelow seeds program n = .error .noBump := by
  induction n with
  | zero => rfl
  | succ n ih =>
      obtain ⟨e, he, hfault⟩ := h n (Nat.lt_succ_self n)
      have hrest := ih fun b hb => h b (Nat.lt_succ_of_lt hb)
      unfold tryBump at he
      simp only [findBelow, he, hfault, if_true, hrest]

/-- A try that succeeds is found if every higher one has failed. -/
theorem findBelow_of_ok (hb : b < n) (h : tryBump seeds program b = .ok address)
    (habove : ∀ i, b < i → i < n → Fails seeds program i) :
    findBelow seeds program n = .ok ⟨address, b, seeds ++ [[UInt8.ofNat b]]⟩ := by
  induction n with
  | zero => omega
  | succ n ih =>
      rcases Nat.lt_succ_iff_lt_or_eq.1 hb with hlt | rfl
      · obtain ⟨e, he, hfault⟩ := habove n hlt (Nat.lt_succ_self n)
        have hrest := ih hlt fun i hi hin => habove i hi (Nat.lt_succ_of_lt hin)
        unfold tryBump at he
        simp only [findBelow, he, hfault, if_true, hrest]
      · unfold tryBump at h
        simp only [findBelow, h]

theorem findBelow_of_identity {e : Base58.Error} (hseeds : WellFormed seeds)
    (hprog : Base58.decode program = .error e) (n : Nat) :
    findBelow seeds program (n + 1) = .error (.identity e) := by
  have htry := tryBump_of_error hseeds hprog n
  unfold tryBump at htry
  simp [findBelow, htry, Error.isSeedFault]

theorem exists_isGreatest_offCurve (h : (offCurve seeds prog).Nonempty) :
    ∃ b, IsGreatest (offCurve seeds prog) b := by
  have hbound : BddAbove (offCurve seeds prog) := ⟨255, fun _ hb => hb.1⟩
  exact ⟨_, Nat.sSup_mem h hbound, fun _ hb => le_csSup hbound hb⟩

theorem findAddress_of_isGreatest (hseeds : WellFormed seeds)
    (hprog : Base58.decode program = .ok prog) (hb : IsGreatest (offCurve seeds prog) b) :
    findAddress seeds program =
      .ok ⟨Base58.encode (digest seeds prog b), b, seeds ++ [[UInt8.ofNat b]]⟩ := by
  obtain ⟨⟨hle, hcurve⟩, hmax⟩ := hb
  apply findBelow_of_ok (Nat.lt_succ_of_le hle)
  · rw [tryBump_of_ok hseeds hprog, hcurve, if_neg Bool.false_ne_true]
  · intro i hi hlt
    apply fails_of_isOnCurve hseeds hprog
    by_contra hoff
    have hle' := hmax ⟨Nat.le_of_lt_succ hlt, Bool.eq_false_iff.2 hoff⟩
    omega

/-- What is found, and when something is. -/
theorem findAddress_eq_ok_iff {d : DerivedAddress} : findAddress seeds program = .ok d ↔
    WellFormed seeds ∧ ∃ prog b, Base58.decode program = .ok prog ∧
      IsGreatest (offCurve seeds prog) b ∧
      d = ⟨Base58.encode (digest seeds prog b), b, seeds ++ [[UInt8.ofNat b]]⟩ := by
  constructor
  · intro h
    have hseeds : WellFormed seeds := by
      by_contra hseeds
      rw [findAddress, findBelow_of_fails fun b _ => fails_of_not_wellFormed hseeds b] at h
      cases h
    obtain ⟨hlt, hsigner, hcreate⟩ := findBelow_eq_ok h
    obtain ⟨-, -, prog, hprog, hcurve, -⟩ := createAddress_eq_ok_iff.1 hcreate
    rw [hsigner, preimage_bump] at hcurve
    obtain ⟨b, hb⟩ := exists_isGreatest_offCurve ⟨d.bump, Nat.le_of_lt_succ hlt, hcurve⟩
    rw [findAddress_of_isGreatest hseeds hprog hb] at h
    exact ⟨hseeds, prog, b, hprog, hb, (Except.ok.inj h).symm⟩
  · rintro ⟨hseeds, prog, b, hprog, hb, rfl⟩
    exact findAddress_of_isGreatest hseeds hprog hb

/--
The search. For seeds in order and a program that is an identity it finds the largest bump that
leads off the curve, if there is one: the address is an identity of the hash at that bump, and the
seeds with the bump create it again. Seeds that are out of order are at fault, and so are seeds
without a bump. A program that is no identity is told as such, and is no fault of the seeds.
-/
theorem findAddress_exactly (seeds : List Bytes) (program : String) :
    (∀ prog, WellFormed seeds → Base58.decode program = .ok prog →
      (∃ b ≤ 255, Ed25519.isOnCurve (digest seeds prog b) = false) →
        ∃ d, findAddress seeds program = .ok d ∧ IsGreatest (offCurve seeds prog) d.bump ∧
          d.signerSeeds = seeds ++ [[UInt8.ofNat d.bump]] ∧
          Base58.isIdentity d.address = true ∧
          Base58.decode d.address = .ok (digest seeds prog d.bump) ∧
          Ed25519.isOnCurve (digest seeds prog d.bump) = false ∧
          createAddress d.signerSeeds program = .ok d.address) ∧
    (¬ WellFormed seeds →
      ∃ e, findAddress seeds program = .error e ∧ e.isSeedFault = true) ∧
    (∀ prog, Base58.decode program = .ok prog →
      (∀ b ≤ 255, Ed25519.isOnCurve (digest seeds prog b) = true) →
        ∃ e, findAddress seeds program = .error e ∧ e.isSeedFault = true) ∧
    ∀ e, WellFormed seeds → Base58.decode program = .error e →
      findAddress seeds program = .error (.identity e) ∧
        (Error.identity e).isSeedFault = false := by
  have hnone (h : ∀ b < 256, Fails seeds program b) :
      ∃ e, findAddress seeds program = .error e ∧ e.isSeedFault = true :=
    ⟨.noBump, findBelow_of_fails h, rfl⟩
  refine ⟨?found, ?malformed, ?allOnCurve, ?identity⟩
  case found =>
    intro prog hseeds hprog hsome
    obtain ⟨b, hb⟩ := exists_isGreatest_offCurve hsome
    have hfind := findAddress_of_isGreatest hseeds hprog hb
    obtain ⟨-, -, hcreate⟩ := findBelow_eq_ok hfind
    have hne : digest seeds prog b ≠ [] :=
      List.ne_nil_of_length_pos (by rw [digest, Sha2.length_sha256]; decide)
    exact ⟨_, hfind, hb, rfl, isIdentity_encode_sha256 _, Base58.decode_encode hne, hb.1.2,
      hcreate⟩
  case malformed =>
    intro hseeds
    exact hnone fun b _ => fails_of_not_wellFormed hseeds b
  case allOnCurve =>
    intro prog hprog hall
    apply hnone
    intro b hb
    by_cases hseeds : WellFormed seeds
    · exact fails_of_isOnCurve hseeds hprog (hall b (Nat.le_of_lt_succ hb))
    · exact fails_of_not_wellFormed hseeds b
  case identity =>
    intro e hseeds hprog
    exact ⟨findBelow_of_identity hseeds hprog 255, rfl⟩

/-- Without any seeds the highest bump leads onto the curve, and the next one is found. Sixteen
seeds leave no room for a bump, and the empty text is no program. -/
theorem findAddress_exactly_second :
    (∃ d, findAddress [] "1" = .ok d ∧ d.bump = 254 ∧
      createAddress [[254]] "1" = .ok d.address) ∧
    (∃ e, findAddress (List.replicate 16 []) "1" = .error e ∧ e.isSeedFault = true) ∧
    findAddress [] "" = .error (.identity .empty) := by
  have hprog : Base58.decode "1" = .ok [0] := decodeIdentity_eq_ok_iff.1 decodeIdentity_one
  have hoff : Ed25519.isOnCurve (digest [] [0] 254) = false := by decide +kernel
  have hon : Ed25519.isOnCurve (digest [] [0] 255) = true := by decide +kernel
  have hempty : WellFormed [] := ⟨by decide, nofun⟩
  have hcrowded : ¬ WellFormed (List.replicate 16 []) := fun h => absurd h.count (by decide)
  obtain ⟨hfound, -⟩ := findAddress_exactly [] "1"
  obtain ⟨-, hmalformed, -⟩ := findAddress_exactly (List.replicate 16 []) "1"
  obtain ⟨-, -, -, hidentity⟩ := findAddress_exactly [] ""
  refine ⟨?_, hmalformed hcrowded, (hidentity .empty hempty rfl).1⟩
  obtain ⟨d, hd, ⟨⟨hle, hcurve⟩, hmax⟩, hsigner, -, -, -, hcreate⟩ :=
    hfound [0] hempty hprog ⟨254, by decide, hoff⟩
  have hge : 254 ≤ d.bump := hmax ⟨by decide, hoff⟩
  have hne : d.bump ≠ 255 := by
    intro h
    rw [h, hon] at hcurve
    cases hcurve
  have hbump : d.bump = 254 := by omega
  rw [hsigner, hbump] at hcreate
  exact ⟨d, hd, hbump, hcreate⟩

end Keyring.Derivation
