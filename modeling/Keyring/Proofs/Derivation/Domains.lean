import Keyring.Proofs.Bytes
import Keyring.Proofs.Derivation

/-!
# What an address is derived from

Seeds, program and marker are hashed one after the other with nothing between them. The bytes still
tell what they were put together from: their first letter tells the account of an owner from a
delegate, all parts but one have a fixed width, and no two identities stand for the same bytes. So
two requests are hashed alike only if they are the same request, and different requests come to one
address only where the hash function has a collision.
-/

namespace Keyring

namespace Sha2

theorem length_hash {w : Nat} (v : Variant w) (bs : Bytes) :
    (hash v bs).length = 8 * v.wordBytes := by
  have hword (x : BitVec w) : (Bytes.ofNatLE v.wordBytes x.toNat).reverse.length = v.wordBytes := by
    rw [List.length_reverse, Bytes.length_ofNatLE]
  simp only [hash, State.toList, List.flatMap_cons, List.flatMap_nil, List.length_append, hword,
    List.length_nil]
  omega

theorem length_sha256 (bs : Bytes) : (sha256 bs).length = Base58.identitySize :=
  length_hash variant256 bs

end Sha2

theorem Base58.eq_of_decode {s t : String} {bs : Bytes} (hs : decode s = .ok bs)
    (ht : decode t = .ok bs) : s = t := by
  rw [← (encode_of_decode hs).2, (encode_of_decode ht).2]

namespace Derivation

open Outcome

/-! ## Requests -/

inductive Subject where
  | owner (authority : String)
  /-- The delegate of an account, known by its address, for one mint. -/
  | delegate (account mint : String)
deriving DecidableEq

namespace Subject

def seeds : Subject → Except Error (List Bytes)
  | .owner authority => do
    let a ← decodeIdentity authority
    .ok [ownerSeed, a]
  | .delegate account mint => do
    let o ← decodeIdentity account
    let m ← decodeIdentity mint
    .ok [delegateSeed, o, m]

def address (program : String) : Subject → Except Error DerivedAddress
  | .owner authority => ownerAddress authority program
  | .delegate account mint => delegateAddress account mint program

/-- Identities that can be asked for: an authority or a mint is no longer than a seed may be, the
address of an account has the size of an identity. -/
def Admissible : Subject → Prop
  | .owner authority => ∃ a, Base58.decode authority = .ok a ∧ a.length ≤ maxSeedLength
  | .delegate account mint => Base58.isIdentity account = true ∧
      ∃ m, Base58.decode mint = .ok m ∧ m.length ≤ maxSeedLength

end Subject

structure Request where
  subject : Subject
  program : String
  bump : UInt8
deriving DecidableEq

namespace Request

structure Admissible (r : Request) : Prop where
  subject : r.subject.Admissible
  program : Base58.isIdentity r.program = true

def hashed (r : Request) : Except Error Bytes := do
  let seeds ← r.subject.seeds
  let program ← decodeIdentity r.program
  .ok (preimage (seeds ++ [[r.bump]]) program)

end Request

variable {s t : Subject} {q r : Request} {program : String} {d : DerivedAddress} {bs cs : Bytes}
  {seeds : List Bytes}

/-- An address is searched for from the seeds of its subject. -/
theorem address_eq : s.address program = (do findAddress (← s.seeds) program) := by
  cases s with
  | owner authority =>
      rw [Subject.address, Subject.seeds, ownerAddress]
      cases decodeIdentity authority <;> rfl
  | delegate account mint =>
      rw [Subject.address, Subject.seeds, delegateAddress]
      cases decodeIdentity account with
      | error e => rfl
      | ok o => cases decodeIdentity mint <;> rfl

theorem hashed_eq_ok_iff : r.hashed = .ok bs ↔
    ∃ seeds prog, r.subject.seeds = .ok seeds ∧ Base58.decode r.program = .ok prog ∧
      bs = preimage (seeds ++ [[r.bump]]) prog := by
  constructor
  · intro h
    obtain ⟨seeds, hseeds, h⟩ := bind_eq_ok.1 h
    obtain ⟨prog, hprog, h⟩ := bind_eq_ok.1 h
    exact ⟨seeds, prog, hseeds, decodeIdentity_eq_ok_iff.1 hprog, (Except.ok.inj h).symm⟩
  · rintro ⟨seeds, prog, hseeds, hprog, rfl⟩
    rw [Request.hashed, hseeds, ok_bind, decodeIdentity_eq_ok_iff.2 hprog, ok_bind]

/-- What is found is the digest of the request with the bump that it was found at. -/
theorem hashed_of_address (h : s.address program = .ok d) :
    ∃ bs, Request.hashed ⟨s, program, UInt8.ofNat d.bump⟩ = .ok bs ∧
      d.address = Base58.encode (Sha2.sha256 bs) := by
  rw [address_eq] at h
  obtain ⟨seeds, hseeds, h⟩ := bind_eq_ok.1 h
  obtain ⟨-, hsigner, hcreate⟩ := findBelow_eq_ok h
  obtain ⟨-, -, prog, hprog, -, haddress⟩ := createAddress_eq_ok_iff.1 hcreate
  rw [hsigner] at haddress
  exact ⟨_, hashed_eq_ok_iff.2 ⟨seeds, prog, hseeds, hprog, rfl⟩, haddress⟩

theorem encode_sha256_inj :
    Base58.encode (Sha2.sha256 bs) = Base58.encode (Sha2.sha256 cs) ↔
      Sha2.sha256 bs = Sha2.sha256 cs := by
  have hne (bs : Bytes) : Sha2.sha256 bs ≠ [] :=
    List.ne_nil_of_length_pos (by rw [Sha2.length_sha256]; decide)
  exact Base58.encode_inj (hne bs) (hne cs)

theorem isIdentity_encode_sha256 (bs : Bytes) :
    Base58.isIdentity (Base58.encode (Sha2.sha256 bs)) = true := by
  have hlength := Sha2.length_sha256 bs
  have hne : Sha2.sha256 bs ≠ [] := List.ne_nil_of_length_pos (by rw [hlength]; decide)
  exact Base58.isIdentity_iff.2 ⟨_, hlength, Base58.decode_encode hne⟩

theorem isIdentity_of_address (h : s.address program = .ok d) :
    Base58.isIdentity d.address = true := by
  obtain ⟨bs, -, haddress⟩ := hashed_of_address h
  exact haddress ▸ isIdentity_encode_sha256 bs

/-- A single zero byte is too short for a derived address. -/
theorem address_ne_one (h : s.address program = .ok d) : d.address ≠ "1" := by
  intro hone
  obtain ⟨bs, hlength, hbs⟩ := Base58.isIdentity_iff.1 (isIdentity_of_address h)
  rw [hone] at hbs
  have hzero := decodeIdentity_eq_ok_iff.1 decodeIdentity_one
  obtain rfl : bs = [0] := Except.ok.inj (hbs.symm.trans hzero)
  cases hlength

/-! ## Taking the bytes apart -/

theorem exists_seeds (hs : s.Admissible) : ∃ seeds, s.seeds = .ok seeds := by
  cases s with
  | owner authority =>
      obtain ⟨a, ha, -⟩ := hs
      exact ⟨[ownerSeed, a], by rw [Subject.seeds, decodeIdentity_eq_ok_iff.2 ha]; rfl⟩
  | delegate account mint =>
      obtain ⟨haccount, m, hm, -⟩ := hs
      obtain ⟨o, -, ho⟩ := Base58.isIdentity_iff.1 haccount
      refine ⟨[delegateSeed, o, m], ?_⟩
      rw [Subject.seeds, decodeIdentity_eq_ok_iff.2 ho, ok_bind, decodeIdentity_eq_ok_iff.2 hm]
      rfl

theorem exists_hashed (hr : r.Admissible) : ∃ bs, r.hashed = .ok bs := by
  obtain ⟨seeds, hseeds⟩ := exists_seeds hr.subject
  obtain ⟨prog, -, hprog⟩ := Base58.isIdentity_iff.1 hr.program
  exact ⟨_, hashed_eq_ok_iff.2 ⟨seeds, prog, hseeds, hprog, rfl⟩⟩

theorem seeds_owner_eq_ok_iff {authority : String} : (Subject.owner authority).seeds = .ok seeds ↔
    ∃ a, Base58.decode authority = .ok a ∧ seeds = [ownerSeed, a] := by
  simp only [← decodeIdentity_eq_ok_iff]
  cases h : decodeIdentity authority with
  | error e => simp [Subject.seeds, h]
  | ok a => simp [Subject.seeds, h, eq_comm]

theorem seeds_delegate_eq_ok_iff {account mint : String} :
    (Subject.delegate account mint).seeds = .ok seeds ↔
      ∃ o m, Base58.decode account = .ok o ∧ Base58.decode mint = .ok m ∧
        seeds = [delegateSeed, o, m] := by
  simp only [← decodeIdentity_eq_ok_iff]
  cases ho : decodeIdentity account with
  | error e => simp [Subject.seeds, ho]
  | ok o =>
      cases hm : decodeIdentity mint with
      | error e => simp [Subject.seeds, ho, hm]
      | ok m => simp [Subject.seeds, ho, hm, eq_comm]

theorem length_of_isIdentity {x : String} (hx : Base58.isIdentity x = true)
    (hbs : Base58.decode x = .ok bs) : bs.length = Base58.identitySize := by
  obtain ⟨cs, hlength, hcs⟩ := Base58.isIdentity_iff.1 hx
  rw [hcs] at hbs
  exact Except.ok.inj hbs ▸ hlength

/-- The seeds of a subject are joined to bytes that tell the subject. -/
theorem subject_eq_of_flatten {ss ts : List Bytes} (hs : s.Admissible) (ht : t.Admissible)
    (hss : s.seeds = .ok ss) (hts : t.seeds = .ok ts) (h : ss.flatten = ts.flatten) : s = t := by
  cases s with
  | owner x =>
      obtain ⟨a, ha, rfl⟩ := seeds_owner_eq_ok_iff.1 hss
      cases t with
      | owner y =>
          obtain ⟨b, hb, rfl⟩ := seeds_owner_eq_ok_iff.1 hts
          have hab : a = b := by simpa using h
          rw [Base58.eq_of_decode ha (hab ▸ hb)]
      | delegate o m =>
          -- "user_account" and "delegate" differ in their first letter.
          obtain ⟨b, c, -, -, rfl⟩ := seeds_delegate_eq_ok_iff.1 hts
          cases congrArg List.head? h
  | delegate o m =>
      obtain ⟨a, b, ha, hb, rfl⟩ := seeds_delegate_eq_ok_iff.1 hss
      cases t with
      | owner y =>
          obtain ⟨c, -, rfl⟩ := seeds_owner_eq_ok_iff.1 hts
          cases congrArg List.head? h
      | delegate o' m' =>
          obtain ⟨a', b', ha', hb', rfl⟩ := seeds_delegate_eq_ok_iff.1 hts
          have htails : a ++ b = a' ++ b' := by simpa using h
          have hlength : a.length = a'.length :=
            (length_of_isIdentity hs.1 ha).trans (length_of_isIdentity ht.1 ha').symm
          obtain ⟨rfl, rfl⟩ := List.append_inj htails hlength
          rw [Base58.eq_of_decode ha ha', Base58.eq_of_decode hb hb']

/-- Program and bump are cut off at the end, where they have a fixed width. -/
theorem hashed_inj (hq : q.Admissible) (hr : r.Admissible) (hbs : q.hashed = .ok bs)
    (hcs : r.hashed = .ok cs) : bs = cs ↔ q = r := by
  constructor
  · rintro rfl
    obtain ⟨ss, pq, hss, hpq, hq'⟩ := hashed_eq_ok_iff.1 hbs
    obtain ⟨ts, pr, hts, hpr, hr'⟩ := hashed_eq_ok_iff.1 hcs
    have h : preimage (ss ++ [[q.bump]]) pq = preimage (ts ++ [[r.bump]]) pr := hq'.symm.trans hr'
    simp only [preimage, List.flatten_append, List.flatten_cons, List.flatten_nil,
      List.append_nil] at h
    have hlength : pq.length = pr.length :=
      (length_of_isIdentity hq.program hpq).trans (length_of_isIdentity hr.program hpr).symm
    obtain ⟨hprograms, -⟩ := List.append_inj' h rfl
    obtain ⟨hseeds, rfl⟩ := List.append_inj' hprograms hlength
    obtain ⟨hflatten, hbump⟩ := List.append_inj' hseeds rfl
    obtain ⟨s, x, b⟩ := q
    obtain ⟨t, y, c⟩ := r
    obtain rfl : b = c := List.singleton_inj.1 hbump
    obtain rfl : x = y := Base58.eq_of_decode hpq hpr
    obtain rfl : s = t := subject_eq_of_flatten hq.subject hr.subject hss hts hflatten
    rfl
  · rintro rfl
    exact Except.ok.inj (hbs.symm.trans hcs)

/-! ## Separate domains -/

/--
Two requests that can be made are hashed alike just when they are the same, in kind, in every
identity, in the program and in the bump. An address that is derived for a subject is the digest of
such a request, and is itself an identity of the right size. So addresses derived for different
subjects, or in different programs, are equal just when two different byte strings have one digest.
-/
theorem requests_are_apart :
    (∀ q r : Request, q.Admissible → r.Admissible →
      ∃ bs cs, q.hashed = .ok bs ∧ r.hashed = .ok cs ∧ (bs = cs ↔ q = r)) ∧
    (∀ (s : Subject) (program : String) (d : DerivedAddress), s.address program = .ok d →
      Base58.isIdentity d.address = true ∧ d.bump < 256 ∧
      ∃ bs, Request.hashed ⟨s, program, UInt8.ofNat d.bump⟩ = .ok bs ∧
        d.address = Base58.encode (Sha2.sha256 bs)) ∧
    ∀ (s t : Subject) (x y : String) (d e : DerivedAddress),
      s.Admissible → t.Admissible → Base58.isIdentity x = true → Base58.isIdentity y = true →
      s.address x = .ok d → t.address y = .ok e → (s, x) ≠ (t, y) →
      ∃ bs cs, Request.hashed ⟨s, x, UInt8.ofNat d.bump⟩ = .ok bs ∧
        Request.hashed ⟨t, y, UInt8.ofNat e.bump⟩ = .ok cs ∧ bs ≠ cs ∧
        (d.address = e.address ↔ Sha2.sha256 bs = Sha2.sha256 cs) := by
  refine ⟨?_, ?_, ?_⟩
  · intro q r hq hr
    obtain ⟨bs, hbs⟩ := exists_hashed hq
    obtain ⟨cs, hcs⟩ := exists_hashed hr
    exact ⟨bs, cs, hbs, hcs, hashed_inj hq hr hbs hcs⟩
  · intro s program d h
    have hidentity := isIdentity_of_address h
    obtain ⟨bs, hbs, haddress⟩ := hashed_of_address h
    rw [address_eq] at h
    obtain ⟨seeds, -, h⟩ := bind_eq_ok.1 h
    exact ⟨hidentity, (findBelow_eq_ok h).1, bs, hbs, haddress⟩
  · intro s t x y d e hs ht hx hy hd he hne
    obtain ⟨bs, hbs, hdaddress⟩ := hashed_of_address hd
    obtain ⟨cs, hcs, headdress⟩ := hashed_of_address he
    refine ⟨bs, cs, hbs, hcs, ?_, by rw [hdaddress, headdress, encode_sha256_inj]⟩
    intro heq
    have hsame := (hashed_inj ⟨hs, hx⟩ ⟨ht, hy⟩ hbs hcs).1 heq
    exact hne (by rw [(Request.mk.inj hsame).1, (Request.mk.inj hsame).2.1])

/-- An address is found at the first bump if the digest is off the curve there. -/
theorem exists_address {prog : Bytes} (hseeds : s.seeds = .ok seeds)
    (hprogram : Base58.decode program = .ok prog) (hcount : seeds.length < maxSeeds)
    (hshort : ∀ x ∈ seeds ++ [[UInt8.ofNat 255]], x.length ≤ maxSeedLength)
    (hcurve : Ed25519.isOnCurve
      (Sha2.sha256 (preimage (seeds ++ [[UInt8.ofNat 255]]) prog)) = false) :
    ∃ d, s.address program = .ok d ∧
      d.address = Base58.encode (Sha2.sha256 (preimage (seeds ++ [[UInt8.ofNat 255]]) prog)) := by
  have hcreate := createAddress_eq_ok_iff.2 ⟨by simpa using hcount, hshort, prog, hprogram, hcurve,
    rfl⟩
  refine ⟨⟨Base58.encode (Sha2.sha256 (preimage (seeds ++ [[UInt8.ofNat 255]]) prog)), 255,
    seeds ++ [[UInt8.ofNat 255]]⟩, ?_, rfl⟩
  rw [address_eq, hseeds, ok_bind]
  simp only [findAddress, findBelow, hcreate]

/-- Owners have delegates. -/
theorem exists_delegateAddress : ∃ mint d e,
    ownerAddress "1" "1" = .ok d ∧ delegateAddress d.address mint "1" = .ok e := by
  have hone : Base58.decode "1" = .ok [0] := decodeIdentity_eq_ok_iff.1 decodeIdentity_one
  obtain ⟨d, hd, haddress⟩ := exists_address (s := .owner "1")
    (seeds_owner_eq_ok_iff.2 ⟨_, hone, rfl⟩) hone (by decide) (by decide) (by decide +kernel)
  have haccount : Base58.decode d.address = _ := haddress ▸ Base58.decode_encode
    (List.ne_nil_of_length_pos (by rw [Sha2.length_sha256]; decide))
  have hmint : Base58.decode (Base58.encode [4]) = .ok [4] := Base58.decode_encode (by decide)
  obtain ⟨e, he, -⟩ := exists_address (s := .delegate d.address (Base58.encode [4]))
    (seeds_delegate_eq_ok_iff.2 ⟨_, _, haccount, hmint, rfl⟩) hone (by decide) (by
      simp only [List.cons_append, List.nil_append, List.forall_mem_cons, Sha2.length_sha256]
      decide) (by decide +kernel)
  exact ⟨_, d, e, hd, he⟩

/-- An owner's account and the delegate of another account, whose address is also the program's. -/
theorem requests_are_apart_kinds : ∃ (x : String) (d e : DerivedAddress),
    Base58.isIdentity x = true ∧ ownerAddress "1" x = .ok d ∧ delegateAddress x "1" x = .ok e ∧
      ∃ bs cs, Request.hashed ⟨.owner "1", x, UInt8.ofNat d.bump⟩ = .ok bs ∧
        Request.hashed ⟨.delegate x "1", x, UInt8.ofNat e.bump⟩ = .ok cs ∧ bs ≠ cs ∧
        (d.address = e.address ↔ Sha2.sha256 bs = Sha2.sha256 cs) := by
  let prog : Bytes := List.replicate 32 4
  have hprogram : Base58.decode (Base58.encode prog) = .ok prog := Base58.decode_encode (by decide)
  have hidentity : Base58.isIdentity (Base58.encode prog) = true :=
    Base58.isIdentity_iff.2 ⟨prog, rfl, hprogram⟩
  have hone : Base58.decode "1" = .ok [0] := decodeIdentity_eq_ok_iff.1 decodeIdentity_one
  have hshort : ([0] : Bytes).length ≤ maxSeedLength := by decide
  obtain ⟨d, hd, -⟩ := exists_address (s := .owner "1")
    (seeds_owner_eq_ok_iff.2 ⟨_, hone, rfl⟩) hprogram (by decide) (by decide) (by decide +kernel)
  obtain ⟨e, he, -⟩ := exists_address (s := .delegate (Base58.encode prog) "1")
    (seeds_delegate_eq_ok_iff.2 ⟨_, _, hprogram, hone, rfl⟩) hprogram (by decide) (by decide)
    (by decide +kernel)
  obtain ⟨-, -, hapart⟩ := requests_are_apart
  exact ⟨_, d, e, hidentity, hd, he, hapart _ _ _ _ d e ⟨_, hone, hshort⟩
    ⟨hidentity, _, hone, hshort⟩ hidentity hidentity hd he (by simp)⟩

end Derivation

end Keyring
