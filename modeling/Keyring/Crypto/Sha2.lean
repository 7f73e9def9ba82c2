import Keyring.Bytes

/-!
# SHA-2

The hash functions SHA-256 and SHA-512 are one algorithm over words of 32 and of 64 bits. `Variant`
holds what they differ in. The round constants and the initial state of the smaller one are the high
halves of those of the larger.
-/

namespace Keyring.Sha2

structure Variant (w : Nat) where
  /-- Bytes in a word. -/
  wordBytes : Nat
  rounds : List (BitVec w)
  initial : List (BitVec w)
  /-- Rotations of the two sums of the compression, then of the two of the schedule. -/
  big0 : Nat × Nat × Nat
  big1 : Nat × Nat × Nat
  /-- The last amount is a shift. -/
  small0 : Nat × Nat × Nat
  small1 : Nat × Nat × Nat

variable {w : Nat}

def rotations (r : Nat × Nat × Nat) (x : BitVec w) : BitVec w :=
  x.rotateRight r.1 ^^^ x.rotateRight r.2.1 ^^^ x.rotateRight r.2.2

def mixing (r : Nat × Nat × Nat) (x : BitVec w) : BitVec w :=
  x.rotateRight r.1 ^^^ x.rotateRight r.2.1 ^^^ (x >>> r.2.2)

structure State (w : Nat) where
  a : BitVec w
  b : BitVec w
  c : BitVec w
  d : BitVec w
  e : BitVec w
  f : BitVec w
  g : BitVec w
  h : BitVec w

def State.ofList (xs : List (BitVec w)) : State w :=
  let x := fun i => xs.getD i 0
  ⟨x 0, x 1, x 2, x 3, x 4, x 5, x 6, x 7⟩

def State.toList (s : State w) : List (BitVec w) :=
  [s.a, s.b, s.c, s.d, s.e, s.f, s.g, s.h]

def State.add (s t : State w) : State w :=
  ⟨s.a + t.a, s.b + t.b, s.c + t.c, s.d + t.d, s.e + t.e, s.f + t.f, s.g + t.g, s.h + t.h⟩

/-- One round, with the sum of its constant and its schedule word. -/
def round (v : Variant w) (s : State w) (kw : BitVec w) : State w :=
  let choice := (s.e &&& s.f) ^^^ (~~~s.e &&& s.g)
  let majority := (s.a &&& s.b) ^^^ (s.a &&& s.c) ^^^ (s.b &&& s.c)
  let t := s.h + rotations v.big1 s.e + choice + kw
  ⟨t + rotations v.big0 s.a + majority, s.a, s.b, s.c, s.d + t, s.e, s.f, s.g⟩

/-- The schedule: each word after the block is made from four of the sixteen before it. -/
def schedule (v : Variant w) (block : List (BitVec w)) : Array (BitVec w) :=
  (List.range (v.rounds.length - 16)).foldl
    (fun ws i =>
      let x := fun j => ws.getD j 0
      ws.push (mixing v.small1 (x (i + 14)) + x (i + 9) + mixing v.small0 (x (i + 1)) + x i))
    block.toArray

def compress (v : Variant w) (s : State w) (block : List (BitVec w)) : State w :=
  s.add ((List.zipWith (· + ·) v.rounds (schedule v block).toList).foldl (round v) s)

def word (bs : Bytes) : BitVec w :=
  BitVec.ofNat w (Bytes.toNatBE bs)

/-- The message, a set bit, and zeros up to its length in bits, which ends the last block. -/
def padded (v : Variant w) (bs : Bytes) : Bytes :=
  let size := 16 * v.wordBytes
  let tail := 2 * v.wordBytes
  let zeros := (2 * size - 1 - tail - bs.length % size) % size
  bs ++ 0x80 :: List.replicate zeros 0 ++ (Bytes.ofNatLE tail (8 * bs.length)).reverse

def pieces {α : Type} (k : Nat) : Nat → List α → List (List α)
  | 0, _ => []
  | n + 1, xs => xs.take k :: pieces k n (xs.drop k)

def hash (v : Variant w) (bs : Bytes) : Bytes :=
  let msg := padded v bs
  let words := (pieces v.wordBytes (msg.length / v.wordBytes) msg).map word
  let blocks := pieces 16 (words.length / 16) words
  let final := blocks.foldl (compress v) (State.ofList v.initial)
  final.toList.flatMap fun x => (Bytes.ofNatLE v.wordBytes x.toNat).reverse

/-- The first 64 bits of the fractions of the cube roots of the first eighty primes. -/
def roundConstants : List (BitVec 64) :=
  [0x428a2f98d728ae22, 0x7137449123ef65cd, 0xb5c0fbcfec4d3b2f, 0xe9b5dba58189dbbc,
   0x3956c25bf348b538, 0x59f111f1b605d019, 0x923f82a4af194f9b, 0xab1c5ed5da6d8118,
   0xd807aa98a3030242, 0x12835b0145706fbe, 0x243185be4ee4b28c, 0x550c7dc3d5ffb4e2,
   0x72be5d74f27b896f, 0x80deb1fe3b1696b1, 0x9bdc06a725c71235, 0xc19bf174cf692694,
   0xe49b69c19ef14ad2, 0xefbe4786384f25e3, 0x0fc19dc68b8cd5b5, 0x240ca1cc77ac9c65,
   0x2de92c6f592b0275, 0x4a7484aa6ea6e483, 0x5cb0a9dcbd41fbd4, 0x76f988da831153b5,
   0x983e5152ee66dfab, 0xa831c66d2db43210, 0xb00327c898fb213f, 0xbf597fc7beef0ee4,
   0xc6e00bf33da88fc2, 0xd5a79147930aa725, 0x06ca6351e003826f, 0x142929670a0e6e70,
   0x27b70a8546d22ffc, 0x2e1b21385c26c926, 0x4d2c6dfc5ac42aed, 0x53380d139d95b3df,
   0x650a73548baf63de, 0x766a0abb3c77b2a8, 0x81c2c92e47edaee6, 0x92722c851482353b,
   0xa2bfe8a14cf10364, 0xa81a664bbc423001, 0xc24b8b70d0f89791, 0xc76c51a30654be30,
   0xd192e819d6ef5218, 0xd69906245565a910, 0xf40e35855771202a, 0x106aa07032bbd1b8,
   0x19a4c116b8d2d0c8, 0x1e376c085141ab53, 0x2748774cdf8eeb99, 0x34b0bcb5e19b48a8,
   0x391c0cb3c5c95a63, 0x4ed8aa4ae3418acb, 0x5b9cca4f7763e373, 0x682e6ff3d6b2b8a3,
   0x748f82ee5defb2fc, 0x78a5636f43172f60, 0x84c87814a1f0ab72, 0x8cc702081a6439ec,
   0x90befffa23631e28, 0xa4506cebde82bde9, 0xbef9a3f7b2c67915, 0xc67178f2e372532b,
   0xca273eceea26619c, 0xd186b8c721c0c207, 0xeada7dd6cde0eb1e, 0xf57d4f7fee6ed178,
   0x06f067aa72176fba, 0x0a637dc5a2c898a6, 0x113f9804bef90dae, 0x1b710b35131c471b,
   0x28db77f523047d84, 0x32caab7b40c72493, 0x3c9ebe0a15c9bebc, 0x431d67c49c100d4c,
   0x4cc5d4becb3e42b6, 0x597f299cfc657e2a, 0x5fcb6fab3ad6faec, 0x6c44198c4a475817]

/-- The first 64 bits of the fractions of the square roots of the first eight primes. -/
def initialState : List (BitVec 64) :=
  [0x6a09e667f3bcc908, 0xbb67ae8584caa73b, 0x3c6ef372fe94f82b, 0xa54ff53a5f1d36f1,
   0x510e527fade682d1, 0x9b05688c2b3e6c1f, 0x1f83d9abfb41bd6b, 0x5be0cd19137e2179]

def highHalf (x : BitVec 64) : BitVec 32 :=
  (x >>> 32).setWidth 32

def variant512 : Variant 64 where
  wordBytes := 8
  rounds := roundConstants
  initial := initialState
  big0 := (28, 34, 39)
  big1 := (14, 18, 41)
  small0 := (1, 8, 7)
  small1 := (19, 61, 6)

def variant256 : Variant 32 where
  wordBytes := 4
  rounds := (roundConstants.take 64).map highHalf
  initial := initialState.map highHalf
  big0 := (2, 13, 22)
  big1 := (6, 11, 25)
  small0 := (7, 18, 3)
  small1 := (17, 19, 10)

def sha256 (bs : Bytes) : Bytes := hash variant256 bs
def sha512 (bs : Bytes) : Bytes := hash variant512 bs

end Keyring.Sha2
