import Keyring.Bytes

/-!
# UTF-8

`encode` is the encoding of a text. `decode` reads any byte string: each maximal part of an
ill-formed sequence that begins a well-formed one becomes one replacement character, and so does a
byte that begins none.
-/

namespace Keyring.Text.Utf8

def encodeChar (c : Char) : Bytes :=
  let n := c.toNat
  if n < 0x80 then [UInt8.ofNat n]
  else if n < 0x800 then [UInt8.ofNat (0xc0 + n / 64), UInt8.ofNat (0x80 + n % 64)]
  else if n < 0x10000 then
    [UInt8.ofNat (0xe0 + n / 4096), UInt8.ofNat (0x80 + n / 64 % 64), UInt8.ofNat (0x80 + n % 64)]
  else
    [UInt8.ofNat (0xf0 + n / 262144), UInt8.ofNat (0x80 + n / 4096 % 64),
      UInt8.ofNat (0x80 + n / 64 % 64), UInt8.ofNat (0x80 + n % 64)]

def encode (s : String) : Bytes :=
  s.toList.flatMap encodeChar

def replacement : Char := '\ufffd'

/-- What a leading byte announces: its payload, and the range of the byte after it. -/
structure Lead where
  more : Nat
  payload : Nat
  lo : Nat
  hi : Nat

def lead? (b : Nat) : Option Lead :=
  if b < 0x80 then some ⟨0, b, 0, 0⟩
  else if b < 0xc2 then none
  else if b < 0xe0 then some ⟨1, b - 0xc0, 0x80, 0xbf⟩
  else if b < 0xf0 then
    some ⟨2, b - 0xe0, if b = 0xe0 then 0xa0 else 0x80, if b = 0xed then 0x9f else 0xbf⟩
  else if b < 0xf5 then
    some ⟨3, b - 0xf0, if b = 0xf0 then 0x90 else 0x80, if b = 0xf4 then 0x8f else 0xbf⟩
  else none

/-- A sequence under way: how many bytes are to come, the value so far, the range of the next. -/
structure State where
  more : Nat
  value : Nat
  lo : Nat
  hi : Nat

/-- The characters that a byte completes when none is under way, and the sequence it opens. -/
def start (b : Nat) : List Char × Option State :=
  match lead? b with
  | none => ([replacement], none)
  | some l =>
    if l.more = 0 then ([Char.ofNat l.payload], none)
    else ([], some ⟨l.more, l.payload, l.lo, l.hi⟩)

def step (st : Option State) (b : Nat) : List Char × Option State :=
  match st with
  | none => start b
  | some s =>
    if s.lo ≤ b && b ≤ s.hi then
      let v := s.value * 64 + (b - 0x80)
      if s.more = 1 then ([Char.ofNat v], none) else ([], some ⟨s.more - 1, v, 0x80, 0xbf⟩)
    else
      let (cs, st') := start b
      (replacement :: cs, st')

def decodeFrom (st : Option State) : Bytes → List Char
  | [] => if st.isSome then [replacement] else []
  | b :: bs =>
    let (cs, st') := step st b.toNat
    cs ++ decodeFrom st' bs

def decode (bs : Bytes) : String :=
  String.ofList (decodeFrom none bs)

end Keyring.Text.Utf8
