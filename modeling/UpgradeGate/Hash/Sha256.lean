import UpgradeGate.Hash.Bytes

/-!
# SHA-256

The hash that seals layout records. A message is padded to whole blocks of 64 bytes, and each block
is mixed into eight words of 32 bits.

Main statement: every message has a hash of 32 bytes, or 64 digits (`length_digestText`).
-/

namespace UpgradeGate.Sha256

/-- The words that the rounds add, one for each round. -/
def roundConstants : List UInt32 :=
  [0x428a2f98, 0x71374491, 0xb5c0fbcf, 0xe9b5dba5, 0x3956c25b, 0x59f111f1, 0x923f82a4, 0xab1c5ed5,
    0xd807aa98, 0x12835b01, 0x243185be, 0x550c7dc3, 0x72be5d74, 0x80deb1fe, 0x9bdc06a7, 0xc19bf174,
    0xe49b69c1, 0xefbe4786, 0x0fc19dc6, 0x240ca1cc, 0x2de92c6f, 0x4a7484aa, 0x5cb0a9dc, 0x76f988da,
    0x983e5152, 0xa831c66d, 0xb00327c8, 0xbf597fc7, 0xc6e00bf3, 0xd5a79147, 0x06ca6351, 0x14292967,
    0x27b70a85, 0x2e1b2138, 0x4d2c6dfc, 0x53380d13, 0x650a7354, 0x766a0abb, 0x81c2c92e, 0x92722c85,
    0xa2bfe8a1, 0xa81a664b, 0xc24b8b70, 0xc76c51a3, 0xd192e819, 0xd6990624, 0xf40e3585, 0x106aa070,
    0x19a4c116, 0x1e376c08, 0x2748774c, 0x34b0bcb5, 0x391c0cb3, 0x4ed8aa4a, 0x5b9cca4f, 0x682e6ff3,
    0x748f82ee, 0x78a5636f, 0x84c87814, 0x8cc70208, 0x90befffa, 0xa4506ceb, 0xbef9a3f7, 0xc67178f2]

/-- The eight words of the state. -/
structure State where
  a : UInt32
  b : UInt32
  c : UInt32
  d : UInt32
  e : UInt32
  f : UInt32
  g : UInt32
  h : UInt32

/-- The state before the first block. -/
def State.start : State :=
  ⟨0x6a09e667, 0xbb67ae85, 0x3c6ef372, 0xa54ff53a, 0x510e527f, 0x9b05688c, 0x1f83d9ab, 0x5be0cd19⟩

/-- The words of a state in order. -/
def State.words (s : State) : List UInt32 := [s.a, s.b, s.c, s.d, s.e, s.f, s.g, s.h]

/-- Add two states word by word. -/
def State.add (s t : State) : State :=
  ⟨s.a + t.a, s.b + t.b, s.c + t.c, s.d + t.d, s.e + t.e, s.f + t.f, s.g + t.g, s.h + t.h⟩

/-- Turn a word to the right. -/
def rotate (x : UInt32) (n : UInt32) : UInt32 := (x >>> n) ||| (x <<< (32 - n))

/-- Extend the words of a block by `count` words, each made of four earlier ones. -/
def extend : (count : Nat) → Array UInt32 → Array UInt32
  | 0, words => words
  | count + 1, words =>
    let back (n : Nat) := words.getD (words.size - n) 0
    let x := back 15
    let y := back 2
    let s := rotate x 7 ^^^ rotate x 18 ^^^ (x >>> 3)
    let t := rotate y 17 ^^^ rotate y 19 ^^^ (y >>> 10)
    extend count (words.push (back 16 + s + back 7 + t))

/-- One round, with its constant and its word of the block. -/
def round (s : State) (mix : UInt32 × UInt32) : State :=
  let x := rotate s.e 6 ^^^ rotate s.e 11 ^^^ rotate s.e 25
  let choice := (s.e &&& s.f) ^^^ ((s.e ^^^ 0xffffffff) &&& s.g)
  let first := s.h + x + choice + mix.1 + mix.2
  let y := rotate s.a 2 ^^^ rotate s.a 13 ^^^ rotate s.a 22
  let majority := (s.a &&& s.b) ^^^ (s.a &&& s.c) ^^^ (s.b &&& s.c)
  ⟨first + (y + majority), s.a, s.b, s.c, s.d + first, s.e, s.f, s.g⟩

/-- The words of a block. -/
def blockWords (block : Bytes) : Array UInt32 :=
  ((Bytes.groups 4 block).map fun group => UInt32.ofNat (Bytes.natOf group)).toArray

/-- Mix a block into the state. -/
def compress (s : State) (block : Bytes) : State :=
  s.add ((roundConstants.zip (extend 48 (blockWords block)).toList).foldl round s)

/-- A message with a one bit, zeros up to a whole number of blocks, and its length in bits. -/
def padded (message : Bytes) : Bytes :=
  let zeros := (64 - (message.length + 9) % 64) % 64
  message ++ 0x80 :: List.replicate zeros 0 ++ Bytes.bigEndianFixed 8 (8 * message.length)

/-- The hash of a message, 32 bytes. -/
def digest (message : Bytes) : Bytes :=
  let final := (Bytes.groups 64 (padded message)).foldl compress State.start
  final.words.flatMap fun word => Bytes.bigEndianFixed 4 word.toNat

/-- The hash of a text in hexadecimal digits. -/
def digestText (text : String) : String := Bytes.hexText (digest text.toUTF8.data.toList)

theorem length_digest (message : Bytes) : (digest message).length = 32 := by
  simp [digest, State.words]

/-- The text of a digest has 64 characters. -/
theorem length_digestText (text : String) : (digestText text).length = 64 := by
  simp [digestText, Bytes.hexText, Bytes.length_toHex, length_digest]

end UpgradeGate.Sha256
