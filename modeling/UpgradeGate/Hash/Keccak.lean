import UpgradeGate.Hash.Bytes

/-!
# Keccak-256

The hash of the chain: the sponge over 25 lanes of 64 bits with a rate of 136 bytes, and a message
padding that starts with the byte 1.
-/

namespace UpgradeGate.Keccak

/-- Bytes that one step of the sponge takes in. -/
def rate : Nat := 136

/-- The words that the rounds add to the first lane. -/
def roundConstants : List UInt64 :=
  [0x0000000000000001, 0x0000000000008082, 0x800000000000808a, 0x8000000080008000,
    0x000000000000808b, 0x0000000080000001, 0x8000000080008081, 0x8000000000008009,
    0x000000000000008a, 0x0000000000000088, 0x0000000080008009, 0x000000008000000a,
    0x000000008000808b, 0x800000000000008b, 0x8000000000008089, 0x8000000000008003,
    0x8000000000008002, 0x8000000000000080, 0x000000000000800a, 0x800000008000000a,
    0x8000000080008081, 0x8000000000008080, 0x0000000080000001, 0x8000000080008008]

/-- How far each lane turns, lane `x + 5 * y` at index `x + 5 * y`. -/
def turns : Array UInt64 :=
  #[0, 1, 62, 28, 27, 36, 44, 6, 55, 20, 3, 10, 43, 25, 39, 41, 45, 15, 21, 8, 18, 2, 61, 56, 14]

/-- The lanes of the sponge, lane `x + 5 * y` at index `x + 5 * y`. -/
abbrev Lanes := Array UInt64

/-- Turn a lane to the left. -/
def rotate (x : UInt64) (n : UInt64) : UInt64 :=
  if n == 0 then x else (x <<< n) ||| (x >>> (64 - n))

/-- A lane by its place. -/
def lane (lanes : Lanes) (x y : Nat) : UInt64 := lanes.getD (x % 5 + 5 * (y % 5)) 0

/-- Lanes given by their places. -/
def tabulate (f : (x y : Nat) → UInt64) : Lanes := Array.ofFn fun i : Fin 25 => f (i % 5) (i / 5)

/-- Add to each lane the parities of two columns beside it. -/
def mixColumns (lanes : Lanes) : Lanes :=
  let parity := Array.ofFn fun x : Fin 5 =>
    lane lanes x 0 ^^^ lane lanes x 1 ^^^ lane lanes x 2 ^^^ lane lanes x 3 ^^^ lane lanes x 4
  let added := Array.ofFn fun x : Fin 5 =>
    parity.getD ((x + 4) % 5) 0 ^^^ rotate (parity.getD ((x + 1) % 5) 0) 1
  tabulate fun x y => lane lanes x y ^^^ added.getD x 0

/-- Turn each lane and move it to its new place. -/
def turnAndMove (lanes : Lanes) : Lanes :=
  tabulate fun x y =>
    let fromX := x + 3 * y
    rotate (lane lanes fromX x) (turns.getD (fromX % 5 + 5 * x) 0)

/-- Combine each lane with the two that follow in its row. -/
def mixRows (lanes : Lanes) : Lanes :=
  tabulate fun x y =>
    lane lanes x y ^^^ ((lane lanes (x + 1) y ^^^ 0xffffffffffffffff) &&& lane lanes (x + 2) y)

/-- One round. -/
def round (lanes : Lanes) (constant : UInt64) : Lanes :=
  (mixRows (turnAndMove (mixColumns lanes))).modify 0 (· ^^^ constant)

/-- All rounds. -/
def permute (lanes : Lanes) : Lanes := roundConstants.foldl round lanes

/-- The lanes that a block of bytes fills, least significant byte first. -/
def blockLanes (block : Bytes) : Lanes :=
  ((Bytes.groups 8 block).map fun group => UInt64.ofNat (Bytes.natOf group.reverse)).toArray

/-- Take in a block. -/
def absorb (lanes : Lanes) (block : Bytes) : Lanes :=
  let words := blockLanes block
  permute (tabulate fun x y => lane lanes x y ^^^ words.getD (x + 5 * y) 0)

/-- A message with its padding, a whole number of blocks. -/
def padded (message : Bytes) : Bytes :=
  let missing := rate - message.length % rate
  message ++
    if missing == 1 then [0x81] else 0x01 :: List.replicate (missing - 2) 0 ++ [0x80]

/-- The hash of a message, 32 bytes. -/
def digest (message : Bytes) : Bytes :=
  let final := (Bytes.groups rate (padded message)).foldl absorb (Array.replicate 25 0)
  (List.range 4).flatMap fun i => Bytes.littleEndianFixed 8 (final.getD i 0).toNat

/-- A number of a fixed width has that many bytes. -/
theorem length_littleEndianFixed (width n : Nat) :
    (Bytes.littleEndianFixed width n).length = width := by
  induction width generalizing n with
  | zero => rfl
  | succ width ih => simp [Bytes.littleEndianFixed, ih]

/-- A hash has 32 bytes. -/
theorem length_digest (message : Bytes) : (digest message).length = 32 := by
  simp [digest, List.range_succ, length_littleEndianFixed]

end UpgradeGate.Keccak
