import UpgradeGate.Text.Decimal

/-!
# Bytes

Bytes as hexadecimal text and as numbers, most or least significant byte first.

Main statements: reading the hexadecimal text of bytes gives the bytes back (`ofHex?_toHex`), and
the big-endian bytes of a number have no leading zero and determine it (`natOf_bigEndian`).
-/

namespace UpgradeGate

/-- A sequence of bytes. -/
abbrev Bytes := List UInt8

namespace Bytes

/-- The two hexadecimal digits of a byte, in lower case. -/
def hexPair (byte : UInt8) : List Char := Text.hexFixed 2 byte.toNat

/-- Bytes as hexadecimal digits, in lower case. -/
def toHex (bytes : Bytes) : List Char := bytes.flatMap hexPair

/-- Bytes as a string of hexadecimal digits, in lower case. -/
def hexText (bytes : Bytes) : String := String.ofList (toHex bytes)

/-- The bytes that pairs of hexadecimal digits write. -/
def ofHex? : List Char → Option Bytes
  | [] => some []
  | [_] => none
  | high :: low :: rest => do
    let high ← Text.hexValue? high
    let low ← Text.hexValue? low
    let bytes ← ofHex? rest
    pure (UInt8.ofNat (16 * high + low) :: bytes)

/-- Reading the digits of bytes gives the bytes back. -/
theorem ofHex?_toHex (bytes : Bytes) : ofHex? (toHex bytes) = some bytes := by
  induction bytes with
  | nil => rfl
  | cons byte rest ih =>
    have small := byte.toNat_lt
    have high : Text.hexValue? (Text.hexDigit (byte.toNat / 16 % 16)) = some (byte.toNat / 16) := by
      rw [Text.hexValue?_hexDigit _ (by omega), Nat.mod_eq_of_lt (by omega)]
    have low : Text.hexValue? (Text.hexDigit (byte.toNat % 16)) = some (byte.toNat % 16) :=
      Text.hexValue?_hexDigit _ (by omega)
    have whole : 16 * (byte.toNat / 16) + byte.toNat % 16 = byte.toNat := by omega
    have digits : toHex (byte :: rest) =
        Text.hexDigit (byte.toNat / 16 % 16) :: Text.hexDigit (byte.toNat % 16) :: toHex rest := by
      simp [toHex, hexPair, Text.hexFixed]
    rw [digits]
    simp only [ofHex?, high, low, ih, whole, Option.bind_eq_bind, Option.bind_some, Option.pure_def,
      UInt8.ofNat_toNat]

theorem length_toHex (bytes : Bytes) : (toHex bytes).length = 2 * bytes.length := by
  induction bytes with
  | nil => rfl
  | cons byte rest ih =>
    have step : toHex (byte :: rest) = hexPair byte ++ toHex rest := by simp [toHex]
    rw [step, List.length_append, ih]
    simp [hexPair, Text.hexFixed]
    omega

/-! ## Numbers as bytes -/

/-- The bytes of a number, most significant byte first, without leading zeros. -/
def bigEndian (n : Nat) : Bytes :=
  if n = 0 then [] else bigEndian (n / 256) ++ [UInt8.ofNat (n % 256)]
termination_by n

/-- The number that bytes write, most significant byte first. -/
def natOf (bytes : Bytes) : Nat := bytes.foldl (fun total byte => 256 * total + byte.toNat) 0

/-- The bytes of a number determine it. -/
theorem natOf_bigEndian (n : Nat) : natOf (bigEndian n) = n := by
  induction n using bigEndian.induct with
  | case1 => simp [bigEndian, natOf]
  | case2 n positive ih =>
    rw [bigEndian, if_neg positive]
    simp only [natOf, List.foldl_append, List.foldl_cons, List.foldl_nil] at ih ⊢
    rw [ih]
    simp
    omega

/-- The last `width` bytes of a number, most significant byte first. -/
def bigEndianFixed : (width : Nat) → Nat → Bytes
  | 0, _ => []
  | width + 1, n => bigEndianFixed width (n / 256) ++ [UInt8.ofNat (n % 256)]

/-- A number of a fixed width has that many bytes. -/
@[simp] theorem length_bigEndianFixed (width n : Nat) :
    (bigEndianFixed width n).length = width := by
  induction width generalizing n with
  | zero => rfl
  | succ width ih => simp [bigEndianFixed, ih]

/-- The last `width` bytes of a number, least significant byte first. -/
def littleEndianFixed : (width : Nat) → Nat → Bytes
  | 0, _ => []
  | width + 1, n => UInt8.ofNat (n % 256) :: littleEndianFixed width (n / 256)

/-- Bytes in groups of `size`, the last of which may be shorter. -/
def groups (size : Nat) (bytes : Bytes) : List Bytes :=
  if bytes.length ≤ size ∨ size = 0 then [bytes]
  else bytes.take size :: groups size (bytes.drop size)
termination_by bytes.length
decreasing_by simp only [List.length_drop]; omega

end Bytes

end UpgradeGate
