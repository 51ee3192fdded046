import UpgradeGate.Hash.Bytes

/-!
# Recursive length coding

The byte coding of nested lists of byte strings. A short item is preceded by one byte that gives
its length, a long one also by the bytes of its length; a single byte below 128 stands for itself.
-/

namespace UpgradeGate.Rlp

/-- The bytes in front of a payload of a given length: `short` is the leading byte of the empty
payload. -/
def header (short : Nat) (length : Nat) : Bytes :=
  if length < 56 then [UInt8.ofNat (short + length)]
  else
    let size := Bytes.bigEndian length
    UInt8.ofNat (short + 55 + size.length) :: size

/-- The coding of a byte string. -/
def ofBytes (bytes : Bytes) : Bytes :=
  match bytes with
  | [byte] => if byte < 0x80 then [byte] else header 0x80 1 ++ [byte]
  | _ => header 0x80 bytes.length ++ bytes

/-- The coding of a number: its bytes without leading zeros. -/
def ofNat (n : Nat) : Bytes := ofBytes (Bytes.bigEndian n)

/-- The coding of a list of items that are coded already. -/
def ofList (items : List Bytes) : Bytes :=
  header 0xC0 items.flatten.length ++ items.flatten

end UpgradeGate.Rlp
