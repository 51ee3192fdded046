import UpgradeGate.Chain.Rlp
import UpgradeGate.Hash.Keccak

/-!
# Addresses

An account of the chain is named by 20 bytes. A text has the form of an address if it has 40
hexadecimal digits in any letter case, with `0x` or `0X` in front or without. The canonical text has
`0x` in front and a letter case that depends on the bytes alone, so that a mistyped digit shows.

Whether the letter case is looked at where an address is read is up to a rule (`AddressRule`). A
rule takes at least the canonical texts and those in lower case behind `0x`. One rule takes all
texts that have the form (`AddressRule.anyCase`), another one (`AddressRule.checked`) refuses mixed
cases other than the canonical one.

A contract that an account creates has an address that follows from the account and the number of
transactions the account has sent before.
-/

namespace UpgradeGate

/-- The address of an account: 20 bytes. -/
structure Address where
  bytes : Bytes
  length_bytes : bytes.length = 20
  deriving DecidableEq

namespace Address

/-- The address that 20 bytes are. -/
def ofBytes? (bytes : Bytes) : Option Address :=
  if size : bytes.length = 20 then some ⟨bytes, size⟩ else none

/-- The digits behind `0x` or `0X`, if a text has that in front. -/
def digitsOf : List Char → List Char
  | '0' :: 'x' :: digits => digits
  | '0' :: 'X' :: digits => digits
  | digits => digits

/-- The address that a text has the form of. -/
def ofForm? (text : String) : Option Address :=
  (Bytes.ofHex? (digitsOf text.toList)).bind ofBytes?

/-- A digit as a capital where the hash of all digits has at least 8 in its place. -/
def casedDigit (digit : Char) (place : Nat) : Char := if 8 ≤ place then digit.toUpper else digit

/-- The two halves of each byte. -/
def nibbles (bytes : Bytes) : List Nat :=
  bytes.flatMap fun byte => [byte.toNat / 16, byte.toNat % 16]

/-- The digits of an address, cased by the hash of their lower-case form. -/
def digits (address : Address) : List Char :=
  let plain := Bytes.toHex address.bytes
  let hash := Keccak.digest (plain.map fun c => UInt8.ofNat c.toNat)
  plain.zipWith casedDigit (nibbles hash)

/-- The canonical text of an address. -/
def text (address : Address) : String := String.ofList ('0' :: 'x' :: address.digits)

/-- The bytes whose hash names the contract that an account creates with its transaction number
`nonce`. -/
def creationPreimage (creator : Address) (nonce : Nat) : Bytes :=
  Rlp.ofList [Rlp.ofBytes creator.bytes, Rlp.ofNat nonce]

/-- The last 20 bytes of a hash. -/
def ofHash (message : Bytes) : Address where
  bytes := (Keccak.digest message).drop 12
  length_bytes := by simp [Keccak.length_digest]

/-- The address of the contract that an account creates with its transaction number `nonce`. -/
def created (creator : Address) (nonce : Nat) : Address := ofHash (creationPreimage creator nonce)

end Address

/-- A rule about which texts that have the form of an address are taken for it. -/
class AddressRule where
  takes : String → Bool
  /-- The canonical text of an address is taken. -/
  takes_text : ∀ address : Address, takes address.text = true
  /-- The digits of an address in lower case are taken behind `0x`. -/
  takes_hexText : ∀ address : Address, takes ("0x" ++ Bytes.hexText address.bytes) = true

namespace AddressRule

/-- The letter case is not looked at. -/
instance (priority := low) anyCase : AddressRule where
  takes _ := true
  takes_text _ := rfl
  takes_hexText _ := rfl

end AddressRule

namespace Address

/-- Read an address. -/
def ofText? [AddressRule] (text : String) : Option Address :=
  if AddressRule.takes text then ofForm? text else none

/-- Two texts are addresses of one account. -/
def sameAccount [AddressRule] (a b : String) : Bool :=
  match ofText? a, ofText? b with
  | some a, some b => a == b
  | _, _ => false

end Address

end UpgradeGate
