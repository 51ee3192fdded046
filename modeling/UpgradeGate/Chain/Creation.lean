import UpgradeGate.Failure

/-!
# Addresses from outside

An address may come as any value; only a text can be one. The account whose contracts are to be
named is read by its form, whatever the letter case; a text that is not hexadecimal, a text of the
wrong length and a number each have a message of their own.
-/

namespace UpgradeGate.Address

/-- The address that a text means. -/
def parse [AddressRule] (text : String) : Except Failure Address :=
  match ofText? text with
  | some address => .ok address
  | none => .error (.value (.invalidAddress text))

/-- The address that a value means. -/
def ofJson? [AddressRule] : Json → Option Address
  | .string text => ofText? text
  | _ => none

/-- The address that a value means, or a failure that shows the value. -/
def ofJson [AddressRule] (value : Json) : Except Failure Address :=
  match ofJson? value with
  | some address => .ok address
  | none => .error (.value (.invalidAddress value.shown))

/-- Two values are addresses of one account. -/
def sameJson [AddressRule] (a b : Json) : Bool :=
  match ofJson? a, ofJson? b with
  | some a, some b => a == b
  | _, _ => false

/-- The hexadecimal numeral of an integer, with its sign and `0x` in front. -/
def hexNumeral (n : Int) : List Char :=
  (if n < 0 then ['-'] else []) ++ '0' :: 'x' :: Text.hexNatural n.natAbs

/-- The account that a hexadecimal numeral names. -/
def ofHexForm (given : Json) (form : List Char) : Except Failure Address :=
  match ofForm? (String.ofList form) with
  | some address => .ok address
  | none => .error (.value (.unknownAddressForm given (String.ofList form)))

/-- The account that a value names as a creator of contracts. -/
def creator (given : Json) : Except Failure Address :=
  match given with
  | .string text =>
    let digits := digitsOf text.toList
    if digits.all Text.isHexDigit then
      ofHexForm given ('0' :: 'x' :: digits.map Char.toLower)
    else .error (.value (.notHexText text))
  | .int number => ofHexForm given (hexNumeral number)
  | .bool value => ofHexForm given (hexNumeral (if value then 1 else 0))
  | _ => .error (.plain .shape)

/-- The address of the contract that an account creates with its transaction of a number. -/
def predict (given : Json) (nonce : Int) : Except Failure Address := do
  if nonce < 0 then throw (.value (.negativeNonce nonce))
  let account ← creator given
  pure (account.created nonce.toNat)

end UpgradeGate.Address
