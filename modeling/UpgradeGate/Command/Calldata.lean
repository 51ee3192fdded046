import UpgradeGate.Failure

/-!
# Calldata on the command line

Bytes are given as pairs of hexadecimal digits, with `0x` in front or without. White space may
stand around the pairs but not inside one.
-/

namespace UpgradeGate.Calldata

/-- The ASCII white space that may stand between bytes. -/
def isSpacing (c : Char) : Bool :=
  c == ' ' || c == '\t' || c == '\n' || c == '\x0b' || c == '\x0c' || c == '\r'

/-- The bytes of pairs of digits with white space around them. -/
def ofPairs? : List Char → Option Bytes
  | [] => some []
  | [c] => if isSpacing c then some [] else none
  | high :: low :: rest =>
    if isSpacing high then ofPairs? (low :: rest)
    else do
      let h ← Text.hexValue? high
      let l ← Text.hexValue? low
      let bytes ← ofPairs? rest
      pure (UInt8.ofNat (16 * h + l) :: bytes)

/-- The digits of a value, without `0x` in front. -/
def digitsOf : List Char → List Char
  | '0' :: 'x' :: digits => digits
  | digits => digits

/-- The bytes that a value gives; none where there is no value. -/
def parse (value : String) : Except Failure Bytes :=
  let digits := digitsOf value.toList
  match ofPairs? digits with
  | some bytes => .ok bytes
  | none => .error (.command (.invalidHex (String.ofList digits)))

end UpgradeGate.Calldata
