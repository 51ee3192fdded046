/-!
# Numerals

Whole numbers as text: decimal, hexadecimal, and set to a width. Main statement: a decimal numeral
determines its number (`natural_injective`).
-/

namespace UpgradeGate.Text

/-- The decimal numeral of a natural number, without leading zeros. -/
def natural (n : Nat) : List Char := Nat.toDigits 10 n

/-- The decimal numeral of an integer: a minus sign where it is negative, then its digits. -/
def integer : Int → List Char
  | .ofNat n => natural n
  | .negSucc n => '-' :: natural (n + 1)

/-- The decimal numeral of a natural number as a string. -/
def naturalText (n : Nat) : String := String.ofList (natural n)

/-- The decimal numeral of an integer as a string. -/
def integerText (n : Int) : String := String.ofList (integer n)

/-- A digit of base sixteen in lower case. -/
def hexDigit (n : Nat) : Char :=
  if n < 10 then Char.ofNat (48 + n) else Char.ofNat (87 + n)

/-- The value of a hexadecimal digit in either case. -/
def hexValue? (c : Char) : Option Nat :=
  if '0' ≤ c && c ≤ '9' then some (c.toNat - 48)
  else if 'a' ≤ c && c ≤ 'f' then some (c.toNat - 87)
  else if 'A' ≤ c && c ≤ 'F' then some (c.toNat - 55)
  else none

/-- A hexadecimal digit in either case. -/
def isHexDigit (c : Char) : Bool := (hexValue? c).isSome

/-- A hexadecimal digit is read as the number it was written for. -/
theorem hexValue?_hexDigit : ∀ n < 16, hexValue? (hexDigit n) = some n := by
  decide

/-- The last `width` hexadecimal digits of a number, in lower case. -/
def hexFixed : (width : Nat) → Nat → List Char
  | 0, _ => []
  | width + 1, n => hexFixed width (n / 16) ++ [hexDigit (n % 16)]

/-- The hexadecimal numeral of a number, in lower case and without leading zeros. -/
def hexNatural (n : Nat) : List Char := Nat.toDigits 16 n

/-- Blanks in front of a text that is shorter than `width`. -/
def padLeft (width : Nat) (text : String) : String :=
  String.ofList (List.replicate (width - text.length) ' ') ++ text

/-- Blanks after a text that is shorter than `width`. -/
def padRight (width : Nat) (text : String) : String :=
  text ++ String.ofList (List.replicate (width - text.length) ' ')

/-- A number with zeros in front of it up to `width` digits. -/
def zeroPadded (width n : Nat) : String :=
  String.ofList (List.replicate (width - (natural n).length) '0' ++ natural n)

/-- Different numbers have different numerals. -/
theorem natural_injective {m n : Nat} (same : natural m = natural n) : m = n := by
  have values := congrArg (fun digits => Nat.ofDigitChars 10 digits 0) same
  simpa [natural, Nat.ofDigitChars_toDigits] using values

end UpgradeGate.Text
