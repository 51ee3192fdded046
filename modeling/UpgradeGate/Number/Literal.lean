import UpgradeGate.Text.Blank
import UpgradeGate.Text.Digit

/-!
# Integer literals

How a whole number is read from text. Spaces at both ends are ignored and a sign may stand in
front. Digits may be separated by single underscores, and there may be any number of them. Three
readers differ in what they take:

* `plain?` reads decimal digits of any script;
* `tagged?` also reads the tags `0x`, `0o` and `0b`, and takes leading zeros only in zero;
* `lenient?` reads ASCII decimal digits, and forgives a point followed by zeros.

A decimal numeral may be refused for its length alone: `excess?` tells when one has more digits than
`digitLimit`. Numerals behind a tag may have any length.
-/

namespace UpgradeGate.Literal

open Text

/-- The value of a digit below `base`: a decimal digit of any script, or an ASCII letter. -/
def digit? (base : Nat) (c : Char) : Option Nat :=
  let value :=
    match decimalDigit? c with
    | some d => some d
    | none =>
      if 'a' ≤ c && c ≤ 'z' then some (c.toNat - 87)
      else if 'A' ≤ c && c ≤ 'Z' then some (c.toNat - 55)
      else none
  value.filter (· < base)

/-- Digits after the first one, each of them alone or after one underscore. -/
def moreDigits (digit : Char → Option Nat) (base : Nat) : Nat → List Char → Option Nat
  | total, [] => some total
  | total, '_' :: c :: rest => do
    let d ← digit c
    moreDigits digit base (base * total + d) rest
  | total, c :: rest => do
    let d ← digit c
    moreDigits digit base (base * total + d) rest

/-- A run of digits with single underscores between them. -/
def digits (digit : Char → Option Nat) (base : Nat) : List Char → Option Nat
  | [] => none
  | c :: rest => do
    let d ← digit c
    moreDigits digit base d rest

/-- Digits after a base tag, which one underscore may follow. -/
def taggedDigits (base : Nat) : List Char → Option Nat
  | '_' :: rest => digits (digit? base) base rest
  | rest => digits (digit? base) base rest

/-- A sign, if there is one, and what follows it. -/
def splitSign : List Char → Bool × List Char
  | '-' :: rest => (true, rest)
  | '+' :: rest => (false, rest)
  | rest => (false, rest)

/-- The integer of a size, negated where a minus sign stood in front. -/
def signed (negative : Bool) (size : Nat) : Int := if negative then -(size : Int) else size

/-- A decimal number in digits of any script. -/
def plain? (text : String) : Option Int :=
  let (negative, body) := splitSign (trimBy isSpace text.toList)
  (digits (digit? 10) 10 body).map (signed negative)

/-- Digits of any script as ASCII digits, so that a tag may begin with any digit zero. -/
def asciiDigits (text : List Char) : List Char :=
  text.map fun c =>
    match decimalDigit? c with
    | some d => Char.ofNat (48 + d)
    | none => c

/-- A number whose base is given by a tag, decimal without one. A decimal number other than zero
has no leading zero. -/
def taggedNatural? : List Char → Option Nat
  | '0' :: 'x' :: rest => taggedDigits 16 rest
  | '0' :: 'X' :: rest => taggedDigits 16 rest
  | '0' :: 'o' :: rest => taggedDigits 8 rest
  | '0' :: 'O' :: rest => taggedDigits 8 rest
  | '0' :: 'b' :: rest => taggedDigits 2 rest
  | '0' :: 'B' :: rest => taggedDigits 2 rest
  | '0' :: rest => (digits (digit? 10) 10 ('0' :: rest)).filter (· == 0)
  | body => digits (digit? 10) 10 body

/-- A number whose base is given by a tag, with spaces and a sign. -/
def tagged? (text : String) : Option Int :=
  let (negative, body) := splitSign (asciiDigits (trimBy isSpace text.toList))
  (taggedNatural? body).map (signed negative)

/-- The most digits of a decimal numeral. -/
def digitLimit : Nat := 4300

/-- The first number whose decimal numeral has more than `digitLimit` digits. -/
def digitBound : Nat := Nat.pow 10 digitLimit

/-- A text starts with the tag of a base. -/
def hasTag : List Char → Bool
  | '0' :: tag :: _ => ['x', 'X', 'o', 'O', 'b', 'B'].contains tag
  | _ => false

/-- The number of digits that a text starts with, if they make up a numeral with what underscores
stand among them. -/
def leadingDigits? (body : List Char) : Option Nat :=
  let front := body.takeWhile fun c => c == '_' || (digit? 10 c).isSome
  (digits (digit? 10) 10 front).map fun _ => front.countP (· != '_')

/-- The number of decimal digits that a text starts with, where they are more than may be read. They
are counted before anything is known of what follows them. In base zero, a tag may show another
base. -/
def excess? (base : Nat) (text : String) : Option Nat :=
  let (_, body) := splitSign (asciiDigits (trimBy isSpace text.toList))
  if base == 0 && hasTag body then none else (leadingDigits? body).filter (digitLimit < ·)

/-- The value of an ASCII decimal digit. -/
def asciiDigit? (c : Char) : Option Nat :=
  if c.isDigit then some (c.toNat - 48) else none

/-- The part of a numeral before a point that only zeros follow, one at least. -/
def withoutZeroFraction (body : List Char) : List Char :=
  let whole := body.takeWhile (· != '.')
  match body.dropWhile (· != '.') with
  | '.' :: zeros => if !zeros.isEmpty && zeros.all (· == '0') then whole else body
  | _ => body

/-- A decimal number in ASCII digits, possibly followed by a point and zeros. -/
def lenient? (text : String) : Option Int :=
  let (negative, body) := splitSign (trimBy isSpace text.toList)
  (digits asciiDigit? 10 (withoutZeroFraction body)).map (signed negative)

end UpgradeGate.Literal
