import UpgradeGate.Text.Decimal

/-!
# Double-precision numbers

Numbers with a point or an exponent are IEEE 754 doubles. They are held in exact form, as a sign
and `mantissa * 2 ^ exponent`, so that reading, printing and rounding are exact integer arithmetic.

A decimal numeral is read to the nearest double, a tie going to the even mantissa. A double is
printed with the fewest digits that read back to it; of several such numerals the nearest is taken.
Exponents from -4 to 15 are written positionally.
-/

namespace UpgradeGate

/-- A double: a signed multiple of a power of two, an infinity, or no number at all. A finite value
has a mantissa below `2 ^ 53` and an exponent of at least `-1074`. -/
inductive Binary64 where
  | finite (negative : Bool) (mantissa : Nat) (exponent : Int)
  | infinite (negative : Bool)
  | nan
  deriving DecidableEq, Repr, Inhabited

namespace Binary64

/-- A quotient to the nearest natural number, a tie going to the even one. -/
def roundQuotient (num den : Nat) : Nat :=
  let whole := num / den
  let rest := num % den
  if 2 * rest < den then whole
  else if den < 2 * rest then whole + 1
  else if whole % 2 == 0 then whole else whole + 1

/-- The number of binary digits of a natural number. -/
def bitLength (n : Nat) : Nat := if n == 0 then 0 else Nat.log2 n + 1

/-- The least exponent of a double. -/
def leastExponent : Int := -1074

/-- The double nearest to the positive quotient `num / den`. -/
def ofQuotient (negative : Bool) (num den : Nat) : Binary64 :=
  if num == 0 then .finite negative 0 leastExponent
  else
    let guess : Int := (bitLength num : Int) - (bitLength den : Int)
    -- `2 ^ guess` is within a factor of two of the quotient, from above or from below
    let above := if 0 ≤ guess then decide (den <<< guess.toNat ≤ num)
      else decide (den ≤ num <<< (-guess).toNat)
    let top : Int := if above then guess else guess - 1
    let exponent := max (top - 52) leastExponent
    let mantissa := if 0 ≤ exponent then roundQuotient num (den <<< exponent.toNat)
      else roundQuotient (num <<< (-exponent).toNat) den
    let (mantissa, exponent) :=
      if mantissa == 1 <<< 53 then (1 <<< 52, exponent + 1) else (mantissa, exponent)
    if exponent > 971 then .infinite negative else .finite negative mantissa exponent

/-- The double nearest to `digits * 10 ^ power`. A value beyond all doubles is infinite, one far
below the least is zero. -/
def ofDecimal (negative : Bool) (digits : Nat) (power : Int) : Binary64 :=
  let size : Int := (bitLength digits : Int)
  if digits == 0 then .finite negative 0 leastExponent
  else if power > 400 then .infinite negative
  -- the value is below `2 ^ (size + 3.3 * power)`
  else if 10 * size + 33 * power < -10900 then .finite negative 0 leastExponent
  else if 0 ≤ power then ofQuotient negative (digits * Nat.pow 10 power.toNat) 1
  else ofQuotient negative digits (Nat.pow 10 (-power).toNat)

/-- The value is an integer. -/
def isWhole : Binary64 → Bool
  | .finite _ mantissa exponent =>
    decide (0 ≤ exponent) || mantissa % (1 <<< (-exponent).toNat) == 0
  | _ => false

/-- The integer part of a finite double, towards zero. -/
def truncate? : Binary64 → Option Int
  | .finite negative mantissa exponent =>
    let size : Nat := if 0 ≤ exponent then mantissa <<< exponent.toNat
      else mantissa >>> (-exponent).toNat
    some (if negative then -(size : Int) else (size : Int))
  | _ => none

/-- The value is zero, with either sign. -/
def isZero : Binary64 → Bool
  | .finite _ mantissa _ => mantissa == 0
  | _ => false

/-- The double is the number one. -/
def isOne (x : Binary64) : Bool := x.isWhole && x.truncate? == some 1

/-! ## Shortest numerals -/

/-- The interval of reals that read as a double, scaled by four: its ends, the value between them,
and the power of two that scales them. -/
structure Interval where
  low : Nat
  value : Nat
  high : Nat
  /-- Whether the ends themselves read as the double. -/
  closed : Bool
  power : Int

/-- The interval of a positive double. The gap below a power of two is half the gap above it. -/
def interval (mantissa : Nat) (exponent : Int) : Interval :=
  let narrow := mantissa == 1 <<< 52 && exponent > leastExponent
  { low := 4 * mantissa - (if narrow then 1 else 2)
    value := 4 * mantissa
    high := 4 * mantissa + 2
    closed := mantissa % 2 == 0
    power := exponent - 2 }

/-- `a * 2 ^ twos` against `b * 10 ^ tens`, as two natural numbers in the same order. -/
def balance (a : Nat) (twos : Int) (b : Nat) (tens : Int) : Nat × Nat :=
  ((a <<< twos.toNat) * Nat.pow 10 (-tens).toNat, (b <<< (-twos).toNat) * Nat.pow 10 tens.toNat)

/-- Whether `digits * 10 ^ power` reads as the double of the interval. -/
def Interval.holds (i : Interval) (digits : Nat) (power : Int) : Bool :=
  let (low, x) := balance i.low i.power digits power
  let (high, y) := balance i.high i.power digits power
  if i.closed then low ≤ x && y ≤ high else low < x && y < high

/-- The numeral `digits * 10 ^ power` of the interval on the grid of `10 ^ power`, the nearer of
the two neighbours of the value if both read back. -/
def Interval.onGrid? (i : Interval) (power : Int) : Option Nat :=
  let (num, den) := balance i.value i.power 1 power
  let below := num / den
  let above := below + 1
  match i.holds below power && below != 0, i.holds above power with
  | true, true => some (roundQuotient num den)
  | true, false => some below
  | false, true => some above
  | false, false => none

/-- The decimal exponent of the leading digit of `n * 2 ^ power`, searched upwards from a lower
bound with `fuel` steps. -/
def leadingExponent : (fuel : Nat) → (n : Nat) → (power from_ : Int) → Int
  | 0, _, _, from_ => from_
  | fuel + 1, n, power, from_ =>
    let (num, den) := balance n power 1 (from_ + 1)
    if num < den then from_ else leadingExponent fuel n power (from_ + 1)

/-- The first grid, of those with one digit more each, on which a numeral reads back. -/
def Interval.shortest (i : Interval) : (fuel : Nat) → (power : Int) → Nat × Int
  | 0, power => ((i.onGrid? power).getD 0, power)
  | fuel + 1, power =>
    match i.onGrid? power with
    | some digits => (digits, power)
    | none => i.shortest fuel (power - 1)

/-- A numeral without zeros at its right end. -/
def dropZeros : (fuel : Nat) → Nat → Int → Nat × Int
  | 0, digits, power => (digits, power)
  | fuel + 1, digits, power =>
    if digits != 0 && digits % 10 == 0 then dropZeros fuel (digits / 10) (power + 1)
    else (digits, power)

/-- The shortest numeral `digits * 10 ^ power` of a positive double. -/
def shortestDecimal (mantissa : Nat) (exponent : Int) : Nat × Int :=
  let i := interval mantissa exponent
  -- three tenths is just below the decimal logarithm of two
  let estimate : Int := Int.fdiv (((bitLength mantissa : Int) - 1 + exponent) * 30) 100 - 18
  let leading := leadingExponent 60 mantissa exponent estimate
  let (digits, power) := i.shortest 17 leading
  dropZeros 20 digits power

/-- A numeral with a point or an exponent: positional when the leading digit stands for a power of
ten from -4 to 15. -/
def numeral (digits : List Char) (power : Int) : List Char :=
  let leading : Int := power + (digits.length : Int) - 1
  if -4 ≤ leading && leading < 16 then
    if 0 ≤ power then digits ++ List.replicate power.toNat '0' ++ ['.', '0']
    else if 0 ≤ leading then
      digits.take (leading.toNat + 1) ++ '.' :: digits.drop (leading.toNat + 1)
    else '0' :: '.' :: List.replicate ((-leading).toNat - 1) '0' ++ digits
  else
    let mantissa := match digits with
      | [d] => [d]
      | d :: rest => d :: '.' :: rest
      | [] => []
    let size := Text.natural leading.natAbs
    mantissa ++ ['e', if leading < 0 then '-' else '+'] ++
      List.replicate (2 - size.length) '0' ++ size

/-- The text of a double: the shortest numeral, `inf` or `nan`. -/
def text : Binary64 → String
  | .nan => "nan"
  | .infinite negative => if negative then "-inf" else "inf"
  | .finite negative mantissa exponent =>
    let body :=
      if mantissa == 0 then ['0', '.', '0']
      else
        let (digits, power) := shortestDecimal mantissa exponent
        numeral (Text.natural digits) power
    String.ofList (if negative then '-' :: body else body)

end Binary64

end UpgradeGate
