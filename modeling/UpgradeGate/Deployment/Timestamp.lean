import UpgradeGate.Text.Decimal

/-!
# Timestamps

A moment is a number of microseconds since the start of 1970, in universal time. Its text is the
date and time of day to the second, with six digits of a second where the second is not whole.
-/

namespace UpgradeGate

/-- A moment, in microseconds since the start of 1970. -/
abbrev Moment := Int

namespace Moment

/-- A day of the calendar. -/
structure Date where
  year : Int
  month : Nat
  day : Nat
  deriving DecidableEq, Repr

/-- The date that is `days` days after the first of January 1970. Days are counted in periods of
400 years that start in March, so that a leap day is the last day of its year. -/
def dateOfDays (days : Int) : Date :=
  let shifted := days + 719468
  let period := shifted.fdiv 146097
  let dayOfPeriod := (shifted.fmod 146097).toNat
  let yearOfPeriod := (dayOfPeriod - dayOfPeriod / 1460 + dayOfPeriod / 36524 -
    dayOfPeriod / 146096) / 365
  let dayOfYear := dayOfPeriod - (365 * yearOfPeriod + yearOfPeriod / 4 - yearOfPeriod / 100)
  let monthFromMarch := (5 * dayOfYear + 2) / 153
  let day := dayOfYear - (153 * monthFromMarch + 2) / 5 + 1
  let month := if monthFromMarch < 10 then monthFromMarch + 3 else monthFromMarch - 9
  let year := (yearOfPeriod : Int) + period * 400
  ⟨if month ≤ 2 then year + 1 else year, month, day⟩

/-- The text of a moment. -/
def text (moment : Moment) : String :=
  let seconds := moment.fdiv 1000000
  let fraction := (moment.fmod 1000000).toNat
  let date := dateOfDays (seconds.fdiv 86400)
  let second := (seconds.fmod 86400).toNat
  let two (n : Nat) : String := Text.zeroPadded 2 n
  Text.zeroPadded 4 date.year.toNat ++ "-" ++ two date.month ++ "-" ++ two date.day ++ "T" ++
    two (second / 3600) ++ ":" ++ two (second / 60 % 60) ++ ":" ++ two (second % 60) ++
    (if fraction == 0 then "" else "." ++ Text.zeroPadded 6 fraction) ++ "Z"

end Moment

end UpgradeGate
