import UpgradeGate.Failure
import UpgradeGate.Number.Binary64

/-!
# Counts

What is counted of deployments and upgrades, and the text in which the counts are published: for
each counter a line of help, a line with its type, and a line for each label in order of first use.

Main statement: counting one more of a label adds one to its count and to no other
(`countOf_countOne`).
-/

namespace UpgradeGate

/-- Counts by label, in order of first use. -/
abbrev Counts := List (String × Nat)

namespace Counts

/-- Count one more of a label. -/
def countOne (counts : Counts) (label : String) : Counts :=
  match counts with
  | [] => [(label, 1)]
  | (other, n) :: rest =>
    if other = label then (other, n + 1) :: rest else (other, n) :: countOne rest label

/-- The count of a label. -/
def countOf (counts : Counts) (label : String) : Nat := (counts.lookup label).getD 0

/-- Counting under one label adds one to that label only. -/
theorem countOf_countOne (counts : Counts) (label other : String) :
    (counts.countOne label).countOf other =
      counts.countOf other + if other = label then 1 else 0 := by
  induction counts with
  | nil =>
    by_cases same : other = label
    · simp [countOne, countOf, same]
    · have unequal : (other == label) = false := beq_false_of_ne same
      simp [countOne, countOf, List.lookup_cons, unequal, same]
  | cons first rest ih =>
    obtain ⟨name, n⟩ := first
    simp only [countOf] at ih ⊢
    by_cases first : name = label
    · subst first
      by_cases same : other = name
      · simp [countOne, same]
      · have unequal : (other == name) = false := beq_false_of_ne same
        simp [countOne, List.lookup_cons, unequal, same]
    · by_cases same : other = name
      · subst same
        simp [countOne, first]
      · have unequal : (other == name) = false := beq_false_of_ne same
        simpa [countOne, first, List.lookup_cons, unequal] using ih

end Counts

/-- What is counted. -/
structure Tally where
  /-- Deployments by kind. -/
  deployments : Counts
  /-- Upgrade attempts by outcome. -/
  attempts : Counts
  /-- Colliding entries in all comparisons. -/
  collisions : Nat
  /-- Deployments that landed at an unexpected address. -/
  mismatches : Nat
  deriving DecidableEq, Repr

namespace Tally

/-- Nothing was counted yet. -/
def zero : Tally := ⟨[], [], 0, 0⟩

/-- Count a deployment of a kind. -/
def deployment (kind : String) (tally : Tally) : Tally :=
  { tally with deployments := tally.deployments.countOne kind }

/-- Count an attempt with an outcome. -/
def attempt (outcome : String) (tally : Tally) : Tally :=
  { tally with attempts := tally.attempts.countOne outcome }

/-- Count collisions. -/
def collided (count : Nat) (tally : Tally) : Tally :=
  { tally with collisions := tally.collisions + count }

/-- Count a deployment that landed at an unexpected address. -/
def mismatch (tally : Tally) : Tally := { tally with mismatches := tally.mismatches + 1 }

/-- Count an attempt with an outcome and a number of collisions, which must not be negative. The
outcome is counted even so. -/
def report (outcome : String) (collisions : Int) (tally : Tally) : Except Failure Unit × Tally :=
  let counted := tally.attempt outcome
  if collisions < 0 then (.error (.value .negativeIncrement), counted)
  else (.ok (), counted.collided collisions.toNat)

/-! ## The published text -/

/-- The digits of a numeral on both sides of its point, as a mantissa without zeros at its end. -/
def mantissa (whole fraction : List Char) : List Char :=
  Text.dropRight (fun c => c == '0' || c == '.') (whole.take 1 ++ '.' :: whole.drop 1 ++ fraction)

/-- The text of a count: a double, with an exponent from a million on. -/
def sampleText (count : Nat) : String :=
  let numeral := (Binary64.ofDecimal false count 0).text.toList
  let whole := numeral.takeWhile (· != '.')
  match numeral.dropWhile (· != '.') with
  | '.' :: fraction =>
    if 6 < whole.length then
      String.ofList (mantissa whole fraction) ++ "e+0" ++ Text.naturalText (whole.length - 1)
    else String.ofList numeral
  | _ => String.ofList numeral

/-- The value of a label between quotes. -/
def escapedLabel (value : String) : String :=
  String.ofList <| value.toList.flatMap fun c =>
    if c == '\\' then ['\\', '\\']
    else if c == '\n' then ['\\', 'n']
    else if c == '"' then ['\\', '"']
    else [c]

/-- The lines of a counter: its help, its type, and its samples. -/
def counterLines (name help : String) (samples : List String) : List String :=
  ["# HELP " ++ name ++ " " ++ help, "# TYPE " ++ name ++ " counter"] ++
    samples.map fun sample => name ++ sample

/-- The samples of a counter with labels. -/
def labelled (label : String) (counts : Counts) : List String :=
  counts.map fun (value, count) =>
    "\x7b" ++ label ++ "=\"" ++ escapedLabel value ++ "\"\x7d " ++ sampleText count

/-- All counts as text. -/
def text (tally : Tally) : String :=
  let lines :=
    counterLines "slotguard_deployments_total" "Contracts deployed, by deployment kind"
      (labelled "kind" tally.deployments) ++
    counterLines "slotguard_upgrade_attempts_total" "Upgrade attempts, by outcome"
      (labelled "outcome" tally.attempts) ++
    counterLines "slotguard_layout_collisions_total"
      "Colliding storage positions found in layout comparisons"
      [" " ++ sampleText tally.collisions] ++
    counterLines "slotguard_address_mismatches_total"
      "Fast-path deployments that landed at an unexpected address"
      [" " ++ sampleText tally.mismatches]
  String.join (lines.map (· ++ "\n"))

end Tally

end UpgradeGate
