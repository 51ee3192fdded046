import UpgradeGate.Failure
import UpgradeGate.Number.Literal

/-!
# Fields of documents

How the fields of a document are checked. All fields are checked in order and every broken rule is
reported, with one exception: a fault in the order of a layout ends the checking at once.

Main statement: checking two fields succeeds exactly when both succeed (`seq_eq_accepted_iff`).
-/

namespace UpgradeGate

/-- What checking gives: a value, the rules that are broken, or a fault that ended the checking. -/
inductive Checked (α : Type) where
  | accepted (value : α)
  | broken (issues : List Issue)
  | faulty (fault : LayoutFault)

namespace Checked

/-- Apply a function to a value that was accepted. -/
def map {α β : Type} (f : α → β) : Checked α → Checked β
  | .accepted value => .accepted (f value)
  | .broken issues => .broken issues
  | .faulty fault => .faulty fault

/-- Combine two checks; the issues of both are reported, those of the first in front. -/
def apply {α β : Type} : Checked (α → β) → Checked α → Checked β
  | .faulty fault, _ => .faulty fault
  | _, .faulty fault => .faulty fault
  | .accepted f, .accepted value => .accepted (f value)
  | .broken issues, .accepted _ => .broken issues
  | .accepted _, .broken issues => .broken issues
  | .broken issues, .broken more => .broken (issues ++ more)

instance : Applicative Checked where
  pure := .accepted
  map := map
  seq f value := apply f (value ())

/-- A document whose fields are accepted is checked as a whole. -/
def andThen {α β : Type} (check : α → Checked β) : Checked α → Checked β
  | .accepted value => check value
  | .broken issues => .broken issues
  | .faulty fault => .faulty fault

/-- One broken rule. -/
def breaks {α : Type} (rule : Rule) : Checked α := .broken [⟨[], rule⟩]

/-- The issues of a part, seen from the whole. -/
def under {α : Type} (step : String) : Checked α → Checked α
  | .broken issues => .broken (issues.map (·.under step))
  | other => other

/-- Check the items of a list, each under its index from `index` on. -/
def all {α : Type} (check : Json → Checked α) : (index : Nat) → List Json → Checked (List α)
  | _, [] => .accepted []
  | index, item :: rest =>
    List.cons <$> (check item).under (Text.naturalText index) <*> all check (index + 1) rest

/-- The value of a document, or the failure of a document of that kind. -/
def required {α : Type} (document : Document) : Checked α → Except Failure α
  | .accepted value => .ok value
  | .broken issues => .error (.invalid document issues)
  | .faulty fault => .error (.layout fault)

/-- Two checks in a row accept where both accept. -/
theorem seq_eq_accepted_iff {α β : Type} {f : Checked (α → β)} {x : Checked α} {result : β} :
    f <*> x = .accepted result ↔ ∃ g value, f = .accepted g ∧ x = .accepted value ∧
      g value = result := by
  cases f <;> cases x <;> simp [Seq.seq, apply]

end Checked

namespace Field

/-- The issue of a value that is not text. -/
def text : Json → Checked String
  | .string value => .accepted value
  | _ => .breaks .stringType

/-- A value that may be null. -/
def nullable {α : Type} (check : Json → Checked α) : Json → Checked (Option α)
  | .null => .accepted none
  | value => some <$> check value

/-- A whole number. Text and doubles that mean one are taken, doubles below `2 ^ 63`. -/
def integer : Json → Checked Int
  | .int value => .accepted value
  | .bool value => .accepted (if value then 1 else 0)
  | .float value =>
    match value.truncate? with
    | none => .breaks .finiteNumber
    | some whole =>
      if !value.isWhole then .breaks .intFromFloat
      else if whole.natAbs < 1 <<< 63 then .accepted whole
      else .breaks .intParsingSize
  | .string value =>
    match Literal.lenient? value with
    | some whole => .accepted whole
    | none => .breaks .intParsing
  | _ => .breaks .intType

/-- A whole number that is not negative. -/
def natural (value : Json) : Checked Nat :=
  (integer value).andThen fun whole =>
    if whole < 0 then .breaks .atLeast else .accepted whole.toNat

/-- A whole number from zero to `greatest`. -/
def upTo (greatest : Nat) (value : Json) : Checked Nat :=
  (natural value).andThen fun whole =>
    if whole ≤ greatest then .accepted whole else .breaks .atMost

/-- An object, by its members. -/
def object {α : Type} (check : Json.Members → Checked α) : Json → Checked α
  | .object members => check members
  | _ => .breaks .objectType

/-- A list of any items. -/
def list : Json → Checked (List Json)
  | .array items => .accepted items
  | _ => .breaks .listType

/-- One of the texts of a choice. -/
def choice {α : Type} (ofText? : String → Option α) : Json → Checked α
  | .string value =>
    match ofText? value with
    | some meaning => .accepted meaning
    | none => .breaks .choice
  | _ => .breaks .choice

/-- A field that must be given. -/
def required {α : Type} (check : Json → Checked α) (members : Json.Members) (key : String) :
    Checked α :=
  match Json.find? members key with
  | some value => (check value).under key
  | none => (Checked.breaks .missing).under key

/-- A field with a value for when it is absent. -/
def optional {α : Type} (default : α) (check : Json → Checked α) (members : Json.Members)
    (key : String) : Checked α :=
  match Json.find? members key with
  | some value => (check value).under key
  | none => .accepted default

/-- Check a stored document, whose text may be no JSON. -/
def stored {α : Type} (check : Json → Checked α) (text : String) : Checked α :=
  match Json.ofStoredText? text with
  | some document => check document
  | none => .breaks .invalidJson

end Field

end UpgradeGate
