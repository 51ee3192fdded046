import UpgradeGate.Text.Blank
import UpgradeGate.Text.Digit
import UpgradeGate.Text.Scan

/-!
# Type names

A compiler numbers the types that a program declares: `t_struct(Config)42_storage` is the struct
`Config` with the number 42. These numbers change with every edit of the program and say nothing
about storage, so they are dropped. Other numbers, such as the length of an array, are kept.

Main statement: the text left to scan behind a numbered name is shorter (`numbered?_shorter`).
-/

namespace UpgradeGate.TypeName

open Text

/-- How the name of a declared type starts. -/
def openings : List (List Char) :=
  ["t_struct(".toList, "t_enum(".toList, "t_contract(".toList, "t_userDefinedValueType(".toList]

/-- A parenthesis of either kind. -/
def isParenthesis (c : Char) : Bool := c == '(' || c == ')'

/-- The opening of a declared type that a text starts with, and the text behind it. -/
def opening? (text : List Char) : Option (List Char × List Char) :=
  openings.findSome? fun word => (behind? word text).map fun rest => (word, rest)

/-- The name in front of a text up to its closing parenthesis, and the text behind that. -/
def closing? (text : List Char) : Option (List Char × List Char) :=
  match text.dropWhile (!isParenthesis ·) with
  | ')' :: rest => some (text.takeWhile (!isParenthesis ·) ++ [')'], rest)
  | _ => none

/-- A declared type with a number at the start of a text: the type without its number, and the
text behind the number. -/
def numbered? (text : List Char) : Option (List Char × List Char) := do
  let (word, rest) ← opening? text
  let (name, rest) ← closing? rest
  if (rest.takeWhile isDecimalDigit).isEmpty then none
  else pure (word ++ name, rest.dropWhile isDecimalDigit)

/-- What follows a numbered name is shorter, so the scan ends. -/
theorem numbered?_shorter {text named rest : List Char}
    (found : numbered? text = some (named, rest)) : rest.length < text.length := by
  simp only [numbered?, Option.bind_eq_bind, Option.bind_eq_some_iff] at found
  obtain ⟨⟨word, inner⟩, opened, ⟨name, outer⟩, closed, kept⟩ := found
  split at kept
  · cases kept
  · simp only [Option.pure_def, Option.some.injEq, Prod.mk.injEq] at kept
    obtain ⟨-, rfl⟩ := kept
    have digits : (outer.dropWhile isDecimalDigit).length ≤ outer.length :=
      (List.dropWhile_suffix _).length_le
    have closing : outer.length < inner.length := by
      simp only [closing?] at closed
      split at closed
      · rename_i found
        simp only [Option.some.injEq, Prod.mk.injEq] at closed
        obtain ⟨-, rfl⟩ := closed
        have := (List.dropWhile_suffix (l := inner) (!isParenthesis ·)).length_le
        rw [found, List.length_cons] at this
        omega
      · cases closed
    have opening : inner.length ≤ text.length := by
      simp only [opening?, List.findSome?_eq_some_iff] at opened
      obtain ⟨_, candidate, _, _, found, _⟩ := opened
      simp only [Option.map_eq_some_iff, Prod.mk.injEq] at found
      obtain ⟨tail, behind, -, rfl⟩ := found
      have := congrArg List.length (behind?_eq_some_iff.1 behind)
      rw [List.length_append] at this
      omega
    omega

/-- Drop the numbers of declared types. -/
def withoutNumbers (text : List Char) : List Char :=
  match _found : numbered? text with
  | some (named, rest) => named ++ withoutNumbers rest
  | none =>
    match text with
    | [] => []
    | c :: rest => c :: withoutNumbers rest
termination_by text.length
decreasing_by
  · exact numbered?_shorter ‹_›
  · simp

/-- The name of a type that does not change when a program is compiled again: without blanks
around it and without the numbers of declared types. -/
def normalize (name : String) : String := String.ofList (withoutNumbers (trim name.toList))

end UpgradeGate.TypeName
