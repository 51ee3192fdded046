import UpgradeGate.Deployment.ProxyKind
import UpgradeGate.Number.Literal

/-!
# Constructor arguments on the command line

An argument is a truth value where it reads `true` or `false` in any letter case, a number where it
consists of digits, and a text otherwise. Some digits, such as superscripts, stand in no numeral;
a text of digits that has one of them is refused.
-/

namespace UpgradeGate.Argument

/-- The value that an argument of the command line stands for. Only ASCII letters are capitals of
the letters in `true` and `false`. -/
def ofWord (word : String) : Except Failure Json :=
  let lower := word.toLower
  if lower = "true" then .ok (.bool true)
  else if lower = "false" then .ok (.bool false)
  else if !word.isEmpty && word.toList.all Text.isDigit then
    match Literal.plain? word with
    | some number => .ok (.int number)
    | none => .error (.value (.badNumeral 10 word))
  else .ok (.string word)

end UpgradeGate.Argument
