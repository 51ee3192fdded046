import UpgradeGate.Text.Decimal
import UpgradeGate.Text.Printable

/-!
# Quoted text

The form in which messages show a text that came from outside: in single quotes, or in double
quotes where the text holds a single quote and no double quote. The quote in use and the backslash
are written after a backslash, tab, newline and carriage return as `\t`, `\n` and `\r`, and every
other character that is not printable by its code point in two, four or eight hexadecimal digits.
-/

namespace UpgradeGate.Text

/-- The quote that encloses a text: double where the text holds a single quote and no double one. -/
def quoteFor (text : List Char) : Char :=
  if text.contains '\'' && !text.contains '"' then '"' else '\''

/-- One character as it stands between quotes `quote`. -/
def quotedChar (quote c : Char) : List Char :=
  if c == quote || c == '\\' then ['\\', c]
  else if c == '\t' then ['\\', 't']
  else if c == '\n' then ['\\', 'n']
  else if c == '\r' then ['\\', 'r']
  else if isPrintable c then [c]
  else if c.toNat ≤ 0xFF then '\\' :: 'x' :: hexFixed 2 c.toNat
  else if c.toNat ≤ 0xFFFF then '\\' :: 'u' :: hexFixed 4 c.toNat
  else '\\' :: 'U' :: hexFixed 8 c.toNat

/-- A text between its quotes. -/
def quotedChars (text : List Char) : List Char :=
  let quote := quoteFor text
  quote :: text.flatMap (quotedChar quote) ++ [quote]

/-- A string between its quotes. -/
def quoted (text : String) : String := String.ofList (quotedChars text.toList)

end UpgradeGate.Text
