import UpgradeGate.Json.Basic

/-!
# Writing JSON

Two spellings of strings and two layouts. In the *plain* spelling only quotes, backslashes and
control characters are escaped; in the *ASCII* spelling every character outside `U+0020` to
`U+007E` is, in units of sixteen bits. A document is written compactly, or over several lines with
two spaces for each level.
-/

namespace UpgradeGate.Json

open Text

/-- A character as one code unit of sixteen bits, or as a surrogate pair. -/
def codeUnits (c : Char) : List Nat :=
  let n := c.toNat
  if n < 0x10000 then [n]
  else [0xD800 + (n - 0x10000) / 0x400, 0xDC00 + (n - 0x10000) % 0x400]

/-- Which characters of a string are written as they are, quotes and backslashes aside. -/
structure Spelling where
  /-- The character stands for itself. -/
  keeps : Char → Bool

/-- The spelling that escapes control characters only. -/
def plainSpelling : Spelling := ⟨fun c => 0x20 ≤ c.toNat⟩

/-- The spelling that escapes all but visible ASCII characters and the space. -/
def asciiSpelling : Spelling := ⟨fun c => 0x20 ≤ c.toNat && c.toNat ≤ 0x7E⟩

/-- One character inside a string. -/
def escaped (spelling : Spelling) (c : Char) : List Char :=
  if c == '"' then ['\\', '"']
  else if c == '\\' then ['\\', '\\']
  else if spelling.keeps c then [c]
  else if c == '\n' then ['\\', 'n']
  else if c == '\r' then ['\\', 'r']
  else if c == '\t' then ['\\', 't']
  else if c == '\x08' then ['\\', 'b']
  else if c == '\x0c' then ['\\', 'f']
  else (codeUnits c).flatMap fun unit => '\\' :: 'u' :: hexFixed 4 unit

/-- A string in quotes. -/
def writeString (spelling : Spelling) (s : String) : List Char :=
  '"' :: s.toList.flatMap (escaped spelling) ++ ['"']

/-- A double as a JSON number, or the word for a value that is none. -/
def writeFloat : Binary64 → List Char
  | .nan => "NaN".toList
  | .infinite negative => (if negative then "-Infinity" else "Infinity").toList
  | x => x.text.toList

mutual

/-- A document without any space. -/
def compact (spelling : Spelling) : Json → List Char
  | .null => "null".toList
  | .bool value => if value then "true".toList else "false".toList
  | .int value => integer value
  | .float value => writeFloat value
  | .string value => writeString spelling value
  | .array items => '[' :: compactItems spelling items ++ [']']
  | .object members => '\x7b' :: compactMembers spelling members ++ ['\x7d']

/-- The items of an array, separated by commas. -/
def compactItems (spelling : Spelling) : List Json → List Char
  | [] => []
  | [item] => compact spelling item
  | item :: rest => compact spelling item ++ ',' :: compactItems spelling rest

/-- The members of an object, separated by commas. -/
def compactMembers (spelling : Spelling) : List (String × Json) → List Char
  | [] => []
  | [(key, value)] => writeString spelling key ++ ':' :: compact spelling value
  | (key, value) :: rest =>
    writeString spelling key ++ ':' :: compact spelling value ++ ',' ::
      compactMembers spelling rest

end

/-- The start of a line at a level. -/
def newline (level : Nat) : List Char := '\n' :: List.replicate (2 * level) ' '

mutual

/-- A document over several lines, its first line being at `level`. An empty array or object takes
no line of its own. -/
def indentedAt (spelling : Spelling) (level : Nat) : Json → List Char
  | .null => "null".toList
  | .bool value => if value then "true".toList else "false".toList
  | .int value => integer value
  | .float value => writeFloat value
  | .string value => writeString spelling value
  | .array [] => ['[', ']']
  | .array (item :: rest) =>
    '[' :: newline (level + 1) ++ indentedAt spelling (level + 1) item ++
      indentedItems spelling (level + 1) rest ++ newline level ++ [']']
  | .object [] => ['\x7b', '\x7d']
  | .object ((key, value) :: rest) =>
    '\x7b' :: newline (level + 1) ++ writeString spelling key ++ ':' :: ' ' ::
      indentedAt spelling (level + 1) value ++ indentedMembers spelling (level + 1) rest ++
      newline level ++ ['\x7d']

/-- Further items of an array, each after a comma and on a line of its own. -/
def indentedItems (spelling : Spelling) (level : Nat) : List Json → List Char
  | [] => []
  | item :: rest =>
    ',' :: newline level ++ indentedAt spelling level item ++ indentedItems spelling level rest

/-- Further members of an object, each after a comma and on a line of its own. -/
def indentedMembers (spelling : Spelling) (level : Nat) : List (String × Json) → List Char
  | [] => []
  | (key, value) :: rest =>
    ',' :: newline level ++ writeString spelling key ++ ':' :: ' ' ::
      indentedAt spelling level value ++ indentedMembers spelling level rest

end

/-- A document over several lines. -/
def indented (spelling : Spelling) (document : Json) : List Char :=
  indentedAt spelling 0 document

/-- A document without any space, as a string. -/
def compactText (spelling : Spelling) (document : Json) : String :=
  String.ofList (compact spelling document)

/-- A document over several lines, as a string. -/
def indentedText (spelling : Spelling) (document : Json) : String :=
  String.ofList (indented spelling document)

end UpgradeGate.Json
