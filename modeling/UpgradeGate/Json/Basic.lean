import UpgradeGate.Number.Binary64
import UpgradeGate.Table
import UpgradeGate.Text.Quoted

/-!
# JSON values

Documents as they come from files, tools and callers. An object keeps its members in order of first
appearance, and a key that is given again changes the value in place.

Main statements: a key that was just set is found with its new value (`find?_set_self`), and
setting a key leaves the other keys alone (`find?_set_of_ne`).
-/

namespace UpgradeGate

/-- A JSON value. Numbers with a point or an exponent are doubles, all others integers. -/
inductive Json where
  | null
  | bool (value : Bool)
  | int (value : Int)
  | float (value : Binary64)
  | string (value : String)
  | array (items : List Json)
  | object (members : List (String × Json))
  deriving Inhabited

namespace Json

/-- The members of an object, by key. -/
abbrev Members := List (String × Json)

/-- The value of a key. -/
def find? (members : Members) (key : String) : Option Json := members.lookup key

/-- Give a key a value: in place where the key is present, else at the end. -/
def set (members : Members) (key : String) (value : Json) : Members := Table.put key value members

/-- A member that was set is found. -/
theorem find?_set_self (members : Members) (key : String) (value : Json) :
    find? (set members key value) key = some value :=
  Table.lookup_put_self key value members

/-- Setting a member leaves those with other keys as they are. -/
theorem find?_set_of_ne (members : Members) {key other : String} (value : Json)
    (differ : other ≠ key) : find? (set members key value) other = find? members other :=
  Table.lookup_put_of_ne differ value members

/-! ## How messages show a value -/

mutual

/-- A value as messages show it: texts in quotes, keys and values in braces. -/
def display : Json → String
  | .null => "None"
  | .bool value => if value then "True" else "False"
  | .int value => Text.integerText value
  | .float value => value.text
  | .string value => Text.quoted value
  | .array items => "[" ++ ", ".intercalate (displayItems items) ++ "]"
  | .object members => "\x7b" ++ ", ".intercalate (displayMembers members) ++ "\x7d"

/-- The items of an array as messages show them. -/
def displayItems : List Json → List String
  | [] => []
  | item :: rest => display item :: displayItems rest

/-- The members of an object as messages show them. -/
def displayMembers : List (String × Json) → List String
  | [] => []
  | (key, value) :: rest =>
    (Text.quoted key ++ ": " ++ display value) :: displayMembers rest

end

/-- A value within a sentence: a text as it is, any other value as messages show it. -/
def shown : Json → String
  | .string value => value
  | value => value.display

/-- The word for the shape of a value in messages about wrong shapes. -/
def shapeName : Json → String
  | .null => "NoneType"
  | .bool _ => "bool"
  | .int _ => "int"
  | .float _ => "float"
  | .string _ => "str"
  | .array _ => "list"
  | .object _ => "dict"

/-- A value that counts as given: not null, false, zero or empty. -/
def isGiven : Json → Bool
  | .null => false
  | .bool value => value
  | .int value => value != 0
  | .float value => !value.isZero
  | .string value => !value.isEmpty
  | .array items => !items.isEmpty
  | .object members => !members.isEmpty

end Json

end UpgradeGate
