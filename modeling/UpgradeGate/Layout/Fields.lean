import UpgradeGate.Fields
import UpgradeGate.Layout.Ordering
import UpgradeGate.Layout.TypeName

/-!
# Layouts from documents

An entry is an object of fields, or a list of its slot, offset, type and possibly its label. The
length of a type is checked before its name is normalised. A layout is an object whose entries
stand in order, or it is collected from entries in any order, each given as it is or as a document.

Main statement: an entry that is accepted has an offset inside a slot (`offset_le_of_check`).
-/

namespace UpgradeGate

namespace Entry

/-- The name of a type: a text that is not empty, normalised. -/
def checkType (value : Json) : Checked String :=
  (Field.text value).andThen fun name =>
    if name.isEmpty then .breaks .stringTooShort else .accepted (TypeName.normalize name)

/-- An entry from its fields. -/
def check (members : Json.Members) : Checked Entry :=
  Entry.mk <$> Field.required Field.natural members "slot"
    <*> Field.optional 0 (Field.upTo 31) members "offset"
    <*> Field.required checkType members "type"
    <*> Field.optional "" Field.text members "label"

/-- An entry from its parts in order; without a label its label is empty. -/
def ofParts : List Json → Except Failure Entry
  | slot :: offset :: type :: rest =>
    (check [("slot", slot), ("offset", offset), ("type", type),
      ("label", rest.headD (.string ""))]).required .entry
  | parts => .error (.value (.tooFewParts parts.length))

/-- The characters of a text, one text each. -/
def characters (text : String) : List Json :=
  text.toList.map fun c => .string (String.singleton c)

/-- An entry from an object of fields, or from a list or a text of parts. -/
def ofJson : Json → Except Failure Entry
  | .object members => (check members).required .entry
  | .array parts => ofParts parts
  | .string text => ofParts (characters text)
  | _ => .error (.plain .shape)

/-- A bounded number is within its bound. -/
theorem offset_le_of_upTo {greatest offset : Nat} {value : Json}
    (taken : Field.upTo greatest value = .accepted offset) : offset ≤ greatest := by
  simp only [Field.upTo] at taken
  cases whole : Field.natural value with
  | accepted n =>
    simp only [whole, Checked.andThen] at taken
    split at taken
    · cases taken
      assumption
    · cases taken
  | broken => simp [whole, Checked.andThen] at taken
  | faulty => simp [whole, Checked.andThen] at taken

/-- An accepted entry stands inside a slot. -/
theorem offset_le_of_check {members : Json.Members} {entry : Entry}
    (taken : check members = .accepted entry) : entry.offset ≤ 31 := by
  simp only [check, Checked.seq_eq_accepted_iff] at taken
  obtain ⟨_, _, ⟨_, _, ⟨_, offset, first, second, rfl⟩, _, rfl⟩, _, rfl⟩ := taken
  have inside : offset ≤ 31 := by
    simp only [Field.optional] at second
    split at second
    · next value _ =>
      cases read : Field.upTo 31 value with
      | accepted n =>
        rw [read] at second
        cases second
        exact offset_le_of_upTo read
      | broken => rw [read] at second; cases second
      | faulty => rw [read] at second; cases second
    · cases second
      exact Nat.zero_le _
  cases slot : Field.required Field.natural members "slot" with
  | accepted n =>
    rw [slot] at first
    cases first
    exact inside
  | broken => rw [slot] at first; cases first
  | faulty => rw [slot] at first; cases first

end Entry

namespace Layout

/-- Check a layout that is given as a contract and entries by a way of building it. -/
def checkBuilt (result : Except LayoutFault Layout) : Checked Layout :=
  match result with
  | .ok layout => .accepted layout
  | .error fault => .faulty fault

/-- The entries of a layout document. -/
def checkEntries : Json → Checked (List Entry)
  | .array items => Checked.all (Field.object Entry.check) 0 items
  | _ => .breaks .tupleType

/-- A layout from its fields. Its entries must stand in order. -/
def check (members : Json.Members) : Checked Layout :=
  (Prod.mk <$> Field.optional none (Field.nullable Field.text) members "contract_name"
    <*> Field.optional [] checkEntries members "entries").andThen
    fun (contract, entries) => checkBuilt (ofOrdered contract entries)

/-- A layout from entries in any order. -/
def collect (contract : Json) (entries : List Entry) : Except Failure Layout :=
  ((((Field.nullable Field.text) contract).under "contract_name").andThen fun contract =>
    checkBuilt (ofEntries contract entries)).required .layout

/-- What an entry is given as: as it is, or as a document that it is read from. -/
inductive Given where
  | made (entry : Entry)
  | written (document : Json)

/-- The entry that is given. -/
def Given.read : Given → Except Failure Entry
  | .made entry => .ok entry
  | .written document => Entry.ofJson document

/-- A layout of entries in any order, each given in its own way. -/
def ofGiven (contract : Json) (given : List Given) : Except Failure Layout := do
  let entries ← given.mapM Given.read
  collect contract entries

/-- The items of a value that has any: those of a list, the characters of a text, the keys of an
object. -/
def itemsOf : Json → Except Failure (List Json)
  | .array items => .ok items
  | .string text => .ok (Entry.characters text)
  | .object members => .ok (members.map fun member => .string member.1)
  | _ => .error (.plain .shape)

/-- A layout from a value whose items are documents of entries in any order. -/
def ofJson (contract entries : Json) : Except Failure Layout := do
  let items ← itemsOf entries
  ofGiven contract (items.map .written)

end Layout

end UpgradeGate
