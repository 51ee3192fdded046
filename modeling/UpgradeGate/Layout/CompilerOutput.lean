import UpgradeGate.Layout.Fields

/-!
# Layouts from the compiler

The compiler describes the storage of a contract as a list of items, alone or under the key
`storage`. A slot is a number or a numeral whose base is given by a tag, an offset a number or a
decimal numeral. A decimal numeral with too many digits is refused whatever its value. An item that
cannot be read is reported with what is wrong with it; only a number without bound is not reported
as a fault of its item.
-/

namespace UpgradeGate.CompilerOutput

/-- Why an item is refused. -/
inductive ItemRefusal where
  | fault (fault : ItemFault)
  /-- A number of the item is infinite. -/
  | unbounded

/-- A whole number: a numeral in a text, or a number without its fraction. -/
def wholeNumber (base : Nat) (numeral? : String → Option Int) : Json → Except ItemRefusal Int
  | .int value => .ok value
  | .bool value => .ok (if value then 1 else 0)
  | .float .nan => .error (.fault .noNumber)
  | .float value =>
    match value.truncate? with
    | some whole => .ok whole
    | none => .error .unbounded
  | .string text =>
    match Literal.excess? base text with
    | some digits => .error (.fault (.longNumeral digits))
    | none =>
      match numeral? text with
      | some whole => .ok whole
      | none => .error (.fault (.badNumeral base text))
  | value => .error (.fault (.notANumber value))

/-- The value of a key that an item must have. -/
def demand (members : Json.Members) (key : String) : Except ItemRefusal Json :=
  match Json.find? members key with
  | some value => .ok value
  | none => .error (.fault (.missingKey key))

/-- The entry that an item describes. Slot, offset and type are looked at in this order. -/
def entryOf : Json → Except ItemRefusal Entry
  | .object members => do
    let slot ← demand members "slot"
    let slot ← wholeNumber 0 Literal.tagged? slot
    let offset ← wholeNumber 10 Literal.plain? ((Json.find? members "offset").getD (.int 0))
    let type ← demand members "type"
    let label := (Json.find? members "label").getD (.string "")
    match Entry.check [("slot", .int slot), ("offset", .int offset), ("type", type),
        ("label", label)] with
    | .accepted entry => .ok entry
    | .broken issues => .error (.fault (.invalid issues))
    | .faulty _ => .error (.fault (.invalid []))
  | item => .error (.fault (.notAnObject item))

/-- The failure that a refused item means. -/
def refuse (item : Json) : ItemRefusal → Failure
  | .fault fault => .layout (.malformedItem item fault)
  | .unbounded => .plain .overflow

/-- The items of a compiler's description. -/
def items? (output : Json) : Option (List Json) :=
  let list := match output with
    | .object members => (Json.find? members "storage").getD .null
    | other => other
  match list with
  | .array items => some items
  | _ => none

/-- The layout that a compiler describes. -/
def layoutOf (output contract : Json) : Except Failure Layout := do
  match items? output with
  | none => .error (.layout .noStorageList)
  | some items =>
    let entries ← items.mapM fun item => (entryOf item).mapError (refuse item)
    Layout.collect contract entries

end UpgradeGate.CompilerOutput
