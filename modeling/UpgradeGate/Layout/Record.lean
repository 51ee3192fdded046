import UpgradeGate.Hash.Sha256
import UpgradeGate.Json.Writer
import UpgradeGate.Failure
import UpgradeGate.Layout.Fields

/-!
# Layout records

A layout is kept in a file with the contract and network it belongs to, the time it was captured,
and a hash over all of this. The hash is taken over a canonical text: keys in ascending order, no
spaces, ASCII only. A slot may be of any size, but a numeral has at most `Literal.digitLimit`
digits, so a record with a slot beyond that has no canonical text and is not stamped.

Main statements: sealing a record does not change the hash that it ought to have
(`properHash_sealed`), so a sealed record passes the check of its hash (`isSealed_sealed`).
-/

namespace UpgradeGate

/-- A stored layout. -/
structure LayoutRecord where
  version : String
  contract : String
  network : String
  capturedAt : String
  layout : Layout
  hash : Option String
  deriving DecidableEq, Repr

/-- An optional text as JSON. -/
def Json.ofText? : Option String → Json
  | some text => .string text
  | none => .null

/-- An entry as an object, in the order of its fields. -/
def Entry.toJson (entry : Entry) : Json :=
  .object [("slot", .int entry.slot), ("offset", .int entry.offset),
    ("type", .string entry.type), ("label", .string entry.label)]

/-- An entry as an object with its keys in ascending order. -/
def Entry.canonical (entry : Entry) : Json :=
  .object [("label", .string entry.label), ("offset", .int entry.offset),
    ("slot", .int entry.slot), ("type", .string entry.type)]

/-- A layout as an object, in the order of its fields. -/
def Layout.toJson (layout : Layout) : Json :=
  .object [("contract_name", .ofText? layout.contract),
    ("entries", .array (layout.entries.map Entry.toJson))]

/-- A layout as an object with its keys in ascending order. -/
def Layout.canonical (layout : Layout) : Json :=
  .object [("contract_name", .ofText? layout.contract),
    ("entries", .array (layout.entries.map Entry.canonical))]

namespace LayoutRecord

/-- The version of the format that is written. -/
def currentVersion : String := "1.0.0"

/-- The text that a record is hashed over: all but the hash itself. -/
def canonicalText (record : LayoutRecord) : String :=
  Json.compactText Json.asciiSpelling <| .object
    [("captured_at", .string record.capturedAt), ("contract_name", .string record.contract),
      ("network_id", .string record.network), ("snapshot", record.layout.canonical),
      ("version", .string record.version)]

/-- The hash that a record ought to have. -/
def properHash (record : LayoutRecord) : String := Sha256.digestText record.canonicalText

/-- The record with its proper hash. -/
def sealed (record : LayoutRecord) : LayoutRecord :=
  { record with hash := some record.properHash }

/-- Every slot has a numeral that may be written. -/
def isSpelled (record : LayoutRecord) : Bool :=
  record.layout.entries.all fun entry => entry.slot < Literal.digitBound

/-- Give a record its proper hash, if the text that it is hashed over can be written. -/
def stamp (record : LayoutRecord) : Except Failure LayoutRecord :=
  if record.isSpelled then .ok record.sealed else .error (.value .tooManyDigits)

/-- The record has its proper hash. -/
def isSealed (record : LayoutRecord) : Bool :=
  match record.hash with
  | some hash => !hash.isEmpty && hash == record.properHash
  | none => false

/-- A record from its fields. -/
def check (members : Json.Members) : Checked LayoutRecord :=
  LayoutRecord.mk <$> Field.optional currentVersion Field.text members "version"
    <*> Field.required Field.text members "contract_name"
    <*> Field.required Field.text members "network_id"
    <*> Field.required Field.text members "captured_at"
    <*> Field.required (Field.object Layout.check) members "snapshot"
    <*> Field.optional none (Field.nullable Field.text) members "hash"

/-- A record from the text of its file. -/
def ofText (text : String) : Checked LayoutRecord := Field.stored (Field.object check) text

/-- The record as an object, in the order of its fields. -/
def toJson (record : LayoutRecord) : Json :=
  .object [("version", .string record.version), ("contract_name", .string record.contract),
    ("network_id", .string record.network), ("captured_at", .string record.capturedAt),
    ("snapshot", record.layout.toJson), ("hash", .ofText? record.hash)]

/-- The text of a record's file. -/
def fileText (record : LayoutRecord) : String :=
  Json.indentedText Json.plainSpelling record.toJson

/-- The hash is not part of what is hashed. -/
theorem properHash_sealed (record : LayoutRecord) :
    record.sealed.properHash = record.properHash := rfl

/-- A sealed record passes the check of its hash. -/
theorem isSealed_sealed (record : LayoutRecord) : record.sealed.isSealed = true := by
  have length : record.properHash.length = 64 := Sha256.length_digestText record.canonicalText
  have filled : record.properHash.isEmpty = false := by
    cases empty : record.properHash.isEmpty with
    | false => rfl
    | true =>
      rw [String.isEmpty_iff.mp empty] at length
      exact absurd length (by decide)
  have hash : record.sealed.hash = some record.properHash := rfl
  simp [isSealed, hash, properHash_sealed, filled]

end LayoutRecord

end UpgradeGate
