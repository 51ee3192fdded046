import UpgradeGate.Layout.CompilerOutput
import UpgradeGate.Layout.Store
import UpgradeGate.Proofs.Fields
import UpgradeGate.Proofs.Json.RoundTrip
import UpgradeGate.Proofs.Layout.TypeName

/-!
# Layouts that are written and read back

A layout that was built from a document or by the compiler is *valid*: its entries are in order and
inside slots, and their types are normal (`Layout.valid_of_check`,
`CompilerOutput.valid_of_layoutOf`).

The file of a record of a valid layout is read back as that record exactly when every entry has a
type (`LayoutRecord.ofText_fileText`, `LayoutRecord.typed_of_ofText_fileText`). A type can be
empty: one of blanks alone is taken, for its length is checked before it is trimmed, and is then
written as an empty one, which is not taken back. A record is written once it is stamped, which
takes that its slots have numerals (`LayoutRecord.isSpelled_iff`).
-/

namespace UpgradeGate

/-- What every layout that is built satisfies. -/
structure Layout.Valid (layout : Layout) : Prop where
  ordered : layout.Ordered
  withinSlots : layout.WithinSlots
  normal : ∀ entry ∈ layout.entries, TypeName.normalize entry.type = entry.type

/-- Every entry of a layout has a type. -/
def Layout.Typed (layout : Layout) : Prop := ∀ entry ∈ layout.entries, entry.type.isEmpty = false

/-! ## Built layouts are valid -/

namespace Entry

/-- The type of an accepted entry is given as a text that is not empty. -/
theorem exists_type_of_check {members : Json.Members} {entry : Entry}
    (taken : check members = .accepted entry) : ∃ name : String,
      Json.find? members "type" = some (.string name) ∧ name.isEmpty = false ∧
        entry.type = TypeName.normalize name := by
  simp only [check, Checked.seq_eq_accepted_iff] at taken
  obtain ⟨_, _, ⟨_, type, ⟨_, _, first, _, rfl⟩, named, rfl⟩, _, rfl⟩ := taken
  obtain ⟨_, _, rfl⟩ := Checked.map_eq_accepted_iff.1 first
  obtain ⟨value, found, read⟩ := Field.required_eq_accepted_iff.1 named
  obtain ⟨name, text, kept⟩ := Checked.andThen_eq_accepted_iff.1 read
  split at kept
  · cases kept
  · next filled =>
    cases kept
    cases value with
    | string given =>
      cases text
      exact ⟨name, found, by simpa using filled, rfl⟩
    | _ => cases text

/-- The type of an accepted entry is normal. -/
theorem normal_of_check {members : Json.Members} {entry : Entry}
    (taken : check members = .accepted entry) :
    TypeName.normalize entry.type = entry.type := by
  obtain ⟨name, -, -, same⟩ := exists_type_of_check taken
  rw [same, TypeName.normalize_normalize]

end Entry

namespace Layout

/-- Entries that are taken as they stand are those of the layout. -/
theorem entries_of_ofOrdered {contract : Option String} {entries : List Entry} {layout : Layout}
    (built : ofOrdered contract entries = .ok layout) : layout.entries = entries := by
  unfold ofOrdered at built
  split at built
  · cases built
  · cases built
    rfl

/-- Accepted entries make a valid layout if they make one at all. -/
theorem valid_of_ofOrdered {contract : Option String} {entries : List Entry} {layout : Layout}
    (sound : ∀ entry ∈ entries, entry.offset ≤ 31 ∧ TypeName.normalize entry.type = entry.type)
    (built : ofOrdered contract entries = .ok layout) : layout.Valid := by
  have same := entries_of_ofOrdered built
  refine ⟨ordered_of_ofOrdered built, ?_, ?_⟩
  · intro entry member
    exact (sound entry (same ▸ member)).1
  · intro entry member
    exact (sound entry (same ▸ member)).2

/-- A layout is accepted where it was built. -/
theorem checkBuilt_eq_accepted_iff {built : Except LayoutFault Layout} {layout : Layout} :
    checkBuilt built = .accepted layout ↔ built = .ok layout := by
  cases built <;> simp [checkBuilt]

/-- **A layout that is taken from a document is valid.** -/
theorem valid_of_check {members : Json.Members} {layout : Layout}
    (taken : check members = .accepted layout) : layout.Valid := by
  obtain ⟨⟨contract, entries⟩, fields, built⟩ := Checked.andThen_eq_accepted_iff.1 taken
  refine valid_of_ofOrdered ?_ (checkBuilt_eq_accepted_iff.1 built)
  obtain ⟨_, _, first, second, same⟩ := Checked.seq_eq_accepted_iff.1 fields
  obtain ⟨_, _, rfl⟩ := Checked.map_eq_accepted_iff.1 first
  cases same
  rcases Field.optional_eq_accepted_iff.1 second with ⟨document, -, listed⟩ | ⟨-, rfl⟩
  · unfold checkEntries at listed
    split at listed
    · intro entry member
      have known : .accepted entry ∈ entries.map Checked.accepted := List.mem_map_of_mem member
      rw [← Checked.map_check_of_all listed] at known
      obtain ⟨item, -, accepted⟩ := List.mem_map.1 known
      cases item with
      | object members =>
        exact ⟨Entry.offset_le_of_check accepted, Entry.normal_of_check accepted⟩
      | _ => cases accepted
    · cases listed
  · exact fun _ absent => absurd absent List.not_mem_nil

/-- A layout that is collected is built from the sorted entries. -/
theorem ofOrdered_of_collect {contract : Json} {entries : List Entry} {layout : Layout}
    (collected : collect contract entries = .ok layout) :
    ∃ name, ofOrdered name (sortEntries entries) = .ok layout := by
  obtain ⟨name, -, built⟩ :=
    Checked.andThen_eq_accepted_iff.1 (Checked.required_eq_ok_iff.1 collected)
  exact ⟨name, checkBuilt_eq_accepted_iff.1 built⟩

/-- The entries of an arranged layout are sorted. -/
theorem entries_of_collect {contract : Json} {entries : List Entry} {layout : Layout}
    (collected : collect contract entries = .ok layout) :
    layout.entries = sortEntries entries := by
  obtain ⟨_, built⟩ := ofOrdered_of_collect collected
  exact entries_of_ofOrdered built

/-- A layout that is arranged from sound entries is valid. -/
theorem valid_of_collect {contract : Json} {entries : List Entry} {layout : Layout}
    (sound : ∀ entry ∈ entries, entry.offset ≤ 31 ∧ TypeName.normalize entry.type = entry.type)
    (collected : collect contract entries = .ok layout) : layout.Valid := by
  obtain ⟨_, built⟩ := ofOrdered_of_collect collected
  refine valid_of_ofOrdered ?_ built
  intro entry member
  exact sound entry (List.mem_mergeSort.1 member)

end Layout

theorem Layout.valid_empty (contract : Option String) : (Layout.empty contract).Valid :=
  ⟨.nil, fun _ absent => absurd absent List.not_mem_nil, fun _ absent =>
    absurd absent List.not_mem_nil⟩

theorem Layout.typed_empty (contract : Option String) : (Layout.empty contract).Typed :=
  fun _ absent => absurd absent List.not_mem_nil

namespace CompilerOutput

/-- An item that is read is an object, and what is found in it passes the checks of an entry. -/
theorem check_of_entryOf {item : Json} {entry : Entry} (read : entryOf item = .ok entry) :
    ∃ members slot offset type label, item = .object members ∧
      Json.find? members "type" = some type ∧
      Entry.check [("slot", .int slot), ("offset", .int offset), ("type", type),
        ("label", label)] = .accepted entry := by
  cases item with
  | object members =>
    simp only [entryOf, demand, bind, Except.bind] at read
    split at read
    · cases read
    split at read
    · cases read
    next slot _ =>
    split at read
    · cases read
    next offset _ =>
    split at read
    · cases read
    next type demanded =>
    split at demanded
    · next found =>
      cases demanded
      split at read
      · next accepted =>
        cases read
        exact ⟨members, slot, offset, type, _, rfl, found, accepted⟩
      · cases read
      · cases read
    · cases demanded
  | _ => cases read

/-- Items are read as a whole when each of them is. -/
theorem mapM_entryOf_eq_ok_iff {items : List Json} {entries : List Entry} :
    (items.mapM fun item => (entryOf item).mapError (refuse item)) = .ok entries ↔
      items.map entryOf = entries.map .ok := by
  simp only [mapM_eq_ok_iff, mapError_eq_ok_iff, ← List.forall₂_eq_eq_eq, List.forall₂_map_left_iff,
    List.forall₂_map_right_iff]

/-- A layout is read where all items are and their entries can be arranged. -/
theorem layoutOf_eq_ok_iff {output contract : Json} {layout : Layout} :
    layoutOf output contract = .ok layout ↔ ∃ items entries, items? output = some items ∧
      items.map entryOf = entries.map .ok ∧ Layout.collect contract entries = .ok layout := by
  unfold layoutOf
  cases items? output with
  | none => simp
  | some items =>
    simp only [← mapM_entryOf_eq_ok_iff, bind, Except.bind, Option.some.injEq, exists_and_left,
      exists_eq_left']
    cases items.mapM fun item => (entryOf item).mapError (refuse item) <;> simp

/-- **A layout that the compiler describes is valid.** -/
theorem valid_of_layoutOf {output contract : Json} {layout : Layout}
    (read : layoutOf output contract = .ok layout) : layout.Valid := by
  obtain ⟨items, entries, -, listed, collected⟩ := layoutOf_eq_ok_iff.1 read
  refine Layout.valid_of_collect (fun entry member => ?_) collected
  have known : .ok entry ∈ items.map entryOf := listed ▸ List.mem_map_of_mem member
  obtain ⟨item, -, found⟩ := List.mem_map.1 known
  obtain ⟨_, _, _, _, _, -, -, accepted⟩ := check_of_entryOf found
  exact ⟨Entry.offset_le_of_check accepted, Entry.normal_of_check accepted⟩

end CompilerOutput

/-! ## Reading what was written -/

/-- A text or null is taken back. -/
theorem Field.nullable_ofText? (text : Option String) :
    Field.nullable Field.text (.ofText? text) = .accepted text := by
  cases text <;> rfl

theorem Json.isExact_ofText? (text : Option String) : (Json.ofText? text).IsExact := by
  cases text <;> trivial

namespace Entry

/-- The object of an entry is exact. -/
theorem isExact_toJson (entry : Entry) : entry.toJson.IsExact := by
  simp [toJson, Json.IsExact, Json.MembersExact]

/-- An entry that has a type is taken back. -/
theorem check_toJson {entry : Entry} (inside : entry.offset ≤ 31)
    (normal : TypeName.normalize entry.type = entry.type) (typed : entry.type.isEmpty = false) :
    Field.object check entry.toJson = .accepted entry := by
  have type : checkType (.string entry.type) = .accepted entry.type := by
    simp [checkType, Field.text, Checked.andThen, typed, normal]
  rw [toJson, Field.object, check, Field.required_of_find? rfl (Field.natural_int entry.slot),
    Field.optional_of_find? rfl (Field.upTo_int inside), Field.required_of_find? rfl type,
    Field.optional_of_find? rfl (by rfl : Field.text (.string entry.label) = .accepted entry.label)]
  rfl

/-- An entry that is taken back has a type. -/
theorem typed_of_check_toJson {entry taken : Entry}
    (accepted : Field.object check entry.toJson = .accepted taken) :
    entry.type.isEmpty = false := by
  simp only [toJson, Field.object, check, Checked.seq_eq_accepted_iff] at accepted
  obtain ⟨_, _, ⟨_, _, _, named, rfl⟩, _, rfl⟩ := accepted
  have named := Checked.under_eq_accepted_iff.1 named
  obtain ⟨_, ⟨⟩, kept⟩ := Checked.andThen_eq_accepted_iff.1 named
  split at kept
  · cases kept
  · next filled => simpa using filled

end Entry

namespace Layout

/-- The objects of entries are exact. -/
theorem allExact_map_toJson (entries : List Entry) :
    Json.AllExact (entries.map Entry.toJson) := by
  induction entries with
  | nil => trivial
  | cons entry rest ih => exact ⟨entry.isExact_toJson, ih⟩

/-- The object of a layout is exact. -/
theorem isExact_toJson (layout : Layout) : layout.toJson.IsExact := by
  simp [toJson, Json.IsExact, Json.MembersExact, Json.isExact_ofText?, allExact_map_toJson]

/-- A valid layout whose entries have types is taken back. -/
theorem check_toJson {layout : Layout} (valid : layout.Valid) (typed : layout.Typed) :
    Field.object check layout.toJson = .accepted layout := by
  have listed : checkEntries (.array (layout.entries.map Entry.toJson)) =
      .accepted layout.entries :=
    Checked.all_map layout.entries 0 fun entry member =>
      Entry.check_toJson (valid.withinSlots entry member) (valid.normal entry member)
        (typed entry member)
  have built : ofOrdered layout.contract layout.entries = .ok layout := by
    simp only [ofOrdered, firstFault?_eq_none_iff.2 valid.ordered]
  rw [toJson, Field.object, check,
    Field.optional_of_find? rfl (Field.nullable_ofText? layout.contract),
    Field.optional_of_find? rfl listed]
  exact checkBuilt_eq_accepted_iff.2 built

/-- A layout that is taken back has types. -/
theorem typed_of_check_toJson {layout taken : Layout}
    (accepted : Field.object check layout.toJson = .accepted taken) : layout.Typed := by
  obtain ⟨_, fields, -⟩ := Checked.andThen_eq_accepted_iff.1 accepted
  obtain ⟨_, entries, -, second, -⟩ := Checked.seq_eq_accepted_iff.1 fields
  have listed : checkEntries (.array (layout.entries.map Entry.toJson)) = .accepted entries :=
    Checked.under_eq_accepted_iff.1 second
  intro entry member
  have known : Field.object Entry.check entry.toJson ∈
      (layout.entries.map Entry.toJson).map (Field.object Entry.check) :=
    List.mem_map_of_mem (List.mem_map_of_mem member)
  rw [Checked.map_check_of_all listed] at known
  obtain ⟨taken, -, same⟩ := List.mem_map.1 known
  exact Entry.typed_of_check_toJson same.symm

end Layout

namespace LayoutRecord

/-- The object of a record is exact, so it is read back as it was written. -/
theorem isExact_toJson (record : LayoutRecord) : record.toJson.IsExact := by
  simp [toJson, Json.IsExact, Json.MembersExact, Json.isExact_ofText?, Layout.isExact_toJson]

/-- The bytes of a record's file are its text. -/
theorem fileText?_fileText (record : LayoutRecord) :
    Text.fileText? record.fileText.toUTF8 = .ok record.fileText :=
  Text.fileText?_toUTF8 (Json.not_mem_indentedText record.isExact_toJson)

/-- The text of a record's file is checked like its object. -/
theorem ofText_fileText_eq (record : LayoutRecord) :
    ofText record.fileText = Field.object check record.toJson := by
  rw [ofText, Field.stored, fileText, Json.ofStoredText?_indentedText record.isExact_toJson]

/-- **Reading what was written.** The file of a record of a valid layout whose entries have types
is read as that record. -/
theorem ofText_fileText {record : LayoutRecord} (valid : record.layout.Valid)
    (typed : record.layout.Typed) : ofText record.fileText = .accepted record := by
  have text : ∀ s, Field.text (.string s) = .accepted s := fun _ => rfl
  rw [ofText_fileText_eq, toJson, Field.object, check,
    Field.optional_of_find? rfl (text record.version),
    Field.required_of_find? rfl (text record.contract),
    Field.required_of_find? rfl (text record.network),
    Field.required_of_find? rfl (text record.capturedAt),
    Field.required_of_find? rfl (Layout.check_toJson valid typed),
    Field.optional_of_find? rfl (Field.nullable_ofText? record.hash)]
  rfl

/-- A record that is accepted has a valid layout. -/
theorem valid_of_check {members : Json.Members} {record : LayoutRecord}
    (taken : check members = .accepted record) : record.layout.Valid := by
  simp only [check, Checked.seq_eq_accepted_iff] at taken
  obtain ⟨_, _, ⟨_, layout, ⟨_, _, ⟨_, _, ⟨_, _, first, _, rfl⟩, _, rfl⟩, _, rfl⟩, snapshot,
    rfl⟩, _, rfl⟩ := taken
  obtain ⟨_, _, rfl⟩ := Checked.map_eq_accepted_iff.1 first
  change layout.Valid
  obtain ⟨value, -, read⟩ := Field.required_eq_accepted_iff.1 snapshot
  cases value with
  | object members => exact Layout.valid_of_check read
  | _ => cases read

/-- A record that is read has a valid layout. -/
theorem valid_of_ofText {text : String} {record : LayoutRecord}
    (accepted : ofText text = .accepted record) : record.layout.Valid := by
  unfold ofText Field.stored at accepted
  split at accepted
  · next document _ =>
    cases document with
    | object members => exact valid_of_check accepted
    | _ => cases accepted
  · cases accepted

/-- The file of a record of a layout with an entry without a type is refused. -/
theorem typed_of_ofText_fileText {record taken : LayoutRecord}
    (accepted : ofText record.fileText = .accepted taken) : record.layout.Typed := by
  rw [ofText_fileText_eq] at accepted
  simp only [toJson, Field.object, check, Checked.seq_eq_accepted_iff] at accepted
  obtain ⟨_, _, ⟨_, _, _, snapshot, rfl⟩, _, rfl⟩ := accepted
  exact Layout.typed_of_check_toJson (Checked.under_eq_accepted_iff.1 snapshot)

/-- A record is spelled where none of its slots has too many digits. -/
theorem isSpelled_iff {record : LayoutRecord} :
    record.isSpelled = true ↔
      ∀ entry ∈ record.layout.entries, entry.slot < Literal.digitBound := by
  simp [isSpelled]

/-- A record is not spelled where one of its slots has too many digits. -/
theorem isSpelled_eq_false_iff {record : LayoutRecord} :
    record.isSpelled = false ↔
      ∃ entry ∈ record.layout.entries, Literal.digitBound ≤ entry.slot := by
  rw [← Bool.not_eq_true, isSpelled_iff]
  simp only [not_forall, Nat.not_lt, exists_prop]

/-- The file of a sealed record is read as that record, with its hash in order. -/
theorem ofText_sealed_fileText {record : LayoutRecord} (valid : record.layout.Valid)
    (typed : record.layout.Typed) : ofText record.sealed.fileText = .accepted record.sealed := by
  have same : record.sealed.layout = record.layout := rfl
  exact ofText_fileText (same ▸ valid) (same ▸ typed)

/-- **Record files.** A record of a valid layout whose entries have types is stamped exactly when
each of its slots has a numeral that may be written. What is stamped is written, and what is read
of the file is the record, with the hash that it ought to have and no other change. Where a slot has
no such numeral, stamping is what fails. -/
theorem read_stamped_fileText {record : LayoutRecord} (valid : record.layout.Valid)
    (typed : record.layout.Typed) :
    ((∀ entry ∈ record.layout.entries, entry.slot < Literal.digitBound) →
      ∃ stamped, record.stamp = .ok stamped ∧
        Text.fileText? stamped.fileText.toUTF8 = .ok stamped.fileText ∧
        ∃ taken, ofText stamped.fileText = .accepted taken ∧
          taken = { record with hash := some record.properHash } ∧ taken.isSealed = true) ∧
      ((∃ entry ∈ record.layout.entries, Literal.digitBound ≤ entry.slot) →
        record.stamp = .error (.value .tooManyDigits)) := by
  constructor
  · intro spelled
    have stamped : record.stamp = .ok record.sealed := by
      rw [stamp, if_pos (isSpelled_iff.2 spelled)]
    refine ⟨record.sealed, stamped, record.sealed.fileText?_fileText, record.sealed, ?_, rfl,
      isSealed_sealed record⟩
    exact ofText_sealed_fileText valid typed
  · intro far
    rw [stamp, isSpelled_eq_false_iff.2 far]
    rfl

/-- A record that needs every escape: quotes, backslashes, controls and characters beyond 16 bits,
slots beyond 256 bits, and a layout without a contract. -/
def escaped : LayoutRecord where
  version := "1.\x00"
  contract := "\"To\\ken\""
  network := "an\r\nvil"
  capturedAt := "2025\u2028"
  layout := ⟨none, [⟨0, 0, "t_array(t_struct(A)_storage)10_storage", "😀\x7f"⟩,
    ⟨0, 31, "t_mapping(t_🔑,\x01)", ""⟩,
    ⟨0x10000000000000000000000000000000000000000000000000000000000000000, 0,
      "\x7b\"a\": [null]\x7d", "\x08\x0c\t/"⟩]⟩
  hash := some "stale"

theorem valid_escaped : escaped.layout.Valid where
  ordered := by
    unfold Layout.Ordered
    decide
  withinSlots := by
    unfold Layout.WithinSlots
    decide
  normal := by decide +kernel

theorem typed_escaped : escaped.layout.Typed := by
  unfold Layout.Typed
  decide

theorem isSpelled_escaped : escaped.isSpelled = true := by decide +kernel

/-- The record that needs every escape is stamped and read back. -/
theorem read_stamped_fileText_escaped :
    escaped.layout.Valid ∧ escaped.layout.Typed ∧ ∃ stamped, escaped.stamp = .ok stamped ∧
      ofText stamped.fileText = .accepted { escaped with hash := some escaped.properHash } := by
  obtain ⟨stamped, done, -, taken, read, rfl, -⟩ :=
    (read_stamped_fileText valid_escaped typed_escaped).1 (isSpelled_iff.1 isSpelled_escaped)
  exact ⟨valid_escaped, typed_escaped, stamped, done, read⟩

/-- A record with the first slot that has too many digits. -/
def far : LayoutRecord where
  version := currentVersion
  contract := "Token"
  network := "anvil"
  capturedAt := "2025"
  layout := ⟨some "Token", [⟨Literal.digitBound, 0, "t_bool", "flag"⟩]⟩
  hash := none

/-- Not every record of a valid layout whose entries have types is stamped. -/
theorem far_slot_unstamped :
    far.layout.Valid ∧ far.layout.Typed ∧ ∀ stamped, far.stamp ≠ .ok stamped := by
  have ordered : far.layout.Ordered := List.pairwise_singleton _ _
  have within : far.layout.WithinSlots := by simp [far, Layout.WithinSlots]
  have normal : ∀ entry ∈ far.layout.entries, TypeName.normalize entry.type = entry.type := by
    simp only [far, List.mem_singleton, forall_eq]
    decide +kernel
  have typed : far.layout.Typed := by simp [far, Layout.Typed]
  have refused : far.isSpelled = false := by
    rw [isSpelled_eq_false_iff]
    simp [far]
  refine ⟨⟨ordered, within, normal⟩, typed, fun stamped given => ?_⟩
  rw [stamp, refused] at given
  cases given

end LayoutRecord

namespace LayoutStore

/-- The layout of a text is that of a record with its proper hash. -/
theorem layoutOfText_eq_ok_iff {path : Path} {text : String} {layout : Layout} :
    layoutOfText path text = .ok layout ↔ ∃ record, LayoutRecord.ofText text = .accepted record ∧
      record.isSealed = true ∧ record.layout = layout := by
  unfold layoutOfText
  cases LayoutRecord.ofText text with
  | accepted record => cases intact : record.isSealed <;> simp [intact]
  | broken => simp
  | faulty => simp

/-- **Stored layouts.** What is written of a valid layout is read back as the layout exactly when
all of its entries have types. -/
theorem layoutOfText_recordOf_iff {path : Path} {now : Moment} {contract network : String}
    {layout : Layout} (valid : layout.Valid) :
    layoutOfText path (recordOf now contract network layout).fileText = .ok layout ↔
      layout.Typed := by
  rw [layoutOfText_eq_ok_iff]
  constructor
  · intro given
    obtain ⟨record, accepted, -⟩ := given
    exact LayoutRecord.typed_of_ofText_fileText accepted
  · intro typed
    exact ⟨_, LayoutRecord.ofText_fileText valid typed, LayoutRecord.isSealed_sealed _, rfl⟩

/-- What is read of a written layout is the layout. -/
theorem eq_of_layoutOfText_recordOf {path : Path} {now : Moment} {contract network : String}
    {layout found : Layout} (valid : layout.Valid)
    (read : layoutOfText path (recordOf now contract network layout).fileText = .ok found) :
    found = layout := by
  obtain ⟨record, accepted, -⟩ := layoutOfText_eq_ok_iff.1 read
  have typed : layout.Typed := LayoutRecord.typed_of_ofText_fileText accepted
  rw [(layoutOfText_recordOf_iff valid).2 typed] at read
  exact (Except.ok.inj read).symm

/-- A layout that is read from a text is valid. -/
theorem valid_of_layoutOfText {path : Path} {text : String} {layout : Layout}
    (read : layoutOfText path text = .ok layout) : layout.Valid := by
  obtain ⟨record, accepted, -, rfl⟩ := layoutOfText_eq_ok_iff.1 read
  exact LayoutRecord.valid_of_ofText accepted

end LayoutStore

end UpgradeGate
