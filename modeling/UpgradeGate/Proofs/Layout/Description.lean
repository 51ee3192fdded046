import UpgradeGate.Proofs.Layout.Arrangement
import UpgradeGate.Proofs.Layout.Numbering
import UpgradeGate.Proofs.Layout.Recompilation
import UpgradeGate.Proofs.Number.Numerals

/-!
# Descriptions of layouts

A layout can be described in many ways: its entries may be listed in any order, alone or under a
key, with their numbers spelled in several bases, with what is zero or empty left out, and with
anything else beside (`CompilerOutput.Describes`). Every description is read as the layout that it
describes (`CompilerOutput.layoutOf_of_describes`), and still is when numbers are put behind the
declared types in it (`CompilerOutput.layoutOf_eq_of_numbered`).

Decimal numerals have to be short enough for that. An item with a longer one
(`CompilerOutput.Overlong`) is refused, and no layout is read from a document that lists it
(`CompilerOutput.layoutOf_ne_ok_of_overlong`).
-/

namespace UpgradeGate.CompilerOutput

/-! ## Items -/

/-- A slot as a number or as text. As a decimal numeral it has no more digits than may be read. -/
inductive WritesSlot (slot : Nat) : Json → Prop
  | number : WritesSlot slot (.int slot)
  | text {text : String} (spells : Literal.Spells slot text.toList) : WritesSlot slot (.string text)

/-- An offset as a number, or as text that is no longer than may be read. It may be left out where
it is zero. -/
inductive WritesOffset (offset : Nat) : Option Json → Prop
  | number : WritesOffset offset (some (.int offset))
  | text {text : String} (numeral : Literal.IsNumeral 10 offset text.toList)
    (short : text.length ≤ Literal.digitLimit) : WritesOffset offset (some (.string text))
  | absent (zero : offset = 0) : WritesOffset offset none

/-- A label, which may be left out where it is empty. -/
inductive WritesLabel (label : String) : Option Json → Prop
  | text : WritesLabel label (some (.string label))
  | absent (empty : label = "") : WritesLabel label none

/-- An item with the members of an entry, and perhaps with others. -/
inductive DescribesEntry (entry : Entry) : Json → Prop
  | object {members : Json.Members} {slot : Json} (found : Json.find? members "slot" = some slot)
    (slot : WritesSlot entry.slot slot)
    (offset : WritesOffset entry.offset (Json.find? members "offset"))
    (type : Json.find? members "type" = some (.string entry.type))
    (label : WritesLabel entry.label (Json.find? members "label")) :
    DescribesEntry entry (.object members)

variable {entry : Entry} {layout : Layout} {items items' : List Json} {output output' : Json}

/-- A text that is not too long is read by the reader of numerals. -/
theorem wholeNumber_of_short {base : Nat} {numeral? : String → Option Int} {text : String}
    {value : Int} (short : Literal.excess? base text = none) (read : numeral? text = some value) :
    wholeNumber base numeral? (.string text) = .ok value := by
  rw [wholeNumber, short]
  dsimp only
  rw [read]

/-- A slot is read from every way of writing it. -/
theorem WritesSlot.read {slot : Nat} {value : Json} (writes : WritesSlot slot value) :
    wholeNumber 0 Literal.tagged? value = .ok (slot : Int) := by
  cases writes with
  | number => rfl
  | text spells =>
    exact wholeNumber_of_short (Literal.excess?_of_spells spells) (Literal.tagged?_of_spells spells)

/-- An offset is read from every way of writing it. -/
theorem WritesOffset.read {offset : Nat} {value : Option Json}
    (writes : WritesOffset offset value) :
    wholeNumber 10 Literal.plain? (value.getD (.int 0)) = .ok (offset : Int) := by
  cases writes with
  | number => rfl
  | text numeral short =>
    exact wholeNumber_of_short ((Literal.excess?_eq_none_iff numeral 10).2 short)
      (Literal.plain?_of_isNumeral numeral)
  | absent zero =>
    rw [zero]
    rfl

/-- A label is read from every way of writing it. -/
theorem WritesLabel.read {label : String} {value : Option Json} (writes : WritesLabel label value) :
    value.getD (.string "") = .string label := by
  cases writes with
  | text => rfl
  | absent empty => rw [empty, Option.getD_none]

/-- An item is read as the entry that it describes. -/
theorem entryOf_of_describes {item : Json} (describes : DescribesEntry entry item)
    (inside : entry.offset ≤ 31) (normal : TypeName.normalize entry.type = entry.type)
    (typed : entry.type.isEmpty = false) : entryOf item = .ok entry := by
  cases describes with
  | object found slot offset type label =>
    have taken : Entry.check [("slot", .int entry.slot), ("offset", .int entry.offset),
        ("type", .string entry.type), ("label", .string entry.label)] = .accepted entry :=
      Entry.check_toJson inside normal typed
    simp only [entryOf, demand, found, type, slot.read, offset.read, label.read, taken, bind,
      Except.bind]

/-! ## Lists of items -/

/-- A document lists items, alone or under the key for storage. -/
inductive ListsItems (items : List Json) : Json → Prop
  | bare : ListsItems items (.array items)
  | keyed {members : Json.Members} (found : Json.find? members "storage" = some (.array items)) :
    ListsItems items (.object members)

/-- The items of an output are those that it lists. -/
theorem items?_eq_some_iff : items? output = some items ↔ ListsItems items output := by
  constructor
  · intro listed
    cases output with
    | array own =>
      cases listed
      exact .bare
    | object members =>
      cases found : Json.find? members "storage" with
      | none =>
        rw [items?, found] at listed
        cases listed
      | some value =>
        rw [items?, found, Option.getD_some] at listed
        cases value with
        | array own =>
          cases listed
          exact .keyed found
        | _ => cases listed
    | _ => cases listed
  · intro lists
    cases lists with
    | bare => rfl
    | keyed found => rw [items?, found, Option.getD_some]

/-- A document describes a layout: it lists items for its entries, in any order. -/
def Describes (layout : Layout) (output : Json) : Prop :=
  ∃ items entries, ListsItems items output ∧ entries.Perm layout.entries ∧
    List.Forall₂ DescribesEntry entries items

/-- **A description is read as what it describes.** -/
theorem layoutOf_of_describes (valid : layout.Valid) (typed : layout.Typed)
    (describes : Describes layout output) (contract : Option String) :
    layoutOf output (.ofText? contract) = .ok ⟨contract, layout.entries⟩ := by
  obtain ⟨items, entries, lists, same, described⟩ := describes
  have read : items.map entryOf = entries.map .ok := by
    rw [← List.forall₂_eq_eq_eq, List.forall₂_map_left_iff, List.forall₂_map_right_iff]
    have known := (List.forall₂_and_left entries items).2
      ⟨fun entry member => same.mem_iff.1 member, described⟩
    apply known.flip.imp
    rintro item entry ⟨member, describes⟩
    exact entryOf_of_describes describes (valid.withinSlots entry member)
      (valid.normal entry member) (typed entry member)
  have arranged : Layout.ofEntries contract layout.entries = .ok ⟨contract, layout.entries⟩ := by
    have distinct := Layout.nodup_positions_of_inOrder valid.ordered
    have sorted : Layout.sortEntries layout.entries = layout.entries :=
      Layout.eq_of_perm_of_inOrder (Layout.perm_sortEntries _)
        (Layout.inOrder_sortEntries_iff.2 distinct) valid.ordered
    exact Layout.ofEntries_eq_ok_iff.2 ⟨distinct, by rw [sorted]⟩
  refine layoutOf_eq_ok_iff.2 ⟨items, entries, items?_eq_some_iff.2 lists, read, ?_⟩
  rw [Layout.collect_ofText?, Layout.ofEntries_perm same arranged]
  rfl

/-! ## Numbers put in -/

/-- An item, and one in which numbers are put behind the declared types of its type. -/
inductive NumberedItem : Json → Json → Prop
  | unchanged (item : Json) : NumberedItem item item
  | numbered {members members' : Json.Members} {name name' : String}
    (typed : Json.find? members "type" = some (.string name))
    (typed' : Json.find? members' "type" = some (.string name'))
    (numbering : TypeName.Numbering name.toList name'.toList)
    (others : ∀ key ∈ ["slot", "offset", "label"],
      Json.find? members key = Json.find? members' key) :
    NumberedItem (.object members) (.object members')

/-- A document, and one in which numbers are put behind the declared types of its items. -/
def Numbered (output output' : Json) : Prop :=
  ∃ items items', ListsItems items output ∧ ListsItems items' output' ∧
    List.Forall₂ NumberedItem items items'

/-- Numbers in the name of a type do not matter to what is taken of it. -/
theorem checkType_of_numbering {name name' : String}
    (numbering : TypeName.Numbering name.toList name'.toList) :
    Entry.checkType (.string name) = Entry.checkType (.string name') := by
  simp only [Entry.checkType, Field.text, Checked.andThen, numbering.isEmpty_eq,
    numbering.normalize_eq]

/-- Numbers in the type of an item do not matter to its entry. -/
theorem entryOf_eq_of_numbered {item item' : Json} (numbered : NumberedItem item item') :
    entryOf item = entryOf item' := by
  cases numbered with
  | unchanged => rfl
  | numbered typed typed' numbering others =>
    exact entryOf_congr typed typed' (checkType_of_numbering numbering) others

/-- **Numbers that are put in do not change what is read.** -/
theorem layoutOf_eq_of_numbered (numbered : Numbered output output') (contract : Json)
    (result : Layout) :
    layoutOf output contract = .ok result ↔ layoutOf output' contract = .ok result := by
  obtain ⟨items, items', lists, lists', same⟩ := numbered
  exact layoutOf_congr (items?_eq_some_iff.2 lists) (items?_eq_some_iff.2 lists')
    (map_entryOf_congr (same.imp fun _ _ => entryOf_eq_of_numbered)) contract result

/-! ## Numerals that are too long -/

/-- An item with a decimal numeral that has too many digits: for its slot, or for its offset behind
a slot that is read. -/
inductive Overlong (digits : Nat) : Json → Prop
  | slot {members : Json.Members} {text : String} {n : Nat}
    (found : Json.find? members "slot" = some (.string text))
    (numeral : Literal.IsNumeral 10 n text.toList) (counted : text.length = digits)
    (long : Literal.digitLimit < digits) : Overlong digits (.object members)
  | offset {members : Json.Members} {slot : Json} {whole : Int} {text : String} {n : Nat}
    (found : Json.find? members "slot" = some slot)
    (read : wholeNumber 0 Literal.tagged? slot = .ok whole)
    (found' : Json.find? members "offset" = some (.string text))
    (numeral : Literal.IsNumeral 10 n text.toList) (counted : text.length = digits)
    (long : Literal.digitLimit < digits) : Overlong digits (.object members)

/-- A decimal numeral with too many digits is refused with their number. -/
theorem wholeNumber_of_long {base n : Nat} {numeral? : String → Option Int} {text : String}
    (numeral : Literal.IsNumeral 10 n text.toList) (long : Literal.digitLimit < text.length) :
    wholeNumber base numeral? (.string text) = .error (.fault (.longNumeral text.length)) := by
  have counted : Literal.excess? base text = some text.length := by
    rw [Literal.excess?_of_isNumeral numeral, Option.filter_some, if_pos (decide_eq_true long)]
  rw [wholeNumber, counted]

/-- **An item with a numeral that is too long** is refused for it, whatever its number. -/
theorem entryOf_of_overlong {digits : Nat} {item : Json} (overlong : Overlong digits item) :
    entryOf item = .error (.fault (.longNumeral digits)) := by
  cases overlong with
  | slot found numeral counted long =>
    subst counted
    simp only [entryOf, demand, found, wholeNumber_of_long numeral long, bind, Except.bind]
  | offset found read found' numeral counted long =>
    subst counted
    simp only [entryOf, demand, found, read, found', Option.getD_some,
      wholeNumber_of_long numeral long, bind, Except.bind]

/-- No layout is read from a document that lists such an item. -/
theorem layoutOf_ne_ok_of_overlong {digits : Nat} {item : Json} (lists : ListsItems items output)
    (member : item ∈ items) (overlong : Overlong digits item) (contract : Json) :
    layoutOf output contract ≠ .ok layout := by
  intro read
  obtain ⟨items', entries, listed, taken, -⟩ := layoutOf_eq_ok_iff.1 read
  cases listed.symm.trans (items?_eq_some_iff.2 lists)
  have accepted : entryOf item ∈ entries.map Except.ok := taken ▸ List.mem_map_of_mem member
  obtain ⟨entry, -, same⟩ := List.mem_map.1 accepted
  cases same.trans (entryOf_of_overlong overlong)

/-- The documents of its entries describe a layout. -/
theorem describes_toJson (layout : Layout) :
    Describes layout (.array (layout.entries.map Entry.toJson)) := by
  refine ⟨_, layout.entries, .bare, .refl _, ?_⟩
  rw [List.forall₂_map_right_iff, List.forall₂_same]
  exact fun entry _ => .object rfl .number .number rfl .text

/-- **Reading undoes describing.** Every layout has descriptions, and each description of a valid
layout whose entries have types is read as the entries of the layout, for the contract that is
given; so is the description with numbers put behind the declared types in it. Putting numbers into
any document, whether it describes a layout or not, does not change what layout is read from it. A
decimal numeral is not read when it has too many digits: the item that has it is refused, and no
layout is read from a document that lists this item. -/
theorem reads_descriptions :
    (∀ layout : Layout, ∃ output, Describes layout output) ∧
    (∀ (layout : Layout) (output : Json) (contract : Option String), layout.Valid → layout.Typed →
      Describes layout output →
      layoutOf output (.ofText? contract) = .ok ⟨contract, layout.entries⟩ ∧
      ∀ output' : Json, Numbered output output' →
        layoutOf output' (.ofText? contract) = .ok ⟨contract, layout.entries⟩) ∧
    (∀ (output output' contract : Json) (result : Layout), Numbered output output' →
      (layoutOf output contract = .ok result ↔ layoutOf output' contract = .ok result)) ∧
    ∀ (item : Json) (digits : Nat), Overlong digits item →
      entryOf item = .error (.fault (.longNumeral digits)) ∧
      ∀ (items : List Json) (output contract : Json) (result : Layout), ListsItems items output →
        item ∈ items → layoutOf output contract ≠ .ok result := by
  refine ⟨fun layout => ⟨_, describes_toJson layout⟩, ?_, ?_, ?_⟩
  · intro layout output contract valid typed describes
    have read := layoutOf_of_describes valid typed describes contract
    exact ⟨read, fun output' numbered => (layoutOf_eq_of_numbered numbered _ _).1 read⟩
  · intro output output' contract result numbered
    exact layoutOf_eq_of_numbered numbered contract result
  · intro item digits overlong
    refine ⟨entryOf_of_overlong overlong, fun items output contract result lists member => ?_⟩
    exact layoutOf_ne_ok_of_overlong lists member overlong contract

/-- A layout of one flag. -/
def flagLayout (slot offset : Nat) : Layout := ⟨none, [⟨slot, offset, "t_bool", "flag"⟩]⟩

/-- A description of one flag, with its numbers as text. -/
def describesFlag (slot offset : String) : Json :=
  .array [.object [("slot", .string slot), ("offset", .string offset), ("type", .string "t_bool"),
    ("label", .string "flag")]]

/-- A layout of one flag is valid. -/
theorem valid_flagLayout {slot offset : Nat} (inside : offset ≤ 31) :
    (flagLayout slot offset).Valid ∧ (flagLayout slot offset).Typed := by
  have normal : TypeName.normalize "t_bool" = "t_bool" := by decide +kernel
  have filled : "t_bool".isEmpty = false := by decide
  refine ⟨⟨?_, ?_, ?_⟩, ?_⟩
  · simp [Layout.Ordered, flagLayout]
  all_goals
    intro entry member
    rw [List.mem_singleton.1 member]
  · exact inside
  · exact normal
  · exact filled

/-- **Two layouts are not read from descriptions with decimal numerals.** The first has its flag in
a slot whose numeral is too long, the second an offset that stands behind too many zeros. -/
theorem long_numerals_unread :
    let far := Literal.digitBound
    let padded := String.ofList (List.replicate Literal.digitLimit '0' ++ Nat.toDigits 10 5)
    ((flagLayout far 0).Valid ∧ (flagLayout far 0).Typed ∧
      ∀ layout, layoutOf (describesFlag (Text.naturalText far) "0") .null ≠ .ok layout) ∧
    (flagLayout 0 5).Valid ∧ (flagLayout 0 5).Typed ∧ Literal.IsNumeral 10 5 padded.toList ∧
      ∀ layout, layoutOf (describesFlag "0" padded) .null ≠ .ok layout := by
  intro far padded
  obtain ⟨valid, typed⟩ := @valid_flagLayout far 0 (Nat.zero_le _)
  obtain ⟨valid', typed'⟩ := @valid_flagLayout 0 5 (by decide)
  have numeral : Literal.IsNumeral 10 far (Text.naturalText far).toList := by
    rw [Text.naturalText, String.toList_ofList]
    exact Literal.isNumeral_natural far
  have long : Literal.digitLimit < (Text.naturalText far).length := by
    rw [← Nat.not_le, Literal.length_naturalText_le_iff]
    exact Nat.lt_irrefl far
  have numeral' : Literal.IsNumeral 10 5 padded.toList := by
    refine ⟨Literal.digitLimit, ?_⟩
    rw [String.toList_ofList]
    exact List.forall₂_same.2 fun _ _ => .inl rfl
  have long' : Literal.digitLimit < padded.length := by
    simp [padded, Nat.toDigits_of_lt_base]
  refine ⟨⟨valid, typed, fun layout => ?_⟩, valid', typed', numeral', fun layout => ?_⟩
  · exact layoutOf_ne_ok_of_overlong .bare List.mem_cons_self (.slot rfl numeral rfl long) .null
  · have read : wholeNumber 0 Literal.tagged? (.string "0") = .ok 0 :=
      (WritesSlot.text (.decimal Literal.digitBound_pos)).read
    exact layoutOf_ne_ok_of_overlong .bare List.mem_cons_self
      (.offset rfl read rfl numeral' rfl long') .null

/-- A layout with two declared types, and with an entry far behind the others. -/
def registry : Layout :=
  ⟨some "Registry", [⟨0, 0, "t_address", "owner"⟩, ⟨0, 20, "t_bool", ""⟩,
    ⟨17, 0, "t_mapping(t_address,t_struct(Config)_storage)", "configs"⟩,
    ⟨0x10000000000000000, 1, "t_enum(State)", "state"⟩]⟩

/-- A description of it, out of order and with other things beside, for names of the two declared
types. -/
def describesRegistry (configs state : String) : Json :=
  .object [("types", .object []), ("storage", .array [
    .object [("astId", .int 9), ("slot", .string "0x0011"), ("label", .string "configs"),
      ("type", .string configs)],
    .object [("type", .string state), ("offset", .string "01"), ("slot", .int 0x10000000000000000),
      ("label", .string "state")],
    .object [("slot", .string "0b0"), ("offset", .int 20), ("type", .string "t_bool")],
    .object [("slot", .string "0"), ("type", .string "t_address"), ("label", .string "owner"),
      ("contract", .null)]])]

/-- The description with the types as they are. -/
def plainRegistry : Json :=
  describesRegistry "t_mapping(t_address,t_struct(Config)_storage)" "t_enum(State)"

/-- The description with a number for each of the two types. -/
def numberedRegistry : Json :=
  describesRegistry "t_mapping(t_address,t_struct(Config)42_storage)" "t_enum(State)7"

/-- The registry is a valid layout. -/
theorem valid_registry : registry.Valid where
  ordered := by
    unfold Layout.Ordered
    decide
  withinSlots := by
    unfold Layout.WithinSlots
    decide
  normal := by decide +kernel

/-- All entries of the registry have types. -/
theorem typed_registry : registry.Typed := by
  unfold Layout.Typed
  decide

/-- The numbered registry differs from the plain one in numbers only. -/
theorem numbered_registry : Numbered plainRegistry numberedRegistry := by
  have configs : TypeName.Numbering "t_mapping(t_address,t_struct(Config)_storage)".toList
      "t_mapping(t_address,t_struct(Config)42_storage)".toList :=
    .append "t_mapping(t_address,".toList
      (.number
        ⟨"t_struct(".toList, by decide, "Config".toList, by simp [TypeName.isParenthesis], rfl⟩
        ⟨⟨"42".toList, by decide⟩, by decide⟩ (.refl "_storage)".toList))
  have state : TypeName.Numbering "t_enum(State)".toList "t_enum(State)7".toList :=
    .number ⟨"t_enum(".toList, by decide, "State".toList, by simp [TypeName.isParenthesis], rfl⟩
      ⟨⟨"7".toList, by decide⟩, by decide⟩ (.refl [])
  refine ⟨_, _, .keyed rfl, .keyed rfl, .cons (.numbered rfl rfl configs ?_)
    (.cons (.numbered rfl rfl state ?_) (.cons (.unchanged _) (.cons (.unchanged _) .nil)))⟩
  all_goals
    intro key member
    simp only [List.mem_cons, List.not_mem_nil, or_false] at member
    rcases member with rfl | rfl | rfl <;> rfl

/-- The plain registry describes the registry. -/
theorem describes_plainRegistry : Describes registry plainRegistry := by
  have hexadecimal : Literal.Spells 17 "0x0011".toList :=
    @Literal.Spells.tagged 17 'x' 16 "0011".toList (by decide) ⟨2, by decide⟩
  have binary : Literal.Spells 0 "0b0".toList :=
    @Literal.Spells.tagged 0 'b' 2 "0".toList (by decide) ⟨0, by decide⟩
  refine ⟨_, [⟨17, 0, "t_mapping(t_address,t_struct(Config)_storage)", "configs"⟩,
    ⟨0x10000000000000000, 1, "t_enum(State)", "state"⟩, ⟨0, 20, "t_bool", ""⟩,
    ⟨0, 0, "t_address", "owner"⟩], .keyed rfl, by decide,
    .cons ?_ (.cons ?_ (.cons ?_ (.cons ?_ .nil)))⟩
  · exact .object rfl (.text hexadecimal) (.absent rfl) rfl .text
  · exact .object rfl .number (.text ⟨1, by decide⟩ (by decide)) rfl .text
  · exact .object rfl (.text binary) .number rfl (.absent rfl)
  · exact .object rfl (.text (.decimal Literal.digitBound_pos)) (.absent rfl) rfl .text

/-- The registry is read from the description with numbers, as the layout of another contract. -/
theorem reads_descriptions_registry :
    registry.Valid ∧ registry.Typed ∧ Describes registry plainRegistry ∧
      Numbered plainRegistry numberedRegistry ∧
      layoutOf numberedRegistry (.ofText? (some "Vault")) =
        .ok ⟨some "Vault", registry.entries⟩ := by
  obtain ⟨-, read, -⟩ := reads_descriptions
  refine ⟨valid_registry, typed_registry, describes_plainRegistry, numbered_registry, ?_⟩
  exact (read _ _ (some "Vault") valid_registry typed_registry describes_plainRegistry).2 _
    numbered_registry

end UpgradeGate.CompilerOutput
