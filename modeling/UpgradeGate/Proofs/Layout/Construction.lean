import UpgradeGate.Proofs.Layout.Arrangement
import UpgradeGate.Proofs.Layout.StoreEffects

/-!
# How layouts come about

A layout is made from its fields, from entries, from what the compiler describes, from a record, or
from a file that may have been edited (`Layout.Arises`). However it comes about, every entry stands
inside its slot and before all later ones, though only neighbours are compared
(`Layout.Arises.valid`). So the last entry stands behind all others
(`Layout.lastPosition?_eq_some_iff`).

The numbers of an accepted entry are those of its document; a negative one is not taken for zero
(`Entry.numbers_of_check`).
-/

namespace UpgradeGate

namespace Entry

/-- An entry that passed the checks of its fields. -/
def IsAccepted (entry : Entry) : Prop := ∃ members, check members = .accepted entry

/-- An accepted entry is inside its slot and has a normal type. -/
theorem IsAccepted.sound {entry : Entry} (accepted : entry.IsAccepted) :
    entry.offset ≤ 31 ∧ TypeName.normalize entry.type = entry.type := by
  obtain ⟨members, taken⟩ := accepted
  exact ⟨offset_le_of_check taken, normal_of_check taken⟩

/-- The numbers of an accepted entry are those that its document gives. -/
theorem numbers_of_check {members : Json.Members} {entry : Entry}
    (taken : check members = .accepted entry) :
    Field.required Field.integer members "slot" = .accepted (entry.slot : Int) ∧
      Field.optional 0 Field.integer members "offset" = .accepted (entry.offset : Int) := by
  simp only [check, Checked.seq_eq_accepted_iff] at taken
  obtain ⟨_, _, ⟨_, _, ⟨_, offset, first, second, rfl⟩, _, rfl⟩, _, rfl⟩ := taken
  obtain ⟨slot, slotted, rfl⟩ := Checked.map_eq_accepted_iff.1 first
  obtain ⟨value, found, read⟩ := Field.required_eq_accepted_iff.1 slotted
  refine ⟨Field.required_eq_accepted_iff.2 ⟨value, found, Field.integer_of_natural read⟩, ?_⟩
  refine Field.optional_eq_accepted_iff.2 ?_
  rcases Field.optional_eq_accepted_iff.1 second with ⟨value, found, read⟩ | ⟨absent, rfl⟩
  · exact .inl ⟨value, found, Field.integer_of_natural (Field.natural_of_upTo read)⟩
  · exact .inr ⟨absent, rfl⟩

/-- An entry that is read from parts was accepted. -/
theorem isAccepted_of_ofParts {parts : List Json} {entry : Entry}
    (read : ofParts parts = .ok entry) : entry.IsAccepted := by
  unfold ofParts at read
  split at read
  · exact ⟨_, Checked.required_eq_ok_iff.1 read⟩
  · cases read

/-- An entry that is read from a document was accepted. -/
theorem isAccepted_of_ofJson {document : Json} {entry : Entry}
    (read : ofJson document = .ok entry) : entry.IsAccepted := by
  unfold ofJson at read
  split at read
  · exact ⟨_, Checked.required_eq_ok_iff.1 read⟩
  · exact isAccepted_of_ofParts read
  · exact isAccepted_of_ofParts read
  · cases read

end Entry

namespace Layout

variable {contract : Option String} {entries : List Entry} {layout : Layout}

/-! ## Ways in which layouts come about -/

/-- A layout that is arranged from accepted entries is valid. -/
theorem valid_of_ofGiven {contract : Json} {given : List Given}
    (accepted : ∀ entry, .made entry ∈ given → entry.IsAccepted)
    (built : ofGiven contract given = .ok layout) : layout.Valid := by
  unfold ofGiven at built
  cases read : given.mapM Given.read with
  | error failure =>
    rw [read] at built
    cases built
  | ok entries =>
    rw [read] at built
    refine valid_of_collect (fun entry member => ?_) built
    obtain ⟨source, inside, taken⟩ := exists_of_mem_read (mapM_eq_ok_iff.1 read) member
    cases source with
    | made own =>
      cases taken
      exact (accepted entry inside).sound
    | written document => exact (Entry.isAccepted_of_ofJson taken).sound

/-- A layout that is read from a document is arranged from given entries. -/
theorem exists_ofGiven_of_ofJson {contract items : Json}
    (built : ofJson contract items = .ok layout) :
    ∃ listed : List Json, ofGiven contract (listed.map .written) = .ok layout := by
  cases found : itemsOf items with
  | error failure =>
    rw [ofJson, found] at built
    cases built
  | ok listed =>
    rw [ofJson, found] at built
    exact ⟨listed, built⟩

/-- A layout comes about. -/
inductive Arises : Layout → Prop
  /-- It is made from its fields. -/
  | ofFields {members : Json.Members} {layout : Layout} (taken : check members = .accepted layout) :
    Arises layout
  /-- It is made from accepted entries that stand in order. -/
  | ofOrdered {contract : Option String} {entries : List Entry} {layout : Layout}
    (accepted : ∀ entry ∈ entries, entry.IsAccepted)
    (built : ofOrdered contract entries = .ok layout) : Arises layout
  /-- It is collected from entries, accepted before or read now. -/
  | ofGiven {contract : Json} {given : List Given} {layout : Layout}
    (accepted : ∀ entry, .made entry ∈ given → entry.IsAccepted)
    (built : ofGiven contract given = .ok layout) : Arises layout
  /-- It is collected from the items of a document. -/
  | ofJson {contract items : Json} {layout : Layout} (built : ofJson contract items = .ok layout) :
    Arises layout
  /-- It is what the compiler describes. -/
  | ofCompiler {output contract : Json} {layout : Layout}
    (read : CompilerOutput.layoutOf output contract = .ok layout) : Arises layout
  /-- It is part of a record that is made from its fields. -/
  | ofRecordFields {members : Json.Members} {record : LayoutRecord}
    (taken : LayoutRecord.check members = .accepted record) : Arises record.layout
  /-- It is part of a record that is read from a text. -/
  | ofRecordText {text : String} {record : LayoutRecord}
    (taken : LayoutRecord.ofText text = .accepted record) : Arises record.layout
  /-- It is read as a copy of a store, whatever the disk holds. -/
  | ofFile {store : LayoutStore} {disk : Disk} {copy : Copy} {name network : String}
    {layout : Layout} (read : store.reading disk copy name network = .ok (some layout)) :
    Arises layout

/-- **Every layout is valid.** -/
theorem Arises.valid (arises : Arises layout) : layout.Valid := by
  cases arises with
  | ofFields taken => exact valid_of_check taken
  | ofOrdered accepted built =>
    exact valid_of_ofOrdered (fun entry member => (accepted entry member).sound) built
  | ofGiven accepted built => exact valid_of_ofGiven accepted built
  | ofJson built =>
    obtain ⟨listed, collected⟩ := exists_ofGiven_of_ofJson built
    refine valid_of_ofGiven (fun entry member => ?_) collected
    obtain ⟨_, _, differ⟩ := List.mem_map.1 member
    cases differ
  | ofCompiler read => exact CompilerOutput.valid_of_layoutOf read
  | ofRecordFields taken => exact LayoutRecord.valid_of_check taken
  | ofRecordText taken => exact LayoutRecord.valid_of_ofText taken
  | ofFile read => exact LayoutStore.valid_of_reading read

/-! ## What the order of neighbours means -/

/-- Only a layout without entries has no last position. -/
theorem lastPosition?_eq_none_iff : layout.lastPosition? = none ↔ layout.entries = [] := by
  simp [lastPosition?]

/-- The positions of a layout in order ascend. -/
theorem pairwise_positions (ordered : layout.Ordered) :
    layout.positions.Pairwise Position.Before :=
  List.pairwise_map.2 ordered

/-- The last entry stands at the greatest position. -/
theorem lastPosition?_eq_some_iff (ordered : layout.Ordered) {position : Position} :
    layout.lastPosition? = some position ↔ position ∈ layout.positions ∧
      ∀ other ∈ layout.positions, other = position ∨ other.Before position := by
  have sorted := pairwise_positions ordered
  have greatest : ∀ last, layout.positions.getLast? = some last → last ∈ layout.positions ∧
      ∀ other ∈ layout.positions, other = last ∨ other.Before last := by
    intro last found
    obtain ⟨front, split⟩ := List.getLast?_eq_some_iff.1 found
    rw [split] at sorted ⊢
    refine ⟨List.mem_append_right _ (List.mem_singleton_self _), fun other member => ?_⟩
    rcases List.mem_append.1 member with early | here
    · exact .inr ((List.pairwise_append.1 sorted).2.2 other early _ (List.mem_singleton_self _))
    · exact .inl (List.mem_singleton.1 here)
  rw [lastPosition?, ← List.getLast?_map]
  refine ⟨greatest position, fun ⟨member, behind⟩ => ?_⟩
  cases found : layout.positions.getLast? with
  | none =>
    rw [List.getLast?_eq_none_iff.1 found] at member
    cases member
  | some last =>
    obtain ⟨inside, ahead⟩ := greatest last found
    rcases behind last inside with rfl | before
    · exact found
    · rcases ahead position member with rfl | after
      · exact found
      · exact absurd (before.trans after) (Position.Before.irrefl _)

/-! ## Layouts from entries that are given in order -/

/-- The fields of a layout document are acceptable, as a contract and entries. -/
structure HasFields (members : Json.Members) (contract : Option String) (entries : List Entry) :
    Prop where
  contract : Field.optional none (Field.nullable Field.text) members "contract_name" =
    .accepted contract
  entries : Field.optional [] checkEntries members "entries" = .accepted entries

/-- A document with the fields of a layout is taken like its entries. -/
theorem required_check {members : Json.Members} (fields : HasFields members contract entries) :
    (check members).required .layout = (ofOrdered contract entries).mapError .layout := by
  rw [check, fields.contract, fields.entries]
  change (checkBuilt (ofOrdered contract entries)).required .layout = _
  cases ofOrdered contract entries <;> rfl

/-- A result is the layout of entries that are in order, or else what is wrong with the first two
neighbours that are not. -/
structure IsConstruction (contract : Option String) (entries : List Entry)
    (result : Except Failure Layout) : Prop where
  ok : ∀ layout, result = .ok layout ↔ InOrder entries ∧ layout = ⟨contract, entries⟩
  error : ∀ failure, result = .error failure ↔
    ∃ fault, FirstDisorder entries fault ∧ failure = .layout fault

/-- Taking entries as they stand is one way of construction. -/
theorem isConstruction_ofOrdered (contract : Option String) (entries : List Entry) :
    IsConstruction contract entries ((ofOrdered contract entries).mapError .layout) where
  ok layout := by rw [mapError_eq_ok_iff, ofOrdered_eq_ok_iff]
  error failure := by
    have refused : ∀ fault, FirstDisorder entries fault ↔
        ofOrdered contract entries = .error fault := fun _ => ofOrdered_eq_error_iff.symm
    simp only [refused]
    cases ofOrdered contract entries <;> simp [Except.mapError, eq_comm]

/-- **Layouts are in order.** However a layout comes about, of any two of its entries the one with
the smaller index stands before the other one, and each stands inside its slot, at the numbers that
its document gives. The last position is the greatest one, and is missing only where there are no
entries. Entries that are given in order make a layout exactly when they are; otherwise the first
two neighbours that are not in order are reported, as sharing a position or as out of order. -/
theorem arises_in_order :
    (∀ layout : Layout, Arises layout →
      (∀ (i j : Nat) (_ : i < j) (_ : j < layout.positions.length),
        layout.positions[i].Before layout.positions[j]) ∧
      layout.positions.Nodup ∧
      (∀ entry ∈ layout.entries, 0 ≤ entry.slot ∧ 0 ≤ entry.offset ∧ entry.offset ≤ 31) ∧
      (layout.lastPosition? = none ↔ layout.entries = []) ∧
      ∀ position, layout.lastPosition? = some position ↔ position ∈ layout.positions ∧
        ∀ other ∈ layout.positions, other = position ∨ other.Before position) ∧
    (∀ (members : Json.Members) (entry : Entry), Entry.check members = .accepted entry →
      Field.required Field.integer members "slot" = .accepted (entry.slot : Int) ∧
      Field.optional 0 Field.integer members "offset" = .accepted (entry.offset : Int)) ∧
    ∀ (contract : Option String) (entries : List Entry),
      IsConstruction contract entries ((ofOrdered contract entries).mapError .layout) ∧
      ∀ members : Json.Members, HasFields members contract entries →
        IsConstruction contract entries ((check members).required .layout) := by
  refine ⟨fun layout arises => ?_, fun _ _ => Entry.numbers_of_check, fun contract entries => ?_⟩
  · obtain ⟨ordered, inside, -⟩ := arises.valid
    refine ⟨fun i j earlier bound => ?_, nodup_positions_of_inOrder ordered, ?_,
      lastPosition?_eq_none_iff, fun _ => lastPosition?_eq_some_iff ordered⟩
    · exact List.pairwise_iff_getElem.1 (pairwise_positions ordered) i j _ bound earlier
    · exact fun entry member => ⟨Nat.zero_le _, Nat.zero_le _, inside entry member⟩
  · refine ⟨isConstruction_ofOrdered contract entries, fun members fields => ?_⟩
    rw [required_check fields]
    exact isConstruction_ofOrdered contract entries

/-- The layout of a vault. -/
def vault : Layout := ⟨some "Vault", [vaultOwner, vaultPaused, vaultTotal]⟩

/-- The vault is a valid layout. -/
theorem valid_vault : vault.Valid where
  ordered := by
    unfold Layout.Ordered
    decide
  withinSlots := by
    unfold Layout.WithinSlots
    decide
  normal := by decide +kernel

/-- The document of a vault whose total is put in front of the flag. -/
def hastyVault : Json.Members :=
  [("entries", .array ([vaultOwner, vaultTotal, vaultPaused].map Entry.toJson))]

/-- The hasty vault has its entries out of order. -/
theorem hasFields_hastyVault : HasFields hastyVault none [vaultOwner, vaultTotal, vaultPaused] where
  contract := rfl
  entries := by
    refine Field.optional_of_find? rfl (Checked.all_map _ 0 fun entry member => ?_)
    have known : entry ∈ vault.entries := by
      simp only [List.mem_cons, List.not_mem_nil, or_false, vault] at member ⊢
      tauto
    exact Entry.check_toJson (valid_vault.withinSlots entry known) (valid_vault.normal entry known)
      (by revert entry; decide)

/-- The layout of the vault comes about from its fields and ends at its total. Where the total is
put in front of the flag, these two are reported. -/
theorem arises_in_order_vault :
    Arises vault ∧ vault.positions.Nodup ∧ vault.lastPosition? = some ⟨1, 0⟩ ∧
      HasFields hastyVault none [vaultOwner, vaultTotal, vaultPaused] ∧
      (check hastyVault).required .layout =
        .error (.layout (.outOfOrder vaultTotal vaultPaused)) := by
  obtain ⟨arising, -, constructed⟩ := arises_in_order
  have typed : vault.Typed := by
    unfold Layout.Typed
    decide
  have arises : Arises vault := .ofFields (check_toJson valid_vault typed)
  obtain ⟨-, distinct, -, -, last⟩ := arising vault arises
  refine ⟨arises, distinct, (last _).2 (by decide), hasFields_hastyVault, ?_⟩
  refine (((constructed _ _).2 _ hasFields_hastyVault).error _).2
    ⟨_, ⟨[vaultOwner], vaultTotal, vaultPaused, [], rfl, ?_, .outOfOrder (by decide)⟩, rfl⟩
  unfold InOrder
  decide

end Layout

end UpgradeGate
