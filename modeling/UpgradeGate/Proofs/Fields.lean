import Mathlib.Data.List.Forall2
import UpgradeGate.Fields

/-!
# Accepted fields

A document is accepted when its fields are. For each way of checking, this says what was accepted
of the parts (`Checked.andThen_eq_accepted_iff`, `Checked.map_check_of_all`). A field that may be
missing is accepted with an acceptable value or, where it is missing, with its default
(`Field.required_eq_accepted_iff`, `Field.optional_eq_accepted_iff`).
A list of documents is read as a whole when each of them is (`mapM_eq_ok_iff`), and otherwise it
fails as the first one that cannot be read (`mapM_eq_error_iff`).
-/

namespace UpgradeGate

namespace Checked

variable {α β : Type}

/-- A check with a function behind it accepts where the check does. -/
theorem map_eq_accepted_iff {f : α → β} {x : Checked α} {result : β} :
    f <$> x = .accepted result ↔ ∃ value, x = .accepted value ∧ f value = result := by
  cases x <;> simp [Functor.map, map]

/-- One check after another accepts where both do. -/
theorem andThen_eq_accepted_iff {check : α → Checked β} {x : Checked α} {result : β} :
    x.andThen check = .accepted result ↔
      ∃ value, x = .accepted value ∧ check value = .accepted result := by
  cases x <;> simp [andThen]

/-- Where an issue is reported does not matter to what is accepted. -/
theorem under_eq_accepted_iff {step : String} {x : Checked α} {value : α} :
    x.under step = .accepted value ↔ x = .accepted value := by
  cases x <;> simp [under]

/-- A document is returned where it is accepted. -/
theorem required_eq_ok_iff {document : Document} {x : Checked α} {value : α} :
    x.required document = .ok value ↔ x = .accepted value := by
  cases x <;> simp [required]

/-- Where a value matters neither to whether it is taken nor to what is made of the result, it does
not matter at all. -/
theorem map_seq_accepted_congr {γ : Type} {f : β → γ} {build : Checked (α → β)}
    (alike : ∀ g, build = .accepted g → ∀ a b, f (g a) = f (g b)) (a b : α) :
    f <$> (build <*> .accepted a) = f <$> (build <*> .accepted b) := by
  cases build with
  | accepted g => exact congrArg Checked.accepted (alike g rfl a b)
  | broken issues => rfl
  | faulty fault => rfl

/-- A list that is accepted gives, item by item, what the items give. -/
theorem map_check_of_all {check : Json → Checked α} {index : Nat} {items : List Json}
    {values : List α} (taken : all check index items = .accepted values) :
    items.map check = values.map .accepted := by
  induction items generalizing index values with
  | nil =>
    cases taken
    rfl
  | cons item rest ih =>
    obtain ⟨_, others, first, remaining, rfl⟩ := seq_eq_accepted_iff.1 taken
    obtain ⟨value, checked, rfl⟩ := map_eq_accepted_iff.1 first
    rw [List.map_cons, List.map_cons, ih remaining, under_eq_accepted_iff.1 checked]

/-- A list is accepted where every item is, and gives the values of its items. -/
theorem all_map {check : Json → Checked α} {write : α → Json} (values : List α) (index : Nat)
    (read : ∀ value ∈ values, check (write value) = .accepted value) :
    all check index (values.map write) = .accepted values := by
  induction values generalizing index with
  | nil => rfl
  | cons value rest ih =>
    rw [List.map_cons, all, read value (List.mem_cons_self ..),
      ih (index + 1) fun other member => read other (List.mem_cons_of_mem _ member)]
    rfl

end Checked

namespace Field

variable {α : Type} {members : Json.Members} {key : String} {value : Json} {result : α}

/-- A required field is accepted where it is there and its value is. -/
theorem required_eq_accepted_iff {check : Json → Checked α} :
    required check members key = .accepted result ↔
      ∃ value, Json.find? members key = some value ∧ check value = .accepted result := by
  unfold required
  cases Json.find? members key with
  | none => simp [Checked.breaks, Checked.under]
  | some value => simp [Checked.under_eq_accepted_iff]

/-- An optional field is accepted where it is absent or its value is. -/
theorem optional_eq_accepted_iff {check : Json → Checked α} {default : α} :
    optional default check members key = .accepted result ↔
      (∃ value, Json.find? members key = some value ∧ check value = .accepted result) ∨
        Json.find? members key = none ∧ default = result := by
  unfold optional
  cases Json.find? members key with
  | none => simp
  | some value => simp [Checked.under_eq_accepted_iff]

/-- A required field that is there and accepted. -/
theorem required_of_find? {check : Json → Checked α} (found : Json.find? members key = some value)
    (taken : check value = .accepted result) : required check members key = .accepted result :=
  required_eq_accepted_iff.2 ⟨value, found, taken⟩

/-- An optional field that is there and accepted. -/
theorem optional_of_find? {check : Json → Checked α} {default : α}
    (found : Json.find? members key = some value) (taken : check value = .accepted result) :
    optional default check members key = .accepted result :=
  optional_eq_accepted_iff.2 (.inl ⟨value, found, taken⟩)

theorem natural_int (n : Nat) : natural (.int n) = .accepted n := by
  have kept : ¬ (n : Int) < 0 := Int.not_lt.2 (Int.natCast_nonneg n)
  rw [natural, integer, Checked.andThen, if_neg kept, Int.toNat_natCast]

/-- A number within the bound is accepted. -/
theorem upTo_int {n greatest : Nat} (inside : n ≤ greatest) :
    upTo greatest (.int n) = .accepted n := by
  rw [upTo, natural_int, Checked.andThen, if_pos inside]

/-- What is accepted as a natural number is accepted as an integer. -/
theorem integer_of_natural {n : Nat} (taken : natural value = .accepted n) :
    integer value = .accepted (n : Int) := by
  obtain ⟨whole, read, kept⟩ := Checked.andThen_eq_accepted_iff.1 taken
  split at kept
  · cases kept
  · next positive =>
    cases kept
    rw [read, Int.toNat_of_nonneg (Int.not_lt.1 positive)]

/-- What is accepted within a bound is accepted as a natural number. -/
theorem natural_of_upTo {greatest n : Nat} (taken : upTo greatest value = .accepted n) :
    natural value = .accepted n := by
  obtain ⟨whole, read, kept⟩ := Checked.andThen_eq_accepted_iff.1 taken
  split at kept
  · cases kept
    exact read
  · cases kept

end Field

/-! ## Readings that may fail -/

/-- Rewording a failure does not change what succeeds. -/
theorem mapError_eq_ok_iff {ε ε' α : Type} {f : ε → ε'} {result : Except ε α} {value : α} :
    result.mapError f = .ok value ↔ result = .ok value := by
  cases result with
  | error => exact ⟨nofun, nofun⟩
  | ok given =>
    constructor
    · rintro ⟨⟩
      rfl
    · rintro ⟨⟩
      rfl

/-- A reworded failure comes from one before. -/
theorem mapError_eq_error_iff {ε ε' α : Type} {f : ε → ε'} {result : Except ε α} {failure : ε'} :
    result.mapError f = .error failure ↔ ∃ own, result = .error own ∧ f own = failure := by
  cases result with
  | ok => exact ⟨nofun, nofun⟩
  | error own =>
    constructor
    · rintro ⟨⟩
      exact ⟨own, rfl, rfl⟩
    · rintro ⟨_, ⟨⟩, rfl⟩
      rfl

/-- Items are read as a whole when each of them is. -/
theorem mapM_eq_ok_iff {ε α β : Type} {read : α → Except ε β} {items : List α} {values : List β} :
    items.mapM read = .ok values ↔
      List.Forall₂ (fun item value => read item = .ok value) items values := by
  induction items generalizing values with
  | nil => cases values <;> simp [pure, Except.pure]
  | cons item rest ih =>
    rw [List.mapM_cons]
    cases values with
    | nil =>
      cases read item <;> cases rest.mapM read <;>
        simp [bind, Except.bind, pure, Except.pure]
    | cons value values =>
      rw [List.forall₂_cons, ← ih]
      cases read item <;> cases rest.mapM read <;> simp [bind, Except.bind, pure, Except.pure]

/-- Reading items as a whole fails as reading the first of them that cannot be read. -/
theorem mapM_eq_error_iff {ε α β : Type} {read : α → Except ε β} {items : List α} {failure : ε} :
    items.mapM read = .error failure ↔ ∃ front item rest values, items = front ++ item :: rest ∧
      List.Forall₂ (fun item value => read item = .ok value) front values ∧
      read item = .error failure := by
  constructor
  · intro failed
    induction items with
    | nil => cases failed
    | cons item rest ih =>
      rw [List.mapM_cons] at failed
      cases first : read item with
      | error own =>
        rw [first] at failed
        cases failed
        exact ⟨[], item, rest, [], rfl, .nil, first⟩
      | ok value =>
        have later : rest.mapM read = .error failure := by
          rw [first] at failed
          cases others : rest.mapM read with
          | error own =>
            rw [others] at failed
            exact failed
          | ok values =>
            rw [others] at failed
            cases failed
        obtain ⟨front, refused, behind, values, rfl, taken, found⟩ := ih later
        exact ⟨item :: front, refused, behind, value :: values, rfl, .cons first taken, found⟩
  · rintro ⟨front, item, rest, values, rfl, taken, found⟩
    rw [List.mapM_append, mapM_eq_ok_iff.2 taken, List.mapM_cons, found]
    rfl

/-- What was read is read of an item. -/
theorem exists_of_mem_read {ε α β : Type} {read : α → Except ε β} {items : List α}
    {values : List β} (taken : List.Forall₂ (fun item value => read item = .ok value) items values)
    {value : β} (member : value ∈ values) : ∃ item ∈ items, read item = .ok value := by
  induction taken with
  | nil => cases member
  | @cons item own items values first _ ih =>
    rcases List.mem_cons.1 member with rfl | further
    · exact ⟨item, List.mem_cons_self, first⟩
    · obtain ⟨other, inside, same⟩ := ih further
      exact ⟨other, List.mem_cons_of_mem _ inside, same⟩

end UpgradeGate
