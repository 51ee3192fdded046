import Mathlib.Data.List.Nodup
import UpgradeGate.Proofs.Disk.Frame

/-!
# What stands below a place

The names in a folder are the last steps to what stands directly below it (`Disk.mem_names_iff`).
Below a place where nothing stood at first, every place is listed once, whatever is put there or
dropped, so the names in a folder are all different (`Disk.nodup_names`).
-/

namespace UpgradeGate

/-- Putting a value down adds its key at most. -/
theorem Table.map_fst_put {κ ν : Type} [BEq κ] [LawfulBEq κ] (key : κ) (value : ν)
    (table : List (κ × ν)) :
    (Table.put key value table).map Prod.fst = table.map Prod.fst ∨
      key ∉ table.map Prod.fst ∧
        (Table.put key value table).map Prod.fst = table.map Prod.fst ++ [key] := by
  induction table with
  | nil => exact .inr ⟨nofun, rfl⟩
  | cons first rest ih =>
    obtain ⟨other, old⟩ := first
    cases same : other == key with
    | true => exact .inl (by simp [Table.put, same])
    | false =>
      have differ : key ≠ other := fun equal => by simp [equal] at same
      rcases ih with kept | ⟨new, added⟩
      · exact .inl (by simp [Table.put, same, kept])
      · exact .inr ⟨by simpa [differ] using new, by simp [Table.put, same, added]⟩

namespace Disk

variable {disk : Disk} {base place : Place} {node : Node}

/-- Something stands at a place inside the working folder exactly when the place is listed. -/
theorem isSome_node?_iff (inside : place ≠ []) :
    (disk.node? place).isSome = true ↔ place ∈ disk.nodes.map Prod.fst := by
  rw [node?, if_neg inside]
  induction disk.nodes with
  | nil => simp
  | cons first rest ih =>
    obtain ⟨found, node⟩ := first
    cases same : place == found with
    | true => simp [eq_of_beq same]
    | false =>
      have differ : place ≠ found := fun equal => by simp [equal] at same
      simp [List.lookup_cons, same, differ, ← ih]

theorem mem_below_iff {found : Place} :
    found ∈ disk.below base ↔
      ∃ steps, steps ≠ [] ∧ found = base ++ steps ∧ (disk.node? found).isSome = true := by
  rw [below, List.mem_filter, Bool.and_eq_true, List.isPrefixOf_iff_prefix, bne_iff_ne]
  constructor
  · intro listed
    obtain ⟨listed, ⟨steps, rfl⟩, differ⟩ := listed
    have more : steps ≠ [] := by
      rintro rfl
      exact differ (List.append_nil base)
    exact ⟨steps, more, rfl, (isSome_node?_iff (by simp [more])).2 listed⟩
  · intro given
    obtain ⟨steps, more, rfl, stands⟩ := given
    exact ⟨(isSome_node?_iff (by simp [more])).1 stands, List.prefix_append base steps,
      by simp [more]⟩

/-- A place in a folder, taken apart. -/
private theorem splits_iff {found : Place} {name : String} :
    (if found.dropLast = place then found.getLast? else none) = some name ↔
      found = place ++ [name] := by
  constructor
  · intro last
    split at last
    · next front =>
      rw [← front]
      exact (List.dropLast_append_getLast? name last).symm
    · cases last
  · rintro rfl
    simp

/-- **The names in a folder.** -/
theorem mem_names_iff {name : String} :
    name ∈ disk.names place ↔ (disk.node? (place ++ [name])).isSome = true := by
  rw [isSome_node?_iff (by simp), names, List.mem_filterMap, List.mem_map]
  simp only [splits_iff]

/-- The names in a folder are the last steps of what is right below it. -/
theorem names_eq_filterMap (disk : Disk) (base : Place) (steps : Path) :
    disk.names (base ++ steps) = (disk.below base).filterMap fun found =>
      if found.dropLast = base ++ steps then found.getLast? else none := by
  rw [names, below, List.filterMap_filter, List.filterMap_map]
  refine List.filterMap_congr fun listed _ => ?_
  obtain ⟨found, node⟩ := listed
  change _ = if (base.isPrefixOf found && found != base) = true then _ else none
  by_cases inside : (base.isPrefixOf found && found != base) = true
  · rw [if_pos inside]
  · rw [if_neg inside, Option.eq_none_iff_forall_ne_some]
    -- what is not below the base has no name in a folder there
    intro name named
    have same : found = base ++ steps ++ [name] := splits_iff.1 named
    simp [same] at inside

/-- No name comes twice where no place does. -/
theorem nodup_names (unique : (disk.below base).Nodup) (steps : Path) :
    (disk.names (base ++ steps)).Nodup := by
  rw [names_eq_filterMap]
  refine unique.filterMap ?_
  intro found other name first second
  rw [Option.mem_def, splits_iff] at first second
  rw [first, second]

/-- Putting something brings no place twice. -/
theorem nodup_below_put (unique : (disk.below base).Nodup) :
    ((disk.put place node).below base).Nodup := by
  rw [below, put]
  rcases Table.map_fst_put place node disk.nodes with kept | ⟨new, added⟩
  · rw [kept]
    exact unique
  · rw [added, List.filter_append]
    refine unique.append ?_ ?_
    · exact (List.nodup_singleton place).filter _
    · intro found listed other
      have same := List.mem_singleton.1 (List.mem_filter.1 other).1
      subst same
      exact new (List.mem_filter.1 listed).1

/-- Making a folder brings no place twice. -/
theorem nodup_below_withFolder (unique : (disk.below base).Nodup) :
    ((disk.withFolder place).below base).Nodup := by
  unfold withFolder
  split
  · exact nodup_below_put unique
  · exact unique

/-- Dropping something brings no place twice. -/
theorem nodup_below_drop (unique : (disk.below base).Nodup) :
    ((disk.drop place).below base).Nodup := by
  have sublist : List.Sublist ((disk.drop place).below base) (disk.below base) :=
    (List.filter_sublist.map Prod.fst).filter _
  exact unique.sublist sublist

end Disk

end UpgradeGate
