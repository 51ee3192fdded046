import UpgradeGate.Failure

/-!
# Ordered layouts

A layout is built from entries that already stand in order, or from entries in any order, which
are sorted first. Both fail where two entries share a position.

Main statement: entries are in order exactly when each stands before the next
(`firstFault?_eq_none_iff`).
-/

namespace UpgradeGate.Layout

/-- What is wrong with two neighbouring entries. -/
def neighbourFault? (earlier later : Entry) : Option LayoutFault :=
  if later.position = earlier.position then some (.samePosition earlier later)
  else if later.position.Before earlier.position then some (.outOfOrder earlier later)
  else none

/-- The fault of the first two neighbours that are not in order. -/
def firstFault? : List Entry → Option LayoutFault
  | [] => none
  | [_] => none
  | earlier :: later :: rest =>
    (neighbourFault? earlier later).orElse fun _ => firstFault? (later :: rest)

/-- A layout of entries that are in order. -/
def ofOrdered (contract : Option String) (entries : List Entry) : Except LayoutFault Layout :=
  match firstFault? entries with
  | some fault => .error fault
  | none => .ok ⟨contract, entries⟩

/-- Entries by position, those with equal positions as they were given. -/
def sortEntries (entries : List Entry) : List Entry :=
  entries.mergeSort fun a b => !decide (b.position.Before a.position)

/-- A layout of entries in any order. -/
def ofEntries (contract : Option String) (entries : List Entry) : Except LayoutFault Layout :=
  ofOrdered contract (sortEntries entries)

/-- Neighbours are in order where the later one comes after the earlier one. -/
theorem neighbourFault?_eq_none_iff {earlier later : Entry} :
    neighbourFault? earlier later = none ↔ earlier.position.Before later.position := by
  have order := Position.trichotomy earlier.position later.position
  have reflexive := Position.Before.irrefl earlier.position
  simp only [neighbourFault?]
  split
  · next same => simpa [same] using reflexive
  · next differ =>
    split
    · next reversed =>
      simpa using fun forward : earlier.position.Before later.position =>
        reflexive (forward.trans reversed)
    · next kept =>
      simp only [true_iff]
      rcases order with forward | same | reversed
      · exact forward
      · exact absurd same.symm differ
      · exact absurd reversed kept

/-- There is no fault exactly when every entry stands before all later ones. -/
theorem firstFault?_eq_none_iff {entries : List Entry} :
    firstFault? entries = none ↔
      entries.Pairwise fun earlier later => earlier.position.Before later.position := by
  induction entries with
  | nil => simp [firstFault?]
  | cons first rest ih =>
    cases rest with
    | nil => simp [firstFault?]
    | cons second rest =>
      have split : firstFault? (first :: second :: rest) = none ↔
          first.position.Before second.position ∧ firstFault? (second :: rest) = none := by
        rw [← neighbourFault?_eq_none_iff, firstFault?]
        cases neighbourFault? first second <;> simp
      rw [split, ih, List.pairwise_cons (a := first)]
      constructor
      · rintro ⟨step, tail⟩
        refine ⟨fun later member => ?_, tail⟩
        rcases List.mem_cons.1 member with rfl | further
        · exact step
        · exact step.trans ((List.pairwise_cons.1 tail).1 later further)
      · rintro ⟨heads, tail⟩
        exact ⟨heads second (List.mem_cons_self ..), tail⟩

/-- A layout that is built is in order. -/
theorem ordered_of_ofOrdered {contract : Option String} {entries : List Entry} {layout : Layout}
    (built : ofOrdered contract entries = .ok layout) : layout.Ordered := by
  simp only [ofOrdered] at built
  split at built
  · cases built
  · next none =>
    cases built
    exact firstFault?_eq_none_iff.1 none

end UpgradeGate.Layout
