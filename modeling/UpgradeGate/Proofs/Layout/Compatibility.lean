import UpgradeGate.Layout.Comparison

/-!
# Compatible layouts

A new layout is compatible with an old one exactly when it takes over the storage of the old one,
entry by entry from the start (`Layout.compatible_iff`). So a layout is compatible with itself
(`Layout.compatible_refl`), and compatibility is transitive (`Layout.compatible_trans`): a chain of
compatible layouts is compatible from end to end.
-/

namespace UpgradeGate

namespace Entry

/-- Entries share their storage where all but the label agrees. -/
theorem sameStorage_iff {a b : Entry} :
    a.sameStorage b = true ↔ a.slot = b.slot ∧ a.offset = b.offset ∧ a.type = b.type := by
  simp [sameStorage, and_assoc]

/-- An entry shares its storage with itself. -/
theorem sameStorage_refl (entry : Entry) : entry.sameStorage entry = true := by
  simp [sameStorage]

/-- Sharing storage can be put together. -/
theorem sameStorage_trans {a b c : Entry} (first : a.sameStorage b = true)
    (second : b.sameStorage c = true) : a.sameStorage c = true := by
  rw [sameStorage_iff] at *
  obtain ⟨slot, offset, type⟩ := first
  obtain ⟨slot', offset', type'⟩ := second
  exact ⟨slot.trans slot', offset.trans offset', type.trans type'⟩

/-- Two entries at one index collide unless they share their storage. -/
theorem countP_ofEntries? (old new : Entry) :
    (Finding.ofEntries? old new).toList.countP Finding.isCollision = 0 ↔
      old.sameStorage new = true := by
  unfold Finding.ofEntries?
  cases old.sameStorage new with
  | false => simp [Finding.isCollision]
  | true => cases old.label != new.label <;> simp [Finding.isCollision]

end Entry

/-- Every finding has lines. -/
theorem Report.lines_eq_nil_iff {report : Report} : report.lines = [] ↔ report.findings = [] := by
  constructor
  · intro none
    refine List.eq_nil_iff_forall_not_mem.2 fun finding member => ?_
    have absent := List.flatMap_eq_nil_iff.1 none finding member
    cases finding <;> cases absent
  · intro none
    rw [Report.lines, none, List.flatMap_nil]

/-- A report of a collision has lines. -/
theorem Report.lines_ne_nil_of_incompatible {report : Report}
    (incompatible : report.compatible = false) : report.lines ≠ [] := by
  intro none
  rw [Report.compatible, Report.collisions, Report.lines_eq_nil_iff.1 none] at incompatible
  cases incompatible

namespace Layout

/-- New entries take over the storage of old ones, and may go on. -/
def TakesOver : (old new : List Entry) → Prop
  | [], _ => True
  | _ :: _, [] => False
  | old :: olds, new :: news => old.sameStorage new = true ∧ TakesOver olds news

theorem takesOver_refl (entries : List Entry) : TakesOver entries entries := by
  induction entries with
  | nil => trivial
  | cons entry rest ih => exact ⟨entry.sameStorage_refl, ih⟩

/-- Taking over can be put together. -/
theorem takesOver_trans {first second third : List Entry} (one : TakesOver first second)
    (two : TakesOver second third) : TakesOver first third := by
  induction first generalizing second third with
  | nil => trivial
  | cons entry rest ih =>
    match second, third, one, two with
    | _ :: _, _ :: _, ⟨same, onward⟩, ⟨same', onward'⟩ =>
      exact ⟨Entry.sameStorage_trans same same', ih onward onward'⟩

/-- There is no collision exactly when the old storage is taken over. -/
theorem countP_findings (old new : List Entry) :
    (findings old new).countP Finding.isCollision = 0 ↔ TakesOver old new := by
  induction old generalizing new with
  | nil =>
    simp [findings, TakesOver, Finding.isCollision]
  | cons entry rest ih =>
    cases new with
    | nil => simp [findings, TakesOver, Finding.isCollision]
    | cons other others =>
      rw [findings, List.countP_append, Nat.add_eq_zero_iff, Entry.countP_ofEntries?, ih, TakesOver]

/-- A report is compatible where the new entries take over the old ones. -/
theorem compatible_iff {old new : Layout} :
    (old.compare new).compatible = true ↔ TakesOver old.entries new.entries := by
  rw [← countP_findings]
  simp [Report.compatible, Report.collisions, compare]

/-- **A layout is compatible with itself.** -/
theorem compatible_refl (layout : Layout) : (layout.compare layout).compatible = true :=
  compatible_iff.2 (takesOver_refl layout.entries)

/-- **Compatibility is transitive.** -/
theorem compatible_trans {first second third : Layout}
    (one : (first.compare second).compatible = true)
    (two : (second.compare third).compatible = true) :
    (first.compare third).compatible = true :=
  compatible_iff.2 (takesOver_trans (compatible_iff.1 one) (compatible_iff.1 two))

end Layout

end UpgradeGate
