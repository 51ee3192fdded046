import Mathlib.Data.List.Forall2
import UpgradeGate.Proofs.Layout.Positions

/-!
# Reports line by line

A report tells of every index of the old layout once, in order, and then of the entries behind the
old ones (`Layout.findings_eq`). What a line starts with shows the kind of its finding
(`Finding.starts_lines`), and no line starts in two of these ways (`Starts.eq_of_mem`). So what is
counted index by index can be counted in the lines (`Layout.count_eq`).
-/

namespace UpgradeGate

/-- A line starts with a mark. -/
def Starts (mark line : String) : Prop := mark.toList <+: line.toList

instance (mark line : String) : Decidable (Starts mark line) :=
  inferInstanceAs (Decidable (mark.toList <+: line.toList))

/-- What a line of a report may start with. -/
def lineMarks : List String := ["- ", "! ", "    old", "    new", "~ ", "+ "]

/-- No line starts with two marks. -/
theorem Starts.eq_of_mem {mark other line : String} (starts : Starts mark line)
    (starts' : Starts other line) (known : mark ∈ lineMarks) (known' : other ∈ lineMarks) :
    mark = other := by
  have apart : ∀ mark ∈ lineMarks, ∀ other ∈ lineMarks,
      mark.toList <+: other.toList → mark = other := by decide
  rcases List.prefix_or_prefix_of_prefix starts starts' with ahead | behind
  · exact apart mark known other known' ahead
  · exact (apart other known' mark known behind).symm

/-- A line starts with one mark. -/
theorem starts_iff_eq {mark other line : String} (starts : Starts other line)
    (known : mark ∈ lineMarks) (known' : other ∈ lineMarks) : Starts mark line ↔ other = mark :=
  ⟨fun starts' => starts.eq_of_mem starts' known' known, fun same => same ▸ starts⟩

/-- The lines that start with a mark can be counted in the marks. -/
theorem countP_starts {mark : String} {marks lines : List String} (known : mark ∈ lineMarks)
    (starts : List.Forall₂ Starts marks lines) (marked : ∀ other ∈ marks, other ∈ lineMarks) :
    lines.countP (fun line => decide (Starts mark line)) = marks.count mark := by
  induction starts with
  | nil => rfl
  | @cons other line marks lines first rest ih =>
    obtain ⟨known', marked⟩ := List.forall_mem_cons.1 marked
    rw [List.countP_cons, List.count_cons, ih marked]
    simp only [starts_iff_eq first known known', decide_eq_true_eq, beq_iff_eq]

namespace Finding

/-- What the lines of a finding start with. -/
def marks : Finding → List String
  | .removed _ => ["- "]
  | .collided _ _ => ["! ", "    old", "    new"]
  | .renamed _ _ => ["~ "]
  | .appended _ => ["+ "]

/-- The lines of a finding start with its marks. -/
theorem starts_lines (finding : Finding) : List.Forall₂ Starts finding.marks finding.lines := by
  cases finding with
  | removed old => simp [marks, lines, Starts]
  | collided old new => simp [marks, lines, Starts]
  | renamed old new => simp [marks, lines, Starts]
  | appended new => simp [marks, lines, Starts]

/-- The marks of a finding are marks of lines. -/
theorem mem_lineMarks (finding : Finding) : ∀ mark ∈ finding.marks, mark ∈ lineMarks := by
  cases finding <;> simp only [marks] <;> decide

/-- A collision shows in one line: that of an old entry that is gone, or the first one about an
entry that has changed. -/
theorem count_marks (finding : Finding) :
    finding.marks.count "- " + finding.marks.count "! " = [finding].countP isCollision := by
  cases finding with
  | removed old => simp [marks, isCollision]
  | collided old new => simp [marks, isCollision]
  | renamed old new => simp [marks, isCollision]
  | appended new => simp [marks, isCollision]

/-- Nothing is found of equal entries. -/
theorem ofEntries?_eq_none_iff {old new : Entry} : ofEntries? old new = none ↔ old = new := by
  obtain ⟨slot, offset, type, label⟩ := old
  obtain ⟨slot', offset', type', label'⟩ := new
  rw [Entry.mk.injEq]
  simp only [ofEntries?, Entry.sameStorage]
  grind

end Finding

/-- How many lines of a report start with a mark. -/
def Report.count (report : Report) (mark : String) : Nat :=
  report.lines.countP fun line => decide (Starts mark line)

namespace Layout

/-- An old entry, and the new one at its index where there is one. -/
abbrev Facing := Entry × Option Entry

/-- For every index of the old entries, in order, what stands there before and after. -/
def facing (old new : List Entry) : List Facing :=
  old.mapIdx fun index entry => (entry, new[index]?)

namespace Facing

/-- The new entry is there and has the slot, the offset and the type of the old one. -/
def Kept (facing : Facing) : Prop := facing.2.map Entry.storage = some facing.1.storage

instance (facing : Facing) : Decidable facing.Kept :=
  inferInstanceAs (Decidable (facing.2.map Entry.storage = some facing.1.storage))

/-- The findings about one index. -/
def findings : Facing → List Finding
  | (old, none) => [.removed old]
  | (old, some new) => (Finding.ofEntries? old new).toList

/-- What the lines about one index start with. -/
def marks : Facing → List String
  | (_, none) => ["- "]
  | (old, some new) =>
    if old.slot ≠ new.slot ∨ old.offset ≠ new.offset ∨ old.type ≠ new.type then
      ["! ", "    old", "    new"]
    else if old.label ≠ new.label then ["~ "]
    else []

/-- An entry is kept by one that shares its storage. -/
theorem kept_iff {old new : Entry} : Kept (old, some new) ↔ old.sameStorage new = true := by
  rw [Entry.sameStorage_iff_storage_eq, Kept, Option.map_some, Option.some_inj, eq_comm]

/-- The findings of a pair have the marks of the pair. -/
theorem flatMap_marks (facing : Facing) : facing.findings.flatMap Finding.marks = facing.marks := by
  obtain ⟨old, _ | new⟩ := facing
  · rfl
  · rw [findings, Finding.ofEntries?, marks]
    by_cases same : old.sameStorage new = true
    · by_cases named : old.label = new.label
      · simp [same, named, Entry.sameStorage_iff.1 same]
      · simp [same, named, Entry.sameStorage_iff.1 same, Finding.marks]
    · have differ := mt Entry.sameStorage_iff.2 same
      rw [not_and_or, not_and_or] at differ
      rw [if_pos (by simpa using same), if_pos differ]
      rfl

/-- A pair collides unless the entry is kept. -/
theorem countP_findings (facing : Facing) :
    facing.findings.countP Finding.isCollision = if facing.Kept then 0 else 1 := by
  obtain ⟨old, _ | new⟩ := facing
  · rfl
  · rw [findings, Finding.ofEntries?]
    simp only [kept_iff]
    by_cases same : old.sameStorage new = true
    · by_cases named : old.label = new.label
      · simp [same, named]
      · simp [same, named, Finding.isCollision]
    · simp [same, Finding.isCollision]

end Facing

/-- Without new entries, all old ones are removed. -/
theorem findings_nil_right (old : List Entry) : findings old [] = old.map .removed := by
  cases old <;> rfl

/-- **The findings go from index to index.** -/
theorem findings_eq (old new : List Entry) :
    findings old new =
      (facing old new).flatMap Facing.findings ++ (new.drop old.length).map .appended := by
  induction old generalizing new with
  | nil => simp [findings, facing]
  | cons entry rest ih =>
    cases new with
    | nil =>
      have onward := ih []
      rw [findings_nil_right] at onward
      simpa [findings, facing, Facing.findings] using onward
    | cons other others => simp [findings, facing, Facing.findings, ih]

/-- Nothing is found of equal layouts, and of no others. -/
theorem findings_eq_nil_iff {old new : List Entry} : findings old new = [] ↔ old = new := by
  induction old generalizing new with
  | nil => simp [findings, eq_comm]
  | cons entry rest ih =>
    cases new with
    | nil => simp [findings]
    | cons other others => simp [findings, Finding.ofEntries?_eq_none_iff, ih]

/-- What the lines of a report start with: first those about the indices of the old entries, then
one for each further entry. -/
def marks (old new : List Entry) : List String :=
  (facing old new).flatMap Facing.marks ++ List.replicate (new.length - old.length) "+ "

theorem flatMap_marks (old new : List Entry) :
    (findings old new).flatMap Finding.marks = marks old new := by
  rw [findings_eq, marks, List.flatMap_append, List.flatMap_assoc, ← List.length_drop]
  simp only [Facing.flatMap_marks]
  congr 1
  induction new.drop old.length with
  | nil => rfl
  | cons entry rest ih =>
    rw [List.map_cons, List.flatMap_cons, ih, List.length_cons, List.replicate_succ]
    rfl

/-- An old entry has no mark of an appended one. -/
theorem appended_not_mem (facing : Facing) : "+ " ∉ facing.marks := by
  obtain ⟨old, _ | new⟩ := facing
  · simp [Facing.marks]
  · simp only [Facing.marks]
    split_ifs <;> decide

/-- As many entries are appended as there are more new ones. -/
theorem count_appended (old new : List Entry) :
    (marks old new).count "+ " = new.length - old.length := by
  have none_about : "+ " ∉ (facing old new).flatMap Facing.marks := fun member =>
    have ⟨facing, _, inside⟩ := List.mem_flatMap.1 member
    appended_not_mem facing inside
  rw [marks, List.count_append, List.count_eq_zero.2 none_about, List.count_replicate_self,
    Nat.zero_add]

/-- Collisions are counted by the marks of removed and of changed entries. -/
theorem countP_findings_eq_count (old new : List Entry) :
    (findings old new).countP Finding.isCollision =
      (marks old new).count "- " + (marks old new).count "! " := by
  rw [← flatMap_marks]
  induction findings old new with
  | nil => rfl
  | cons finding rest ih =>
    rw [← List.singleton_append, List.countP_append, ← Finding.count_marks, ih, List.flatMap_append,
      List.count_append, List.count_append, List.flatMap_singleton]
    omega

/-- Collisions are counted by the pairs that are not kept. -/
theorem countP_findings_eq_countP (old new : List Entry) :
    (findings old new).countP Finding.isCollision =
      (facing old new).countP fun facing => decide (¬ facing.Kept) := by
  have harmless : ((new.drop old.length).map Finding.appended).countP Finding.isCollision = 0 := by
    refine List.countP_eq_zero.2 fun finding member => ?_
    obtain ⟨added, -, rfl⟩ := List.mem_map.1 member
    exact Bool.false_ne_true
  rw [findings_eq, List.countP_append, harmless, Nat.add_zero]
  induction facing old new with
  | nil => rfl
  | cons first rest ih =>
    rw [List.flatMap_cons, List.countP_append, ih, Facing.countP_findings, List.countP_cons,
      Nat.add_comm]
    by_cases kept : first.Kept <;> simp [kept]

variable (old new : Layout)

/-- The lines of a report start with its marks. -/
theorem starts_lines :
    List.Forall₂ Starts (marks old.entries new.entries) (old.compare new).lines := by
  rw [← flatMap_marks]
  refine List.rel_flatMap (R := Eq) (P := Starts) (List.forall₂_refl _) ?_
  rintro finding _ rfl
  exact finding.starts_lines

/-- Lines are counted by their marks. -/
theorem count_eq {mark : String} (known : mark ∈ lineMarks) :
    (old.compare new).count mark = (marks old.entries new.entries).count mark := by
  refine countP_starts known (starts_lines old new) fun other member => ?_
  rw [← flatMap_marks] at member
  obtain ⟨finding, -, inside⟩ := List.mem_flatMap.1 member
  exact finding.mem_lineMarks other inside

/-- There is no collision where the old storage is a first part of the new one. -/
theorem collisions_eq_zero_iff : (old.compare new).collisions = 0 ↔
    old.entries.map Entry.storage <+: new.entries.map Entry.storage :=
  (countP_findings _ _).trans takesOver_iff_prefix

/-- **A report tells of every index once.** Its lines are, in order, those about each index of the
old layout and then one for each further entry of the new one. There are as many collisions as
indices at which the new layout does not have the old slot, offset and type, and each shows in one
line. The layouts are compatible exactly when there is none, which is when the new layout begins
with the old storage. The report is empty exactly when the entries are the same, with their labels.
-/
theorem report_by_index :
    List.Forall₂ Starts (marks old.entries new.entries) (old.compare new).lines ∧
    (old.compare new).collisions =
      ((facing old.entries new.entries).countP fun facing => decide (¬ facing.Kept)) ∧
    (old.compare new).collisions = (old.compare new).count "- " + (old.compare new).count "! " ∧
    ((old.compare new).compatible = true ↔ (old.compare new).collisions = 0) ∧
    ((old.compare new).collisions = 0 ↔
      old.entries.map Entry.storage <+: new.entries.map Entry.storage) ∧
    (old.compare new).count "+ " = new.size - old.size ∧
    ((old.compare new).lines = [] ↔ old.entries = new.entries) := by
  have known : ∀ mark ∈ ["- ", "! ", "+ "], mark ∈ lineMarks := by decide
  refine ⟨starts_lines old new, countP_findings_eq_countP _ _, ?_, ?_,
    collisions_eq_zero_iff old new, ?_, Report.lines_eq_nil_iff.trans findings_eq_nil_iff⟩
  · rw [count_eq old new (known _ (by decide)), count_eq old new (known _ (by decide))]
    exact countP_findings_eq_count _ _
  · rw [Report.compatible, beq_iff_eq]
  · rw [count_eq old new (known _ (by decide))]
    exact count_appended _ _

example : marks packed.entries wedged.entries = ["! ", "    old", "    new", "+ "] := by decide

end Layout

end UpgradeGate
