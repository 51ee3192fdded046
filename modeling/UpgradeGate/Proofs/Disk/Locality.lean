import UpgradeGate.Proofs.Disk.Names
import UpgradeGate.Proofs.Disk.Tasks

/-!
# What tasks on the disk depend on

A task stays in some places if it does to a disk what it does where nothing else is, and leaves all
else as it is (`DiskTask.StaysIn`): what stands elsewhere is neither changed nor even looked at. A
task on a path stays on the way of the path, from the working folder to its target
(`Path.OnWay`).

Such properties go by the parts of a task (`DiskTask.ByParts`), so one lemma for each task tells
that it stays on the way of its paths and that it never refuses a value.
-/

namespace UpgradeGate

/-- A place is on the way of a path: a path in front of it leads there. -/
def Path.OnWay (path : Path) (place : Place) : Prop :=
  ∃ front, front <+: path ∧ place = Path.target [] front

/-- The target of a path is on its way. -/
theorem Path.onWay_target (path : Path) : path.OnWay (Path.target [] path) :=
  ⟨path, List.prefix_rfl, rfl⟩

/-- What is on the way of a path is on the way of a longer one. -/
theorem Path.OnWay.append {path : Path} {place : Place} (onWay : path.OnWay place) (tail : Path) :
    (path ++ tail).OnWay place := by
  obtain ⟨front, inFront, rfl⟩ := onWay
  exact ⟨front, inFront.trans (List.prefix_append path tail), rfl⟩

/-- What is on the way of a longer path is on the way of the shorter one, or behind it. -/
theorem Path.onWay_append_iff {path tail : Path} {place : Place} :
    (path ++ tail).OnWay place ↔
      path.OnWay place ∨ ∃ front, front <+: tail ∧ place = Path.target [] (path ++ front) := by
  constructor
  · rintro ⟨front, ⟨rest, split⟩, rfl⟩
    rcases List.append_eq_append_iff.1 split with ⟨more, rfl, -⟩ | ⟨more, rfl, rfl⟩
    · exact .inl ⟨front, List.prefix_append front more, rfl⟩
    · exact .inr ⟨more, List.prefix_append more rest, rfl⟩
  · rintro (early | ⟨front, late, rfl⟩)
    · exact early.append tail
    · exact ⟨path ++ front, (List.prefix_append_right_inj path).2 late, rfl⟩

/-- What is put at a key that is kept is kept, and what is put at another is not seen. -/
theorem Table.filter_put {κ ν : Type} [BEq κ] [LawfulBEq κ] (keep : κ → Bool) (key : κ) (value : ν)
    (table : List (κ × ν)) :
    (put key value table).filter (fun found => keep found.1) =
      if keep key then put key value (table.filter fun found => keep found.1)
      else table.filter fun found => keep found.1 := by
  induction table with
  | nil => cases kept : keep key <;> simp [put, kept]
  | cons first rest ih =>
    obtain ⟨found, old⟩ := first
    cases same : found == key with
    | true =>
      cases eq_of_beq same
      cases kept : keep key <;> simp [put, kept]
    | false =>
      cases here : keep found <;> cases kept : keep key <;> simp [put, same, here, ih, kept]

namespace Disk

variable {inside : Place → Prop} {disk : Disk} {place : Place}

open Classical in
/-- What a disk has at some places. -/
noncomputable def restrict (inside : Place → Prop) (disk : Disk) : Disk :=
  ⟨disk.nodes.filter fun found => decide (inside found.1)⟩

/-- Inside, the restricted disk holds what the disk holds. -/
theorem node?_restrict (within : inside place) :
    (disk.restrict inside).node? place = disk.node? place := by
  rw [node?, node?]
  split
  · rfl
  · unfold restrict
    dsimp only
    induction disk.nodes with
    | nil => rfl
    | cons first rest ih =>
      obtain ⟨found, node⟩ := first
      by_cases here : inside found
      · rw [List.filter_cons_of_pos (by simpa using here), List.lookup_cons, List.lookup_cons, ih]
      · have differ : (place == found) = false := by
          refine beq_false_of_ne ?_
          rintro rfl
          exact here within
        rw [List.filter_cons_of_neg (by simpa using here), List.lookup_cons, differ, ih]

open Classical in
/-- Putting something, seen through a restriction. -/
theorem restrict_put_eq (inside : Place → Prop) (disk : Disk) (place : Place) (node : Node) :
    (disk.put place node).restrict inside =
      if inside place then (disk.restrict inside).put place node else disk.restrict inside := by
  have filtered := Table.filter_put (fun place => decide (inside place)) place node disk.nodes
  unfold put restrict
  dsimp only at filtered ⊢
  rw [filtered]
  by_cases within : inside place
  · rw [if_pos within, if_pos (decide_eq_true within)]
  · rw [if_neg within, if_neg (by simpa using within)]

/-- Putting something inside goes along with a restriction. -/
theorem restrict_put (node : Node) (within : inside place) :
    (disk.put place node).restrict inside = (disk.restrict inside).put place node := by
  rw [restrict_put_eq, if_pos within]

/-- Putting a node at a place changes nothing elsewhere. -/
theorem restrict_put_of_not (node : Node) (outside : ¬ inside place) :
    (disk.put place node).restrict inside = disk.restrict inside := by
  rw [restrict_put_eq, if_neg outside]

/-- Dropping something goes along with a restriction. -/
theorem restrict_drop (inside : Place → Prop) (disk : Disk) (place : Place) :
    (disk.drop place).restrict inside = (disk.restrict inside).drop place := by
  unfold drop restrict
  dsimp only
  rw [List.filter_filter, List.filter_filter]
  simp only [Bool.and_comm]

/-- Taking away what stands at a place changes nothing elsewhere. -/
theorem restrict_drop_of_not (outside : ¬ inside place) :
    (disk.drop place).restrict inside = disk.restrict inside := by
  unfold drop restrict
  dsimp only
  rw [List.filter_filter]
  congr 1
  refine List.filter_congr fun found _ => ?_
  by_cases same : found.1 = place
  · simp [same, outside]
  · simp [same]

/-- A folder with all its places inside has the same names. -/
theorem names_restrict (within : ∀ name, inside (place ++ [name])) :
    (disk.restrict inside).names place = disk.names place := by
  unfold names restrict
  dsimp only
  rw [List.filterMap_filter]
  refine List.filterMap_congr fun listed _ => ?_
  obtain ⟨found, node⟩ := listed
  dsimp only
  by_cases here : inside found
  · rw [if_pos (by simpa using here)]
  · rw [if_neg (by simpa using here), eq_comm]
    split
    · next front =>
      rw [List.getLast?_eq_none_iff]
      by_contra filled
      rw [← List.dropLast_append_getLast filled, front] at here
      exact here (within _)
    · rfl

/-- A path is followed by what stands on its way. -/
theorem follow_restrict {start : Place} {path : Path}
    (within : ∀ front, front <+: path → inside (Path.target start front)) :
    (disk.restrict inside).follow start path = disk.follow start path := by
  induction path generalizing start with
  | nil => rfl
  | cons step rest ih =>
    have onward {next : Place} (stepped : next = Path.target start [step]) :
        (disk.restrict inside).follow next rest = disk.follow next rest := by
      refine ih fun front inFront => ?_
      have later := within (step :: front) ((List.prefix_cons_inj step).2 inFront)
      rwa [← List.singleton_append, Path.target_append, ← stepped] at later
    have here : inside start := within [] List.nil_prefix
    rw [follow, follow, node?_restrict here]
    split
    · rfl
    · split
      · rfl
      · split
        · next up => exact onward (by simp [Path.target, up])
        · next down => exact onward (by simp [Path.target, down])
    · rfl

/-- A path whose way is inside is followed alike. -/
theorem follow_restrict_root {path : Path} (within : ∀ place, path.OnWay place → inside place) :
    (disk.restrict inside).follow [] path = disk.follow [] path :=
  follow_restrict fun front inFront => within _ ⟨front, inFront, rfl⟩

/-- What is seen at the end of a path whose way is inside. -/
theorem look_restrict {path : Path} (within : ∀ place, path.OnWay place → inside place) :
    (disk.restrict inside).look path = disk.look path := by
  rw [look, look, follow_restrict_root within]
  cases followed : disk.follow [] path with
  | ok place =>
    dsimp only
    rw [follow_eq_target followed, node?_restrict (within _ path.onWay_target)]
  | error kind => cases kind <;> rfl

end Disk

namespace DiskTask

variable {α β : Type} {inside : Place → Prop}

/-- **A task stays in some places**: it does to a disk what it does where nothing else is, and
leaves all else as it is. -/
structure StaysIn (inside : Place → Prop) (α : Type) (task : DiskTask α) : Prop where
  within : ∀ disk : Disk, task.run.run (disk.restrict inside) =
    ((task.run.run disk).1, (task.run.run disk).2.restrict inside)
  outside : ∀ disk : Disk, (task.run.run disk).2.restrict (fun place => ¬ inside place) =
    disk.restrict fun place => ¬ inside place

/-- A task refuses no value that it is given. -/
def NeverRefuses (α : Type) (task : DiskTask α) : Prop :=
  ∀ disk fault, (task.run.run disk).1 ≠ .error (.value fault)

/-- **A property goes by the parts** of tasks that stay in some places and refuse no values. -/
structure ByParts (inside : Place → Prop) (P : (α : Type) → DiskTask α → Prop) : Prop where
  pure : ∀ {α : Type} (value : α), P α (pure value)
  throw : ∀ {α : Type} {failure : Failure}, (∀ fault, failure ≠ .value fault) → P α (throw failure)
  bind : ∀ {α β : Type} {task : DiskTask α} {next : α → DiskTask β},
    P α task → (∀ value, P β (next value)) → P β (task >>= next)
  view : ∀ {α β : Type} {f : Disk → Except Kind α} {next : α → DiskTask β},
    (∀ disk, f (disk.restrict inside) = f disk) →
    (∀ disk value, f disk = .ok value → P β (next value)) → P β (view f >>= next)
  look : ∀ {α : Type} {next : Disk → DiskTask α},
    (∀ disk, next (disk.restrict inside) = next disk) → (∀ disk, P α (next disk)) →
    P α (get >>= next)
  change : ∀ {f : Disk → Disk}, (∀ disk, f (disk.restrict inside) = (f disk).restrict inside) →
    (∀ disk, (f disk).restrict (fun place => ¬ inside place) =
      disk.restrict fun place => ¬ inside place) → P Unit (modify f)

/-- Staying inside goes by the parts of a task. -/
theorem byParts_staysIn (inside : Place → Prop) : ByParts inside (StaysIn inside) where
  pure _ := ⟨fun _ => rfl, fun _ => rfl⟩
  throw _ := ⟨fun _ => rfl, fun _ => rfl⟩
  bind := by
    intro α β task next first second
    refine ⟨fun disk => ?_, fun disk => ?_⟩
    · rw [run_bind, run_bind, first.within]
      rcases task.run.run disk with ⟨failure | value, middle⟩
      · rfl
      · exact (second value).within middle
    · rw [run_bind]
      have kept := first.outside disk
      rcases ended : task.run.run disk with ⟨failure | value, middle⟩
      · rwa [ended] at kept
      · rw [ended] at kept
        exact ((second value).outside middle).trans kept
  view := by
    intro α β f next seen second
    refine ⟨fun disk => ?_, fun disk => ?_⟩
    · rw [run_bind, run_bind, run_view, run_view, seen]
      cases found : f disk with
      | ok value => exact (second disk value found).within disk
      | error kind => rfl
    · rw [run_bind, run_view]
      cases found : f disk with
      | ok value => exact (second disk value found).outside disk
      | error kind => rfl
  look := by
    intro α next seen second
    refine ⟨fun disk => ?_, fun disk => ?_⟩
    · rw [run_bind, run_bind, run_get, run_get]
      dsimp only
      rw [seen]
      exact (second _).within disk
    · rw [run_bind, run_get]
      exact (second _).outside disk
  change inner outer := ⟨fun disk => congrArg (Prod.mk _) (inner disk), outer⟩

/-- Never refusing goes by the parts of a task. -/
theorem byParts_neverRefuses (inside : Place → Prop) : ByParts inside NeverRefuses where
  pure _ := fun _ _ => nofun
  throw other := fun _ fault same => other fault (Except.error.inj same)
  bind := by
    intro α β task next first second disk fault
    rw [run_bind]
    have kept := first disk fault
    rcases ended : task.run.run disk with ⟨failure | value, middle⟩
    · intro same
      rw [ended] at kept
      exact kept (congrArg Except.error (Except.error.inj same))
    · exact second value middle fault
  view := by
    intro α β f next _ second disk fault
    rw [run_bind, run_view]
    cases found : f disk with
    | ok value => exact second disk value found disk fault
    | error kind => nofun
  look := by
    intro α next _ second disk fault
    rw [run_bind, run_get]
    exact second disk disk fault
  change _ _ := fun _ _ => nofun

namespace ByParts

variable {P : (α : Type) → DiskTask α → Prop} (parts : ByParts inside P)
  {path : Path} {place : Place} {node : Node}
include parts

theorem fail (kind : Kind) : P α (fail kind) := parts.throw nofun

theorem map {task : DiskTask α} (f : α → β) (first : P α task) : P β (f <$> task) := by
  rw [← bind_pure_comp]
  exact parts.bind first fun _ => parts.pure _

theorem put (node : Node) (within : inside place) : P Unit (modify (·.put place node)) :=
  parts.change (fun _ => (Disk.restrict_put node within).symm) fun _ =>
    Disk.restrict_put_of_not node fun outside => outside within

theorem drop (within : inside place) : P Unit (modify (·.drop place)) :=
  parts.change (fun _ => (Disk.restrict_drop ..).symm) fun _ =>
    Disk.restrict_drop_of_not fun outside => outside within

/-- Where a path leads is seen on its way, and is its target. -/
theorem follow {next : Place → DiskTask α} (within : ∀ place, path.OnWay place → inside place)
    (onward : P α (next (Path.target [] path))) :
    P α (DiskTask.view (·.follow [] path) >>= next) := by
  refine parts.view (fun disk => Disk.follow_restrict_root within) fun disk place followed => ?_
  rw [Disk.follow_eq_target followed]
  exact onward

/-! ## Tasks -/

section Tasks

variable (within : ∀ place, path.OnWay place → inside place)
include within

theorem exists? : P Bool (exists? path) :=
  parts.view (fun _ => Disk.look_restrict within) fun _ _ _ => parts.pure _

theorem readText : P String (readText path) := by
  have here := within _ path.onWay_target
  refine parts.bind (parts.follow within ?_) fun content => ?_
  · refine parts.look (fun disk => ?_) fun disk => ?_
    · rw [Disk.node?_restrict here]
    · split
      · exact parts.pure _
      · exact parts.fail _
      · exact parts.fail _
      · exact parts.fail _
  · split
    · exact parts.pure _
    · exact parts.throw nofun

theorem write (content : ByteArray) : P Unit (write path content) := by
  have here := within _ path.onWay_target
  refine parts.follow within (parts.look (fun disk => ?_) fun disk => ?_)
  · rw [Disk.node?_restrict here]
  · split
    · exact parts.fail _
    · exact parts.put _ here

theorem remove : P Unit (remove path) := by
  have here := within _ path.onWay_target
  refine parts.follow within (parts.look (fun disk => ?_) fun disk => ?_)
  · rw [Disk.node?_restrict here]
  · split
    · exact parts.fail _
    · exact parts.fail _
    · exact parts.drop here

/-- Moving a file to another place inside. -/
theorem rename {target : Path} (onto : ∀ place, target.OnWay place → inside place) :
    P Unit (rename path target) := by
  have here := within _ path.onWay_target
  have there := onto _ target.onWay_target
  refine parts.follow within (parts.follow onto ?_)
  refine parts.look (fun disk => ?_) fun disk => parts.look (fun other => ?_) fun other => ?_
  · rw [Disk.node?_restrict here]
  · rw [Disk.node?_restrict there]
  · split
    · exact parts.fail _
    · exact parts.fail _
    · refine parts.change (fun disk => ?_) fun disk => ?_
      · rw [Disk.restrict_put _ there, Disk.restrict_drop]
      · rw [Disk.restrict_put_of_not _ fun outside => outside there,
          Disk.restrict_drop_of_not fun outside => outside here]

end Tasks

/-- Making folders from a place on. -/
theorem makeFoldersFrom {start : Place}
    (within : ∀ front, front <+: path → inside (Path.target start front)) :
    P Unit (makeFoldersFrom start path) := by
  induction path generalizing start with
  | nil => exact parts.pure _
  | cons step rest ih =>
    have onward (front : Path) (inFront : front <+: rest) :
        inside (Path.target (Path.target start [step]) front) := by
      have later := within (step :: front) ((List.prefix_cons_inj step).2 inFront)
      rwa [← List.singleton_append, Path.target_append] at later
    have next : inside (Path.target start [step]) := onward [] List.nil_prefix
    refine parts.view (fun disk => Disk.follow_restrict fun front inFront => ?_)
      fun disk place followed => ?_
    · exact within front (inFront.trans (List.prefix_append [step] rest))
    · rw [Disk.follow_eq_target followed]
      refine parts.look (fun disk => ?_) fun disk => ?_
      · rw [Disk.node?_restrict next]
      · split
        · exact ih onward
        · exact parts.fail _
        · exact parts.bind (parts.put _ next) fun _ => ih onward

/-- Making the folders of a path. -/
theorem makeFolders (within : ∀ place, path.OnWay place → inside place) :
    P Unit (makeFolders path) :=
  parts.makeFoldersFrom fun front inFront => within _ ⟨front, inFront, rfl⟩

end ByParts

end DiskTask

end UpgradeGate
