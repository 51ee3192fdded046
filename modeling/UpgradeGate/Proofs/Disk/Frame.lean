import UpgradeGate.Disk.Basic

/-!
# What work on the disk leaves alone

A path has one target, whatever stands on the way (`Path.target`): where it can be followed, that is
where it leads (`Disk.follow_eq_target`).

Work on the disk that stays within some places keeps all folders, makes folders at most where
nothing stands, and leaves every file and log elsewhere as it is (`Disk.Keeps`). A path that could
be followed can then still be followed (`Disk.Keeps.follow`).
-/

namespace UpgradeGate

/-- The place that a path leads to from a place, whatever stands on the way. -/
def Path.target : (start : Place) → Path → Place
  | start, [] => start
  | start, step :: rest =>
    if step = ".." then Path.target start.dropLast rest else Path.target (start ++ [step]) rest

/-- A path in two parts leads where its second part leads from the first. -/
theorem Path.target_append (start : Place) (path tail : Path) :
    Path.target start (path ++ tail) = Path.target (Path.target start path) tail := by
  induction path generalizing start with
  | nil => rfl
  | cons step rest ih =>
    simp only [List.cons_append, Path.target]
    split <;> exact ih _

/-- A path that never goes up leads down its own names. -/
theorem Path.target_of_down {path : Path} (down : ∀ step ∈ path, step ≠ "..") (start : Place) :
    Path.target start path = start ++ path := by
  induction path generalizing start with
  | nil => simp [Path.target]
  | cons step rest ih =>
    have first : step ≠ ".." := down step (List.mem_cons_self ..)
    rw [Path.target, if_neg first,
      ih fun other member => down other (List.mem_cons_of_mem _ member),
      List.append_assoc, List.singleton_append]

namespace Disk

variable {disk before middle after : Disk}

/-! ## Following paths -/

@[simp] theorem node?_root (disk : Disk) : disk.node? [] = some .folder := rfl

/-- A first step can be taken from a folder, if its name is not too long. -/
theorem follow_cons_eq_ok {start place : Place} {step : String} {rest : Path} :
    disk.follow start (step :: rest) = .ok place ↔
      disk.node? start = some .folder ∧ step.utf8ByteSize ≤ longestName ∧
        disk.follow (Path.target start [step]) rest = .ok place := by
  rw [follow]
  cases node : disk.node? start with
  | none => simp
  | some found =>
    cases found with
    | folder =>
      simp only [Path.target, true_and]
      split
      · next long => simp [Nat.not_le.2 long]
      · next short =>
        simp only [Nat.not_lt.1 short, true_and]
        split <;> rfl
    | file => simp
    | database => simp

/-- A path that can be followed leads to its target. -/
theorem follow_eq_target {start place : Place} {path : Path}
    (followed : disk.follow start path = .ok place) : place = Path.target start path := by
  induction path generalizing start with
  | nil =>
    cases followed
    rfl
  | cons step rest ih =>
    obtain ⟨-, -, onward⟩ := follow_cons_eq_ok.1 followed
    rw [ih onward, ← Path.target_append, List.singleton_append]

/-- A path in two parts is followed one part after the other. -/
theorem follow_append (start : Place) (path tail : Path) :
    disk.follow start (path ++ tail) =
      (disk.follow start path).bind fun place => disk.follow place tail := by
  induction path generalizing start with
  | nil => rfl
  | cons step rest ih =>
    simp only [List.cons_append, follow]
    cases disk.node? start with
    | none => rfl
    | some found =>
      cases found with
      | folder =>
        dsimp only
        split
        · rfl
        · split <;> exact ih _
      | file => rfl
      | database => rfl

/-- A path can be followed by one more step exactly when it leads to a folder and the step is not
too long. -/
theorem follow_concat_eq_ok {start place : Place} {path : Path} {step : String} :
    disk.follow start (path ++ [step]) = .ok place ↔
      ∃ folder, disk.follow start path = .ok folder ∧ disk.node? folder = some .folder ∧
        step.utf8ByteSize ≤ longestName ∧ place = Path.target folder [step] := by
  rw [follow_append]
  cases followed : disk.follow start path with
  | error kind => simp [Except.bind]
  | ok folder =>
    constructor
    · intro onward
      obtain ⟨node, short, last⟩ := follow_cons_eq_ok.1 onward
      cases last
      exact ⟨folder, rfl, node, short, rfl⟩
    · intro given
      obtain ⟨_, ⟨⟩, node, short, rfl⟩ := given
      exact follow_cons_eq_ok.2 ⟨node, short, rfl⟩

/-- From a folder, a path can be followed by a step that is not too long. -/
theorem follow_concat_of_folder {folder : Place} {path : Path} {step : String}
    (followed : disk.follow [] path = .ok folder) (found : disk.node? folder = some .folder)
    (short : step.utf8ByteSize ≤ longestName) :
    disk.follow [] (path ++ [step]) = .ok (Path.target [] (path ++ [step])) := by
  have reached := follow_concat_eq_ok.2 ⟨folder, followed, found, short, rfl⟩
  rw [reached, follow_eq_target reached]

/-- A step that is too long cannot be taken. -/
theorem follow_cons_of_long {start : Place} {step : String} (rest : Path)
    (found : disk.node? start = some .folder) (long : longestName < step.utf8ByteSize) :
    disk.follow start (step :: rest) = .error .fileName := by
  simp [follow, found, long]

/-- From a folder that is there, a path goes no further than to where nothing stands. -/
theorem follow_of_missing {place : Place} {path rest : Path} {step : String}
    (followed : disk.follow [] path = .ok place) (absent : disk.node? place = none) :
    disk.follow [] (path ++ step :: rest) = .error .fileMissing := by
  rw [follow_append, followed]
  simp [Except.bind, follow, absent]

/-- Names fail only where one is too long. -/
theorem exists_long_of_follow {start : Place} {path : Path}
    (failed : disk.follow start path = .error .fileName) :
    ∃ step ∈ path, longestName < step.utf8ByteSize := by
  induction path generalizing start with
  | nil => cases failed
  | cons step rest ih =>
    rw [follow] at failed
    split at failed
    · cases failed
    · split at failed
      · next long => exact ⟨step, List.mem_cons_self .., long⟩
      · split at failed <;>
        · obtain ⟨other, member, long⟩ := ih failed
          exact ⟨other, List.mem_cons_of_mem _ member, long⟩
    · cases failed

/-- What is seen at the end of a path. -/
theorem look_of_follow {path : Path} {place : Place}
    (followed : disk.follow [] path = .ok place) : disk.look path = .ok (disk.node? place) := by
  simp [look, followed]

/-- Where a path cannot be followed, nothing is seen, unless a name is too long. -/
theorem look_of_error {path : Path} {kind : Kind} (failed : disk.follow [] path = .error kind) :
    disk.look path = if kind = .fileName then .error .fileName else .ok none := by
  cases kind <;> simp [look, failed]

/-! ## Putting and dropping -/

/-- Dropping what is at one place leaves the others as they are. -/
theorem node?_drop_of_ne (disk : Disk) {place other : Place} (differ : other ≠ place) :
    (disk.drop place).node? other = disk.node? other := by
  simp only [node?, drop]
  split
  · rfl
  · induction disk.nodes with
    | nil => rfl
    | cons first rest ih =>
      obtain ⟨found, node⟩ := first
      by_cases same : found = place
      · subst same
        have unequal : (other == found) = false := beq_false_of_ne differ
        simp [List.lookup_cons, unequal, ih]
      · by_cases hit : other = found
        · subst hit
          simp [same]
        · have unequal : (other == found) = false := beq_false_of_ne hit
          simp [same, List.lookup_cons, unequal, ih]

/-- Nothing is left at a place from which it was dropped. -/
theorem node?_drop_self (disk : Disk) {place : Place} (inside : place ≠ []) :
    (disk.drop place).node? place = none := by
  simp only [node?, drop, if_neg inside]
  induction disk.nodes with
  | nil => rfl
  | cons first rest ih =>
    obtain ⟨found, node⟩ := first
    by_cases same : found = place
    · simp [same, ih]
    · have unequal : (place == found) = false := beq_false_of_ne (Ne.symm same)
      simp [same, List.lookup_cons, unequal, ih]

/-- What is there after something was dropped was there before. -/
theorem node?_of_drop {place other : Place} {node : Node}
    (found : (disk.drop place).node? other = some node) : disk.node? other = some node := by
  by_cases same : other = place
  · subst same
    by_cases root : other = []
    · rw [root, node?_root] at found ⊢
      exact found
    · rw [node?_drop_self disk root] at found
      cases found
  · rwa [node?_drop_of_ne disk same] at found

/-- Putting something else than a folder makes no folder. -/
theorem folder_of_put {place other : Place} {node : Node}
    (folder : (disk.put place node).node? other = some .folder) (solid : node ≠ .folder) :
    disk.node? other = some .folder := by
  by_cases same : other = place
  · subst same
    by_cases root : other = []
    · rw [root, node?_root]
    · rw [node?_put_self disk node root] at folder
      exact absurd (Option.some.inj folder) solid
  · rwa [node?_put_of_ne disk node same] at folder

/-! ## Frames -/

/-- What stands at a place, apart from folders. -/
def held? (disk : Disk) (place : Place) : Option Node :=
  match disk.node? place with
  | some .folder => none
  | other => other

/-- What a place holds: a node that is no folder. -/
theorem held?_eq_some_iff {place : Place} {node : Node} :
    disk.held? place = some node ↔ disk.node? place = some node ∧ node ≠ .folder := by
  unfold held?
  split
  · next found =>
    simp only [reduceCtorEq, found, Option.some.injEq, false_iff, not_and]
    exact fun same differ => differ same.symm
  · next other =>
    constructor
    · intro found
      refine ⟨found, ?_⟩
      rintro rfl
      exact other found
    · exact And.left

/-- A file or a log stands at a place. -/
def Stands (disk : Disk) (place : Place) : Prop :=
  ∃ node, disk.node? place = some node ∧ node ≠ .folder

/-- The bytes of the file at a place. -/
def file? (disk : Disk) (place : Place) : Option ByteArray :=
  match disk.held? place with
  | some (.file content) => some content
  | _ => none

/-- The bytes of a file, where there is one. -/
theorem file?_eq_some_iff {place : Place} {content : ByteArray} :
    disk.file? place = some content ↔ disk.node? place = some (.file content) := by
  unfold file?
  constructor
  · intro found
    split at found
    · next held =>
      cases found
      exact (held?_eq_some_iff.1 held).1
    · cases found
  · intro found
    rw [held?_eq_some_iff.2 ⟨found, nofun⟩]

/-- All folders are kept, and outside the places that are touched every file and log is as it
was. -/
structure Keeps (touched : Place → Prop) (before after : Disk) : Prop where
  folder : ∀ place, before.node? place = some .folder → after.node? place = some .folder
  held : ∀ place, ¬ touched place → after.held? place = before.held? place

namespace Keeps

variable {touched more : Place → Prop}

theorem refl (touched : Place → Prop) (disk : Disk) : Keeps touched disk disk :=
  ⟨fun _ folder => folder, fun _ _ => rfl⟩

theorem trans (first : Keeps touched before middle) (second : Keeps touched middle after) :
    Keeps touched before after where
  folder place folder := second.folder place (first.folder place folder)
  held place apart := (second.held place apart).trans (first.held place apart)

/-- What is kept outside some places is kept outside more of them. -/
theorem mono (keeps : Keeps touched before after) (within : ∀ place, touched place → more place) :
    Keeps more before after where
  folder := keeps.folder
  held place apart := keeps.held place fun inside => apart (within place inside)

/-- A path that could be followed can still be followed. -/
theorem follow (keeps : Keeps touched before after) {start place : Place} {path : Path}
    (followed : before.follow start path = .ok place) : after.follow start path = .ok place := by
  induction path generalizing start with
  | nil => exact followed
  | cons step rest ih =>
    obtain ⟨folder, short, onward⟩ := follow_cons_eq_ok.1 followed
    exact follow_cons_eq_ok.2 ⟨keeps.folder _ folder, short, ih onward⟩

/-- A file or a log outside the places that are touched is still there. -/
theorem node? (keeps : Keeps touched before after) {place : Place} {node : Node}
    (apart : ¬ touched place) (solid : node ≠ .folder) (found : before.node? place = some node) :
    after.node? place = some node := by
  have kept := keeps.held place apart
  rw [held?_eq_some_iff.2 ⟨found, solid⟩] at kept
  exact (held?_eq_some_iff.1 kept).1

/-- A file or a log outside the places that are touched was there before. -/
theorem node?_before (keeps : Keeps touched before after) {place : Place} {node : Node}
    (apart : ¬ touched place) (solid : node ≠ .folder) (found : after.node? place = some node) :
    before.node? place = some node := by
  have kept := keeps.held place apart
  rw [held?_eq_some_iff.2 ⟨found, solid⟩] at kept
  exact (held?_eq_some_iff.1 kept.symm).1

/-- A file that is not touched stands. -/
theorem stands (keeps : Keeps touched before after) {place : Place} (apart : ¬ touched place)
    (stands : before.Stands place) : after.Stands place := by
  obtain ⟨node, found, solid⟩ := stands
  exact ⟨node, keeps.node? apart solid found, solid⟩

/-- A file that is not touched has the bytes that it had. -/
theorem file? (keeps : Keeps touched before after) {place : Place} (apart : ¬ touched place) :
    after.file? place = before.file? place := by
  rw [Disk.file?, Disk.file?, keeps.held place apart]

/-- Putting something at a place touches this place only. -/
theorem put (disk : Disk) {place : Place} {node : Node}
    (free : disk.node? place ≠ some .folder) : Keeps (· = place) disk (disk.put place node) where
  folder other folder := by
    have differ : other ≠ place := by
      rintro rfl
      exact free folder
    rwa [node?_put_of_ne _ _ differ]
  held other differ := by
    unfold held?
    rw [node?_put_of_ne _ _ differ]

/-- Making a folder touches no file. -/
theorem makeFolder (disk : Disk) {place : Place} (free : disk.node? place = none) :
    Keeps touched disk (disk.put place .folder) := by
  have inside : place ≠ [] := by
    rintro rfl
    cases free
  constructor
  · intro other folder
    by_cases same : other = place
    · subst same
      rw [free] at folder
      cases folder
    · rwa [node?_put_of_ne _ _ same]
  · intro other _
    unfold held?
    by_cases same : other = place
    · subst same
      rw [node?_put_self _ _ inside, free]
    · rw [node?_put_of_ne _ _ same]

/-- Dropping what is at a place touches this place only. -/
theorem drop (disk : Disk) {place : Place} (free : disk.node? place ≠ some .folder) :
    Keeps (· = place) disk (disk.drop place) where
  folder other folder := by
    have differ : other ≠ place := by
      rintro rfl
      exact free folder
    rwa [node?_drop_of_ne _ differ]
  held other differ := by
    unfold held?
    rw [node?_drop_of_ne _ differ]

end Keeps

/-! ## Folders that may be there -/

variable {place other : Place}

/-- The disk with a folder at a place, unless something stands there. -/
def withFolder (disk : Disk) (place : Place) : Disk :=
  match disk.node? place with
  | none => disk.put place .folder
  | some _ => disk

/-- A folder stands at a place, or nothing does. -/
def Clear (disk : Disk) (place : Place) : Prop :=
  disk.node? place = none ∨ disk.node? place = some .folder

/-- A folder is there once it was made, where nothing else was. -/
theorem Clear.node?_withFolder (clear : disk.Clear place) :
    (disk.withFolder place).node? place = some .folder := by
  unfold withFolder
  rcases clear with absent | folder
  · have inside : place ≠ [] := by
      rintro rfl
      cases absent
    rw [absent]
    exact node?_put_self _ _ inside
  · rw [folder]
    exact folder

/-- Making a folder leaves all other places as they are. -/
theorem node?_withFolder_of_ne (disk : Disk) (differ : other ≠ place) :
    (disk.withFolder place).node? other = disk.node? other := by
  unfold withFolder
  split
  · exact node?_put_of_ne _ _ differ
  · rfl

/-- What is there after a folder was made was there before, or is the folder. -/
theorem node?_of_withFolder {node : Node}
    (found : (disk.withFolder place).node? other = some node) :
    disk.node? other = some node ∨ other = place ∧ node = .folder := by
  by_cases same : other = place
  · subst same
    cases before : disk.node? other with
    | none =>
      rw [Clear.node?_withFolder (.inl before)] at found
      exact .inr ⟨rfl, (Option.some.inj found).symm⟩
    | some present =>
      rw [withFolder, before] at found
      exact .inl (before.symm.trans found)
  · rw [node?_withFolder_of_ne disk same] at found
    exact .inl found

/-- Making a folder touches no file. -/
theorem keeps_withFolder (touched : Place → Prop) (disk : Disk) (place : Place) :
    Keeps touched disk (disk.withFolder place) := by
  unfold withFolder
  split
  · next absent => exact .makeFolder disk absent
  · exact .refl _ _

end Disk

end UpgradeGate
