import UpgradeGate.Proofs.Disk.Frame

/-!
# What tasks on the disk do

For each task, its result and the disk as it is afterwards: first for the parts that tasks are made
of, then for making folders, writing, moving, reading and removing a file.
-/

namespace UpgradeGate.DiskTask

variable {α β : Type} {disk after : Disk}

theorem run_lift (result : Except Failure α) (disk : Disk) :
    (lift result).run.run disk = (result, disk) := rfl

/-- A task in two parts, run on a disk. -/
theorem run_bind (task : DiskTask α) (next : α → DiskTask β) (disk : Disk) :
    (task >>= next).run.run disk =
      match task.run.run disk with
      | (.ok value, middle) => (next value).run.run middle
      | (.error failure, middle) => (.error failure, middle) := by
  rcases ended : task.run.run disk with ⟨failure | value, middle⟩ <;>
    (rw [ExceptT.run_bind, StateT.run_bind, ended]; rfl)

/-- A sequence stays within the places that its parts touch. -/
theorem keeps_bind {touched : Place → Prop} {task : DiskTask α} {next : α → DiskTask β}
    (first : Disk.Keeps touched disk (task.run.run disk).2)
    (second : ∀ value middle, task.run.run disk = (.ok value, middle) →
      Disk.Keeps touched middle ((next value).run.run middle).2) :
    Disk.Keeps touched disk ((task >>= next).run.run disk).2 := by
  rw [run_bind]
  rcases ended : task.run.run disk with ⟨failure | value, middle⟩
  · rwa [ended] at first
  · rw [ended] at first
    exact first.trans (second value middle ended)

/-- Where neither part changes the disk, the whole does not. -/
theorem run_bind_snd {task : DiskTask α} {next : α → DiskTask β}
    (first : (task.run.run disk).2 = disk)
    (second : ∀ value, ((next value).run.run disk).2 = disk) :
    ((task >>= next).run.run disk).2 = disk := by
  rw [run_bind]
  rcases ended : task.run.run disk with ⟨failure | value, middle⟩
  · rwa [ended] at first
  · rw [ended] at first
    cases first
    exact second value

/-- A task in two parts succeeds where both do. -/
theorem run_bind_eq_ok {task : DiskTask α} {next : α → DiskTask β} {value : β} :
    (task >>= next).run.run disk = (.ok value, after) ↔ ∃ start middle,
      task.run.run disk = (.ok start, middle) ∧
        (next start).run.run middle = (.ok value, after) := by
  rw [run_bind]
  rcases task.run.run disk with ⟨failure | start, middle⟩
  · constructor
    · intro impossible
      cases impossible
    · intro given
      obtain ⟨_, _, impossible, -⟩ := given
      cases impossible
  · constructor
    · exact fun ended => ⟨start, middle, rfl, ended⟩
    · intro given
      obtain ⟨_, _, ⟨⟩, ended⟩ := given
      exact ended

/-- A sequence fails with its first part or, after that returned, with its second. -/
theorem run_bind_eq_error {task : DiskTask α} {next : α → DiskTask β} {failure : Failure} :
    (task >>= next).run.run disk = (.error failure, after) ↔
      task.run.run disk = (.error failure, after) ∨ ∃ start middle,
        task.run.run disk = (.ok start, middle) ∧
          (next start).run.run middle = (.error failure, after) := by
  rw [run_bind]
  rcases task.run.run disk with ⟨failed | start, middle⟩
  · constructor
    · rintro ⟨⟩
      exact .inl rfl
    · rintro (⟨⟨⟩⟩ | ⟨_, _, ⟨⟩, -⟩)
      rfl
  · constructor
    · intro onward
      exact .inr ⟨start, middle, rfl, onward⟩
    · rintro (impossible | ⟨_, _, ⟨⟩, onward⟩)
      · cases impossible
      · exact onward

/-- A view of the disk leaves it as it is. -/
theorem run_view (f : Disk → Except Kind α) (disk : Disk) :
    (view f).run.run disk = (match f disk with
      | .ok value => .ok value
      | .error kind => .error (.plain kind), disk) := by
  change (match f disk with
    | .ok value => (pure value : DiskTask α)
    | .error kind => fail kind).run.run disk = _
  cases f disk <;> rfl

theorem run_get (disk : Disk) : (get : DiskTask Disk).run.run disk = (.ok disk, disk) := rfl

/-! ## Folders -/

/-- Making folders keeps every file and every log. -/
theorem keeps_makeFoldersFrom (touched : Place → Prop) (start : Place) (path : Path)
    (disk : Disk) : Disk.Keeps touched disk ((makeFoldersFrom start path).run.run disk).2 := by
  induction path generalizing start disk with
  | nil => exact .refl touched disk
  | cons step rest ih =>
    rw [makeFoldersFrom, run_bind, run_view]
    cases disk.follow start [step] with
    | error kind => exact .refl touched disk
    | ok place =>
      simp only [run_bind, run_get]
      cases node : disk.node? place with
      | none => exact (Disk.Keeps.makeFolder disk node).trans (ih place _)
      | some found =>
        cases found with
        | folder => exact ih place disk
        | file => exact .refl touched disk
        | database => exact .refl touched disk

/-- Making the folders of a path keeps every file and every log, however it ends. -/
theorem keeps_makeFolders {touched : Place → Prop} {path : Path} {ran : Except Failure Unit}
    (makes : (makeFolders path).run.run disk = (ran, after)) : Disk.Keeps touched disk after := by
  have keeps := keeps_makeFoldersFrom touched [] path disk
  rw [makeFolders] at makes
  rwa [makes] at keeps

/-- The folders that a path leads through are there already. -/
theorem run_makeFoldersFrom_append {start place : Place} {path : Path}
    (followed : disk.follow start path = .ok place) (folder : disk.node? place = some .folder)
    (tail : Path) : (makeFoldersFrom start (path ++ tail)).run.run disk =
      (makeFoldersFrom place tail).run.run disk := by
  induction path generalizing start with
  | nil =>
    cases followed
    rfl
  | cons step rest ih =>
    obtain ⟨here, short, onward⟩ := Disk.follow_cons_eq_ok.1 followed
    have stepped : disk.follow start [step] = .ok (Path.target start [step]) :=
      Disk.follow_cons_eq_ok.2 ⟨here, short, rfl⟩
    have next : disk.node? (Path.target start [step]) = some .folder := by
      cases rest with
      | nil =>
        cases onward
        exact folder
      | cons => exact (Disk.follow_cons_eq_ok.1 onward).1
    rw [List.cons_append, makeFoldersFrom, run_bind, run_view, stepped]
    simp only [run_bind, run_get, next]
    exact ih onward

/-- Nothing is made where the folders are there. -/
theorem makeFoldersFrom_of_follow {start place : Place} {path : Path}
    (followed : disk.follow start path = .ok place) (folder : disk.node? place = some .folder) :
    (makeFoldersFrom start path).run.run disk = (.ok (), disk) := by
  have made := run_makeFoldersFrom_append followed folder []
  rwa [List.append_nil] at made

/-- One folder more is made, if it is not there. -/
theorem run_makeFoldersFrom_of_clear {start : Place} {step : String}
    (here : disk.node? start = some .folder) (short : step.utf8ByteSize ≤ Disk.longestName)
    (clear : disk.Clear (Path.target start [step])) (rest : Path) :
    (makeFoldersFrom start (step :: rest)).run.run disk =
      (makeFoldersFrom (Path.target start [step]) rest).run.run
        (disk.withFolder (Path.target start [step])) := by
  have stepped : disk.follow start [step] = .ok (Path.target start [step]) :=
    Disk.follow_cons_eq_ok.2 ⟨here, short, rfl⟩
  rw [makeFoldersFrom, run_bind, run_view, stepped, Disk.withFolder]
  rcases clear with absent | folder
  · simp only [run_bind, run_get, absent]
    rfl
  · simp only [run_bind, run_get, folder]

/-- A folder with too long a name is not made. -/
theorem run_makeFoldersFrom_of_long {start : Place} {step : String} (rest : Path)
    (here : disk.node? start = some .folder) (long : Disk.longestName < step.utf8ByteSize) :
    (makeFoldersFrom start (step :: rest)).run.run disk = (.error (.plain .fileName), disk) := by
  rw [makeFoldersFrom, run_bind, run_view, Disk.follow_cons_of_long [] here long]

/-! ## Files -/

/-- A file is written at the target of a path that can be followed and does not lead to a folder. -/
theorem run_write {path : Path} {place : Place} (followed : disk.follow [] path = .ok place)
    (free : disk.node? place ≠ some .folder) (content : ByteArray) :
    (write path content).run.run disk = (.ok (), disk.put place (.file content)) := by
  rw [write, run_bind, run_view, followed]
  simp only [run_bind, run_get]
  rfl

/-- Where a path cannot be followed, no file is written. -/
theorem run_write_of_error {path : Path} {kind : Kind} (failed : disk.follow [] path = .error kind)
    (content : ByteArray) : (write path content).run.run disk = (.error (.plain kind), disk) := by
  rw [write, run_bind, run_view, failed]

/-- A file that was written is at the end of its path. -/
theorem run_write_ok {path : Path} {content : ByteArray}
    (written : (write path content).run.run disk = (.ok (), after)) :
    ∃ place, disk.follow [] path = .ok place ∧ disk.node? place ≠ some .folder ∧
      after = disk.put place (.file content) := by
  rw [write, run_bind, run_view] at written
  cases followed : disk.follow [] path with
  | error kind =>
    rw [followed] at written
    cases written
  | ok place =>
    simp only [followed, run_bind, run_get] at written
    refine ⟨place, rfl, ?_⟩
    split at written
    · cases written
    · next free =>
      cases written
      exact ⟨free, rfl⟩

/-- A file that is not written changes nothing. -/
theorem run_write_error {path : Path} {content : ByteArray} {failure : Failure}
    (unwritten : (write path content).run.run disk = (.error failure, after)) : after = disk := by
  rw [write, run_bind, run_view] at unwritten
  cases followed : disk.follow [] path with
  | error kind =>
    rw [followed] at unwritten
    cases unwritten
    rfl
  | ok place =>
    simp only [followed, run_bind, run_get] at unwritten
    split at unwritten
    · cases unwritten
      rfl
    · cases unwritten

theorem found_of_write {path : Path} {content : ByteArray}
    (written : (write path content).run.run disk = (.ok (), after)) :
    after.follow [] path = .ok (Path.target [] path) ∧
      after.node? (Path.target [] path) = some (.file content) := by
  obtain ⟨place, followed, free, rfl⟩ := run_write_ok written
  have target := Disk.follow_eq_target followed
  subst target
  have inside : Path.target [] path ≠ [] := by
    intro root
    rw [root] at free
    exact free rfl
  exact ⟨(Disk.Keeps.put disk free).follow followed, Disk.node?_put_self disk _ inside⟩

/-- Writing touches the end of its path only. -/
theorem keeps_write (path : Path) (content : ByteArray) (disk : Disk) :
    Disk.Keeps (· = Path.target [] path) disk ((write path content).run.run disk).2 := by
  rcases written : (write path content).run.run disk with ⟨_ | _, after⟩
  · rw [run_write_error written]
    exact .refl _ _
  · obtain ⟨place, followed, free, rfl⟩ := run_write_ok written
    rw [Disk.follow_eq_target followed] at free ⊢
    exact .put disk free

/-- A file or a log is moved to the target of a path that does not lead to a folder. -/
theorem run_rename {source target : Path} {start place : Place} {node : Node}
    (from_ : disk.follow [] source = .ok start) (onto : disk.follow [] target = .ok place)
    (found : disk.node? start = some node) (free : disk.node? place ≠ some .folder) :
    (rename source target).run.run disk = (.ok (), (disk.drop start).put place node) := by
  rw [rename, run_bind, run_view, from_]
  simp only [run_bind, run_view, onto, run_get, found]
  rfl

/-- A file that was moved is at its new place, and gone from the old one. -/
theorem run_rename_ok {source target : Path} {start : Place} {node : Node}
    (from_ : disk.follow [] source = .ok start) (found : disk.node? start = some node)
    (renamed : (rename source target).run.run disk = (.ok (), after)) :
    ∃ place, disk.follow [] target = .ok place ∧ disk.node? place ≠ some .folder ∧
      after = (disk.drop start).put place node := by
  rw [rename, run_bind, run_view, from_] at renamed
  simp only [run_bind, run_view] at renamed
  cases onto : disk.follow [] target with
  | error kind =>
    rw [onto] at renamed
    cases renamed
  | ok place =>
    simp only [onto, run_get, found] at renamed
    refine ⟨place, rfl, ?_⟩
    split at renamed
    · cases renamed
    · cases renamed
    · next same free =>
      cases same
      cases renamed
      exact ⟨free, rfl⟩

/-- A file that is not moved changes nothing. -/
theorem run_rename_error {source target : Path} {failure : Failure}
    (unmoved : (rename source target).run.run disk = (.error failure, after)) : after = disk := by
  rw [rename, run_bind, run_view] at unmoved
  cases from_ : disk.follow [] source with
  | error kind =>
    rw [from_] at unmoved
    cases unmoved
    rfl
  | ok start =>
    simp only [from_, run_bind, run_view] at unmoved
    cases onto : disk.follow [] target with
    | error kind =>
      rw [onto] at unmoved
      cases unmoved
      rfl
    | ok place =>
      simp only [onto, run_get] at unmoved
      split at unmoved
      · cases unmoved
        rfl
      · cases unmoved
        rfl
      · cases unmoved

theorem found_of_rename {source target : Path} {start : Place} {node : Node}
    (from_ : disk.follow [] source = .ok start) (found : disk.node? start = some node)
    (solid : node ≠ .folder)
    (renamed : (rename source target).run.run disk = (.ok (), after)) :
    after.follow [] target = .ok (Path.target [] target) ∧
      after.node? (Path.target [] target) = some node := by
  obtain ⟨place, onto, free, rfl⟩ := run_rename_ok from_ found renamed
  have eq := Disk.follow_eq_target onto
  subst eq
  have inside : Path.target [] target ≠ [] := by
    intro root
    rw [root] at free
    exact free rfl
  have moved : Disk.Keeps (fun _ => True) disk
      ((disk.drop start).put (Path.target [] target) node) := by
    refine ((Disk.Keeps.drop disk ?_).mono fun _ _ => trivial).trans
      ((Disk.Keeps.put _ ?_).mono fun _ _ => trivial)
    · rw [found]
      exact fun same => solid (Option.some.inj same)
    · exact fun folder => free (Disk.node?_of_drop folder)
  exact ⟨moved.follow onto, Disk.node?_put_self _ _ inside⟩

/-- Moving what is no folder touches the places that it is moved from and to. -/
theorem keeps_rename {source target : Path}
    (solid : ∀ start, disk.follow [] source = .ok start → disk.node? start ≠ some .folder) :
    Disk.Keeps (fun place => place = Path.target [] source ∨ place = Path.target [] target) disk
      ((rename source target).run.run disk).2 := by
  rw [rename, run_bind, run_view]
  cases from_ : disk.follow [] source with
  | error kind => exact .refl _ _
  | ok start =>
    simp only [run_bind, run_view]
    cases onto : disk.follow [] target with
    | error kind => exact .refl _ _
    | ok place =>
      have start_eq := Disk.follow_eq_target from_
      have place_eq := Disk.follow_eq_target onto
      subst start_eq place_eq
      simp only [run_get]
      split
      · exact .refl _ _
      · exact .refl _ _
      · next _ free =>
        have dropped := Disk.Keeps.drop disk (solid _ from_)
        exact (dropped.mono fun _ => .inl).trans
          ((Disk.Keeps.put _ fun folder => free (Disk.node?_of_drop folder)).mono fun _ => .inr)

/-- Whether something is there, by what is seen. -/
theorem run_exists?_eq (path : Path) (disk : Disk) :
    (exists? path).run.run disk = (match disk.look path with
      | .ok found => .ok found.isSome
      | .error kind => .error (.plain kind), disk) := by
  rw [exists?, run_bind, run_view]
  cases disk.look path <;> rfl

/-- Whether something is at the end of a path that can be followed. -/
theorem run_exists? {path : Path} {place : Place} (followed : disk.follow [] path = .ok place) :
    (exists? path).run.run disk = (.ok (disk.node? place).isSome, disk) := by
  rw [run_exists?_eq, Disk.look_of_follow followed]

/-- A view does not change the disk. -/
theorem run_view_snd (f : Disk → Except Kind α) (disk : Disk) :
    ((view f).run.run disk).2 = disk := by
  rw [run_view]

/-- Looking does not change the disk. -/
theorem run_exists?_snd (path : Path) (disk : Disk) :
    ((exists? path).run.run disk).2 = disk :=
  run_bind_snd (run_view_snd _ disk) fun _ => rfl

/-- Reading does not change the disk. -/
theorem run_readText_snd (path : Path) (disk : Disk) :
    ((readText path).run.run disk).2 = disk := by
  refine run_bind_snd ?_ fun content => ?_
  · refine run_bind_snd (run_view_snd _ disk) fun place => run_bind_snd rfl fun _ => ?_
    split <;> rfl
  · split <;> rfl

/-- The text of a file that is there. -/
theorem run_readText {path : Path} {place : Place} {content : ByteArray}
    (followed : disk.follow [] path = .ok place)
    (found : disk.node? place = some (.file content)) :
    (readText path).run.run disk = (match Text.fileText? content with
      | .ok text => .ok text
      | .error fault => .error (.undecodable fault), disk) := by
  have read : (read path).run.run disk = (.ok content, disk) := by
    rw [DiskTask.read, run_bind, run_view, followed]
    simp only [run_bind, run_get, found]
    rfl
  rw [readText, run_bind, read]
  dsimp only
  cases Text.fileText? content <;> rfl

/-- Text that is read is that of a file. -/
theorem run_readText_ok {path : Path} {text : String}
    (read : (readText path).run.run disk = (.ok text, after)) :
    ∃ place content, disk.follow [] path = .ok place ∧ disk.node? place = some (.file content) ∧
      Text.fileText? content = .ok text := by
  obtain ⟨content, _, opened, decoded⟩ := run_bind_eq_ok.1 read
  rw [DiskTask.read, run_bind, run_view] at opened
  cases followed : disk.follow [] path with
  | error kind =>
    rw [followed] at opened
    cases opened
  | ok place =>
    simp only [followed, run_bind, run_get] at opened
    split at opened
    · next found =>
      cases opened
      refine ⟨place, content, rfl, found, ?_⟩
      split at decoded
      · next matched =>
        cases decoded
        exact matched
      · cases decoded
    all_goals cases opened

/-- A file that is there is removed. -/
theorem run_remove {path : Path} {place : Place} {node : Node}
    (followed : disk.follow [] path = .ok place) (found : disk.node? place = some node)
    (solid : node ≠ .folder) :
    (remove path).run.run disk = (.ok (), disk.drop place) := by
  rw [remove, run_bind, run_view, followed]
  simp only [run_bind, run_get, found]
  rfl

end UpgradeGate.DiskTask
