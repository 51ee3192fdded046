import UpgradeGate.Proofs.Layout.RecordText
import UpgradeGate.Proofs.Layout.StorePlaces

/-!
# What a layout store does to the disk

Writing a copy touches its file and its draft and nothing else, however it ends
(`LayoutStore.keeps_write`). Where it returns, the file holds the record of the layout
(`LayoutStore.run_write_ok`), and what is read from it afterwards is that layout
(`LayoutStore.Holds.eq_of_reading`). Reading touches nothing, and discarding a scratch copy touches
its file alone.

After a scratch copy was written, the baseline of the same contract can be written too, unless a
folder stands in its way (`LayoutStore.run_write_of_writable`), and the scratch copy can be
discarded (`LayoutStore.run_discardScratch_of_stands`).
-/

namespace UpgradeGate.LayoutStore

variable {store : LayoutStore} {copy : Copy} {contract network : String} {now : Moment}
  {layout : Layout} {disk after : Disk}

/-! ## Allowed names -/

/-- A name passes the check where it is taken. -/
theorem checkName_eq_ok_iff {role : NameRole} {name : String} :
    checkName role name = .ok () ↔ isName name = true := by
  unfold checkName
  cases isName name <;> simp

/-- Both names of a copy may become names of files. -/
def Allowed (contract network : String) : Prop := isName contract = true ∧ isName network = true

/-- A contract that is allowed has a name. -/
theorem Allowed.ne_empty (allowed : Allowed contract network) : contract ≠ "" := by
  rintro rfl
  exact absurd allowed.1 (by decide)

theorem checkedPath_of_allowed (store : LayoutStore) (copy : Copy)
    (allowed : Allowed contract network) :
    store.checkedPath copy contract network = .ok (store.filePath copy contract network) := by
  rw [checkedPath, checkName_eq_ok_iff.2 allowed.1, checkName_eq_ok_iff.2 allowed.2]
  rfl

/-- Why the names of a copy are refused, if they are. -/
def refusal? (contract network : String) : Option Failure :=
  if isName contract = true then
    if isName network = true then none else some (.value (.invalidName .network network))
  else some (.value (.invalidName .contract contract))

theorem checkedPath_of_refusal {failure : Failure} (store : LayoutStore) (copy : Copy)
    (refused : refusal? contract network = some failure) :
    store.checkedPath copy contract network = .error failure := by
  rw [refusal?] at refused
  split at refused
  · next named =>
    split at refused
    · cases refused
    · next other =>
      cases refused
      rw [checkedPath, checkName_eq_ok_iff.2 named, checkName, if_neg other]
      rfl
  · next unnamed =>
    cases refused
    rw [checkedPath, checkName, if_neg unnamed]
    rfl

/-- Names are refused unless they are allowed. -/
theorem refusal?_eq_none_iff : refusal? contract network = none ↔ Allowed contract network := by
  rw [refusal?, Allowed]
  by_cases named : isName contract = true
  · by_cases other : isName network = true <;> simp [named, other]
  · simp [named]

/-- Names that are not allowed are refused. -/
theorem exists_refusal (refused : ¬ Allowed contract network) :
    ∃ failure, refusal? contract network = some failure :=
  Option.ne_none_iff_exists'.1 (mt refusal?_eq_none_iff.1 refused)

/-- Names that are not allowed are refused alike everywhere. -/
theorem checkedPath_of_not_allowed (refused : ¬ Allowed contract network) :
    ∃ failure, ∀ (store : LayoutStore) copy,
      store.checkedPath copy contract network = .error failure := by
  obtain ⟨failure, found⟩ := exists_refusal refused
  exact ⟨failure, fun store copy => store.checkedPath_of_refusal copy found⟩

/-! ## Writing -/

/-- The file of a copy can be reached, and its draft as well. -/
def Ready (store : LayoutStore) (copy : Copy) (contract network : String) (disk : Disk) : Prop :=
  disk.follow [] (store.filePath copy contract network) =
      .ok (store.place copy contract network) ∧
    disk.follow [] (store.draftPath copy contract network) =
      .ok (store.draftPlace copy contract network)

/-- No folder stands where a copy is to be written. -/
def Unblocked (store : LayoutStore) (copy : Copy) (contract network : String)
    (disk : Disk) : Prop :=
  ∀ place, store.Touches copy contract network place → disk.node? place ≠ some .folder

/-- A copy of a layout is in its place, as it was captured at some time. -/
def Holds (store : LayoutStore) (copy : Copy) (contract network : String) (layout : Layout)
    (disk : Disk) : Prop :=
  ∃ now, disk.follow [] (store.filePath copy contract network) =
      .ok (store.place copy contract network) ∧
    disk.node? (store.place copy contract network) =
      some (.file (recordOf now contract network layout).fileText.toUTF8)

/-- With allowed names, writing is made of three steps. -/
theorem write_of_allowed (store : LayoutStore) (now : Moment) (copy : Copy) (layout : Layout)
    (allowed : Allowed contract network) :
    store.write now copy contract network layout = (do
      DiskTask.makeFolders (store.folderPath copy network)
      DiskTask.write (store.draftPath copy contract network)
        (recordOf now contract network layout).fileText.toUTF8
      DiskTask.rename (store.draftPath copy contract network)
        (store.filePath copy contract network)
      pure (store.filePath copy contract network)) := by
  have path : store.checkedPath copy contract network =
      .ok (store.filePath copy contract network) := store.checkedPath_of_allowed copy allowed
  rw [write, path]
  simp only [writeSteps, List.forM_eq_forM, List.forM_cons, List.forM_nil, WriteStep.run,
    bind_assoc]
  rfl

/-- Nothing is written under refused names. -/
theorem run_write_of_refusal {failure : Failure} (now : Moment) (copy : Copy) (layout : Layout)
    (disk : Disk) (refused : refusal? contract network = some failure) :
    (store.write now copy contract network layout).run.run disk = (.error failure, disk) := by
  rw [write, store.checkedPath_of_refusal copy refused, DiskTask.run_bind, DiskTask.run_lift]

/-- **Writing stays in its place.** However it ends, it touches the file and its draft alone. -/
theorem keeps_write (store : LayoutStore) (now : Moment) (copy : Copy)
    (contract network : String) (layout : Layout) (disk : Disk) :
    Disk.Keeps (store.Touches copy contract network) disk
      ((store.write now copy contract network layout).run.run disk).2 := by
  by_cases allowed : Allowed contract network
  case neg =>
    obtain ⟨failure, refused⟩ := checkedPath_of_not_allowed allowed
    rw [write, refused, DiskTask.run_bind, DiskTask.run_lift]
    exact .refl _ _
  rw [write_of_allowed store now copy layout allowed]
  refine DiskTask.keeps_bind (DiskTask.keeps_makeFoldersFrom _ [] _ disk) ?_
  intro _ made _
  refine DiskTask.keeps_bind ((DiskTask.keeps_write _ _ made).mono fun _ => .inr) ?_
  intro _ drafted written
  have solid : ∀ start, drafted.follow [] (store.draftPath copy contract network) = .ok start →
      drafted.node? start ≠ some .folder := by
    intro start followed
    rw [Disk.follow_eq_target followed, (DiskTask.found_of_write written).2]
    exact nofun
  refine DiskTask.keeps_bind ((DiskTask.keeps_rename solid).mono fun _ => Or.symm) ?_
  intro _ moved _
  exact .refl _ _

/-- Writing a copy touches its file and its draft only. -/
theorem keeps_of_write {ended : Except Failure Path}
    (written : (store.write now copy contract network layout).run.run disk = (ended, after)) :
    Disk.Keeps (store.Touches copy contract network) disk after := by
  have touched := store.keeps_write now copy contract network layout disk
  rwa [written] at touched

/-- Writing a copy reaches a place: the names of the copy are allowed, and the place is touched. -/
def Reaches (store : LayoutStore) (copy : Copy) (contract network : String)
    (place : Place) : Prop :=
  Allowed contract network ∧ store.Touches copy contract network place

/-- Names reach the place of their own copy only. -/
theorem reaches_place_iff {copy' : Copy} {contract' network' : String}
    (named : isName network' = true) :
    store.Reaches copy contract network (store.place copy' contract' network') ↔
      Allowed contract network ∧ copy' = copy ∧ network' = network ∧ contract' = contract := by
  rw [Reaches]
  exact and_congr_right fun allowed => touches_place_iff allowed.2 named

/-- Where a name is refused, nothing is touched at all. -/
theorem keeps_write_reaches (store : LayoutStore) (now : Moment) (copy : Copy)
    (contract network : String) (layout : Layout) (disk : Disk) :
    Disk.Keeps (store.Reaches copy contract network) disk
      ((store.write now copy contract network layout).run.run disk).2 := by
  by_cases allowed : Allowed contract network
  · exact (store.keeps_write now copy contract network layout disk).mono fun _ touched =>
      ⟨allowed, touched⟩
  · obtain ⟨failure, refused⟩ := checkedPath_of_not_allowed allowed
    rw [write, refused, DiskTask.run_bind, DiskTask.run_lift]
    exact .refl _ _

/-- A store that is ready has the folder of the copy. -/
theorem Ready.folder (ready : store.Ready copy contract network disk) :
    ∃ folder, disk.follow [] (store.folderPath copy network) = .ok folder ∧
      disk.node? folder = some .folder := by
  obtain ⟨folder, followed, found, -⟩ := Disk.follow_concat_eq_ok.1 ready.1
  exact ⟨folder, followed, found⟩

/-- A store stays ready when files are touched. -/
theorem Ready.keeps {touched : Place → Prop} (ready : store.Ready copy contract network disk)
    (keeps : Disk.Keeps touched disk after) : store.Ready copy contract network after :=
  ⟨keeps.follow ready.1, keeps.follow ready.2⟩

/-- Beside a scratch copy, a baseline can be reached. -/
theorem Ready.baseline (ready : store.Ready .scratch contract network disk) :
    store.Ready .baseline contract network disk := by
  obtain ⟨hidden, followed, -, short, -⟩ := Disk.follow_concat_eq_ok.1 ready.1
  obtain ⟨_, _, -, shortDraft, -⟩ := Disk.follow_concat_eq_ok.1 ready.2
  obtain ⟨folder, followed, found, -⟩ := Disk.follow_concat_eq_ok.1 followed
  exact ⟨Disk.follow_concat_of_folder followed found short,
    Disk.follow_concat_of_folder followed found shortDraft⟩

/-- Writing that returns has moved a draft of the record to its place. -/
theorem exists_draft {path : Path} (allowed : Allowed contract network)
    (written : (store.write now copy contract network layout).run.run disk = (.ok path, after)) :
    ∃ drafted, drafted.follow [] (store.draftPath copy contract network) =
        .ok (store.draftPlace copy contract network) ∧
      drafted.node? (store.draftPlace copy contract network) =
        some (.file (recordOf now contract network layout).fileText.toUTF8) ∧
      (DiskTask.rename (store.draftPath copy contract network)
        (store.filePath copy contract network)).run.run drafted = (.ok (), after) := by
  rw [write_of_allowed store now copy layout allowed] at written
  obtain ⟨_, made, _, written⟩ := DiskTask.run_bind_eq_ok.1 written
  obtain ⟨_, drafted, draft, moved⟩ := DiskTask.run_bind_eq_ok.1 written
  obtain ⟨_, last, moved, returned⟩ := DiskTask.run_bind_eq_ok.1 moved
  cases returned
  obtain ⟨followed, found⟩ := DiskTask.found_of_write draft
  exact ⟨drafted, followed, found, moved⟩

/-- **Writing.** Where it returns, both names were allowed, and the file holds the record of the
layout. -/
theorem run_write_ok {path : Path}
    (written : (store.write now copy contract network layout).run.run disk = (.ok path, after)) :
    Allowed contract network ∧ store.Ready copy contract network after ∧
      after.node? (store.place copy contract network) =
        some (.file (recordOf now contract network layout).fileText.toUTF8) := by
  by_cases allowed : Allowed contract network
  case neg =>
    obtain ⟨failure, refused⟩ := checkedPath_of_not_allowed allowed
    rw [write, refused, DiskTask.run_bind, DiskTask.run_lift] at written
    cases written
  obtain ⟨drafted, followed, found, moved⟩ := exists_draft allowed written
  have solid : ∀ start, drafted.follow [] (store.draftPath copy contract network) = .ok start →
      drafted.node? start ≠ some .folder := by
    intro start reached
    cases followed.symm.trans reached
    rw [found]
    exact nofun
  have kept := @DiskTask.keeps_rename _ _ (store.filePath copy contract network) solid
  rw [moved] at kept
  obtain ⟨reached, there⟩ := DiskTask.found_of_rename followed found nofun moved
  exact ⟨allowed, ⟨reached, kept.follow followed⟩, there⟩

/-- No draft is left behind a copy that was written. -/
theorem draft_gone {path : Path}
    (written : (store.write now copy contract network layout).run.run disk = (.ok path, after)) :
    after.node? (store.draftPlace copy contract network) = none := by
  obtain ⟨allowed, -, -⟩ := run_write_ok written
  obtain ⟨drafted, followed, found, moved⟩ := exists_draft allowed written
  obtain ⟨place, reached, -, rfl⟩ := DiskTask.run_rename_ok followed found moved
  have own : place = store.place copy contract network := Disk.follow_eq_target reached
  rw [own, Disk.node?_put_of_ne _ _ (draftPlace_ne_place allowed.2 allowed.2)]
  exact Disk.node?_drop_self _ (draftPlace_ne_nil allowed.2)

/-- **Writing that fails** leaves the file of the copy as it was. A draft may be left behind. -/
theorem drafted_of_write_error {failure : Failure}
    (unwritten : (store.write now copy contract network layout).run.run disk =
      (.error failure, after)) :
    Disk.Keeps (fun _ => False) disk after ∨ isName network = true ∧
      Disk.Keeps (· = store.draftPlace copy contract network) disk after ∧
      ∃ content, after.node? (store.draftPlace copy contract network) = some (.file content) := by
  by_cases allowed : Allowed contract network
  case neg =>
    obtain ⟨refusal, refused⟩ := checkedPath_of_not_allowed allowed
    rw [write, refused, DiskTask.run_bind, DiskTask.run_lift] at unwritten
    cases unwritten
    exact .inl (.refl _ _)
  rw [write_of_allowed store now copy layout allowed] at unwritten
  obtain unmade | ⟨_, middle, made, unwritten⟩ := DiskTask.run_bind_eq_error.1 unwritten
  · exact .inl (DiskTask.keeps_makeFolders unmade)
  have opened : Disk.Keeps (fun _ => False) disk middle := DiskTask.keeps_makeFolders made
  obtain undrafted | ⟨_, drafted, drafting, unmoved⟩ := DiskTask.run_bind_eq_error.1 unwritten
  · left
    rwa [DiskTask.run_write_error undrafted]
  right
  have put := DiskTask.keeps_write (store.draftPath copy contract network)
    (recordOf now contract network layout).fileText.toUTF8 middle
  rw [drafting] at put
  obtain unmoved | ⟨_, _, _, impossible⟩ := DiskTask.run_bind_eq_error.1 unmoved
  · rw [DiskTask.run_rename_error unmoved]
    exact ⟨allowed.2, (opened.mono fun _ => False.elim).trans put, _,
      (DiskTask.found_of_write drafting).2⟩
  · cases impossible

/-- Writing that fails keeps the bytes of every copy. -/
theorem file?_of_write_error {failure : Failure} {copy' : Copy} {contract' network' : String}
    (unwritten : (store.write now copy contract network layout).run.run disk =
      (.error failure, after)) (named : isName network' = true) :
    after.file? (store.place copy' contract' network') =
      disk.file? (store.place copy' contract' network') := by
  obtain keeps | ⟨allowed, keeps, -⟩ := drafted_of_write_error unwritten
  · exact keeps.file? nofun
  · exact keeps.file? (draftPlace_ne_place allowed named).symm

/-- Where a copy was written, no log is left. -/
theorem not_database_of_write {path : Path} {place : Place} {rows : Ledger}
    (written : (store.write now copy contract network layout).run.run disk = (.ok path, after))
    (touched : store.Touches copy contract network place) :
    after.node? place ≠ some (.database rows) := by
  rcases touched with rfl | rfl
  · rw [(run_write_ok written).2.2]
    exact nofun
  · rw [draft_gone written]
    exact nofun

/-- Writing makes no log, however it ends. -/
theorem database_of_write {ended : Except Failure Path} {place : Place} {rows : Ledger}
    (written : (store.write now copy contract network layout).run.run disk = (ended, after))
    (found : after.node? place = some (.database rows)) :
    disk.node? place = some (.database rows) := by
  cases ended with
  | ok path =>
    by_cases touched : store.Touches copy contract network place
    · exact absurd found (not_database_of_write written touched)
    · exact (keeps_of_write written).node?_before touched nofun found
  | error failure =>
    obtain keeps | ⟨-, keeps, content, there⟩ := drafted_of_write_error written
    · exact keeps.node?_before nofun nofun found
    · by_cases draft : place = store.draftPlace copy contract network
      · rw [draft, there] at found
        cases found
      · exact keeps.node?_before draft nofun found

/-- The store holds a copy that was written. -/
theorem holds_of_write {path : Path}
    (written : (store.write now copy contract network layout).run.run disk = (.ok path, after)) :
    store.Holds copy contract network layout after := by
  obtain ⟨-, ready, found⟩ := run_write_ok written
  exact ⟨now, ready.1, found⟩

/-- A copy can be written: its names are allowed, its file can be reached, and no folder is in the
way. -/
structure Writable (store : LayoutStore) (copy : Copy) (contract network : String)
    (disk : Disk) : Prop where
  allowed : Allowed contract network
  ready : store.Ready copy contract network disk
  free : store.Unblocked copy contract network disk

/-- What can be written still can be when files were written and no folder was made. -/
theorem Writable.keeps {touched : Place → Prop}
    (writable : store.Writable copy contract network disk) (keeps : Disk.Keeps touched disk after)
    (none_made : ∀ place, after.node? place = some .folder → disk.node? place = some .folder) :
    store.Writable copy contract network after where
  allowed := writable.allowed
  ready := writable.ready.keeps keeps
  free place inside folder := writable.free place inside (none_made place folder)

/-- What could be written on one disk can be written on another. -/
def StillWritable (store : LayoutStore) (before after : Disk) : Prop :=
  ∀ copy contract network, store.Writable copy contract network before →
    store.Writable copy contract network after

/-- Staying writable can be put together. -/
theorem StillWritable.trans {before middle after : Disk} (first : store.StillWritable before middle)
    (second : store.StillWritable middle after) : store.StillWritable before after :=
  fun copy contract network writable =>
    second copy contract network (first copy contract network writable)

/-- Touching files keeps a store writable where no folder is made. -/
theorem StillWritable.of_keeps {touched : Place → Prop} (keeps : Disk.Keeps touched disk after)
    (none_made : ∀ place, after.node? place = some .folder → disk.node? place = some .folder) :
    store.StillWritable disk after :=
  fun _ _ _ writable => writable.keeps keeps none_made

/-- The disk with a copy that was drafted and moved to its place. -/
def written (store : LayoutStore) (now : Moment) (copy : Copy) (contract network : String)
    (layout : Layout) (disk : Disk) : Disk :=
  let file := Node.file (recordOf now contract network layout).fileText.toUTF8
  ((disk.put (store.draftPlace copy contract network) file).drop
    (store.draftPlace copy contract network)).put (store.place copy contract network) file

/-- Writing leaves the places that it does not touch as they are. -/
theorem node?_written_of_not_touches (now : Moment) (layout : Layout) (disk : Disk) {other : Place}
    (apart : ¬ store.Touches copy contract network other) :
    (store.written now copy contract network layout disk).node? other = disk.node? other := by
  have elsewhere : other ≠ store.place copy contract network := fun same => apart (.inl same)
  have undrafted : other ≠ store.draftPlace copy contract network := fun same => apart (.inr same)
  rw [written, Disk.node?_put_of_ne _ _ elsewhere, Disk.node?_drop_of_ne _ undrafted,
    Disk.node?_put_of_ne _ _ undrafted]

/-- The file of a copy that was written. -/
theorem node?_written_self (now : Moment) (layout : Layout) (disk : Disk)
    (allowed : isName network = true) :
    (store.written now copy contract network layout disk).node?
        (store.place copy contract network) =
      some (.file (recordOf now contract network layout).fileText.toUTF8) :=
  Disk.node?_put_self _ _ (place_ne_nil allowed)

/-- The draft is gone after writing. -/
theorem node?_written_draft (now : Moment) (layout : Layout) (disk : Disk)
    (allowed : isName network = true) :
    (store.written now copy contract network layout disk).node?
        (store.draftPlace copy contract network) = none := by
  rw [written, Disk.node?_put_of_ne _ _ (draftPlace_ne_place allowed allowed)]
  exact Disk.node?_drop_self _ (draftPlace_ne_nil allowed)

/-- Where the folders were made, a copy that can be written is written. -/
theorem run_write_of_made (now : Moment) (layout : Layout) {opened : Disk}
    (made : (DiskTask.makeFolders (store.folderPath copy network)).run.run disk = (.ok (), opened))
    (writable : store.Writable copy contract network opened) :
    (store.write now copy contract network layout).run.run disk =
      (.ok (store.filePath copy contract network),
        store.written now copy contract network layout opened) := by
  obtain ⟨allowed, ready, free⟩ := writable
  rw [write_of_allowed store now copy layout allowed, written]
  generalize (recordOf now contract network layout).fileText.toUTF8 = content
  have draft_free := free (store.draftPlace copy contract network) (.inr rfl)
  have drafted := DiskTask.run_write ready.2 draft_free content
  have reached : Disk.Keeps (· = store.draftPlace copy contract network) opened
      (opened.put (store.draftPlace copy contract network) (.file content)) :=
    .put opened draft_free
  have there : (opened.put (store.draftPlace copy contract network) (.file content)).node?
      (store.draftPlace copy contract network) = some (.file content) :=
    (DiskTask.found_of_write drafted).2
  have file_free : (opened.put (store.draftPlace copy contract network) (.file content)).node?
      (store.place copy contract network) ≠ some .folder := by
    rw [Disk.node?_put_of_ne _ _ (draftPlace_ne_place allowed.2 allowed.2).symm]
    exact free _ (.inl rfl)
  have moved := DiskTask.run_rename (reached.follow ready.2) (reached.follow ready.1) there
    file_free
  refine DiskTask.run_bind_eq_ok.2 ⟨_, _, made, ?_⟩
  refine DiskTask.run_bind_eq_ok.2 ⟨_, _, drafted, ?_⟩
  exact DiskTask.run_bind_eq_ok.2 ⟨_, _, moved, rfl⟩

/-- **Writing succeeds** where it can, and keeps nothing else from being written. -/
theorem run_write_of_writable (now : Moment) (layout : Layout)
    (writable : store.Writable copy contract network disk) :
    ∃ after, (store.write now copy contract network layout).run.run disk =
        (.ok (store.filePath copy contract network), after) ∧ store.StillWritable disk after := by
  obtain ⟨folder, followed, found⟩ := writable.ready.folder
  have made := DiskTask.makeFoldersFrom_of_follow followed found
  have ended := run_write_of_made now layout made writable
  refine ⟨_, ended, .of_keeps (keeps_of_write ended) fun place folder => ?_⟩
  -- the folder is neither the file nor the draft, for those were put as files
  have solid := Disk.node?_of_drop (Disk.folder_of_put folder nofun)
  exact Disk.folder_of_put solid nofun

/-! ## Reading -/

/-- What reading a copy gives. -/
def reading (store : LayoutStore) (disk : Disk) (copy : Copy) (contract network : String) :
    Except Failure (Option Layout) :=
  ((store.read? copy contract network).run.run disk).1

theorem run_read?_snd (store : LayoutStore) (copy : Copy) (contract network : String)
    (disk : Disk) : ((store.read? copy contract network).run.run disk).2 = disk := by
  refine DiskTask.run_bind_snd rfl fun path => ?_
  refine DiskTask.run_bind_snd (DiskTask.run_exists?_snd path disk) fun there => ?_
  split
  · refine DiskTask.run_bind_snd (DiskTask.run_readText_snd path disk) fun text => ?_
    cases layoutOfText path text <;> rfl
  · rfl

/-- What is read of a copy. -/
theorem run_read? (store : LayoutStore) (copy : Copy) (contract network : String) (disk : Disk) :
    (store.read? copy contract network).run.run disk =
      (store.reading disk copy contract network, disk) :=
  Prod.ext rfl (run_read?_snd store copy contract network disk)

/-- A copy is read from its file. -/
theorem reading_of_file {place : Place} {content : ByteArray}
    (allowed : Allowed contract network)
    (followed : disk.follow [] (store.filePath copy contract network) = .ok place)
    (found : disk.node? place = some (.file content)) :
    store.reading disk copy contract network =
      match Text.fileText? content with
      | .ok text => (layoutOfText (store.filePath copy contract network) text).map some
      | .error fault => .error (.undecodable fault) := by
  rw [reading, read?, checkedPath_of_allowed store copy allowed, DiskTask.run_bind,
    DiskTask.run_lift]
  dsimp only
  rw [readFile?, DiskTask.run_bind, DiskTask.run_exists? followed, found]
  dsimp only [Option.isSome_some, if_true]
  rw [if_pos rfl, DiskTask.run_bind, DiskTask.run_readText followed found]
  cases Text.fileText? content with
  | error fault => rfl
  | ok text =>
    dsimp only
    cases layoutOfText (store.filePath copy contract network) text <;> rfl

/-- No copy is read under refused names. -/
theorem reading_of_refusal {failure : Failure} (copy : Copy) (disk : Disk)
    (refused : refusal? contract network = some failure) :
    store.reading disk copy contract network = .error failure := by
  rw [reading, read?, store.checkedPath_of_refusal copy refused, DiskTask.run_bind,
    DiskTask.run_lift]

/-- Where nothing is to be seen, nothing is read. -/
theorem reading_of_missing (allowed : Allowed contract network)
    (missing : disk.look (store.filePath copy contract network) = .ok none) :
    store.reading disk copy contract network = .ok none := by
  rw [reading, read?, checkedPath_of_allowed store copy allowed, DiskTask.run_bind,
    DiskTask.run_lift]
  dsimp only
  rw [readFile?, DiskTask.run_bind, DiskTask.run_exists?_eq, missing]
  rfl

/-- A copy is not read where its file cannot be seen. -/
theorem reading_of_unseen {kind : Kind} (allowed : Allowed contract network)
    (unseen : disk.look (store.filePath copy contract network) = .error kind) :
    store.reading disk copy contract network = .error (.plain kind) := by
  rw [reading, read?, checkedPath_of_allowed store copy allowed, DiskTask.run_bind,
    DiskTask.run_lift]
  dsimp only
  rw [readFile?, DiskTask.run_bind, DiskTask.run_exists?_eq, unseen]

/-- No copy is read where there is no file. -/
theorem reading_of_absent {place : Place} (allowed : Allowed contract network)
    (followed : disk.follow [] (store.filePath copy contract network) = .ok place)
    (absent : disk.node? place = none) :
    store.reading disk copy contract network = .ok none :=
  reading_of_missing allowed (by rw [Disk.look_of_follow followed, absent])

/-- A layout that is read is that of a file. -/
theorem file_of_reading {found : Layout}
    (read : store.reading disk copy contract network = .ok (some found)) :
    Allowed contract network ∧ ∃ place content text,
      disk.follow [] (store.filePath copy contract network) = .ok place ∧
      disk.node? place = some (.file content) ∧ Text.fileText? content = .ok text ∧
      layoutOfText (store.filePath copy contract network) text = .ok found := by
  rcases ended : (store.read? copy contract network).run.run disk with ⟨result, after⟩
  rw [reading, ended] at read
  cases read
  by_cases allowed : Allowed contract network
  case neg =>
    obtain ⟨failure, refused⟩ := checkedPath_of_not_allowed allowed
    rw [read?, refused] at ended
    cases ended
  rw [read?, checkedPath_of_allowed store copy allowed] at ended
  obtain ⟨path, _, ⟨⟩, reading⟩ := DiskTask.run_bind_eq_ok.1 ended
  obtain ⟨there, seen, looked, opened⟩ := DiskTask.run_bind_eq_ok.1 reading
  have kept := DiskTask.run_exists?_snd (store.filePath copy contract network) disk
  rw [looked] at kept
  subst kept
  split at opened
  · obtain ⟨text, _, readText, taken⟩ := DiskTask.run_bind_eq_ok.1 opened
    rw [map_eq_pure_bind] at taken
    obtain ⟨_, _, lifted, ⟨⟩⟩ := DiskTask.run_bind_eq_ok.1 taken
    obtain ⟨place, content, followed, found, decoded⟩ := DiskTask.run_readText_ok readText
    exact ⟨allowed, place, content, text, followed, found, decoded, congrArg Prod.fst lifted⟩
  · cases opened

/-- What is read of a copy is valid. -/
theorem valid_of_reading {found : Layout}
    (read : store.reading disk copy contract network = .ok (some found)) :
    found.Valid := by
  obtain ⟨-, -, -, text, -, -, -, taken⟩ := file_of_reading read
  exact valid_of_layoutOfText taken

/-- What is read of a held copy, if it can be read at all, is its layout. -/
theorem Holds.eq_of_reading (holds : store.Holds copy contract network layout disk)
    (valid : layout.Valid) {found : Option Layout}
    (read : store.reading disk copy contract network = .ok found) :
    found = some layout := by
  obtain ⟨now, followed, there⟩ := holds
  by_cases allowed : Allowed contract network
  case neg =>
    obtain ⟨failure, refused⟩ := checkedPath_of_not_allowed allowed
    rw [reading, read?, refused] at read
    cases read
  rw [reading_of_file allowed followed there, LayoutRecord.fileText?_fileText] at read
  dsimp only at read
  cases taken : layoutOfText (store.filePath copy contract network)
      (recordOf now contract network layout).fileText with
  | error failure =>
    rw [taken] at read
    cases read
  | ok layout' =>
    rw [taken] at read
    cases read
    rw [eq_of_layoutOfText_recordOf valid taken]

/-- A held copy of a valid layout can be read exactly when all of its entries have types. -/
theorem Holds.reading_eq_iff (holds : store.Holds copy contract network layout disk)
    (allowed : Allowed contract network) (valid : layout.Valid) :
    store.reading disk copy contract network = .ok (some layout) ↔ layout.Typed := by
  obtain ⟨now, followed, there⟩ := holds
  rw [reading_of_file allowed followed there, LayoutRecord.fileText?_fileText]
  dsimp only
  rw [← @layoutOfText_recordOf_iff (store.filePath copy contract network) now contract network
    layout valid]
  cases layoutOfText (store.filePath copy contract network)
    (recordOf now contract network layout).fileText <;> simp [Except.map]

/-- A copy is held as long as its file is not touched. -/
theorem Holds.keeps {touched : Place → Prop} (holds : store.Holds copy contract network layout disk)
    (keeps : Disk.Keeps touched disk after)
    (apart : ¬ touched (store.place copy contract network)) :
    store.Holds copy contract network layout after := by
  obtain ⟨now, followed, there⟩ := holds
  exact ⟨now, keeps.follow followed, keeps.node? apart nofun there⟩

/-! ## Discarding scratch copies -/

/-- A scratch copy that is there is discarded. -/
theorem run_discardScratch_of_stands (allowed : Allowed contract network)
    (followed : disk.follow [] (store.filePath .scratch contract network) =
      .ok (store.place .scratch contract network))
    (stands : disk.Stands (store.place .scratch contract network)) :
    (store.discardScratch contract network).run.run disk =
      (.ok (), disk.drop (store.place .scratch contract network)) := by
  obtain ⟨node, found, solid⟩ := stands
  rw [discardScratch, checkedPath_of_allowed store .scratch allowed]
  refine DiskTask.run_bind_eq_ok.2 ⟨_, _, rfl, DiskTask.run_bind_eq_ok.2 ⟨true, disk, ?_, ?_⟩⟩
  · rw [DiskTask.run_exists? followed, found]
    rfl
  · exact DiskTask.run_remove followed found solid

/-- Nothing is discarded under refused names. -/
theorem run_discardScratch_of_refusal {failure : Failure} (disk : Disk)
    (refused : refusal? contract network = some failure) :
    (store.discardScratch contract network).run.run disk = (.error failure, disk) := by
  rw [discardScratch, store.checkedPath_of_refusal .scratch refused, DiskTask.run_bind,
    DiskTask.run_lift]

/-- Where nothing is to be seen, nothing is discarded. -/
theorem run_discardScratch_of_missing (allowed : Allowed contract network)
    (missing : disk.look (store.filePath .scratch contract network) = .ok none) :
    (store.discardScratch contract network).run.run disk = (.ok (), disk) := by
  rw [discardScratch, checkedPath_of_allowed store .scratch allowed, DiskTask.run_bind,
    DiskTask.run_lift]
  dsimp only
  rw [DiskTask.run_bind, DiskTask.run_exists?_eq, missing]
  rfl

/-- Nothing is discarded where it cannot be seen. -/
theorem run_discardScratch_of_unseen {kind : Kind} (allowed : Allowed contract network)
    (unseen : disk.look (store.filePath .scratch contract network) = .error kind) :
    (store.discardScratch contract network).run.run disk = (.error (.plain kind), disk) := by
  rw [discardScratch, checkedPath_of_allowed store .scratch allowed, DiskTask.run_bind,
    DiskTask.run_lift]
  dsimp only
  rw [DiskTask.run_bind, DiskTask.run_exists?_eq, unseen]

end UpgradeGate.LayoutStore
