import UpgradeGate.Proofs.Disk.Names
import UpgradeGate.Proofs.Layout.StoreEffects

/-!
# Shelves

To its callers a layout store is two shelves, one for baselines and one for scratch copies, with at
most one layout for each network and contract. The store keeps shelves if below its root folder
stand the files of what is on them, and folders, and nothing else (`LayoutStore.Shelved`). Writing a
copy puts it on its shelf and changes nothing else there, reading finds what is there, and
discarding takes it away (`Shelved.write_fits`, `Shelved.read`, `Shelved.discard`).

Names that are allowed can still be too long for a file. A write then fails, after it may have made
folders, and the shelves stay as they are (`Shelved.write_overlong`).
-/

namespace UpgradeGate

/-- What a layout store keeps: for each kind of copies, network and contract, a layout or none. -/
abbrev Shelves := Copy → String × String → Option Layout

namespace Shelves

/-- Shelves with nothing on them. -/
def empty : Shelves := fun _ _ => none

/-- Shelves with something else, or nothing, in one place. -/
def set (shelves : Shelves) (copy : Copy) (key : String × String) (value : Option Layout) :
    Shelves :=
  fun other found => if other = copy ∧ found = key then value else shelves other found

variable {shelves : Shelves} {copy other : Copy} {key found : String × String}

/-- A value that was put on a shelf is there. -/
@[simp] theorem set_self (shelves : Shelves) (copy : Copy) (key : String × String)
    (value : Option Layout) : shelves.set copy key value copy key = value := by
  simp [set]

/-- Putting a value on a shelf leaves all others as they are. -/
theorem set_of_ne (value : Option Layout) (differ : ¬ (other = copy ∧ found = key)) :
    shelves.set copy key value other found = shelves other found :=
  if_neg differ

/-- What is on a shelf stays there when something is put up. -/
theorem isSome_set (copy : Copy) (key : String × String) (layout : Layout)
    (there : (shelves other found).isSome = true) :
    (shelves.set copy key (some layout) other found).isSome = true := by
  by_cases same : other = copy ∧ found = key
  · obtain ⟨rfl, rfl⟩ := same
    rw [set_self]
    rfl
  · rwa [set_of_ne _ same]

/-- Taking down what is not there changes nothing. -/
theorem set_none_of_absent (absent : shelves copy key = none) :
    shelves.set copy key none = shelves := by
  funext other found
  by_cases same : other = copy ∧ found = key
  · obtain ⟨rfl, rfl⟩ := same
    rw [set_self, absent]
  · exact set_of_ne none same

end Shelves

namespace LayoutStore

variable {store : LayoutStore} {root : Place} {shelves more : Shelves} {copy : Copy}
  {contract network : String} {steps : Path} {node : Node} {disk : Disk}

/-! ## Names that are too long -/

/-- A name is not too long for a file or a folder. -/
def Short (name : String) : Prop := name.utf8ByteSize ≤ Disk.longestName

theorem short_scratchFolder : Short scratchFolder := by
  unfold Short
  decide

/-- The names of a copy are not too long, its draft's included. -/
def Fits (contract network : String) : Prop :=
  Short network ∧ Short (contract ++ fileEnding ++ ".tmp")

/-- Names that fit leave room for the file. -/
theorem Fits.file (fits : Fits contract network) : Short (contract ++ fileEnding) := by
  have bound : (contract ++ fileEnding ++ ".tmp").utf8ByteSize ≤ Disk.longestName := fits.2
  rw [String.utf8ByteSize_append] at bound
  exact Nat.le_trans (Nat.le_add_right _ _) bound

/-- The steps from the root folder of a store to the folder for one kind of copies. -/
def wayTo (copy : Copy) (network : String) : Path :=
  match copy with
  | .baseline => [network]
  | .scratch => [network, scratchFolder]

/-- The folder of a copy is reached from the root folder. -/
theorem folderPath_eq (store : LayoutStore) (copy : Copy) (network : String) :
    store.folderPath copy network = store.root ++ wayTo copy network := by
  cases copy <;> simp [folderPath, networkPath, wayTo]

/-! ## What stands below the root -/

/-- What may stand below the root folder of a store: the folder of a network, a hidden folder, and
the file of what is on a shelf. -/
inductive IsPart (shelves : Shelves) : Path → Node → Prop where
  | network {network : String} (allowed : isName network = true) (short : Short network) :
      IsPart shelves [network] .folder
  | hidden (network : String) : IsPart shelves [network, scratchFolder] .folder
  | file {copy : Copy} {contract network : String} {layout : Layout} (content : ByteArray)
      (kept : shelves copy (network, contract) = some layout) :
      IsPart shelves (stepsTo copy network (contract ++ fileEnding)) (.file content)

namespace IsPart

/-- A part stays one while the copy whose file it is, if any, is kept. -/
theorem mono (part : IsPart shelves steps node)
    (keeps : ∀ copy contract network, steps = stepsTo copy network (contract ++ fileEnding) →
      (shelves copy (network, contract)).isSome = true →
        (more copy (network, contract)).isSome = true) : IsPart more steps node := by
  cases part with
  | network allowed short => exact .network allowed short
  | hidden network => exact .hidden network
  | file content kept =>
    obtain ⟨layout, there⟩ := Option.isSome_iff_exists.1 (keeps _ _ _ rfl (by rw [kept]; rfl))
    exact .file content there

/-- A part of the store right below the root is the folder of a network. -/
theorem of_network (part : IsPart shelves [network] node) :
    node = .folder ∧ isName network = true ∧ Short network := by
  generalize steps_eq : [network] = steps at part
  cases part with
  | network allowed short =>
    cases steps_eq
    exact ⟨rfl, allowed, short⟩
  | hidden => cases steps_eq
  | @file copy => cases copy <;> cases steps_eq

/-- In a folder for copies stand their files and, in that of a network, the hidden folder. -/
theorem of_stepsTo {name : String} (part : IsPart shelves (stepsTo copy network name) node) :
    node = .folder ∧ name = scratchFolder ∨
      ∃ contract content, node = .file content ∧ name = contract ++ fileEnding ∧
        (shelves copy (network, contract)).isSome = true := by
  generalize steps_eq : stepsTo copy network name = steps at part
  cases part with
  | network => cases copy <;> cases steps_eq
  | hidden =>
    cases copy with
    | baseline =>
      cases steps_eq
      exact .inl ⟨rfl, rfl⟩
    | scratch => cases steps_eq
  | file content kept =>
    obtain ⟨rfl, rfl, rfl⟩ := stepsTo_inj.1 steps_eq
    exact .inr ⟨_, content, rfl, rfl, by rw [kept]; rfl⟩

/-- At the place of a copy stands a file, if the copy is on its shelf, and nothing else. -/
theorem of_file (part : IsPart shelves (stepsTo copy network (contract ++ fileEnding)) node) :
    node ≠ .folder ∧ (shelves copy (network, contract)).isSome = true := by
  rcases part.of_stepsTo with ⟨-, same⟩ | ⟨_, _, rfl, same, on⟩
  · exact absurd same fileName_ne_scratchFolder
  · rw [fileName_inj.1 same]
    exact ⟨nofun, on⟩

/-- Nothing stands where a copy is drafted. -/
theorem not_draft :
    ¬ IsPart shelves (stepsTo copy network (contract ++ fileEnding ++ ".tmp")) node := by
  intro part
  rcases part.of_stepsTo with ⟨-, same⟩ | ⟨_, _, -, same, -⟩
  · exact draftName_ne_scratchFolder same
  · exact fileName_ne_draftName same.symm

end IsPart

/-- A store keeps shelves. -/
structure Shelved (store : LayoutStore) (root : Place) (shelves : Shelves) (disk : Disk) :
    Prop where
  followed : disk.follow [] store.root = .ok root
  folder : disk.node? root = some .folder
  unique : (disk.below root).Nodup
  /-- Below the root stands nothing but the parts of the store. -/
  parts : ∀ steps node, steps ≠ [] → disk.node? (root ++ steps) = some node →
    IsPart shelves steps node
  /-- What is on a shelf is in its place. -/
  kept : ∀ copy contract network layout, shelves copy (network, contract) = some layout →
    Allowed contract network ∧ layout.Valid ∧ layout.Typed ∧
      store.Holds copy contract network layout disk

namespace Shelved

/-- An empty root folder keeps empty shelves. -/
theorem of_empty (followed : disk.follow [] store.root = .ok root)
    (folder : disk.node? root = some .folder) (blank : disk.below root = []) :
    Shelved store root .empty disk where
  followed := followed
  folder := folder
  unique := by
    rw [blank]
    exact List.nodup_nil
  parts steps node more found := by
    have listed : root ++ steps ∈ disk.below root :=
      Disk.mem_below_iff.2 ⟨steps, more, rfl, by rw [found]; rfl⟩
    rw [blank] at listed
    cases listed
  kept _ _ _ _ := nofun

variable (shelved : Shelved store root shelves disk)
include shelved

/-- A path of the store is followed from the root folder. -/
theorem follow_eq (steps : Path) :
    disk.follow [] (store.root ++ steps) = disk.follow root steps := by
  rw [Disk.follow_append, shelved.followed]
  rfl

theorem root_eq : root = Path.target [] store.root := Disk.follow_eq_target shelved.followed

/-- The place of a copy below the root folder. -/
theorem place_eq (copy : Copy) (contract : String) (allowed : isName network = true) :
    store.place copy contract network =
      root ++ stepsTo copy network (contract ++ fileEnding) := by
  rw [shelved.root_eq, LayoutStore.place_eq store copy contract allowed]

/-- The place of a draft below the root folder. -/
theorem draftPlace_eq (copy : Copy) (contract : String) (allowed : isName network = true) :
    store.draftPlace copy contract network =
      root ++ stepsTo copy network (contract ++ fileEnding ++ ".tmp") := by
  rw [shelved.root_eq, LayoutStore.draftPlace_eq store copy contract allowed]

/-! ### Folders -/

/-- The folder of a network can be followed. -/
theorem follow_networkPath (allowed : isName network = true) (short : Short network) :
    disk.follow [] (store.networkPath network) = .ok (root ++ [network]) := by
  rw [networkPath, Disk.follow_concat_of_folder shelved.followed shelved.folder short,
    Path.target_append, ← shelved.root_eq,
    Path.target_of_down (by simpa using ne_up_of_isName allowed)]

/-- A folder of the store may be made. -/
theorem withFolder (part : IsPart shelves steps .folder) :
    Shelved store root shelves (disk.withFolder (root ++ steps)) := by
  have keeps := Disk.keeps_withFolder (fun _ => False) disk (root ++ steps)
  refine ⟨keeps.follow shelved.followed, keeps.folder _ shelved.folder,
    Disk.nodup_below_withFolder shelved.unique, fun steps' node more found => ?_, ?_⟩
  · rcases Disk.node?_of_withFolder found with before | ⟨same, rfl⟩
    · exact shelved.parts steps' node more before
    · rwa [List.append_cancel_left same]
  · intro copy contract network layout kept
    obtain ⟨allowed, valid, typed, holds⟩ := shelved.kept _ _ _ _ kept
    exact ⟨allowed, valid, typed, holds.keeps keeps not_false⟩

/-- A folder of the store is there or can be made. -/
theorem exists_folder {way : Path} {step : String} (here : disk.node? (root ++ way) = some .folder)
    (down : step ≠ "..") (short : Short step) (part : IsPart shelves (way ++ [step]) .folder)
    (alone : ∀ node, IsPart shelves (way ++ [step]) node → node = .folder) :
    ∃ opened, Shelved store root shelves opened ∧ Disk.Keeps (fun _ => False) disk opened ∧
      opened.node? (root ++ (way ++ [step])) = some .folder ∧
      ∀ rest, (DiskTask.makeFoldersFrom (root ++ way) (step :: rest)).run.run disk =
        (DiskTask.makeFoldersFrom (root ++ (way ++ [step])) rest).run.run opened := by
  have target : Path.target (root ++ way) [step] = root ++ (way ++ [step]) := by
    rw [Path.target_of_down (by simpa using down), List.append_assoc]
  have clear : disk.Clear (root ++ (way ++ [step])) := by
    cases found : disk.node? (root ++ (way ++ [step])) with
    | none => exact .inl found
    | some node =>
      rw [alone node (shelved.parts _ node (by simp) found)] at found
      exact .inr found
  refine ⟨_, shelved.withFolder part, Disk.keeps_withFolder .., clear.node?_withFolder,
    fun rest => ?_⟩
  rw [← target] at clear ⊢
  exact DiskTask.run_makeFoldersFrom_of_clear here short clear rest

/-- The folder for one kind of copies is there or can be made. -/
theorem exists_opened (copy : Copy) (allowed : isName network = true) (short : Short network) :
    ∃ opened folder, Shelved store root shelves opened ∧
      (DiskTask.makeFolders (store.folderPath copy network)).run.run disk = (.ok (), opened) ∧
      opened.follow [] (store.folderPath copy network) = .ok folder ∧
      opened.node? folder = some .folder := by
  have here : disk.node? (root ++ []) = some .folder := by
    rw [List.append_nil]
    exact shelved.folder
  obtain ⟨outer, outerShelved, -, made, outerRun⟩ := shelved.exists_folder here
    (ne_up_of_isName allowed) short (.network allowed short) fun _ part => part.of_network.1
  rw [List.append_nil, List.nil_append] at outerRun
  rw [List.nil_append] at made
  have outerFollowed := outerShelved.follow_networkPath allowed short
  have begun (rest : Path) :
      (DiskTask.makeFolders (store.root ++ network :: rest)).run.run disk =
        (DiskTask.makeFoldersFrom (root ++ [network]) rest).run.run outer :=
    (DiskTask.run_makeFoldersFrom_append shelved.followed shelved.folder _).trans (outerRun rest)
  cases copy with
  | baseline => exact ⟨outer, root ++ [network], outerShelved, begun [], outerFollowed, made⟩
  | scratch =>
    have alone (node : Node)
        (part : IsPart shelves (stepsTo .baseline network scratchFolder) node) :
        node = .folder := by
      rcases part.of_stepsTo with ⟨folder, -⟩ | ⟨_, _, -, same, -⟩
      · exact folder
      · exact absurd same.symm fileName_ne_scratchFolder
    obtain ⟨inner, innerShelved, keeps, hidden, innerRun⟩ := outerShelved.exists_folder made
      (by decide) short_scratchFolder (.hidden network) alone
    have innerFollowed := Disk.follow_concat_of_folder (keeps.follow outerFollowed)
      (keeps.folder _ made) short_scratchFolder
    have target : Path.target [] (store.networkPath network ++ [scratchFolder]) =
        root ++ ([network] ++ [scratchFolder]) := by
      rw [Path.target_append, ← Disk.follow_eq_target outerFollowed,
        Path.target_of_down (by simp [scratchFolder]), List.append_assoc]
    rw [target] at innerFollowed
    refine ⟨inner, root ++ ([network] ++ [scratchFolder]), innerShelved, ?_, innerFollowed, hidden⟩
    rw [folderPath_eq]
    exact (begun [scratchFolder]).trans (innerRun [])

/-! ### Writing -/

/-- In a folder that is there, a copy whose names are not too long can be written. -/
theorem writable {folder : Place} (allowed : Allowed contract network)
    (fits : Fits contract network)
    (followed : disk.follow [] (store.folderPath copy network) = .ok folder)
    (found : disk.node? folder = some .folder) :
    store.Writable copy contract network disk := by
  refine ⟨allowed, ⟨Disk.follow_concat_of_folder followed found fits.file,
    Disk.follow_concat_of_folder followed found fits.2⟩, ?_⟩
  rintro place (rfl | rfl) blocked
  · rw [shelved.place_eq copy contract allowed.2] at blocked
    have part := shelved.parts _ _ (by cases copy <;> exact nofun) blocked
    exact part.of_file.1 rfl
  · rw [shelved.draftPlace_eq copy contract allowed.2] at blocked
    exact IsPart.not_draft (shelved.parts _ _ (by cases copy <;> exact nofun) blocked)

/-- **Writing** puts a layout on its shelf. -/
theorem write_fits (now : Moment) (copy : Copy) (allowed : Allowed contract network)
    (fits : Fits contract network) {layout : Layout} (valid : layout.Valid)
    (typed : layout.Typed) : ∃ after,
      (store.write now copy contract network layout).run.run disk =
        (.ok (store.filePath copy contract network), after) ∧
      Shelved store root (shelves.set copy (network, contract) (some layout)) after := by
  obtain ⟨opened, folder, openedShelved, made, followed, found⟩ :=
    shelved.exists_opened copy allowed.2 fits.1
  have writable := openedShelved.writable allowed fits followed found
  have written := run_write_of_made now layout made writable
  have again := run_write_of_made now layout (DiskTask.makeFoldersFrom_of_follow followed found)
    writable
  have keeps := keeps_of_write again
  refine ⟨_, written, keeps.follow openedShelved.followed, keeps.folder _ openedShelved.folder,
    Disk.nodup_below_put (Disk.nodup_below_drop (Disk.nodup_below_put openedShelved.unique)),
    fun steps node more there => ?_, fun copy' contract' network' layout' kept => ?_⟩
  · by_cases own : root ++ steps = store.place copy contract network
    · rw [own, (run_write_ok written).2.2] at there
      cases there
      rw [shelved.place_eq copy contract allowed.2] at own
      rw [List.append_cancel_left own]
      exact .file _ (Shelves.set_self ..)
    · have undrafted : root ++ steps ≠ store.draftPlace copy contract network := by
        intro drafted
        rw [drafted, draft_gone written] at there
        cases there
      rw [node?_written_of_not_touches now layout opened (not_or.2 ⟨own, undrafted⟩)] at there
      exact (openedShelved.parts steps node more there).mono fun _ _ _ _ =>
        Shelves.isSome_set copy _ layout
  · by_cases own : copy' = copy ∧ (network', contract') = (network, contract)
    · obtain ⟨rfl, same⟩ := own
      cases same
      rw [Shelves.set_self] at kept
      cases kept
      exact ⟨allowed, valid, typed, holds_of_write written⟩
    · rw [Shelves.set_of_ne _ own] at kept
      obtain ⟨allowed', valid', typed', holds⟩ := openedShelved.kept _ _ _ _ kept
      refine ⟨allowed', valid', typed', holds.keeps keeps fun touched => own ?_⟩
      obtain ⟨rfl, rfl, rfl⟩ := (touches_place_iff allowed.2 allowed'.2).1 touched
      exact ⟨rfl, rfl⟩

/-- Where a name is too long, writing fails and leaves the shelves as they are. -/
theorem write_overlong (now : Moment) (copy : Copy) (layout : Layout)
    (allowed : Allowed contract network) (long : ¬ Fits contract network) : ∃ after,
      (store.write now copy contract network layout).run.run disk =
        (.error (.plain .fileName), after) ∧ Shelved store root shelves after := by
  rw [write_of_allowed store now copy layout allowed]
  by_cases short : Short network
  · obtain ⟨opened, folder, openedShelved, made, followed, found⟩ :=
      shelved.exists_opened copy allowed.2 short
    have draft : Disk.longestName < (contract ++ fileEnding ++ ".tmp").utf8ByteSize :=
      Nat.not_le.1 fun fits => long ⟨short, fits⟩
    have failed : opened.follow [] (store.draftPath copy contract network) = .error .fileName := by
      rw [draftPath, Disk.follow_append, followed]
      exact Disk.follow_cons_of_long [] found draft
    refine ⟨opened, ?_, openedShelved⟩
    rw [DiskTask.run_bind, made]
    dsimp only
    rw [DiskTask.run_bind, DiskTask.run_write_of_error failed]
  · refine ⟨disk, ?_, shelved⟩
    have failed : (DiskTask.makeFolders (store.folderPath copy network)).run.run disk =
        (.error (.plain .fileName), disk) := by
      rw [folderPath_eq, DiskTask.makeFolders,
        DiskTask.run_makeFoldersFrom_append shelved.followed shelved.folder]
      cases copy <;>
        exact DiskTask.run_makeFoldersFrom_of_long _ shelved.folder (Nat.not_le.1 short)
    rw [DiskTask.run_bind, failed]

/-! ### Reading and discarding -/

/-- Where no copy is on the shelf, no file is in its place. -/
theorem node?_place (allowed : isName network = true)
    (absent : shelves copy (network, contract) = none) :
    disk.node? (store.place copy contract network) = none := by
  cases found : disk.node? (store.place copy contract network) with
  | none => rfl
  | some node =>
    rw [shelved.place_eq copy contract allowed] at found
    have part := shelved.parts _ _ (by cases copy <;> exact nofun) found
    have there := part.of_file.2
    rw [absent] at there
    cases there

/-- The file of a copy that is not on its shelf is not to be seen, or its name is too long. -/
theorem look_of_absent (allowed : isName network = true)
    (absent : shelves copy (network, contract) = none) :
    disk.look (store.filePath copy contract network) = .ok none ∨
      ¬ Fits contract network ∧
        disk.look (store.filePath copy contract network) = .error .fileName := by
  cases followed : disk.follow [] (store.filePath copy contract network) with
  | ok place =>
    have own : place = store.place copy contract network := Disk.follow_eq_target followed
    rw [Disk.look_of_follow followed, own, shelved.node?_place allowed absent]
    exact .inl rfl
  | error kind =>
    rw [Disk.look_of_error followed]
    by_cases long : kind = .fileName
    · refine .inr ⟨fun fits => ?_, if_pos long⟩
      rw [long, filePath_eq, shelved.follow_eq] at followed
      obtain ⟨step, member, exceeds⟩ := Disk.exists_long_of_follow followed
      have short : Short step := by
        cases copy <;> simp only [stepsTo, List.mem_cons, List.not_mem_nil, or_false] at member
        · rcases member with rfl | rfl
          · exact fits.1
          · exact fits.file
        · rcases member with rfl | rfl | rfl
          · exact fits.1
          · exact short_scratchFolder
          · exact fits.file
      exact Nat.not_lt.2 short exceeds
    · exact .inl (if_neg long)

/-- **Reading** finds what is on the shelf. -/
theorem read (copy : Copy) (allowed : Allowed contract network) :
    store.reading disk copy contract network = .ok (shelves copy (network, contract)) ∨
      ¬ Fits contract network ∧
        store.reading disk copy contract network = .error (.plain .fileName) := by
  cases kept : shelves copy (network, contract) with
  | some layout =>
    obtain ⟨-, valid, typed, holds⟩ := shelved.kept _ _ _ _ kept
    exact .inl ((holds.reading_eq_iff allowed valid).2 typed)
  | none =>
    rcases shelved.look_of_absent allowed.2 kept with missing | ⟨long, unseen⟩
    · exact .inl (reading_of_missing allowed missing)
    · exact .inr ⟨long, reading_of_unseen allowed unseen⟩

/-- **Discarding** takes a scratch copy from its shelf. -/
theorem discard (allowed : Allowed contract network) :
    (∃ after, (store.discardScratch contract network).run.run disk = (.ok (), after) ∧
      Shelved store root (shelves.set .scratch (network, contract) none) after) ∨
    ¬ Fits contract network ∧ (store.discardScratch contract network).run.run disk =
      (.error (.plain .fileName), disk) := by
  cases kept : shelves .scratch (network, contract) with
  | none =>
    rcases shelved.look_of_absent allowed.2 kept with missing | ⟨long, unseen⟩
    · refine .inl ⟨disk, run_discardScratch_of_missing allowed missing, ?_⟩
      rwa [Shelves.set_none_of_absent kept]
    · exact .inr ⟨long, run_discardScratch_of_unseen allowed unseen⟩
  | some layout =>
    obtain ⟨-, -, -, now, followed, found⟩ := shelved.kept _ _ _ _ kept
    have keeps : Disk.Keeps (· = store.place .scratch contract network) disk
        (disk.drop (store.place .scratch contract network)) := by
      refine .drop disk ?_
      rw [found]
      exact nofun
    refine .inl ⟨_, run_discardScratch_of_stands allowed followed ⟨_, found, nofun⟩,
      keeps.follow shelved.followed, keeps.folder _ shelved.folder,
      Disk.nodup_below_drop shelved.unique, fun steps node more there => ?_,
      fun copy' contract' network' layout' kept' => ?_⟩
    · have own := shelved.place_eq .scratch contract allowed.2
      by_cases same : root ++ steps = store.place .scratch contract network
      · rw [same, Disk.node?_drop_self disk (by rw [own]; simp [stepsTo])] at there
        cases there
      · rw [Disk.node?_drop_of_ne disk same] at there
        refine (shelved.parts steps node more there).mono
          fun other contract' network' steps_eq on => ?_
        rwa [Shelves.set_of_ne none]
        rintro ⟨rfl, key⟩
        cases key
        exact same (by rw [own, steps_eq])
    · by_cases own : copy' = .scratch ∧ (network', contract') = (network, contract)
      · obtain ⟨rfl, same⟩ := own
        rw [same, Shelves.set_self] at kept'
        cases kept'
      · rw [Shelves.set_of_ne none own] at kept'
        obtain ⟨allowed', valid', typed', holds⟩ := shelved.kept _ _ _ _ kept'
        refine ⟨allowed', valid', typed', holds.keeps keeps fun touched => own ?_⟩
        obtain ⟨rfl, rfl, rfl⟩ := (touches_place_iff allowed.2 allowed'.2).1 (.inl touched)
        exact ⟨rfl, rfl⟩

end Shelved

end LayoutStore

end UpgradeGate
