import UpgradeGate.Proofs.Layout.Shelf

/-!
# The folder of a network

Below the root of a store, each network has a folder of its own. The part of a network is in order
if folders stand where the store makes folders, and files where it writes files
(`LayoutStore.Orderly`). What is read of the network is then told by a few places: the folders for
its copies, and the file of each copy (`Orderly.reading_congr`).

Work on the copies of a network is confined to its own places (`LayoutStore.Confined`), and keeps
its part in order (`Orderly.write`, `Orderly.discard`). So whatever is on the disk for other
networks makes no difference to what a copy is read as, nor to how writing and discarding end
(`Alike.write`, `Alike.discard`), and none of that is changed by them (`Confined.readings`).
-/

namespace UpgradeGate

namespace LayoutStore

variable {store : LayoutStore} {copy copy' : Copy} {contract contract' network other : String}
  {disk disk' after : Disk} {place : Place}

/-! ## Places of a network -/

/-- The place of the root folder. -/
def rootPlace (store : LayoutStore) : Place := Path.target [] store.root

/-- The place of the folder for one kind of copies. -/
def folderPlace (store : LayoutStore) (copy : Copy) (network : String) : Place :=
  store.rootPlace ++ wayTo copy network

/-- The folders for the copies of a network, their files, and where these are drafted. -/
def Within (store : LayoutStore) (network : String) (place : Place) : Prop :=
  (∃ copy, place = store.folderPlace copy network) ∨
    ∃ copy contract, store.Reaches copy contract network place

/-- What a name of a network reaches is below its folder. -/
theorem Reaches.exists_steps (reaches : store.Reaches copy contract network place) :
    ∃ rest, place = store.rootPlace ++ network :: rest := by
  obtain ⟨allowed, touched⟩ := reaches
  rcases touched with rfl | rfl
  · rw [place_eq store copy contract allowed.2]
    cases copy <;> exact ⟨_, rfl⟩
  · rw [draftPlace_eq store copy contract allowed.2]
    cases copy <;> exact ⟨_, rfl⟩

/-- What is within the part of a network is below its folder. -/
theorem Within.exists_steps (within : store.Within network place) :
    ∃ rest, place = store.rootPlace ++ network :: rest := by
  rcases within with ⟨copy, rfl⟩ | ⟨copy, contract, reaches⟩
  · cases copy <;> exact ⟨_, rfl⟩
  · exact reaches.exists_steps

/-- No place belongs to two networks. -/
theorem Within.network_eq (within : store.Within network place)
    (within' : store.Within other place) : network = other := by
  obtain ⟨_, rfl⟩ := within.exists_steps
  obtain ⟨_, same⟩ := within'.exists_steps
  exact (List.cons.inj (List.append_cancel_left same)).1

/-- The two kinds of copies have different folders. -/
theorem folderPlace_ne (copy copy' : Copy) (differ : copy ≠ copy') :
    store.folderPlace copy network ≠ store.folderPlace copy' network := by
  rw [folderPlace, folderPlace, Ne, List.append_cancel_left_eq]
  cases copy <;> cases copy' <;> simp_all [wayTo]

/-- The folders are no files. -/
theorem Reaches.ne_folderPlace (reaches : store.Reaches copy contract network place)
    (copy' : Copy) : place ≠ store.folderPlace copy' network := by
  obtain ⟨allowed, touched⟩ := reaches
  rcases touched with rfl | rfl
  · rw [place_eq store copy contract allowed.2, folderPlace, rootPlace, Ne,
      List.append_cancel_left_eq]
    cases copy <;> cases copy' <;> simp [stepsTo, wayTo, fileName_ne_scratchFolder]
  · rw [draftPlace_eq store copy contract allowed.2, folderPlace, rootPlace, Ne,
      List.append_cancel_left_eq]
    cases copy <;> cases copy' <;> simp [stepsTo, wayTo, draftName_ne_scratchFolder]

/-! ## Parts in order -/

/-- **The part of a network is in order**: the root is there, folders stand where folders belong and
files where files belong, and files are in folders that are there. -/
structure Orderly (store : LayoutStore) (network : String) (disk : Disk) : Prop where
  root : disk.follow [] store.root = .ok store.rootPlace
  rooted : disk.node? store.rootPlace = some .folder
  clear : ∀ copy, disk.Clear (store.folderPlace copy network)
  nested : disk.node? (store.folderPlace .scratch network) = some .folder →
    disk.node? (store.folderPlace .baseline network) = some .folder
  files : ∀ {copy contract place node}, store.Reaches copy contract network place →
    disk.node? place = some node → (∃ content, node = .file content) ∧
      disk.node? (store.folderPlace copy network) = some .folder

namespace Orderly

/-- Below an empty root folder the parts of all networks are in order. -/
theorem of_empty (root : disk.follow [] store.root = .ok store.rootPlace)
    (rooted : disk.node? store.rootPlace = some .folder) (blank : disk.below store.rootPlace = [])
    (network : String) : store.Orderly network disk := by
  have absent (step : String) (rest : Path) :
      disk.node? (store.rootPlace ++ step :: rest) = none := by
    refine Option.eq_none_iff_forall_ne_some.2 fun node found => ?_
    have listed : store.rootPlace ++ step :: rest ∈ disk.below store.rootPlace :=
      Disk.mem_below_iff.2 ⟨_, List.cons_ne_nil _ _, rfl, by rw [found]; rfl⟩
    rw [blank] at listed
    cases listed
  have unmade (copy : Copy) : disk.node? (store.folderPlace copy network) = none := by
    cases copy <;> exact absent network _
  refine ⟨root, rooted, fun copy => .inl (unmade copy), fun hidden => ?_, fun reaches found => ?_⟩
  · cases (unmade _).symm.trans hidden
  · obtain ⟨rest, rfl⟩ := reaches.exists_steps
    cases (absent network rest).symm.trans found

variable (orderly : store.Orderly network disk)
include orderly

/-- A log is not within the part of a network. -/
theorem not_within {rows : Ledger} (log : disk.node? place = some (.database rows)) :
    ¬ store.Within network place := by
  rintro (⟨copy, rfl⟩ | ⟨copy, contract, reaches⟩)
  · rcases orderly.clear copy with absent | folder
    · cases absent.symm.trans log
    · cases folder.symm.trans log
  · obtain ⟨⟨_, impossible⟩, -⟩ := orderly.files reaches log
    cases impossible

/-! ### Folders -/

/-- The folder of a network can be followed, made or not. -/
theorem follow_networkPath (allowed : isName network = true) (short : Short network) :
    disk.follow [] (store.networkPath network) = .ok (store.folderPlace .baseline network) := by
  rw [networkPath, Disk.follow_concat_of_folder orderly.root orderly.rooted short,
    Path.target_append, ← rootPlace, Path.target_of_down (by simpa using ne_up_of_isName allowed)]
  rfl

/-- The hidden folder of a network can be followed once the outer one is made. -/
theorem follow_hiddenPath (allowed : isName network = true) (short : Short network)
    (outer : disk.node? (store.folderPlace .baseline network) = some .folder) :
    disk.follow [] (store.folderPath .scratch network) =
      .ok (store.folderPlace .scratch network) := by
  have followed := orderly.follow_networkPath allowed short
  rw [folderPath, Disk.follow_concat_of_folder followed outer short_scratchFolder,
    Path.target_append, ← Disk.follow_eq_target followed,
    Path.target_of_down (by simp [scratchFolder]), folderPlace, folderPlace, List.append_assoc]
  rfl

/-- A folder that is there can be followed to. -/
theorem follow_folderPath (allowed : isName network = true) (short : Short network)
    (made : disk.node? (store.folderPlace copy network) = some .folder) :
    disk.follow [] (store.folderPath copy network) = .ok (store.folderPlace copy network) := by
  cases copy with
  | baseline => exact orderly.follow_networkPath allowed short
  | scratch => exact orderly.follow_hiddenPath allowed short (orderly.nested made)

/-- Where its folder is not there, no copy is to be seen. -/
theorem look_of_unmade (allowed : isName network = true) (short : Short network)
    (unmade : disk.node? (store.folderPlace copy network) = none) (contract : String) :
    disk.look (store.filePath copy contract network) = .ok none := by
  have missing : disk.follow [] (store.filePath copy contract network) = .error .fileMissing := by
    have followed := orderly.follow_networkPath allowed short
    rcases orderly.clear .baseline with absent | outer
    · rw [filePath_eq]
      have path : store.root ++ stepsTo copy network (contract ++ fileEnding) =
          store.networkPath network ++ (stepsTo copy network (contract ++ fileEnding)).tail := by
        cases copy <;> simp [networkPath, stepsTo]
      rw [path]
      cases copy <;> exact Disk.follow_of_missing followed absent
    · cases copy with
      | baseline => exact Disk.follow_of_missing followed unmade
      | scratch =>
        exact Disk.follow_of_missing (orderly.follow_hiddenPath allowed short outer) unmade
  rw [Disk.look_of_error missing]
  rfl

/-- The file of a copy can be followed once its folder is made. -/
theorem follow_filePath (allowed : isName network = true) (short : Short network)
    (made : disk.node? (store.folderPlace copy network) = some .folder)
    (fits : Short (contract ++ fileEnding)) :
    disk.follow [] (store.filePath copy contract network) =
      .ok (store.place copy contract network) :=
  Disk.follow_concat_of_folder (orderly.follow_folderPath allowed short made) made fits

/-- A file with too long a name cannot be followed. -/
theorem follow_of_long (allowed : isName network = true) (short : Short network)
    (made : disk.node? (store.folderPlace copy network) = some .folder) {name : String}
    (long : ¬ Short name) :
    disk.follow [] (store.folderPath copy network ++ [name]) = .error .fileName := by
  rw [Disk.follow_append, orderly.follow_folderPath allowed short made]
  exact Disk.follow_cons_of_long [] made (Nat.not_le.1 long)

/-- No file of a network with too long a name can be followed. -/
theorem follow_of_longNetwork (copy : Copy) (contract : String) (long : ¬ Short network) :
    disk.follow [] (store.filePath copy contract network) = .error .fileName := by
  rw [filePath_eq, Disk.follow_append, orderly.root]
  cases copy <;> exact Disk.follow_cons_of_long _ orderly.rooted (Nat.not_le.1 long)

/-- A copy whose names are not too long is not to be seen, or it is there as a file. -/
theorem missing_or_stands (allowed : Allowed contract network) (short : Short network)
    (fits : Short (contract ++ fileEnding)) :
    disk.look (store.filePath copy contract network) = .ok none ∨
      disk.follow [] (store.filePath copy contract network) =
          .ok (store.place copy contract network) ∧
        ∃ content, disk.node? (store.place copy contract network) = some (.file content) := by
  rcases orderly.clear copy with unmade | made
  · exact .inl (orderly.look_of_unmade allowed.2 short unmade contract)
  have followed := orderly.follow_filePath allowed.2 short made fits
  cases found : disk.node? (store.place copy contract network) with
  | none => exact .inl (by rw [Disk.look_of_follow followed, found])
  | some node =>
    obtain ⟨⟨content, rfl⟩, -⟩ := orderly.files ⟨allowed, .inl rfl⟩ found
    exact .inr ⟨followed, content, rfl⟩

/-! ### Reading -/

/-- Reading a copy of a network with too long a name fails. -/
theorem reading_of_longNetwork (allowed : Allowed contract network) (long : ¬ Short network) :
    store.reading disk copy contract network = .error (.plain .fileName) :=
  reading_of_unseen allowed (Disk.look_of_error (orderly.follow_of_longNetwork copy contract long))

/-- Without a folder, no copy is there. -/
theorem reading_of_unmade (allowed : Allowed contract network) (short : Short network)
    (unmade : disk.node? (store.folderPlace copy network) = none) :
    store.reading disk copy contract network = .ok none :=
  reading_of_missing allowed (orderly.look_of_unmade allowed.2 short unmade contract)

/-- Reading a file with too long a name fails once its folder is made. -/
theorem reading_of_long (allowed : Allowed contract network) (short : Short network)
    (made : disk.node? (store.folderPlace copy network) = some .folder)
    (long : ¬ Short (contract ++ fileEnding)) :
    store.reading disk copy contract network = .error (.plain .fileName) :=
  reading_of_unseen allowed (Disk.look_of_error (orderly.follow_of_long allowed.2 short made long))

/-- **What is read** of a copy is told by its folder and by what stands in its place. -/
theorem reading_congr (orderly' : store.Orderly network disk')
    (folder : disk'.node? (store.folderPlace copy network) =
      disk.node? (store.folderPlace copy network))
    (file : Allowed contract network → disk'.node? (store.place copy contract network) =
      disk.node? (store.place copy contract network)) :
    store.reading disk' copy contract network = store.reading disk copy contract network := by
  by_cases allowed : Allowed contract network
  case neg =>
    obtain ⟨failure, refused⟩ := exists_refusal allowed
    rw [reading_of_refusal copy disk refused, reading_of_refusal copy disk' refused]
  have file := file allowed
  by_cases short : Short network
  case neg => rw [orderly.reading_of_longNetwork allowed short,
    orderly'.reading_of_longNetwork allowed short]
  rcases orderly.clear copy with unmade | made
  · rw [orderly.reading_of_unmade allowed short unmade,
      orderly'.reading_of_unmade allowed short (folder.trans unmade)]
  by_cases fits : Short (contract ++ fileEnding)
  case neg => rw [orderly.reading_of_long allowed short made fits,
    orderly'.reading_of_long allowed short (folder.trans made) fits]
  have followed := orderly.follow_filePath allowed.2 short made fits
  have followed' := orderly'.follow_filePath allowed.2 short (folder.trans made) fits
  cases found : disk.node? (store.place copy contract network) with
  | none => rw [reading_of_absent allowed followed found,
      reading_of_absent allowed followed' (file.trans found)]
  | some node =>
    obtain ⟨⟨content, rfl⟩, -⟩ := orderly.files ⟨allowed, .inl rfl⟩ found
    rw [reading_of_file allowed followed found,
      reading_of_file allowed followed' (file.trans found)]

/-- Work that keeps the folders, and changes nothing within the part of a network, keeps it in order
and changes nothing that is read of it. -/
theorem unchanged {touched : Place → Prop} (keeps : Disk.Keeps touched disk after)
    (same : ∀ place, store.Within network place → after.node? place = disk.node? place) :
    store.Orderly network after ∧ ∀ copy contract,
      store.reading after copy contract network = store.reading disk copy contract network := by
  have folder (copy : Copy) : after.node? (store.folderPlace copy network) =
      disk.node? (store.folderPlace copy network) := same _ (.inl ⟨copy, rfl⟩)
  have file {copy contract place} (reaches : store.Reaches copy contract network place) :
      after.node? place = disk.node? place := same _ (.inr ⟨copy, contract, reaches⟩)
  have still : store.Orderly network after := by
    refine ⟨keeps.follow orderly.root, keeps.folder _ orderly.rooted, fun copy => ?_, ?_, ?_⟩
    · rw [Disk.Clear, folder]
      exact orderly.clear copy
    · rw [folder, folder]
      exact orderly.nested
    · intro copy contract place node reaches found
      rw [folder]
      exact orderly.files reaches ((file reaches).symm.trans found)
  exact ⟨still, fun copy contract => orderly.reading_congr still (folder copy) fun allowed =>
    file ⟨allowed, .inl rfl⟩⟩

end Orderly

/-! ## Opening folders -/

/-- The disk with the folder for one kind of copies of a network. -/
def opened (store : LayoutStore) (copy : Copy) (network : String) (disk : Disk) : Disk :=
  match copy with
  | .baseline => disk.withFolder (store.folderPlace .baseline network)
  | .scratch => (disk.withFolder (store.folderPlace .baseline network)).withFolder
      (store.folderPlace .scratch network)

/-- Making the folders of a network touches no file. -/
theorem keeps_opened (touched : Place → Prop) (store : LayoutStore) (copy : Copy)
    (network : String) (disk : Disk) :
    Disk.Keeps touched disk (store.opened copy network disk) := by
  cases copy with
  | baseline => exact Disk.keeps_withFolder ..
  | scratch => exact (Disk.keeps_withFolder ..).trans (Disk.keeps_withFolder ..)

/-- Making the folders of a network leaves all other places as they are. -/
theorem node?_opened_of_ne (disk : Disk) (copy : Copy)
    (differ : ∀ copy, place ≠ store.folderPlace copy network) :
    (store.opened copy network disk).node? place = disk.node? place := by
  cases copy with
  | baseline => exact Disk.node?_withFolder_of_ne _ (differ _)
  | scratch =>
    rw [opened, Disk.node?_withFolder_of_ne _ (differ _), Disk.node?_withFolder_of_ne _ (differ _)]

/-- The hidden folder is not made for baselines. -/
theorem node?_opened_baseline (disk : Disk) :
    (store.opened .baseline network disk).node? (store.folderPlace .scratch network) =
      disk.node? (store.folderPlace .scratch network) :=
  Disk.node?_withFolder_of_ne _ (folderPlace_ne _ _ nofun)

namespace Orderly

variable (orderly : store.Orderly network disk)
include orderly

/-- The folder is there then, and so is the folder of the network. -/
theorem made_opened (inside : copy' = .baseline ∨ copy = .scratch) :
    (store.opened copy network disk).node? (store.folderPlace copy' network) = some .folder := by
  cases copy with
  | baseline =>
    obtain rfl := inside.resolve_right nofun
    exact (orderly.clear .baseline).node?_withFolder
  | scratch =>
    have apart : store.folderPlace .scratch network ≠ store.folderPlace .baseline network :=
      folderPlace_ne _ _ nofun
    cases copy' with
    | baseline =>
      rw [opened, Disk.node?_withFolder_of_ne _ apart.symm]
      exact (orderly.clear .baseline).node?_withFolder
    | scratch =>
      refine Disk.Clear.node?_withFolder ?_
      rw [Disk.Clear, Disk.node?_withFolder_of_ne _ apart]
      exact orderly.clear .scratch

/-- The folder of a copy is there once the folders were made. -/
theorem made_opened_self (copy : Copy) :
    (store.opened copy network disk).node? (store.folderPlace copy network) = some .folder := by
  refine orderly.made_opened ?_
  cases copy with
  | baseline => exact .inl rfl
  | scratch => exact .inr rfl

/-- The part of a network stays in order when its folders are made. -/
theorem opened (copy : Copy) : store.Orderly network (store.opened copy network disk) := by
  have keeps := store.keeps_opened (fun _ => False) copy network disk
  refine ⟨keeps.follow orderly.root, keeps.folder _ orderly.rooted, fun copy' => ?_,
    fun _ => ?_, ?_⟩
  · by_cases inside : copy' = .baseline ∨ copy = .scratch
    · exact .inr (orderly.made_opened inside)
    · cases copy with
      | scratch => exact absurd (.inr rfl) inside
      | baseline =>
        cases copy' with
        | baseline => exact absurd (.inl rfl) inside
        | scratch =>
          rw [Disk.Clear, node?_opened_baseline]
          exact orderly.clear .scratch
  · exact orderly.made_opened (.inl rfl)
  · intro copy' contract place node reaches found
    rw [node?_opened_of_ne disk copy reaches.ne_folderPlace] at found
    obtain ⟨file, folder⟩ := orderly.files reaches found
    exact ⟨file, keeps.folder _ folder⟩

/-- The folders of a network can be made where its part is in order. -/
theorem run_makeFolders (copy : Copy) (allowed : isName network = true) (short : Short network) :
    (DiskTask.makeFolders (store.folderPath copy network)).run.run disk =
      (.ok (), store.opened copy network disk) := by
  have outer : Path.target store.rootPlace [network] = store.folderPlace .baseline network :=
    Path.target_of_down (by simpa using ne_up_of_isName allowed) _
  have begun (rest : Path) :
      (DiskTask.makeFolders (store.root ++ network :: rest)).run.run disk =
        (DiskTask.makeFoldersFrom (store.folderPlace .baseline network) rest).run.run
          (disk.withFolder (store.folderPlace .baseline network)) := by
    rw [DiskTask.makeFolders, DiskTask.run_makeFoldersFrom_append orderly.root orderly.rooted,
      DiskTask.run_makeFoldersFrom_of_clear orderly.rooted short (by
        rw [outer]
        exact orderly.clear .baseline), outer]
  rw [folderPath_eq]
  cases copy with
  | baseline => exact begun []
  | scratch =>
    have hidden : Path.target (store.folderPlace .baseline network) [scratchFolder] =
        store.folderPlace .scratch network := by
      rw [Path.target_of_down (by simp [scratchFolder]), folderPlace, folderPlace,
        List.append_assoc]
      rfl
    refine (begun [scratchFolder]).trans ?_
    rw [DiskTask.run_makeFoldersFrom_of_clear (orderly.clear .baseline).node?_withFolder
      short_scratchFolder _ [], hidden]
    · rfl
    · rw [hidden]
      exact (orderly.opened .baseline).clear .scratch

/-- Once a folder is there, no name in it can be read that is too long. -/
theorem reading_opened_of_long (inside : copy' = .baseline ∨ copy = .scratch)
    (allowed : Allowed contract network) (short : Short network)
    (long : ¬ Short (contract ++ fileEnding)) :
    store.reading (store.opened copy network disk) copy' contract network =
      .error (.plain .fileName) :=
  (orderly.opened copy).reading_of_long allowed short (orderly.made_opened inside) long

/-- All else is read as before. -/
theorem reading_opened (short : Short network)
    (apart : (copy' = .baseline ∨ copy = .scratch) → Short (contract ++ fileEnding)) :
    store.reading (store.opened copy network disk) copy' contract network =
      store.reading disk copy' contract network := by
  have file : Allowed contract network →
      (store.opened copy network disk).node? (store.place copy' contract network) =
        disk.node? (store.place copy' contract network) := by
    intro allowed
    have reaches : store.Reaches copy' contract network (store.place copy' contract network) :=
      ⟨allowed, .inl rfl⟩
    exact node?_opened_of_ne disk copy reaches.ne_folderPlace
  by_cases inside : copy' = .baseline ∨ copy = .scratch
  case neg =>
    refine orderly.reading_congr (orderly.opened copy) ?_ file
    cases copy with
    | scratch => exact absurd (.inr rfl) inside
    | baseline =>
      cases copy' with
      | baseline => exact absurd (.inl rfl) inside
      | scratch => exact node?_opened_baseline disk
  have made := orderly.made_opened inside
  rcases orderly.clear copy' with unmade | folder
  · by_cases allowed : Allowed contract network
    · -- the folder is new, so there is no file in it
      have absent : disk.node? (store.place copy' contract network) = none := by
        refine Option.eq_none_iff_forall_ne_some.2 fun node found => ?_
        obtain ⟨-, folder⟩ := orderly.files ⟨allowed, .inl rfl⟩ found
        cases unmade.symm.trans folder
      rw [orderly.reading_of_unmade allowed short unmade]
      exact reading_of_absent allowed
        ((orderly.opened copy).follow_filePath allowed.2 short made (apart inside))
        ((file allowed).trans absent)
    · obtain ⟨failure, refused⟩ := exists_refusal allowed
      rw [reading_of_refusal copy' _ refused, reading_of_refusal copy' _ refused]
  · exact orderly.reading_congr (orderly.opened copy) (made.trans folder.symm) file

end Orderly

/-! ## Confined work -/

/-- **Work is confined** to the part of a network: it keeps all folders, and outside of that part
everything stays as it was. -/
structure Confined (store : LayoutStore) (network : String) (before after : Disk) : Prop where
  keeps : Disk.Keeps (store.Within network) before after
  elsewhere : ∀ place, ¬ store.Within network place → after.node? place = before.node? place

namespace Confined

variable {before middle : Disk}

/-- Doing nothing is confined to the part of a network. -/
theorem refl (store : LayoutStore) (network : String) (disk : Disk) :
    Confined store network disk disk :=
  ⟨.refl _ _, fun _ _ => rfl⟩

theorem trans (first : Confined store network before middle)
    (second : Confined store network middle after) : Confined store network before after where
  keeps := first.keeps.trans second.keeps
  elsewhere place apart := (second.elsewhere place apart).trans (first.elsewhere place apart)

/-- Making the folders of a network is confined to its part. -/
theorem opened (store : LayoutStore) (copy : Copy) (network : String) (disk : Disk) :
    Confined store network disk (store.opened copy network disk) where
  keeps := store.keeps_opened _ copy network disk
  elsewhere _ apart := node?_opened_of_ne disk copy fun copy same => apart (.inl ⟨copy, same⟩)

/-- **Other networks** are not changed by confined work. -/
theorem readings (confined : Confined store network before after) (differ : network ≠ other)
    (orderly : store.Orderly other before) :
    store.Orderly other after ∧ ∀ copy contract,
      store.reading after copy contract other = store.reading before copy contract other :=
  orderly.unchanged confined.keeps fun place within =>
    confined.elsewhere place fun own => differ (own.network_eq within)

end Confined

/-! ## Writing -/

namespace Orderly

variable (orderly : store.Orderly network disk)
include orderly

/-- Where its folder is there and its names are not too long, a copy can be written. -/
theorem writable (allowed : Allowed contract network) (fits : Fits contract network)
    (made : disk.node? (store.folderPlace copy network) = some .folder) :
    store.Writable copy contract network disk := by
  have followed := orderly.follow_folderPath allowed.2 fits.1 made
  refine ⟨allowed, ⟨Disk.follow_concat_of_folder followed made fits.file,
    Disk.follow_concat_of_folder followed made fits.2⟩, fun place touched folder => ?_⟩
  obtain ⟨⟨_, impossible⟩, -⟩ := orderly.files ⟨allowed, touched⟩ folder
  cases impossible

variable (now : Moment) (layout : Layout)

/-- A copy with names that fit is written. -/
theorem run_write_of_fits (allowed : Allowed contract network) (fits : Fits contract network) :
    (store.write now copy contract network layout).run.run disk =
      (.ok (store.filePath copy contract network), store.written now copy contract network layout
        (store.opened copy network disk)) :=
  run_write_of_made now layout (orderly.run_makeFolders copy allowed.2 fits.1)
    ((orderly.opened copy).writable allowed fits (orderly.made_opened_self copy))

/-- A copy with too long a name is not written, but its folders are made. -/
theorem run_write_of_long (allowed : Allowed contract network) (short : Short network)
    (long : ¬ Fits contract network) :
    (store.write now copy contract network layout).run.run disk =
      (.error (.plain .fileName), store.opened copy network disk) := by
  have draft : ¬ Short (contract ++ fileEnding ++ ".tmp") := fun fits => long ⟨short, fits⟩
  have failed : (store.opened copy network disk).follow [] (store.draftPath copy contract network) =
      .error .fileName :=
    (orderly.opened copy).follow_of_long allowed.2 short (orderly.made_opened_self copy) draft
  rw [write_of_allowed store now copy layout allowed, DiskTask.run_bind,
    orderly.run_makeFolders copy allowed.2 short]
  dsimp only
  rw [DiskTask.run_bind, DiskTask.run_write_of_error failed]

/-- Nothing is done for a network with too long a name. -/
theorem run_write_of_longNetwork (allowed : Allowed contract network) (long : ¬ Short network) :
    (store.write now copy contract network layout).run.run disk =
      (.error (.plain .fileName), disk) := by
  have failed : (DiskTask.makeFolders (store.folderPath copy network)).run.run disk =
      (.error (.plain .fileName), disk) := by
    rw [folderPath_eq, DiskTask.makeFolders,
      DiskTask.run_makeFoldersFrom_append orderly.root orderly.rooted]
    cases copy <;>
      exact DiskTask.run_makeFoldersFrom_of_long _ orderly.rooted (Nat.not_le.1 long)
  rw [write_of_allowed store now copy layout allowed, DiskTask.run_bind, failed]

omit orderly in
/-- Confined work that leaves the folders as they were keeps a part in order, if after it files are
only where files belong, in folders that are there. -/
theorem of_folders (orderly : store.Orderly network disk) {after : Disk}
    (confined : Confined store network disk after)
    (folder : ∀ copy, after.node? (store.folderPlace copy network) =
      disk.node? (store.folderPlace copy network))
    (files : ∀ {copy contract place node}, store.Reaches copy contract network place →
      after.node? place = some node → (∃ content, node = .file content) ∧
        disk.node? (store.folderPlace copy network) = some .folder) :
    store.Orderly network after where
  root := confined.keeps.follow orderly.root
  rooted := confined.keeps.folder _ orderly.rooted
  clear copy := by
    rw [Disk.Clear, folder]
    exact orderly.clear copy
  nested := by
    rw [folder, folder]
    exact orderly.nested
  files reaches found := by
    rw [folder]
    exact files reaches found

omit orderly in
/-- Where a copy was written in a folder that is there, the part of the network is in order, and the
work was confined to it. -/
theorem written (orderly : store.Orderly network disk) (allowed : Allowed contract network)
    (fits : Fits contract network)
    (made : disk.node? (store.folderPlace copy network) = some .folder) :
    store.Orderly network (store.written now copy contract network layout disk) ∧
      Confined store network disk (store.written now copy contract network layout disk) := by
  have within {place : Place} (touched : store.Touches copy contract network place) :
      store.Within network place := .inr ⟨copy, contract, allowed, touched⟩
  have ended := run_write_of_made now layout (DiskTask.makeFoldersFrom_of_follow
    (orderly.follow_folderPath allowed.2 fits.1 made) made) (orderly.writable allowed fits made)
  have confined : Confined store network disk
      (store.written now copy contract network layout disk) :=
    ⟨(keeps_of_write ended).mono fun _ => within, fun place apart =>
      node?_written_of_not_touches now layout disk fun touched => apart (within touched)⟩
  have folder (copy' : Copy) : (store.written now copy contract network layout disk).node?
      (store.folderPlace copy' network) = disk.node? (store.folderPlace copy' network) := by
    refine node?_written_of_not_touches now layout disk fun touched => ?_
    have reaches : store.Reaches copy contract network (store.folderPlace copy' network) :=
      ⟨allowed, touched⟩
    exact reaches.ne_folderPlace copy' rfl
  refine ⟨orderly.of_folders confined folder ?_, confined⟩
  intro copy' contract' place node reaches found
  by_cases own : place = store.place copy contract network
  · rw [own, node?_written_self now layout disk allowed.2] at found
    cases found
    obtain ⟨allowed', touched⟩ := reaches
    rw [own, touches_place_iff allowed'.2 allowed.2] at touched
    obtain ⟨rfl, -, -⟩ := touched
    exact ⟨⟨_, rfl⟩, made⟩
  · have undrafted : place ≠ store.draftPlace copy contract network := by
      rintro rfl
      rw [node?_written_draft now layout disk allowed.2] at found
      cases found
    rw [node?_written_of_not_touches now layout disk (not_or.2 ⟨own, undrafted⟩)] at found
    exact orderly.files reaches found

/-- **Writing** a copy is confined to the part of its network and keeps that in order, however it
ends. -/
theorem write (copy : Copy) (contract : String) :
    let after := ((store.write now copy contract network layout).run.run disk).2
    store.Orderly network after ∧ Confined store network disk after := by
  by_cases allowed : Allowed contract network
  case neg =>
    obtain ⟨failure, refused⟩ := exists_refusal allowed
    rw [run_write_of_refusal now copy layout disk refused]
    exact ⟨orderly, .refl ..⟩
  by_cases short : Short network
  case neg =>
    rw [orderly.run_write_of_longNetwork now layout allowed short]
    exact ⟨orderly, .refl ..⟩
  by_cases fits : Fits contract network
  · rw [orderly.run_write_of_fits now layout allowed fits]
    obtain ⟨still, confined⟩ := (orderly.opened copy).written now layout allowed fits
      (orderly.made_opened_self copy)
    exact ⟨still, (Confined.opened ..).trans confined⟩
  · rw [orderly.run_write_of_long now layout allowed short fits]
    exact ⟨orderly.opened copy, .opened ..⟩

/-- No other copy is read otherwise then. -/
theorem reading_written_of_ne (allowed : Allowed contract network) (fits : Fits contract network)
    (made : disk.node? (store.folderPlace copy network) = some .folder)
    (differ : ¬ (copy' = copy ∧ contract' = contract)) :
    store.reading (store.written now copy contract network layout disk) copy' contract' network =
      store.reading disk copy' contract' network := by
  have still := (orderly.written now layout allowed fits made).1
  refine orderly.reading_congr still ?_ fun allowed' => ?_
  · refine node?_written_of_not_touches now layout disk fun touched => ?_
    have reaches : store.Reaches copy contract network (store.folderPlace copy' network) :=
      ⟨allowed, touched⟩
    exact reaches.ne_folderPlace copy' rfl
  · refine node?_written_of_not_touches now layout disk ?_
    rw [touches_place_iff allowed.2 allowed'.2]
    exact fun same => differ ⟨same.1, same.2.2⟩

/-! ## Discarding -/

omit now layout

/-- Dropping a file of a network is confined to its part, which stays in order. -/
theorem drop (reaches : store.Reaches copy contract network place) :
    store.Orderly network (disk.drop place) ∧ Confined store network disk (disk.drop place) := by
  have within : store.Within network place := .inr ⟨copy, contract, reaches⟩
  have solid : disk.node? place ≠ some .folder := by
    intro folder
    obtain ⟨⟨_, impossible⟩, -⟩ := orderly.files reaches folder
    cases impossible
  have confined : Confined store network disk (disk.drop place) := by
    refine ⟨(Disk.Keeps.drop disk solid).mono fun other same => ?_, fun other apart => ?_⟩
    · rwa [same]
    · refine Disk.node?_drop_of_ne disk ?_
      rintro rfl
      exact apart within
  have folder (copy' : Copy) : (disk.drop place).node? (store.folderPlace copy' network) =
      disk.node? (store.folderPlace copy' network) :=
    Disk.node?_drop_of_ne disk (reaches.ne_folderPlace copy').symm
  exact ⟨orderly.of_folders confined folder fun reaches' found =>
    orderly.files reaches' (Disk.node?_of_drop found), confined⟩

/-- A scratch copy whose names are not too long is discarded, if it is there, and nothing else. -/
theorem discard_of_short (allowed : Allowed contract network) (short : Short network)
    (fits : Short (contract ++ fileEnding)) :
    ∃ after, (store.discardScratch contract network).run.run disk = (.ok (), after) ∧
      store.Orderly network after ∧ Confined store network disk after ∧
      store.reading after .scratch contract network = .ok none ∧
      ∀ copy' contract', ¬ (copy' = .scratch ∧ contract' = contract) →
        store.reading after copy' contract' network =
          store.reading disk copy' contract' network := by
  have reaches : store.Reaches .scratch contract network
      (store.place .scratch contract network) := ⟨allowed, .inl rfl⟩
  rcases orderly.missing_or_stands allowed short fits with
    missing | ⟨followed, content, found⟩
  · exact ⟨disk, run_discardScratch_of_missing allowed missing, orderly, .refl ..,
      reading_of_missing allowed missing, fun _ _ _ => rfl⟩
  · obtain ⟨still, confined⟩ := orderly.drop reaches
    refine ⟨_, run_discardScratch_of_stands allowed followed ⟨_, found, nofun⟩, still, confined,
      ?_, fun copy' contract' differ => ?_⟩
    · exact reading_of_absent allowed (confined.keeps.follow followed)
        (Disk.node?_drop_self disk (place_ne_nil allowed.2))
    · refine orderly.reading_congr still
        (Disk.node?_drop_of_ne disk (reaches.ne_folderPlace copy').symm) fun allowed' => ?_
      refine Disk.node?_drop_of_ne disk fun same => differ ?_
      obtain ⟨first, -, second⟩ := (touches_place_iff allowed.2 allowed'.2).1 (.inl same)
      exact ⟨first, second⟩

/-- Where a name is refused or too long, discarding fails as reading does, and changes nothing. -/
theorem discard_of_not_short
    (long : ¬ (Allowed contract network ∧ Short network ∧ Short (contract ++ fileEnding))) :
    (store.discardScratch contract network).run.run disk =
      ((store.reading disk .scratch contract network).map fun _ => (), disk) := by
  by_cases allowed : Allowed contract network
  case neg =>
    obtain ⟨failure, refused⟩ := exists_refusal allowed
    rw [run_discardScratch_of_refusal disk refused, reading_of_refusal .scratch disk refused]
    rfl
  by_cases short : Short network
  case neg =>
    rw [orderly.reading_of_longNetwork allowed short]
    exact run_discardScratch_of_unseen allowed
      (Disk.look_of_error (orderly.follow_of_longNetwork .scratch contract short))
  have exceeds : ¬ Short (contract ++ fileEnding) := fun fits => long ⟨allowed, short, fits⟩
  rcases orderly.clear .scratch with unmade | made
  · rw [orderly.reading_of_unmade allowed short unmade]
    exact run_discardScratch_of_missing allowed
      (orderly.look_of_unmade allowed.2 short unmade contract)
  · rw [orderly.reading_of_long allowed short made exceeds]
    exact run_discardScratch_of_unseen allowed
      (Disk.look_of_error (orderly.follow_of_long allowed.2 short made exceeds))

/-- **Discarding** a scratch copy is confined to the part of its network and keeps that in order,
however it ends. -/
theorem discard (contract : String) :
    let after := ((store.discardScratch contract network).run.run disk).2
    store.Orderly network after ∧ Confined store network disk after := by
  by_cases fits : Allowed contract network ∧ Short network ∧ Short (contract ++ fileEnding)
  · obtain ⟨after, ended, still, confined, -⟩ :=
      orderly.discard_of_short fits.1 fits.2.1 fits.2.2
    rw [ended]
    exact ⟨still, confined⟩
  · rw [orderly.discard_of_not_short fits]
    exact ⟨orderly, .refl ..⟩

end Orderly

/-! ## Disks that are alike -/

/-- **Two disks are alike** to a network: its part is in order on both, and every copy is read as
the same, be it a layout, none, or a failure. -/
structure Alike (store : LayoutStore) (network : String) (disk disk' : Disk) : Prop where
  orderly : store.Orderly network disk
  orderly' : store.Orderly network disk'
  readings : ∀ copy contract,
    store.reading disk copy contract network = store.reading disk' copy contract network

namespace Alike

theorem refl (orderly : store.Orderly network disk) : store.Alike network disk disk :=
  ⟨orderly, orderly, fun _ _ => rfl⟩

theorem symm (alike : store.Alike network disk disk') : store.Alike network disk' disk :=
  ⟨alike.orderly', alike.orderly, fun copy contract => (alike.readings copy contract).symm⟩

/-- Being alike can be put together. -/
theorem trans {middle : Disk} (first : store.Alike network disk middle)
    (second : store.Alike network middle after) : store.Alike network disk after :=
  ⟨first.orderly, second.orderly', fun copy contract =>
    (first.readings copy contract).trans (second.readings copy contract)⟩

variable (alike : store.Alike network disk disk')
include alike

/-- Changing nothing that is read of a network keeps disks alike. -/
theorem of_readings {after' : Disk}
    (first : store.Orderly network after ∧ ∀ copy contract,
      store.reading after copy contract network = store.reading disk copy contract network)
    (second : store.Orderly network after' ∧ ∀ copy contract,
      store.reading after' copy contract network = store.reading disk' copy contract network) :
    store.Alike network after after' :=
  ⟨first.1, second.1, fun copy contract => by
    rw [first.2, second.2, alike.readings]⟩

/-- Disks stay alike when the folders of the network are made in both. -/
theorem opened (copy : Copy) (short : Short network) :
    store.Alike network (store.opened copy network disk) (store.opened copy network disk') := by
  refine ⟨alike.orderly.opened copy, alike.orderly'.opened copy, fun copy' contract => ?_⟩
  by_cases long : (copy' = .baseline ∨ copy = .scratch) → Short (contract ++ fileEnding)
  · rw [alike.orderly.reading_opened short long, alike.orderly'.reading_opened short long,
      alike.readings]
  · obtain ⟨inside, exceeds⟩ := Classical.not_imp.1 long
    by_cases allowed : Allowed contract network
    · rw [alike.orderly.reading_opened_of_long inside allowed short exceeds,
        alike.orderly'.reading_opened_of_long inside allowed short exceeds]
    · obtain ⟨failure, refused⟩ := exists_refusal allowed
      rw [reading_of_refusal copy' _ refused, reading_of_refusal copy' _ refused]

/-- **Writing** a copy ends alike on disks that are alike. -/
theorem write (now : Moment) (copy : Copy) (contract : String) (layout : Layout) :
    let ended := (store.write now copy contract network layout).run.run disk
    let ended' := (store.write now copy contract network layout).run.run disk'
    ended.1 = ended'.1 ∧ store.Alike network ended.2 ended'.2 := by
  by_cases allowed : Allowed contract network
  case neg =>
    obtain ⟨failure, refused⟩ := exists_refusal allowed
    rw [run_write_of_refusal now copy layout disk refused,
      run_write_of_refusal now copy layout disk' refused]
    exact ⟨rfl, alike⟩
  by_cases short : Short network
  case neg =>
    rw [alike.orderly.run_write_of_longNetwork now layout allowed short,
      alike.orderly'.run_write_of_longNetwork now layout allowed short]
    exact ⟨rfl, alike⟩
  have opened := alike.opened copy short
  by_cases fits : Fits contract network
  case neg =>
    rw [alike.orderly.run_write_of_long now layout allowed short fits,
      alike.orderly'.run_write_of_long now layout allowed short fits]
    exact ⟨rfl, opened⟩
  rw [alike.orderly.run_write_of_fits now layout allowed fits,
    alike.orderly'.run_write_of_fits now layout allowed fits]
  have made := alike.orderly.made_opened_self copy
  have made' := alike.orderly'.made_opened_self copy
  obtain ⟨written, confined⟩ := opened.orderly.written now layout allowed fits made
  obtain ⟨written', confined'⟩ := opened.orderly'.written now layout allowed fits made'
  refine ⟨rfl, written, written', fun copy' contract' => ?_⟩
  by_cases own : copy' = copy ∧ contract' = contract
  · obtain ⟨rfl, rfl⟩ := own
    refine written'.reading_congr written
      ((confined.keeps.folder _ made).trans (confined'.keeps.folder _ made').symm) fun _ => ?_
    rw [node?_written_self now layout _ allowed.2, node?_written_self now layout _ allowed.2]
  · rw [opened.orderly.reading_written_of_ne now layout allowed fits made own,
      opened.orderly'.reading_written_of_ne now layout allowed fits made' own, opened.readings]

/-- **Discarding** a scratch copy ends alike on disks that are alike. -/
theorem discard (contract : String) :
    let ended := (store.discardScratch contract network).run.run disk
    let ended' := (store.discardScratch contract network).run.run disk'
    ended.1 = ended'.1 ∧ store.Alike network ended.2 ended'.2 := by
  by_cases fits : Allowed contract network ∧ Short network ∧ Short (contract ++ fileEnding)
  case neg =>
    rw [alike.orderly.discard_of_not_short fits, alike.orderly'.discard_of_not_short fits,
      alike.readings]
    exact ⟨rfl, alike⟩
  obtain ⟨allowed, short, fits⟩ := fits
  obtain ⟨after, ended, still, -, gone, others⟩ :=
    alike.orderly.discard_of_short allowed short fits
  obtain ⟨after', ended', still', -, gone', others'⟩ :=
    alike.orderly'.discard_of_short allowed short fits
  rw [ended, ended']
  refine ⟨rfl, still, still', fun copy' contract' => ?_⟩
  by_cases own : copy' = .scratch ∧ contract' = contract
  · obtain ⟨rfl, rfl⟩ := own
    rw [gone, gone']
  · rw [others _ _ own, others' _ _ own, alike.readings]

end Alike

end LayoutStore

end UpgradeGate
