import UpgradeGate.Layout.Store
import UpgradeGate.Proofs.Disk.Tasks

/-!
# Where a layout store keeps its files

Below the root folder of a store, the files of different copies, contracts and networks have
different places, and none is where a file is drafted (`LayoutStore.touches_place_iff`): writing one
copy touches no file of another. That is so because an allowed name never leads up and the endings
of files and drafts differ.
-/

namespace UpgradeGate.LayoutStore

variable {store : LayoutStore} {copy copy' : Copy} {contract contract' network network' : String}

/-- The place of a copy's file. -/
def place (store : LayoutStore) (copy : Copy) (contract network : String) : Place :=
  Path.target [] (store.filePath copy contract network)

/-- The place where a copy's file is drafted. -/
def draftPlace (store : LayoutStore) (copy : Copy) (contract network : String) : Place :=
  Path.target [] (store.draftPath copy contract network)

/-- Writing a copy touches the place of its file and that of its draft. -/
def Touches (store : LayoutStore) (copy : Copy) (contract network : String)
    (place : Place) : Prop :=
  place = store.place copy contract network ∨ place = store.draftPlace copy contract network

/-- The steps from the root folder of a store to a file of one kind of copies. -/
def stepsTo (copy : Copy) (network name : String) : Path :=
  match copy with
  | .baseline => [network, name]
  | .scratch => [network, scratchFolder, name]

/-! ## Names -/

theorem fileName_inj : contract ++ fileEnding = contract' ++ fileEnding ↔ contract = contract' := by
  constructor
  · intro same
    have characters := congrArg String.toList same
    rw [String.toList_append, String.toList_append] at characters
    exact String.toList_inj.1 (List.append_cancel_right characters)
  · rintro rfl
    rfl

theorem fileName_ne_draftName : contract ++ fileEnding ≠ contract' ++ fileEnding ++ ".tmp" := by
  intro same
  have last := congrArg (fun name => name.toList.getLast?) same
  simp [fileEnding] at last

/-- No file is the hidden folder. -/
theorem fileName_ne_scratchFolder : contract ++ fileEnding ≠ scratchFolder := by
  intro same
  have last := congrArg (fun name => name.toList.getLast?) same
  simp [fileEnding, scratchFolder] at last

/-- No draft is the hidden folder. -/
theorem draftName_ne_scratchFolder : contract ++ fileEnding ++ ".tmp" ≠ scratchFolder := by
  intro same
  have last := congrArg (fun name => name.toList.getLast?) same
  simp [fileEnding, scratchFolder] at last

/-- No network is the way up. -/
theorem ne_up_of_isName (allowed : isName network = true) : network ≠ ".." := by
  rintro rfl
  exact absurd allowed (by decide)

/-- A name that ends in the ending of files does not lead up. -/
theorem fileName_ne_up (contract ending : String) : contract ++ fileEnding ++ ending ≠ ".." := by
  intro same
  have length := congrArg String.length same
  simp [fileEnding] at length
  have : ".json".length = 5 := by decide
  have : "..".length = 2 := by decide
  omega

/-! ## Places -/

/-- Different files are reached by different steps. -/
theorem stepsTo_inj {name name' : String} :
    stepsTo copy network name = stepsTo copy' network' name' ↔
      copy = copy' ∧ network = network' ∧ name = name' := by
  cases copy <;> cases copy' <;> simp [stepsTo]

/-- The steps to a file lead down. -/
theorem target_stepsTo (allowed : isName network = true) {name : String} (down : name ≠ "..")
    (start : Place) : Path.target start (stepsTo copy network name) =
      start ++ stepsTo copy network name := by
  have up := ne_up_of_isName allowed
  have hidden : scratchFolder ≠ ".." := by decide
  refine Path.target_of_down ?_ start
  cases copy <;> simp [stepsTo, up, hidden, down]

/-- The path of a file, from the root folder. -/
theorem filePath_eq (store : LayoutStore) (copy : Copy) (contract network : String) :
    store.filePath copy contract network =
      store.root ++ stepsTo copy network (contract ++ fileEnding) := by
  cases copy <;> simp [filePath, folderPath, networkPath, stepsTo]

/-- The path of a draft, from the root folder. -/
theorem draftPath_eq (store : LayoutStore) (copy : Copy) (contract network : String) :
    store.draftPath copy contract network =
      store.root ++ stepsTo copy network (contract ++ fileEnding ++ ".tmp") := by
  cases copy <;> simp [draftPath, folderPath, networkPath, stepsTo]

/-- The place of a file, from the root folder. -/
theorem place_eq (store : LayoutStore) (copy : Copy) (contract : String)
    (allowed : isName network = true) :
    store.place copy contract network =
      Path.target [] store.root ++ stepsTo copy network (contract ++ fileEnding) := by
  have down : contract ++ fileEnding ≠ ".." := by
    simpa using fileName_ne_up contract ""
  rw [place, filePath_eq, Path.target_append, target_stepsTo allowed down]

/-- The place of a draft, from the root folder. -/
theorem draftPlace_eq (store : LayoutStore) (copy : Copy) (contract : String)
    (allowed : isName network = true) :
    store.draftPlace copy contract network =
      Path.target [] store.root ++ stepsTo copy network (contract ++ fileEnding ++ ".tmp") := by
  rw [draftPlace, draftPath_eq, Path.target_append,
    target_stepsTo allowed (fileName_ne_up contract ".tmp")]

/-- **Files apart.** Writing a copy touches the file of no other copy. -/
theorem touches_place_iff (allowed : isName network = true) (allowed' : isName network' = true) :
    store.Touches copy contract network (store.place copy' contract' network') ↔
      copy' = copy ∧ network' = network ∧ contract' = contract := by
  rw [Touches, place_eq store copy' contract' allowed', place_eq store copy contract allowed,
    draftPlace_eq store copy contract allowed, List.append_cancel_left_eq,
    List.append_cancel_left_eq, stepsTo_inj, stepsTo_inj, fileName_inj]
  simp [fileName_ne_draftName]

theorem draftPlace_ne_nil (allowed : isName network = true) :
    store.draftPlace copy contract network ≠ [] := by
  rw [draftPlace_eq store copy contract allowed]
  cases copy <;> simp [stepsTo]

theorem place_ne_nil (allowed : isName network = true) :
    store.place copy contract network ≠ [] := by
  rw [place_eq store copy contract allowed]
  cases copy <;> simp [stepsTo]

/-- A draft stands in the place of no file. -/
theorem draftPlace_ne_place (allowed : isName network = true) (allowed' : isName network' = true) :
    store.draftPlace copy contract network ≠ store.place copy' contract' network' := by
  rw [draftPlace_eq store copy contract allowed, place_eq store copy' contract' allowed', Ne,
    List.append_cancel_left_eq, stepsTo_inj]
  exact fun same => fileName_ne_draftName same.2.2.symm

end UpgradeGate.LayoutStore
