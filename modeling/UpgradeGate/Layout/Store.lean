import UpgradeGate.Deployment.Timestamp
import UpgradeGate.Disk.Basic
import UpgradeGate.Layout.Record

/-!
# The layout store

Layouts are kept below a root folder, one file for each contract in a folder for its network. The
*baseline* of a contract is the layout that was last installed; the *scratch* copy, in a hidden
folder beside the baselines, is there while an upgrade is being tried.

A file is written beside its place first and then moved there, so that a reader never sees half of
it. Names become names of files and folders, and are checked before the disk is touched.
-/

namespace UpgradeGate

/-- A layout store, by its root folder. -/
structure LayoutStore where
  root : Path
  deriving DecidableEq, Repr

/-- Which copy of a contract's layout is meant. -/
inductive Copy where
  | baseline
  | scratch
  deriving DecidableEq, Repr

namespace LayoutStore

/-! ## Names -/

/-- A character that a name may have. -/
def isNameCharacter (c : Char) : Bool := c.isAlphanum || c == '_' || c == '.' || c == '-'

/-- A name without a line feed at its end. -/
def withoutLineFeed (name : List Char) : List Char :=
  if name.getLast? = some '\n' then name.dropLast else name

/-- A name that may become the name of a file: letters, digits, `_`, `.` and `-`, no point in
front. One line feed at the end is overlooked. -/
def isName (name : String) : Bool :=
  let body := withoutLineFeed name.toList
  !body.isEmpty && body.head? != some '.' && body.all isNameCharacter

/-- Refuse a name that must not become the name of a file. -/
def checkName (role : NameRole) (name : String) : Except Failure Unit :=
  if isName name then .ok () else .error (.value (.invalidName role name))

/-! ## Places -/

/-- The hidden folder for scratch copies. -/
def scratchFolder : String := ".scratch"

/-- The ending of layout files. -/
def fileEnding : String := ".json"

/-- The folder of a network. -/
def networkPath (store : LayoutStore) (network : String) : Path := store.root ++ [network]

/-- The folder of a network for one kind of copies. -/
def folderPath (store : LayoutStore) (copy : Copy) (network : String) : Path :=
  match copy with
  | .baseline => store.networkPath network
  | .scratch => store.networkPath network ++ [scratchFolder]

/-- The file of a copy. -/
def filePath (store : LayoutStore) (copy : Copy) (contract network : String) : Path :=
  store.folderPath copy network ++ [contract ++ fileEnding]

/-- The file of a copy whose names are allowed. -/
def checkedPath (store : LayoutStore) (copy : Copy) (contract network : String) :
    Except Failure Path := do
  checkName .contract contract
  checkName .network network
  pure (store.filePath copy contract network)

/-! ## Reading -/

/-- The layout in the text of a file at a path. -/
def layoutOfText (path : Path) (text : String) : Except Failure Layout :=
  match LayoutRecord.ofText text with
  | .accepted record =>
    if record.isSealed then .ok record.layout
    else .error (.layout (.wrongHash path.text))
  | .broken issues => .error (.layout (.malformedFile path.text issues))
  | .faulty fault => .error (.layout fault)

/-- The layout in a file, if the file is there. -/
def readFile? (path : Path) : DiskTask (Option Layout) := do
  if ← DiskTask.exists? path then
    let text ← DiskTask.readText path
    some <$> DiskTask.lift (layoutOfText path text)
  else pure none

/-- Read a copy, if there is one. -/
def read? (store : LayoutStore) (copy : Copy) (contract network : String) :
    DiskTask (Option Layout) := do
  let path ← DiskTask.lift (store.checkedPath copy contract network)
  readFile? path

/-! ## Writing -/

/-- A step of writing a file. -/
inductive WriteStep where
  | makeFolders (path : Path)
  | write (path : Path) (text : String)
  | rename (source target : Path)

/-- Carry out a step. -/
def WriteStep.run : WriteStep → DiskTask Unit
  | .makeFolders path => DiskTask.makeFolders path
  | .write path text => DiskTask.write path text.toUTF8
  | .rename source target => DiskTask.rename source target

/-- The file that a text is written to before it is moved to its place. -/
def draftPath (store : LayoutStore) (copy : Copy) (contract network : String) : Path :=
  store.folderPath copy network ++ [contract ++ fileEnding ++ ".tmp"]

/-- The record of a layout that is captured now, without a hash. -/
def captured (now : Moment) (contract network : String) (layout : Layout) : LayoutRecord :=
  ⟨LayoutRecord.currentVersion, contract, network, Moment.text now, layout, none⟩

/-- The record of a layout that is captured now. -/
def recordOf (now : Moment) (contract network : String) (layout : Layout) : LayoutRecord :=
  (captured now contract network layout).sealed

/-- The steps that write a record as a copy. -/
def writeSteps (store : LayoutStore) (copy : Copy) (record : LayoutRecord) : List WriteStep :=
  let draft := store.draftPath copy record.contract record.network
  [.makeFolders (store.folderPath copy record.network), .write draft record.fileText,
    .rename draft (store.filePath copy record.contract record.network)]

/-- Write a copy and tell where it is. That its slots have numerals is taken for granted. -/
def write (store : LayoutStore) (now : Moment) (copy : Copy) (contract network : String)
    (layout : Layout) : DiskTask Path := do
  let path ← DiskTask.lift (store.checkedPath copy contract network)
  (store.writeSteps copy (recordOf now contract network layout)).forM WriteStep.run
  pure path

/-- Write a copy of a layout as it comes from a file or a compiler: one with a slot that has no
numeral is refused, once its names are known to be allowed. -/
def save (store : LayoutStore) (now : Moment) (copy : Copy) (contract network : String)
    (layout : Layout) : DiskTask Path := do
  let _ ← DiskTask.lift (store.checkedPath copy contract network)
  let _ ← DiskTask.lift (captured now contract network layout).stamp
  store.write now copy contract network layout

/-- Remove the scratch copy of a contract, if there is one. -/
def discardScratch (store : LayoutStore) (contract network : String) : DiskTask Unit := do
  let path ← DiskTask.lift (store.checkedPath .scratch contract network)
  if ← DiskTask.exists? path then DiskTask.remove path

/-! ## Listing -/

/-- The contract of a layout file's name: what stands in front of the ending, or the whole name
where nothing does. -/
def contractOf? (name : String) : Option String :=
  if name.endsWith fileEnding then
    let front := String.ofList (name.toList.take (name.length - fileEnding.length))
    some (if front.isEmpty then name else front)
  else none

/-- A network and a contract come before others. -/
def keyBefore (a b : String × String) : Bool :=
  decide (a.1 < b.1) || (a.1 == b.1 && !decide (b.2 < a.2))

/-- The baselines in the folder of a network, if there is such a folder. -/
def baselinesIn (store : LayoutStore) (disk : Disk) (network : String) :
    Except Kind (List (String × String)) := do
  match ← disk.look (store.networkPath network) with
  | some .folder =>
    let place ← disk.follow [] (store.networkPath network)
    pure ((disk.names place).filterMap fun name => (contractOf? name).map (network, ·))
  | _ => pure []

/-- The names of all networks: all that stands in the root folder. -/
def networks (store : LayoutStore) (disk : Disk) : Except Kind (List String) := do
  let place ← disk.follow [] store.root
  match disk.node? place with
  | some .folder => pure (disk.names place)
  | some _ => .error .notADirectory
  | none => .error .fileMissing

/-- The network and contract of each baseline, of one network or of all, in ascending order. An
empty name of a network means all. -/
def list (store : LayoutStore) (network : Option String) : DiskTask (List (String × String)) := do
  let networks ← match network.filter (!·.isEmpty) with
    | some name => do
      DiskTask.lift (checkName .network name)
      pure [name]
    | none => DiskTask.view store.networks
  let found ← networks.mapM fun name => DiskTask.view (store.baselinesIn · name)
  pure (found.flatten.mergeSort keyBefore)

/-- Make the root folder of a store. -/
def create (store : LayoutStore) : DiskTask Unit := DiskTask.makeFolders store.root

/-- The scratch files of all networks, each with its network in front, in ascending order. -/
def scratchFiles (store : LayoutStore) (disk : Disk) : List String :=
  let found := match disk.follow [] store.root with
    | .ok root => (disk.names root).flatMap fun network =>
      (disk.names (root ++ [network, scratchFolder])).map fun name => network ++ "/" ++ name
    | .error _ => []
  found.mergeSort fun a b => !decide (b < a)

end LayoutStore

end UpgradeGate
