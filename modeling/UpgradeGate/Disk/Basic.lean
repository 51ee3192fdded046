import UpgradeGate.Deployment.Ledger
import UpgradeGate.Disk.Path
import UpgradeGate.Failure

/-!
# The disk

Files and folders below a working folder. A deployment log that is kept in a file is one node of
the disk, with its rows. Each task returns a result or a failure, and the disk as it is afterwards;
what was done before a failure stays done.

Main statements: what was put at a place is found there (`node?_put_self`), and putting a node at
one place leaves all other places alone (`node?_put_of_ne`).
-/

namespace UpgradeGate

/-- What stands at a place of the disk. -/
inductive Node where
  | folder
  | file (content : ByteArray)
  | database (rows : Ledger)

/-- A place on the disk: the names that lead there from the working folder. -/
abbrev Place := List String

/-- Files and folders by place. The working folder is there without being listed. -/
structure Disk where
  nodes : List (Place × Node)
  deriving Inhabited

/-- Something done with the disk. -/
abbrev DiskTask := ExceptT Failure (StateM Disk)

namespace Disk

/-- The disk with nothing on it. -/
def empty : Disk := ⟨[]⟩

/-- What stands at a place. -/
def node? (disk : Disk) (place : Place) : Option Node :=
  if place = [] then some .folder else disk.nodes.lookup place

/-- Put a node at a place. -/
def put (disk : Disk) (place : Place) (node : Node) : Disk := ⟨Table.put place node disk.nodes⟩

/-- Take away what stands at a place. -/
def drop (disk : Disk) (place : Place) : Disk := ⟨disk.nodes.filter fun found => found.1 != place⟩

/-- What was put at a place is there. -/
theorem node?_put_self (disk : Disk) {place : Place} (node : Node) (inside : place ≠ []) :
    (disk.put place node).node? place = some node := by
  simp [node?, put, inside, Table.lookup_put_self]

/-- Putting something at one place leaves the others as they are. -/
theorem node?_put_of_ne (disk : Disk) {place other : Place} (node : Node)
    (differ : other ≠ place) : (disk.put place node).node? other = disk.node? other := by
  simp [node?, put, Table.lookup_put_of_ne differ]

/-! ## Following paths -/

/-- The longest name of a file or folder, in bytes. -/
def longestName : Nat := 255

/-- The place that a path leads to from a place. All places on the way must be folders; what the
path leads to need not be there. -/
def follow (disk : Disk) : (start : Place) → Path → Except Kind Place
  | start, [] => .ok start
  | start, step :: rest =>
    match disk.node? start with
    | none => .error .fileMissing
    | some .folder =>
      if longestName < step.utf8ByteSize then .error .fileName
      else if step = ".." then disk.follow start.dropLast rest
      else disk.follow (start ++ [step]) rest
    | some _ => .error .notADirectory

/-- What a path leads to; nothing where it leads nowhere. A name that is too long is a failure. -/
def look (disk : Disk) (path : Path) : Except Kind (Option Node) :=
  match disk.follow [] path with
  | .ok place => .ok (disk.node? place)
  | .error .fileName => .error .fileName
  | .error _ => .ok none

/-- A path leads to a folder. -/
def isFolder (disk : Disk) (path : Path) : Bool :=
  match disk.look path with
  | .ok (some .folder) => true
  | _ => false

/-- The names in a folder. -/
def names (disk : Disk) (place : Place) : List String :=
  disk.nodes.filterMap fun (found, _) =>
    if found.dropLast = place then found.getLast? else none

/-- The places below a place, nearest first. -/
def below (disk : Disk) (place : Place) : List Place :=
  (disk.nodes.map Prod.fst).filter fun found => place.isPrefixOf found && found != place

end Disk

namespace DiskTask

/-- A failure that its family describes. -/
def fail {α : Type} (kind : Kind) : DiskTask α := throw (.plain kind)

/-- A result that does not depend on the disk. -/
def lift {α : Type} (result : Except Failure α) : DiskTask α := ExceptT.mk (pure result)

/-- A step that only looks at the disk. -/
def view {α : Type} (f : Disk → Except Kind α) : DiskTask α := do
  match f (← get) with
  | .ok value => pure value
  | .error kind => fail kind

/-- Whether a path leads to anything. -/
def exists? (path : Path) : DiskTask Bool := do
  pure (← view (·.look path)).isSome

/-- The bytes of a file. A log is no text. -/
def read (path : Path) : DiskTask ByteArray := do
  let place ← view (·.follow [] path)
  match (← get).node? place with
  | some (.file content) => pure content
  | some .folder => fail .isADirectory
  | some (.database _) => fail .undecodable
  | none => fail .fileMissing

/-- The text of a file. -/
def readText (path : Path) : DiskTask String := do
  match Text.fileText? (← read path) with
  | .ok text => pure text
  | .error fault => throw (.undecodable fault)

/-- Write a file in a folder that is there. -/
def write (path : Path) (content : ByteArray) : DiskTask Unit := do
  let place ← view (·.follow [] path)
  match (← get).node? place with
  | some .folder => fail .isADirectory
  | _ => modify (·.put place (.file content))

/-- Make the folders of a path, from a place on, as far as they are not there. -/
def makeFoldersFrom : (start : Place) → Path → DiskTask Unit
  | _, [] => pure ()
  | start, step :: rest => do
    let place ← view fun disk => disk.follow start [step]
    match (← get).node? place with
    | some .folder => makeFoldersFrom place rest
    | some _ => fail (if rest.isEmpty then .fileExists else .notADirectory)
    | none =>
      modify (·.put place .folder)
      makeFoldersFrom place rest

/-- Make the folders of a path as far as they are not there. -/
def makeFolders (path : Path) : DiskTask Unit := makeFoldersFrom [] path

/-- Move a file to where another one may stand. -/
def rename (source target : Path) : DiskTask Unit := do
  let start ← view (·.follow [] source)
  let place ← view (·.follow [] target)
  match (← get).node? start, (← get).node? place with
  | none, _ => fail .fileMissing
  | _, some .folder => fail .isADirectory
  | some node, _ => modify fun disk => (disk.drop start).put place node

/-- Remove a file. -/
def remove (path : Path) : DiskTask Unit := do
  let place ← view (·.follow [] path)
  match (← get).node? place with
  | none => fail .fileMissing
  | some .folder => fail .isADirectory
  | some _ => modify (·.drop place)

end DiskTask

end UpgradeGate
