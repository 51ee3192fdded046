import UpgradeGate.Disk.Basic

/-!
# Bundles

A bundle is one JSON object that holds the files of a folder: under the path of a file its text, and
under the path of a deployment log the list of its rows. Folders are in a bundle only as parts of
paths. Files that are no text have no place in it.

Main statement: the row of a log is read back from what is written for it (`rowOf?_rowJson`).
-/

namespace UpgradeGate.Bundle

/-- A row of a log as a bundle holds it. -/
def rowJson (row : Row) : Json :=
  .array [.string row.contract, .string row.network, (row.proxy.map Json.string).getD .null,
    .string row.implementation, .string row.data]

/-- The row that a value of a bundle stands for. -/
def rowOf? : Json → Option Row
  | .array [.string contract, .string network, .null, .string implementation, .string data] =>
    some ⟨contract, network, none, implementation, data⟩
  | .array [.string contract, .string network, .string proxy, .string implementation,
      .string data] =>
    some ⟨contract, network, some proxy, implementation, data⟩
  | _ => none

/-- A row is read back from its object. -/
theorem rowOf?_rowJson (row : Row) : rowOf? (rowJson row) = some row := by
  obtain ⟨contract, network, proxy, implementation, data⟩ := row
  cases proxy <;> rfl

/-- What a value of a bundle stands for. -/
def nodeOf? : Json → Option Node
  | .string text => some (.file text.toUTF8)
  | .array rows => (rows.mapM rowOf?).map .database
  | _ => none

/-- What a bundle holds for a node of the disk. -/
def nodeJson? : Node → Option Json
  | .folder => none
  | .file content => (String.fromUTF8? content).map .string
  | .database rows => some (.array (rows.map rowJson))

/-- Put a node at the end of a path, in folders that are made as they are needed. -/
def unpackNode (path : Path) (node : Node) : DiskTask Unit := do
  DiskTask.makeFolders path.dropLast
  let place ← DiskTask.view (·.follow [] path)
  modify (·.put place node)

/-- The disk that a bundle describes. What cannot be unpacked is left out. -/
def unpack (members : Json.Members) : Disk :=
  members.foldl
    (fun disk (path, value) =>
      match nodeOf? value with
      | some node => ((unpackNode (Path.ofText path) node).run.run disk).2
      | none => disk)
    .empty

/-- The bundle of a disk. -/
def pack (disk : Disk) : Json.Members :=
  disk.nodes.filterMap fun (place, node) =>
    (nodeJson? node).map fun value => (Path.text place, value)

end UpgradeGate.Bundle
