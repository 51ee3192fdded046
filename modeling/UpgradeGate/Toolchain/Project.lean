import UpgradeGate.Disk.Glob
import UpgradeGate.Deployment.Record
import UpgradeGate.Layout.CompilerOutput
import UpgradeGate.Workflow.Program

/-!
# Compiled projects

A project is a folder whose compiled contracts stand below an output folder, one file for each in a
folder for its source file. A contract is looked for in the folder named like itself, then in all
others. Its storage layout is taken from the compiled file if it is there, and otherwise asked of
the compiler, which is run as a command.
-/

namespace UpgradeGate

/-- A project and the command of its compiler. -/
structure Project where
  folder : Path
  output : Path
  binary : String
  deriving DecidableEq, Repr

/-- A command that is run in a folder. -/
structure ToolCall where
  words : List String
  folder : Path
  deriving DecidableEq, Repr

/-- What a command left behind when it ended. -/
structure ToolResult where
  status : Int
  output : String
  errors : String
  deriving DecidableEq, Repr

/-- The interface to tools. A command that is not there has no result. -/
abbrev tools : Interface where
  Call := ToolCall
  Reply := fun _ => Option ToolResult

namespace Project

/-- A project by the names of its folder, its output folder and its compiler. -/
def ofNames (folder : String) (output : String) (binary : String) : Project :=
  let path := Path.ofText folder
  ⟨path, path.child output, binary⟩

/-- A project with the usual output folder and compiler. -/
def usual (folder : String) : Project := ofNames folder "out" "forge"

/-- Where a compiled contract is looked for first. -/
def firstPath (project : Project) (contract : String) : Path :=
  (project.output.child (contract ++ ".sol")).child (contract ++ ".json")

/-- The pattern for a compiled contract in any folder. -/
def pattern (contract : String) : List String := Path.ofText ("*/" ++ contract ++ ".json")

/-- Where a compiled contract stands. -/
def locate (project : Project) (contract : String) (disk : Disk) : Except Failure Path :=
  match disk.look (project.firstPath contract) with
  | .error kind => .error (.plain kind)
  | .ok (some _) => .ok (project.firstPath contract)
  | .ok none =>
    if (pattern contract).any Glob.isMisplaced then .error (.value .misplacedStars)
    else
      match Glob.find disk (pattern contract) project.output with
      | .error kind => .error (.plain kind)
      | .ok (path :: _) => .ok path
      | .ok [] => .error (.toolchain (.noArtifact contract project.output.text))

/-- The document of a compiled contract. -/
def document (project : Project) (contract : String) (disk : Disk) : Except Failure Json := do
  let path ← project.locate contract disk
  let text ← ((DiskTask.readText path).run.run disk).1
  (Json.ofToolOutput text).mapError fun reason =>
    .toolchain (.unreadableArtifact path.text reason)

/-- A field of a document, which must be an object. -/
def fieldOf (document : Json) (key : String) : Except Failure (Option Json) :=
  match document with
  | .object members => .ok (Json.find? members key)
  | _ => .error (.plain .operation)

/-- The code in a compiled contract: a text, or an object that has the text. -/
def codeOf (document : Json) : Except Failure Json := do
  match (← fieldOf document "bytecode").getD (.string "") with
  | .object members => pure ((Json.find? members "object").getD (.string ""))
  | code => pure code

/-- Code with `0x` in front. -/
def tagged (code : String) : String := if code.startsWith "0x" then code else "0x" ++ code

/-- The compiled form of a contract. -/
def artifact (project : Project) (contract : String) (disk : Disk) : Except Failure Artifact := do
  let document ← project.document contract disk
  let code ← codeOf document
  if !code.isGiven then throw (.toolchain (.noBytecode contract))
  let code ← match code with
    | .string text => pure (tagged text)
    | _ => throw (.plain .operation)
  let interface := (← fieldOf document "abi").getD (.array [])
  let artifact ← (Artifact.check [("name", .string contract), ("abi", interface),
    ("bytecode", .string code)]).required .artifact
  if !artifact.hasBytecode then throw (.toolchain (.emptyBytecode contract))
  pure artifact

/-- The storage layout in the compiled contract, if there is one. -/
def storedLayout (project : Project) (contract : String) (disk : Disk) :
    Except Failure (Option Json) :=
  match project.document contract disk with
  | .ok document => do
    let found ← fieldOf document "storageLayout"
    pure (found.filter Json.isGiven)
  | .error (.toolchain _) => .ok none
  | .error failure => .error failure

/-- The command that prints a storage layout. -/
def inspection (project : Project) (contract : String) : ToolCall :=
  ⟨[project.binary, "inspect", contract, "storageLayout", "--json"], project.folder⟩

/-- The document that a command printed. -/
def printedDocument (project : Project) (contract : String) (result : Option ToolResult) :
    Except Failure Json :=
  match result with
  | none => .error (.toolchain (.binaryMissing project.binary))
  | some result =>
    if result.status != 0 then
      .error (.toolchain (.failed (" ".intercalate (project.inspection contract).words)
        (Text.trimmed result.errors)))
    else
      (Json.ofToolOutput (Text.trimmed result.output)).mapError fun reason =>
        .layout (.unreadableOutput contract reason)

/-- The storage layout of a contract as it is compiled now. -/
def layout (project : Project) (contract : String) (disk : Disk) :
    Program tools (Except Failure Layout) :=
  match project.storedLayout contract disk with
  | .error failure => pure (.error failure)
  | .ok (some document) => pure (CompilerOutput.layoutOf document (.string contract))
  | .ok none => do
    let result ← Program.request (I := tools) (project.inspection contract)
    pure do
      let document ← project.printedDocument contract result
      CompilerOutput.layoutOf document (.string contract)

end Project

end UpgradeGate
