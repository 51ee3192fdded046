import UpgradeGate.Chain.Node
import UpgradeGate.Command.Run
import UpgradeGate.Event.Bus
import UpgradeGate.Rehearsal.Chain
import UpgradeGate.Toolchain.Project
import UpgradeGate.Workflow.Audience

/-!
# Rehearsals

A session in which the workflow, the stores and the command line are tried out against stand-ins:
a chain, a compiler that says what it is told to say, a tool that ends as it is told to end, and a
node. The session notes what the stand-ins are asked and what listeners hear.
-/

namespace UpgradeGate

/-- Something that a stand-in saw. -/
inductive Sighting where
  /-- A question of the workflow, with the scratch files there were. -/
  | question (question : Question) (scratch : List String)
  | tool (call : ToolCall)
  | node (call : NodeCall)
  | listener (name : String) (data : Json)
  /-- What a held scratch copy read as, with the scratch files there were. -/
  | held (layout : Option Layout) (scratch : List String)

/-- What the compiler of a rehearsal says. -/
structure Script where
  layouts : List (String × Except Failure Layout)
  artifacts : List (String × Failure)

/-- What the node of a rehearsal says. -/
structure NodeScript where
  nonce : Int
  code : Bytes
  storage : Bytes
  status : Json
  contract : Json
  transaction : Bytes

/-- What the node says until it is told otherwise. -/
def NodeScript.usual : NodeScript where
  nonce := 0
  code := []
  storage := List.replicate 32 0
  status := .int 1
  contract := .string "0x5fbdb2315678afecb367f032d93f642f64180aa3"
  transaction := List.replicate 32 0xab

/-- A rehearsal. -/
structure Session where
  books : Books
  gate : Gate
  chain : RehearsalChain
  script : Script
  /-- How tools end; nothing where there is no such tool. -/
  tool : Option ToolResult
  node : NodeScript
  labels : Node.Labels
  /-- Seconds to wait for receipts. -/
  patience : Nat
  /-- A deployment log beside that of the workflow, if one was opened. -/
  database : Option LogConnection
  bus : Bus
  /-- Who listens to the workflow. -/
  audience : Audience Listener
  seen : List Sighting

/-- What the listeners of a rehearsal make of a call: some fail. -/
def Listener.habits : Habits Listener := fun _ call =>
  ⟨if call.listener.fails then .error ⟨.ok call.listener.name⟩ else .ok (), id⟩

namespace Session

/-- Something done in a rehearsal. -/
abbrev Play := ExceptT Failure (StateM Session)

/-- Note something that a stand-in saw. -/
def note (sighting : Sighting) : StateM Session Unit :=
  modify fun session => { session with seen := session.seen ++ [sighting] }

/-- A result that does not depend on the session. -/
def lift {α : Type} (result : Except Failure α) : Play α := ExceptT.mk (pure result)

/-! ## Stand-ins -/

/-- Do something on the chain. -/
def onChain {α : Type} (task : RehearsalChain.Task α) : StateM Session (Except Failure α) := do
  let session ← get
  let (result, chain) := task.run.run session.chain
  set { session with chain := chain }
  pure result

/-- What the compiler says of the layout of a contract. -/
def Script.layout (script : Script) (contract : String) : Except Failure Layout :=
  (script.layouts.lookup contract).getD (.error (.toolchain (.noLayout contract)))

/-- What the compiler says of the compiled form of a contract. -/
def Script.artifact (script : Script) (contract : String) : Except Failure Artifact :=
  match script.artifacts.lookup contract with
  | some failure => .error failure
  | none => .ok ⟨contract, [], "0x6080"⟩

/-- The scratch files on a disk. -/
def scratchFiles (session : Session) (disk : Disk) : List String :=
  session.gate.store.scratchFiles disk

/-- Answer the workflow. -/
def answer : (request : Request) → StateM Session (Except Failure request.question.Answer)
  | ⟨.announce _, _⟩ => pure (.ok ())
  | ⟨.artifact contract, _⟩ => do pure (Script.artifact (← get).script contract)
  | ⟨.layout contract, disk⟩ => do
    note (.question (.layout contract) ((← get).scratchFiles disk))
    pure (Script.layout (← get).script contract)
  | ⟨question, _⟩ => do
    note (.question question [])
    onChain (RehearsalChain.answer question)

/-- Answer a tool call. -/
def answerTool (call : ToolCall) : StateM Session (Option ToolResult) := do
  note (.tool call)
  pure (← get).tool

/-- Answer the command line, whose compiler is that of a project. -/
def answerCommand (project : Project) :
    (request : Request) → StateM Session (Except Failure request.question.Answer)
  | ⟨.announce _, _⟩ => pure (.ok ())
  | ⟨.artifact contract, disk⟩ => pure (project.artifact contract disk)
  | ⟨.layout contract, disk⟩ => Program.handle answerTool (project.layout contract disk)
  | ⟨question, _⟩ => do
    note (.question question [])
    onChain (RehearsalChain.answer question)

/-- What the node says to a call. -/
def NodeScript.answer (script : NodeScript) : (call : NodeCall) → call.Answer
  | .transactionCount _ => script.nonce
  | .code _ => script.code
  | .storage _ _ => script.storage
  | .transact _ => script.transaction
  | .receipt _ _ => ⟨script.status, script.contract⟩

/-- Answer calls to the node. -/
def answerNode (call : NodeCall) : StateM Session (Except Failure call.Answer) := do
  note (.node call)
  pure (.ok (NodeScript.answer (← get).node call))

/-! ## Parts of the session -/

/-- Do something of the workflow, before those who listen. -/
def onFlow {α : Type} (flow : Flow α) : Play α := ExceptT.mk do
  let session ← get
  let ((result, books), audience) ← Program.handle answer
    ((flow.run.run session.books).attendedBy Listener.habits session.audience)
  modify fun session => { session with books := books, audience := audience }
  pure result

/-- Do something with the disk. -/
def onDisk {α : Type} (task : DiskTask α) : Play α := onFlow (Flow.onDisk task)

/-- Do something with the deployment log beside that of the workflow. -/
def onDatabase {α : Type} (flow : Flow α) : Play α := ExceptT.mk do
  let session ← get
  match session.database with
  | none => pure (.error (.plain .operation))
  | some log =>
    set { session with books := { session.books with log := log } }
    let result ← (onFlow flow).run
    modify fun after =>
      { after with
        database := some after.books.log
        books := { after.books with log := session.books.log } }
    pure result

/-- Do something with the node. -/
def onNode {α : Type} (task : Node.Task α) : Play α := ExceptT.mk do
  let (result, labels) ← Program.handle answerNode (task.run.run (← get).labels)
  modify fun session => { session with labels := labels }
  pure result

/-- Do something on the chain. -/
def changeChain (task : RehearsalChain.Task Unit) : Play Unit := ExceptT.mk (onChain task)

/-- How deep announcements may lie inside each other. The number is the rehearsal's own and stands
for the room on the stack, which would end a listener that announces its own topic without end. -/
def stackRoom : Nat := 200

/-- Announce something on the bus, noting the listeners that are called. -/
def announceOnBus (topic : String) (data : Json) : Play Unit := do
  let session ← get
  let after := ({ session.bus with calls := [] } : Bus).announce stackRoom topic data
  set { session with bus := after }
  for (name, data) in after.calls do note (.listener name data)

/-! ## Files -/

/-- Write a file, making the folders it needs. -/
def writeFile (path : Path) (content : ByteArray) : DiskTask Unit := do
  DiskTask.makeFolders path.dropLast
  DiskTask.write path content

/-- Remove a file, or a folder with all that is in it. -/
def removeAll (path : Path) : DiskTask Unit := do
  let place ← DiskTask.view (·.follow [] path)
  match (← get).node? place with
  | none => DiskTask.fail .fileMissing
  | some _ => modify fun disk => (disk.below place).foldl Disk.drop (disk.drop place)

/-- How often a text occurs, from left to right and without overlaps, and the text with another in
its place. -/
def replaceAll (old new : List Char) : (fuel : Nat) → List Char → Nat × List Char
  | 0, text => (0, text)
  | _ + 1, [] => (0, [])
  | fuel + 1, c :: rest =>
    match Text.behind? old (c :: rest) with
    | some behind =>
      let (count, after) := replaceAll old new fuel behind
      (count + 1, new ++ after)
    | none =>
      let (count, after) := replaceAll old new fuel rest
      (count, c :: after)

/-- Replace a text in a file, and tell how often it occurred; nothing where there is no file. -/
def replaceInFile (path : Path) (old new : String) : DiskTask (Option Nat) := do
  if ← DiskTask.exists? path then
    let text := (← DiskTask.readText path).toList
    let (count, after) := replaceAll old.toList new.toList (text.length + 1) text
    DiskTask.write path (String.ofList after).toUTF8
    pure (some count)
  else pure none

/-- The paths of all files, in ascending order. -/
def fileList (disk : Disk) : List String :=
  let files := disk.nodes.filterMap fun (place, node) =>
    match node with
    | .folder => none
    | _ => some ("/".intercalate place)
  files.mergeSort fun a b => !decide (b < a)

/-! ## Starting -/

/-- The topics of the workflow. -/
def topics : List String :=
  ["contract_labeled", "contract_deployed", "upgrade_completed", "upgrade_blocked"]

/-- One listener that takes note of all that the workflow announces. -/
def attentive : Audience Listener :=
  ⟨fun topic => if topic ∈ topics then [.plain "session"] else [], []⟩

/-- An audience with a listener that fails in front of the listeners of a topic. -/
def hindered (topic : String) (audience : Audience Listener) : Audience Listener :=
  { audience with
    listeners := fun other =>
      if other = topic then ⟨"failing", true, none, none⟩ :: audience.listeners other
      else audience.listeners other }

/-- A rehearsal with nothing but its stores. -/
def bare (now : Moment) (recordsBaselines : Bool) (patience : Nat) : Session where
  books := ⟨Disk.empty, .memory [], .zero, now, []⟩
  gate := ⟨⟨["layouts"]⟩, .creation, recordsBaselines⟩
  chain := .fresh
  script := ⟨[], []⟩
  tool := none
  node := .usual
  labels := []
  patience := patience
  database := none
  bus := .quiet
  audience := attentive
  seen := []

/-- Prepare the stores of a rehearsal, whose log has a name. -/
def prepare (log : String) : Play Unit := do
  onDisk (LayoutStore.create (← get).gate.store)
  let connection ← onDisk (LogConnection.connect log)
  modify fun session => { session with books := { session.books with log := connection } }

/-- A rehearsal that is ready to begin. -/
def start (now : Moment) (log : String) (recordsBaselines : Bool) (patience : Nat) : Session :=
  ((prepare log).run.run (bare now recordsBaselines patience)).2

end Session

end UpgradeGate
