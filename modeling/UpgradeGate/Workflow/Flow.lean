import UpgradeGate.Deployment.Log
import UpgradeGate.Workflow.Question
import UpgradeGate.Workflow.Tally

/-!
# Flows

A flow is a program of the workflow together with what it keeps: the disk, the deployment log, the
counts, and the stages of the attempt under way. A failure ends a flow and leaves in place what was
kept before.
-/

namespace UpgradeGate

/-- What the workflow keeps. -/
structure Books where
  disk : Disk
  log : LogConnection
  tally : Tally
  now : Moment
  /-- The stages that attempts went through, the latest at the end. -/
  stages : List Stage

/-- A part of the workflow that gives an `α` or fails. -/
abbrev Flow := ExceptT Failure (StateT Books (Program collaborators))

namespace Flow

variable {α : Type}

/-- Ask a collaborator. -/
def ask (question : Question) : Flow question.Answer := ExceptT.mk do
  let books ← get
  StateT.lift (Program.request (I := collaborators) (Request.mk question books.disk))

/-- Tell listeners of an event, whatever they make of it. -/
def announce (event : Event) : Flow Unit := ExceptT.mk do
  let _ ← (ask (.announce event)).run
  pure (.ok ())

/-- A result that depends on nothing that is kept. -/
def lift (result : Except Failure α) : Flow α := ExceptT.mk (pure result)

/-- Do something with the disk. -/
def onDisk (task : DiskTask α) : Flow α := ExceptT.mk do
  let books ← get
  let (result, disk) := task.run.run books.disk
  set { books with disk := disk }
  pure result

/-- Count something. -/
def count (change : Tally → Tally) : Flow Unit :=
  modify fun books => { books with tally := change books.tally }

/-- Note that the attempt under way has come to a stage. -/
def enter (stage : Stage) : Flow Unit :=
  modify fun books => { books with stages := books.stages ++ [stage] }

/-- Do something, and something else after it in any case. A failure of the latter wins. -/
def ensuring (cleanup : Flow Unit) (body : Flow α) : Flow α := ExceptT.mk do
  let result ← body.run
  match ← cleanup.run with
  | .ok () => pure result
  | .error failure => pure (.error failure)

/-- Do something more where a failure of a certain family ends a flow. -/
def onFailure (isMeant : Kind → Bool) (also : Flow Unit) (body : Flow α) : Flow α :=
  tryCatch body fun failure => do
    if isMeant failure.kind then also
    throw failure

/-! ## The deployment log -/

/-- The rows of the log. -/
def rows : Flow Ledger := do
  let books ← get
  lift (books.log.rows books.disk)

/-- Append a row to the log and tell its number. -/
def appendRow (row : Row) : Flow Nat := do
  let before ← rows
  let (number, after) := before.append row
  modify fun books =>
    let (log, disk) := books.log.withRows books.disk after
    { books with log := log, disk := disk }
  pure number

/-- Append a record to the log and tell its number. -/
def appendRecord [AddressRule] (record : DeploymentRecord) : Flow Nat := do
  let row ← lift (DeploymentLog.rowOf record)
  appendRow row

/-- The records of a contract, of a network, of both, or all. -/
def history (contract network : Option String) : Flow (List DeploymentRecord) := do
  let before ← rows
  lift (DeploymentLog.history (← get).now before contract network)

/-- The last record of a contract on a network. -/
def lastRecord? (contract network : String) : Flow (Option DeploymentRecord) := do
  let records ← history (some contract) (some network)
  pure records.getLast?

/-- The records of a proxy. -/
def recordsOfProxy (proxy : Address) : Flow (List DeploymentRecord) := do
  let before ← rows
  lift (DeploymentLog.forProxy (← get).now before proxy)

/-- The number of records. -/
def recordCount : Flow Nat := do
  let before ← rows
  pure before.length

/-- Close the log. -/
def closeLog : Flow Unit := modify fun books => { books with log := .closed }

/-- Open the log of a name, in place of the one before. -/
def openLog (name : String) : Flow Unit := do
  let log ← onDisk (LogConnection.connect name)
  modify fun books => { books with log := log }

end Flow

end UpgradeGate
