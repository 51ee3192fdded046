import UpgradeGate.Command.Argument
import UpgradeGate.Command.Calldata
import UpgradeGate.Command.Invocation
import UpgradeGate.Deployment.Network
import UpgradeGate.Workflow.Upgrade

/-!
# Carrying out commands

What each command does and prints, and its exit status: 0 where it did what was asked, 1 where it
reports a failure, 2 where a layout collides. Layouts and the deployment log are kept in a folder
of their own; the log is opened by the commands that need it. The names that a command gives to
addresses are printed as they are given.

A command is carried out in front of a console, which may fail to print a text: one that its
character set has no characters for, for instance. Such a failure is reported as any other, except
that a name is left out.
-/

namespace UpgradeGate

/-- What a command ended with: its status and the texts that it printed, one after the other. -/
structure Ending where
  status : Nat
  prints : List String
  deriving DecidableEq, Repr

/-- All that a command printed. -/
def Ending.output (ending : Ending) : String := String.join ending.prints

/-- What comes of printing a text. -/
abbrev Console := String → Except Failure Unit

namespace Console

/-- The console that prints every text. -/
def free : Console := fun _ => .ok ()

/-- A console prints a text. -/
def takes (console : Console) (text : String) : Bool := (console text).isOk

/-- How printing texts fails, one after the other, if it does. -/
def refusal? (console : Console) : List String → Option Failure
  | [] => none
  | text :: rest =>
    match console text with
    | .ok () => console.refusal? rest
    | .error failure => some failure

end Console

namespace Command

/-- The status of a command that found a collision. -/
def collisionStatus : Nat := 2

/-- What all commands work with. -/
structure Context where
  invocation : Invocation
  environment : Environment
  home : Path
  network : Network
  gate : Gate

/-- Lines as they are printed, each on its own. -/
def printed (lines : List String) : List String := lines.map (· ++ "\n")

/-- The end of a command that did what was asked. -/
def done (lines : List String) : Ending := ⟨0, printed lines⟩

/-- A line of a table: its columns in their widths, and a last one as long as it is. -/
def tableRow (columns : List (Nat × String)) (last : String) : String :=
  String.join (columns.map fun (width, text) => Text.padRight width text ++ " ") ++ last

/-- A rule below the head of a table. -/
def tableRule (width : Nat) : String := String.ofList (List.replicate width '-')

/-- The lines of a comparison. -/
def diffLines (lines : List String) : List String :=
  (if lines.isEmpty then ["(no differences)"] else lines).map ("  " ++ ·)

/-! ## What commands need -/

/-- Prepare the folder of a command and what it works with. -/
def prepare (invocation : Invocation) (environment : Environment) : Flow Context := do
  let name := homeFolder invocation.home environment
  if name.isEmpty then throw (.plain .fileMissing)
  let home := Path.ofText name
  Flow.onDisk (DiskTask.makeFolders home)
  let network ← Flow.lift (Network.resolve invocation.network invocation.endpoint environment)
  let store : LayoutStore := ⟨home ++ ["layouts"]⟩
  Flow.onDisk store.create
  pure ⟨invocation, environment, home, network, ⟨store, .creation, true⟩⟩

/-- Open the deployment log. -/
def openLog (context : Context) : Flow Unit :=
  Flow.openLog (context.home ++ ["deployments.db"]).text

/-- The account that sends transactions. -/
def sender (context : Context) : Except Failure String :=
  match (given? context.invocation.sender).orElse fun _ => given? context.environment.sender with
  | some account => .ok account
  | none => .error (.command .senderRequired)

/-! ## Commands -/

/-- Record the layout of a contract as its baseline. -/
def layoutSnapshotOf (context : Context) (contract : String) : Flow Ending := do
  let layout ← Flow.ask (.layout contract)
  let now := (← get).now
  let network := context.network.name
  let path ← Flow.onDisk (context.gate.store.save now .baseline contract network layout)
  pure (done ["Baseline for " ++ contract ++ " on " ++ network ++ " saved to " ++ path.text ++
    " (" ++ Text.naturalText layout.size ++ " entries)"])

/-- Print the baseline of a contract. -/
def layoutShowOf (context : Context) (contract : String) : Flow Ending := do
  let network := context.network.name
  match ← Flow.onDisk (context.gate.store.read? .baseline contract network) with
  | none =>
    pure ⟨1, printed ["No baseline recorded for " ++ contract ++ " on " ++ network ++ "."]⟩
  | some layout =>
    let row (slot offset type label : String) : String :=
      tableRow [(6, slot), (7, offset), (40, type)] label
    let rows := layout.entries.map fun entry =>
      row (Text.naturalText entry.slot) (Text.naturalText entry.offset) entry.type entry.label
    pure (done (row "Slot" "Offset" "Type" "Label" :: tableRule 70 :: rows))

/-- Print which baselines there are. -/
def layoutListOf (context : Context) (all : Bool) : Flow Ending := do
  let network := if all then none else some context.network.name
  let keys ← Flow.onDisk (context.gate.store.list network)
  if keys.isEmpty then pure (done ["No baselines recorded."])
  else pure (done (keys.map fun (network, contract) => tableRow [(12, network)] contract))

/-- Compare the layout of a contract with its baseline. -/
def layoutDiffOf (context : Context) (contract : String) : Flow Ending := do
  openLog context
  let report ← context.gate.check contract context.network.name
  let verdict :=
    if report.compatible then "compatible"
    else "INCOMPATIBLE (" ++ Text.naturalText report.collisions ++ " collision(s))"
  let head := contract ++ " on " ++ context.network.name ++ ": " ++ verdict
  pure ⟨if report.compatible then 0 else collisionStatus, printed (head :: diffLines report.lines)⟩

/-- Deploy a contract that stands alone. -/
def deployOf [AddressRule] (context : Context) (contract : String) (arguments : List String) :
    Flow Ending := do
  openLog context
  let values ← Flow.lift (arguments.mapM Argument.ofWord)
  let account ← Flow.lift (sender context)
  let address ← Gate.deployRaw contract (values.map .value) context.network.name account
  pure (done [contract ++ " deployed at " ++ address.text])

/-- Deploy a contract behind a new proxy. -/
def deployProxyOf [AddressRule] (context : Context) (contract kind : String) (admin : Option String)
    (initData : String) : Flow Ending := do
  openLog context
  let data ← Flow.lift (Calldata.parse initData)
  let account ← Flow.lift (sender context)
  let proxy ← context.gate.deployProxy contract data (.string kind) admin context.network.name
    account
  pure (done [contract ++ " deployed behind " ++ kind ++ " proxy at " ++ proxy.text])

/-- The status of a command that made an attempt. -/
def attemptStatus (attempt : Attempt) : Nat :=
  if attempt.isBlocked && attempt.collisionFound then collisionStatus else 0

/-- An attempt as it is printed for people. -/
def attemptLines (attempt : Attempt) : List String :=
  ("Outcome: " ++ attempt.outcome.name ++ " (" ++ attempt.stage.name ++ ")") ::
    diffLines attempt.diff ++
    [if attempt.isUpgraded then
      "Proxy " ++ attempt.proxy ++ " now points to " ++
        ((attempt.implementation.map Address.text).getD "None")
    else "No upgrade transaction sent. Re-run with --override to upgrade."]

/-- Upgrade a proxy. -/
def upgradeOf [AddressRule] (context : Context) (proxy contract : String) (data : Option String)
    (override : Bool) (admin : Option String) (asJson : Bool) : Flow Ending := do
  openLog context
  let initData ← Flow.lift (data.mapM Calldata.parse)
  let account ← Flow.lift (sender context)
  let attempt ← context.gate.run
    ⟨proxy, contract, context.network.name, account, initData, override, admin⟩
  let lines :=
    if asJson then [Json.indentedText Json.asciiSpelling attempt.summary]
    else attemptLines attempt
  pure ⟨attemptStatus attempt, printed lines⟩

/-- Print the address of the next contract of an account. -/
def predictAddressOf (account : String) (nonce : Option Int) : Flow Ending := do
  let nonce ← match nonce with
    | some nonce => pure nonce
    | none => Flow.ask (.transactionCount account)
  let address ← Flow.lift (Address.predict (.string account) nonce)
  pure (done [address.text])

/-- Print the deployment log. -/
def historyOf (context : Context) (contract : Option String) (all : Bool) : Flow Ending := do
  openLog context
  let network := if all then none else some context.network.name
  let records ← Flow.history contract network
  if records.isEmpty then pure (done ["No deployments recorded."])
  else
    let row (time action contract implementation proxy : String) : String :=
      tableRow [(28, time), (13, action), (20, contract), (44, implementation)] proxy
    let rows := records.map fun record =>
      row record.timestamp record.action.name record.contract record.implementation
        ((given? record.proxy).getD "-")
    pure (done
      (row "Time" "Action" "Contract" "Implementation" "Proxy" :: tableRule 150 :: rows))

/-- Carry out a command. -/
def carryOut [AddressRule] (context : Context) : Flow Ending :=
  match context.invocation.command with
  | .layoutSnapshot contract => layoutSnapshotOf context contract
  | .layoutShow contract => layoutShowOf context contract
  | .layoutList all => layoutListOf context all
  | .layoutDiff contract => layoutDiffOf context contract
  | .deploy contract arguments => deployOf context contract arguments
  | .deployProxy contract kind admin initData => deployProxyOf context contract kind admin initData
  | .upgrade proxy contract data override admin asJson =>
    upgradeOf context proxy contract data override admin asJson
  | .predictAddress account nonce => predictAddressOf account nonce
  | .history contract all => historyOf context contract all
  | .metrics => do pure ⟨0, [(← get).tally.text]⟩

/-- The end of a command that failed, if its failure is reported. -/
def report (failure : Failure) : Except Failure Ending :=
  if failure.kind.isReported then .ok ⟨1, printed ["Error: " ++ failure.message]⟩
  else .error failure

/-- Report a failure on a console. A report that cannot be printed fails for good. -/
def reportOn (console : Console) (failure : Failure) : Except Failure Ending := do
  let ending ← report failure
  match console.refusal? ending.prints with
  | none => pure ending
  | some refusal => throw refusal

/-- What a command ends with on a console, from what carrying it out ends with. If something of it
cannot be printed, this is reported behind what was printed. -/
def conclude (console : Console) : Except Failure Ending → Except Failure Ending
  | .error failure => reportOn console failure
  | .ok ending =>
    match console.refusal? ending.prints with
    | none => .ok ending
    | some failure => do
      let error ← reportOn console failure
      pure { error with prints := ending.prints.takeWhile console.takes ++ error.prints }

/-! ## Names that are printed -/

/-- A program that keeps its announcements to itself and ends with them. -/
def overhear {α : Type} : Program collaborators α → Program collaborators (α × List Event)
  | .done result => .done (result, [])
  | .ask ⟨.announce event, _⟩ next => do
    let (result, events) ← overhear (next (.ok ()))
    pure (result, event :: events)
  | .ask request next => .ask request fun reply => overhear (next reply)

/-- The line that tells of a name given to an address. -/
def nameLine? : Event → Option String
  | .labelled address name => some ("  " ++ name ++ ": " ++ address)
  | _ => none

/-- What a command ends with on a console, the names it gave in front, and what it leaves. Names
that cannot be printed are left out. -/
def programOn [AddressRule] (console : Console) (invocation : Invocation)
    (environment : Environment) (books : Books) :
    Program collaborators (Except Failure Ending × Books) := do
  let work := prepare invocation environment >>= carryOut
  let ((result, books), events) ← overhear (work.run.run books)
  let names := (printed (events.filterMap nameLine?)).filter console.takes
  let ended := (conclude console result).map fun ending =>
    { ending with prints := names ++ ending.prints }
  pure (ended, books)

/-- What a command ends with where everything is printed, and what it leaves. -/
def program [AddressRule] : Invocation → Environment → Books →
    Program collaborators (Except Failure Ending × Books) :=
  programOn .free

end Command

end UpgradeGate
