import UpgradeGate.Rehearsal.Session

/-!
# Steps of a rehearsal

What can be done in a rehearsal, and what it answers. A step that fails leaves the rehearsal as it
is at that point, and the next step goes on from there.
-/

namespace UpgradeGate

/-- A layout as a step gives it: a contract and entries that are still to be checked. -/
structure GivenLayout where
  contract : Json
  entries : Json

/-- The layout that is given. -/
def GivenLayout.build (given : GivenLayout) : Except Failure Layout :=
  Layout.ofJson given.contract given.entries

/-- A change of how the chain misbehaves. -/
structure ChainChange where
  interleaved : Option Int
  ignoreUpgrades : Option Bool
  lowercase : Option Bool
  noAdminSlot : Option Bool
  /-- The address that deployments are to tell, which may be their own again. -/
  deployReturns : Option (Option String)

/-- The change made. -/
def ChainChange.apply (change : ChainChange) (options : ChainOptions) : ChainOptions where
  interleaved := change.interleaved.getD options.interleaved
  ignoreUpgrades := change.ignoreUpgrades.getD options.ignoreUpgrades
  lowercase := change.lowercase.getD options.lowercase
  noAdminSlot := change.noAdminSlot.getD options.noAdminSlot
  deployReturns := change.deployReturns.getD options.deployReturns

/-- A step of a rehearsal. -/
inductive Step where
  | storeWrite (copy : Copy) (contract network : String) (layout : GivenLayout)
  | storeRead (copy : Copy) (contract network : String)
  | storeDiscard (contract network : String)
  | storeList (network : Option String)
  /-- Hold a scratch copy, and fail with a family while it is held, if one is given. -/
  | storeHold (contract network : String) (layout : GivenLayout) (failing : Option Kind)
  | fileWrite (path : Path) (content : ByteArray)
  | fileMakeFolder (path : Path)
  | fileRemove (path : Path)
  | fileReplace (path : Path) (old new : String)
  | fileRead (path : Path)
  | fileList
  | setClock (now : Moment)
  | logAppend (fields : Json.Members)
  | logHistory (contract network : Option String)
  | logForProxy (proxy : Json)
  | logLatest (contract network : String)
  | logSize
  | logClose
  | logReopen (name : String)
  | databaseOpen (name : String)
  | databaseAppend (contract network proxy implementation data : Option String)
  | databaseQuery (filter : Filter)
  | databaseSize
  | databaseClose
  | chainChange (change : ChainChange)
  | chainNonce (account : String) (nonce : Int)
  | chainCode (account : String)
  | chainImplementation (proxy : String) (value : Option String)
  | chainAdmin (proxy : String) (value : Option String)
  | chainFail (question : String) (failure : Failure)
  | chainState
  | setLayout (contract : String) (layout : GivenLayout)
  | setLayoutFailure (contract : String) (failure : Failure)
  | setArtifactFailure (contract : String) (failure : Failure)
  | setPredictor (address : Option String)
  /-- Put a listener that fails in front of the others. -/
  | failListener (topic : String)
  | deployRaw (contract : String) (arguments : List Argument) (network sender : String)
  | deployProxy (contract : String) (initData : Bytes) (kind : Json) (admin : Option String)
      (network sender : String)
  | upgrade (order : UpgradeOrder)
  | check (contract network : String)
  | label (address name : String)
  | predictNext (sender : String)
  | recordMetric (outcome : String) (collisions : Int)
  | metrics
  | busSubscribe (topic : String) (listener : Listener)
  | busAnnounce (topic : String) (data : Json)
  | busListeners
  | projectArtifact (project : Project) (contract : String)
  | projectLayout (project : Project) (contract : String)
  | setTool (result : Option ToolResult)
  | setNode (change : NodeScript → NodeScript)
  | nodeNonce (account : String)
  | nodeCode (account : String)
  | nodeImplementation (proxy : String)
  | nodeAdmin (proxy : String)
  | nodeLabel (account name : String)
  | nodeLabels
  | nodeDeploy (artifact : Json.Members) (arguments : List Argument) (sender : String)
  | nodeUpgrade (proxy implementation : String) (data : Bytes) (sender : String)
      (admin : Option String)
  | commandLine (words : List String) (environment : Environment)

/-- What a step answers. -/
inductive Reply where
  | nothing
  | text (value : String)
  | textOrNothing (value : Option String)
  | number (value : Int)
  | verdict (value : Bool)
  | texts (values : List String)
  | layout (value : Option Layout)
  | keys (values : List (String × String))
  | records (values : List DeploymentRecord)
  | record (value : Option DeploymentRecord)
  | rows (values : List (Nat × String))
  | attempt (value : Attempt)
  | report (value : Report)
  | artifact (value : Artifact)
  | chain (value : RehearsalChain)
  | counts (values : List (String × Nat))
  | labels (values : Node.Labels)
  | usage (value : Usage)
  | ending (value : Ending)

namespace Step

open Session

/-- Carry out a command line. Its deployment log and its layouts are its own, its counts are those
of the rehearsal. -/
def playCommand (words : List String) (environment : Environment) : Play Reply := ExceptT.mk do
  match Invocation.ofWords words with
  | .error usage => pure (.ok (.usage usage))
  | .ok invocation =>
    let log := (← get).books.log
    let books := { (← get).books with log := .closed }
    let (result, books) ← Program.handle (answerCommand (Project.usual invocation.project))
      (Command.program invocation environment books)
    modify fun session => { session with books := { books with log := log } }
    pure (result.map .ending)

/-- Hold a scratch copy of a layout and look at it. -/
def hold (contract network : String) (layout : Layout) (failing : Option Kind) :
    Play (List String) := do
  let store := (← get).gate.store
  let _ ← onDisk (store.save (← get).books.now .scratch contract network layout)
  let body : Play Unit := do
    let held ← onDisk (store.read? .scratch contract network)
    let session ← get
    note (.held held (session.scratchFiles session.books.disk))
    match failing with
    | some kind => throw (.foreign kind "inside scratch")
    | none => pure ()
  let discard : Play Unit := onDisk (store.discardScratch contract network)
  tryCatch body fun failure => do
    discard
    throw failure
  discard
  let session ← get
  pure (session.scratchFiles session.books.disk)

/-- Steps with the layout store. -/
def playStore : Step → Play Reply
  | storeWrite copy contract network given => do
    let layout ← lift given.build
    let session ← get
    let path ← onDisk (session.gate.store.save session.books.now copy contract network layout)
    pure (.text path.text)
  | storeRead copy contract network => do
    let store := (← get).gate.store
    Reply.layout <$> onDisk (store.read? copy contract network)
  | storeDiscard contract network => do
    onDisk ((← get).gate.store.discardScratch contract network)
    pure .nothing
  | storeList network => do
    Reply.keys <$> onDisk ((← get).gate.store.list network)
  | storeHold contract network given failing => do
    let layout ← lift given.build
    Reply.texts <$> hold contract network layout failing
  | _ => pure .nothing

/-- Steps with files. -/
def playFile : Step → Play Reply
  | fileWrite path content => do
    onDisk (writeFile path content)
    pure .nothing
  | fileMakeFolder path => do
    onDisk (DiskTask.makeFolders path)
    pure .nothing
  | fileRemove path => do
    onDisk (removeAll path)
    pure .nothing
  | fileReplace path old new => do
    match ← onDisk (replaceInFile path old new) with
    | some count => pure (.number count)
    | none => pure .nothing
  | fileRead path => Reply.text <$> onDisk (DiskTask.readText path)
  | fileList => do pure (.texts (Session.fileList (← get).books.disk))
  | _ => pure .nothing

/-- A row whose columns are all given but the proxy. -/
def rowOf (contract network proxy implementation data : Option String) : Except Failure Row :=
  match contract, network, implementation, data with
  | some contract, some network, some implementation, some data =>
    .ok ⟨contract, network, proxy, implementation, data⟩
  | _, _, _, _ => .error (.plain .incompleteRow)

/-- Steps with deployment logs. -/
def playLog : Step → Play Reply
  | logAppend fields => do
    let record ← lift ((DeploymentRecord.check (← get).books.now fields).required
      .deploymentRecord)
    let number ← onFlow (Flow.appendRecord record)
    pure (.number number)
  | logHistory contract network => Reply.records <$> onFlow (Flow.history contract network)
  | logForProxy proxy => do
    let address ← lift (Address.ofJson proxy)
    Reply.records <$> onFlow (Flow.recordsOfProxy address)
  | logLatest contract network => Reply.record <$> onFlow (Flow.lastRecord? contract network)
  | logSize => do
    let count ← onFlow Flow.recordCount
    pure (.number count)
  | logClose => do
    onFlow Flow.closeLog
    pure .nothing
  | logReopen name => do
    onFlow Flow.closeLog
    onFlow (Flow.openLog name)
    let count ← onFlow Flow.recordCount
    pure (.number count)
  | databaseOpen name => do
    let connection ← onDisk (LogConnection.connect name)
    modify fun session => { session with database := some connection }
    pure .nothing
  | databaseAppend contract network proxy implementation data => do
    let number ← onDatabase do
      let _ ← Flow.rows
      let row ← Flow.lift (rowOf contract network proxy implementation data)
      Flow.appendRow row
    pure (.number number)
  | databaseQuery filter => do
    let rows ← onDatabase Flow.rows
    pure (.rows ((rows.select filter).map fun (number, row) => (number, row.data)))
  | databaseSize => do
    let rows ← onDatabase Flow.rows
    pure (.number rows.length)
  | databaseClose => do
    match (← get).database with
    | some _ => modify fun session => { session with database := some .closed }
    | none => throw (.plain .operation)
    pure .nothing
  | _ => pure .nothing

/-- Steps that change the stand-ins. -/
def playScript : Step → Play Reply
  | chainChange change => do
    modify fun session =>
      { session with
        chain := { session.chain with options := change.apply session.chain.options } }
    pure .nothing
  | chainNonce account nonce => do
    changeChain do
      let account ← RehearsalChain.address account
      modify (RehearsalChain.setNonce account nonce)
    pure .nothing
  | chainCode account => do
    changeChain do
      let account ← RehearsalChain.address account
      modify (RehearsalChain.addCode account)
    pure .nothing
  | chainImplementation proxy value => do
    changeChain do
      let proxy ← RehearsalChain.address proxy
      modify (RehearsalChain.setImplementation proxy value)
    pure .nothing
  | chainAdmin proxy value => do
    changeChain do
      let proxy ← RehearsalChain.address proxy
      modify (RehearsalChain.setAdmin proxy value)
    pure .nothing
  | chainFail question failure => do
    changeChain do
      modify fun chain => { chain with armed := Table.put question failure chain.armed }
    pure .nothing
  | chainState => do pure (.chain (← get).chain)
  | setLayout contract given => do
    let layout ← lift given.build
    modify fun session =>
      { session with
        script := { session.script with
          layouts := Table.put contract (.ok layout) session.script.layouts } }
    pure .nothing
  | setLayoutFailure contract failure => do
    modify fun session =>
      { session with
        script := { session.script with
          layouts := Table.put contract (.error failure) session.script.layouts } }
    pure .nothing
  | setArtifactFailure contract failure => do
    modify fun session =>
      { session with
        script := { session.script with
          artifacts := Table.put contract failure session.script.artifacts } }
    pure .nothing
  | setPredictor address => do
    let predictor := match address with
      | some address => Predictor.fixed address
      | none => .creation
    modify fun session => { session with gate := { session.gate with predictor := predictor } }
    pure .nothing
  | setTool result => do
    modify fun session => { session with tool := result }
    pure .nothing
  | setNode change => do
    modify fun session => { session with node := change session.node }
    pure .nothing
  | setClock now => do
    modify fun session => { session with books := { session.books with now := now } }
    pure .nothing
  | _ => pure .nothing

/-- Steps of the workflow. -/
def playWorkflow : Step → Play Reply
  | failListener topic => do
    modify fun session => { session with audience := hindered topic session.audience }
    pure .nothing
  | deployRaw contract arguments network sender => do
    let address ← onFlow (Gate.deployRaw contract arguments network sender)
    pure (.text address.text)
  | deployProxy contract initData kind admin network sender => do
    let gate := (← get).gate
    let address ← onFlow (gate.deployProxy contract initData kind admin network sender)
    pure (.text address.text)
  | upgrade order => do
    let gate := (← get).gate
    Reply.attempt <$> onFlow (gate.run order)
  | check contract network => do
    let gate := (← get).gate
    Reply.report <$> onFlow (gate.check contract network)
  | label address name => do
    onFlow (Gate.label address name)
    pure .nothing
  | predictNext sender => do
    let gate := (← get).gate
    Reply.text <$> onFlow (gate.predictNext sender)
  | recordMetric outcome collisions => do
    let session ← get
    let (result, tally) := session.books.tally.report outcome collisions
    set { session with books := { session.books with tally := tally } }
    lift result
    pure .nothing
  | metrics => do pure (.text (← get).books.tally.text)
  | _ => pure .nothing

/-- Steps with the event bus. -/
def playBus : Step → Play Reply
  | busSubscribe topic listener => do
    modify fun session => { session with bus := session.bus.subscribe topic listener }
    pure .nothing
  | busAnnounce topic data => do
    announceOnBus topic data
    pure .nothing
  | busListeners => do
    pure (.counts ((← get).bus.subscriptions.map fun (topic, all) => (topic, all.length)))
  | _ => pure .nothing

/-- Steps with a project and with the node. -/
def playAdapter : Step → Play Reply
  | projectArtifact project contract => do
    Reply.artifact <$> lift (project.artifact contract (← get).books.disk)
  | projectLayout project contract => do
    let disk := (← get).books.disk
    let layout ← (ExceptT.mk (Program.handle answerTool (project.layout contract disk)) : Play _)
    pure (.layout (some layout))
  | nodeNonce account => Reply.number <$> onNode (Node.transactionCount account)
  | nodeCode account => Reply.verdict <$> onNode (Node.hasCode account)
  | nodeImplementation proxy => Reply.textOrNothing <$> onNode (Node.implementationOf proxy)
  | nodeAdmin proxy => Reply.textOrNothing <$> onNode (Node.adminOf proxy)
  | nodeLabel account name => do
    onNode (Node.label account name)
    pure .nothing
  | nodeLabels => do pure (.labels (← get).labels)
  | nodeDeploy fields arguments sender => do
    let artifact ← lift ((Artifact.check fields).required .artifact)
    let patience := (← get).patience
    Reply.text <$> onNode (Node.deploy patience artifact arguments sender)
  | nodeUpgrade proxy implementation data sender admin => do
    let patience := (← get).patience
    onNode (Node.upgradeAndCall patience proxy implementation data sender admin)
    pure .nothing
  | _ => pure .nothing

/-- Carry out a step. -/
def play (step : Step) : Play Reply :=
  match step with
  | storeWrite .. | storeRead .. | storeDiscard .. | storeList .. | storeHold .. => playStore step
  | fileWrite .. | fileMakeFolder .. | fileRemove .. | fileReplace .. | fileRead .. | fileList =>
    playFile step
  | logAppend .. | logHistory .. | logForProxy .. | logLatest .. | logSize | logClose
  | logReopen .. | databaseOpen .. | databaseAppend .. | databaseQuery .. | databaseSize
  | databaseClose => playLog step
  | chainChange .. | chainNonce .. | chainCode .. | chainImplementation .. | chainAdmin ..
  | chainFail .. | chainState | setLayout .. | setLayoutFailure .. | setArtifactFailure ..
  | setPredictor .. | setTool .. | setNode .. | setClock .. => playScript step
  | failListener .. | deployRaw .. | deployProxy .. | upgrade .. | check .. | label ..
  | predictNext ..
  | recordMetric .. | metrics => playWorkflow step
  | busSubscribe .. | busAnnounce .. | busListeners => playBus step
  | projectArtifact .. | projectLayout .. | nodeNonce .. | nodeCode .. | nodeImplementation ..
  | nodeAdmin .. | nodeLabel .. | nodeLabels | nodeDeploy .. | nodeUpgrade .. => playAdapter step
  | commandLine words environment => playCommand words environment

end Step

namespace Session

/-- What came of a step: its answer, what the stand-ins saw, and what listeners heard. -/
structure Trace where
  result : Except Failure Reply
  seen : List Sighting
  heard : List Event

/-- What listeners took note of. -/
def noted (audience : Audience Listener) : List Event :=
  (audience.heard.filter (!·.listener.fails)).map Hearing.data

/-- Carry out a step, and what came of it. -/
def advance (session : Session) (step : Step) : Trace × Session :=
  let audience := { session.audience with heard := [] }
  let (result, after) := (Step.play step).run.run { session with seen := [], audience }
  (⟨result, after.seen, noted after.audience⟩, after)

/-- Carry out steps in order. -/
def playAll : Session → List Step → List Trace
  | _, [] => []
  | session, step :: rest =>
    let (trace, after) := session.advance step
    trace :: playAll after rest

end Session

end UpgradeGate
