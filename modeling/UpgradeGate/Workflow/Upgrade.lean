import UpgradeGate.Workflow.Deploy

/-!
# Upgrades

An upgrade compares the layout of a new implementation with the layout behind the proxy. Without
an override it only reports what it found and leaves the proxy alone. With an override the new
implementation is deployed and installed, whatever the comparison says. The deployed address has to
be the one that was predicted from the account's transactions: where it is not, another transaction
came between, and the proxy is left alone.

The layout behind the proxy is the baseline of the contract that the latest record of the proxy
names, for an implementation may have had another name.
-/

namespace UpgradeGate

/-- An upgrade as it is asked for. -/
structure UpgradeOrder where
  proxy : String
  contract : String
  network : String
  sender : String
  /-- What the new implementation is called with; nothing for a plain upgrade. -/
  initData : Option Bytes
  /-- The upgrade is to be installed, whatever the comparison says. -/
  override : Bool
  /-- The administrator of the proxy, if the caller names one. -/
  admin : Option String
  deriving DecidableEq, Repr

namespace Gate

/-- The latest record of a proxy on a network. -/
def latestRecord? (proxy : Address) (network : String) : Flow (Option DeploymentRecord) := do
  let records ← Flow.recordsOfProxy proxy
  pure (records.filter (·.network == network)).getLast?

/-- The layout behind a proxy: the baseline of the contract that its latest record names, else the
baseline of the new contract, else the empty layout. -/
def liveLayout (gate : Gate) (contract network : String) (previous : Option DeploymentRecord) :
    Flow Layout := do
  let live := (previous.map DeploymentRecord.contract).getD contract
  match ← Flow.onDisk (gate.store.read? .baseline live network) with
  | some layout => pure layout
  | none =>
    let other ←
      if live = contract then pure none
      else Flow.onDisk (gate.store.read? .baseline contract network)
    pure (other.getD (Layout.empty (some contract)))

/-- Compare the layout of a contract as it is compiled now with its baseline. -/
def check (gate : Gate) (contract network : String) : Flow Report := do
  let baseline ← gate.liveLayout contract network none
  let candidate ← Flow.ask (.layout contract)
  pure (baseline.compare candidate)

/-- The administrator to send an upgrade through: the one that is named, else the one that was
recorded. It must be a contract. -/
def administrator [AddressRule] (proxy : Address) (admin : Option String)
    (previous : Option DeploymentRecord) : Flow (Option Address) := do
  let recorded := previous.bind DeploymentRecord.admin
  match (admin.filter (!·.isEmpty)).orElse fun _ => recorded.filter (!·.isEmpty) with
  | none =>
    if previous.bind DeploymentRecord.kind = some .transparent then
      throw (.deployment (.adminUnknown proxy))
    pure none
  | some given =>
    let address ← Flow.lift (Address.parse given)
    if !(← Flow.ask (.hasCode address)) then throw (.deployment (.notAContract address))
    pure (some address)

/-- The address that the next deployment of an account will have. -/
def predictNext (gate : Gate) (sender : String) : Flow String :=
  match gate.predictor with
  | .fixed address => pure address
  | .creation => do
    let nonce ← Flow.ask (.transactionCount sender)
    Address.text <$> Flow.lift (Address.predict (.string sender) nonce)

/-- Deploy the new implementation and let the proxy point to it. -/
def fastPath [AddressRule] (gate : Gate) (order : UpgradeOrder) (proxy : Address)
    (previous : Option DeploymentRecord) (candidate : Layout) (compatible : Bool)
    (attempt : Attempt) : Flow Attempt := do
  Flow.enter .fastPath
  let admin ← administrator proxy order.admin previous
  let predicted ← gate.predictNext order.sender
  let implementation ← deployRaw order.contract [] order.network order.sender
  if !Address.sameAccount predicted implementation.text then
    Flow.count Tally.mismatch
    throw (.deployment (.addressMismatch predicted implementation))
  match order.initData with
  | some data =>
    Flow.ask (.upgradeAndCall proxy implementation data order.sender admin)
  | none => Flow.ask (.upgrade proxy implementation order.sender admin)
  let current ← Flow.ask (.implementationOf proxy)
  if !(current.any fun address => Address.sameAccount address implementation.text) then
    throw (.deployment (.notApplied proxy implementation current))
  Flow.enter .upgraded
  let finished := { attempt with
    stage := .upgraded
    outcome := if compatible then .passed else .collisionOverridden
    predicted := some predicted
    implementation := some implementation }
  let record ← stamped fun now =>
    { contract := order.contract
      network := order.network
      implementation := implementation.text
      proxy := some proxy.text
      kind := previous.bind DeploymentRecord.kind
      admin := admin.map Address.text
      action := .upgrade
      timestamp := Moment.text now }
  let _ ← Flow.appendRecord record
  let now := (← get).now
  let _ ← Flow.onDisk (gate.store.write now .baseline order.contract order.network candidate)
  Flow.announce (.completed finished)
  pure finished

/-- Report the comparison and leave the proxy alone. -/
def diffPath (compatible : Bool) (attempt : Attempt) : Flow Attempt := do
  Flow.enter .diffPath
  Flow.enter .blocked
  let finished := { attempt with
    stage := .blocked
    outcome := if compatible then .passed else .collisionBlocked }
  Flow.announce (.blocked finished)
  pure finished

/-- The part of an attempt for which a scratch copy of the baseline is held. -/
def attemptWith [AddressRule] (gate : Gate) (order : UpgradeOrder) (proxy : Address)
    (previous : Option DeploymentRecord) (fresh : Attempt) : Flow (Attempt × Report) := do
  let captured ← Flow.onDisk (gate.store.read? .scratch order.contract order.network)
  Flow.enter .baselineCaptured
  let candidate ← Flow.ask (.layout order.contract)
  match captured with
  | none => throw (.plain .operation)
  | some baseline =>
    let report := baseline.compare candidate
    let compared := { fresh with
      stage := .baselineCaptured
      baseline := some baseline
      candidate := some candidate
      compatible := some report.compatible
      diff := report.lines }
    let finished ←
      if order.override then
        gate.fastPath order proxy previous candidate report.compatible compared
      else diffPath report.compatible compared
    pure (finished, report)

/-- Hold a scratch copy of a layout while something is done, and remove it in any case. -/
def holdingScratch {α : Type} (gate : Gate) (contract network : String) (layout : Layout)
    (body : Flow α) : Flow α := do
  let now := (← get).now
  let _ ← Flow.onDisk (gate.store.write now .scratch contract network layout)
  body |> Flow.ensuring (Flow.onDisk (gate.store.discardScratch contract network))

/-- Carry out an upgrade as it is asked for. -/
def run [AddressRule] (gate : Gate) (order : UpgradeOrder) : Flow Attempt := do
  let proxy ← Flow.lift (Address.parse order.proxy)
  let fresh := Attempt.fresh order.contract order.network proxy.text order.override order.initData
  Flow.enter .start
  let previous ← latestRecord? proxy order.network
  let baseline ← gate.liveLayout order.contract order.network previous
  let (attempt, report) ←
    gate.holdingScratch order.contract order.network baseline
      (gate.attemptWith order proxy previous fresh)
    |> Flow.onFailure Kind.isDeployment (Flow.count (Tally.attempt "failed"))
  Flow.count (Tally.attempt attempt.outcome.name)
  Flow.count (Tally.collided report.collisions)
  pure attempt

end Gate

end UpgradeGate
