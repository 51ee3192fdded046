import UpgradeGate.Layout.Store
import UpgradeGate.Workflow.Flow

/-!
# Deployments

A contract is deployed alone, or as the implementation behind a new proxy. Every deployment is
recorded in the log, and its addresses are given names. Where baselines are recorded, the layout of
the implementation behind a new proxy becomes the baseline of its contract.
-/

namespace UpgradeGate

/-- How implementation addresses are predicted before they are deployed. -/
inductive Predictor where
  /-- From the sender and the number of transactions it has sent. -/
  | creation
  /-- Always the same, whatever the chain says. -/
  | fixed (address : String)
  deriving DecidableEq, Repr

/-- How the workflow is set up. -/
structure Gate where
  store : LayoutStore
  predictor : Predictor
  /-- Whether a new proxy records the baseline of its contract. -/
  recordsBaselines : Bool
  deriving DecidableEq, Repr

namespace Gate

/-- Create a contract from its compiled form. -/
def create [AddressRule] (contract : String) (arguments : List Argument) (sender : String) :
    Flow Address := do
  let artifact ← Flow.ask (.artifact contract)
  let address ← Flow.ask (.deploy artifact arguments sender)
  Flow.lift (Address.parse address)

/-- Give an address a name. -/
def label (address name : String) : Flow Unit := do
  Flow.ask (.label address name)
  Flow.announce (.labelled address name)

/-- The record of something that happens now. -/
def stamped (record : Moment → DeploymentRecord) : Flow DeploymentRecord := do
  pure (record (← get).now)

/-- Deploy a contract that stands alone. -/
def deployRaw [AddressRule] (contract : String) (arguments : List Argument)
    (network sender : String) : Flow Address := do
  let address ← create contract arguments sender
  let record ← stamped fun now =>
    { contract, network
      implementation := address.text
      proxy := none
      kind := none
      admin := none
      action := .deploy
      timestamp := Moment.text now }
  let _ ← Flow.appendRecord record
  Flow.count (Tally.deployment "raw")
  label address.text contract
  Flow.announce (.deployed contract network address.text none)
  pure address

/-- The owner that a new proxy is to have: needed by the kinds that have one, and an address where
it is given. -/
def ownerOf [AddressRule] (contract : String) (kind : ProxyKind) (admin : Option String) :
    Except Failure (Option Address) :=
  match admin.filter (!·.isEmpty) with
  | some owner => some <$> Address.parse owner
  | none =>
    if kind.requiresAdmin then .error (.deployment (.adminRequiredFor contract)) else .ok none

/-- Deploy a contract and a proxy in front of it, and tell the address of the proxy. -/
def deployProxy [AddressRule] (gate : Gate) (contract : String) (initData : Bytes) (kind : Json)
    (admin : Option String) (network sender : String) : Flow Address := do
  let kind ← Flow.lift (ProxyKind.parse kind)
  let owner ← Flow.lift (ownerOf contract kind admin)
  let implementation ← create contract [] sender
  let arguments ← Flow.lift
    (kind.constructorArguments implementation.text initData (owner.map Address.text))
  let proxy ← create kind.artifactName arguments sender
  let proxyAdmin ← match kind with
    | .transparent => Flow.ask (.adminOf proxy)
    | .uups => pure none
  let record ← stamped fun now =>
    { contract, network
      implementation := implementation.text
      proxy := some proxy.text
      kind := some kind
      admin := proxyAdmin
      action := .deployProxy
      timestamp := Moment.text now }
  let _ ← Flow.appendRecord record
  Flow.count (Tally.deployment kind.name)
  label implementation.text (contract ++ " (implementation)")
  label proxy.text (contract ++ " (" ++ kind.name ++ " proxy)")
  match proxyAdmin.filter (!·.isEmpty) with
  | some address => label address (contract ++ " (proxy admin)")
  | none => pure ()
  Flow.announce (.deployed contract network implementation.text (some proxy.text))
  if gate.recordsBaselines then
    let layout ← Flow.ask (.layout contract)
    let now := (← get).now
    let _ ← Flow.onDisk (gate.store.write now .baseline contract network layout)
  pure proxy

end Gate

end UpgradeGate
