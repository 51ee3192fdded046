import UpgradeGate.Deployment.ProxyKind
import UpgradeGate.Deployment.Timestamp
import UpgradeGate.Fields
import UpgradeGate.Json.Writer

/-!
# Deployment records

What the log keeps of a deployment or an upgrade. A record belongs to a proxy when it has a proxy
address, even an empty one.
-/

namespace UpgradeGate

/-- What a deployment record reports. -/
inductive Action where
  | deploy
  | deployProxy
  | upgrade
  deriving DecidableEq, Repr

namespace Action

/-- The name of an action. -/
def name : Action → String
  | .deploy => "deploy"
  | .deployProxy => "deploy_proxy"
  | .upgrade => "upgrade"

/-- The action of a name. -/
def ofName? (name : String) : Option Action :=
  if name = "deploy" then some .deploy
  else if name = "deploy_proxy" then some .deployProxy
  else if name = "upgrade" then some .upgrade
  else none

/-- An action is found by its name. -/
theorem ofName?_name (action : Action) : ofName? action.name = some action := by
  cases action <;> rfl

end Action

/-- A deployment or an upgrade as the log keeps it. -/
structure DeploymentRecord where
  contract : String
  network : String
  implementation : String
  proxy : Option String
  kind : Option ProxyKind
  admin : Option String
  action : Action
  timestamp : String
  deriving DecidableEq, Repr

/-- A contract as the toolchain compiles it. -/
structure Artifact where
  name : String
  interface : List Json
  bytecode : String
  deriving Inhabited

namespace DeploymentRecord

/-- The record belongs to a proxy. -/
def isProxy (record : DeploymentRecord) : Bool := record.proxy.isSome

/-- A record from its fields, with the current time where it has none. -/
def check (now : Moment) (members : Json.Members) : Checked DeploymentRecord :=
  DeploymentRecord.mk <$> Field.required Field.text members "contract_name"
    <*> Field.required Field.text members "network_id"
    <*> Field.required Field.text members "implementation_address"
    <*> Field.optional none (Field.nullable Field.text) members "proxy_address"
    <*> Field.optional none (Field.nullable (Field.choice ProxyKind.ofName?)) members "proxy_kind"
    <*> Field.optional none (Field.nullable Field.text) members "admin_address"
    <*> Field.optional .deploy (Field.choice Action.ofName?) members "action"
    <*> Field.optional now.text Field.text members "timestamp"

/-- A record from its text. -/
def ofText (now : Moment) (text : String) : Checked DeploymentRecord :=
  Field.stored (Field.object (check now)) text

/-- The record as an object, in the order of its fields. -/
def toJson (record : DeploymentRecord) : Json :=
  let text? : Option String → Json
    | some text => .string text
    | none => .null
  .object [("contract_name", .string record.contract), ("network_id", .string record.network),
    ("implementation_address", .string record.implementation),
    ("proxy_address", text? record.proxy), ("proxy_kind", text? (record.kind.map ProxyKind.name)),
    ("admin_address", text? record.admin), ("action", .string record.action.name),
    ("timestamp", .string record.timestamp)]

/-- The text of a record. -/
def text (record : DeploymentRecord) : String :=
  Json.compactText Json.plainSpelling record.toJson

end DeploymentRecord

namespace Artifact

/-- A contract from its fields. -/
def check (members : Json.Members) : Checked Artifact :=
  Artifact.mk <$> Field.required Field.text members "name"
    <*> Field.optional [] Field.list members "abi"
    <*> Field.required Field.text members "bytecode"

/-- There is code behind the leading `0x`. -/
def hasBytecode (artifact : Artifact) : Bool := 2 < artifact.bytecode.length

end Artifact

end UpgradeGate
