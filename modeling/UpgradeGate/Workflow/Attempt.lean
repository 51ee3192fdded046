import UpgradeGate.Deployment.Record
import UpgradeGate.Hash.Bytes
import UpgradeGate.Layout.Comparison

/-!
# Upgrade attempts

One run of the upgrade workflow. An attempt starts, captures the layout behind the proxy, and then
takes the fast path to an installed upgrade or the diff path to a blocked one.
-/

namespace UpgradeGate

/-- How far an attempt has come. -/
inductive Stage where
  | start
  | baselineCaptured
  | fastPath
  | diffPath
  | upgraded
  | blocked
  deriving DecidableEq, Repr

/-- The name of a stage. -/
def Stage.name : Stage → String
  | .start => "start"
  | .baselineCaptured => "baseline_captured"
  | .fastPath => "fast_path"
  | .diffPath => "diff_path"
  | .upgraded => "upgraded"
  | .blocked => "blocked"

/-- What an attempt ended with. -/
inductive Outcome where
  | pending
  | passed
  | collisionOverridden
  | collisionBlocked
  deriving DecidableEq, Repr

/-- The name of an outcome. -/
def Outcome.name : Outcome → String
  | .pending => "pending"
  | .passed => "passed"
  | .collisionOverridden => "collision_overridden"
  | .collisionBlocked => "collision_blocked"

/-- One run of the upgrade workflow. -/
structure Attempt where
  contract : String
  network : String
  proxy : String
  overrideRequested : Bool
  /-- What the new implementation is called with; nothing for a plain upgrade. -/
  initData : Option Bytes
  stage : Stage
  outcome : Outcome
  /-- The layout behind the proxy. -/
  baseline : Option Layout
  /-- The layout of the new implementation. -/
  candidate : Option Layout
  compatible : Option Bool
  diff : List String
  predicted : Option String
  implementation : Option Address
  deriving DecidableEq

namespace Attempt

/-- An attempt that has not begun. -/
def fresh (contract network proxy : String) (overrideRequested : Bool)
    (initData : Option Bytes) : Attempt :=
  { contract, network, proxy, overrideRequested, initData
    stage := .start
    outcome := .pending
    baseline := none
    candidate := none
    compatible := none
    diff := []
    predicted := none
    implementation := none }

/-- The proxy points to the new implementation. -/
def isUpgraded (attempt : Attempt) : Bool := attempt.stage == .upgraded

/-- The proxy was left alone. -/
def isBlocked (attempt : Attempt) : Bool := attempt.stage == .blocked

/-- The layouts were compared and collide. -/
def collisionFound (attempt : Attempt) : Bool := attempt.compatible == some false

/-- The attempt in brief, as a document. -/
def summary (attempt : Attempt) : Json :=
  let text? : Option String → Json
    | some text => .string text
    | none => .null
  .object [("contract_name", .string attempt.contract), ("network_id", .string attempt.network),
    ("proxy_address", .string attempt.proxy),
    ("override_requested", .bool attempt.overrideRequested),
    ("state", .string attempt.stage.name), ("outcome", .string attempt.outcome.name),
    ("compatible", match attempt.compatible with
      | some verdict => .bool verdict
      | none => .null),
    ("diff", .array (attempt.diff.map .string)),
    ("predicted_address", text? attempt.predicted),
    ("implementation_address", text? (attempt.implementation.map Address.text))]

end Attempt

end UpgradeGate
