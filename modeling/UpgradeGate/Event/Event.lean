import UpgradeGate.Workflow.Attempt

/-!
# Events

What the workflow tells to listeners: that an address was given a name, that a contract was
deployed, and how an upgrade ended.
-/

namespace UpgradeGate

/-- Something that listeners are told. -/
inductive Event where
  | labelled (address name : String)
  | deployed (contract network address : String) (proxy : Option String)
  | completed (attempt : Attempt)
  | blocked (attempt : Attempt)
  deriving DecidableEq

/-- The name under which listeners ask for an event. -/
def Event.topic : Event → String
  | .labelled _ _ => "contract_labeled"
  | .deployed _ _ _ _ => "contract_deployed"
  | .completed _ => "upgrade_completed"
  | .blocked _ => "upgrade_blocked"

end UpgradeGate
