import UpgradeGate.Deployment.Record
import UpgradeGate.Disk.Basic
import UpgradeGate.Event.Event
import UpgradeGate.Workflow.Program

/-!
# Questions of the workflow

What deployments and upgrades ask of the chain and of the toolchain, and what they announce to
listeners. Any question may be answered by a failure. With each question goes the disk as it is at
that moment, for the toolchain works on files.
-/

namespace UpgradeGate

/-- A question to the chain or to the toolchain, or an announcement. -/
inductive Question where
  /-- How many transactions an account has sent. -/
  | transactionCount (account : String)
  /-- Create a contract, and tell its address. -/
  | deploy (artifact : Artifact) (arguments : List Argument) (sender : String)
  /-- Let a proxy point to another implementation. -/
  | upgrade (proxy implementation : Address) (sender : String) (admin : Option Address)
  /-- Let a proxy point to another implementation, and call that. -/
  | upgradeAndCall (proxy implementation : Address) (data : Bytes) (sender : String)
      (admin : Option Address)
  /-- Whether there is a contract at an address. -/
  | hasCode (address : Address)
  /-- What a proxy points to. -/
  | implementationOf (proxy : Address)
  /-- The administrator of a proxy. -/
  | adminOf (proxy : Address)
  /-- Give an address a name. -/
  | label (address name : String)
  /-- The compiled form of a contract. -/
  | artifact (contract : String)
  /-- The storage layout of a contract as it is compiled now. -/
  | layout (contract : String)
  /-- Tell listeners of an event. -/
  | announce (event : Event)

/-- What answers a question. -/
abbrev Question.Answer : Question → Type
  | .transactionCount _ => Int
  | .deploy _ _ _ => String
  | .upgrade _ _ _ _ => Unit
  | .upgradeAndCall _ _ _ _ _ => Unit
  | .hasCode _ => Bool
  | .implementationOf _ => Option String
  | .adminOf _ => Option String
  | .label _ _ => Unit
  | .artifact _ => Artifact
  | .layout _ => Layout
  | .announce _ => Unit

/-- A question lets a proxy point to another implementation. -/
def Question.isUpgrade : Question → Bool
  | .upgrade _ _ _ _ => true
  | .upgradeAndCall _ _ _ _ _ => true
  | _ => false

/-- A question is put to the chain. -/
def Question.isChain : Question → Bool
  | .artifact _ => false
  | .layout _ => false
  | .announce _ => false
  | _ => true

/-- A question and the disk as it is when the question is put. -/
structure Request where
  question : Question
  disk : Disk

/-- The interface between the workflow and its collaborators. -/
abbrev collaborators : Interface where
  Call := Request
  Reply := fun request => Except Failure request.question.Answer

end UpgradeGate
