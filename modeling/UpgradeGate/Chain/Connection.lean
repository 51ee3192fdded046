import UpgradeGate.Chain.Node
import UpgradeGate.Workflow.Flow

/-!
# Workflows at a node

The workflow puts its questions to the chain in words of its own. Where the chain is behind a node,
each of these questions becomes calls to the node; the questions to the toolchain and the
announcements go to others, as they are.
-/

namespace UpgradeGate

/-- The interface of a workflow whose chain is behind a node: calls to the node, and requests to
other collaborators. -/
abbrev connected : Interface where
  Call := NodeCall ⊕ Request
  Reply
    | .inl call => Except Failure call.Answer
    | .inr request => Except Failure request.question.Answer

namespace Node

/-- What is done with a node for a question, if that is one to the chain. -/
def task? [AddressRule] (patience : Nat) : (question : Question) → Option (Task question.Answer)
  | .transactionCount account => some (transactionCount account)
  | .deploy artifact arguments sender => some (deploy patience artifact arguments sender)
  | .upgrade proxy implementation sender admin =>
    some (upgrade patience proxy.text implementation.text sender (admin.map Address.text))
  | .upgradeAndCall proxy implementation data sender admin =>
    some (upgradeAndCall patience proxy.text implementation.text data sender
      (admin.map Address.text))
  | .hasCode address => some (hasCode address.text)
  | .implementationOf proxy => some (implementationOf proxy.text)
  | .adminOf proxy => some (adminOf proxy.text)
  | .label address name => some (label address name)
  | .artifact _ => none
  | .layout _ => none
  | .announce _ => none

/-- Do something with a node that is one of the collaborators. -/
def within {α : Type} (task : Program nodes α) : Program connected α :=
  task.handle fun call => Program.request (I := connected) (.inl call)

/-- Answer a request: one to the chain at the node, and any other by others. -/
def answer [AddressRule] (patience : Nat) (request : Request) :
    StateT Labels (Program connected) (Except Failure request.question.Answer) :=
  match task? patience request.question with
  | some task => fun labels => within (task.run.run labels)
  | none => StateT.lift (Program.request (I := connected) (.inr request))

end Node

/-- A flow whose chain is behind a node, from some books and some names of addresses on. -/
def Flow.connect [AddressRule] {α : Type} (flow : Flow α) (patience : Nat) (books : Books)
    (labels : Node.Labels) : Program connected ((Except Failure α × Books) × Node.Labels) :=
  ((flow.run.run books).handle (Node.answer patience)).run labels

end UpgradeGate
