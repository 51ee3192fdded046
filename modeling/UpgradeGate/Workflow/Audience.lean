import UpgradeGate.Event.Emission
import UpgradeGate.Workflow.Flow

/-!
# Workflows with an audience

Listeners are subscribed to the topics of events. Whenever a workflow announces an event, those that
are subscribed to its topic at that moment are told of it. What a listener makes of a call may
depend on all that has been heard before: it returns or raises an exception, and it may change who
is subscribed.
-/

namespace UpgradeGate

/-- The listeners of each topic, in the order of their subscriptions. -/
abbrev Subscriptions (Λ : Type) := String → List Λ

/-- Listeners, with the calls of listeners so far. -/
structure Audience (Λ : Type) where
  listeners : Subscriptions Λ
  heard : List (Hearing Λ Event)

/-- What a listener makes of a call: it returns or raises an exception, and leaves other
subscriptions. -/
structure Reaction (Λ : Type) where
  outcome : Except Raised Unit
  resubscribe : Subscriptions Λ → Subscriptions Λ

/-- What listeners make of a call, after other calls. -/
abbrev Habits (Λ : Type) := List (Hearing Λ Event) → Hearing Λ Event → Reaction Λ

namespace Audience

variable {Λ : Type}

/-- The audience without listeners. -/
def nobody : Audience Λ := ⟨fun _ => [], []⟩

/-- Let a listener take a call. -/
def react (habits : Habits Λ) (call : Hearing Λ Event) :
    StateM (Audience Λ) (Except Raised Unit) := do
  let reaction := habits (← get).heard call
  modify fun audience => ⟨reaction.resubscribe audience.listeners, audience.heard ++ [call]⟩
  pure reaction.outcome

/-- Tell an audience of an event. This fails where an exception cannot be shown. -/
def tell (habits : Habits Λ) (event : Event) : StateM (Audience Λ) (Except Failure Unit) := do
  let audience ← get
  (emission event (audience.listeners event.topic)).handle (react habits)

/-- An audience after it was told of an event. -/
def told (habits : Habits Λ) (audience : Audience Λ) (event : Event) : Audience Λ :=
  ((tell habits event).run audience).2

/-- Answer a request: an announcement by telling the audience, and any other by others. -/
def answer (habits : Habits Λ) :
    (request : Request) →
      StateT (Audience Λ) (Program collaborators) (Except Failure request.question.Answer)
  | ⟨.announce event, _⟩ => fun audience => pure ((tell habits event).run audience)
  | request => StateT.lift (Program.request (I := collaborators) request)

end Audience

/-- A program that makes its announcements to an audience. -/
def Program.attendedBy {α Λ : Type} (program : Program collaborators α) (habits : Habits Λ)
    (audience : Audience Λ) : Program collaborators (α × Audience Λ) :=
  (program.handle (Audience.answer habits)).run audience

end UpgradeGate
