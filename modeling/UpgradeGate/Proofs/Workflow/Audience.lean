import UpgradeGate.Proofs.Command.Conclusion
import UpgradeGate.Workflow.Audience

/-!
# What an audience makes of a workflow

Telling an audience of an event calls those who are subscribed to its topic at that moment, each
once and in order (`Audience.run_tell`, `Audience.heard_told`), unless one of them raises what
cannot be shown, which ends the telling there (`Audience.tells`).

Where all exceptions can be shown (`Habits.Shown`), nothing comes back from an audience: a program
before it is the program that keeps its announcements, of which the audience is told afterwards
(`Program.attendedBy_eq_bind`). So a flow ends before any two such audiences alike
(`Flow.EndsBefore.elsewhere`).
-/

namespace UpgradeGate

open UpgradeGate.Flow

variable {α Λ : Type} {habits : Habits Λ} {audience attended : Audience Λ}

/-- All exceptions that listeners raise can be shown: each of them has a text. -/
def Habits.Shown (habits : Habits Λ) : Prop :=
  ∀ heard call raised, (habits heard call).outcome = .error raised → ∃ text, raised.shown = .ok text

/-! ## Telling of events -/

namespace Audience

/-- The calls of some listeners with an event. -/
def callsOf (event : Event) (listeners : List Λ) : List (Hearing Λ Event) :=
  listeners.map fun listener => ⟨listener, event⟩

/-- **What comes of telling listeners** of an event, who have heard other calls before. -/
inductive Tells (habits : Habits Λ) (event : Event) (listeners : List Λ)
    (before after : List (Hearing Λ Event)) : Except Failure Unit → Prop where
  /-- All of them were called, once each and in order. -/
  | all (heard : after = before ++ callsOf event listeners) :
      Tells habits event listeners before after (.ok ())
  /-- They were called up to one that raised what cannot be shown. -/
  | upTo (front : List Λ) (listener : Λ) (rest : List Λ) {raised : Raised} {failure : Failure}
      (split : listeners = front ++ listener :: rest)
      (heard : after = before ++ callsOf event (front ++ [listener]))
      (unseen : (habits (before ++ callsOf event front) ⟨listener, event⟩).outcome = .error raised)
      (unshown : raised.shown = .error failure) :
      Tells habits event listeners before after (.error failure)

/-- An audience is told an event when its first listener is told and then the others. -/
theorem Tells.cons {event : Event} {listener : Λ} {rest : List Λ}
    {before after : List (Hearing Λ Event)} {result : Except Failure Unit}
    (tells : Tells habits event rest (before ++ [⟨listener, event⟩]) after result) :
    Tells habits event (listener :: rest) before after result := by
  cases tells with
  | all heard =>
    refine .all ?_
    rw [heard, List.append_assoc]
    rfl
  | upTo front last others split heard unseen unshown =>
    refine .upTo (listener :: front) last others ?_ ?_ ?_ unshown
    · rw [split, List.cons_append]
    · rw [heard, List.append_assoc]
      rfl
    · rw [List.append_assoc] at unseen
      exact unseen

/-- Listeners are called up to the first one whose exception cannot be shown. -/
theorem tells_handle_emission (habits : Habits Λ) (event : Event) (listeners : List Λ)
    (audience : Audience Λ) :
    Tells habits event listeners audience.heard
      (((emission event listeners).handle (react habits)).run audience).2.heard
      (((emission event listeners).handle (react habits)).run audience).1 := by
  induction listeners generalizing audience with
  | nil => exact .all (List.append_nil _).symm
  | cons listener rest ih =>
    rw [handle_emission_cons]
    cases left : settle ((react habits ⟨listener, event⟩).run audience).1 with
    | ok => exact (ih ((react habits ⟨listener, event⟩).run audience).2).cons
    | error failure =>
      obtain ⟨raised, unseen, unshown⟩ := settle_eq_error_iff.1 left
      refine .upTo [] listener rest rfl rfl ?_ unshown
      rw [callsOf, List.map_nil, List.append_nil]
      exact unseen

/-- **Telling of an event** calls those who are subscribed to its topic at that moment, up to the
first one whose exception cannot be shown. -/
theorem tells (habits : Habits Λ) (event : Event) (audience : Audience Λ) :
    Tells habits event (audience.listeners event.topic) audience.heard
      (audience.told habits event).heard ((tell habits event).run audience).1 :=
  tells_handle_emission habits event _ audience

variable (shown : habits.Shown)
include shown

/-- Where all exceptions can be shown, telling listeners does not fail. -/
theorem run_tell (event : Event) (audience : Audience Λ) :
    (tell habits event).run audience = (.ok (), audience.told habits event) := by
  have told := tells habits event audience
  refine Prod.ext ?_ rfl
  generalize ((tell habits event).run audience).1 = result at told
  cases told with
  | all => rfl
  | upTo _ _ _ _ _ unseen unshown =>
    obtain ⟨text, own⟩ := shown _ _ _ unseen
    cases own.symm.trans unshown

omit shown

/-- Tell an audience of some events, one after the other. -/
def toldAll (habits : Habits Λ) (audience : Audience Λ) (events : List Event) : Audience Λ :=
  events.foldl (told habits) audience

theorem toldAll_nobody (habits : Habits Λ) (events : List Event) :
    nobody.toldAll habits events = nobody := by
  induction events with
  | nil => rfl
  | cons event later ih => exact ih

end Audience

/-! ## Programs before an audience -/

namespace Program

/-- An announcement is answered by the audience, and the program goes on from the audience's reply.
-/
theorem attendedBy_announce (shown : habits.Shown) (event : Event) (disk : Disk)
    (next : Except Failure Unit → Program collaborators α) :
    (Program.ask (I := collaborators) ⟨.announce event, disk⟩ next).attendedBy habits audience =
      (next (.ok ())).attendedBy habits (audience.told habits event) := by
  have by_steps : (Program.ask (I := collaborators) ⟨.announce event, disk⟩ next).attendedBy habits
      audience = (next ((Audience.tell habits event).run audience).1).attendedBy habits
        ((Audience.tell habits event).run audience).2 := rfl
  rw [by_steps, Audience.run_tell shown]

/-- A question that announces nothing passes the audience by. -/
theorem attendedBy_ask {request : Request} (silent : request.question.event? = none)
    (next : Except Failure request.question.Answer → Program collaborators α) :
    (Program.ask request next).attendedBy habits audience =
      .ask request fun reply => (next reply).attendedBy habits audience := by
  obtain ⟨question, disk⟩ := request
  cases question <;> first | rfl | cases silent

/-- **Listening can wait.** A program before an audience whose exceptions can be shown does what it
does when its announcements are kept, and the audience can be told of them afterwards. -/
theorem attendedBy_eq_bind (shown : habits.Shown) (program : Program collaborators α)
    (audience : Audience Λ) :
    program.attendedBy habits audience = (Command.overhear program).bind fun (result, events) =>
      .done (result, audience.toldAll habits events) := by
  induction program generalizing audience with
  | done => rfl
  | ask request next ih =>
    cases silent : request.question.event? with
    | none =>
      rw [attendedBy_ask silent, Command.overhear_ask silent]
      simp only [ih, Program.bind]
    | some event =>
      obtain ⟨question, disk⟩ := request
      cases question with
      | announce event =>
        rw [attendedBy_announce shown, ih, Command.overhear_announce, bind_bind]
        rfl
      | _ => cases silent

/-- A run before an audience is a run of the program whose announcements the audience answers. -/
theorem runs_attendedBy_iff (shown : habits.Shown) {program : Program collaborators α}
    {trace : Trace collaborators} {result : α} :
    (program.attendedBy habits audience).Runs trace (result, attended) ↔
      ∃ told, program.Runs told result ∧ Command.Overheard told trace ∧
        attended = audience.toldAll habits (events told) := by
  rw [attendedBy_eq_bind shown]
  simp only [runs_bind_iff, runs_done_iff]
  constructor
  · intro ended
    obtain ⟨first, ⟨_, kept⟩, _, keeping, ⟨rfl, same⟩, rfl⟩ := ended
    cases same
    obtain ⟨told, runs, overheard, rfl⟩ := Command.runs_overhear_iff.1 keeping
    rw [List.append_nil]
    exact ⟨told, runs, overheard, rfl⟩
  · intro ended
    obtain ⟨told, runs, overheard, rfl⟩ := ended
    have keeping := Command.runs_overhear_iff.2 ⟨told, runs, overheard, rfl⟩
    exact ⟨trace, (result, events told), [], keeping, ⟨rfl, rfl⟩, (List.append_nil _).symm⟩

end Program

/-! ## Flows before an audience -/

namespace Flow

variable {flow : Flow α} {books after : Books} {trace : Trace collaborators}
  {result : Except Failure α}

/-- From some books and before an audience, a flow makes the exchanges of a trace with others, and
ends with a result, leaving other books and the audience behind. -/
def EndsBefore (habits : Habits Λ) (flow : Flow α) (books : Books) (audience : Audience Λ)
    (trace : Trace collaborators) (result : Except Failure α) (after : Books)
    (attended : Audience Λ) : Prop :=
  ((flow.run.run books).attendedBy habits audience).Runs trace ((result, after), attended)

/-- **Flows before an audience** whose exceptions can be shown end as they end anywhere, and the
audience is told of what they announce. -/
theorem endsBefore_iff (shown : habits.Shown) :
    flow.EndsBefore habits books audience trace result after attended ↔
      ∃ told, flow.Ends books told result after ∧ Command.Overheard told trace ∧
        attended = audience.toldAll habits (events told) :=
  Program.runs_attendedBy_iff shown

/-- A flow ends before any two audiences alike. -/
theorem EndsBefore.elsewhere (shown : habits.Shown)
    (ended : flow.EndsBefore habits books audience trace result after attended)
    (other : Audience Λ) :
    ∃ attended', flow.EndsBefore habits books other trace result after attended' := by
  obtain ⟨told, ends, overheard, -⟩ := (endsBefore_iff shown).1 ended
  exact ⟨_, (endsBefore_iff shown).2 ⟨told, ends, overheard, rfl⟩⟩

/-- Where there are no listeners, none are left. -/
theorem EndsBefore.nobody (shown : habits.Shown)
    (ended : flow.EndsBefore habits books .nobody trace result after attended) :
    attended = .nobody := by
  obtain ⟨told, -, -, rfl⟩ := (endsBefore_iff shown).1 ended
  exact Audience.toldAll_nobody habits _

end Flow

end UpgradeGate
