import UpgradeGate.Failure
import UpgradeGate.Workflow.Program

/-!
# Telling listeners

Whoever is to be told something is called, one listener after the other, in the order in which they
subscribed. A listener may return or raise an exception. Its exception is shown in the log, and then
the listener is passed over. Showing an exception may fail as well, and then the listeners behind it
are not called any more.

Main statement: a listener is passed over, unless its exception cannot be shown
(`handle_emission_cons`).
-/

namespace UpgradeGate

/-- A call of a listener, with what it is told. -/
structure Hearing (Λ δ : Type) where
  listener : Λ
  data : δ

/-- An exception of a listener, by what comes of showing it: its text, or another failure. -/
structure Raised where
  shown : Except Failure String

/-- The interface to listeners: each call of one returns or raises an exception. -/
abbrev listening (Λ δ : Type) : Interface where
  Call := Hearing Λ δ
  Reply := fun _ => Except Raised Unit

/-- What is left of a call after its exception, if there is one, was shown. -/
def settle : Except Raised Unit → Except Failure Unit
  | .ok () => .ok ()
  | .error raised => raised.shown.map fun _ => ()

variable {Λ δ σ : Type}

/-- Tell listeners something. Those that raise what can be shown are passed over. -/
def emission (data : δ) : List Λ → Program (listening Λ δ) (Except Failure Unit)
  | [] => pure (.ok ())
  | listener :: rest => do
    match settle (← Program.request (I := listening Λ δ) ⟨listener, data⟩) with
    | .ok () => emission data rest
    | .error failure => pure (.error failure)

/-- A call is not settled where showing what it raised fails. -/
theorem settle_eq_error_iff {outcome : Except Raised Unit} {failure : Failure} :
    settle outcome = .error failure ↔
      ∃ raised, outcome = .error raised ∧ raised.shown = .error failure := by
  rcases outcome with ⟨⟨shown⟩⟩ | _
  · cases shown <;> simp [settle, Except.map]
  · simp [settle]

/-- **The first listener** is called. Unless its exception cannot be shown, the others are told
after it. -/
theorem handle_emission_cons (answer : Hearing Λ δ → StateM σ (Except Raised Unit)) (data : δ)
    (listener : Λ) (rest : List Λ) (state : σ) :
    ((emission data (listener :: rest)).handle answer).run state =
      match settle ((answer ⟨listener, data⟩).run state).1 with
      | .ok () => ((emission data rest).handle answer).run ((answer ⟨listener, data⟩).run state).2
      | .error failure => (.error failure, ((answer ⟨listener, data⟩).run state).2) := by
  have asked : ((emission data (listener :: rest)).handle answer).run state =
      ((match settle ((answer ⟨listener, data⟩).run state).1 with
        | .ok () => emission data rest
        | .error failure => pure (.error failure)).handle answer).run
          ((answer ⟨listener, data⟩).run state).2 := rfl
  rw [asked]
  cases settle ((answer ⟨listener, data⟩).run state).1 <;> rfl

end UpgradeGate
