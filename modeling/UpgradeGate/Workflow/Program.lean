/-!
# Programs over an interface

A program is a tree of calls to collaborators, each with what is done for every reply that may
come. Nothing is assumed about the replies, so that a statement about a program is one about all
collaborators. A handler that answers calls turns a program into a computation.

Main statements: programs form a monad, and handling a sequence handles its parts in order
(`handle_bind`).
-/

namespace UpgradeGate

/-- An interface: its calls, and what may be replied to each. -/
structure Interface where
  Call : Type
  Reply : Call → Type

/-- A program that makes calls of an interface and ends with a result. -/
inductive Program (I : Interface) (α : Type) : Type where
  | done (result : α)
  | ask (call : I.Call) (next : I.Reply call → Program I α)

namespace Program

variable {I : Interface} {α β γ : Type}

/-- One program after another. -/
def bind (program : Program I α) (next : α → Program I β) : Program I β :=
  match program with
  | .done result => next result
  | .ask call answer => .ask call fun reply => (answer reply).bind next

instance : Monad (Program I) where
  pure := .done
  bind := bind

/-- The program that makes one call and ends with its reply. -/
def request (call : I.Call) : Program I (I.Reply call) := .ask call .done

theorem bind_done (program : Program I α) : program.bind .done = program := by
  induction program with
  | done => rfl
  | ask call answer ih => simp [bind, ih]

/-- Going on twice is going on once with both. -/
theorem bind_bind (program : Program I α) (f : α → Program I β) (g : β → Program I γ) :
    (program.bind f).bind g = program.bind fun x => (f x).bind g := by
  induction program with
  | done => rfl
  | ask call answer ih => simp [bind, ih]

instance : LawfulMonad (Program I) :=
  LawfulMonad.mk' (Program I) bind_done (fun _ _ => rfl) bind_bind

/-- The computation of a program whose calls are answered by a handler. -/
def handle {m : Type → Type} [Monad m] (answer : (call : I.Call) → m (I.Reply call)) :
    Program I α → m α
  | .done result => pure result
  | .ask call next => do
    let reply ← answer call
    handle answer (next reply)

/-- Handling a program that goes on is handling its parts one after the other. -/
theorem handle_bind {m : Type → Type} [Monad m] [LawfulMonad m]
    (answer : (call : I.Call) → m (I.Reply call)) (program : Program I α)
    (next : α → Program I β) :
    handle answer (program.bind next) =
      handle answer program >>= fun x => handle answer (next x) := by
  induction program with
  | done => simp [bind, handle]
  | ask call rest ih => simp [bind, handle, ih]

end Program

end UpgradeGate
