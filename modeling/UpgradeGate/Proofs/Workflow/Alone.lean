import UpgradeGate.Proofs.Workflow.Trace

/-!
# Flows that ask nobody

Work on the disk and on the log needs no collaborator, so from given books it can end in one way
only (`Flow.Gives`). Sequences, cleanups and flows whose failure is taken as an answer give what
their parts give.
-/

namespace UpgradeGate

/-- A program that can be carried out without a call is done. -/
theorem Program.runs_nil_iff {I : Interface} {α : Type} {program : Program I α} {result : α} :
    program.Runs [] result ↔ program = .done result := by
  cases program with
  | done value =>
    rw [runs_done_iff, Program.done.injEq]
    exact ⟨fun ended => ended.2.symm, fun same => ⟨rfl, same.symm⟩⟩
  | ask call next =>
    constructor
    · intro runs
      cases runs
    · intro same
      cases same

namespace Flow

variable {α β : Type} {flow : Flow α} {books middle after : Books}

/-- From some books, a flow ends with a result and leaves other books behind, and asks nobody. -/
def Gives (flow : Flow α) (books : Books) (result : Except Failure α) (after : Books) : Prop :=
  flow.run.run books = .done (result, after)

/-- A flow gives its result exactly when it ends with it having asked nothing. -/
theorem gives_iff_ends {result : Except Failure α} :
    flow.Gives books result after ↔ flow.Ends books [] result after :=
  Program.runs_nil_iff.symm

theorem Gives.ends {result : Except Failure α} (gives : flow.Gives books result after) :
    flow.Ends books [] result after :=
  gives_iff_ends.1 gives

/-- A flow that settles gives what it settles, and the books as they stood. -/
theorem Settles.gives {found : Except Failure α} (settles : flow.Settles books found) :
    flow.Gives books found books :=
  gives_iff_ends.2 ((settles _ _ _).2 ⟨rfl, rfl, rfl⟩)

theorem gives_pure (value : α) (books : Books) :
    (pure value : Flow α).Gives books (.ok value) books :=
  rfl

theorem gives_lift (given : Except Failure α) (books : Books) :
    (lift given).Gives books given books :=
  rfl

theorem gives_get (books : Books) : (get : Flow Books).Gives books (.ok books) books :=
  rfl

theorem gives_modify (change : Books → Books) (books : Books) :
    (modify change : Flow Unit).Gives books (.ok ()) (change books) :=
  rfl

/-- Work on the disk gives the result of the task and leaves the disk the task left. -/
theorem gives_onDisk {task : DiskTask α} {result : Except Failure α} {disk : Disk}
    (ended : task.run.run books.disk = (result, disk)) :
    (onDisk task).Gives books result { books with disk } :=
  gives_iff_ends.2 (ends_onDisk.2 (by rw [ended]; exact ⟨rfl, rfl, rfl⟩))

/-! ## Sequences -/

section Sequences

variable {next : α → Flow β} {result : Except Failure β}

/-- Two flows that ask nothing ask nothing one after the other. -/
theorem Gives.bind {value : α} (first : flow.Gives books (.ok value) middle)
    (second : (next value).Gives middle result after) :
    (flow >>= next).Gives books result after :=
  gives_iff_ends.2 (ends_bind.2 (.inl ⟨value, middle, [], [], first.ends, second.ends, rfl⟩))

theorem Gives.bind_error {failure : Failure} (first : flow.Gives books (.error failure) after) :
    (flow >>= next).Gives books (.error failure) after :=
  gives_iff_ends.2 (ends_bind.2 (.inr ⟨failure, first.ends, rfl⟩))

theorem Gives.map {original : Except Failure α} (gives : flow.Gives books original after)
    (f : α → β) : (f <$> flow).Gives books (original.map f) after :=
  gives_iff_ends.2 (ends_map.2 ⟨original, gives.ends, rfl⟩)

end Sequences

/-- A body and its cleanup, where the cleanup returns. -/
theorem Gives.ensuring {cleanup : Flow Unit} {result : Except Failure α}
    (body : flow.Gives books result middle) (cleaned : cleanup.Gives middle (.ok ()) after) :
    (ensuring cleanup flow).Gives books result after :=
  gives_iff_ends.2
    (ends_ensuring.2 ⟨result, middle, .ok (), [], [], body.ends, cleaned.ends, rfl, rfl⟩)

/-! ## Failures as answers -/

/-- What a flow gives, where a failure is an answer as well. -/
def attempt (flow : Flow α) : Flow (Except Failure α) := ExceptT.mk (Except.ok <$> flow.run)

/-- An attempt gives the result of its flow as a value, also when that is a failure. -/
theorem Gives.attempt {result : Except Failure α} (gives : flow.Gives books result after) :
    flow.attempt.Gives books (.ok result) after := by
  have unfolded : flow.attempt.run.run books =
      (flow.run.run books).bind fun ended => .done (.ok ended.1, ended.2) := rfl
  rw [Gives, unfolded, gives]
  rfl

end Flow

end UpgradeGate
