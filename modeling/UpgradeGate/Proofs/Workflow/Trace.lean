import UpgradeGate.Workflow.Flow

/-!
# Traces of programs and flows

A program can be carried out in as many ways as its collaborators can reply. Each way is a *trace*,
the list of calls with the reply to each, and ends with a result (`Program.Runs`). Since every call
may get any reply, a statement about all traces is one about all collaborators, whatever they keep
in mind from one call to the next.

A flow in addition takes books along and may fail (`Flow.Ends`). The main statements say, for each
way of building a flow, exactly how it ends: in particular a sequence ends like its second part
after the first one returned, or fails where the first one fails (`Flow.ends_bind`).
-/

namespace UpgradeGate

/-- A call of an interface, and the reply to it. -/
structure Exchange (I : Interface) where
  call : I.Call
  reply : I.Reply call

/-- The calls of a program with their replies, in order. -/
abbrev Trace (I : Interface) := List (Exchange I)

namespace Program

variable {I : Interface} {α β : Type}

/-- A program makes the exchanges of a trace, in this order, and ends with a result. -/
inductive Runs : Program I α → Trace I → α → Prop where
  | done (result : α) : Runs (.done result) [] result
  | ask {call : I.Call} {next : I.Reply call → Program I α} {reply : I.Reply call}
      {trace : Trace I} {result : α} (rest : Runs (next reply) trace result) :
      Runs (.ask call next) (⟨call, reply⟩ :: trace) result

/-- A program that is done runs without a question. -/
theorem runs_done_iff {value result : α} {trace : Trace I} :
    (Program.done value).Runs trace result ↔ trace = [] ∧ result = value := by
  constructor
  · intro runs
    cases runs
    exact ⟨rfl, rfl⟩
  · intro ended
    obtain ⟨rfl, rfl⟩ := ended
    exact .done _

/-- A program that asks runs through its question, the reply and what follows the reply. -/
theorem runs_ask_iff {call : I.Call} {next : I.Reply call → Program I α} {trace : Trace I}
    {result : α} :
    (Program.ask call next).Runs trace result ↔
      ∃ reply rest, trace = ⟨call, reply⟩ :: rest ∧ (next reply).Runs rest result := by
  constructor
  · intro runs
    cases runs with
    | ask rest => exact ⟨_, _, rfl, rest⟩
  · intro ended
    obtain ⟨reply, rest, rfl, runs⟩ := ended
    exact .ask runs

/-- One program after another makes the exchanges of both. -/
theorem runs_bind_iff {program : Program I α} {next : α → Program I β} {trace : Trace I}
    {result : β} :
    (program.bind next).Runs trace result ↔
      ∃ first value second, program.Runs first value ∧ (next value).Runs second result ∧
        trace = first ++ second := by
  induction program generalizing trace with
  | done value =>
    constructor
    · intro runs
      exact ⟨[], value, trace, .done value, runs, rfl⟩
    · intro ended
      obtain ⟨first, other, second, start, runs, rfl⟩ := ended
      obtain ⟨rfl, rfl⟩ := runs_done_iff.1 start
      exact runs
  | ask call answer ih =>
    simp only [bind, runs_ask_iff, ih]
    constructor
    · intro ended
      obtain ⟨reply, _, rfl, first, value, second, start, runs, rfl⟩ := ended
      exact ⟨_, value, second, ⟨reply, first, rfl, start⟩, runs, rfl⟩
    · intro ended
      obtain ⟨_, value, second, ⟨reply, first, rfl, start⟩, runs, rfl⟩ := ended
      exact ⟨reply, _, rfl, first, value, second, start, runs, rfl⟩

/-- How a program that keeps a state goes on after its first part: with the second part where that
returned, and not at all where it failed. -/
def onward {σ : Type} (next : α → σ → Program I (Except Failure β × σ)) :
    Except Failure α × σ → Program I (Except Failure β × σ)
  | (.ok value, state) => next value state
  | (.error failure, state) => .done (.error failure, state)

/-- Two programs run one after the other where the first succeeds, and end with its failure where it
does not. -/
theorem runs_onward_iff {σ : Type} {program : Program I (Except Failure α × σ)}
    {next : α → σ → Program I (Except Failure β × σ)} {trace : Trace I}
    {result : Except Failure β} {after : σ} :
    (program.bind (onward next)).Runs trace (result, after) ↔
      (∃ value middle first second, program.Runs first (.ok value, middle) ∧
        (next value middle).Runs second (result, after) ∧ trace = first ++ second) ∨
      ∃ failure, program.Runs trace (.error failure, after) ∧ result = .error failure := by
  rw [runs_bind_iff]
  constructor
  · intro ended
    obtain ⟨first, ⟨started, middle⟩, second, start, rest, rfl⟩ := ended
    cases started with
    | ok value => exact .inl ⟨value, middle, first, second, start, rest, rfl⟩
    | error failure =>
      obtain ⟨rfl, same⟩ := runs_done_iff.1 rest
      cases same
      rw [List.append_nil]
      exact .inr ⟨failure, start, rfl⟩
  · intro ended
    rcases ended with ⟨value, middle, first, second, start, rest, rfl⟩ | ⟨failure, start, rfl⟩
    · exact ⟨first, (.ok value, middle), second, start, rest, rfl⟩
    · exact ⟨trace, (.error failure, after), [], start, .done _, (List.append_nil _).symm⟩

/-- A program can be carried out where every call has a reply. -/
theorem exists_runs (replies : ∀ call, Nonempty (I.Reply call)) (program : Program I α) :
    ∃ trace result, program.Runs trace result := by
  induction program with
  | done result => exact ⟨[], result, .done result⟩
  | ask call next ih =>
    obtain ⟨reply⟩ := replies call
    obtain ⟨trace, result, runs⟩ := ih reply
    exact ⟨⟨call, reply⟩ :: trace, result, .ask runs⟩

/-- **Handlers that agree** on the calls that a program can make give it the same meaning. -/
theorem handle_congr {m : Type → Type} [Monad m]
    {first second : (call : I.Call) → m (I.Reply call)} {allowed : I.Call → Prop}
    (replies : ∀ call, Nonempty (I.Reply call))
    (agree : ∀ call, allowed call → first call = second call) (program : Program I α)
    (within : ∀ trace result, program.Runs trace result →
      ∀ exchange ∈ trace, allowed exchange.call) :
    program.handle first = program.handle second := by
  induction program with
  | done result => rfl
  | ask call next ih =>
    have inner : ∀ reply, (next reply).handle first = (next reply).handle second := by
      intro reply
      apply ih reply
      intro trace result runs exchange member
      exact within _ result (.ask runs) exchange (List.mem_cons_of_mem _ member)
    have asked : allowed call := by
      obtain ⟨trace, result, runs⟩ := exists_runs replies (.ask call next)
      cases runs with
      | ask rest => exact within _ _ (.ask rest) _ (List.mem_cons_self ..)
    rw [handle, handle, agree call asked]
    simp only [inner]

end Program

namespace Flow

variable {α β : Type} {flow : Flow α} {books after : Books} {trace : Trace collaborators}

/-- From some books, a flow makes the exchanges of a trace and ends with a result, leaving other
books behind. -/
def Ends (flow : Flow α) (books : Books) (trace : Trace collaborators)
    (result : Except Failure α) (after : Books) : Prop :=
  Program.Runs (flow.run.run books) trace (result, after)

theorem ends_pure {value : α} {result : Except Failure α} :
    (pure value : Flow α).Ends books trace result after ↔
      trace = [] ∧ result = .ok value ∧ after = books := by
  change (Program.done (Except.ok value, books)).Runs trace (result, after) ↔ _
  rw [Program.runs_done_iff, Prod.mk.injEq]

theorem ends_throw {failure : Failure} {result : Except Failure α} :
    (throw failure : Flow α).Ends books trace result after ↔
      trace = [] ∧ result = .error failure ∧ after = books := by
  change (Program.done (Except.error failure, books)).Runs trace (result, after) ↔ _
  rw [Program.runs_done_iff, Prod.mk.injEq]

/-- How a flow goes on after its first part. -/
theorem run_bind (flow : Flow α) (next : α → Flow β) (books : Books) :
    (flow >>= next).run.run books = (flow.run.run books).bind
      (Program.onward fun value middle => (next value).run.run middle) := by
  change Program.bind _ _ = Program.bind _ _
  congr 1
  funext ⟨result, middle⟩
  cases result <;> rfl

/-- **Sequences.** A sequence ends like its second part after the first one returned, or fails
where the first one fails. -/
theorem ends_bind {next : α → Flow β} {result : Except Failure β} :
    (flow >>= next).Ends books trace result after ↔
      (∃ value middle first second, flow.Ends books first (.ok value) middle ∧
        (next value).Ends middle second result after ∧ trace = first ++ second) ∨
      ∃ failure, flow.Ends books trace (.error failure) after ∧ result = .error failure := by
  rw [Ends, run_bind]
  exact Program.runs_onward_iff

/-- A composed flow succeeds exactly when both of its parts do. -/
theorem ends_bind_ok {next : α → Flow β} {value : β} :
    (flow >>= next).Ends books trace (.ok value) after ↔
      ∃ start middle first second, flow.Ends books first (.ok start) middle ∧
        (next start).Ends middle second (.ok value) after ∧ trace = first ++ second := by
  rw [ends_bind]
  constructor
  · intro ended
    rcases ended with returned | ⟨_, _, impossible⟩
    · exact returned
    · cases impossible
  · exact .inl

theorem ends_map {f : α → β} {result : Except Failure β} :
    (f <$> flow).Ends books trace result after ↔
      ∃ original, flow.Ends books trace original after ∧ result = original.map f := by
  rw [← bind_pure_comp, ends_bind]
  constructor
  · intro ended
    rcases ended with ⟨value, middle, first, second, start, rest, rfl⟩ | ⟨failure, start, rfl⟩
    · obtain ⟨rfl, rfl, rfl⟩ := ends_pure.1 rest
      rw [List.append_nil]
      exact ⟨.ok value, start, rfl⟩
    · exact ⟨.error failure, start, rfl⟩
  · intro ended
    obtain ⟨original, start, rfl⟩ := ended
    cases original with
    | ok value =>
      exact .inl ⟨value, after, trace, [], start, ends_pure.2 ⟨rfl, rfl, rfl⟩,
        (List.append_nil _).symm⟩
    | error failure => exact .inr ⟨failure, start, rfl⟩

/-! ## The parts that flows are made of -/

/-- The exchange of a question with its answer, while the disk is as it is. -/
def exchange (question : Question) (disk : Disk) (answer : Except Failure question.Answer) :
    Exchange collaborators := ⟨⟨question, disk⟩, answer⟩

/-- A question ends with its reply and leaves the books. -/
theorem ends_ask {question : Question} {result : Except Failure question.Answer} :
    (ask question).Ends books trace result after ↔
      trace = [exchange question books.disk result] ∧ after = books := by
  change (Program.ask (I := collaborators) (α := Except Failure question.Answer × Books)
    ⟨question, books.disk⟩ fun reply => .done (reply, books)).Runs trace (result, after) ↔ _
  simp only [Program.runs_ask_iff, Program.runs_done_iff, Prod.mk.injEq]
  constructor
  · intro ended
    obtain ⟨reply, rest, rfl, rfl, rfl, rfl⟩ := ended
    exact ⟨rfl, rfl⟩
  · intro ended
    obtain ⟨rfl, rfl⟩ := ended
    exact ⟨result, [], rfl, rfl, rfl, rfl⟩

/-- Listeners are told, and what they reply is passed over. -/
theorem ends_announce {event : Event} {result : Except Failure Unit} :
    (announce event).Ends books trace result after ↔
      ∃ reply, trace = [exchange (.announce event) books.disk reply] ∧ result = .ok () ∧
        after = books := by
  change (Program.ask (I := collaborators) (α := Except Failure Unit × Books)
    ⟨.announce event, books.disk⟩ fun _ => .done (.ok (), books)).Runs trace (result, after) ↔ _
  simp only [Program.runs_ask_iff, Program.runs_done_iff, Prod.mk.injEq]
  constructor
  · intro ended
    obtain ⟨reply, rest, rfl, rfl, rfl, rfl⟩ := ended
    exact ⟨reply, rfl, rfl, rfl⟩
  · intro ended
    obtain ⟨reply, rfl, rfl, rfl⟩ := ended
    exact ⟨reply, [], rfl, rfl, rfl, rfl⟩

/-- A given result is the end of the flow, with nothing asked. -/
theorem ends_lift {given result : Except Failure α} :
    (lift given).Ends books trace result after ↔
      trace = [] ∧ result = given ∧ after = books := by
  change (Program.done (given, books)).Runs trace (result, after) ↔ _
  rw [Program.runs_done_iff, Prod.mk.injEq]

theorem ends_get {result : Except Failure Books} :
    (get : Flow Books).Ends books trace result after ↔
      trace = [] ∧ result = .ok books ∧ after = books := by
  change (Program.done (Except.ok books, books)).Runs trace (result, after) ↔ _
  rw [Program.runs_done_iff, Prod.mk.injEq]

theorem ends_modify {change : Books → Books} {result : Except Failure Unit} :
    (modify change : Flow Unit).Ends books trace result after ↔
      trace = [] ∧ result = .ok () ∧ after = change books := by
  change (Program.done (Except.ok (), change books)).Runs trace (result, after) ↔ _
  rw [Program.runs_done_iff, Prod.mk.injEq]

theorem ends_count {change : Tally → Tally} {result : Except Failure Unit} :
    (count change).Ends books trace result after ↔
      trace = [] ∧ result = .ok () ∧ after = { books with tally := change books.tally } :=
  ends_modify

/-- Entering a stage notes it in the books. -/
theorem ends_enter {stage : Stage} {result : Except Failure Unit} :
    (enter stage).Ends books trace result after ↔
      trace = [] ∧ result = .ok () ∧ after = { books with stages := books.stages ++ [stage] } :=
  ends_modify

/-- Work on the disk is no matter of collaborators, and touches nothing but the disk. -/
theorem ends_onDisk {task : DiskTask α} {result : Except Failure α} :
    (onDisk task).Ends books trace result after ↔
      trace = [] ∧ result = (task.run.run books.disk).1 ∧
        after = { books with disk := (task.run.run books.disk).2 } := by
  change (Program.done ((task.run.run books.disk).1,
    { books with disk := (task.run.run books.disk).2 })).Runs trace (result, after) ↔ _
  rw [Program.runs_done_iff, Prod.mk.injEq]

/-! ## Flows that only have a result -/

/-- A flow asks nobody and keeps nothing, but has a result. -/
def Settles (flow : Flow α) (books : Books) (found : Except Failure α) : Prop :=
  ∀ trace result after, flow.Ends books trace result after ↔
    trace = [] ∧ result = found ∧ after = books

theorem settles_pure (books : Books) (value : α) :
    (pure value : Flow α).Settles books (.ok value) :=
  fun _ _ _ => ends_pure

theorem settles_lift (books : Books) (given : Except Failure α) :
    (lift given).Settles books given :=
  fun _ _ _ => ends_lift

/-! ## First steps of sequences -/

section Steps

variable {next : α → Flow β} {result : Except Failure β}

/-- A first step that always returns and asks nobody is no step of the trace. -/
theorem ends_bind_of_returns {value : α} {middle : Books}
    (returns : ∀ {trace result after}, flow.Ends books trace result after ↔
      trace = [] ∧ result = .ok value ∧ after = middle) :
    (flow >>= next).Ends books trace result after ↔
      (next value).Ends middle trace result after := by
  rw [ends_bind]
  constructor
  · intro ended
    rcases ended with ⟨_, _, _, _, start, rest, rfl⟩ | ⟨_, start, -⟩
    · obtain ⟨rfl, ⟨⟩, rfl⟩ := returns.1 start
      exact rest
    · obtain ⟨-, ⟨⟩, -⟩ := returns.1 start
  · exact fun rest => .inl ⟨value, middle, [], trace, returns.2 ⟨rfl, rfl, rfl⟩, rest, rfl⟩

theorem ends_get_bind {next : Books → Flow β} :
    ((get : Flow Books) >>= next).Ends books trace result after ↔
      (next books).Ends books trace result after :=
  ends_bind_of_returns ends_get

theorem ends_modify_bind {change : Books → Books} {next : PUnit → Flow β} :
    ((modify change : Flow PUnit) >>= next).Ends books trace result after ↔
      (next ⟨⟩).Ends (change books) trace result after :=
  ends_bind_of_returns ends_modify

theorem ends_count_bind {change : Tally → Tally} {next : Unit → Flow β} :
    (count change >>= next).Ends books trace result after ↔
      (next ()).Ends { books with tally := change books.tally } trace result after :=
  ends_bind_of_returns ends_count

theorem ends_enter_bind {stage : Stage} {next : Unit → Flow β} :
    (enter stage >>= next).Ends books trace result after ↔
      (next ()).Ends { books with stages := books.stages ++ [stage] } trace result after :=
  ends_bind_of_returns ends_enter

/-- A first step that settles a result: the sequence goes on with it, or fails with it. -/
theorem Settles.ends_bind {found : Except Failure α} (settles : flow.Settles books found) :
    (flow >>= next).Ends books trace result after ↔
      (∃ value, found = .ok value ∧ (next value).Ends books trace result after) ∨
      ∃ failure, found = .error failure ∧ trace = [] ∧ result = .error failure ∧ after = books := by
  rw [Flow.ends_bind]
  constructor
  · intro ended
    rcases ended with ⟨value, _, _, _, start, rest, rfl⟩ | ⟨failure, start, rfl⟩
    · obtain ⟨rfl, same, rfl⟩ := (settles _ _ _).1 start
      exact .inl ⟨value, same.symm, rest⟩
    · obtain ⟨rfl, same, rfl⟩ := (settles _ _ _).1 start
      exact .inr ⟨failure, same.symm, rfl, rfl, rfl⟩
  · intro ended
    rcases ended with ⟨value, rfl, rest⟩ | ⟨failure, rfl, rfl, rfl, rfl⟩
    · exact .inl ⟨value, books, [], trace, (settles _ _ _).2 ⟨rfl, rfl, rfl⟩, rest, rfl⟩
    · exact .inr ⟨failure, (settles _ _ _).2 ⟨rfl, rfl, rfl⟩, rfl⟩

/-- A flow that settles, followed by flows that settle, settles. -/
theorem Settles.bind {found : Except Failure α} {rest : α → Except Failure β}
    (settles : flow.Settles books found)
    (onward : ∀ value, (next value).Settles books (rest value)) :
    (flow >>= next).Settles books (found >>= rest) := by
  intro trace result after
  rw [settles.ends_bind]
  cases found with
  | ok value =>
    constructor
    · intro ended
      rcases ended with ⟨_, ⟨⟩, ended⟩ | ⟨_, ⟨⟩, -⟩
      exact (onward value _ _ _).1 ended
    · exact fun ended => .inl ⟨value, rfl, (onward value _ _ _).2 ended⟩
  | error failure =>
    constructor
    · intro ended
      rcases ended with ⟨_, ⟨⟩, -⟩ | ⟨_, ⟨⟩, ended⟩
      exact ended
    · exact fun ended => .inr ⟨failure, rfl, ended⟩

/-- A flow that begins with a given result goes on from its value, or ends with its failure. -/
theorem ends_lift_bind {given : Except Failure α} :
    (lift given >>= next).Ends books trace result after ↔
      (∃ value, given = .ok value ∧ (next value).Ends books trace result after) ∨
      ∃ failure, given = .error failure ∧ trace = [] ∧ result = .error failure ∧ after = books :=
  (settles_lift books given).ends_bind

/-- A flow that begins on the disk goes on from what the task left, or fails with it. -/
theorem ends_onDisk_bind {task : DiskTask α} :
    (onDisk task >>= next).Ends books trace result after ↔
      (∃ value disk, task.run.run books.disk = (.ok value, disk) ∧
        (next value).Ends { books with disk } trace result after) ∨
      ∃ failure disk, task.run.run books.disk = (.error failure, disk) ∧ trace = [] ∧
        result = .error failure ∧ after = { books with disk } := by
  rw [ends_bind]
  rcases ended : task.run.run books.disk with ⟨failed | value, disk⟩
  · constructor
    · intro ended
      rcases ended with ⟨_, _, _, _, start, -, -⟩ | ⟨failure, start, rfl⟩
      · obtain ⟨-, same, -⟩ := ends_onDisk.1 start
        rw [ended] at same
        cases same
      · obtain ⟨rfl, same, rfl⟩ := ends_onDisk.1 start
        rw [ended] at same ⊢
        cases same
        exact .inr ⟨_, _, rfl, rfl, rfl, rfl⟩
    · intro ended
      rcases ended with ⟨_, _, ⟨⟩, -⟩ | ⟨failure, _, ⟨⟩, rfl, rfl, rfl⟩
      exact .inr ⟨failed, ends_onDisk.2 (by rw [ended]; exact ⟨rfl, rfl, rfl⟩), rfl⟩
  · constructor
    · intro ended
      rcases ended with ⟨_, _, _, _, start, rest, rfl⟩ | ⟨failure, start, rfl⟩
      · obtain ⟨rfl, same, rfl⟩ := ends_onDisk.1 start
        rw [ended] at same rest
        cases same
        exact .inl ⟨value, disk, rfl, rest⟩
      · obtain ⟨-, same, -⟩ := ends_onDisk.1 start
        rw [ended] at same
        cases same
    · intro ended
      rcases ended with ⟨_, _, ⟨⟩, rest⟩ | ⟨_, _, ⟨⟩, -⟩
      exact .inl ⟨value, _, [], trace,
        ends_onDisk.2 (by rw [ended]; exact ⟨rfl, rfl, rfl⟩), rest, rfl⟩

/-- A question comes first: it is answered, or the sequence fails like the answer. -/
theorem ends_ask_bind {question : Question} {next : question.Answer → Flow β} :
    (ask question >>= next).Ends books trace result after ↔
      (∃ answer rest, trace = exchange question books.disk (.ok answer) :: rest ∧
        (next answer).Ends books rest result after) ∨
      ∃ failure, trace = [exchange question books.disk (.error failure)] ∧
        result = .error failure ∧ after = books := by
  rw [ends_bind]
  constructor
  · intro ended
    rcases ended with ⟨answer, _, _, rest, start, onward, rfl⟩ | ⟨failure, start, rfl⟩
    · obtain ⟨rfl, rfl⟩ := ends_ask.1 start
      exact .inl ⟨answer, rest, rfl, onward⟩
    · obtain ⟨rfl, rfl⟩ := ends_ask.1 start
      exact .inr ⟨failure, rfl, rfl, rfl⟩
  · intro ended
    rcases ended with ⟨answer, rest, rfl, onward⟩ | ⟨failure, rfl, rfl, rfl⟩
    · exact .inl ⟨answer, books, [_], rest, ends_ask.2 ⟨rfl, rfl⟩, onward, rfl⟩
    · exact .inr ⟨failure, ends_ask.2 ⟨rfl, rfl⟩, rfl⟩

/-- A flow that announces first goes on only when the announcement was heard to its end. -/
theorem ends_announce_bind {event : Event} {next : Unit → Flow β} :
    (announce event >>= next).Ends books trace result after ↔
      ∃ reply rest, trace = exchange (.announce event) books.disk reply :: rest ∧
        (next ()).Ends books rest result after := by
  rw [ends_bind]
  constructor
  · intro ended
    rcases ended with ⟨_, _, _, rest, start, onward, rfl⟩ | ⟨failure, start, -⟩
    · obtain ⟨reply, rfl, -, rfl⟩ := ends_announce.1 start
      exact ⟨reply, rest, rfl, onward⟩
    · obtain ⟨-, -, ⟨⟩, -⟩ := ends_announce.1 start
  · intro ended
    obtain ⟨reply, rest, rfl, onward⟩ := ended
    exact .inl ⟨(), books, [_], rest, ends_announce.2 ⟨reply, rfl, rfl, rfl⟩, onward, rfl⟩

end Steps

/-! ## Cleaning up and failing -/

/-- How a cleanup follows its body, however that ends. -/
theorem run_ensuring (cleanup : Flow Unit) (body : Flow α) (books : Books) :
    (ensuring cleanup body).run.run books =
      (body.run.run books).bind fun (result, middle) =>
        (cleanup.run.run middle).bind fun (cleaned, last) =>
          .done (match cleaned with
            | .ok () => result
            | .error failure => .error failure, last) := by
  change Program.bind _ _ = Program.bind _ _
  congr 1
  funext ⟨result, middle⟩
  change Program.bind _ _ = Program.bind _ _
  congr 1
  funext ⟨cleaned, last⟩
  cases cleaned <;> rfl

/-- **Cleaning up.** The cleanup is carried out however the body ends, and a failure of it wins. -/
theorem ends_ensuring {cleanup : Flow Unit} {result : Except Failure α} :
    (ensuring cleanup flow).Ends books trace result after ↔
      ∃ ended middle cleaned first second, flow.Ends books first ended middle ∧
        cleanup.Ends middle second cleaned after ∧ trace = first ++ second ∧
        result = match cleaned with
          | .ok () => ended
          | .error failure => .error failure := by
  rw [Ends, run_ensuring]
  simp only [Program.runs_bind_iff, Program.runs_done_iff]
  constructor
  · intro ended
    obtain ⟨first, ⟨ended, middle⟩, _, start, ⟨second, ⟨cleaned, last⟩, _, tidied, ⟨rfl, same⟩,
      rfl⟩, rfl⟩ := ended
    cases same
    exact ⟨ended, middle, cleaned, first, second, start, tidied, by rw [List.append_nil], rfl⟩
  · intro ended
    obtain ⟨ended, middle, cleaned, first, second, start, tidied, rfl, rfl⟩ := ended
    exact ⟨first, (ended, middle), second, start,
      ⟨second, (cleaned, after), [], tidied, ⟨rfl, rfl⟩, (List.append_nil _).symm⟩, rfl⟩

/-- What is done beside a failure of a certain family keeps the failure. -/
theorem run_onFailure (isMeant : Kind → Bool) (change : Tally → Tally) (flow : Flow α)
    (books : Books) :
    (onFailure isMeant (count change) flow).run.run books =
      (flow.run.run books).bind fun (result, last) =>
        .done (result, match result with
          | .ok _ => last
          | .error failure =>
            if isMeant failure.kind then { last with tally := change last.tally } else last) := by
  change Program.bind _ _ = Program.bind _ _
  congr 1
  funext ⟨result, last⟩
  cases result with
  | ok value => rfl
  | error failure =>
    cases meant : isMeant failure.kind <;>
      simp [meant] <;> rfl

/-- What is done beside a failure of a certain family changes neither the failure nor, if it always
returns, that the flow failed. -/
theorem ends_onFailure {isMeant : Kind → Bool} {change : Tally → Tally}
    {result : Except Failure α} :
    (onFailure isMeant (count change) flow).Ends books trace result after ↔
      ∃ last, flow.Ends books trace result last ∧
        after = match result with
          | .ok _ => last
          | .error failure =>
            if isMeant failure.kind then { last with tally := change last.tally } else last := by
  rw [Ends, run_onFailure, Program.runs_bind_iff]
  constructor
  · intro ended
    obtain ⟨first, ⟨ended, last⟩, _, runs, rest, rfl⟩ := ended
    obtain ⟨rfl, same⟩ := Program.runs_done_iff.1 rest
    cases same
    rw [List.append_nil]
    exact ⟨last, runs, rfl⟩
  · intro ended
    obtain ⟨last, runs, rfl⟩ := ended
    exact ⟨trace, (result, last), [], runs, .done _, (List.append_nil _).symm⟩

end Flow

end UpgradeGate
