import UpgradeGate.Proofs.Chain.NodeTasks
import UpgradeGate.Proofs.Workflow.Reports

/-!
# Workflows at a node, by their questions

Where the chain is behind a node, a workflow asks what it asks anywhere, and the calls to the node
are those that its questions come to, one question after the other (`Flow.calls_connect_iff`).
-/

namespace UpgradeGate

/-- An exchange with the node. -/
def Exchange.atNode? : Exchange connected → Option (Exchange nodes)
  | ⟨.inl call, reply⟩ => some ⟨call, reply⟩
  | ⟨.inr _, _⟩ => none

/-- The exchanges with the node. -/
def nodeCalls (trace : Trace connected) : Trace nodes := trace.filterMap Exchange.atNode?

namespace Node

variable {α : Type} {patience : Nat} {labels after : Labels} {calls : Trace nodes}

/-- The exchanges of a workflow come to some exchanges with the node. -/
def Carries [AddressRule] (patience : Nat) (labels : Labels) :
    Trace collaborators → Trace nodes → Labels → Prop
  | [], calls, after => calls = [] ∧ after = labels
  | ⟨request, reply⟩ :: rest, calls, after => ∃ first middle later,
      Answers patience request.question labels first reply middle ∧
        Carries patience middle rest later after ∧ calls = first ++ later

/-- A trace is carried when its first question is answered and the rest is carried from there. -/
theorem carries_cons [AddressRule] {question : Question} {disk : Disk}
    {reply : Except Failure question.Answer} {rest : Trace collaborators} :
    Carries patience labels (Flow.exchange question disk reply :: rest) calls after ↔
      ∃ first middle later, Answers patience question labels first reply middle ∧
        Carries patience middle rest later after ∧ calls = first ++ later :=
  Iff.rfl

/-- Calls that carry two traces one after the other fall into those of the first and those of the
second. -/
theorem carries_append [AddressRule] {first second : Trace collaborators} :
    Carries patience labels (first ++ second) calls after ↔
      ∃ early middle late, Carries patience labels first early middle ∧
        Carries patience middle second late after ∧ calls = early ++ late := by
  induction first generalizing labels calls with
  | nil =>
    constructor
    · intro carries
      exact ⟨[], labels, calls, ⟨rfl, rfl⟩, carries, rfl⟩
    · intro carries
      obtain ⟨_, _, late, ⟨rfl, rfl⟩, carries, rfl⟩ := carries
      exact carries
  | cons exchange rest ih =>
    constructor
    · intro carries
      obtain ⟨begun, begun', _, answers, carries, rfl⟩ := carries
      obtain ⟨early, middle, late, within, further, rfl⟩ := ih.1 carries
      exact ⟨begun ++ early, middle, late, ⟨begun, begun', early, answers, within, rfl⟩, further,
        (List.append_assoc ..).symm⟩
    · intro carries
      obtain ⟨_, middle, late, ⟨begun, begun', early, answers, within, rfl⟩, further, rfl⟩ :=
        carries
      exact ⟨begun, begun', early ++ late, answers,
        ih.2 ⟨early, middle, late, within, further, rfl⟩, List.append_assoc ..⟩

/-- Questions for which no transaction is sent only read. -/
theorem reads_of_carries [AddressRule] {told : Trace collaborators}
    (still : ∀ exchange ∈ told, exchange.call.question.isSending = false)
    (carries : Carries patience labels told calls after) : Reads calls := by
  induction told generalizing labels calls with
  | nil => exact carries.1 ▸ reads_nil
  | cons exchange rest ih =>
    obtain ⟨first, middle, later, answers, further, rfl⟩ := carries
    exact (reads_of_answers (still exchange (List.mem_cons_self ..)) answers).append
      (ih (fun other member => still other (List.mem_cons_of_mem _ member)) further)

/-- Questions that are not to the chain are no matter of the node. -/
theorem answers_offChain_iff [AddressRule] {question : Question}
    {reply : Except Failure question.Answer} (off : question.isChain = false) :
    Answers patience question labels calls reply after ↔ calls = [] ∧ after = labels := by
  cases question <;> first | exact Iff.rfl | cases off

/-- A question that is not the chain's costs the nodes no call. -/
theorem carries_offChain_cons [AddressRule] {question : Question} {disk : Disk}
    {reply : Except Failure question.Answer} {rest : Trace collaborators}
    (off : question.isChain = false) :
    Carries patience labels (Flow.exchange question disk reply :: rest) calls after ↔
      Carries patience labels rest calls after := by
  constructor
  · intro carries
    obtain ⟨_, _, later, answers, further, rfl⟩ := carries
    obtain ⟨rfl, rfl⟩ := (answers_offChain_iff off).1 answers
    exact further
  · intro further
    exact ⟨[], labels, calls, (answers_offChain_iff off).2 ⟨rfl, rfl⟩, further, rfl⟩

/-- Calls that answer a question go before those that carry what follows it. -/
theorem Carries.cons [AddressRule] {question : Question} {disk : Disk}
    {reply : Except Failure question.Answer} {rest : Trace collaborators}
    {first later : Trace nodes} {middle : Labels}
    (answers : Answers patience question labels first reply middle)
    (further : Carries patience middle rest later after) :
    Carries patience labels (Flow.exchange question disk reply :: rest) (first ++ later) after :=
  carries_cons.2 ⟨first, middle, later, answers, further, rfl⟩

/-- What carries a trace carries it behind a question that is not the chain's. -/
theorem Carries.offChain [AddressRule] {question : Question} {disk : Disk}
    {reply : Except Failure question.Answer} {rest : Trace collaborators}
    (off : question.isChain = false) (further : Carries patience labels rest calls after) :
    Carries patience labels (Flow.exchange question disk reply :: rest) calls after :=
  (carries_offChain_cons off).2 further

/-- One question is carried by the calls that answer it. -/
theorem carries_singleton [AddressRule] {question : Question} {disk : Disk}
    {reply : Except Failure question.Answer} :
    Carries patience labels [Flow.exchange question disk reply] calls after ↔
      Answers patience question labels calls reply after := by
  constructor
  · intro carries
    obtain ⟨first, _, _, answers, ⟨rfl, rfl⟩, rfl⟩ := carries
    rwa [List.append_nil]
  · intro answers
    exact ⟨calls, after, [], answers, ⟨rfl, rfl⟩, (List.append_nil _).symm⟩

/-- Nothing is asked of the node for a report. -/
theorem calls_of_onlyReports [AddressRule] {told : Trace collaborators} (reports : OnlyReports told)
    (carries : Carries patience labels told calls after) : calls = [] := by
  induction told generalizing labels calls with
  | nil => exact carries.1
  | cons exchange rest ih =>
    have off := (Question.off_chain_of_isReport (reports exchange (List.mem_cons_self ..))).1
    exact ih (fun other member => reports other (List.mem_cons_of_mem _ member))
      ((carries_offChain_cons off).1 carries)

/-! ## Runs of a workflow at a node -/

/-- A task within the connection runs as it does before the nodes. -/
theorem runs_within_iff {task : Program nodes α} {trace : Trace connected} {result : α} :
    (within task).Runs trace result ↔ ∃ calls, task.Runs calls result ∧
      trace = calls.map fun exchange => ⟨.inl exchange.call, exchange.reply⟩ := by
  induction task generalizing trace with
  | done value =>
    change (Program.done value).Runs trace result ↔ _
    simp only [Program.runs_done_iff]
    constructor
    · intro ended
      obtain ⟨rfl, rfl⟩ := ended
      exact ⟨[], ⟨rfl, rfl⟩, rfl⟩
    · intro ended
      obtain ⟨_, ⟨rfl, rfl⟩, rfl⟩ := ended
      exact ⟨rfl, rfl⟩
  | ask call next ih =>
    change (Program.ask (I := connected) (.inl call) fun reply => within (next reply)).Runs trace
      result ↔ _
    simp only [Program.runs_ask_iff, ih]
    constructor
    · intro ended
      obtain ⟨reply, _, rfl, calls, runs, rfl⟩ := ended
      exact ⟨⟨call, reply⟩ :: calls, ⟨reply, calls, rfl, runs⟩, rfl⟩
    · intro ended
      obtain ⟨_, ⟨reply, calls, rfl, runs⟩, rfl⟩ := ended
      exact ⟨reply, _, rfl, calls, runs, rfl⟩

theorem nodeCalls_atNode (calls : Trace nodes) :
    nodeCalls (calls.map fun exchange => ⟨.inl exchange.call, exchange.reply⟩) = calls := by
  rw [nodeCalls, List.filterMap_map]
  exact List.filterMap_some

/-- A request is answered at a node as its question is. -/
theorem calls_answer_iff [AddressRule] {request : Request}
    {reply : Except Failure request.question.Answer} : (∃ trace, nodeCalls trace = calls ∧
        ((answer patience request).run labels).Runs trace (reply, after)) ↔
      Answers patience request.question labels calls reply after := by
  unfold answer Answers
  cases task? patience request.question with
  | some task =>
    change (∃ trace, nodeCalls trace = calls ∧
      (within (task.run.run labels)).Runs trace (reply, after)) ↔ _
    simp only [runs_within_iff]
    constructor
    · intro ended
      obtain ⟨_, rfl, calls, runs, rfl⟩ := ended
      rwa [nodeCalls_atNode]
    · intro ended
      exact ⟨_, nodeCalls_atNode calls, calls, ended, rfl⟩
  | none =>
    change (∃ trace, nodeCalls trace = calls ∧
      (Program.ask (I := connected) (.inr request) fun reply => .done (reply, labels)).Runs trace
        (reply, after)) ↔ _
    simp only [Program.runs_ask_iff, Program.runs_done_iff, Prod.mk.injEq]
    constructor
    · intro ended
      obtain ⟨_, rfl, reply, _, rfl, rfl, rfl, rfl⟩ := ended
      exact ⟨rfl, rfl⟩
    · intro ended
      obtain ⟨rfl, rfl⟩ := ended
      exact ⟨_, rfl, reply, [], rfl, rfl, rfl, rfl⟩

/-- The calls of a connected program are those that carry a trace of the program before its
collaborators. -/
theorem calls_handle_iff [AddressRule] {program : Program collaborators α} {result : α} :
    (∃ trace, nodeCalls trace = calls ∧
        ((program.handle (answer patience)).run labels).Runs trace (result, after)) ↔
      ∃ told, program.Runs told result ∧ Carries patience labels told calls after := by
  induction program generalizing labels calls with
  | done value =>
    change (∃ trace, nodeCalls trace = calls ∧
      (Program.done (value, labels)).Runs trace (result, after)) ↔ _
    simp only [Program.runs_done_iff, Prod.mk.injEq]
    constructor
    · intro ended
      obtain ⟨_, rfl, rfl, rfl, rfl⟩ := ended
      exact ⟨[], ⟨rfl, rfl⟩, rfl, rfl⟩
    · intro ended
      obtain ⟨_, ⟨rfl, rfl⟩, rfl, rfl⟩ := ended
      exact ⟨[], rfl, rfl, rfl, rfl⟩
  | ask request next ih =>
    have by_steps : ((Program.ask request next).handle (answer patience)).run labels =
        ((answer patience request).run labels).bind fun (reply, middle) =>
          ((next reply).handle (answer patience)).run middle := rfl
    rw [by_steps]
    simp only [Program.runs_bind_iff, Program.runs_ask_iff]
    constructor
    · intro ended
      obtain ⟨_, rfl, first, ⟨reply, middle⟩, second, answered, onward, rfl⟩ := ended
      obtain ⟨told, runs, carries⟩ := ih reply |>.1 ⟨second, rfl, onward⟩
      exact ⟨_, ⟨reply, told, rfl, runs⟩, _, middle, _, calls_answer_iff.1 ⟨first, rfl, answered⟩,
        carries, List.filterMap_append⟩
    · intro ended
      obtain ⟨_, ⟨reply, told, rfl, runs⟩, _, middle, _, answers, carries, rfl⟩ := ended
      obtain ⟨first, rfl, answered⟩ := calls_answer_iff.2 answers
      obtain ⟨second, rfl, onward⟩ := (ih reply).2 ⟨told, runs, carries⟩
      exact ⟨first ++ second, List.filterMap_append, first, (reply, middle), second, answered,
        onward, rfl⟩

end Node

namespace Flow

variable {α : Type} {flow : Flow α} {patience : Nat} {books after : Books}
  {labels labels' : Node.Labels} {calls : Trace nodes} {result : Except Failure α}

/-- **Workflows at a node.** At a node a flow ends as it ends anywhere, and makes the calls that its
questions come to. -/
theorem calls_connect_iff [AddressRule] :
    (∃ trace, nodeCalls trace = calls ∧
        (flow.connect patience books labels).Runs trace ((result, after), labels')) ↔
      ∃ told, flow.Ends books told result after ∧ Node.Carries patience labels told calls labels' :=
  Node.calls_handle_iff

end Flow

end UpgradeGate
