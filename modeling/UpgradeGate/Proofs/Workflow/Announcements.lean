import UpgradeGate.Proofs.Workflow.Effects
import UpgradeGate.Proofs.Workflow.Questions

/-!
# What is announced

The announcements of a workflow can be read off its exchanges (`Flow.events`). Nothing is announced
before a deployment, a deployment announces the name and the address of its contract once both are
given, and only a fast path that completes announces an attempt.
-/

namespace UpgradeGate

/-- The event that listeners are told, if a question is an announcement. -/
def Question.event? : Question → Option Event
  | .announce event => some event
  | _ => none

theorem Question.event?_of_isLookup {question : Question} (lookup : question.isLookup = true) :
    question.event? = none := by
  cases question <;> first | rfl | cases lookup

namespace Flow

variable {trace : Trace collaborators}

/-- The event that is announced in an exchange. -/
def announced? (exchange : Exchange collaborators) : Option Event := exchange.call.question.event?

/-- The events that are announced in some exchanges, in order. -/
def events (trace : Trace collaborators) : List Event := trace.filterMap announced?

@[simp] theorem events_nil : events [] = [] := rfl

@[simp] theorem events_append (first second : Trace collaborators) :
    events (first ++ second) = events first ++ events second :=
  List.filterMap_append ..

@[simp] theorem events_announce (event : Event) (disk : Disk) (reply : Except Failure Unit)
    (later : Trace collaborators) :
    events (exchange (.announce event) disk reply :: later) = event :: events later := rfl

/-- An exchange that announces nothing adds no event. -/
theorem events_cons_of_none {first : Exchange collaborators} (silent : announced? first = none)
    (later : Trace collaborators) : events (first :: later) = events later :=
  List.filterMap_cons_none silent

/-- A trace none of whose questions announces has no event. -/
theorem events_eq_nil (silent : ∀ exchange ∈ trace, exchange.call.question.event? = none) :
    events trace = [] :=
  List.filterMap_eq_nil_iff.2 silent

/-- Looking things up announces nothing. -/
theorem events_of_lookups (lookups : ∀ exchange ∈ trace, exchange.call.question.isLookup = true) :
    events trace = [] :=
  events_eq_nil fun exchange member => Question.event?_of_isLookup (lookups exchange member)

end Flow

namespace Gate

open UpgradeGate.Flow

variable {gate : Gate} {order : UpgradeOrder} {proxy : Address}
  {previous : Option DeploymentRecord} {books after : Books} {trace : Trace collaborators}
  {contract network sender : String} {arguments : List Argument}

/-- Creating a contract announces nothing. -/
theorem events_of_ends_create [AddressRule] {result : Except Failure Address}
    (ended : (create contract arguments sender).Ends books trace result after) :
    events trace = [] :=
  have silent : (create contract arguments sender).Asks (·.event? = none) :=
    asks_bind (asks_ask rfl) fun _ => asks_bind (asks_ask rfl) fun _ => asks_lift _
  events_eq_nil (silent.meant ended)

/-- The checks and the prediction before a fast path announce nothing. -/
theorem Foreseen.unannounced [AddressRule] {checked foretold : Trace collaborators}
    {admin : Option Address} {predicted : String}
    (foreseen : Foreseen gate order proxy previous books checked foretold admin predicted) :
    events checked = [] ∧ events foretold = [] :=
  List.append_eq_nil_iff.1 ((events_append ..).symm.trans (events_of_lookups foreseen.lookups))

/-- The call that installs the implementation announces nothing. -/
@[simp] theorem announced?_installCall (order : UpgradeOrder) (proxy implementation : Address)
    (admin : Option Address) (disk : Disk) (reply : Except Failure Unit) :
    announced? (installCall order proxy implementation admin disk reply) = none := by
  unfold installCall
  cases order.initData <;> rfl

/-! ## Deployments -/

/-- What the deployment of a contract that stands alone announces: its name and its address. -/
def landing (contract network : String) (address : Address) : List Event :=
  [.labelled address.text contract, .deployed contract network address.text none]

/-- **A deployment** announces its contract where it returns, and nothing where it fails. -/
theorem RawDeployment.events_eq [AddressRule] {result : Except Failure Address}
    (deployment : RawDeployment contract arguments network sender books trace result after) :
    events trace = match result with
      | .ok address => landing contract network address
      | .error _ => [] := by
  cases deployment with
  | undeployed failed => exact events_of_ends_create failed
  | unlogged created => exact events_of_ends_create created
  | unlabelled failure created =>
    rw [events_append, events_of_ends_create created]
    rfl
  | deployed named told created =>
    rw [events_append, events_of_ends_create created]
    rfl

/-- A raw deployment enters no stage. -/
theorem RawDeployment.stages_eq [AddressRule] {result : Except Failure Address}
    (deployment : RawDeployment contract arguments network sender books trace result after) :
    after.stages = books.stages := by
  have recorded : ∀ address, (rawBooks books contract network address).stages = books.stages :=
    fun _ => books.stages_recorded _
  cases deployment with
  | undeployed => rfl
  | unlogged => rfl
  | unlabelled => exact recorded _
  | deployed => exact recorded _

/-! ## The fast path -/

/-- **A fast path that fails** announces no more than the contract that it deployed, and the attempt
stays on the fast path. -/
theorem FastPath.announces_of_error [AddressRule] {candidate : Layout} {compatible : Bool}
    {attempt : Attempt} {failure : Failure}
    (path : FastPath gate order proxy previous candidate compatible attempt books trace
      (.error failure) after)
    (writable : gate.store.Writable .baseline order.contract order.network books.disk) :
    after.stages = books.stages ∧ (events trace = [] ∨
      ∃ implementation, events trace = landing order.contract order.network implementation) := by
  cases path with
  | unresolved failed =>
    exact ⟨rfl, .inl (events_of_lookups ((lookups_administrator _ _ _).meant failed))⟩
  | unforeseen resolved failed =>
    refine ⟨rfl, .inl ?_⟩
    rw [events_append, events_of_lookups ((lookups_administrator _ _ _).meant resolved),
      events_of_lookups ((lookups_predictNext _ _).meant failed)]
    rfl
  | undeployed foreseen failed =>
    refine ⟨failed.stages_eq, .inl ?_⟩
    simp only [events_append, foreseen.unannounced, failed.events_eq, List.append_nil]
  | @mismatched _ _ _ _ _ implementation _ foreseen deployed =>
    refine ⟨deployed.stages_eq, .inr ⟨implementation, ?_⟩⟩
    simp only [events_append, foreseen.unannounced, deployed.events_eq, List.nil_append]
  | @refused _ _ _ _ _ implementation _ _ foreseen deployed =>
    refine ⟨deployed.stages_eq, .inr ⟨implementation, ?_⟩⟩
    simp only [events_append, foreseen.unannounced, deployed.events_eq, List.nil_append,
      events_cons_of_none (announced?_installCall ..), events_nil, List.append_nil]
  | @unconfirmed _ _ _ _ _ _ implementation _ _ foreseen deployed same failed =>
    refine ⟨deployed.stages_eq, .inr ⟨implementation, ?_⟩⟩
    simp only [events_append, foreseen.unannounced, deployed.events_eq, List.nil_append,
      events_cons_of_none (announced?_installCall ..),
      events_of_lookups ((lookups_confirm _ _).meant failed), List.append_nil]
  | unkept _ deployed _ _ unwritten => exact absurd unwritten (deployed.not_unwritten writable)

/-- **A fast path that completes** comes to its last stage, with the predicted address where the
contract was deployed, and announces the attempt. -/
theorem FastPath.announces_of_ok [AddressRule] {candidate : Layout} {compatible : Bool}
    {attempt finished : Attempt}
    (path : FastPath gate order proxy previous candidate compatible attempt books trace
      (.ok finished) after) :
    ∃ predicted implementation, finished = finish attempt compatible predicted implementation ∧
      Address.sameAccount predicted implementation.text = true ∧
      after.stages = books.stages ++ [.upgraded] ∧
      events trace = landing order.contract order.network implementation ++
        [.completed finished] := by
  cases path with
  | @completed _ _ _ admin predicted implementation middle _ _ _ told foreseen deployed same =>
    refine ⟨predicted, implementation, rfl, same, ?_, ?_⟩
    · change (upgradeBooks middle order proxy previous admin implementation).stages = _
      rw [upgradeBooks, Books.stages_recorded, ← deployed.stages_eq]
    · simp only [events_append, foreseen.unannounced, deployed.events_eq, List.nil_append,
        events_cons_of_none (announced?_installCall ..)]
      rfl

end Gate

end UpgradeGate
