import Mathlib.Algebra.GroupWithZero.Nat
import UpgradeGate.Proofs.Gate.Advisory
import UpgradeGate.Proofs.Gate.Installation
import UpgradeGate.Proofs.Gate.Stages
import UpgradeGate.Proofs.Workflow.Calls
import UpgradeGate.Proofs.Workflow.Counting

/-!
# The counts, the log and the announcements agree

From an empty log and zero counts on, after any calls whose writes do not fail, what is counted can
be read off the log, the announcements and the results of the calls (`Gate.accounts`). A run adds
the records of the contracts that it recorded, its outcome, the collisions that it reports, and a
mismatch where the contract that it announced is elsewhere than foretold (`Gate.Run.booked`).

A contract that landed elsewhere but could not be named is not counted as a mismatch
(`Gate.mismatch_uncounted_without_label`).
-/

namespace UpgradeGate

open UpgradeGate.Flow

/-- The address of a contract that stands alone, as it is announced. -/
def Event.landed? : Event → Option String
  | .deployed _ _ address none => some address
  | _ => none

/-- The announcement of a completed upgrade. -/
def Event.isCompleted : Event → Bool
  | .completed _ => true
  | _ => false

/-- Completed upgrades can be counted among the exchanges or among the announcements. -/
theorem Flow.countP_isCompletion (trace : Trace collaborators) :
    trace.countP isCompletion = (events trace).countP Event.isCompleted := by
  induction trace with
  | nil => rfl
  | cons first rest ih =>
    obtain ⟨⟨question, disk⟩, reply⟩ := first
    rw [List.countP_cons, ih]
    cases question with
    | announce event =>
      change _ = (event :: events rest).countP Event.isCompleted
      rw [List.countP_cons]
      cases event <;> rfl
    | _ => rfl

/-- Completed upgrades can be counted among the attempts that are announced. -/
theorem Flow.countP_isCompletion_eq (trace : Trace collaborators) :
    trace.countP isCompletion = (conclusions trace).countP Event.isCompleted := by
  rw [countP_isCompletion, conclusions, List.countP_filter]
  refine List.countP_congr fun event _ => ?_
  cases event <;> simp [Event.isCompleted, Event.isConclusion]

namespace Gate

variable {gate : Gate} {order : UpgradeOrder} {proxy : Address}
  {previous : Option DeploymentRecord} {books after : Books} {trace : Trace collaborators}
  {contract network sender : String}

/-! ## Contracts that landed elsewhere -/

/-- The address that is foretold for the next contract of an account in some exchanges. -/
def foretold? (gate : Gate) (sender : String) (trace : Trace collaborators) : Option String :=
  match gate.predictor with
  | .fixed address => some address
  | .creation => (trace.filterMap counted?).head?.bind fun nonce =>
      (Address.predict (.string sender) nonce).toOption.map Address.text

/-- An address is given, and it is not the one that was foretold. -/
def differs [AddressRule] (gate : Gate) (sender : String) (trace : Trace collaborators)
    (landed : Option String) : Bool :=
  (gate.foretold? sender trace).any fun foretold =>
    landed.any fun landed => !Address.sameAccount foretold landed

/-- An address that is not the foretold one differs from it. -/
theorem differs_of_apart [AddressRule] {foretold address : String} {landed : Option String}
    (known : gate.foretold? sender trace = some foretold) (there : landed = some address)
    (apart : Address.sameAccount foretold address = false) :
    gate.differs sender trace landed = true := by
  rw [differs, known, there]
  exact congrArg not apart

/-- A contract was announced elsewhere than foretold. -/
def isAstray [AddressRule] (gate : Gate) (sender : String) (trace : Trace collaborators) : Bool :=
  gate.differs sender trace ((events trace).findSome? Event.landed?)

/-- Where no landing was announced, nothing is known to have gone astray. -/
theorem isAstray_of_unheard [AddressRule]
    (unheard : (events trace).findSome? Event.landed? = none) :
    gate.isAstray sender trace = false := by
  rw [isAstray, unheard, differs]
  cases gate.foretold? sender trace <;> rfl

/-- Where nothing was announced, nothing is known to have gone astray. -/
theorem isAstray_of_silent [AddressRule] (silent : events trace = []) :
    gate.isAstray sender trace = false :=
  isAstray_of_unheard (by rw [silent]; rfl)

/-- Compiling says nothing of where contracts land. -/
theorem isAstray_compiled [AddressRule] {disk : Disk} {answer : Except Failure Layout} :
    gate.isAstray sender (exchange (.layout contract) disk answer :: trace) =
      gate.isAstray sender trace := rfl

/-- What was foretold before a deployment is what the exchanges tell. -/
theorem Foreseen.foretold?_eq [AddressRule] {checked foretold rest : Trace collaborators}
    {admin : Option Address} {predicted : String}
    (foreseen : Foreseen gate order proxy previous books checked foretold admin predicted) :
    gate.foretold? order.sender (checked ++ (foretold ++ rest)) = some predicted := by
  have uncounted : checked.filterMap counted? = [] := by
    obtain ⟨-, ⟨-, -, rfl, -⟩ | ⟨given, owner, -, -, rfl, -⟩⟩ :=
      ends_administrator_ok.1 foreseen.resolved
    · rfl
    · rfl
  have prediction := foreseen.foretold
  rw [foretold?]
  cases predictor : gate.predictor with
  | fixed address =>
    rw [predictNext, predictor] at prediction
    obtain ⟨-, same, -⟩ := ends_pure.1 prediction
    cases same
    rfl
  | creation =>
    obtain ⟨-, nonce, address, foreknown, rfl, rfl⟩ := (ends_predictNext_ok predictor).1 prediction
    simp [List.filterMap_append, uncounted, exchange, counted?, foreknown, Except.toOption]

/-- A run whose contract was announced is astray where that is elsewhere than foretold. -/
theorem Foreseen.isAstray_eq [AddressRule] {checked foretold rest : Trace collaborators}
    {admin : Option Address} {predicted : String} {implementation : Address} {later : List Event}
    (foreseen : Foreseen gate order proxy previous books checked foretold admin predicted)
    (announced : events rest = landing order.contract order.network implementation ++ later) :
    gate.isAstray order.sender (checked ++ (foretold ++ rest)) =
      !Address.sameAccount predicted implementation.text := by
  rw [isAstray, differs, foreseen.foretold?_eq, events_append, events_append,
    foreseen.unannounced.1, foreseen.unannounced.2, announced]
  rfl

/-! ## Runs -/

/-- Where no contract is announced, nothing is added. -/
theorem booked_of_unheard [AddressRule] {stages : List Stage}
    (unheard : (events trace).findSome? Event.landed? = none) :
    Books.Booked ⟨[], [], 0, (gate.isAstray order.sender trace).toNat⟩ books
      { books with stages := stages } := by
  rw [isAstray_of_unheard unheard]
  exact .nothing rfl fun _ => id

/-- Where nothing was announced, nothing is booked. -/
theorem booked_of_silent [AddressRule] (silent : events trace = []) :
    Books.Booked ⟨[], [], 0, (gate.isAstray order.sender trace).toNat⟩ books books :=
  @booked_of_unheard gate order books trace _ books.stages (by rw [silent]; rfl)

/-- Where a contract was announced as it was foretold, its record is all that is added. -/
theorem Foreseen.booked [AddressRule] {checked foretold early later : Trace collaborators}
    {admin : Option Address} {predicted : String} {implementation : Address} {middle : Books}
    (foreseen : Foreseen gate order proxy previous books checked foretold admin predicted)
    (deployed : RawDeployment order.contract [] order.network order.sender books early
      (.ok implementation) middle)
    (same : Address.sameAccount predicted implementation.text = true) :
    ∃ records, Books.Booked ⟨records, [], 0,
        (gate.isAstray order.sender (checked ++ (foretold ++ (early ++ later)))).toNat⟩ books
        middle ∧
      records.countP (·.action == .upgrade) = 0 := by
  obtain ⟨records, booked, others, -⟩ := deployed.booked
  refine ⟨records, ?_, others⟩
  have announced : events (early ++ later) =
      landing order.contract order.network implementation ++ events later := by
    rw [events_append, deployed.events_eq]
  rw [foreseen.isAstray_eq announced, same]
  exact booked

/-- Recording an installed implementation and writing its baseline adds its record. -/
theorem booked_upgradeBooks [AddressRule] {candidate : Layout} {admin : Option Address}
    {implementation : Address} {path : Path} {disk : Disk}
    (apart : ∀ place ∈ books.log.place?,
      ¬ gate.store.Touches .baseline order.contract order.network place)
    (written : (gate.store.write books.now .baseline order.contract order.network
      candidate).run.run (upgradeBooks books order proxy previous admin implementation).disk =
        (.ok path, disk)) :
    Books.Booked (.ofRecords [upgradeRecord order proxy previous admin implementation books.now])
      books { upgradeBooks books order proxy previous admin implementation with disk := disk } := by
  have entered : Books.Booked (.ofRecords []) books
      { books with stages := books.stages ++ [Stage.upgraded] } := .nothing rfl fun _ => id
  have recorded := Books.Booked.after_nothing entered (Books.booked_recorded
    (rowOf_upgradeRecord order proxy previous admin implementation books.now) rfl)
  have kept := LayoutStore.keeps_of_write written
  have place : (upgradeBooks books order proxy previous admin implementation).log.place? =
      books.log.place? := (keeps_upgradeBooks ..).place
  have left : Books.Booked (.ofRecords [])
      (upgradeBooks books order proxy previous admin implementation)
      { upgradeBooks books order proxy previous admin implementation with disk := disk } :=
    .nothing rfl fun _ => LogConnection.rows_keeps kept (place ▸ apart)
  exact recorded.then_nothing left

/-- What a fast path adds: the records, and a mismatch where its contract is astray. -/
theorem FastPath.booked [AddressRule] {candidate : Layout} {compatible : Bool} {attempt : Attempt}
    {result : Except Failure Attempt}
    (path : FastPath gate order proxy previous candidate compatible attempt books trace result
      after)
    (writable : gate.store.Writable .baseline order.contract order.network books.disk)
    (apart : ∀ place ∈ books.log.place?,
      ¬ gate.store.Touches .baseline order.contract order.network place) :
    ∃ records, Books.Booked ⟨records, [], 0, (gate.isAstray order.sender trace).toNat⟩ books after ∧
      records.countP (·.action == .upgrade) = result.isOk.toNat := by
  cases path with
  | unresolved failed =>
    have silent := events_of_lookups ((lookups_administrator _ _ _).meant failed)
    exact ⟨[], booked_of_silent silent, rfl⟩
  | unforeseen resolved failed =>
    refine ⟨[], booked_of_silent ?_, rfl⟩
    rw [events_append, events_of_lookups ((lookups_administrator _ _ _).meant resolved),
      events_of_lookups ((lookups_predictNext _ _).meant failed)]
    rfl
  | undeployed foreseen failed =>
    obtain ⟨records, booked, others, -⟩ := failed.booked
    refine ⟨records, ?_, others⟩
    rw [isAstray_of_silent]
    · exact booked
    · simp only [events_append, foreseen.unannounced, failed.events_eq, List.append_nil]
  | @mismatched _ _ early _ _ implementation _ foreseen deployed differs =>
    obtain ⟨records, booked, others, -⟩ := deployed.booked
    refine ⟨records, ?_, others⟩
    rw [foreseen.isAstray_eq (deployed.events_eq.trans (List.append_nil _).symm), differs]
    have counted := booked.trans (Books.booked_mismatch _)
    rwa [show Entries.ofRecords records ++ ⟨[], [], 0, 1⟩ = ⟨records, [], 0, 1⟩ from
      Entries.ext (List.append_nil _) rfl rfl rfl] at counted
  | refused failure foreseen deployed same => exact foreseen.booked deployed same
  | unconfirmed foreseen deployed same => exact foreseen.booked deployed same
  | unkept _ deployed _ _ unwritten => exact absurd unwritten (deployed.not_unwritten writable)
  | @completed _ _ _ admin _ implementation middle _ _ disk told foreseen deployed same follows
      written =>
    obtain ⟨records, booked, others⟩ := foreseen.booked deployed same
    have upgraded := booked_upgradeBooks (deployed.keeps.place ▸ apart) written
    refine ⟨records ++ [upgradeRecord order proxy previous admin implementation middle.now],
      booked.trans upgraded, ?_⟩
    rw [List.countP_append, others]
    rfl

/-- What an attempt adds while its scratch copy is held. -/
theorem Attempted.booked [AddressRule] {fresh : Attempt}
    {result : Except Failure (Attempt × Report)}
    (attempted : Attempted gate order proxy previous fresh books trace result after)
    (writable : gate.store.Writable .baseline order.contract order.network books.disk)
    (apart : ∀ place ∈ books.log.place?,
      ¬ gate.store.Touches .baseline order.contract order.network place) :
    ∃ records, Books.Booked ⟨records, [], 0, (gate.isAstray order.sender trace).toNat⟩ books after ∧
      records.countP (·.action == .upgrade) = (order.override && result.isOk).toNat := by
  cases attempted with
  | unread => exact ⟨[], booked_of_unheard rfl, by cases order.override <;> rfl⟩
  | uncompiled => exact ⟨[], booked_of_unheard rfl, by cases order.override <;> rfl⟩
  | missing => exact ⟨[], booked_of_unheard rfl, by cases order.override <;> rfl⟩
  | blocked _ _ _ plain =>
    refine ⟨[], booked_of_unheard rfl, ?_⟩
    rw [plain]
    rfl
  | @tried baseline candidate trace outcome last read override path =>
    obtain ⟨records, booked, upgrades⟩ := path.booked writable apart
    refine ⟨records, ?_, ?_⟩
    · have entered : Books.Booked (.ofRecords []) books { captureBooks books with
          stages := (captureBooks books).stages ++ [Stage.fastPath] } := .nothing rfl fun _ => id
      rw [isAstray_compiled]
      exact entered.after_nothing booked
    · rw [upgrades, override]
      cases outcome <;> rfl

/-- The collisions that are reported are those between the layouts that the attempt tells. -/
theorem Attempted.collisions_eq [AddressRule] {fresh attempt : Attempt} {report : Report}
    {result : Except Failure (Attempt × Report)}
    (attempted : Attempted gate order proxy previous fresh books trace result after)
    (returned : result = .ok (attempt, report)) : report.collisions = attempt.collisions := by
  cases attempted with
  | unread => cases returned
  | uncompiled => cases returned
  | missing => cases returned
  | blocked =>
    cases returned
    rfl
  | @tried _ _ _ outcome _ _ _ path =>
    cases outcome with
    | error => cases returned
    | ok finished =>
      obtain ⟨_, _, _, _, rfl, -⟩ := path.of_ok
      cases returned
      rfl

/-- **A run** whose writes do not fail adds the records of what it deployed and installed, its
outcome, the collisions that it reports, and a mismatch where its contract is astray. -/
theorem Run.booked [AddressRule] {earlier : List DeploymentRecord} {result : Except Failure Attempt}
    (run : Run gate order books trace result after) (has : books.HasRecords earlier)
    (unhindered : Unhindered gate order books) :
    ∃ records, Books.Booked
        (⟨records, [], 0, (gate.isAstray order.sender trace).toNat⟩ ++ .ofResult result) books
        after ∧
      records.countP (·.action == .upgrade) = (order.override && result.isOk).toNat := by
  have failedEarly : ∀ {failure : Failure} {stages : List Stage},
      failure.kind.isDeployment = false → ∃ records, Books.Booked
        (⟨records, [], 0, (gate.isAstray order.sender []).toNat⟩ ++ .ofResult (.error failure))
        books { books with stages := stages } ∧
      records.countP (·.action == .upgrade) =
        (order.override && (.error failure : Except Failure Attempt).isOk).toNat := by
    intro failure stages apart
    refine ⟨[], ?_, by cases order.override <;> rfl⟩
    rw [isAstray_of_silent rfl, Entries.ofResult, if_neg (by rw [apart]; exact Bool.false_ne_true)]
    exact .nothing rfl fun _ => id
  have started : ∀ {disk : Disk} {layout : Layout} {written : Except Failure Path},
      (gate.store.write books.now .scratch order.contract order.network layout).run.run books.disk =
        (written, disk) →
      Books.Booked (.ofRecords []) books { startBooks books with disk := disk } := by
    intro disk layout written ended
    have kept := LayoutStore.keeps_of_write ended
    exact .nothing rfl fun _ => LogConnection.rows_keeps kept (unhindered.apart .scratch)
  cases run with
  | misaddressed unparsed => exact failedEarly (Address.kind_of_parse unparsed)
  | @untraced proxy _ _ untraced =>
    obtain ⟨previous, found⟩ := has.latest? proxy order.network
    cases found.symm.trans untraced
  | unread _ _ unread => exact failedEarly (kind_of_live? unread)
  | @unheld _ _ _ failure disk _ _ _ unwritten =>
    refine ⟨[], ?_, by cases order.override <;> rfl⟩
    rw [isAstray_of_silent rfl]
    have counted := @Books.booked_countBooks _ (.error failure)
      { startBooks books with disk := disk } (by rintro _ _ ⟨⟩)
    exact (started unwritten).trans counted
  | @held proxy previous baseline path scratch _ ended middle _ _ _ written attempted =>
    obtain ⟨records, booked, upgrades⟩ :=
      attempted.booked (unhindered.writable written) (unhindered.apart .baseline)
    refine ⟨records, ?_, ?_⟩
    · have dropped : Books.Booked (.ofRecords []) middle { middle with
          disk := middle.disk.drop (gate.store.place .scratch order.contract order.network) } := by
        have kept := Disk.Keeps.drop middle.disk (attempted.free written)
        refine .nothing rfl fun _ => LogConnection.rows_keeps kept ?_
        intro place own same
        rw [attempted.keeps.place] at own
        exact unhindered.apart .scratch place own (.inl same)
      exact (((started written).after_nothing booked).then_nothing dropped).trans
        (Books.booked_countBooks _ fun _ _ => attempted.collisions_eq)
    · rw [upgrades]
      cases ended <;> rfl

/-- A run whose writes do not fail announces a completed upgrade exactly where it returns with an
override. -/
theorem Run.countP_isCompletion [AddressRule] {result : Except Failure Attempt}
    (run : Run gate order books trace result after) (unhindered : Unhindered gate order books) :
    trace.countP isCompletion = (order.override && result.isOk).toNat := by
  rw [countP_isCompletion_eq]
  obtain ⟨-, returned, failed⟩ := run.journey unhindered
  cases result with
  | error failure =>
    rw [failed failure rfl]
    cases order.override <;> rfl
  | ok attempt =>
    obtain ⟨-, ⟨override, -, told⟩ | ⟨plain, -, told⟩⟩ := returned attempt rfl
    · rw [told, override]
      rfl
    · rw [told, plain]
      rfl

end Gate

/-! ## What is known of a call -/

namespace CallMade

/-- The outcomes under which a call is counted, if it is a run. -/
def outcomes (made : CallMade) : List String :=
  match made.call, made.result with
  | .run _, .ok (.attempt attempt) => [attempt.outcome.name]
  | .run _, .error failure => if failure.kind.isDeployment then ["failed"] else []
  | _, _ => []

/-- A run returned with an outcome. -/
def returnedWith (outcome : Outcome) (made : CallMade) : Bool :=
  match made.call, made.result with
  | .run _, .ok (.attempt attempt) => attempt.outcome == outcome
  | _, _ => false

/-- A run failed like a deployment. -/
def failedDeploying (made : CallMade) : Bool :=
  match made.call, made.result with
  | .run _, .error failure => failure.kind.isDeployment
  | _, _ => false

/-- A run with an override returned. -/
def installed (made : CallMade) : Bool :=
  match made.call, made.result with
  | .run order, .ok _ => order.override
  | _, _ => false

/-- The collisions that a run found which returned. -/
def collisions (made : CallMade) : Nat :=
  match made.call, made.result with
  | .run _, .ok (.attempt attempt) => attempt.collisions
  | _, _ => 0

/-- The contract of a run was announced elsewhere than foretold. -/
def isAstray [AddressRule] (gate : Gate) (made : CallMade) : Bool :=
  match made.call with
  | .run order => gate.isAstray order.sender made.trace
  | _ => false

/-- An outcome is counted once where a call returned with it. -/
theorem count_outcomes_name (made : CallMade) (outcome : Outcome) :
    made.outcomes.count outcome.name = (made.returnedWith outcome).toNat := by
  obtain ⟨call, now, trace, result⟩ := made
  cases call with
  | run order =>
    cases result with
    | ok answer =>
      cases answer with
      | attempt attempt =>
        simp only [outcomes, returnedWith]
        cases attempt.outcome <;> cases outcome <;> rfl
      | _ => rfl
    | error failure =>
      simp only [outcomes, returnedWith]
      split
      · cases outcome <;> rfl
      · rfl
  | _ => rfl

/-- A failure is counted once where a deployment stopped. -/
theorem count_outcomes_failed (made : CallMade) :
    made.outcomes.count "failed" = made.failedDeploying.toNat := by
  obtain ⟨call, now, trace, result⟩ := made
  cases call with
  | run order =>
    cases result with
    | ok answer =>
      cases answer with
      | attempt attempt =>
        simp only [outcomes, failedDeploying]
        cases attempt.outcome <;> rfl
      | _ => rfl
    | error failure =>
      simp only [outcomes, failedDeploying]
      cases failure.kind.isDeployment <;> rfl
  | _ => rfl

/-- What is counted once for each call of a kind is counted as often as there are such calls. -/
theorem count_flatMap_outcomes {label : String} {isMeant : CallMade → Bool}
    (each : ∀ made : CallMade, made.outcomes.count label = (isMeant made).toNat)
    (calls : List CallMade) : (calls.flatMap outcomes).count label = calls.countP isMeant := by
  induction calls with
  | nil => rfl
  | cons made rest ih =>
    rw [List.flatMap_cons, List.count_append, List.countP_cons, each, ih, Nat.add_comm]
    cases isMeant made <;> rfl

/-- The contract of a run was created elsewhere than foretold. -/
def createdElsewhere [AddressRule] (gate : Gate) (made : CallMade) : Bool :=
  match made.call with
  | .run order => gate.differs order.sender made.trace
      ((made.trace.filterMap deployed?).head?.map Address.text)
  | _ => false

/-- What some calls add to the books, if they add some records. -/
def entries [AddressRule] (gate : Gate) (calls : List CallMade) (records : List DeploymentRecord) :
    Entries where
  records := records
  outcomes := calls.flatMap outcomes
  collisions := (calls.map collisions).sum
  mismatches := calls.countP (isAstray gate)

/-- The entries of calls one after another are those of both parts. -/
theorem entries_append [AddressRule] (gate : Gate) (first second : List CallMade)
    (records more : List DeploymentRecord) :
    entries gate first records ++ entries gate second more =
      entries gate (first ++ second) (records ++ more) :=
  Entries.ext rfl List.flatMap_append.symm
    (by
      change _ = ((first ++ second).map collisions).sum
      rw [List.map_append, List.sum_append]
      rfl)
    List.countP_append.symm

theorem entries_run [AddressRule] {gate : Gate} {order : UpgradeOrder} {now : Moment}
    {trace : Trace collaborators} (result : Except Failure Attempt)
    (records : List DeploymentRecord) :
    entries gate [⟨.run order, now, trace, result.map .attempt⟩] records =
      ⟨records, [], 0, (gate.isAstray order.sender trace).toNat⟩ ++ .ofResult result := by
  have astray : [CallMade.mk (.run order) now trace (result.map .attempt)].countP (isAstray gate) =
      (gate.isAstray order.sender trace).toNat := by
    rw [List.countP_singleton]
    change (if gate.isAstray order.sender trace = true then 1 else 0) = _
    cases gate.isAstray order.sender trace <;> rfl
  cases result with
  | ok attempt => exact Entries.ext (List.append_nil _).symm rfl (Nat.zero_add _).symm astray
  | error failure => exact Entries.ext (List.append_nil _).symm (List.append_nil _) rfl astray

end CallMade

/-- The writes of a call do not fail: those of a run are not in the way of each other or of the log,
and the baseline of a new proxy is not in place of the log. -/
def GateCall.Unhindered (gate : Gate) (books : Books) : GateCall → Prop
  | .run order => Gate.Unhindered gate order books
  | .deployProxy contract _ _ _ network _ => ∀ place ∈ books.log.place?,
      ¬ gate.store.Touches .baseline contract network place
  | _ => True

namespace Gate

variable {gate : Gate}

/-- Calls that are made one after the other and whose writes do not fail. -/
inductive Unfailing [AddressRule] (gate : Gate) : Books → List CallMade → Books → Prop where
  | done (books : Books) : Unfailing gate books [] books
  | call {books middle after : Books} {call : GateCall} {now : Moment}
      {trace : Trace collaborators} {result : Except Failure GateAnswer} {later : List CallMade}
      (unhindered : call.Unhindered gate { books with now := now })
      (ended : (call.perform gate).Ends { books with now := now } trace result middle)
      (rest : Unfailing gate middle later after) :
      Unfailing gate books (⟨call, now, trace, result⟩ :: later) after

/-- **One call** adds what is known of it, and an upgrade record for each upgrade that it announces
as completed. -/
theorem booked_of_call [AddressRule] {books after : Books} {call : GateCall} {now : Moment}
    {trace : Trace collaborators} {result : Except Failure GateAnswer}
    {earlier : List DeploymentRecord} (has : books.HasRecords earlier)
    (unhindered : call.Unhindered gate { books with now := now })
    (ended : (call.perform gate).Ends { books with now := now } trace result after) :
    ∃ records, Books.Booked (CallMade.entries gate [⟨call, now, trace, result⟩] records) books
        after ∧
      records.countP (·.action == .upgrade) = trace.countP isCompletion ∧
      trace.countP isCompletion = (CallMade.installed ⟨call, now, trace, result⟩).toNat := by
  have clocked : Books.Booked (.ofRecords []) books { books with now := now } :=
    .nothing rfl fun _ => id
  cases call with
  | deployRaw contract arguments network sender =>
    obtain ⟨original, deployed, rfl⟩ := ends_map.1 ended
    obtain ⟨records, booked, others, silent⟩ := (ends_deployRaw.1 deployed).booked
    exact ⟨records, clocked.after_nothing booked, others.trans silent.symm, silent⟩
  | deployProxy contract initData kind admin network sender =>
    obtain ⟨original, deployed, rfl⟩ := ends_map.1 ended
    obtain ⟨records, booked, others, silent⟩ := (progress_of_ends deployed).booked unhindered
    exact ⟨records, clocked.after_nothing booked, others.trans silent.symm, silent⟩
  | check contract network =>
    obtain ⟨original, checked, rfl⟩ := ends_map.1 ended
    rcases ends_check.1 checked with ⟨_, _, -, rfl, -, rfl⟩ | ⟨_, -, rfl, -, rfl⟩
    · exact ⟨[], clocked, rfl, rfl⟩
    · exact ⟨[], clocked, rfl, rfl⟩
  | history contract network =>
    obtain ⟨original, looked, rfl⟩ := ends_map.1 ended
    obtain ⟨rfl, -, rfl⟩ := (settles_history _ contract network _ _ _).1 looked
    exact ⟨[], clocked, rfl, rfl⟩
  | run order =>
    obtain ⟨original, ran, rfl⟩ := ends_map.1 ended
    have run := ends_run.1 ran
    obtain ⟨records, booked, upgrades⟩ := @Run.booked _ _ _ _ _ _ earlier _ run has unhindered
    have completed := run.countP_isCompletion unhindered
    refine ⟨records, ?_, upgrades.trans completed.symm, ?_⟩
    · rw [CallMade.entries_run]
      exact clocked.after_nothing booked
    · rw [completed]
      cases original with
      | ok attempt => exact congrArg Bool.toNat (Bool.and_true _)
      | error failure => exact congrArg Bool.toNat (Bool.and_false _)

/-- **Any calls** whose writes do not fail add what is known of each of them. -/
theorem Unfailing.booked [AddressRule] {start after : Books} {calls : List CallMade}
    {earlier : List DeploymentRecord} (unfailing : Unfailing gate start calls after)
    (has : start.HasRecords earlier) :
    ∃ records, Books.Booked (CallMade.entries gate calls records) start after ∧
      records.countP (·.action == .upgrade) =
        (calls.flatMap CallMade.trace).countP isCompletion ∧
      (calls.flatMap CallMade.trace).countP isCompletion = calls.countP CallMade.installed := by
  induction unfailing generalizing earlier with
  | done books => exact ⟨[], .refl books, rfl, rfl⟩
  | @call books middle after call now trace result later unhindered ended _ ih =>
    obtain ⟨records, booked, upgrades, installed⟩ := booked_of_call has unhindered ended
    obtain ⟨more, bookedLater, upgradesLater, installedLater⟩ := ih (booked.records has)
    refine ⟨records ++ more, ?_, ?_, ?_⟩
    · have both := booked.trans bookedLater
      rwa [CallMade.entries_append] at both
    · rw [List.flatMap_cons, List.countP_append, List.countP_append, upgrades, upgradesLater]
    · rw [List.flatMap_cons, List.countP_append, List.countP_cons, installed, installedLater,
        Nat.add_comm]
      cases CallMade.installed ⟨call, now, trace, result⟩ <;> rfl

/-- **The counts, the log and the announcements agree.** From an empty log and zero counts on, after
any calls whose writes do not fail, deployments are counted as the log records them, upgrades are
recorded as they are announced and as runs with an override return, attempts are counted by the
outcomes with which runs return and by the deployment failures with which they fail, mismatches by
the runs whose contract was announced elsewhere than foretold, and collisions as the runs that
return report them. -/
theorem accounts [AddressRule] {start after : Books} {calls : List CallMade}
    (empty : start.ledger = .ok [])
    (zero : start.tally = .zero) (unfailing : Unfailing gate start calls after) :
    ∃ rows records, after.ledger = .ok rows ∧
      (∀ now, DeploymentLog.history now rows none none = .ok records) ∧
      after.tally.deployments.countOf "raw" = records.countP (·.action == .deploy) ∧
      (∀ kind : ProxyKind, after.tally.deployments.countOf kind.name = records.countP
        fun record => record.action == .deployProxy && record.kind == some kind) ∧
      records.countP (·.action == .upgrade) =
        (calls.flatMap CallMade.trace).countP isCompletion ∧
      records.countP (·.action == .upgrade) = calls.countP CallMade.installed ∧
      (∀ outcome : Outcome, after.tally.attempts.countOf outcome.name =
        calls.countP (CallMade.returnedWith outcome)) ∧
      after.tally.attempts.countOf "failed" = calls.countP CallMade.failedDeploying ∧
      after.tally.mismatches = calls.countP (CallMade.isAstray gate) ∧
      after.tally.collisions = (calls.map CallMade.collisions).sum := by
  have has : start.HasRecords [] := ⟨[], empty, .nil⟩
  obtain ⟨records, booked, upgrades, installed⟩ := unfailing.booked has
  obtain ⟨rows, readable, told⟩ := (booked.records has).history
  have deployments := booked.deployments
  have attempts := booked.attempts
  have mismatches := booked.mismatches
  have collisions := booked.collisions
  rw [zero] at deployments attempts mismatches collisions
  refine ⟨rows, records, readable, told, ?_, ?_, upgrades, upgrades.trans installed, ?_, ?_,
    mismatches.trans (Nat.zero_add _), collisions.trans (Nat.zero_add _)⟩
  · rw [deployments, ← funext fun _ => DeploymentRecord.countedAs_raw]
    exact Nat.zero_add _
  · intro kind
    rw [deployments, ← funext fun _ => DeploymentRecord.countedAs_kind kind]
    exact Nat.zero_add _
  · intro outcome
    rw [attempts, ← CallMade.count_flatMap_outcomes fun made => made.count_outcomes_name outcome]
    exact Nat.zero_add _
  · rw [attempts, ← CallMade.count_flatMap_outcomes CallMade.count_outcomes_failed]
    exact Nat.zero_add _

/-- In the prepared workspace an upgrade is installed, recorded and counted. -/
theorem accounts_prepared :
    ∃ made after records rows, Unfailing prepared .prepared [made] after ∧
      after.ledger = .ok rows ∧ DeploymentLog.history 0 rows none none = .ok records ∧
      records.countP (·.action == .upgrade) = 1 ∧
      after.tally.attempts.countOf "failed" = 0 := by
  have unhindered : Unhindered prepared .prepared .prepared :=
    unhindered_of_writable (LayoutStore.writable_prepared .scratch)
      (LayoutStore.writable_prepared .baseline) fun _ => nofun
  obtain ⟨trace, attempt, after, ended, -⟩ := exists_run_prepared (Layout.empty none)
  have performed : ((GateCall.run .prepared).perform prepared).Ends .prepared trace
      (.ok (.attempt attempt)) after := ends_map.2 ⟨_, ended, rfl⟩
  have unfailing : Unfailing prepared .prepared [⟨.run .prepared, 0, trace, _⟩] after :=
    .call unhindered performed (.done after)
  obtain ⟨rows, records, readable, told, -, -, -, installed, -, failed, -⟩ :=
    accounts rfl rfl unfailing
  exact ⟨_, after, records, rows, unfailing, readable, told 0, installed, failed⟩

/-- The prepared gate, but it is the address of the proxy that is foretold. -/
def elsewhere : Gate := { prepared with predictor := .fixed Address.preparedProxy.text }

/-- The new contract may be at the address of the sender instead, and then fail to be named. -/
theorem exists_unnamed_elsewhere : ∃ made after, Unfailing elsewhere .prepared [made] after ∧
    CallMade.isAstray elsewhere made = false ∧ CallMade.createdElsewhere elsewhere made = true := by
  have unhindered : Unhindered elsewhere .prepared .prepared :=
    unhindered_of_writable (LayoutStore.writable_prepared .scratch)
      (LayoutStore.writable_prepared .baseline) fun _ => nofun
  obtain ⟨disk, written, -⟩ := LayoutStore.run_write_of_writable Books.prepared.now
    (Layout.empty (some "Token")) (LayoutStore.writable_prepared .scratch)
  have held := ((LayoutStore.holds_of_write written).reading_eq_iff
    (LayoutStore.writable_prepared .scratch).allowed (Layout.valid_empty _)).2
      (Layout.typed_empty _)
  have run := @Run.held _ elsewhere _ _ _ _ _ _ _ _ _ _ Address.parse_preparedProxy
    Books.latest?_prepared live?_prepared written (.tried (Layout.empty none) held rfl (.undeployed
      ⟨ends_administrator_ok.2 ⟨rfl, .inl ⟨rfl, nofun, rfl, rfl⟩⟩, ends_pure.2 ⟨rfl, rfl, rfl⟩⟩
      (.unlabelled (.foreign .runtime "label failed") (ends_create_ok.2 ⟨rfl, default,
        UpgradeOrder.prepared.sender, Address.parse_preparedSender, rfl⟩) rfl)))
  refine ⟨⟨.run .prepared, 0, _, _⟩, _,
    .call unhindered (ends_map.2 ⟨_, ends_run.2 run, rfl⟩) (.done _), isAstray_of_unheard rfl, ?_⟩
  have apart :
      Address.sameAccount Address.preparedProxy.text Address.preparedSender.text = false := by
    rw [Bool.eq_false_iff, ne_eq, Address.sameAccount_text_iff]
    decide
  exact differs_of_apart rfl rfl apart

/-- **Mismatches without a name.** A contract that was created elsewhere than foretold is not
counted as a mismatch where it could not be named: the addresses are compared only afterwards. -/
theorem mismatch_uncounted_without_label : ¬ ∀ (gate : Gate) (start after : Books)
    (calls : List CallMade), start.ledger = .ok [] → start.tally = .zero →
    Unfailing gate start calls after →
    after.tally.mismatches = calls.countP (CallMade.createdElsewhere gate) := by
  intro always
  obtain ⟨made, after, unfailing, heard, landed⟩ := exists_unnamed_elsewhere
  have counted := always elsewhere .prepared after [made] rfl rfl unfailing
  obtain ⟨records, booked, -⟩ := unfailing.booked ⟨[], rfl, .nil⟩
  rw [booked.mismatches, CallMade.entries, List.countP_singleton, List.countP_singleton, heard,
    landed] at counted
  cases counted

end Gate

end UpgradeGate
