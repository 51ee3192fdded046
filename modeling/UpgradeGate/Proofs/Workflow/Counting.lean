import UpgradeGate.Proofs.Deployment.Rows
import UpgradeGate.Proofs.Workflow.Announcements

/-!
# What work adds to the books

Work adds entries to the books: records to the log and, together with each of them, a count of its
label, and the outcomes, collisions and mismatches of attempts (`Entries`, `Books.Booked`). Entries
of one piece of work come after those of another. Each deployment adds one record at most, and
counts it in any case (`Gate.RawDeployment.booked`, `Gate.ProxyProgress.booked`).

Failures of the disk and of the store are never failures of a deployment, and so they are not
counted (`LayoutStore.uncounted_read?`).
-/

namespace UpgradeGate

/-! ## Failures that are not counted -/

/-- Following a path fails for the disk's own reasons, never as a deployment. -/
theorem Disk.kind_of_follow {disk : Disk} {start : Place} {path : Path} {kind : Kind}
    (failed : disk.follow start path = .error kind) : kind.isDeployment = false := by
  induction path generalizing start with
  | nil => cases failed
  | cons step rest ih =>
    rw [Disk.follow] at failed
    split at failed
    · cases failed
      rfl
    · split at failed
      · cases failed
        rfl
      · split at failed
        · exact ih failed
        · exact ih failed
    · cases failed
      rfl

/-- Nor does looking a path up. -/
theorem Disk.kind_of_look {disk : Disk} {path : Path} {kind : Kind}
    (failed : disk.look path = .error kind) : kind.isDeployment = false := by
  rw [Disk.look] at failed
  split at failed
  · cases failed
  · cases failed
    rfl
  · cases failed

namespace DiskTask

variable {α β : Type}

/-- A task on the disk never fails like a deployment. -/
def Uncounted (task : DiskTask α) : Prop :=
  ∀ {disk failure after}, task.run.run disk = (.error failure, after) →
    failure.kind.isDeployment = false

theorem uncounted_pure (value : α) : (pure value : DiskTask α).Uncounted := nofun

theorem uncounted_fail {kind : Kind} (apart : kind.isDeployment = false) :
    (fail kind : DiskTask α).Uncounted := by
  rintro _ _ _ ⟨⟩
  exact apart

theorem uncounted_lift {result : Except Failure α}
    (apart : ∀ failure, result = .error failure → failure.kind.isDeployment = false) :
    (lift result).Uncounted := by
  rintro _ failure _ ⟨⟩
  exact apart failure rfl

/-- A view of the disk is uncounted when its failures are. -/
theorem uncounted_view {f : Disk → Except Kind α}
    (apart : ∀ disk kind, f disk = .error kind → kind.isDeployment = false) :
    (view f).Uncounted := by
  intro disk failure after ended
  rw [run_view] at ended
  cases viewed : f disk with
  | ok value =>
    rw [viewed] at ended
    cases ended
  | error kind =>
    rw [viewed] at ended
    cases ended
    exact apart disk kind viewed

/-- Two uncounted tasks are uncounted one after the other. -/
theorem uncounted_bind {task : DiskTask α} {next : α → DiskTask β} (first : task.Uncounted)
    (onward : ∀ value, (next value).Uncounted) : (task >>= next).Uncounted := by
  intro disk failure after ended
  rcases run_bind_eq_error.1 ended with failed | ⟨value, middle, -, failed⟩
  · exact first failed
  · exact onward value failed

theorem uncounted_get_bind {next : Disk → DiskTask β}
    (onward : ∀ disk, (next disk).Uncounted) :
    ((get : DiskTask Disk) >>= next).Uncounted := by
  refine uncounted_bind ?_ onward
  rintro _ _ _ ⟨⟩

theorem uncounted_readText (path : Path) : (readText path).Uncounted := by
  refine uncounted_bind ?_ fun content => ?_
  · refine uncounted_bind (uncounted_view fun _ _ => Disk.kind_of_follow) fun place => ?_
    refine uncounted_get_bind fun disk => ?_
    split
    · exact uncounted_pure _
    · exact uncounted_fail rfl
    · exact uncounted_fail rfl
    · exact uncounted_fail rfl
  · split
    · exact uncounted_pure _
    · rintro _ _ _ ⟨⟩
      rfl

end DiskTask

namespace LayoutStore

variable {store : LayoutStore} {copy : Copy} {contract network : String} {failure : Failure}

/-- A name that is refused fails the store, not a deployment. -/
theorem kind_of_checkedPath (failed : store.checkedPath copy contract network = .error failure) :
    failure.kind.isDeployment = false := by
  have checked : ∀ {role name}, checkName role name = .error failure →
      failure.kind.isDeployment = false := by
    intro role name refused
    rw [checkName] at refused
    split at refused <;> cases refused
    rfl
  cases first : checkName .contract contract with
  | error failure' =>
    rw [checkedPath, first] at failed
    cases failed
    exact checked first
  | ok =>
    rw [checkedPath, first] at failed
    cases second : checkName .network network with
    | error failure' =>
      rw [second] at failed
      cases failed
      exact checked second
    | ok =>
      rw [second] at failed
      cases failed

/-- A text that is no layout fails as one, not as a deployment. -/
theorem kind_of_layoutOfText {path : Path} {text : String}
    (failed : layoutOfText path text = .error failure) : failure.kind.isDeployment = false := by
  rw [layoutOfText] at failed
  split at failed
  · split at failed <;> cases failed
    rfl
  · cases failed
    rfl
  · cases failed
    rfl

theorem uncounted_read? (store : LayoutStore) (copy : Copy) (contract network : String) :
    (store.read? copy contract network).Uncounted := by
  refine DiskTask.uncounted_bind (DiskTask.uncounted_lift fun _ => kind_of_checkedPath)
    fun path => ?_
  refine DiskTask.uncounted_bind (DiskTask.uncounted_bind
    (DiskTask.uncounted_view fun _ _ => Disk.kind_of_look) fun _ => DiskTask.uncounted_pure _)
    fun there => ?_
  split
  · refine DiskTask.uncounted_bind (DiskTask.uncounted_readText path) fun text => ?_
    rw [map_eq_pure_bind]
    exact DiskTask.uncounted_bind (DiskTask.uncounted_lift fun _ => kind_of_layoutOfText)
      fun _ => DiskTask.uncounted_pure _
  · exact DiskTask.uncounted_pure _

/-- No reading of the store fails as a deployment. -/
theorem kind_of_reading {disk : Disk}
    (failed : store.reading disk copy contract network = .error failure) :
    failure.kind.isDeployment = false := by
  have ended := store.run_read? copy contract network disk
  rw [failed] at ended
  exact uncounted_read? store copy contract network ended

end LayoutStore

/-- No search for the live layout fails as a deployment. -/
theorem Gate.kind_of_live? {gate : Gate} {disk : Disk} {contract network : String}
    {previous : Option DeploymentRecord} {failure : Failure}
    (failed : gate.live? disk contract network previous = .error failure) :
    failure.kind.isDeployment = false := by
  rw [live?] at failed
  cases read : gate.store.reading disk .baseline (liveName contract previous) network with
  | error failure' =>
    rw [read] at failed
    cases failed
    exact LayoutStore.kind_of_reading read
  | ok found =>
    rw [read] at failed
    cases found with
    | some layout => cases failed
    | none =>
      simp only [bind, Except.bind] at failed
      split at failed
      · cases failed
      · cases other : gate.store.reading disk .baseline contract network with
        | error failure' =>
          rw [other] at failed
          cases failed
          exact LayoutStore.kind_of_reading other
        | ok found =>
          rw [other] at failed
          cases failed

/-- A text that is no address fails as one, not as a deployment. -/
theorem Address.kind_of_parse [AddressRule] {text : String} {failure : Failure}
    (failed : Address.parse text = .error failure) : failure.kind.isDeployment = false := by
  rw [Address.parse] at failed
  split at failed <;> cases failed
  rfl

/-! ## Entries -/

/-- The label under which a record is counted among the deployments; none for an upgrade. -/
def DeploymentRecord.countedAs (record : DeploymentRecord) : Option String :=
  match record.action with
  | .deploy => some "raw"
  | .deployProxy => record.kind.map ProxyKind.name
  | .upgrade => none

/-- The records counted as raw are the raw deployments. -/
theorem DeploymentRecord.countedAs_raw {record : DeploymentRecord} :
    (record.countedAs == some "raw") = (record.action == .deploy) := by
  rw [countedAs]
  cases record.action with
  | deploy => rfl
  | upgrade => rfl
  | deployProxy =>
    cases record.kind with
    | none => rfl
    | some kind => cases kind <;> decide

/-- The records counted under a kind are the deployments of its proxies. -/
theorem DeploymentRecord.countedAs_kind {record : DeploymentRecord} (kind : ProxyKind) :
    (record.countedAs == some kind.name) =
      (record.action == .deployProxy && record.kind == some kind) := by
  rw [countedAs]
  cases record.action with
  | deploy => cases kind <;> rfl
  | upgrade => rfl
  | deployProxy =>
    cases record.kind with
    | none => rfl
    | some own => cases own <;> cases kind <;> decide

/-- The number of collisions between the two layouts that an attempt tells. -/
def Attempt.collisions (attempt : Attempt) : Nat :=
  match attempt.baseline, attempt.candidate with
  | some baseline, some candidate => (baseline.compare candidate).collisions
  | _, _ => 0

/-- What is added to the books: records of the log, and the outcomes of attempts, the collisions
that they found and the contracts of theirs that landed elsewhere than foretold. -/
@[ext]
structure Entries where
  records : List DeploymentRecord
  outcomes : List String
  collisions : Nat
  mismatches : Nat

namespace Entries

instance : Append Entries where
  append first second := ⟨first.records ++ second.records, first.outcomes ++ second.outcomes,
    first.collisions + second.collisions, first.mismatches + second.mismatches⟩

/-- Records alone. -/
def ofRecords (records : List DeploymentRecord) : Entries := ⟨records, [], 0, 0⟩

/-- What is counted of an attempt as it ends. -/
def ofResult : Except Failure Attempt → Entries
  | .ok attempt => ⟨[], [attempt.outcome.name], attempt.collisions, 0⟩
  | .error failure => ⟨[], if failure.kind.isDeployment then ["failed"] else [], 0, 0⟩

end Entries

namespace Books

variable {added more : Entries} {before middle after books : Books}
  {records earlier : List DeploymentRecord} {record : DeploymentRecord} {row : Row} {rows : Ledger}

/-- The records in the log. -/
def HasRecords [AddressRule] (books : Books) (records : List DeploymentRecord) : Prop :=
  ∃ rows, books.ledger = .ok rows ∧ DeploymentLog.AreRows records rows

/-- Books that have records read them back as their whole history. -/
theorem HasRecords.history [AddressRule] (has : books.HasRecords records) :
    ∃ rows, books.ledger = .ok rows ∧
    ∀ now, DeploymentLog.history now rows none none = .ok records := by
  obtain ⟨rows, readable, areRows⟩ := has
  refine ⟨rows, readable, fun now => ?_⟩
  rw [areRows.history now none none]
  simp [DeploymentRecord.isOf]

/-- The latest record of a proxy is found in a log of records. -/
theorem HasRecords.latest? [AddressRule] (has : books.HasRecords records) (proxy : Address)
    (network : String) :
    ∃ previous, books.latest? proxy network = .ok previous := by
  obtain ⟨rows, readable, areRows⟩ := has
  rw [Books.latest?, readable]
  change ∃ previous, DeploymentLog.latest? books.now rows proxy network = .ok previous
  rw [DeploymentLog.latest?, areRows.forProxy books.now (Address.ofText?_text proxy)]
  exact ⟨_, rfl⟩

/-- **Entries are added to the books**: each record is appended to the log and counted under its
label, if it has one, and what was found out about attempts is counted. -/
structure Booked [AddressRule] (added : Entries) (before after : Books) : Prop where
  records : ∀ {earlier}, before.HasRecords earlier → after.HasRecords (earlier ++ added.records)
  deployments : ∀ label, after.tally.deployments.countOf label =
    before.tally.deployments.countOf label + added.records.countP (·.countedAs == some label)
  attempts : ∀ label, after.tally.attempts.countOf label =
    before.tally.attempts.countOf label + added.outcomes.count label
  collisions : after.tally.collisions = before.tally.collisions + added.collisions
  mismatches : after.tally.mismatches = before.tally.mismatches + added.mismatches

namespace Booked

/-- What is booked over two stretches is what is booked over each, one after the other. -/
theorem trans [AddressRule] (first : Booked added before middle)
    (second : Booked more middle after) :
    Booked (added ++ more) before after where
  records has := by
    have both := second.records (first.records has)
    rwa [List.append_assoc] at both
  deployments label := by
    rw [second.deployments, first.deployments, Nat.add_assoc, ← List.countP_append]
    rfl
  attempts label := by
    rw [second.attempts, first.attempts, Nat.add_assoc, ← List.count_append]
    rfl
  collisions := by
    rw [second.collisions, first.collisions, Nat.add_assoc]
    rfl
  mismatches := by
    rw [second.mismatches, first.mismatches, Nat.add_assoc]
    rfl

/-- Nothing is added by work that counts nothing and leaves the log alone. -/
theorem nothing [AddressRule] (tally : after.tally = before.tally)
    (ledger : ∀ rows, before.ledger = .ok rows → after.ledger = .ok rows) :
    Booked (.ofRecords []) before after where
  records has := by
    obtain ⟨rows, readable, areRows⟩ := has
    rw [Entries.ofRecords, List.append_nil]
    exact ⟨rows, ledger rows readable, areRows⟩
  deployments label := by
    rw [tally]
    rfl
  attempts label := by
    rw [tally]
    rfl
  collisions := by
    rw [tally]
    rfl
  mismatches := by
    rw [tally]
    rfl

theorem refl [AddressRule] (books : Books) :
    Booked (.ofRecords []) books books := nothing rfl fun _ => id

/-- Work that adds nothing may come after other work. -/
theorem then_nothing [AddressRule] (first : Booked added before middle)
    (second : Booked (.ofRecords []) middle after) : Booked added before after := by
  have both := first.trans second
  rwa [show added ++ Entries.ofRecords [] = added from Entries.ext
    (List.append_nil _) (List.append_nil _) rfl rfl] at both

/-- Work that adds nothing may come before other work. -/
theorem after_nothing [AddressRule] (first : Booked (.ofRecords []) before middle)
    (second : Booked added middle after) : Booked added before after := by
  have both := first.trans second
  rwa [show Entries.ofRecords [] ++ added = added from Entries.ext rfl rfl
    (Nat.zero_add _) (Nat.zero_add _)] at both

end Booked

/-- Recording a row that a record was taken for adds that record. -/
theorem hasRecords_recorded [AddressRule] (has : books.HasRecords earlier)
    (taken : DeploymentLog.rowOf record = .ok row) :
    (books.recorded row).HasRecords (earlier ++ [record]) := by
  obtain ⟨rows, readable, areRows⟩ := has
  refine ⟨rows ++ [row], ?_, areRows.concat taken⟩
  rw [ledger_recorded, readable]
  rfl

/-- A record without a label is appended. -/
theorem booked_recorded [AddressRule] (taken : DeploymentLog.rowOf record = .ok row)
    (unlabelled : record.countedAs = none) :
    Booked (.ofRecords [record]) books (books.recorded row) where
  records has := hasRecords_recorded has taken
  deployments label := by simp [Entries.ofRecords, unlabelled]
  attempts label := by simp [Entries.ofRecords]
  collisions := by simp [Entries.ofRecords]
  mismatches := by simp [Entries.ofRecords]

/-- A record is appended and counted under its label. -/
theorem booked_deployment [AddressRule] {label : String}
    (taken : DeploymentLog.rowOf record = .ok row) (labelled : record.countedAs = some label) :
    Booked (.ofRecords [record]) books { books.recorded row with
      tally := (books.recorded row).tally.deployment label } where
  records has := hasRecords_recorded has taken
  deployments other := by
    simp only [tally_recorded, Tally.deployment, Counts.countOf_countOne, Entries.ofRecords,
      List.countP_singleton, labelled]
    by_cases same : other = label
    · simp [same]
    · simp [same, Ne.symm same]
  attempts other := by simp [Tally.deployment, Entries.ofRecords]
  collisions := by simp [Tally.deployment, Entries.ofRecords]
  mismatches := by simp [Tally.deployment, Entries.ofRecords]

/-- A contract that landed elsewhere is counted. -/
theorem booked_mismatch [AddressRule] (books : Books) :
    Booked ⟨[], [], 0, 1⟩ books { books with tally := books.tally.mismatch } where
  records has := by
    rw [List.append_nil]
    exact has
  deployments label := rfl
  attempts label := rfl
  collisions := rfl
  mismatches := rfl

/-- An attempt is counted as it ends. -/
theorem booked_countBooks [AddressRule] {ended : Except Failure (Attempt × Report)} (books : Books)
    (told : ∀ attempt report, ended = .ok (attempt, report) →
      report.collisions = attempt.collisions) :
    Booked (.ofResult (ended.map Prod.fst)) books (Gate.countBooks ended books) where
  records has := by
    obtain ⟨rows, readable, areRows⟩ := has
    refine ⟨rows, (Gate.ledger_countBooks ended books).trans readable, ?_⟩
    cases ended <;> simpa [Entries.ofResult, Except.map] using areRows
  deployments label := by
    cases ended with
    | ok outcome => rfl
    | error failure =>
      simp only [Gate.countBooks]
      split <;> rfl
  attempts label := by
    cases ended with
    | ok outcome =>
      simp only [Gate.countBooks, Tally.collided, Tally.attempt, Counts.countOf_countOne,
        Entries.ofResult, Except.map, List.count_singleton]
      by_cases same : label = outcome.1.outcome.name
      · simp [same]
      · simp [same, Ne.symm same]
    | error failure =>
      simp only [Gate.countBooks, Entries.ofResult, Except.map]
      split
      · simp only [Tally.attempt, Counts.countOf_countOne, List.count_singleton]
        by_cases same : label = "failed"
        · simp [same]
        · simp [same, Ne.symm same]
      · rfl
  collisions := by
    cases ended with
    | ok outcome =>
      have same := told outcome.1 outcome.2 rfl
      simp [Gate.countBooks, Tally.collided, Tally.attempt, Entries.ofResult, Except.map, same]
    | error failure =>
      simp only [Gate.countBooks]
      split <;> rfl
  mismatches := by
    cases ended with
    | ok outcome => rfl
    | error failure =>
      simp only [Gate.countBooks]
      split <;> rfl

end Books

namespace Gate

open UpgradeGate.Flow

variable {gate : Gate} {books after : Books} {trace : Trace collaborators}
  {contract network sender : String} {arguments : List Argument}

/-! ## Deployments -/

/-- **A contract that stands alone** is recorded and counted, or nothing is added. -/
theorem RawDeployment.booked [AddressRule] {result : Except Failure Address}
    (deployment : RawDeployment contract arguments network sender books trace result after) :
    ∃ records, Books.Booked (.ofRecords records) books after ∧
      records.countP (·.action == .upgrade) = 0 ∧ trace.countP isCompletion = 0 := by
  have recorded : ∀ address,
      Books.Booked (.ofRecords [rawRecord contract network address books.now]) books
        (rawBooks books contract network address) :=
    fun address => Books.booked_deployment (rowOf_rawRecord contract network address _) rfl
  cases deployment with
  | undeployed failed =>
    obtain ⟨-, preliminary⟩ := preliminary_of_ends_create failed
    exact ⟨[], .refl books, rfl, preliminary.countP_isCompletion⟩
  | unlogged created =>
    obtain ⟨-, preliminary⟩ := preliminary_of_ends_create created
    exact ⟨[], .refl books, rfl, preliminary.countP_isCompletion⟩
  | unlabelled failure created =>
    obtain ⟨-, preliminary⟩ := preliminary_of_ends_create created
    refine ⟨_, recorded _, rfl, ?_⟩
    rw [List.countP_append, preliminary.countP_isCompletion]
    rfl
  | deployed named told created =>
    obtain ⟨-, preliminary⟩ := preliminary_of_ends_create created
    refine ⟨_, recorded _, rfl, ?_⟩
    rw [List.countP_append, preliminary.countP_isCompletion]
    rfl

/-- Recording the baseline of a new proxy leaves a log alone that is not in its place. -/
theorem booked_of_ends_recordBaseline [AddressRule] {result : Except Failure Unit}
    (apart : ∀ place ∈ books.log.place?, ¬ gate.store.Touches .baseline contract network place)
    (ended : (gate.recordBaseline contract network).Ends books trace result after) :
    Books.Booked (.ofRecords []) books after ∧ trace.countP isCompletion = 0 := by
  rw [recordBaseline] at ended
  split at ended
  · rcases ends_ask_bind.1 ended with ⟨layout, _, rfl, writing⟩ | ⟨failure, rfl, rfl, rfl⟩
    case inr => exact ⟨.refl _, rfl⟩
    rw [ends_get_bind] at writing
    have left : ∀ {written disk}, (gate.store.write books.now .baseline contract network
        layout).run.run books.disk = (written, disk) →
        Books.Booked (.ofRecords []) books { books with disk := disk } := by
      intro written disk wrote
      have kept := LayoutStore.keeps_of_write wrote
      exact .nothing rfl fun rows => LogConnection.rows_keeps kept apart
    rcases ends_onDisk_bind.1 writing with ⟨path, disk, written, finishing⟩ |
      ⟨failure, disk, unwritten, rfl, rfl, rfl⟩
    · obtain ⟨rfl, rfl, rfl⟩ := ends_pure.1 finishing
      exact ⟨left written, rfl⟩
    · exact ⟨left unwritten, rfl⟩
  · obtain ⟨rfl, rfl, rfl⟩ := ends_pure.1 ended
    exact ⟨.refl _, rfl⟩

/-- Booking a proxy books its record and one deployment of its kind, when it is booked to the end.
-/
theorem booked_of_ends_bookProxy [AddressRule] {implementation proxy : Address} {kind : ProxyKind}
    {made : Option String} {result : Except Failure Address}
    (apart : ∀ place ∈ books.log.place?, ¬ gate.store.Touches .baseline contract network place)
    (ended : (gate.bookProxy contract network implementation proxy kind made).Ends books trace
      result after) :
    ∃ records, Books.Booked (.ofRecords records) books after ∧
      records.countP (·.action == .upgrade) = 0 ∧ trace.countP isCompletion = 0 := by
  rw [bookProxy, ends_stamped_bind] at ended
  have taken := rowOf_proxyRecord contract network implementation proxy kind made books.now
  rcases (ends_appendRecord_bind taken).1 ended with ⟨rows, readable, counting⟩ |
    ⟨failure, -, rfl, rfl, rfl⟩
  case inr => exact ⟨[], .refl _, rfl, rfl⟩
  rw [ends_count_bind] at counting
  have recorded : Books.Booked (.ofRecords [proxyRecord contract network implementation proxy kind
      made books.now]) books (proxyBooks books contract network implementation proxy kind made) :=
    Books.booked_deployment taken rfl
  rcases ends_bind.1 counting with ⟨_, _, names, _, naming, keeping, rfl⟩ | ⟨failure, naming, rfl⟩
  case inr =>
    obtain ⟨rfl, preliminary, -⟩ := named_of_ends_nameProxy naming
    exact ⟨_, recorded, rfl, preliminary.countP_isCompletion⟩
  obtain ⟨rfl, preliminary, -⟩ := named_of_ends_nameProxy naming
  have apart' : ∀ place ∈ (proxyBooks books contract network implementation proxy kind
      made).log.place?, ¬ gate.store.Touches .baseline contract network place := by
    rw [(keeps_proxyBooks books contract network implementation proxy kind made).place]
    exact apart
  rcases ends_bind.1 keeping with ⟨_, _, kept, _, baseline, returning, rfl⟩ |
    ⟨failure, baseline, rfl⟩
  · obtain ⟨left, silent⟩ := booked_of_ends_recordBaseline apart' baseline
    obtain ⟨rfl, rfl, rfl⟩ := ends_pure.1 returning
    refine ⟨_, recorded.then_nothing left, rfl, ?_⟩
    simp only [List.countP_append, preliminary.countP_isCompletion, silent, List.countP_nil]
  · obtain ⟨left, silent⟩ := booked_of_ends_recordBaseline apart' baseline
    refine ⟨_, recorded.then_nothing left, rfl, ?_⟩
    simp only [List.countP_append, preliminary.countP_isCompletion, silent]

/-- **A proxy** is recorded and counted, or nothing is added. -/
theorem ProxyProgress.booked [AddressRule] {result : Except Failure Address}
    (progress : ProxyProgress gate contract network books trace result after)
    (apart : ∀ place ∈ books.log.place?, ¬ gate.store.Touches .baseline contract network place) :
    ∃ records, Books.Booked (.ofRecords records) books after ∧
      records.countP (·.action == .upgrade) = 0 ∧ trace.countP isCompletion = 0 := by
  cases progress with
  | failed failure preliminary =>
    exact ⟨[], .refl books, rfl, preliminary.countP_isCompletion⟩
  | booking preliminary ended =>
    obtain ⟨records, booked, others, silent⟩ := booked_of_ends_bookProxy apart ended
    refine ⟨records, booked, others, ?_⟩
    rw [List.countP_append, preliminary.countP_isCompletion, silent]

end Gate

end UpgradeGate
