import UpgradeGate.Proofs.Deployment.Rows
import UpgradeGate.Proofs.Disk.Tasks
import UpgradeGate.Proofs.Workflow.Alone
import UpgradeGate.Proofs.Workflow.Ledger

/-!
# The log as a journal

To its callers the deployment log is a journal: the list of the records that it took, in order, as
they were given. Whatever calls are made, of a log that is kept in a file and is closed and opened
again in between, each answers like the journal (`LogCall.performAll_eq_answers`). One call keeps
log and journal alike (`Journal.IsKept.step`), so a sequence of calls does (`Journal.IsKept.run`).
The journal itself only grows, by what was appended (`Journal.records_run`).

A log that is kept in memory is a journal as well, but one that is empty when it is opened again.
-/

namespace UpgradeGate

/-- A call of the deployment log. -/
inductive LogCall where
  | append (record : DeploymentRecord)
  | history (contract network : Option String)
  | forProxy (proxy : String)
  | last (contract network : String)
  | count
  | close
  /-- Open the log, or open it again. -/
  | connect
  /-- Let time pass, until it is a certain moment. -/
  | wait (now : Moment)

/-- What a call of the deployment log answers. -/
inductive LogAnswer where
  | nothing
  | number (value : Nat)
  | records (values : List DeploymentRecord)
  | record (value : Option DeploymentRecord)

namespace LogCall

/-- Carry out a call of the log of a name. -/
def perform [AddressRule] (name : String) : LogCall → Flow LogAnswer
  | append record => LogAnswer.number <$> Flow.appendRecord record
  | history contract network => LogAnswer.records <$> Flow.history contract network
  | forProxy proxy => do
    let address ← Flow.lift (Address.parse proxy)
    LogAnswer.records <$> Flow.recordsOfProxy address
  | last contract network => LogAnswer.record <$> Flow.lastRecord? contract network
  | count => LogAnswer.number <$> Flow.recordCount
  | close => (fun _ => .nothing) <$> Flow.closeLog
  | connect => (fun _ => .nothing) <$> Flow.openLog name
  | wait now => (fun _ => .nothing) <$> (modify fun books => { books with now := now } : Flow Unit)

/-- Carry out calls one after another, whatever becomes of each. -/
def performAll [AddressRule] (name : String) : List LogCall → Flow (List (Except Failure LogAnswer))
  | [] => pure []
  | call :: rest => do
    let answer ← (call.perform name).attempt
    (answer :: ·) <$> performAll name rest

end LogCall

namespace Flow

variable {record : DeploymentRecord}

/-- A record that has a row is appended, and the number of rows is given. -/
theorem gives_appendRecord [AddressRule] (books : Books) {row : Row}
    (taken : DeploymentLog.rowOf record = .ok row) :
    (appendRecord record).Gives books (books.ledger.map (·.length + 1)) (books.recorded row) :=
  gives_iff_ends.2 ((ends_appendRecord taken).2 ⟨rfl, rfl, rfl⟩)

/-- A record that has no row is refused, and the books stand. -/
theorem gives_appendRecord_error [AddressRule] (books : Books) {failure : Failure}
    (refused : DeploymentLog.rowOf record = .error failure) :
    (appendRecord record).Gives books (.error failure) books := by
  rw [appendRecord, refused]
  exact (gives_lift (.error failure) books).bind_error

end Flow

/-- A journal: the records that were taken, in order, and whether it is open. -/
structure Journal where
  records : List DeploymentRecord
  isOpen : Bool

namespace Journal

/-- The journal before it is opened for the first time. -/
def blank : Journal := ⟨[], false⟩

/-- A name means a log in memory. -/
def isInMemory (name : String) : Bool := name = ":memory:" || name.isEmpty

/-- An answer of a journal, if that is open. -/
def ifOpen (journal : Journal) (answer : LogAnswer) : Except Failure LogAnswer :=
  if journal.isOpen then .ok answer else .error (.plain .closedLog)

/-- What a journal answers to a call. -/
def answer [AddressRule] (journal : Journal) : LogCall → Except Failure LogAnswer
  | .append record =>
    match record.refusal? with
    | some failure => .error failure
    | none => journal.ifOpen (.number (journal.records.length + 1))
  | .history contract network =>
    journal.ifOpen (.records (journal.records.filter (·.isOf contract network)))
  | .forProxy proxy =>
    match Address.ofText? proxy with
    | some _ => journal.ifOpen (.records (journal.records.filter (·.isAbout proxy)))
    | none => .error (.value (.invalidAddress proxy))
  | .last contract network =>
    journal.ifOpen (.record (journal.records.filter (·.isOf contract network)).getLast?)
  | .count => journal.ifOpen (.number journal.records.length)
  | .close | .connect | .wait _ => .ok .nothing

/-- The journal after a call: only appending a record that is not refused adds to it. -/
def after [AddressRule] (name : String) (journal : Journal) : LogCall → Journal
  | .append record =>
    if journal.isOpen && record.refusal?.isNone then
      { journal with records := journal.records ++ [record] }
    else journal
  | .close => { journal with isOpen := false }
  | .connect => ⟨if isInMemory name then [] else journal.records, true⟩
  | _ => journal

/-- What a journal answers to calls one after another. -/
def answers [AddressRule] (name : String) (journal : Journal) :
    List LogCall → List (Except Failure LogAnswer)
  | [] => []
  | call :: rest => journal.answer call :: answers name (journal.after name call) rest

/-- The journal after calls one after another. -/
def run [AddressRule] (name : String) (journal : Journal) (calls : List LogCall) : Journal :=
  calls.foldl (after name) journal

/-- The record that a call appended, going by its answer. -/
def taken? : LogCall × Except Failure LogAnswer → Option DeploymentRecord
  | (.append record, .ok _) => some record
  | _ => none

/-- One call adds at most the record that it appended, where the log is kept in a file. -/
theorem records_after [AddressRule] {name : String} (inFile : isInMemory name = false)
    (journal : Journal) (call : LogCall) : (journal.after name call).records =
      journal.records ++ (taken? (call, journal.answer call)).toList := by
  obtain ⟨records, isOpen⟩ := journal
  cases call with
  | append record =>
    cases refused : record.refusal? <;> cases isOpen <;>
      simp [after, answer, ifOpen, taken?, refused]
  | connect => simp [after, taken?, inFile]
  | _ => simp [after, taken?]

/-- **A journal in a file only grows**, by the records whose appending was answered with a
number. -/
theorem records_run [AddressRule] {name : String} (inFile : isInMemory name = false)
    (journal : Journal) (calls : List LogCall) : (journal.run name calls).records =
      journal.records ++ (calls.zip (journal.answers name calls)).filterMap taken? := by
  induction calls generalizing journal with
  | nil => simp [run]
  | cons call rest ih =>
    have onward := ih (journal.after name call)
    rw [run, List.foldl_cons, ← run, onward, records_after inFile, answers, List.zip_cons_cons,
      List.filterMap_cons, List.append_assoc]
    cases taken? (call, journal.answer call) <;> rfl

/-! ## How the log keeps a journal -/

open DeploymentLog (AreRows)

/-- The books keep a journal in the log of a name. -/
inductive IsKept [AddressRule] (name : String) : Journal → Books → Prop where
  | memory {records : List DeploymentRecord} {rows : Ledger} {books : Books}
      (inMemory : isInMemory name = true) (log : books.log = .memory rows)
      (areRows : AreRows records rows) : IsKept name ⟨records, true⟩ books
  | lost {records : List DeploymentRecord} {books : Books} (inMemory : isInMemory name = true)
      (log : books.log = .closed) : IsKept name ⟨records, false⟩ books
  | file {records : List DeploymentRecord} {rows : Ledger} {isOpen : Bool} {place : Place}
      {books : Books} (inFile : isInMemory name = false)
      (followed : books.disk.follow [] (Path.ofText name) = .ok place)
      (found : books.disk.node? place = some (.database rows))
      (log : books.log = if isOpen then .file (Path.ofText name) else .closed)
      (areRows : AreRows records rows) : IsKept name ⟨records, isOpen⟩ books
  | unmade {place : Place} {books : Books} (inFile : isInMemory name = false)
      (followed : books.disk.follow [] (Path.ofText name) = .ok place)
      (absent : books.disk.node? place = none) (log : books.log = .closed) :
      IsKept name blank books

namespace IsKept

variable {name : String} {journal : Journal} {books : Books}

/-- The rows of an open log are those of the journal, and a closed log has none. -/
theorem ledger [AddressRule] (kept : IsKept name journal books) :
    (∃ rows, journal.isOpen = true ∧ books.ledger = .ok rows ∧ AreRows journal.records rows) ∨
      journal.isOpen = false ∧ books.ledger = .error (.plain .closedLog) := by
  cases kept with
  | memory _ log areRows => exact .inl ⟨_, rfl, by rw [Books.ledger, log]; rfl, areRows⟩
  | lost _ log => exact .inr ⟨rfl, by rw [Books.ledger, log]; rfl⟩
  | @file _ _ isOpen _ _ _ followed found log areRows =>
    cases isOpen with
    | false => exact .inr ⟨rfl, by rw [Books.ledger, log]; rfl⟩
    | true =>
      have target := Disk.follow_eq_target followed
      subst target
      have readable := LogConnection.rows_file_eq_ok_iff.2 ⟨followed, found⟩
      exact .inl ⟨_, rfl, by rwa [Books.ledger, log], areRows⟩
  | unmade _ _ _ log => exact .inr ⟨rfl, by rw [Books.ledger, log]; rfl⟩

/-- What is computed from the rows is an answer of the journal. -/
theorem gives_of_rows [AddressRule] (kept : IsKept name journal books) {α : Type}
    {compute : Ledger → Except Failure α} {flow : Flow α} {value : α} (wrap : α → LogAnswer)
    (settles : flow.Settles books (books.ledger >>= compute))
    (same : ∀ rows, AreRows journal.records rows → compute rows = .ok value) :
    (wrap <$> flow).Gives books (journal.ifOpen (wrap value)) books := by
  have gives := settles.gives.map wrap
  rcases kept.ledger with ⟨rows, opened, readable, areRows⟩ | ⟨closed, unreadable⟩
  · have computed : (Except.ok rows >>= compute) = .ok value := same rows areRows
    rw [readable, computed] at gives
    rwa [ifOpen, if_pos opened]
  · rw [unreadable] at gives
    rwa [ifOpen, if_neg (by simp [closed])]

/-- What is kept does not depend on the time, the counts and the stages. -/
theorem congr [AddressRule] (kept : IsKept name journal books) {other : Books}
    (disk : other.disk = books.disk) (log : other.log = books.log) : IsKept name journal other := by
  cases kept with
  | memory inMemory own areRows => exact .memory inMemory (log.trans own) areRows
  | lost inMemory own => exact .lost inMemory (log.trans own)
  | file inFile followed found own areRows =>
    exact .file inFile (disk ▸ followed) (disk ▸ found) (log.trans own) areRows
  | unmade inFile followed absent own =>
    exact .unmade inFile (disk ▸ followed) (disk ▸ absent) (log.trans own)

/-- A row that is appended to an open log is one of the journal. -/
theorem recorded [AddressRule] {records : List DeploymentRecord} {record : DeploymentRecord}
    {row : Row} (kept : IsKept name ⟨records, true⟩ books)
    (taken : DeploymentLog.rowOf record = .ok row) :
    IsKept name ⟨records ++ [record], true⟩ (books.recorded row) := by
  cases kept with
  | memory inMemory log areRows =>
    refine .memory inMemory ?_ (areRows.concat taken)
    simp [Books.recorded, Books.ledger, log, LogConnection.rows, Books.withLedger,
      LogConnection.withRows]
  | @file _ rows _ place _ inFile followed found log areRows =>
    have target := Disk.follow_eq_target followed
    have readable : books.ledger = .ok rows := by
      rw [Books.ledger, log]
      exact LogConnection.rows_file_eq_ok_iff.2 ⟨target ▸ followed, target ▸ found⟩
    have after : books.recorded row =
        { books with disk := books.disk.put place (.database (rows ++ [row])) } := by
      simp [Books.recorded, readable, Books.withLedger, log, LogConnection.withRows, followed]
    have inside : place ≠ [] := by
      rintro rfl
      cases found
    have free : books.disk.node? place ≠ some .folder := by simp [found]
    rw [after]
    exact .file inFile ((Disk.Keeps.put _ free).follow followed)
      (Disk.node?_put_self _ _ inside) log (areRows.concat taken)

/-- A log that is closed keeps what it has in its file. -/
theorem closed [AddressRule] (kept : IsKept name journal books) :
    IsKept name ⟨journal.records, false⟩ { books with log := .closed } := by
  cases kept with
  | memory inMemory => exact .lost inMemory rfl
  | lost inMemory => exact .lost inMemory rfl
  | file inFile followed found _ areRows => exact .file inFile followed found rfl areRows
  | unmade inFile followed absent => exact .unmade inFile followed absent rfl

/-- Opening the log finds what is in its file. -/
theorem opened [AddressRule] (kept : IsKept name journal books) :
    ∃ after, (Flow.openLog name).Gives books (.ok ()) after ∧
      IsKept name ⟨if isInMemory name then [] else journal.records, true⟩ after := by
  have connects {log : LogConnection} {disk : Disk}
      (run : (LogConnection.connect name).run.run books.disk = (.ok log, disk)) :
      (Flow.openLog name).Gives books (.ok ()) { books with disk, log } :=
    (Flow.gives_onDisk run).bind (Flow.gives_modify _ _)
  cases inMemory : isInMemory name with
  | true =>
    have run : (LogConnection.connect name).run.run books.disk =
        (.ok (.memory []), books.disk) := by
      unfold LogConnection.connect
      split
      · rfl
      · next inFile => exact absurd inMemory inFile
    exact ⟨_, connects run, .memory inMemory rfl .nil⟩
  | false =>
    cases kept with
    | memory other => cases other.symm.trans inMemory
    | lost other => cases other.symm.trans inMemory
    | file _ followed found _ areRows =>
      have run : (LogConnection.connect name).run.run books.disk =
          (.ok (.file (Path.ofText name)), books.disk) := by
        unfold LogConnection.connect
        split
        · next other => cases other.symm.trans inMemory
        · rw [DiskTask.run_bind, DiskTask.run_get]
          simp only [followed, DiskTask.run_bind, DiskTask.run_get, found]
          rfl
      exact ⟨_, connects run, .file inMemory followed found rfl areRows⟩
    | @unmade place _ _ followed absent =>
      have run : (LogConnection.connect name).run.run books.disk =
          (.ok (.file (Path.ofText name)), books.disk.put place (.database [])) := by
        unfold LogConnection.connect
        split
        · next other => cases other.symm.trans inMemory
        · rw [DiskTask.run_bind, DiskTask.run_get]
          simp only [followed, DiskTask.run_bind, DiskTask.run_get, absent]
          rfl
      have inside : place ≠ [] := by
        rintro rfl
        cases absent
      have free : books.disk.node? place ≠ some .folder := by simp [absent]
      exact ⟨_, connects run, .file inMemory ((Disk.Keeps.put _ free).follow followed)
        (Disk.node?_put_self _ _ inside) rfl .nil⟩

/-! ### Steps and runs -/

/-- A record is appended, or it is refused, or the log is closed. -/
theorem append [AddressRule] (kept : IsKept name journal books) (record : DeploymentRecord) :
    ∃ last, ((LogCall.append record).perform name).Gives books (journal.answer (.append record))
      last ∧ IsKept name (journal.after name (.append record)) last := by
  cases taken : DeploymentLog.rowOf record with
  | error failure =>
    have refused := DeploymentLog.rowOf_eq_error_iff.1 taken
    have same : journal.after name (.append record) = journal := by
      simp [Journal.after, refused]
    rw [answer, refused, same]
    exact ⟨books, (Flow.gives_appendRecord_error books taken).map LogAnswer.number, kept⟩
  | ok row =>
    have accepted : record.refusal? = none := by
      rw [Option.eq_none_iff_forall_ne_some]
      intro failure refused
      rw [DeploymentLog.rowOf_eq_error_iff.2 refused] at taken
      cases taken
    have gives := (Flow.gives_appendRecord books taken).map LogAnswer.number
    simp only [answer, Journal.after, accepted]
    rcases kept.ledger with ⟨rows, opened, readable, areRows⟩ | ⟨closed, unreadable⟩
    · rw [readable] at gives
      refine ⟨books.recorded row, ?_, ?_⟩
      · rw [ifOpen, if_pos opened, areRows.length_eq]
        exact gives
      · rw [opened]
        have open_ : IsKept name ⟨journal.records, true⟩ books := opened ▸ kept
        exact open_.recorded taken
    · have same : books.recorded row = books := by
        simp [Books.recorded, unreadable]
      rw [unreadable, same] at gives
      refine ⟨books, ?_, ?_⟩
      · rw [ifOpen, if_neg (by simp [closed])]
        exact gives
      · rw [closed]
        exact kept

/-- The records of a proxy are those the journal answers. -/
theorem gives_forProxy [AddressRule] (kept : IsKept name journal books) (proxy : String) :
    ((LogCall.forProxy proxy).perform name).Gives books (journal.answer (.forProxy proxy))
      books := by
  have read := Flow.gives_lift (Address.parse proxy) books
  cases parsed : Address.ofText? proxy with
  | none =>
    have refused : Address.parse proxy = .error (.value (.invalidAddress proxy)) := by
      rw [Address.parse, parsed]
    rw [refused] at read
    rw [LogCall.perform, answer, parsed, refused]
    exact read.bind_error
  | some address =>
    have accepted : Address.parse proxy = .ok address := by
      rw [Address.parse, parsed]
    rw [accepted] at read
    rw [LogCall.perform, answer, parsed, accepted]
    exact read.bind (kept.gives_of_rows .records (Flow.settles_recordsOfProxy books address)
      fun rows areRows => areRows.forProxy books.now parsed)

/-- The last record of a contract is the one the journal answers. -/
theorem gives_last [AddressRule] (kept : IsKept name journal books) (contract network : String) :
    ((LogCall.last contract network).perform name).Gives books
      (journal.answer (.last contract network)) books := by
  refine kept.gives_of_rows .record (Flow.settles_lastRecord? books contract network)
    fun rows areRows => ?_
  rw [areRows.history]
  rfl

/-- **One call.** The log answers like the journal, and keeps on doing so. -/
theorem step [AddressRule] (kept : IsKept name journal books) (call : LogCall) :
    ∃ after, (call.perform name).Gives books (journal.answer call) after ∧
      IsKept name (journal.after name call) after := by
  cases call with
  | append record => exact kept.append record
  | history contract network =>
    exact ⟨books, kept.gives_of_rows .records (Flow.settles_history books contract network)
      fun rows areRows => areRows.history books.now contract network, kept⟩
  | forProxy proxy => exact ⟨books, kept.gives_forProxy proxy, kept⟩
  | last contract network => exact ⟨books, kept.gives_last contract network, kept⟩
  | count =>
    exact ⟨books, kept.gives_of_rows .number (Flow.settles_recordCount books)
      fun rows areRows => congrArg Except.ok areRows.length_eq.symm, kept⟩
  | close => exact ⟨_, (Flow.gives_modify _ books).map _, kept.closed⟩
  | connect =>
    obtain ⟨after, gives, opened⟩ := kept.opened
    exact ⟨after, gives.map _, opened⟩
  | wait now => exact ⟨_, (Flow.gives_modify _ books).map _, kept.congr rfl rfl⟩

/-- **Calls one after another.** -/
theorem run [AddressRule] (kept : IsKept name journal books) (calls : List LogCall) :
    ∃ after, (LogCall.performAll name calls).Gives books (.ok (journal.answers name calls)) after ∧
      IsKept name (journal.run name calls) after := by
  induction calls generalizing journal books with
  | nil => exact ⟨books, Flow.gives_pure _ books, kept⟩
  | cons call rest ih =>
    obtain ⟨middle, first, keeps⟩ := kept.step call
    obtain ⟨after, onward, last⟩ := ih keeps
    exact ⟨after, first.attempt.bind (onward.map _), last⟩

end IsKept

end Journal

/-- **The log is a journal.** All calls of a log that is yet to be opened, whether it will be kept
in memory or in a file that can be made, are answered like those of a blank journal. -/
theorem LogCall.performAll_eq_answers [AddressRule] {name : String} {books : Books}
    (closed : books.log = .closed) (fresh : Journal.isInMemory name = true ∨ ∃ place,
      books.disk.follow [] (Path.ofText name) = .ok place ∧ books.disk.node? place = none)
    (calls : List LogCall) : ∃ after,
      (LogCall.performAll name calls).run.run books =
        .done (.ok (Journal.blank.answers name calls), after) := by
  have kept : Journal.IsKept name Journal.blank books := by
    cases inMemory : Journal.isInMemory name with
    | true => exact .lost inMemory closed
    | false =>
      have inFile : ¬ Journal.isInMemory name = true := by simp [inMemory]
      obtain ⟨place, followed, absent⟩ := fresh.resolve_left inFile
      exact .unmade inMemory followed absent closed
  obtain ⟨after, gives, -⟩ := kept.run calls
  exact ⟨after, gives⟩

/-- Books before anything is done. -/
def Books.blank : Books := ⟨.empty, .closed, .zero, 0, []⟩

/-- A record of an upgrade, by its two addresses. -/
def DeploymentRecord.upgradeOf (implementation proxy : String) : DeploymentRecord :=
  ⟨"Token", "anvil", implementation, some proxy, none, none, .upgrade, "2025-01-01T00:00:00Z"⟩

/-- Two records that spell one proxy in their own ways, and between them one that is refused, in a
file that is closed and opened again. -/
theorem LogCall.performAll_eq_answers_reopened :
    let proxy := "0xabababababababababababababababababababab"
    let first := DeploymentRecord.upgradeOf "0x0101010101010101010101010101010101010101" proxy
    let second := DeploymentRecord.upgradeOf "0x0202020202020202020202020202020202020202"
      "ABABABABABABABABABABABABABABABABABABABAB"
    ∃ after, (LogCall.performAll "deployments.db" [.connect, .append first,
        .append (.upgradeOf "0x" proxy), .append second, .close, .count, .connect,
        .forProxy proxy, .last "Token" "anvil"]).run.run .blank =
      .done (.ok [.ok .nothing, .ok (.number 1), .error (.value (.invalidAddress "0x")),
        .ok (.number 2), .ok .nothing, .error (.plain .closedLog), .ok .nothing,
        .ok (.records [first, second]), .ok (.record (some second))], after) := by
  intro proxy first second
  have inFile : Journal.isInMemory "deployments.db" = false := by decide +kernel
  have absent : ∃ place, Books.blank.disk.follow [] (Path.ofText "deployments.db") = .ok place ∧
      Books.blank.disk.node? place = none := ⟨["deployments.db"], by decide +kernel, rfl⟩
  obtain ⟨after, answered⟩ := performAll_eq_answers rfl (.inr absent)
    [.connect, .append first, .append (.upgradeOf "0x" proxy), .append second, .close, .count,
      .connect, .forProxy proxy, .last "Token" "anvil"]
  have misread : (DeploymentRecord.upgradeOf "0x" proxy).addressTexts.find?
      (fun text => (Address.ofText? text).isNone) = some "0x" := by
    decide +kernel
  have refused : (DeploymentRecord.upgradeOf "0x" proxy).refusal? =
      some (.value (.invalidAddress "0x")) := by
    rw [DeploymentRecord.refusal?, misread]
    rfl
  have accepted : first.refusal? = none ∧ second.refusal? = none := by decide +kernel
  have read : (Address.ofText? proxy).isSome = true := by decide +kernel
  have both : [first, second].filter (·.isAbout proxy) = [first, second] ∧
      [first, second].filter (·.isOf (some "Token") (some "anvil")) = [first, second] := by
    decide +kernel
  obtain ⟨address, parsed⟩ := Option.isSome_iff_exists.1 read
  refine ⟨after, answered.trans ?_⟩
  simp [Journal.answers, Journal.answer, Journal.after, Journal.ifOpen, Journal.blank, inFile,
    refused, accepted, parsed, both]

end UpgradeGate
