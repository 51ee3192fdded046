import UpgradeGate.Proofs.Workflow.Effects

/-!
# Upgrades that only report

Without an override, an upgrade is a report. It asks for the layout of the new implementation, tells
listeners what it found, and asks nothing else: no transaction is sent, nothing is looked up on the
chain and no artifact is loaded. It touches the scratch copy alone, appends nothing to the log and,
where it returns, is blocked (`Gate.Run.reports`).
-/

namespace UpgradeGate

open UpgradeGate.Flow

/-- A question of a report: for the layout of a contract, or none but an announcement. -/
def Question.isReport : Question → Bool
  | .layout _ => true
  | .announce _ => true
  | _ => false

/-- A report asks the chain nothing and compiles no artifact. -/
theorem Question.off_chain_of_isReport {question : Question} (report : question.isReport = true) :
    question.isChain = false ∧ ∀ contract, question ≠ .artifact contract := by
  cases question <;> simp_all [isReport, isChain]

/-- Nothing is asked but for a report. -/
def OnlyReports (trace : Trace collaborators) : Prop :=
  ∀ exchange ∈ trace, exchange.call.question.isReport = true

theorem onlyReports_nil : OnlyReports [] := fun _ absent => absurd absent List.not_mem_nil

theorem OnlyReports.cons {trace : Trace collaborators} {first : Exchange collaborators}
    (rest : OnlyReports trace) (report : first.call.question.isReport = true) :
    OnlyReports (first :: trace) := by
  intro other member
  rcases List.mem_cons.1 member with rfl | further
  · exact report
  · exact rest other further

/-- A log that can be read before and after work that makes no log has the same rows. -/
theorem LogConnection.rows_eq_of_rows {log : LogConnection} {disk after : Disk} {rows old : Ledger}
    (unmade : ∀ place rows, after.node? place = some (.database rows) →
      disk.node? place = some (.database rows))
    (before : log.rows disk = .ok old) (then_ : log.rows after = .ok rows) : rows = old := by
  cases log with
  | memory => exact Except.ok.inj (then_.symm.trans before)
  | closed => cases before
  | file path =>
    have found := unmade _ _ (rows_file_eq_ok_iff.1 then_).2
    rw [(rows_file_eq_ok_iff.1 before).2] at found
    cases found
    rfl

namespace Gate

variable {gate : Gate} {order : UpgradeOrder} {proxy : Address}
  {previous : Option DeploymentRecord} {books after : Books} {trace : Trace collaborators}

/-- What an attempt without an override asks and leaves behind. -/
structure AttemptReported (books : Books) (trace : Trace collaborators)
    (result : Except Failure (Attempt × Report)) (after : Books) : Prop where
  asks : OnlyReports trace
  disk : after.disk = books.disk
  log : after.log = books.log
  now : after.now = books.now
  blocked : ∀ attempt report, result = .ok (attempt, report) → attempt.stage = .blocked

/-- An attempt without override only reports. -/
theorem Attempted.reported [AddressRule] {fresh : Attempt}
    {result : Except Failure (Attempt × Report)}
    (attempted : Attempted gate order proxy previous fresh books trace result after)
    (plain : order.override = false) : AttemptReported books trace result after := by
  cases attempted with
  | unread => exact ⟨onlyReports_nil, rfl, rfl, rfl, fun _ _ => nofun⟩
  | uncompiled => exact ⟨onlyReports_nil.cons rfl, rfl, rfl, rfl, fun _ _ => nofun⟩
  | missing => exact ⟨onlyReports_nil.cons rfl, rfl, rfl, rfl, fun _ _ => nofun⟩
  | blocked =>
    refine ⟨(onlyReports_nil.cons rfl).cons rfl, rfl, rfl, rfl, ?_⟩
    intro attempt report returned
    cases returned
    rfl
  | tried _ _ override => cases plain.symm.trans override

/-- What a run without an override asks and leaves behind. The disk is as it was, or the log could
be read and only the scratch copy was touched. -/
structure Reports (gate : Gate) (order : UpgradeOrder) (books : Books)
    (trace : Trace collaborators) (result : Except Failure Attempt) (after : Books) : Prop where
  asks : OnlyReports trace
  log : after.log = books.log
  keeps : Books.Keeps (gate.store.Touches .scratch order.contract order.network) books after
  disk : after.disk = books.disk ∨ (∃ rows, books.ledger = .ok rows) ∧
    Disk.Keeps (gate.store.Touches .scratch order.contract order.network) books.disk after.disk ∧
    ∀ place rows, after.disk.node? place = some (.database rows) →
      books.disk.node? place = some (.database rows)
  blocked : ∀ attempt, result = .ok attempt → attempt.stage = .blocked

theorem log_countBooks (ended : Except Failure (Attempt × Report)) (books : Books) :
    (countBooks ended books).log = books.log := by
  unfold countBooks
  split
  · rfl
  · split <;> rfl

/-- **A run without an override** only reports, however it ends. -/
theorem Run.reports [AddressRule] {result : Except Failure Attempt}
    (run : Run gate order books trace result after) (plain : order.override = false) :
    Reports gate order books trace result after := by
  have failed : ∀ failure attempt, (.error failure : Except Failure Attempt) = .ok attempt →
      attempt.stage = .blocked := fun _ _ impossible => nomatch impossible
  cases run with
  | misaddressed => exact ⟨onlyReports_nil, rfl, .refl _ _, .inl rfl, failed _⟩
  | untraced => exact ⟨onlyReports_nil, rfl, keeps_startBooks _ _, .inl rfl, failed _⟩
  | unread => exact ⟨onlyReports_nil, rfl, keeps_startBooks _ _, .inl rfl, failed _⟩
  | unheld _ latest _ unwritten =>
    have copied := LayoutStore.keeps_of_write unwritten
    refine ⟨onlyReports_nil, log_countBooks _ _,
      ((keeps_startBooks _ books).trans (.ofDisk copied)).trans
        ((keeps_countBooks _ _).mono fun _ => False.elim), .inr ?_, failed _⟩
    rw [disk_countBooks]
    exact ⟨Books.ledger_of_latest? latest, copied,
      fun _ _ => LayoutStore.database_of_write unwritten⟩
  | @held _ _ _ _ scratch _ ended middle _ latest _ written attempted =>
    have reported := attempted.reported plain
    have unchanged :
        Books.Keeps (fun _ => False) { startBooks books with disk := scratch } middle :=
      (Books.Keeps.refl _ _).congr reported.disk reported.log reported.now
    refine ⟨reported.asks, ?_, attempted.keeps_held written (unchanged.mono fun _ => False.elim)
      fun _ inside => inside, .inr ⟨Books.ledger_of_latest? latest, ?_, ?_⟩, ?_⟩
    · rw [log_countBooks]
      exact reported.log
    · rw [disk_countBooks]
      have discarded := Disk.Keeps.drop middle.disk (attempted.free written)
      rw [show middle.disk = scratch from reported.disk] at discarded ⊢
      exact (LayoutStore.keeps_of_write written).trans (discarded.mono fun _ => .inl)
    · intro place rows found
      rw [disk_countBooks] at found
      have there := Disk.node?_of_drop found
      rw [show middle.disk = scratch from reported.disk] at there
      exact LayoutStore.database_of_write written there
    · intro attempt returned
      cases ended with
      | error => cases returned
      | ok outcome =>
        cases returned
        exact reported.blocked _ _ rfl

namespace Reports

variable {result : Except Failure Attempt}
  (reports : Reports gate order books trace result after)
include reports

/-- Nothing is appended: rows that can be read afterwards were there before. -/
theorem ledger_before {rows : Ledger} (readable : after.ledger = .ok rows) :
    books.ledger = .ok rows := by
  rw [Books.ledger, reports.log] at readable
  obtain same | ⟨⟨old, before⟩, -, unmade⟩ := reports.disk
  · rwa [same] at readable
  · rw [before, LogConnection.rows_eq_of_rows unmade before readable]

/-- A log apart from the scratch copy is as it was. -/
theorem ledger_eq (apart : ∀ place ∈ books.log.place?,
      ¬ gate.store.Touches .scratch order.contract order.network place) :
    after.ledger = books.ledger := by
  rw [Books.ledger, reports.log]
  obtain same | ⟨⟨old, before⟩, keeps, -⟩ := reports.disk
  · rw [same]
    rfl
  · rw [before]
    exact LogConnection.rows_keeps keeps apart before

end Reports

end Gate

end UpgradeGate
