import UpgradeGate.Proofs.Workflow.Calls
import UpgradeGate.Proofs.Workflow.Reports

/-!
# What calls append to the log

Work appends rows to the log, or loses it, where a layout is written in its place
(`Books.Extends`). A log that is lost stays lost, so the rows that it had before are always at its
front while it can be read.

A deployment appends rows of its own network (`Gate.along_deployRaw`, `Gate.along_deployProxy`). An
upgrade appends rows of contracts that stand alone, and at most one row that belongs to a proxy, at
the end: that of the upgrade, with the kind of the latest record and the administrator that was
resolved (`Gate.Run.extends`).
-/

namespace UpgradeGate

open UpgradeGate.Flow

namespace Books

variable {books before middle after other : Books} {more rest : Ledger} {rows : Ledger}

/-- The log is kept in a file, and there is none any more. -/
def Lost (books : Books) : Prop :=
  ∃ place ∈ books.log.place?, ∀ rows, books.disk.node? place ≠ some (.database rows)

/-- Books whose log is lost have no rows to read. -/
theorem Lost.unreadable (lost : books.Lost) : books.ledger ≠ .ok rows := by
  obtain ⟨place, own, gone⟩ := lost
  exact fun readable => gone rows (LogConnection.node?_of_rows own readable)

/-- **Work extends the log** by some rows, or loses it. -/
structure Extends (more : Ledger) (before after : Books) : Prop where
  lost : before.Lost → after.Lost
  rows : ∀ rows, before.ledger = .ok rows → after.Lost ∨ after.ledger = .ok (rows ++ more)

namespace Extends

theorem refl (books : Books) : Extends [] books books :=
  ⟨id, fun rows readable => .inr (by rw [readable, List.append_nil])⟩

theorem trans (first : Extends more before middle) (second : Extends rest middle after) :
    Extends (more ++ rest) before after where
  lost := second.lost ∘ first.lost
  rows rows readable := by
    rcases first.rows rows readable with lost | extended
    · exact .inl (second.lost lost)
    · rw [← List.append_assoc]
      exact second.rows _ extended

/-- Counts, stages and the time are no matter of the log. -/
theorem congr (extended : Extends more before after) (disk : other.disk = after.disk)
    (log : other.log = after.log) : Extends more before other := by
  have lost : after.Lost → other.Lost := by
    rw [Lost, Lost, disk, log]
    exact id
  have ledger : other.ledger = after.ledger := by
    rw [ledger, Books.ledger, disk, log]
  refine ⟨lost ∘ extended.lost, fun rows readable => ?_⟩
  rw [ledger]
  exact (extended.rows rows readable).imp_left lost

/-- Recording a row extends the log by that row. -/
theorem recorded [AddressRule] (books : Books) (row : Row) :
    Extends [row] books (books.recorded row) where
  lost lost := by
    cases readable : books.ledger with
    | ok rows => exact absurd readable lost.unreadable
    | error failure =>
      simp only [Books.recorded, readable]
      exact lost
  rows rows readable := by
    rw [ledger_recorded, readable]
    exact .inr rfl

/-- Work on the disk that makes no log and touches some places loses a log in one of those places,
if it does not leave it alone. -/
theorem ofDisk {disk : Disk} {touched : Place → Prop} (keeps : Disk.Keeps touched books.disk disk)
    (unmade : ∀ place rows, disk.node? place = some (.database rows) →
      books.disk.node? place = some (.database rows)) :
    Extends [] books { books with disk := disk } where
  lost lost := by
    obtain ⟨place, own, gone⟩ := lost
    exact ⟨place, own, fun rows there => gone rows (unmade place rows there)⟩
  rows rows readable := by
    rw [List.append_nil]
    by_cases lost : { books with disk := disk }.Lost
    · exact .inl lost
    right
    cases log : books.log with
    | memory | closed =>
      rw [Books.ledger, log] at readable
      exact readable
    | file path =>
      rw [Books.ledger, log] at readable
      obtain ⟨followed, found⟩ := LogConnection.rows_file_eq_ok_iff.1 readable
      refine LogConnection.rows_file_eq_ok_iff.2 ⟨keeps.follow followed, ?_⟩
      -- the log is still there, and what is there was there before
      refine Classical.byContradiction fun gone => lost ⟨_, by rw [log]; rfl, fun _ there => ?_⟩
      cases (unmade _ _ there).symm.trans found
      exact gone there

/-- A write of the layout store adds no row. -/
theorem write (store : LayoutStore) (now : Moment) (copy : Copy) (contract network : String)
    (layout : Layout) (books : Books) : Extends [] books { books with
      disk := ((store.write now copy contract network layout).run.run books.disk).2 } :=
  ofDisk (store.keeps_write ..) fun _ _ => LayoutStore.database_of_write rfl

/-- Dropping a place that holds no folder adds no row, also when the log was there. -/
theorem drop {place : Place} (books : Books) (free : books.disk.node? place ≠ some .folder) :
    Extends [] books { books with disk := books.disk.drop place } :=
  ofDisk (.drop _ free) fun _ _ => Disk.node?_of_drop

end Extends

/-- Extending the log by rows of some kind can be put together. -/
theorem steady_extends (fits : Row → Prop) :
    Steady fun before after => ∃ more, Extends more before after ∧ ∀ row ∈ more, fits row where
  trans first second := by
    obtain ⟨more, extended, fitting⟩ := first
    obtain ⟨rest, extended', fitting'⟩ := second
    refine ⟨more ++ rest, extended.trans extended', fun row member => ?_⟩
    exact (List.mem_append.1 member).elim (fitting row) (fitting' row)
  marked books _ _ := ⟨[], (Extends.refl books).congr rfl rfl, nofun⟩

end Books

namespace Gate

variable {gate : Gate} {order : UpgradeOrder} {proxy : Address}
  {previous : Option DeploymentRecord} {books after : Books} {trace : Trace collaborators}
  {contract network sender : String}

/-- Rows of contracts of one name that stand alone on a network. -/
def RawRows (contract network : String) (more : Ledger) : Prop :=
  ∀ row ∈ more, ∃ address now, row = (rawRecord contract network address now).row

/-- A raw deployment, whichever way it ends, extends the log by rows of its own contract and network
alone. -/
theorem extends_of_deployRaw [AddressRule] {arguments : List Argument}
    {result : Except Failure Address}
    (ended : (deployRaw contract arguments network sender).Ends books trace result after) :
    ∃ more, Books.Extends more books after ∧ RawRows contract network more :=
  (along_deployRaw (Books.steady_extends _) arguments sender fun books address =>
    ⟨_, .recorded books _, fun _ member => ⟨address, books.now, List.mem_singleton.1 member⟩⟩).ends
      ended

/-- The deployment of a proxy extends it by rows of proxies of that contract and network. -/
theorem extends_of_deployProxy [AddressRule] {initData : Bytes} {kind : Json}
    {admin : Option String} {result : Except Failure Address}
    (ended : (gate.deployProxy contract initData kind admin network sender).Ends books trace result
      after) :
    ∃ more, Books.Extends more books after ∧ ∀ row ∈ more, ∃ implementation proxy kind made now,
      row = (proxyRecord contract network implementation proxy kind made now).row :=
  (along_deployProxy (Books.steady_extends _) initData kind admin sender
    (fun books implementation proxy kind made => ⟨_, .recorded books _, fun _ member =>
      ⟨implementation, proxy, kind, made, books.now, List.mem_singleton.1 member⟩⟩)
    (fun _ _ _ => ⟨[], .write .., nofun⟩)).ends ended

/-- How an upgrade extends the log: by contracts that stand alone, and then maybe by its record. -/
inductive UpgradeRows [AddressRule] (order : UpgradeOrder) (proxy : Address)
    (previous : Option DeploymentRecord) : Ledger → Prop where
  | unfinished {raw : Ledger} (alone : RawRows order.contract order.network raw) :
      UpgradeRows order proxy previous raw
  | recorded {raw : Ledger} {admin : Option Address} {implementation : Address} {now : Moment}
      (alone : RawRows order.contract order.network raw)
      (resolves : ResolvesTo order.admin previous admin) :
      UpgradeRows order proxy previous
        (raw ++ [(upgradeRecord order proxy previous admin implementation now).row])

theorem rawRows_nil : RawRows contract network [] := fun _ absent => absurd absent List.not_mem_nil

/-- A fast path extends the log by rows of raw deployments and by the row of the upgrade. -/
theorem FastPath.extends [AddressRule] {candidate : Layout} {compatible : Bool} {attempt : Attempt}
    {result : Except Failure Attempt}
    (path : FastPath gate order proxy previous candidate compatible attempt books trace result
      after) :
    ∃ more, Books.Extends more books after ∧ UpgradeRows order proxy previous more := by
  -- the upgrade is recorded after the deployment, and then the baseline is written or not
  have booked : ∀ {middle : Books} {early : Trace collaborators} {admin : Option Address}
      {implementation : Address} {written : Except Failure Path} {disk : Disk},
      RawDeployment order.contract [] order.network order.sender books early (.ok implementation)
        middle →
      ResolvesTo order.admin previous admin →
      (gate.store.write middle.now .baseline order.contract order.network candidate).run.run
        (upgradeBooks middle order proxy previous admin implementation).disk = (written, disk) →
      ∃ more, Books.Extends more books
          { upgradeBooks middle order proxy previous admin implementation with disk := disk } ∧
        UpgradeRows order proxy previous more := by
    intro middle early admin implementation written disk deployed resolves ended
    obtain ⟨raw, deployed, alone⟩ := extends_of_deployRaw (ends_deployRaw.2 deployed)
    have entered : Books.Extends raw books
        { middle with stages := middle.stages ++ [Stage.upgraded] } := deployed.congr rfl rfl
    have kept := Books.Extends.write gate.store middle.now .baseline order.contract order.network
      candidate (upgradeBooks middle order proxy previous admin implementation)
    rw [ended] at kept
    have extended := (entered.trans (.recorded _ _)).trans kept
    rw [List.append_nil] at extended
    exact ⟨_, extended, .recorded alone resolves⟩
  have raw : ∀ {middle : Books} {early : Trace collaborators} {ended : Except Failure Address},
      RawDeployment order.contract [] order.network order.sender books early ended middle →
      ∃ more, Books.Extends more books middle ∧ UpgradeRows order proxy previous more := by
    intro middle early ended deployed
    obtain ⟨more, extended, alone⟩ := extends_of_deployRaw (ends_deployRaw.2 deployed)
    exact ⟨more, extended, .unfinished alone⟩
  cases path with
  | unresolved => exact ⟨[], .refl _, .unfinished rawRows_nil⟩
  | unforeseen => exact ⟨[], .refl _, .unfinished rawRows_nil⟩
  | undeployed _ failed => exact raw failed
  | mismatched _ deployed =>
    obtain ⟨more, extended, rows⟩ := raw deployed
    exact ⟨more, extended.congr rfl rfl, rows⟩
  | refused _ _ deployed => exact raw deployed
  | unconfirmed _ deployed => exact raw deployed
  | unkept foreseen deployed _ _ unwritten =>
    exact booked deployed (resolvesTo_of_ends foreseen.resolved) unwritten
  | completed _ foreseen deployed _ _ written =>
    exact booked deployed (resolvesTo_of_ends foreseen.resolved) written

/-- An attempt extends the log by nothing but the rows of its upgrade. -/
theorem Attempted.extends [AddressRule] {fresh : Attempt}
    {result : Except Failure (Attempt × Report)}
    (attempted : Attempted gate order proxy previous fresh books trace result after) :
    ∃ more, Books.Extends more books after ∧ UpgradeRows order proxy previous more := by
  have unchanged : ∀ {last : Books}, last.disk = books.disk → last.log = books.log →
      ∃ more, Books.Extends more books last ∧ UpgradeRows order proxy previous more :=
    fun disk log => ⟨[], (Books.Extends.refl books).congr disk log, .unfinished rawRows_nil⟩
  cases attempted with
  | unread => exact unchanged rfl rfl
  | uncompiled => exact unchanged rfl rfl
  | missing => exact unchanged rfl rfl
  | blocked => exact unchanged rfl rfl
  | tried _ _ _ path =>
    obtain ⟨more, extended, rows⟩ := path.extends
    have entered : Books.Extends [] books { captureBooks books with
        stages := (captureBooks books).stages ++ [Stage.fastPath] } :=
      (Books.Extends.refl books).congr rfl rfl
    exact ⟨more, entered.trans extended, rows⟩

/-- **What an upgrade appends**: nothing before the log was read, and then no more than the
contracts that it created and its own record. -/
theorem Run.extends [AddressRule] {result : Except Failure Attempt}
    (run : Run gate order books trace result after) :
    Books.Extends [] books after ∨ ∃ proxy previous more,
      Address.parse order.proxy = .ok proxy ∧ books.latest? proxy order.network = .ok previous ∧
      Books.Extends more books after ∧ UpgradeRows order proxy previous more := by
  have started : Books.Extends [] books (startBooks books) :=
    (Books.Extends.refl books).congr rfl rfl
  cases run with
  | misaddressed => exact .inl (.refl _)
  | untraced => exact .inl started
  | unread => exact .inl started
  | @unheld _ _ baseline failure disk _ _ _ unwritten =>
    have kept := Books.Extends.write gate.store books.now .scratch order.contract order.network
      baseline (startBooks books)
    rw [show (startBooks books).disk = books.disk from rfl, unwritten] at kept
    exact .inl ((started.trans kept).congr (disk_countBooks _ _) (log_countBooks _ _))
  | @held proxy previous baseline path scratch _ ended middle parsed latest live written
      attempted =>
    have copied := Books.Extends.write gate.store books.now .scratch order.contract order.network
      baseline (startBooks books)
    rw [show (startBooks books).disk = books.disk from rfl, written] at copied
    obtain ⟨more, extended, rows⟩ := attempted.extends
    have left := ((started.trans copied).trans extended).trans
      (.drop middle (attempted.free written))
    rw [List.append_nil] at left
    exact .inr ⟨proxy, previous, more, parsed, latest,
      left.congr (disk_countBooks _ _) (log_countBooks _ _), rows⟩

end Gate

end UpgradeGate
