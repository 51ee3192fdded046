import UpgradeGate.Proofs.Workflow.Reports

/-!
# What stands behind a proxy

A proxy is backed by a layout where the log names a contract for it, and the baseline of that
contract holds the layout (`Gate.Backed`). A run captures the layout that backs its proxy and no
other (`Gate.Backed.captured`).

A deployment backs the new proxy with the layout that was compiled for it, and an upgrade its proxy
(`Gate.ProxyDeployment.backed`, `Gate.Installed.backed`). A run that fails or only compares leaves
each proxy with what backs it (`Gate.Backed.of_error`, `Gate.Backed.of_plain`).
-/

namespace UpgradeGate

namespace Books

variable {books after : Books} {proxy : Address} {network contract : String} {more : Ledger}

/-- Wherever the log can be read afterwards, it has more rows than before. -/
def Appends (more : Ledger) (before after : Books) : Prop :=
  ∀ left, after.ledger = .ok left → ∃ rows, before.ledger = .ok rows ∧ left = rows ++ more

theorem Appends.of_map (ledger : after.ledger = books.ledger.map (· ++ more)) :
    Appends more books after := by
  intro left readable
  rw [ledger] at readable
  cases before : books.ledger with
  | error failure =>
    rw [before] at readable
    cases readable
  | ok rows =>
    rw [before] at readable
    cases readable
    exact ⟨rows, rfl, rfl⟩

theorem Appends.of_eq (ledger : after.ledger = books.ledger) : Appends [] books after := by
  intro left readable
  rw [ledger] at readable
  exact ⟨left, readable, (List.append_nil _).symm⟩

/-- The latest record of a proxy on a network, wherever the log can be read, is of one contract. -/
def Names (books : Books) (proxy : Address) (network contract : String) : Prop :=
  ∀ rows now previous, books.ledger = .ok rows →
    DeploymentLog.latest? now rows proxy network = .ok previous →
      previous.map DeploymentRecord.contract = some contract

/-- Books whose last new row is of a proxy name the contract of that row for the proxy. -/
theorem Appends.names [AddressRule] {record : DeploymentRecord} {row : Row}
    (appends : Appends (more ++ [row]) books after) (taken : DeploymentLog.rowOf record = .ok row)
    (own : row.proxy = some proxy.text) (here : record.network = network) :
    after.Names proxy network record.contract := by
  intro left now previous readable latest
  obtain ⟨rows, -, rfl⟩ := appends left readable
  rw [← List.append_assoc, DeploymentLog.latest?_append_own taken own here] at latest
  cases before : DeploymentLog.latest? now (rows ++ more) proxy network with
  | error failure =>
    rw [before] at latest
    cases latest
  | ok earlier =>
    rw [before] at latest
    cases latest
    rfl

/-- Rows of other proxies and networks do not change what is named. -/
theorem Names.of_appends [AddressRule] (names : books.Names proxy network contract)
    (appends : Appends more books after)
    (elsewhere : ∀ row ∈ more, DeploymentLog.IsElsewhere proxy network row) :
    after.Names proxy network contract := by
  intro left now previous readable latest
  obtain ⟨rows, before, rfl⟩ := appends left readable
  rw [DeploymentLog.latest?_append_others elsewhere] at latest
  exact names rows now previous before latest

end Books

/-- A copy is still held where its bytes were kept, even if the log was written in between. -/
theorem LayoutStore.Holds.of_books {store : LayoutStore} {copy : Copy} {contract network : String}
    {layout : Layout} {touched : Place → Prop} {before after : Books}
    (holds : store.Holds copy contract network layout before.disk)
    (keeps : Books.Keeps touched before after)
    (same : after.disk.file? (store.place copy contract network) =
      before.disk.file? (store.place copy contract network)) :
    store.Holds copy contract network layout after.disk := by
  obtain ⟨now, followed, found⟩ := holds
  refine ⟨now, keeps.disk.follow followed, Disk.file?_eq_some_iff.1 ?_⟩
  rw [same]
  exact Disk.file?_eq_some_iff.2 found

namespace Gate

open UpgradeGate.Flow

variable {gate : Gate} {order : UpgradeOrder} {proxy : Address} {books after : Books}
  {trace : Trace collaborators} {contract network : String} {layout : Layout}

/-! ## What is appended -/

theorem isElsewhere_rawRecord [AddressRule] (proxy : Address) (network contract here : String)
    (address : Address) (now : Moment) :
    DeploymentLog.IsElsewhere proxy network (rawRecord contract here address now).row :=
  .inl nofun

/-- The rows of raw deployments name no proxy, so they stand elsewhere for each. -/
theorem isElsewhere_rawRows [AddressRule] {row : Row} {contract here : String} {now : Moment}
    (member : row ∈ rawRows contract here now trace) :
    DeploymentLog.IsElsewhere proxy network row := by
  obtain ⟨address, -, rfl⟩ := List.mem_map.1 member
  exact isElsewhere_rawRecord ..

/-- A completed upgrade appends two rows, if the log can be read afterwards. -/
theorem Installed.appends [AddressRule] {attempt : Attempt} {previous : Option DeploymentRecord}
    {admin : Option Address} {implementation : Address} {baseline candidate : Layout}
    (installed : Installed gate order books trace attempt after proxy previous admin
      implementation baseline candidate) :
    Books.Appends [(rawRecord order.contract order.network implementation books.now).row,
      (upgradeRecord order proxy previous admin implementation books.now).row] books after := by
  intro left readable
  obtain ⟨rows, before, apart, lost⟩ := installed.ledger
  by_cases touched : ∃ place ∈ books.log.place?,
      gate.store.Touches .baseline order.contract order.network place
  · exact absurd readable (lost touched left)
  · rw [apart fun place own inside => touched ⟨place, own, inside⟩] at readable
    cases readable
    exact ⟨rows, before, rfl⟩

/-- The deployment of a proxy appends its row, if the log can be read afterwards. -/
theorem ProxyDeployment.appends
    (deployment : ProxyDeployment gate contract network books trace proxy after) :
    ∃ implementation kind admin, Books.Appends
      [(proxyRecord contract network implementation proxy kind admin books.now).row] books
        after := by
  cases deployment with
  | @recorded implementation _ kind admin _ rows _ disk _ readable written =>
    refine ⟨implementation, kind, admin, fun left readableThen => ?_⟩
    have recorded := ledger_proxyBooks books contract network implementation proxy kind admin
    rw [readable, Except.map] at recorded
    by_cases touched : ∃ place ∈ (proxyBooks books contract network implementation proxy kind
        admin).log.place?, gate.store.Touches .baseline contract network place
    · obtain ⟨place, own, inside⟩ := touched
      have found := LogConnection.node?_of_rows own readableThen
      exact absurd found (LayoutStore.not_database_of_write written inside)
    · have kept := LogConnection.rows_keeps (LayoutStore.keeps_of_write written)
        (fun place own inside => touched ⟨place, own, inside⟩) recorded
      cases kept.symm.trans readableThen
      exact ⟨rows, readable, rfl⟩

/-- The deployment of a proxy touches the baseline of its contract and network, and no other place.
-/
theorem ProxyDeployment.keeps
    (deployment : ProxyDeployment gate contract network books trace proxy after) :
    Books.Keeps (gate.store.Touches .baseline contract network) books after := by
  cases deployment with
  | recorded _ _ written =>
    exact ((keeps_proxyBooks ..).mono fun _ => False.elim).trans
      (.ofDisk (LayoutStore.keeps_of_write written))

/-- The deployment of a proxy writes the layout that was compiled as the baseline of its
contract. -/
theorem ProxyDeployment.holds
    (deployment : ProxyDeployment gate contract network books trace proxy after) :
    ∃ layout, trace.filterMap compiled? = [layout] ∧ LayoutStore.Allowed contract network ∧
      gate.store.Holds .baseline contract network layout after.disk := by
  cases deployment with
  | recorded compiled _ written =>
    exact ⟨_, compiled, (LayoutStore.run_write_ok written).1, LayoutStore.holds_of_write written⟩

/-! ## Backing -/

/-- The log names a contract for a proxy, and the baseline of that contract holds a layout. -/
structure Backed (gate : Gate) (proxy : Address) (network contract : String) (layout : Layout)
    (books : Books) : Prop where
  names : books.Names proxy network contract
  allowed : LayoutStore.Allowed contract network
  holds : gate.store.Holds .baseline contract network layout books.disk
  valid : layout.Valid

/-- An order is one for a proxy on a network. -/
structure IsFor [AddressRule] (order : UpgradeOrder) (proxy : Address) (network : String) :
    Prop where
  parsed : Address.parse order.proxy = .ok proxy
  here : order.network = network

/-- **A run captures what backs its proxy**, and no other layout. -/
theorem Backed.captured [AddressRule] {result : Except Failure Attempt} {found : Layout}
    (backed : Backed gate proxy network contract layout books) (own : IsFor order proxy network)
    (run : Run gate order books trace result after)
    (captured : Captured gate order trace result found) : found = layout := by
  obtain ⟨parsed, rfl⟩ := own
  obtain ⟨owner, previous, parsed', latest, live⟩ := run.captures captured
  cases parsed.symm.trans parsed'
  obtain ⟨rows, readable⟩ := Books.ledger_of_latest? latest
  have named : previous.map DeploymentRecord.contract = some contract := by
    rw [Books.latest?, readable] at latest
    exact backed.names rows books.now previous readable latest
  rw [live?, liveName, named, Option.getD_some] at live
  cases read : gate.store.reading books.disk .baseline contract order.network with
  | error failure =>
    rw [read] at live
    cases live
  | ok there =>
    rw [read, backed.holds.eq_of_reading backed.valid read] at live
    cases live
    rfl

/-- What backs a proxy is read as the layout behind it, if all of its entries have types. -/
theorem Backed.live?_eq {previous : Option DeploymentRecord} (given : String)
    (backed : Backed gate proxy network contract layout books) (typed : layout.Typed)
    (named : previous.map DeploymentRecord.contract = some contract) :
    gate.live? books.disk given network previous = .ok layout := by
  have read := (backed.holds.reading_eq_iff backed.allowed backed.valid).2 typed
  rw [live?, liveName, named, Option.getD_some, read]
  rfl

/-- What backs a proxy does not depend on the time. -/
theorem Backed.at_time (backed : Backed gate proxy network contract layout books) (now : Moment) :
    Backed gate proxy network contract layout { books with now := now } :=
  ⟨backed.names, backed.allowed, backed.holds, backed.valid⟩

/-- A run that fails leaves a proxy with what backs it. -/
theorem Backed.of_error [AddressRule] {failure : Failure}
    (backed : Backed gate proxy network contract layout books)
    (run : Run gate order books trace (.error failure) after)
    (unhindered : Unhindered gate order books) :
    Backed gate proxy network contract layout after := by
  obtain ⟨ledger, -, -, keeps⟩ := run.of_error rfl unhindered
  exact ⟨backed.names.of_appends (.of_map ledger) fun _ => isElsewhere_rawRows, backed.allowed,
    backed.holds.of_books keeps (run.baseline_of_keeps keeps backed.allowed.2), backed.valid⟩

/-- A run without override keeps a proxy backed: it writes neither row nor baseline. -/
theorem Backed.of_plain [AddressRule] {attempt : Attempt}
    (backed : Backed gate proxy network contract layout books)
    (run : Run gate order books trace (.ok attempt) after) (plain : order.override = false)
    (unhindered : Unhindered gate order books) :
    Backed gate proxy network contract layout after := by
  have reports := run.reports plain
  exact ⟨backed.names.of_appends (.of_eq (reports.ledger_eq (unhindered.apart .scratch))) nofun,
    backed.allowed, backed.holds.of_books reports.keeps
      (run.baseline_of_keeps reports.keeps backed.allowed.2), backed.valid⟩

/-- **A completed upgrade** backs its proxy with the layout that was compiled for it. -/
theorem Installed.backed [AddressRule] {attempt : Attempt} {previous : Option DeploymentRecord}
    {admin : Option Address} {implementation : Address} {baseline candidate : Layout}
    (installed : Installed gate order books trace attempt after proxy previous admin
      implementation baseline candidate)
    (run : Run gate order books trace (.ok attempt) after) (valid : candidate.Valid) :
    Backed gate proxy order.network order.contract candidate after where
  names := by
    have appends := installed.appends
    rw [← List.singleton_append] at appends
    exact appends.names (rowOf_upgradeRecord ..) rfl rfl
  allowed := run.allowed
  holds := installed.holds
  valid := valid

/-- **The deployment of a proxy** backs it with the layout that was compiled for it. -/
theorem ProxyDeployment.backed [AddressRule] {layout : Layout}
    (deployment : ProxyDeployment gate contract network books trace proxy after)
    (compiled : layout ∈ trace.filterMap compiled?) (valid : layout.Valid) :
    Backed gate proxy network contract layout after := by
  obtain ⟨implementation, kind, admin, appends⟩ := deployment.appends
  obtain ⟨own, alone, allowed, holds⟩ := deployment.holds
  rw [alone, List.mem_singleton] at compiled
  cases compiled
  exact ⟨@Books.Appends.names _ _ _ _ [] _ _ _ appends (rowOf_proxyRecord ..) rfl rfl, allowed,
    holds, valid⟩

end Gate

end UpgradeGate
