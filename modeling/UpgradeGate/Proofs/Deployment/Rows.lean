import Mathlib.Data.List.Forall2
import UpgradeGate.Proofs.Deployment.RecordText

/-!
# Records and their rows

The log refuses a record exactly when one of its addresses is none, where an empty proxy address
counts as absent (`DeploymentLog.rowOf_eq_error_iff`). What is searched are columns, and what is
found are records; the two agree. Searching the rows of records by contract and network finds the
records with these, and searching by proxy finds those of the same account, however either is
spelled (`DeploymentLog.AreRows.history`, `DeploymentLog.AreRows.forProxy`).
-/

namespace UpgradeGate

namespace DeploymentRecord

/-- What must be addresses in a record, in the order in which they are checked. -/
def addressTexts (record : DeploymentRecord) : List String :=
  (record.proxy.filter (!·.isEmpty)).toList ++ [record.implementation]

/-- Why a record is refused: the first of its addresses that is none. -/
def refusal? [AddressRule] (record : DeploymentRecord) : Option Failure :=
  (record.addressTexts.find? fun text => (Address.ofText? text).isNone).map fun text =>
    .value (.invalidAddress text)

/-- A record has the contract and the network that are asked for. -/
def isOf (contract network : Option String) (record : DeploymentRecord) : Bool :=
  contract.all (· == record.contract) && network.all (· == record.network)

/-- A record belongs to the proxy with the account of a text. -/
def isAbout [AddressRule] (proxy : String) (record : DeploymentRecord) : Bool :=
  record.proxy.any fun own => !own.isEmpty && Address.sameAccount own proxy

end DeploymentRecord

namespace DeploymentLog

variable {now : Moment} {record : DeploymentRecord} {records : List DeploymentRecord} {row : Row}
  {rows : Ledger} {failure : Failure}

/-- A record is refused for its proxy, else for its implementation, else it gets a row. -/
theorem rowOf_eq_error_iff [AddressRule] :
    rowOf record = .error failure ↔ record.refusal? = some failure := by
  rw [rowOf, proxyColumn, DeploymentRecord.refusal?, DeploymentRecord.addressTexts]
  cases record.proxy.filter (!·.isEmpty) with
  | none =>
    cases own : Address.ofText? record.implementation <;>
      simp [Address.parse, own, bind, Except.bind, pure, Except.pure]
  | some proxy =>
    cases other : Address.ofText? proxy <;>
      cases own : Address.ofText? record.implementation <;>
        simp [Address.parse, other, own, bind, Except.bind, pure, Except.pure, Except.map]

/-- The columns of a row that was taken. -/
theorem columns_of_rowOf [AddressRule] (taken : rowOf record = .ok row) :
    row.contract = record.contract ∧ row.network = record.network ∧
      proxyColumn record.proxy = .ok row.proxy := by
  simp only [rowOf, bind, Except.bind, pure, Except.pure] at taken
  split at taken
  · cases taken
  next column =>
    split at taken
    · cases taken
    · cases taken
      exact ⟨rfl, rfl, column⟩

/-- The row of a record passes a filter where the record is meant by it. -/
theorem passes_of_rowOf [AddressRule] (taken : rowOf record = .ok row)
    (contract network : Option String) :
    (Filter.mk contract network none).passes row = record.isOf contract network := by
  obtain ⟨contract_eq, network_eq, -⟩ := columns_of_rowOf taken
  cases contract <;> cases network <;>
    simp [Filter.passes, DeploymentRecord.isOf, contract_eq, network_eq, BEq.comm]

/-- The column of a proxy holds the address that is searched for exactly when the record is about
the same account. -/
theorem passes_proxy_of_rowOf [AddressRule] (taken : rowOf record = .ok row) {proxy : String}
    {address : Address} (parsed : Address.ofText? proxy = some address) :
    (Filter.mk none none (some address.text)).passes row = record.isAbout proxy := by
  obtain ⟨-, -, column⟩ := columns_of_rowOf taken
  rw [proxyColumn] at column
  cases given : record.proxy with
  | none =>
    have absent : row.proxy = none := by
      simpa [given] using column.symm
    simp [Filter.passes, DeploymentRecord.isAbout, given, absent]
  | some own =>
    cases filled : own.isEmpty with
    | true =>
      have absent : row.proxy = none := by
        simpa [given, Option.filter, filled] using column.symm
      simp [Filter.passes, DeploymentRecord.isAbout, given, filled, absent]
    | false =>
      cases read : Address.ofText? own with
      | none => simp [given, Option.filter, filled, Address.parse, read, Except.map] at column
      | some other =>
        have there : row.proxy = some other.text := by
          simpa [given, Option.filter, filled, Address.parse, read, Except.map] using column.symm
        have same : (other.text == address.text) = (other == address) := by
          rw [Bool.eq_iff_iff, beq_iff_eq, beq_iff_eq, Address.text_inj]
        simp [Filter.passes, DeploymentRecord.isAbout, given, filled, there, Address.sameAccount,
          read, parsed, same]

/-- Some rows are those of some records, in order. -/
abbrev AreRows [AddressRule] (records : List DeploymentRecord) (rows : Ledger) : Prop :=
  List.Forall₂ (fun record row => rowOf record = .ok row) records rows

/-- The records of the rows that a filter selects. -/
theorem recordsOf_select (now : Moment) (rows : Ledger) (filter : Filter) :
    recordsOf now (rows.select filter) = (rows.filter filter.passes).mapM (recordOf now) := by
  rw [← Ledger.map_snd_select, List.mapM_map]
  rfl

namespace AreRows

/-- A record and its row are added together. -/
theorem concat [AddressRule] (areRows : AreRows records rows) (taken : rowOf record = .ok row) :
    AreRows (records ++ [record]) (rows ++ [row]) :=
  List.rel_append areRows (.cons taken .nil)

/-- Rows are those of one list of records only. -/
theorem unique [AddressRule] {records' : List DeploymentRecord} (areRows : AreRows records rows)
    (areRows' : AreRows records' rows) : records = records' := by
  induction areRows generalizing records' with
  | nil =>
    cases areRows'
    rfl
  | cons taken _ ih =>
    cases areRows' with
    | cons taken' rest' =>
      have same := (recordOf_of_rowOf taken).symm.trans (@recordOf_of_rowOf 0 _ _ _ taken')
      rw [Except.ok.inj same, ih rest']

/-- Where a filter of rows and one of records agree, they find the same. -/
theorem mapM_filter [AddressRule] (areRows : AreRows records rows) {passes : Row → Bool}
    {keeps : DeploymentRecord → Bool}
    (agree : ∀ record row, rowOf record = .ok row → passes row = keeps record) :
    (rows.filter passes).mapM (recordOf now) = .ok (records.filter keeps) := by
  induction areRows with
  | nil => rfl
  | @cons record row records rows taken _ ih =>
    rw [List.filter_cons, List.filter_cons, agree record row taken]
    cases keeps record with
    | false => exact ih
    | true =>
      rw [if_pos rfl, if_pos rfl, List.mapM_cons, recordOf_of_rowOf taken, ih]
      rfl

/-- **Searching by contract and network.** -/
theorem history [AddressRule] (areRows : AreRows records rows) (now : Moment)
    (contract network : Option String) :
    DeploymentLog.history now rows contract network =
      .ok (records.filter (·.isOf contract network)) := by
  rw [DeploymentLog.history, recordsOf_select]
  exact areRows.mapM_filter fun _ _ taken => passes_of_rowOf taken contract network

/-- **Searching by proxy.** -/
theorem forProxy [AddressRule] (areRows : AreRows records rows) (now : Moment) {proxy : String}
    {address : Address} (parsed : Address.ofText? proxy = some address) :
    DeploymentLog.forProxy now rows address = .ok (records.filter (·.isAbout proxy)) := by
  rw [DeploymentLog.forProxy, recordsOf_select]
  exact areRows.mapM_filter fun _ _ taken => passes_proxy_of_rowOf taken parsed

end AreRows

end DeploymentLog

end UpgradeGate
