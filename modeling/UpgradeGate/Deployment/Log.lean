import UpgradeGate.Chain.Creation
import UpgradeGate.Deployment.Record
import UpgradeGate.Disk.Basic

/-!
# The deployment log

Every deployment and every completed upgrade is appended to the log, which keeps it for good. A log
lives in memory or in a file, and can be closed. Addresses are normalised in the columns that are
searched; the record itself is kept as it was given.
-/

namespace UpgradeGate

/-- Where a log is kept. -/
inductive LogConnection where
  | memory (rows : Ledger)
  | file (path : Path)
  | closed
  deriving Inhabited

namespace LogConnection

/-- The rows of a log. -/
def rows (connection : LogConnection) (disk : Disk) : Except Failure Ledger :=
  match connection with
  | .memory rows => .ok rows
  | .closed => .error (.plain .closedLog)
  | .file path =>
    match disk.look path with
    | .ok (some (.database rows)) => .ok rows
    | .ok (some (.file _)) => .error (.plain .notADatabase)
    | _ => .error (.plain .unopenable)

/-- A log, and the disk, with other rows. -/
def withRows (connection : LogConnection) (disk : Disk) (rows : Ledger) : LogConnection × Disk :=
  match connection with
  | .memory _ => (.memory rows, disk)
  | .closed => (.closed, disk)
  | .file path =>
    match disk.follow [] path with
    | .ok place => (connection, disk.put place (.database rows))
    | .error _ => (connection, disk)

/-- Open a log. The name `:memory:` and the empty name mean a new log in memory; any other name is
that of a file, which is made where it is not there. -/
def connect (name : String) : DiskTask LogConnection := do
  if name = ":memory:" || name.isEmpty then pure (.memory [])
  else
    let path := Path.ofText name
    match (← get).follow [] path with
    | .error _ => DiskTask.fail .unopenable
    | .ok place =>
      match (← get).node? place with
      | some (.database _) => pure ()
      | some .folder => DiskTask.fail .unopenable
      | some (.file content) =>
        if content.isEmpty then modify (·.put place (.database []))
        else DiskTask.fail .notADatabase
      | none => modify (·.put place (.database []))
      pure (.file path)

end LogConnection

namespace DeploymentLog

/-- A proxy address as it is searched for; none where it is absent or empty. -/
def proxyColumn [AddressRule] (proxy : Option String) : Except Failure (Option String) :=
  match proxy.filter (!·.isEmpty) with
  | some proxy => (Address.parse proxy).map fun address => some address.text
  | none => .ok none

/-- The row of a record: its addresses normalised for searching, and its text. -/
def rowOf [AddressRule] (record : DeploymentRecord) : Except Failure Row := do
  let proxy ← proxyColumn record.proxy
  let implementation ← Address.parse record.implementation
  pure ⟨record.contract, record.network, proxy, implementation.text, record.text⟩

/-- The records in the data of rows. A record without a time gets the current one. -/
def recordsOf (now : Moment) (rows : List (Nat × Row)) :
    Except Failure (List DeploymentRecord) :=
  rows.mapM fun (_, row) => (DeploymentRecord.ofText now row.data).required .deploymentRecord

/-- The records of a contract, of a network, of both, or all. -/
def history (now : Moment) (rows : Ledger) (contract network : Option String) :
    Except Failure (List DeploymentRecord) :=
  recordsOf now (rows.select ⟨contract, network, none⟩)

/-- The records of a proxy. -/
def forProxy (now : Moment) (rows : Ledger) (proxy : Address) :
    Except Failure (List DeploymentRecord) :=
  recordsOf now (rows.select ⟨none, none, some proxy.text⟩)

end DeploymentLog

end UpgradeGate
