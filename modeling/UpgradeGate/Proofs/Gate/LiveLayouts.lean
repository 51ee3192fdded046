import Mathlib.Logic.Relation
import UpgradeGate.Proofs.Gate.NetworkIsolation
import UpgradeGate.Proofs.Gate.Verdicts
import UpgradeGate.Proofs.Workflow.Backing

/-!
# Which layout is behind a proxy

A run captures the baseline of the contract that the log last named for its proxy on its network,
else the baseline of its own contract, else the empty layout of that (`Gate.Resolves`). Nothing else
in the log matters: a log may be retold with other records in between, without the older records of
the proxy, and with other times, and a run captures the same layout (`Gate.live_layout_captured`).
-/

namespace UpgradeGate

variable {proxy : Address} {network : String} {record : DeploymentRecord}
  {records records' : List DeploymentRecord} {books books' after : Books}

/-! ## The last record of a proxy -/

namespace DeploymentRecord

/-- A record is one of a proxy on a network: its proxy address names the account, in any
spelling. -/
def isOn [AddressRule] (proxy : Address) (network : String) (record : DeploymentRecord) : Bool :=
  record.proxy.bind Address.ofText? == some proxy && record.network == network

/-- The record of a contract that stands alone is one of no proxy. -/
theorem isOn_of_alone [AddressRule] (alone : record.proxy = none) :
    record.isOn proxy network = false := by
  simp [isOn, alone]

/-- The record of a deployed proxy is one of that proxy on its network. -/
theorem isOn_proxyRecord [AddressRule] (contract network : String) (implementation proxy : Address)
    (kind : ProxyKind) (admin : Option String) (now : Moment) :
    (Gate.proxyRecord contract network implementation proxy kind admin now).isOn proxy network =
      true := by
  simp [isOn, Gate.proxyRecord]

/-- A record of a proxy on a network is about the proxy and of the network. -/
theorem isOn_eq [AddressRule] (proxy : Address) (network : String) (record : DeploymentRecord) :
    record.isOn proxy network = (record.isAbout proxy.text && record.network == network) := by
  rw [isOn, isAbout]
  congr 1
  cases record.proxy with
  | none => rfl
  | some own =>
    cases named : Address.ofText? own with
    | none => simp [named, Address.sameAccount]
    | some other =>
      have filled : own.isEmpty = false := by
        rw [Bool.eq_false_iff, Ne, String.isEmpty_iff]
        rintro rfl
        cases Address.ofText?_empty.symm.trans named
      simp [named, Address.sameAccount, filled]

end DeploymentRecord

namespace DeploymentLog

/-- A record was appended last among those of a proxy on a network. -/
def IsLast [AddressRule] (proxy : Address) (network : String) (records : List DeploymentRecord)
    (record : DeploymentRecord) : Prop :=
  ∃ before after, records = before ++ record :: after ∧ record.isOn proxy network = true ∧
    ∀ later ∈ after, later.isOn proxy network = false

/-- The last record of a proxy on a network. -/
def last? [AddressRule] (proxy : Address) (network : String) (records : List DeploymentRecord) :
    Option DeploymentRecord :=
  (records.filter (·.isOn proxy network)).getLast?

/-- The last record, by the records behind it. -/
theorem last?_eq_some_iff [AddressRule] :
    last? proxy network records = some record ↔ IsLast proxy network records record := by
  rw [last?, List.getLast?_eq_head?_reverse, ← List.filter_reverse, List.head?_filter,
    List.find?_eq_some_iff_append]
  constructor
  · intro found
    obtain ⟨own, later, earlier, split, others⟩ := found
    refine ⟨earlier.reverse, later.reverse, ?_, own, fun record member => ?_⟩
    · rw [List.reverse_eq_iff.1 split]
      simp
    · simpa using others record (List.mem_reverse.1 member)
  · intro last
    obtain ⟨earlier, later, rfl, own, others⟩ := last
    refine ⟨own, later.reverse, earlier.reverse, by simp, fun record member => ?_⟩
    simpa using others record (List.mem_reverse.1 member)

/-- **A log is retold**, as far as a proxy on a network is concerned: with one more record that is
not of the proxy there, or that comes before another one of it, or with another time of a record. -/
inductive Retold [AddressRule] (proxy : Address) (network : String) :
    List DeploymentRecord → List DeploymentRecord → Prop where
  | unrelated (before after : List DeploymentRecord) {record : DeploymentRecord}
      (other : record.isOn proxy network = false) :
      Retold proxy network (before ++ after) (before ++ record :: after)
  | older (before after : List DeploymentRecord) (record : DeploymentRecord)
      {later : DeploymentRecord} (newer : later ∈ after) (own : later.isOn proxy network = true) :
      Retold proxy network (before ++ after) (before ++ record :: after)
  | retimed (before after : List DeploymentRecord) (record : DeploymentRecord) (time : String) :
      Retold proxy network (before ++ record :: after)
        (before ++ { record with timestamp := time } :: after)

/-- However a log is retold, the contract that is last named for the proxy is the same. -/
theorem Retold.map_last? [AddressRule] (retold : Retold proxy network records records') :
    (last? proxy network records).map DeploymentRecord.contract =
      (last? proxy network records').map DeploymentRecord.contract := by
  cases retold with
  | unrelated before after other =>
    rw [last?, last?, List.filter_append, List.filter_append,
      List.filter_cons_of_neg (by simp [other])]
  | older before after record newer own =>
    have rest : after.filter (·.isOn proxy network) ≠ [] :=
      List.ne_nil_of_mem (List.mem_filter.2 ⟨newer, own⟩)
    rw [last?, last?, List.filter_append, List.filter_append, List.getLast?_append_of_ne_nil _ rest,
      List.getLast?_append_of_ne_nil]
    · rw [List.filter_cons]
      split
      · rw [← List.singleton_append, List.getLast?_append_of_ne_nil _ rest]
      · rfl
    · rw [List.filter_cons]
      split
      · exact List.cons_ne_nil _ _
      · exact rest
  | retimed before after record time =>
    have same : ({ record with timestamp := time } : DeploymentRecord).isOn proxy network =
        record.isOn proxy network := rfl
    rw [last?, last?, ← List.getLast?_map, ← List.getLast?_map, List.filter_append,
      List.filter_append, List.filter_cons, List.filter_cons, same, List.map_append,
      List.map_append]
    split <;> rfl

/-- However often a log is told otherwise, the contract behind the proxy is the same. -/
theorem map_last?_of_eqvGen [AddressRule]
    (retold : Relation.EqvGen (Retold proxy network) records records') :
    (last? proxy network records).map DeploymentRecord.contract =
      (last? proxy network records').map DeploymentRecord.contract := by
  induction retold with
  | rel _ _ retold => exact retold.map_last?
  | refl => rfl
  | symm _ _ _ ih => exact ih.symm
  | trans _ _ _ _ _ first second => exact first.trans second

end DeploymentLog

/-- The latest record in a log is the last of its records. -/
theorem Books.Logged.latest?_eq [AddressRule] (logged : books.Logged records) (proxy : Address)
    (network : String) :
    books.latest? proxy network = .ok (DeploymentLog.last? proxy network records) := by
  obtain ⟨rows, readable, areRows⟩ := logged
  have both : (fun record : DeploymentRecord => record.isOn proxy network) =
      fun record => record.network == network && record.isAbout proxy.text := by
    funext record
    rw [DeploymentRecord.isOn_eq, Bool.and_comm]
  rw [Books.latest?, readable]
  change DeploymentLog.latest? books.now rows proxy network = _
  rw [DeploymentLog.latest?, areRows.forProxy books.now (Address.ofText?_text proxy),
    DeploymentLog.last?, both, ← List.filter_filter]
  rfl

namespace Gate

open UpgradeGate.Flow DeploymentLog

variable {gate : Gate} {order : UpgradeOrder} {trace : Trace collaborators} {disk : Disk}
  {contract : String} {found layout : Layout} {previous : Option DeploymentRecord}

/-! ## The layout behind it -/

/-- **The layout behind a proxy**, by the records of the log and the baselines of the store. -/
inductive Resolves [AddressRule] (gate : Gate) (proxy : Address) (contract network : String)
    (records : List DeploymentRecord) (disk : Disk) : Layout → Prop where
  /-- The baseline of the contract that the last record of the proxy names. -/
  | live {record : DeploymentRecord} {layout : Layout} (last : IsLast proxy network records record)
      (stored : gate.store.reading disk .baseline record.contract network = .ok (some layout)) :
      Resolves gate proxy contract network records disk layout
  /-- Else the baseline of the new contract. -/
  | own {layout : Layout}
      (missing : ∀ record, IsLast proxy network records record →
        gate.store.reading disk .baseline record.contract network = .ok none)
      (stored : gate.store.reading disk .baseline contract network = .ok (some layout)) :
      Resolves gate proxy contract network records disk layout
  /-- Else no layout at all. -/
  | unknown
      (missing : ∀ record, IsLast proxy network records record →
        gate.store.reading disk .baseline record.contract network = .ok none)
      (absent : gate.store.reading disk .baseline contract network = .ok none) :
      Resolves gate proxy contract network records disk (Layout.empty (some contract))

/-- Where the contract behind the proxy has no baseline, the new contract's own one is resolved. -/
theorem resolves_of_missing [AddressRule]
    (missing : ∀ record, IsLast proxy network records record →
      gate.store.reading disk .baseline record.contract network = .ok none)
    (resolved : (gate.store.reading disk .baseline contract network).map
      (·.getD (Layout.empty (some contract))) = .ok layout) :
    Resolves gate proxy contract network records disk layout := by
  cases own : gate.store.reading disk .baseline contract network with
  | error failure =>
    rw [own] at resolved
    cases resolved
  | ok found =>
    rw [own] at resolved
    cases resolved
    cases found with
    | some layout => exact .own missing own
    | none => exact .unknown missing own

/-- A layout that is stored under the live name is live. -/
theorem live?_of_stored
    (stored : gate.store.reading disk .baseline (liveName contract previous) network =
      .ok (some layout)) :
    gate.live? disk contract network previous = .ok layout := by
  rw [live?, stored]
  rfl

/-- Where the contract behind the proxy has no baseline, the new contract's own one is taken. -/
theorem live?_of_missing
    (missing : gate.store.reading disk .baseline (liveName contract previous) network = .ok none) :
    gate.live? disk contract network previous =
      (gate.store.reading disk .baseline contract network).map
        (·.getD (Layout.empty (some contract))) := by
  rw [live?, missing]
  change (if liveName contract previous = contract then _ else _) = _
  split
  · next same =>
    rw [same] at missing
    rw [missing]
    rfl
  · cases gate.store.reading disk .baseline contract network <;> rfl

/-- Behind a proxy that is not recorded is the new contract's own baseline. -/
theorem live?_none : gate.live? disk contract network none =
    (gate.store.reading disk .baseline contract network).map
      (·.getD (Layout.empty (some contract))) := by
  have unnamed : liveName contract none = contract := rfl
  rw [live?, unnamed, if_pos rfl]
  cases gate.store.reading disk .baseline contract network with
  | error failure => rfl
  | ok found => cases found <;> rfl

/-- The live name is that of the last record's contract. -/
theorem liveName_of_isLast [AddressRule] (last : IsLast proxy network records record) :
    liveName contract (last? proxy network records) = record.contract := by
  rw [last?_eq_some_iff.2 last]
  rfl

/-- Where the last record's contract has no baseline, the new contract's own one is live. -/
theorem live?_last?_of_missing [AddressRule]
    (missing : ∀ record, IsLast proxy network records record →
      gate.store.reading disk .baseline record.contract network = .ok none) :
    gate.live? disk contract network (last? proxy network records) =
      (gate.store.reading disk .baseline contract network).map
        (·.getD (Layout.empty (some contract))) := by
  rcases Option.eq_none_or_eq_some (last? proxy network records) with unknown | ⟨record, found⟩
  · rw [unknown]
    exact live?_none
  · have last := last?_eq_some_iff.1 found
    refine live?_of_missing ?_
    rw [liveName_of_isLast last]
    exact missing record last

/-- A layout is found behind the proxy exactly when the records and the baselines resolve to it. -/
theorem live?_last?_eq_ok_iff [AddressRule] :
    gate.live? disk contract network (last? proxy network records) = .ok layout ↔
      Resolves gate proxy contract network records disk layout := by
  constructor
  · intro live
    rcases Option.eq_none_or_eq_some (last? proxy network records) with unknown | ⟨record, found⟩
    · have missing (record : DeploymentRecord) (last : IsLast proxy network records record) :
          gate.store.reading disk .baseline record.contract network = .ok none := by
        cases unknown.symm.trans (last?_eq_some_iff.2 last)
      rw [unknown, live?_none] at live
      exact resolves_of_missing missing live
    · have last := last?_eq_some_iff.1 found
      cases read : gate.store.reading disk .baseline record.contract network with
      | error failure =>
        rw [live?, liveName_of_isLast last, read] at live
        cases live
      | ok stored =>
        cases stored with
        | some stored =>
          rw [← liveName_of_isLast last] at read
          cases (live?_of_stored read).symm.trans live
          rw [liveName_of_isLast last] at read
          exact .live last read
        | none =>
          have missing (other : DeploymentRecord) (same : IsLast proxy network records other) :
              gate.store.reading disk .baseline other.contract network = .ok none := by
            cases found.symm.trans (last?_eq_some_iff.2 same)
            exact read
          rw [live?_last?_of_missing missing] at live
          exact resolves_of_missing missing live
  · intro resolves
    cases resolves with
    | live last stored =>
      rw [← liveName_of_isLast last] at stored
      exact live?_of_stored stored
    | own missing stored =>
      rw [live?_last?_of_missing missing, stored]
      rfl
    | unknown missing absent =>
      rw [live?_last?_of_missing missing, absent]
      rfl

/-- The layout behind a proxy depends on the store only by the baselines of the network. -/
theorem live?_congr_reading {disk disk' : Disk}
    (same : ∀ contract, gate.store.reading disk .baseline contract network =
      gate.store.reading disk' .baseline contract network) :
    gate.live? disk contract network previous = gate.live? disk' contract network previous := by
  rw [live?, live?, same, same]

/-- **The layout behind a proxy** is what a run for it captures: the one that the records of the log
and the baselines of the store resolve to. It is the same for a run for the same upgrade on a log
that is retold, whatever else is different, if the baselines of the network are the same. -/
theorem live_layout_captured [AddressRule] {result : Except Failure Attempt}
    (logged : books.Logged records) (own : IsFor order proxy network)
    (ended : (gate.run order).Ends books trace result after)
    (captured : Captured gate order trace result found) :
    (∀ layout, Resolves gate proxy order.contract network records books.disk layout ↔
      layout = found) ∧
    ∀ order' records' books' trace' result' after' found', IsFor order' proxy network →
      order'.contract = order.contract →
      Relation.EqvGen (Retold proxy network) records records' → books'.Logged records' →
      (∀ contract, gate.store.reading books'.disk .baseline contract network =
        gate.store.reading books.disk .baseline contract network) →
      (gate.run order').Ends books' trace' result' after' →
      Captured gate order' trace' result' found' → found' = found := by
  have resolved {order : UpgradeOrder} {records : List DeploymentRecord} {books after : Books}
      {trace : Trace collaborators} {result : Except Failure Attempt} {found : Layout}
      (logged : books.Logged records) (own : IsFor order proxy network)
      (ended : (gate.run order).Ends books trace result after)
      (captured : Captured gate order trace result found) :
      gate.live? books.disk order.contract network (last? proxy network records) = .ok found := by
    obtain ⟨owner, previous, parsed, latest, live⟩ := (ends_run.1 ended).captures captured
    cases own.parsed.symm.trans parsed
    rw [own.here] at latest live
    cases latest.symm.trans (logged.latest?_eq proxy network)
    exact live
  have live := resolved logged own ended captured
  refine ⟨fun layout => ?_, ?_⟩
  · rw [← live?_last?_eq_ok_iff, live, Except.ok.injEq, eq_comm]
  · intro order' records' books' trace' result' after' found' own' contract retold logged' readings
      ended' captured'
    have live' := resolved logged' own' ended' captured'
    rw [contract, live?_congr_reading readings, ← live?_congr (map_last?_of_eqvGen retold)] at live'
    exact Except.ok.inj (live'.symm.trans live)

/-- Two runs on the prepared workspace, where a proxy was deployed: the log of the second one has a
record of a contract that stands alone after that of the proxy. -/
theorem live_layout_captured_prepared :
    ∃ (records : List DeploymentRecord) (alone : DeploymentRecord)
      (books books' after after' : Books) (trace trace' : Trace collaborators)
      (attempt attempt' : Attempt),
      books.Logged records ∧ books'.Logged (records ++ [alone]) ∧
      IsFor .prepared Address.preparedProxy "anvil" ∧
      (prepared.run .prepared).Ends books trace (.ok attempt) after ∧
      (prepared.run .prepared).Ends books' trace' (.ok attempt') after' ∧
      attempt.baseline = some .prepared ∧ attempt'.baseline = some .prepared := by
  obtain ⟨_, books, deployed, compiled, ready⟩ := exists_deployProxy_of_isPrepared
    Books.isPrepared_prepared Address.preparedSender Address.preparedProxy .prepared
  let record :=
    proxyRecord "Token" "anvil" Address.preparedSender Address.preparedProxy .uups none 0
  let alone := rawRecord "Token" "anvil" Address.preparedSender 0
  have taken : DeploymentLog.rowOf record = .ok record.row := rowOf_proxyRecord ..
  have takenAlone : DeploymentLog.rowOf alone = .ok alone.row := rowOf_rawRecord ..
  have logged : books.Logged [record] := ⟨_, ready.ledger, .cons taken .nil⟩
  have backed := (proxyDeployment_of_ends rfl deployed).backed compiled Layout.valid_prepared
  have typed : Layout.prepared.Typed := by
    intro entry member
    cases List.mem_singleton.1 member
    decide
  have stored := (backed.holds.reading_eq_iff backed.allowed backed.valid).2 typed
  have live : prepared.live? books.disk "Token" "anvil" (some record) = .ok .prepared :=
    live?_of_stored stored
  have latest := @DeploymentLog.latest?_append_own books.now [] _ _ _ "anvil" _ taken rfl rfl
  obtain ⟨trace, attempt, after, ended, -⟩ := exists_run_of_isPrepared ready latest rfl nofun live
    Layout.valid_prepared typed .prepared
  -- The second log, on the same disk.
  let books' : Books := { books with log := .memory [record.row, alone.row] }
  have ready' : books'.IsPrepared [record.row, alone.row] := ⟨ready.writable, rfl⟩
  have logged' : books'.Logged ([record] ++ [alone]) :=
    ⟨_, ready'.ledger, .cons taken (.cons takenAlone .nil)⟩
  have latest' : DeploymentLog.latest? books.now [record.row, alone.row] Address.preparedProxy
      "anvil" = .ok (some record) :=
    (DeploymentLog.latest?_append_other (isElsewhere_rawRecord ..)).trans latest
  obtain ⟨trace', attempt', after', ended', -⟩ := exists_run_of_isPrepared ready' latest' rfl nofun
    live Layout.valid_prepared typed .prepared
  have own : IsFor .prepared Address.preparedProxy "anvil" := ⟨Address.parse_preparedProxy, rfl⟩
  obtain ⟨_, _, _, _, found, _, installed⟩ := (ends_run.1 ended).of_override rfl rfl
  obtain ⟨_, _, _, _, found', _, installed'⟩ := (ends_run.1 ended').of_override rfl rfl
  obtain ⟨resolves, same⟩ :=
    live_layout_captured logged own ended (.inr ⟨_, rfl, installed.captured⟩)
  have about : record.isOn Address.preparedProxy "anvil" = true :=
    DeploymentRecord.isOn_proxyRecord ..
  have first : Layout.prepared = found :=
    (resolves .prepared).1 (.live ⟨[], [], rfl, about, nofun⟩ stored)
  have second : found' = found := same _ _ _ _ _ _ _ own rfl
    (.rel _ _ (.unrelated [record] [] (DeploymentRecord.isOn_of_alone rfl))) logged' (fun _ => rfl)
    ended' (.inr ⟨_, rfl, installed'.captured⟩)
  exact ⟨[record], alone, books, books', after, after', trace, trace', attempt, attempt', logged,
    logged', own, ended, ended', installed.captured.trans (congrArg some first.symm),
    installed'.captured.trans (congrArg some (second.trans first.symm))⟩

end Gate

end UpgradeGate
