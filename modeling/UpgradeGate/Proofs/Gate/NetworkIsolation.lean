import UpgradeGate.Proofs.Deployment.Rows
import UpgradeGate.Proofs.Layout.NetworkFolder
import UpgradeGate.Proofs.Workflow.Appending
import UpgradeGate.Proofs.Workflow.Completion
import UpgradeGate.Proofs.Workflow.Lockstep

/-!
# Networks apart

All networks share one log and one folder of layouts. Still a call about one network neither learns
of another nor changes anything of it (`Gate.networks_isolated`). For two workspaces that agree on a
network (`Gate.Agree`), whatever else they hold, a call about that network puts the same questions
and has the same answer; and every other network is left as it was. So among calls that are made one
after the other, those about other networks might as well be left out
(`Gate.Course.without_others`).
-/

namespace UpgradeGate

open UpgradeGate.Flow

/-! ## Records of a network -/

namespace Books

variable {books books' after : Books} {network other : String}
  {records : List DeploymentRecord} {record : DeploymentRecord} {row : Row}

/-- The log can be read, and its rows are those of some records. -/
def Logged [AddressRule] (records : List DeploymentRecord) (books : Books) : Prop :=
  ∃ rows, books.ledger = .ok rows ∧ DeploymentLog.AreRows records rows

/-- **The same records of a network** are in two logs, in the same order; or both are closed. -/
def SameRecords [AddressRule] (network : String) (books books' : Books) : Prop :=
  (books.log = .closed ∧ books'.log = .closed) ∨ ∃ records records',
    books.Logged records ∧ books'.Logged records' ∧
      records.filter (·.network == network) = records'.filter (·.network == network)

/-- The log is closed, or its rows are those of some records. -/
def IsLogged [AddressRule] (books : Books) : Prop :=
  books.log = .closed ∨ ∃ records, books.Logged records

/-- A closed log has no ledger. -/
theorem ledger_of_closed (closed : books.log = .closed) :
    books.ledger = .error (.plain .closedLog) := by
  rw [ledger, closed]
  rfl

/-- Nothing is recorded in a closed log. -/
theorem recorded_of_closed (closed : books.log = .closed) (row : Row) :
    books.recorded row = books := by
  rw [recorded, ledger_of_closed closed]

/-- A record that is taken comes behind the others. -/
theorem Logged.recorded [AddressRule] (logged : Logged records books)
    (taken : DeploymentLog.rowOf record = .ok row) :
    Logged (records ++ [record]) (books.recorded row) := by
  obtain ⟨rows, readable, areRows⟩ := logged
  refine ⟨rows ++ [row], ?_, areRows.concat taken⟩
  rw [ledger_recorded, readable]
  rfl

/-- A log has the rows of one list of records only. -/
theorem Logged.unique [AddressRule] {records' : List DeploymentRecord}
    (logged : Logged records books) (logged' : Logged records' books) : records = records' := by
  obtain ⟨rows, readable, areRows⟩ := logged
  obtain ⟨rows', readable', areRows'⟩ := logged'
  cases readable.symm.trans readable'
  exact areRows.unique areRows'

/-- A log with records is not closed. -/
theorem Logged.not_closed [AddressRule] (logged : Logged records books) : books.log ≠ .closed := by
  obtain ⟨rows, readable, -⟩ := logged
  intro closed
  cases readable.symm.trans (ledger_of_closed closed)

/-- A log has the records that it has. -/
theorem SameRecords.refl [AddressRule] (logged : books.IsLogged) (network : String) :
    SameRecords network books books := by
  rcases logged with closed | ⟨records, logged⟩
  · exact .inl ⟨closed, closed⟩
  · exact .inr ⟨records, records, logged, logged, rfl⟩

/-- A log of records stays one when a record is taken. -/
theorem IsLogged.recorded [AddressRule] (logged : books.IsLogged)
    (taken : DeploymentLog.rowOf record = .ok row) : (books.recorded row).IsLogged := by
  rcases logged with closed | ⟨records, logged⟩
  · rw [recorded_of_closed closed]
    exact .inl closed
  · exact .inr ⟨_, logged.recorded taken⟩

/-- Having the same records goes both ways. -/
theorem SameRecords.symm [AddressRule] (same : SameRecords network books books') :
    SameRecords network books' books := by
  rcases same with ⟨closed, closed'⟩ | ⟨records, records', logged, logged', alike⟩
  · exact .inl ⟨closed', closed⟩
  · exact .inr ⟨records', records, logged', logged, alike.symm⟩

/-- A log with the records of another is a log of records. -/
theorem SameRecords.isLogged [AddressRule] (same : SameRecords network books books') :
    books'.IsLogged := by
  rcases same with ⟨-, closed⟩ | ⟨_, records, -, logged, -⟩
  · exact .inl closed
  · exact .inr ⟨records, logged⟩

/-- Having the same records can be put together. -/
theorem SameRecords.trans [AddressRule] {middle : Books} (first : SameRecords network books middle)
    (second : SameRecords network middle after) : SameRecords network books after := by
  rcases first with ⟨closed, closed'⟩ | ⟨records, here, logged, logged', alike⟩
  · rcases second with ⟨-, closed⟩ | ⟨_, _, logged, -⟩
    · exact .inl ⟨by assumption, closed⟩
    · exact absurd closed' logged.not_closed
  · rcases second with ⟨closed, -⟩ | ⟨there, last, again, logged'', alike'⟩
    · exact absurd closed logged'.not_closed
    · obtain rfl := logged'.unique again
      exact .inr ⟨_, _, logged, logged'', alike.trans alike'⟩

/-- A log that can be read is not within the part of a network that is in order. -/
theorem Logged.not_within [AddressRule] {store : LayoutStore} (logged : Logged records books)
    (orderly : store.Orderly network books.disk) :
    ∀ place ∈ books.log.place?, ¬ store.Within network place := by
  obtain ⟨rows, readable, -⟩ := logged
  exact fun place own => orderly.not_within (LogConnection.node?_of_rows own readable)

/-- Work that is confined to the part of a network keeps the records. -/
theorem Logged.confined [AddressRule] {store : LayoutStore} {disk : Disk}
    (logged : Logged records books) (orderly : store.Orderly network books.disk)
    (confined : store.Confined network books.disk disk) :
    Logged records { books with disk := disk } := by
  have apart := logged.not_within orderly
  obtain ⟨rows, readable, areRows⟩ := logged
  exact ⟨rows, LogConnection.rows_keeps confined.keeps apart readable, areRows⟩

namespace SameRecords

variable [AddressRule] (same : SameRecords network books books')
include same

/-- Both logs can be read, or neither. -/
theorem readable_eq : books.ledger.map (fun _ => ()) = books'.ledger.map (fun _ => ()) := by
  rcases same with ⟨closed, closed'⟩ | ⟨_, _, ⟨_, readable, -⟩, ⟨_, readable', -⟩, -⟩
  · rw [ledger_of_closed closed, ledger_of_closed closed']
  · rw [readable, readable']
    rfl

/-- Logs with the same records have the same history. -/
theorem history_eq (now : Moment) (contract : Option String) :
    (books.ledger >>= fun rows => DeploymentLog.history now rows contract (some network)) =
      books'.ledger >>= fun rows => DeploymentLog.history now rows contract (some network) := by
  rcases same with ⟨closed, closed'⟩ |
    ⟨records, records', ⟨rows, readable, areRows⟩, ⟨rows', readable', areRows'⟩, alike⟩
  · rw [ledger_of_closed closed, ledger_of_closed closed']
  · have split (records : List DeploymentRecord) :
        records.filter (·.isOf contract (some network)) =
          (records.filter (·.network == network)).filter (·.isOf contract none) := by
      rw [List.filter_filter]
      refine List.filter_congr fun record _ => ?_
      simp [DeploymentRecord.isOf, BEq.comm]
    rw [readable, readable']
    change DeploymentLog.history now rows contract (some network) =
      DeploymentLog.history now rows' contract (some network)
    rw [areRows.history, areRows'.history, split, split, alike]

/-- Logs with the same records have the same latest record of every proxy. -/
theorem latest?_eq (proxy : Address) :
    books.latest? proxy network = books'.latest? proxy network := by
  rcases same with ⟨closed, closed'⟩ |
    ⟨records, records', ⟨rows, readable, areRows⟩, ⟨rows', readable', areRows'⟩, alike⟩
  · simp only [Books.latest?, ledger_of_closed closed, ledger_of_closed closed', Except.bind]
  · have parsed : Address.ofText? proxy.text = some proxy := Address.ofText?_text proxy
    have swap (records : List DeploymentRecord) :
        (records.filter (·.isAbout proxy.text)).filter (·.network == network) =
          (records.filter (·.network == network)).filter (·.isAbout proxy.text) := by
      rw [List.filter_filter, List.filter_filter]
      exact List.filter_congr fun record _ => Bool.and_comm ..
    rw [Books.latest?, Books.latest?, readable, readable', Except.bind, Except.bind,
      DeploymentLog.latest?, DeploymentLog.latest?, areRows.forProxy _ parsed,
      areRows'.forProxy _ parsed]
    simp only [Except.map, swap, alike]

/-- A record that both logs take keeps them alike. -/
theorem recorded (taken : DeploymentLog.rowOf record = .ok row) :
    SameRecords network (books.recorded row) (books'.recorded row) := by
  rcases same with ⟨closed, closed'⟩ | ⟨records, records', logged, logged', alike⟩
  · rw [recorded_of_closed closed, recorded_of_closed closed']
    exact .inl ⟨closed, closed'⟩
  · refine .inr ⟨_, _, logged.recorded taken, logged'.recorded taken, ?_⟩
    rw [List.filter_append, List.filter_append, alike]

/-- A record of another network may be in one of the logs only. -/
theorem recorded_elsewhere (taken : DeploymentLog.rowOf record = .ok row)
    (elsewhere : record.network ≠ network) :
    SameRecords network books (books'.recorded row) := by
  rcases same with ⟨closed, closed'⟩ | ⟨records, records', logged, logged', alike⟩
  · rw [recorded_of_closed closed']
    exact .inl ⟨closed, closed'⟩
  · refine .inr ⟨_, _, logged, logged'.recorded taken, ?_⟩
    rw [List.filter_append, alike]
    simp [elsewhere]

/-- Work that is confined to the parts of some networks changes no records. -/
theorem confined {store : LayoutStore} {here here' : String} {disk disk' : Disk}
    (orderly : store.Orderly here books.disk) (orderly' : store.Orderly here' books'.disk)
    (confined : store.Confined here books.disk disk)
    (confined' : store.Confined here' books'.disk disk') :
    SameRecords network { books with disk := disk } { books' with disk := disk' } := by
  rcases same with closed | ⟨records, records', logged, logged', alike⟩
  · exact .inl closed
  · exact .inr ⟨_, _, logged.confined orderly confined, logged'.confined orderly' confined', alike⟩

end SameRecords

end Books

namespace LayoutStore

variable {store : LayoutStore} {network : String} {books : Books}

/-- Appending to the log changes nothing within the part of a network that is in order. -/
theorem Orderly.recorded (orderly : store.Orderly network books.disk) (row : Row) :
    store.Orderly network (books.recorded row).disk ∧ ∀ copy contract,
      store.reading (books.recorded row).disk copy contract network =
        store.reading books.disk copy contract network := by
  refine orderly.unchanged (books.keeps_recorded row) fun place within => ?_
  cases readable : books.ledger with
  | error failure => rw [Books.recorded, readable]
  | ok rows =>
    have apart : place ∉ books.log.place? := fun own =>
      orderly.not_within (LogConnection.node?_of_rows own readable) within
    rw [Books.recorded, readable]
    change (books.log.withRows books.disk (rows ++ [row])).2.node? place = _
    rcases LogConnection.withRows_disk readable (rows ++ [row]) with same | ⟨log, own, -, put⟩
    · rw [same]
    · rw [put]
      refine Disk.node?_put_of_ne _ _ ?_
      rintro rfl
      exact apart own

end LayoutStore

/-- What is told of a call that was made: its arguments, when it was made, what was said, and its
result. -/
def CallMade.told (made : CallMade) : GateCall × Moment ×
    List ((question : Question) × Except Failure question.Answer) × Except Failure GateAnswer :=
  ⟨made.call, made.now, made.trace.map Exchange.said, made.result⟩

namespace Gate

variable {gate : Gate} {network other : String} {books books' after after' : Books}

/-- **A workspace is in order** for a network: its part of the store is, and the log is closed or
holds records. -/
structure InOrder [AddressRule] (gate : Gate) (network : String) (books : Books) : Prop where
  layouts : gate.store.Orderly network books.disk
  log : books.IsLogged

/-- **Two workspaces agree on a network**: its part of the store is in order in both, every copy of
a layout for it is read as the same, and their logs have the same records of it. -/
structure Agree [AddressRule] (gate : Gate) (network : String) (books books' : Books) : Prop where
  layouts : gate.store.Alike network books.disk books'.disk
  records : books.SameRecords network books'

/-- Being in order is no matter of time. -/
theorem InOrder.retimed [AddressRule] (inOrder : gate.InOrder network books) (now : Moment) :
    gate.InOrder network { books with now := now } :=
  ⟨inOrder.layouts, inOrder.log⟩

/-- Agreeing is no matter of time. -/
theorem Agree.retimed [AddressRule] (agree : gate.Agree network books books') (now now' : Moment) :
    gate.Agree network { books with now := now } { books' with now := now' } :=
  ⟨agree.layouts, agree.records⟩

/-- Agreeing workspaces, at the same time. -/
def AgreeNow [AddressRule] (gate : Gate) (network : String) (books books' : Books) : Prop :=
  books.now = books'.now ∧ gate.Agree network books books'

/-- Agreeing workspaces, seen at one time. -/
theorem Agree.atTime [AddressRule] (agree : gate.Agree network books books') (now : Moment) :
    gate.AgreeNow network { books with now := now } { books' with now := now } :=
  ⟨rfl, agree.retimed now now⟩

/-- A workspace that another one agrees with is in order. -/
theorem Agree.inOrder [AddressRule] (agree : gate.Agree network books books') :
    gate.InOrder network books' :=
  ⟨agree.layouts.orderly', agree.records.isLogged⟩

theorem Agree.symm [AddressRule] (agree : gate.Agree network books books') :
    gate.Agree network books' books :=
  ⟨agree.layouts.symm, agree.records.symm⟩

/-- Workspaces agree after a record that both take. -/
theorem Agree.recorded [AddressRule] {record : DeploymentRecord} {row : Row}
    (agree : gate.Agree network books books') (taken : DeploymentLog.rowOf record = .ok row) :
    gate.Agree network (books.recorded row) (books'.recorded row) :=
  ⟨agree.layouts.of_readings (agree.layouts.orderly.recorded row)
    (agree.layouts.orderly'.recorded row), agree.records.recorded taken⟩

/-- Workspaces agree after alike work that is confined to the network. -/
theorem Agree.confined [AddressRule] {disk disk' : Disk} (agree : gate.Agree network books books')
    (alike : gate.store.Alike network disk disk')
    (confined : gate.store.Confined network books.disk disk)
    (confined' : gate.store.Confined network books'.disk disk') :
    gate.Agree network { books with disk := disk } { books' with disk := disk' } :=
  ⟨alike, agree.records.confined agree.layouts.orderly agree.layouts.orderly' confined confined'⟩

theorem Agree.trans [AddressRule] {middle : Books} (first : gate.Agree network books middle)
    (second : gate.Agree network middle after) : gate.Agree network books after :=
  ⟨first.layouts.trans second.layouts, first.records.trans second.records⟩

/-! ## What a call about a network learns -/

/-- **Nothing of other networks.** No step that a call about a network is made of tells workspaces
apart that agree on the network. -/
theorem stepsOn_respects [AddressRule] (gate : Gate) (network : String) :
    gate.StepsOn network fun _ flow => flow.Respects (gate.AgreeNow network) where
  noted record _ taken := by
    refine respects_of_gives fun books books' ⟨now, agree⟩ => ?_
    have gives (books : Books) : (note record).Gives books (books.ledger.map fun _ => ())
        (books.recorded (record books.now).row) :=
      gives_iff_ends.2 ((ends_note taken).2 ⟨rfl, rfl, rfl⟩)
    refine ⟨_, _, books'.recorded (record books'.now).row, gives books, ?_, ?_, ?_⟩
    · rw [agree.records.readable_eq]
      exact gives books'
    · rw [Books.now_recorded, Books.now_recorded, now]
    · rw [← now]
      exact agree.recorded (taken books.now)
  latest proxy := by
    refine respects_of_settles (fun books => settles_latestRecord? books proxy network)
      fun books books' related => ?_
    exact related.2.records.latest?_eq proxy
  listed contract := by
    refine respects_of_settles (fun books => settles_history books contract (some network))
      fun books books' related => ?_
    rw [related.1]
    exact related.2.records.history_eq _ contract
  live contract previous := by
    refine respects_of_settles
      (fun books => gate.settles_liveLayout books contract network previous)
      fun books books' related => ?_
    simp only [live?, related.2.layouts.readings]
  read copy contract := by
    refine respects_of_settles (fun books => gate.settles_reading books copy contract network)
      fun books books' related => ?_
    exact related.2.layouts.readings copy contract
  written copy contract layout := by
    refine respects_of_gives fun books books' ⟨now, agree⟩ => ?_
    obtain ⟨same, alike⟩ := agree.layouts.write books.now copy contract layout
    have still := agree.confined alike (agree.layouts.orderly.write _ _ _ _).2
      (agree.layouts.orderly'.write _ _ _ _).2
    refine ⟨_, _, _, gives_iff_ends.2 (ends_writeNow.2 ⟨rfl, rfl, rfl⟩),
      gives_iff_ends.2 (ends_writeNow.2 ⟨rfl, ?_, rfl⟩), now, ?_⟩
    · rw [← now]
      exact same
    · exact now ▸ still
  discarded contract := by
    refine respects_of_gives fun books books' ⟨now, agree⟩ => ?_
    obtain ⟨same, alike⟩ := agree.layouts.discard contract
    have still := agree.confined alike (agree.layouts.orderly.discard _).2
      (agree.layouts.orderly'.discard _).2
    exact ⟨_, _, _, gives_iff_ends.2 (ends_onDisk.2 ⟨rfl, rfl, rfl⟩),
      gives_iff_ends.2 (ends_onDisk.2 ⟨rfl, same, rfl⟩), now, still⟩

/-- **Asking the same.** A call about a network, made at the same time in workspaces that agree on
the network, goes in lockstep. -/
theorem perform_respects [AddressRule] {call : GateCall} (about : call.network? = some network) :
    (call.perform gate).Respects (gate.AgreeNow network) := by
  have parts : ByParts fun _ flow => flow.Respects (gate.AgreeNow network) := by
    refine byParts_respects fun books books' _ _ related => ?_
    obtain ⟨now, agree⟩ := related
    exact ⟨now, agree.layouts, agree.records⟩
  exact parts.perform (gate.stepsOn_respects network) about

/-! ## What a call about a network changes -/

/-- **Work keeps to a network**: the workspace stays in order for it, the bytes of all copies for
other networks are kept, and for other networks it agrees with what it was. -/
structure KeepsTo [AddressRule] (gate : Gate) (network : String) (before after : Books) : Prop where
  inOrder : gate.InOrder network after
  files : ∀ other, other ≠ network → ∀ copy contract, LayoutStore.Allowed contract other →
    after.disk.file? (gate.store.place copy contract other) =
      before.disk.file? (gate.store.place copy contract other)
  records : ∀ other, other ≠ network → before.SameRecords other after
  layouts : ∀ other, other ≠ network → gate.store.Orderly other before.disk →
    gate.store.Alike other before.disk after.disk

namespace KeepsTo

/-- Work after work that kept to a network keeps to it. -/
theorem trans [AddressRule] {middle : Books} (first : gate.KeepsTo network books middle)
    (second : gate.KeepsTo network middle after) : gate.KeepsTo network books after where
  inOrder := second.inOrder
  files other differ copy contract allowed :=
    (second.files other differ copy contract allowed).trans
      (first.files other differ copy contract allowed)
  records other differ := (first.records other differ).trans (second.records other differ)
  layouts other differ there := by
    have one := first.layouts other differ there
    exact one.trans (second.layouts other differ one.orderly')

/-- Work on the disk that is confined to a network keeps to it. -/
theorem confined [AddressRule] {disk : Disk} (inOrder : gate.InOrder network books)
    (orderly : gate.store.Orderly network disk)
    (confined : gate.store.Confined network books.disk disk) :
    gate.KeepsTo network books { books with disk := disk } where
  inOrder := by
    refine ⟨orderly, ?_⟩
    rcases inOrder.log with closed | ⟨records, logged⟩
    · exact .inl closed
    · exact .inr ⟨records, logged.confined inOrder.layouts confined⟩
  files other differ copy contract allowed := by
    have within : gate.store.Within other (gate.store.place copy contract other) :=
      .inr ⟨copy, contract, allowed, .inl rfl⟩
    have outside : ¬ gate.store.Within network (gate.store.place copy contract other) :=
      fun own => differ (within.network_eq own)
    rw [Disk.file?, Disk.file?, Disk.held?, Disk.held?, confined.elsewhere _ outside]
  records other _ := (Books.SameRecords.refl inOrder.log other).confined inOrder.layouts
    inOrder.layouts (.refl ..) confined
  layouts other differ there := by
    obtain ⟨still, readings⟩ := confined.readings differ.symm there
    exact ⟨there, still, fun copy contract => (readings copy contract).symm⟩

/-- Recording something of a network keeps to it. -/
theorem recorded [AddressRule] {record : DeploymentRecord} {row : Row}
    (inOrder : gate.InOrder network books)
    (taken : DeploymentLog.rowOf record = .ok row) (here : record.network = network) :
    gate.KeepsTo network books (books.recorded row) where
  inOrder := ⟨(inOrder.layouts.recorded row).1, inOrder.log.recorded taken⟩
  files _ _ _ _ _ := books.file?_recorded row _
  records other differ := (Books.SameRecords.refl inOrder.log other).recorded_elsewhere taken
    (here ▸ differ.symm)
  layouts other _ there := by
    obtain ⟨still, readings⟩ := there.recorded row
    exact ⟨there, still, fun copy contract => (readings copy contract).symm⟩

/-- For every other network, the workspace agrees with what it was. -/
theorem agree [AddressRule] (kept : gate.KeepsTo network books after) (differ : other ≠ network)
    (there : gate.InOrder other books) : gate.Agree other books after :=
  ⟨kept.layouts other differ there.layouts, kept.records other differ⟩

/-- The workspace stays in order for all networks for which it was. -/
theorem still [AddressRule] (kept : gate.KeepsTo network books after)
    (there : gate.InOrder other books) :
    gate.InOrder other after := by
  by_cases same : other = network
  · exact same ▸ kept.inOrder
  · exact (kept.agree same there).inOrder

end KeepsTo

/-- Keeping to a network can be put together, and counts and stages do not matter to it. -/
theorem steady_keepsTo [AddressRule] (gate : Gate) (network : String) :
    Steady fun before after => gate.InOrder network before → gate.KeepsTo network before after where
  trans first second inOrder := by
    have early := first inOrder
    exact early.trans (second early.inOrder)
  marked books _ _ inOrder := by
    have kept := KeepsTo.confined inOrder inOrder.layouts (.refl ..)
    exact ⟨⟨kept.inOrder.layouts, kept.inOrder.log⟩, kept.files, kept.records, kept.layouts⟩

/-- **Nothing of other networks.** Every step that a call about a network is made of keeps to the
network. -/
theorem stepsOn_keepsTo [AddressRule] (gate : Gate) (network : String) :
    gate.StepsOn network fun _ flow => flow.Along fun before after =>
      gate.InOrder network before → gate.KeepsTo network before after where
  noted record here taken := by
    refine along_note taken fun books inOrder => ?_
    exact .recorded inOrder (taken books.now) (here books.now)
  -- looking something up leaves the books as they are
  latest proxy := along_settles (steady_keepsTo gate network) fun books =>
    settles_latestRecord? books proxy network
  listed contract := along_settles (steady_keepsTo gate network) fun books =>
    settles_history books contract (some network)
  live contract previous := along_settles (steady_keepsTo gate network) fun books =>
    gate.settles_liveLayout books contract network previous
  read copy contract := along_settles (steady_keepsTo gate network) fun books =>
    gate.settles_reading books copy contract network
  -- the store confines its work to the part of the network
  written copy contract layout := by
    refine along_writeNow fun books now inOrder => ?_
    obtain ⟨orderly, confined⟩ := inOrder.layouts.write now layout copy contract
    exact .confined inOrder orderly confined
  discarded contract := by
    refine along_onDisk fun books inOrder => ?_
    obtain ⟨orderly, confined⟩ := inOrder.layouts.discard contract
    exact .confined inOrder orderly confined

/-- **A call about a network** keeps to it, however it ends. -/
theorem keepsTo_of_ends [AddressRule] {call : GateCall} {trace : Trace collaborators}
    {result : Except Failure GateAnswer} (about : call.network? = some network)
    (inOrder : gate.InOrder network books)
    (ended : (call.perform gate).Ends books trace result after) :
    gate.KeepsTo network books after := by
  have parts := byParts_along (steady_keepsTo gate network)
  have along := parts.perform (gate.stepsOn_keepsTo network) about
  exact along.ends ended inOrder

/-- **Networks apart.** Consider a call about a network.

For two workspaces that agree on the network, and may differ in all else: however the call can end
in the one, made at some time, it can end in the other, saying the same; and given the same replies
it puts the same questions in both, has the same result, and they agree on the network afterwards.

For every other network, however the call ends: the files of all copies have the bytes that they
had, the log has the records that it had, and the workspace agrees with what it was if it was in
order for that network. -/
theorem networks_isolated [AddressRule] {call : GateCall} (about : call.network? = some network) :
    (∀ books books' after now trace result, gate.Agree network books books' →
      (call.perform gate).Ends { books with now := now } trace result after →
        (∃ trace' after', (call.perform gate).Ends { books' with now := now } trace' result after' ∧
          trace.map Exchange.said = trace'.map Exchange.said) ∧
        ∀ after' trace' result',
          (call.perform gate).Ends { books' with now := now } trace' result' after' →
          SameReplies trace trace' →
            trace.map Exchange.said = trace'.map Exchange.said ∧ result = result' ∧
              gate.Agree network after after') ∧
    ∀ books after trace result, gate.InOrder network books →
      (call.perform gate).Ends books trace result after → ∀ other, other ≠ network →
        (∀ copy contract, LayoutStore.Allowed contract other →
          after.disk.file? (gate.store.place copy contract other) =
            books.disk.file? (gate.store.place copy contract other)) ∧
        books.SameRecords other after ∧
        (gate.InOrder other books → gate.Agree other books after) := by
  constructor
  · intro books books' after now trace result agree ended
    have respects : (call.perform gate).Respects (gate.AgreeNow network) := perform_respects about
    constructor
    · obtain ⟨trace', after', ended', said, -⟩ :=
        respects.exists_ends (agree.atTime now) ended
      exact ⟨trace', after', ended', said⟩
    · intro after' trace' result' ended' replies
      obtain ⟨said, same, -, still⟩ :=
        respects.ends_eq (agree.atTime now) ended ended' replies
      exact ⟨said, same, still⟩
  · intro books after trace result inOrder ended other differ
    have kept := keepsTo_of_ends about inOrder ended
    exact ⟨kept.files other differ, kept.records other differ, kept.agree differ⟩

/-! ## In the prepared workspace -/

/-- The prepared proxy on another network: a transparent one there, with an administrator. -/
def mainnetRecord : DeploymentRecord :=
  proxyRecord "Token" "mainnet" Address.preparedSender Address.preparedProxy .transparent
    (some Address.preparedSender.text) 0

/-- The record on the other network is taken. -/
theorem rowOf_mainnetRecord [AddressRule] :
    DeploymentLog.rowOf mainnetRecord = .ok mainnetRecord.row :=
  rowOf_proxyRecord ..

/-- The record on the other network is found. -/
theorem recordsOn_mainnetRecord [AddressRule] (now : Moment) :
    DeploymentLog.recordsOn now ([] ++ [mainnetRecord.row]) Address.preparedProxy "mainnet" =
      .ok [mainnetRecord] :=
  (DeploymentLog.recordsOn_append_own rowOf_mainnetRecord rfl rfl).trans rfl

/-- Only folders are on the prepared disk, and no others than those that were made. -/
theorem node?_prepared {place : Place} {node : Node}
    (found : Books.prepared.disk.node? place = some node) :
    node = .folder ∧ (place = [] ∨ place = prepared.store.rootPlace ∨
      ∃ copy, place = prepared.store.folderPlace copy "anvil") := by
  have root : prepared.store.rootPlace = ["layouts"] := rfl
  simp only [Disk.node?, Books.prepared, List.lookup_cons, List.lookup_nil] at found
  rw [root]
  split at found
  · next top => exact ⟨(Option.some.inj found).symm, .inl top⟩
  split at found
  · next same => exact ⟨(Option.some.inj found).symm, .inr (.inl (eq_of_beq same))⟩
  split at found
  · next same => exact ⟨(Option.some.inj found).symm, .inr (.inr ⟨.baseline, eq_of_beq same⟩)⟩
  split at found
  · next same => exact ⟨(Option.some.inj found).symm, .inr (.inr ⟨.scratch, eq_of_beq same⟩)⟩
  · cases found

/-- The prepared workspace is in order for every network. -/
theorem inOrder_prepared [AddressRule] (network : String) : prepared.InOrder network .prepared where
  layouts := by
    refine ⟨rfl, rfl, fun copy => ?_, fun hidden => ?_,
      fun {copy contract place node} reaches found => ?_⟩
    · cases found : Books.prepared.disk.node? (prepared.store.folderPlace copy network) with
      | none => exact .inl found
      | some node => exact .inr ((node?_prepared found).1 ▸ found)
    · have own : prepared.store.Within network (prepared.store.folderPlace .scratch network) :=
        .inl ⟨.scratch, rfl⟩
      obtain ⟨-, top | root | ⟨copy, made⟩⟩ := node?_prepared hidden
      · cases top
      · cases root
      · obtain rfl := own.network_eq (.inl ⟨copy, made⟩)
        rfl
    · have own : prepared.store.Within network place := .inr ⟨copy, contract, reaches⟩
      obtain ⟨rest, steps⟩ := own.exists_steps
      obtain ⟨-, rfl | rfl | ⟨copy', made⟩⟩ := node?_prepared found
      · cases steps
      · cases steps
      · obtain rfl := own.network_eq (.inl ⟨copy', made⟩)
        exact absurd made (reaches.ne_folderPlace copy')
  log := .inr ⟨[], [], rfl, .nil⟩

/-- The same proxy can be recorded on another network, and the same contract have a baseline there,
in a workspace that agrees with the prepared one. -/
theorem exists_busy [AddressRule] : ∃ busy, prepared.KeepsTo "mainnet" .prepared busy ∧
    busy.now = 0 ∧ busy.latest? Address.preparedProxy "mainnet" = .ok (some mainnetRecord) ∧
    prepared.store.Holds .baseline "Token" "mainnet" .prepared busy.disk := by
  have start := inOrder_prepared "mainnet"
  have allowed : LayoutStore.Allowed "Token" "mainnet" := by constructor <;> decide +kernel
  have fits : LayoutStore.Fits "Token" "mainnet" := by
    constructor <;> (unfold LayoutStore.Short; decide +kernel)
  have wrote := @LayoutStore.Orderly.run_write_of_fits _ .baseline _ _ _ start.layouts 0 .prepared
    allowed fits
  have work := start.layouts.write 0 .prepared .baseline "Token"
  rw [wrote] at work
  have holds := LayoutStore.holds_of_write wrote
  generalize prepared.store.written 0 .baseline "Token" "mainnet" .prepared
    (prepared.store.opened .baseline "mainnet" Books.prepared.disk) = disk at work holds
  have kept : prepared.KeepsTo "mainnet" .prepared { Books.prepared with disk := disk } :=
    .confined start work.1 work.2
  have recorded : Books.ledger (Books.recorded { Books.prepared with disk := disk }
      mainnetRecord.row) = .ok ([] ++ [mainnetRecord.row]) := Books.ledger_recorded ..
  refine ⟨Books.recorded { Books.prepared with disk := disk } mainnetRecord.row,
    kept.trans (.recorded kept.inOrder rowOf_mainnetRecord rfl), Books.now_recorded .., ?_, holds⟩
  rw [Books.latest?, recorded, Except.bind, DeploymentLog.latest?_eq, recordsOn_mainnetRecord]
  rfl

/-- An upgrade of the prepared proxy goes the same way if the same proxy is recorded on another
network too, and changes nothing there. -/
theorem networks_isolated_prepared :
    ∃ busy trace trace' result after after', prepared.Agree "anvil" .prepared busy ∧
      busy.latest? Address.preparedProxy "mainnet" = .ok (some mainnetRecord) ∧
      prepared.store.Holds .baseline "Token" "mainnet" .prepared busy.disk ∧
      ((GateCall.run .prepared).perform prepared).Ends .prepared trace (.ok result) after ∧
      ((GateCall.run .prepared).perform prepared).Ends busy trace' (.ok result) after' ∧
      trace.map Exchange.said = trace'.map Exchange.said ∧ 0 < trace.countP Flow.isUpgrade ∧
      prepared.Agree "anvil" after after' ∧ prepared.Agree "mainnet" busy after' := by
  obtain ⟨busy, kept, timely, recorded, holds⟩ := exists_busy
  have agree := kept.agree (by decide) (inOrder_prepared "anvil")
  obtain ⟨trace, attempt, after, ended, -, upgrades⟩ := exists_run_prepared .prepared
  have performed : ((GateCall.run .prepared).perform prepared).Ends .prepared trace
      (.ok (.attempt attempt)) after := ends_map.2 ⟨_, ended, rfl⟩
  obtain ⟨learns, changes⟩ :=
    @networks_isolated prepared "anvil" _ (GateCall.run .prepared) rfl
  obtain ⟨⟨trace', after', performed', said⟩, lockstep⟩ :=
    learns _ busy _ _ _ _ agree performed
  have same : { busy with now := 0 } = busy := by rw [← timely]
  rw [same] at performed' lockstep
  obtain ⟨-, -, still⟩ := lockstep _ _ _ performed' (.of_said said)
  obtain ⟨-, -, apart⟩ := changes _ _ _ _ agree.inOrder performed' "mainnet" (by decide)
  exact ⟨busy, trace, trace', _, after, after', agree, recorded, holds, performed, performed', said,
    upgrades, still, apart kept.inOrder⟩

/-! ## Calls one after the other -/

/-- **Every workspace in use** is in order for all networks, if it was so at first. -/
theorem Course.inOrder [AddressRule] {calls : List CallMade}
    (course : Course gate books calls after)
    (start : ∀ network, gate.InOrder network books) (network : String) :
    gate.InOrder network after := by
  induction course with
  | done => exact start network
  | @call books middle _ call now _ _ _ ended _ ih =>
    refine ih fun network => ?_
    cases about : call.network? with
    | some here =>
      exact (keepsTo_of_ends about ((start here).retimed now) ended).still
        ((start network).retimed now)
    | none =>
      -- only records can be looked up for all networks
      cases call <;> cases about
      obtain ⟨_, looked, -⟩ := ends_map.1 ended
      obtain ⟨-, -, rfl⟩ := (settles_history _ _ none _ _ _).1 looked
      exact (start network).retimed now

/-- **Calls about other networks** might as well not have been made: without them, the calls about a
network could have gone the same way, and the workspaces would agree on the network in the end. -/
theorem Course.without_others [AddressRule] {calls : List CallMade}
    (course : Course gate books calls after) (agree : gate.Agree network books books')
    (about : ∀ made ∈ calls, ∃ here, made.call.network? = some here ∧ gate.InOrder here books) :
    ∃ calls' after', Course gate books' calls' after' ∧
      calls'.map CallMade.told =
        (calls.filter (·.call.network? == some network)).map CallMade.told ∧
      gate.Agree network after after' := by
  induction course generalizing books' with
  | done => exact ⟨[], books', .done books', rfl, agree⟩
  | @call books middle after call now trace result later ended rest ih =>
    obtain ⟨here, named, start⟩ := about _ List.mem_cons_self
    have kept : gate.KeepsTo here { books with now := now } middle :=
      keepsTo_of_ends named (start.retimed now) ended
    have onward : ∀ made ∈ later, ∃ here, made.call.network? = some here ∧
        gate.InOrder here middle := by
      intro made member
      obtain ⟨there, named, inOrder⟩ := about made (List.mem_cons_of_mem _ member)
      exact ⟨there, named, kept.still (inOrder.retimed now)⟩
    by_cases own : here = network
    · subst own
      obtain ⟨trace', middle', ended', said, -, still⟩ :=
        (perform_respects named).exists_ends (agree.atTime now) ended
      obtain ⟨calls', after', course', told, last⟩ := ih still onward
      refine ⟨⟨call, now, trace', result⟩ :: calls', after', .call ended' course', ?_, last⟩
      rw [List.filter_cons_of_pos (by simpa using named), List.map_cons, List.map_cons, told,
        CallMade.told, CallMade.told, said]
    · have apart := kept.agree (Ne.symm own) (agree.symm.inOrder.retimed now)
      have still : gate.Agree network middle books' :=
        apart.symm.trans (agree.retimed now books'.now)
      obtain ⟨calls', after', course', told, last⟩ := ih still onward
      refine ⟨calls', after', course', ?_, last⟩
      rw [List.filter_cons_of_neg (by simpa [named] using own), told]

end Gate

end UpgradeGate
