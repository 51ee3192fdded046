import UpgradeGate.Proofs.Workflow.Upgrade

/-!
# What upgrades leave behind

A run that fails leaves every baseline as it was and appends the records of the contracts that it
created, one at most (`Gate.Run.of_error`). A run that installs appends the records of the
deployment and the upgrade, and writes the baseline of its contract (`Gate.Run.of_override`).
-/

namespace UpgradeGate

open UpgradeGate.Flow

namespace Gate

variable {gate : Gate} {order : UpgradeOrder} {proxy : Address}
  {previous : Option DeploymentRecord} {books after : Books} {trace : Trace collaborators}
  {contract network sender : String} {rows : Ledger}

/-! ## Contracts that were created -/

/-- The rows of the contracts that were created in some exchanges. -/
def rawRows [AddressRule] (contract network : String) (now : Moment) (trace : Trace collaborators) :
    Ledger :=
  (trace.filterMap deployed?).map fun address => (rawRecord contract network address now).row

theorem map_rawRows_nil [AddressRule] (ledger : Except Failure Ledger) (now : Moment) :
    ledger.map (· ++ rawRows contract network now []) = ledger := by
  cases ledger <;> simp [rawRows, Except.map]

/-- A raw deployment keeps the rows there were and appends those its trace accounts for, one at
most. -/
theorem RawDeployment.ledger_eq [AddressRule] {result : Except Failure Address}
    (deployment : RawDeployment contract [] network sender books trace result after)
    (readable : books.ledger = .ok rows) :
    after.ledger = .ok (rows ++ rawRows contract network books.now trace) ∧
      (trace.filterMap deployed?).length ≤ 1 ∧ trace.countP isCompletion = 0 := by
  cases deployment with
  | undeployed failed =>
    have quiet : Quiet trace := (of_ends_create_error failed).2
    rw [rawRows, quiet.filterMap_deployed?, quiet.countP_isCompletion, readable]
    simp
  | unlogged _ unreadable => cases readable.symm.trans unreadable
  | unlabelled failure created =>
    obtain ⟨-, artifact, text, parsed, rfl⟩ := ends_create_ok.1 created
    rw [ledger_rawBooks, readable]
    simp [rawRows, List.filterMap_cons, exchange, deployed?, parsed, Except.toOption, Except.map,
      isCompletion]
  | deployed named told created =>
    obtain ⟨-, artifact, text, parsed, rfl⟩ := ends_create_ok.1 created
    rw [ledger_rawBooks, readable]
    simp [rawRows, List.filterMap_cons, exchange, deployed?, parsed, Except.toOption, Except.map,
      isCompletion]

/-! ## The fast path -/

/-- What a fast path has appended when its deployment has ended. -/
theorem Foreseen.ledger_eq [AddressRule] {checked foretold early later : Trace collaborators}
    {admin : Option Address} {predicted : String} {middle : Books} {result : Except Failure Address}
    (foreseen : Foreseen gate order proxy previous books checked foretold admin predicted)
    (deployment : RawDeployment order.contract [] order.network order.sender books early result
      middle)
    (readable : books.ledger = .ok rows) (undeployed : later.filterMap deployed? = [])
    (incomplete : later.countP isCompletion = 0) :
    middle.ledger = .ok (rows ++ rawRows order.contract order.network books.now
        (checked ++ (foretold ++ (early ++ later)))) ∧
      ((checked ++ (foretold ++ (early ++ later))).filterMap deployed?).length ≤ 1 ∧
      (checked ++ (foretold ++ (early ++ later))).countP isCompletion = 0 ∧
      Books.Keeps (fun _ => False) books middle := by
  have same : (checked ++ (foretold ++ (early ++ later))).filterMap deployed? =
      early.filterMap deployed? := by
    simp [foreseen.quiet.1.filterMap_deployed?, foreseen.quiet.2.filterMap_deployed?, undeployed]
  have incomplete' : (checked ++ (foretold ++ (early ++ later))).countP isCompletion =
      early.countP isCompletion := by
    simp only [List.countP_append, foreseen.quiet.1.countP_isCompletion,
      foreseen.quiet.2.countP_isCompletion, incomplete, Nat.zero_add, Nat.add_zero]
  rw [rawRows, same, incomplete']
  obtain ⟨ledger, once, told⟩ := deployment.ledger_eq readable
  exact ⟨ledger, once, told, deployment.keeps⟩

/-- A fast path that fails appends the record of the contract if one was created. -/
theorem FastPath.of_error [AddressRule] {candidate : Layout} {compatible : Bool} {attempt : Attempt}
    {failure : Failure}
    (path : FastPath gate order proxy previous candidate compatible attempt books trace
      (.error failure) after) (readable : books.ledger = .ok rows)
    (writable : gate.store.Writable .baseline order.contract order.network books.disk) :
    after.ledger = .ok (rows ++ rawRows order.contract order.network books.now trace) ∧
      (trace.filterMap deployed?).length ≤ 1 ∧ trace.countP isCompletion = 0 ∧
      Books.Keeps (fun _ => False) books after := by
  have quietly : ∀ {trace : Trace collaborators}, Quiet trace →
      books.ledger = .ok (rows ++ rawRows order.contract order.network books.now trace) ∧
        (trace.filterMap deployed?).length ≤ 1 ∧ trace.countP isCompletion = 0 ∧
        Books.Keeps (fun _ => False) books books := by
    intro trace quiet
    rw [rawRows, quiet.filterMap_deployed?, quiet.countP_isCompletion]
    exact ⟨by simpa using readable, by simp, rfl, .refl _ _⟩
  cases path with
  | unresolved failed => exact quietly (of_ends_administrator_error failed).2
  | unforeseen resolved failed =>
    exact quietly ((quiet_of_resolved resolved).append (of_ends_predictNext failed).2)
  | @undeployed _ _ early _ _ _ _ foreseen failed =>
    have recorded := @Foreseen.ledger_eq _ _ _ _ _ _ _ _ _ early [] _ _ _ _ foreseen failed readable
      rfl rfl
    rwa [List.append_nil] at recorded
  | @mismatched _ _ early _ _ _ _ foreseen deployed =>
    have recorded := @Foreseen.ledger_eq _ _ _ _ _ _ _ _ _ early [] _ _ _ _ foreseen deployed
      readable rfl rfl
    rw [List.append_nil] at recorded
    obtain ⟨ledger, once, incomplete, keeps⟩ := recorded
    exact ⟨ledger, once, incomplete, keeps.congr rfl rfl rfl⟩
  | refused failure foreseen deployed =>
    exact foreseen.ledger_eq deployed readable (by simp) (by simp)
  | unconfirmed foreseen deployed same failed =>
    obtain ⟨-, answer, rfl, -⟩ := ends_confirm.1 failed
    refine foreseen.ledger_eq deployed readable ?_ ?_
    · rw [List.filterMap_cons, deployed?_installCall]
      rfl
    · rw [List.countP_cons, isCompletion_installCall]
      rfl
  | unkept _ deployed _ _ unwritten => exact absurd unwritten (deployed.not_unwritten writable)

/-- A fast path was completed: the proxy was seen to follow, both records were appended, and then
the baseline was written. -/
structure Followed [AddressRule] (gate : Gate) (order : UpgradeOrder) (proxy : Address)
    (previous : Option DeploymentRecord) (candidate : Layout) (books : Books)
    (trace : Trace collaborators) (after : Books) (admin : Option Address)
    (implementation : Address) (rows : Ledger) : Prop where
  compiled : trace.filterMap compiled? = []
  follows : ∃ before current disk later, Address.parse current = .ok implementation ∧
    trace = before ++ installCall order proxy implementation admin disk (.ok ()) ::
      exchange (.implementationOf proxy) disk (.ok (some current)) :: later
  readable : books.ledger = .ok rows
  written : ∃ (recorded : Books) (path : Path) (disk : Disk),
    recorded.ledger = .ok (rows ++ [(rawRecord order.contract order.network implementation
      books.now).row, (upgradeRecord order proxy previous admin implementation books.now).row]) ∧
    recorded.log.place? = books.log.place? ∧
    (gate.store.write books.now .baseline order.contract order.network candidate).run.run
      recorded.disk = (.ok path, disk) ∧ after = { recorded with disk := disk }

/-- A fast path that returns has foreseen, deployed and installed, in that order. -/
theorem FastPath.of_ok [AddressRule] {candidate : Layout} {compatible : Bool}
    {attempt finished : Attempt}
    (path : FastPath gate order proxy previous candidate compatible attempt books trace
      (.ok finished) after) :
    ∃ admin predicted implementation rows,
      finished = finish attempt compatible predicted implementation ∧
      Followed gate order proxy previous candidate books trace after admin implementation rows := by
  cases path with
  | @completed checked foretold early admin predicted implementation middle current file disk told
      foreseen deployed same follows written =>
    obtain ⟨rows, readable⟩ : ∃ rows, books.ledger = .ok rows := by
      cases deployed with
      | deployed _ _ _ readable => exact ⟨_, readable⟩
    obtain ⟨address, rfl, own⟩ : ∃ address, current = some address ∧
        Address.sameAccount address implementation.text = true := by
      cases current with
      | none => cases follows
      | some address => exact ⟨address, rfl, follows⟩
    have ledger : middle.ledger = .ok (rows ++
        [(rawRecord order.contract order.network implementation books.now).row]) := by
      cases deployed with
      | deployed => rw [ledger_rawBooks, readable, Except.map]
    have uncompiled : early.filterMap compiled? = [] := by
      cases deployed with
      | deployed _ _ created =>
        obtain ⟨-, artifact, text, -, rfl⟩ := ends_create_ok.1 created
        rfl
    have now : middle.now = books.now := deployed.keeps.now
    refine ⟨admin, predicted, implementation, rows, rfl, ?_, ⟨checked ++ (foretold ++ early),
      address, middle.disk, [exchange (.announce (.completed (finish attempt compatible predicted
        implementation))) disk told], Address.sameAccount_text_right_iff.1 own, ?_⟩, readable,
      upgradeBooks middle order proxy previous admin implementation, file, disk, ?_, ?_, ?_, rfl⟩
    · simp only [List.filterMap_append, foreseen.quiet.1.filterMap_compiled?,
        foreseen.quiet.2.filterMap_compiled?, uncompiled, List.nil_append, List.filterMap_cons,
        compiled?_installCall]
      rfl
    · simp only [List.append_assoc]
    · rw [ledger_upgradeBooks, ledger, now]
      simp [Except.map]
    · exact (keeps_upgradeBooks ..).place.trans deployed.keeps.place
    · rw [← now]
      exact written

/-! ## Runs -/

/-- The writes of an upgrade do not fail: the log is none of the files that it writes, and no folder
is in the way of the baseline once a scratch copy was written. -/
structure Unhindered (gate : Gate) (order : UpgradeOrder) (books : Books) : Prop where
  apart : ∀ copy, ∀ place ∈ books.log.place?,
    ¬ gate.store.Touches copy order.contract order.network place
  free : ∀ layout path scratch, (gate.store.write books.now .scratch order.contract order.network
    layout).run.run books.disk = (.ok path, scratch) →
      gate.store.Unblocked .baseline order.contract order.network scratch

/-- A gate that nothing hinders can write the baseline after the scratch copy. -/
theorem Unhindered.writable {layout : Layout} {path : Path} {scratch : Disk}
    (unhindered : Unhindered gate order books)
    (written : (gate.store.write books.now .scratch order.contract order.network layout).run.run
      books.disk = (.ok path, scratch)) :
    gate.store.Writable .baseline order.contract order.network scratch := by
  obtain ⟨allowed, ready, -⟩ := LayoutStore.run_write_ok written
  exact ⟨allowed, ready.baseline, unhindered.free layout path scratch written⟩

theorem disk_countBooks (ended : Except Failure (Attempt × Report)) (books : Books) :
    (countBooks ended books).disk = books.disk := by
  unfold countBooks
  split
  · rfl
  · split <;> rfl

theorem ledger_countBooks (ended : Except Failure (Attempt × Report)) (books : Books) :
    (countBooks ended books).ledger = books.ledger := by
  unfold countBooks
  split
  · rfl
  · split <;> rfl

section Held

variable {ended : Except Failure (Attempt × Report)} {fresh : Attempt} {middle : Books}
  {baseline : Layout} {path : Path} {scratch : Disk}

/-- Once the scratch copy was written, the log is as it was. -/
theorem ledger_of_written (readable : books.ledger = .ok rows)
    (written : (gate.store.write books.now .scratch order.contract order.network baseline).run.run
      books.disk = (.ok path, scratch))
    (apart : ∀ place ∈ books.log.place?,
      ¬ gate.store.Touches .scratch order.contract order.network place) :
    { startBooks books with disk := scratch }.ledger = .ok rows := by
  have touched := LayoutStore.keeps_of_write written
  exact LogConnection.rows_keeps touched apart readable

/-- Once the scratch copy is discarded, the log is as the attempt left it. -/
theorem Attempted.ledger_held [AddressRule] (attempted : Attempted gate order proxy previous fresh
      { startBooks books with disk := scratch } trace ended middle)
    (written : (gate.store.write books.now .scratch order.contract order.network baseline).run.run
      books.disk = (.ok path, scratch))
    (apart : ∀ place ∈ books.log.place?,
      ¬ gate.store.Touches .scratch order.contract order.network place)
    (readable : middle.ledger = .ok rows) :
    (countBooks ended { middle with
      disk := middle.disk.drop (gate.store.place .scratch order.contract order.network) }).ledger =
        .ok rows := by
  rw [ledger_countBooks]
  refine LogConnection.rows_keeps (.drop _ (attempted.free written)) ?_ readable
  intro place own same
  rw [attempted.keeps.place] at own
  exact apart place own (.inl same)

end Held

/-- What can be written in a workspace where nothing is in the way does not fail. -/
theorem unhindered_of_writable
    (scratch : gate.store.Writable .scratch order.contract order.network books.disk)
    (baseline : gate.store.Writable .baseline order.contract order.network books.disk)
    (apart : ∀ copy, ∀ place ∈ books.log.place?,
      ¬ gate.store.Touches copy order.contract order.network place) :
    Unhindered gate order books where
  apart := apart
  free layout path after written := by
    obtain ⟨disk, written', still⟩ := LayoutStore.run_write_of_writable books.now layout scratch
    cases written'.symm.trans written
    exact (still _ _ _ baseline).free

/-- Where a name is refused, a run keeps the disk and the log as they are. -/
theorem Run.of_refused [AddressRule] {result : Except Failure Attempt}
    (run : Run gate order books trace result after)
    (refused : ¬ LayoutStore.Allowed order.contract order.network) :
    after.disk = books.disk ∧ ∃ failure, result = .error failure := by
  cases run with
  | misaddressed => exact ⟨rfl, _, rfl⟩
  | untraced => exact ⟨rfl, _, rfl⟩
  | unread => exact ⟨rfl, _, rfl⟩
  | @unheld _ _ _ failure disk _ _ _ unwritten =>
    obtain ⟨refusal, checked⟩ := LayoutStore.checkedPath_of_not_allowed refused
    rw [LayoutStore.write, checked] at unwritten
    cases unwritten
    exact ⟨disk_countBooks _ _, _, rfl⟩
  | held _ _ _ written => exact absurd (LayoutStore.run_write_ok written).1 refused

/-- A run that returns is for names that the store allows. -/
theorem Run.allowed [AddressRule] {attempt : Attempt}
    (run : Run gate order books trace (.ok attempt) after) :
    LayoutStore.Allowed order.contract order.network := by
  refine Classical.byContradiction fun refused => ?_
  obtain ⟨-, failure, failed⟩ := run.of_refused refused
  cases failed

/-- **A run that fails** appends the record of the contract if one was created, announces no
completion, and touches its scratch copy alone. -/
theorem Run.of_error [AddressRule] {result : Except Failure Attempt} {failure : Failure}
    (run : Run gate order books trace result after) (failed : result = .error failure)
    (unhindered : Unhindered gate order books) :
    after.ledger = books.ledger.map (· ++ rawRows order.contract order.network books.now trace) ∧
      (trace.filterMap deployed?).length ≤ 1 ∧ trace.countP isCompletion = 0 ∧
      Books.Keeps (gate.store.Touches .scratch order.contract order.network) books after := by
  cases run with
  | misaddressed => exact ⟨(map_rawRows_nil _ _).symm, Nat.zero_le 1, rfl, .refl _ _⟩
  | untraced => exact ⟨(map_rawRows_nil _ _).symm, Nat.zero_le 1, rfl, keeps_startBooks _ _⟩
  | unread => exact ⟨(map_rawRows_nil _ _).symm, Nat.zero_le 1, rfl, keeps_startBooks _ _⟩
  | @unheld _ _ baseline _ disk parsed latest _ unheld =>
    obtain ⟨rows, readable⟩ := Books.ledger_of_latest? latest
    have copied := LayoutStore.keeps_of_write unheld
    refine ⟨?_, Nat.zero_le 1, rfl, ((keeps_startBooks _ books).trans (.ofDisk copied)).trans
      ((keeps_countBooks _ _).mono fun _ => False.elim)⟩
    rw [ledger_countBooks, map_rawRows_nil, readable]
    exact LogConnection.rows_keeps copied (unhindered.apart .scratch) readable
  | @held proxy previous baseline path scratch _ ended middle parsed latest live written
      attempted =>
    obtain ⟨rows, readable⟩ := Books.ledger_of_latest? latest
    have scratched := ledger_of_written readable written (unhindered.apart .scratch)
    have writable := unhindered.writable written
    have ledgerHeld := fun rows (left : middle.ledger = .ok rows) =>
      attempted.ledger_held written (unhindered.apart .scratch) left
    have keepsHeld := fun keeps : Books.Keeps (fun _ => False) _ middle =>
      attempted.keeps_held written (keeps.mono fun _ => False.elim) fun _ inside => inside
    have staged : ∀ stages, Books.Keeps (fun _ => False) { startBooks books with disk := scratch }
        { startBooks books with disk := scratch, stages := stages } :=
      fun _ => (Books.Keeps.refl _ _).congr rfl rfl rfl
    rw [readable]
    cases attempted with
    | unread =>
      exact ⟨(ledgerHeld rows scratched).trans (map_rawRows_nil _ _).symm, Nat.zero_le 1, rfl,
        keepsHeld (.refl _ _)⟩
    | uncompiled =>
      exact ⟨(ledgerHeld rows scratched).trans (map_rawRows_nil _ _).symm, Nat.zero_le 1, rfl,
        keepsHeld (staged _)⟩
    | missing =>
      exact ⟨(ledgerHeld rows scratched).trans (map_rawRows_nil _ _).symm, Nat.zero_le 1, rfl,
        keepsHeld (staged _)⟩
    | blocked => cases failed
    | @tried _ candidate trace outcome _ read override path =>
      cases outcome with
      | ok attempt => cases failed
      | error failure' =>
        obtain ⟨ledger, once, incomplete, keeps⟩ := path.of_error scratched writable
        exact ⟨ledgerHeld _ ledger, once, incomplete, keepsHeld ((staged _).trans keeps)⟩

/-- An upgrade was installed: what was asked, recorded and written. -/
structure Installed [AddressRule] (gate : Gate) (order : UpgradeOrder) (books : Books)
    (trace : Trace collaborators) (attempt : Attempt) (after : Books) (proxy : Address)
    (previous : Option DeploymentRecord) (admin : Option Address) (implementation : Address)
    (baseline candidate : Layout) : Prop where
  parsed : Address.parse order.proxy = .ok proxy
  latest : books.latest? proxy order.network = .ok previous
  compiled : trace.filterMap compiled? = [candidate]
  captured : attempt.baseline = some baseline
  installed : attempt.candidate = some candidate
  outcome : attempt.outcome =
    if (baseline.compare candidate).compatible then .passed else .collisionOverridden
  /-- The upgrade was asked for, and then the proxy was seen to follow. -/
  follows : ∃ before current disk later,
    Address.parse current = .ok implementation ∧
      trace = before ++ installCall order proxy implementation admin disk (.ok ()) ::
        exchange (.implementationOf proxy) disk (.ok (some current)) :: later
  /-- The baseline of the contract was written. -/
  holds : gate.store.Holds .baseline order.contract order.network candidate after.disk
  /-- The log has two more records, unless the baseline was written in its place. -/
  ledger : ∃ rows, books.ledger = .ok rows ∧
    ((∀ place ∈ books.log.place?,
        ¬ gate.store.Touches .baseline order.contract order.network place) →
      after.ledger = .ok (rows ++ [(rawRecord order.contract order.network implementation
          books.now).row, (upgradeRecord order proxy previous admin implementation
            books.now).row])) ∧
    ((∃ place ∈ books.log.place?,
        gate.store.Touches .baseline order.contract order.network place) →
      ∀ left, after.ledger ≠ .ok left)

/-- **A run with an override** that returns has installed an upgrade. -/
theorem Run.of_override [AddressRule] {result : Except Failure Attempt} {attempt : Attempt}
    (run : Run gate order books trace result after) (returned : result = .ok attempt)
    (override : order.override = true) :
    ∃ proxy previous admin implementation baseline candidate,
      Installed gate order books trace attempt after proxy previous admin implementation baseline
        candidate := by
  cases run with
  | misaddressed => cases returned
  | untraced => cases returned
  | unread => cases returned
  | unheld => cases returned
  | @held proxy previous baseline path scratch _ ended middle parsed latest live written
      attempted =>
    have free := attempted.free written
    have ledgerHeld := fun apart rows (left : middle.ledger = .ok rows) =>
      attempted.ledger_held written apart left
    cases attempted with
    | unread => cases returned
    | uncompiled => cases returned
    | missing => cases returned
    | blocked _ _ _ plain => cases plain.symm.trans override
    | @tried captured candidate trace outcome _ read _ path =>
      cases outcome with
      | error => cases returned
      | ok finished =>
        cases returned
        obtain ⟨admin, predicted, implementation, rows, rfl, followed⟩ := path.of_ok
        obtain ⟨recorded, file, disk, recordedLedger, place, installed, rfl⟩ := followed.written
        obtain ⟨before, current, told, later, own, rfl⟩ := followed.follows
        -- the scratch copy was not written in place of the log, for that could be read afterwards
        have apart : ∀ place ∈ books.log.place?,
            ¬ gate.store.Touches .scratch order.contract order.network place :=
          fun place owned touched => LayoutStore.not_database_of_write written touched
            (LogConnection.node?_of_rows owned followed.readable)
        obtain ⟨old, readable⟩ := Books.ledger_of_latest? latest
        have scratched := ledger_of_written readable written apart
        have same : rows = old := Except.ok.inj (followed.readable.symm.trans scratched)
        subst same
        obtain ⟨allowed, -, -⟩ := LayoutStore.run_write_ok written
        have distinct : gate.store.place .baseline order.contract order.network ≠
            gate.store.place .scratch order.contract order.network := by
          intro same
          have touched := (LayoutStore.touches_place_iff allowed.2 allowed.2).1 (.inl same)
          cases touched.1
        refine ⟨proxy, previous, admin, implementation, captured, candidate, parsed, latest, ?_,
          rfl, rfl, rfl, ⟨exchange (.layout order.contract) scratch (.ok candidate) :: before,
          current, told, later, own, rfl⟩, ?_, rows, readable, ?_, ?_⟩
        · rw [List.filterMap_cons, followed.compiled]
          rfl
        · have held := LayoutStore.holds_of_write installed
          unfold countBooks
          exact held.keeps (.drop _ free) distinct
        · intro untouched
          have kept := LayoutStore.keeps_of_write installed
          have left := LogConnection.rows_keeps kept (place ▸ untouched) recordedLedger
          exact ledgerHeld apart _ left
        · rintro ⟨lost, owned, touched⟩ left readableThen
          rw [ledger_countBooks] at readableThen
          have found := LogConnection.node?_of_rows (place ▸ owned) readableThen
          exact LayoutStore.not_database_of_write installed touched (Disk.node?_of_drop found)

/-! ## Other baselines -/

/-- A run that touches its scratch copy alone keeps the bytes of every baseline. -/
theorem Run.baseline_of_keeps [AddressRule] {result : Except Failure Attempt}
    (run : Run gate order books trace result after)
    (keeps : Books.Keeps (gate.store.Touches .scratch order.contract order.network) books after)
    (named : LayoutStore.isName network = true) :
    after.disk.file? (gate.store.place .baseline contract network) =
      books.disk.file? (gate.store.place .baseline contract network) := by
  by_cases allowed : LayoutStore.Allowed order.contract order.network
  · refine keeps.files fun touched => ?_
    cases ((LayoutStore.touches_place_iff allowed.2 named).1 touched).1
  · rw [(run.of_refused allowed).1]

/-- A run that returns keeps the bytes of the baselines of other contracts. -/
theorem Run.baseline_other [AddressRule] {attempt : Attempt}
    (run : Run gate order books trace (.ok attempt) after)
    (named : LayoutStore.isName network = true)
    (other : ¬ (contract = order.contract ∧ network = order.network)) :
    after.disk.file? (gate.store.place .baseline contract network) =
      books.disk.file? (gate.store.place .baseline contract network) := by
  refine run.keeps.files fun touched => other ?_
  obtain ⟨copy, inside⟩ := touched
  obtain ⟨-, same, same'⟩ := (LayoutStore.touches_place_iff run.allowed.2 named).1 inside
  exact ⟨same', same⟩

/-! ## What is captured -/

/-- The layout that a run captured: the scratch copy on the disk as it is when the new layout is
asked for, which is the first thing that a run asks. -/
def captured? (gate : Gate) (order : UpgradeOrder) : Trace collaborators → Option Layout
  | ⟨⟨.layout _, disk⟩, _⟩ :: _ =>
    match gate.store.reading disk .scratch order.contract order.network with
    | .ok found => found
    | .error _ => none
  | _ => none

/-- What is captured when a layout is asked for is what the scratch copy reads as at that moment. -/
theorem captured?_of_reading {disk : Disk} {found : Option Layout} {answer : Except Failure Layout}
    (read : gate.store.reading disk .scratch order.contract order.network = .ok found) :
    gate.captured? order (exchange (.layout contract) disk answer :: trace) = found := by
  change (match gate.store.reading disk .scratch order.contract order.network with
    | .ok found => found
    | .error _ => none) = found
  rw [read]

/-- A run captured a layout: it was the scratch copy when the new layout was asked for, or it is the
baseline of the attempt that was returned. -/
def Captured (gate : Gate) (order : UpgradeOrder) (trace : Trace collaborators)
    (result : Except Failure Attempt) (layout : Layout) : Prop :=
  gate.captured? order trace = some layout ∨
    ∃ attempt, result = .ok attempt ∧ attempt.baseline = some layout

/-- A failed run that asked nothing captured nothing. -/
theorem not_captured_nil {failure : Failure} {layout : Layout} :
    ¬ Captured gate order [] (.error failure) layout := by
  intro ended
  rcases ended with taken | ⟨attempt, returned, -⟩
  · cases taken
  · cases returned

/-- The layout behind a proxy is valid, as all that is read from the store. -/
theorem valid_of_live? {layout : Layout} {disk : Disk}
    (live : gate.live? disk contract network previous = .ok layout) : layout.Valid := by
  rw [live?] at live
  cases read : gate.store.reading disk .baseline (liveName contract previous) network with
  | error failure =>
    rw [read] at live
    cases live
  | ok found =>
    rw [read] at live
    cases found with
    | some layout =>
      cases live
      exact LayoutStore.valid_of_reading read
    | none =>
      simp only [bind, Except.bind] at live
      split at live
      · cases live
        exact Layout.valid_empty _
      · cases other : gate.store.reading disk .baseline contract network with
        | error failure =>
          rw [other] at live
          cases live
        | ok found =>
          rw [other] at live
          cases found with
          | none =>
            cases live
            exact Layout.valid_empty _
          | some layout =>
            cases live
            exact LayoutStore.valid_of_reading other

/-- **What is captured** is the layout behind the proxy. -/
theorem Run.captures [AddressRule] {result : Except Failure Attempt} {layout : Layout}
    (run : Run gate order books trace result after)
    (captured : Captured gate order trace result layout) :
    ∃ proxy previous, Address.parse order.proxy = .ok proxy ∧
      books.latest? proxy order.network = .ok previous ∧
      gate.live? books.disk order.contract order.network previous = .ok layout := by
  cases run with
  | misaddressed => exact absurd captured not_captured_nil
  | untraced => exact absurd captured not_captured_nil
  | unread => exact absurd captured not_captured_nil
  | unheld => exact absurd captured not_captured_nil
  | @held proxy previous baseline path scratch _ ended middle parsed latest live written
      attempted =>
    refine ⟨proxy, previous, parsed, latest, ?_⟩
    have own : ∀ {found : Option Layout}, gate.store.reading scratch .scratch order.contract
        order.network = .ok found → found = some baseline :=
      (LayoutStore.holds_of_write written).eq_of_reading (valid_of_live? live)
    have asked : ∀ {found : Option Layout} {answer rest}, gate.store.reading scratch .scratch
        order.contract order.network = .ok found → gate.captured? order
          (exchange (.layout order.contract) scratch answer :: rest) = some baseline :=
      fun read => (captured?_of_reading read).trans (own read)
    suffices same : layout = baseline by rw [same, live]
    cases attempted with
    | unread => exact absurd captured not_captured_nil
    | uncompiled failure read =>
      rcases captured with taken | ⟨attempt, returned, -⟩
      · exact Option.some.inj (taken.symm.trans (asked read))
      · cases returned
    | missing candidate read => cases own read
    | blocked candidate told read =>
      rcases captured with taken | ⟨attempt, returned, taken⟩
      · exact Option.some.inj (taken.symm.trans (asked read))
      · cases returned
        exact Option.some.inj (taken.symm.trans (own read))
    | @tried found candidate trace outcome _ read override path =>
      rcases captured with taken | ⟨attempt, returned, taken⟩
      · exact Option.some.inj (taken.symm.trans (asked read))
      · cases outcome with
        | error => cases returned
        | ok finished =>
          obtain ⟨_, _, _, _, rfl, -⟩ := path.of_ok
          cases returned
          exact Option.some.inj (taken.symm.trans (own read))

end Gate

end UpgradeGate
