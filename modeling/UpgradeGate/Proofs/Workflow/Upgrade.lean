import UpgradeGate.Proofs.Workflow.FastPath

/-!
# How upgrades end

An upgrade fails before its scratch copy is written, or the copy is written, the attempt is made
with it, and the copy is discarded, which never fails (`Gate.Run`, `Gate.ends_run`). Before the
copy is written nobody is asked anything.
-/

namespace UpgradeGate

open UpgradeGate.Flow

variable {gate : Gate} {order : UpgradeOrder} {proxy : Address}
  {previous : Option DeploymentRecord} {books after : Books} {trace : Trace collaborators}

/-! ## The layout behind a proxy -/

/-- The latest record of a proxy on a network. -/
def Books.latest? (books : Books) (proxy : Address) (network : String) :
    Except Failure (Option DeploymentRecord) :=
  books.ledger.bind fun rows => DeploymentLog.latest? books.now rows proxy network

/-- Books that tell a proxy's latest record are readable. -/
theorem Books.ledger_of_latest? {books : Books} {network : String}
    (latest : books.latest? proxy network = .ok previous) : ∃ rows, books.ledger = .ok rows := by
  cases ledger : books.ledger with
  | ok rows => exact ⟨rows, rfl⟩
  | error failure =>
    rw [Books.latest?, ledger] at latest
    cases latest

namespace Gate

theorem settles_latestRecord? (books : Books) (proxy : Address) (network : String) :
    (latestRecord? proxy network).Settles books (books.latest? proxy network) := by
  have same : books.latest? proxy network =
      ((books.ledger >>= fun rows => DeploymentLog.forProxy books.now rows proxy) >>= fun records =>
        .ok (records.filter (·.network == network)).getLast?) := by
    rw [Books.latest?]
    cases books.ledger with
    | error failure => rfl
    | ok rows =>
      change DeploymentLog.latest? books.now rows proxy network =
        DeploymentLog.forProxy books.now rows proxy >>= _
      rw [DeploymentLog.latest?]
      cases DeploymentLog.forProxy books.now rows proxy <;> rfl
  rw [same]
  exact (settles_recordsOfProxy books proxy).bind fun records => settles_pure books _

/-- The contract whose baseline is behind a proxy. -/
def liveName (contract : String) (previous : Option DeploymentRecord) : String :=
  (previous.map DeploymentRecord.contract).getD contract

/-- The layout behind a proxy, as the store has it. -/
def live? (gate : Gate) (disk : Disk) (contract network : String)
    (previous : Option DeploymentRecord) : Except Failure Layout := do
  match ← gate.store.reading disk .baseline (liveName contract previous) network with
  | some layout => pure layout
  | none =>
    if liveName contract previous = contract then pure (Layout.empty (some contract))
    else
      let other ← gate.store.reading disk .baseline contract network
      pure (other.getD (Layout.empty (some contract)))

theorem settles_reading (gate : Gate) (books : Books) (copy : Copy) (contract network : String) :
    (Flow.onDisk (gate.store.read? copy contract network)).Settles books
      (gate.store.reading books.disk copy contract network) := by
  intro trace result after
  rw [ends_onDisk, LayoutStore.run_read?]

/-- The live layout settles as the three places it is looked for in. -/
theorem settles_liveLayout (gate : Gate) (books : Books) (contract network : String)
    (previous : Option DeploymentRecord) :
    (gate.liveLayout contract network previous).Settles books
      (gate.live? books.disk contract network previous) := by
  refine (gate.settles_reading books .baseline _ network).bind fun found => ?_
  cases found with
  | some layout => exact settles_pure books layout
  | none =>
    dsimp only
    rw [← liveName]
    by_cases same : liveName contract previous = contract
    · rw [if_pos same, if_pos same]
      exact settles_pure books _
    · rw [if_neg same, if_neg same]
      exact (gate.settles_reading books .baseline contract network).bind fun other =>
        settles_pure books _

/-! ## Attempts -/

/-- An attempt after the layouts were compared. -/
def compared (fresh : Attempt) (baseline candidate : Layout) : Attempt :=
  { fresh with
    stage := .baselineCaptured
    baseline := some baseline
    candidate := some candidate
    compatible := some (baseline.compare candidate).compatible
    diff := (baseline.compare candidate).lines }

/-- An attempt that was blocked. -/
def block (attempt : Attempt) (compatible : Bool) : Attempt :=
  { attempt with
    stage := .blocked
    outcome := if compatible then .passed else .collisionBlocked }

/-- The books of an attempt that captured its baseline. -/
def captureBooks (books : Books) : Books :=
  { books with stages := books.stages ++ [Stage.baselineCaptured] }

/-- How an attempt ends while its scratch copy is held. -/
inductive Attempted [AddressRule] (gate : Gate) (order : UpgradeOrder) (proxy : Address)
    (previous : Option DeploymentRecord) (fresh : Attempt) (books : Books) :
    Trace collaborators → Except Failure (Attempt × Report) → Books → Prop where
  | unread {failure : Failure}
      (unreadable : gate.store.reading books.disk .scratch order.contract order.network =
        .error failure) :
      Attempted gate order proxy previous fresh books [] (.error failure) books
  | uncompiled {captured : Option Layout} (failure : Failure)
      (read : gate.store.reading books.disk .scratch order.contract order.network = .ok captured) :
      Attempted gate order proxy previous fresh books
        [exchange (.layout order.contract) books.disk (.error failure)] (.error failure)
        (captureBooks books)
  | missing (candidate : Layout)
      (absent : gate.store.reading books.disk .scratch order.contract order.network = .ok none) :
      Attempted gate order proxy previous fresh books
        [exchange (.layout order.contract) books.disk (.ok candidate)] (.error (.plain .operation))
        (captureBooks books)
  | blocked {baseline : Layout} (candidate : Layout) (told : Except Failure Unit)
      (read : gate.store.reading books.disk .scratch order.contract order.network =
        .ok (some baseline))
      (plain : order.override = false) :
      Attempted gate order proxy previous fresh books
        [exchange (.layout order.contract) books.disk (.ok candidate),
          exchange (.announce (.blocked (block (compared fresh baseline candidate)
            (baseline.compare candidate).compatible))) books.disk told]
        (.ok (block (compared fresh baseline candidate) (baseline.compare candidate).compatible,
          baseline.compare candidate))
        { captureBooks books with
          stages := (captureBooks books).stages ++ [Stage.diffPath] ++ [Stage.blocked] }
  | tried {baseline : Layout} (candidate : Layout) {trace : Trace collaborators}
      {result : Except Failure Attempt} {after : Books}
      (read : gate.store.reading books.disk .scratch order.contract order.network =
        .ok (some baseline))
      (override : order.override = true)
      (path : FastPath gate order proxy previous candidate (baseline.compare candidate).compatible
        (compared fresh baseline candidate)
        { captureBooks books with stages := (captureBooks books).stages ++ [Stage.fastPath] }
        trace result after) :
      Attempted gate order proxy previous fresh books
        (exchange (.layout order.contract) books.disk (.ok candidate) :: trace)
        (result.map fun finished => (finished, baseline.compare candidate)) after

/-- A report beside an attempt does not change the attempt. -/
theorem map_fst_map_report (result : Except Failure Attempt) (report : Report) :
    (result.map fun finished => (finished, report)).map Prod.fst = result := by
  cases result <;> rfl

/-- The path without override announces the block and ends with the attempt blocked. -/
theorem ends_diffPath {compatible : Bool} {attempt : Attempt} {result : Except Failure Attempt} :
    (diffPath compatible attempt).Ends books trace result after ↔ ∃ told,
      trace = [exchange (.announce (.blocked (block attempt compatible))) books.disk told] ∧
      result = .ok (block attempt compatible) ∧
      after = { books with stages := books.stages ++ [Stage.diffPath] ++ [Stage.blocked] } := by
  rw [diffPath, ends_enter_bind, ends_enter_bind]
  dsimp only
  rw [ends_announce_bind]
  constructor
  · intro ended
    obtain ⟨told, _, rfl, returning⟩ := ended
    obtain ⟨rfl, rfl, rfl⟩ := ends_pure.1 returning
    exact ⟨told, rfl, rfl, rfl⟩
  · intro ended
    obtain ⟨told, rfl, rfl, rfl⟩ := ended
    exact ⟨told, [], rfl, ends_pure.2 ⟨rfl, rfl, rfl⟩⟩

/-- **An attempt** ends in one of these ways. -/
theorem ends_attemptWith [AddressRule] {fresh : Attempt}
    {result : Except Failure (Attempt × Report)} :
    (gate.attemptWith order proxy previous fresh).Ends books trace result after ↔
      Attempted gate order proxy previous fresh books trace result after := by
  rw [attemptWith, (gate.settles_reading books .scratch order.contract order.network).ends_bind]
  simp only [ends_enter_bind]
  constructor
  · intro ended
    rcases ended with ⟨captured, read, asking⟩ | ⟨failure, unreadable, rfl, rfl, rfl⟩
    case inr => exact .unread unreadable
    rcases ends_ask_bind.1 asking with ⟨candidate, rest, rfl, comparing⟩ | ⟨failure, rfl, rfl, rfl⟩
    case inr => exact .uncompiled failure read
    cases captured with
    | none =>
      obtain ⟨rfl, rfl, rfl⟩ := ends_throw.1 comparing
      exact .missing candidate read
    | some baseline =>
      dsimp only at comparing
      split at comparing
      · next override =>
        rw [← map_eq_pure_bind] at comparing
        obtain ⟨finished, followed, rfl⟩ := ends_map.1 comparing
        exact .tried candidate read override (ends_fastPath.1 followed)
      · next plain =>
        rw [← map_eq_pure_bind] at comparing
        obtain ⟨finished, followed, rfl⟩ := ends_map.1 comparing
        obtain ⟨told, rfl, rfl, rfl⟩ := ends_diffPath.1 followed
        exact .blocked candidate told read (by simpa using plain)
  · intro attempted
    cases attempted with
    | unread unreadable => exact .inr ⟨_, unreadable, rfl, rfl, rfl⟩
    | uncompiled failure read =>
      exact .inl ⟨_, read, ends_ask_bind.2 (.inr ⟨failure, rfl, rfl, rfl⟩)⟩
    | missing candidate absent =>
      refine .inl ⟨_, absent, ends_ask_bind.2 (.inl ⟨candidate, [], rfl, ?_⟩)⟩
      exact ends_throw.2 ⟨rfl, rfl, rfl⟩
    | blocked candidate told read plain =>
      refine .inl ⟨_, read, ends_ask_bind.2 (.inl ⟨candidate, _, rfl, ?_⟩)⟩
      dsimp only
      rw [if_neg (by simp [plain]), ← map_eq_pure_bind]
      exact ends_map.2 ⟨_, ends_diffPath.2 ⟨told, rfl, rfl, rfl⟩, rfl⟩
    | tried candidate read override path =>
      refine .inl ⟨_, read, ends_ask_bind.2 (.inl ⟨candidate, _, rfl, ?_⟩)⟩
      dsimp only
      rw [if_pos override, ← map_eq_pure_bind]
      exact ends_map.2 ⟨_, ends_fastPath.2 path, rfl⟩

/-- An attempt appends to the log and touches the baseline of the order's contract. -/
theorem Attempted.keeps [AddressRule] {fresh : Attempt} {result : Except Failure (Attempt × Report)}
    (attempted : Attempted gate order proxy previous fresh books trace result after) :
    Books.Keeps (gate.store.Touches .baseline order.contract order.network) books after := by
  have captured : Books.Keeps (gate.store.Touches .baseline order.contract order.network) books
      (captureBooks books) := (Books.Keeps.refl _ books).congr rfl rfl rfl
  cases attempted with
  | unread => exact .refl _ _
  | uncompiled => exact captured
  | missing => exact captured
  | blocked => exact captured.congr rfl rfl rfl
  | tried _ _ _ path =>
    have entered : Books.Keeps (gate.store.Touches .baseline order.contract order.network) books
        { captureBooks books with stages := (captureBooks books).stages ++ [Stage.fastPath] } :=
      captured.congr rfl rfl rfl
    exact entered.trans path.keeps

/-! ## Upgrades -/

/-- The books of an upgrade that has begun. -/
def startBooks (books : Books) : Books :=
  { books with stages := books.stages ++ [Stage.start] }

theorem keeps_startBooks (touched : Place → Prop) (books : Books) :
    Books.Keeps touched books (startBooks books) :=
  (Books.Keeps.refl _ books).congr rfl rfl rfl

/-- The attempt of an upgrade that has begun. -/
def freshAttempt (order : UpgradeOrder) (proxy : Address) : Attempt :=
  Attempt.fresh order.contract order.network proxy.text order.override order.initData

/-- The books after an attempt was counted. -/
def countBooks (ended : Except Failure (Attempt × Report)) (books : Books) : Books :=
  match ended with
  | .ok (attempt, report) =>
    { books with
      tally := (books.tally.attempt attempt.outcome.name).collided report.collisions }
  | .error failure =>
    if failure.kind.isDeployment then { books with tally := books.tally.attempt "failed" }
    else books

theorem keeps_countBooks (ended : Except Failure (Attempt × Report)) (books : Books) :
    Books.Keeps (fun _ => False) books (countBooks ended books) := by
  unfold countBooks
  split
  · exact (Books.Keeps.refl _ _).congr rfl rfl rfl
  · split
    · exact (Books.Keeps.refl _ _).congr rfl rfl rfl
    · exact .refl _ _

/-- How an upgrade ends. -/
inductive Run [AddressRule] (gate : Gate) (order : UpgradeOrder) (books : Books) :
    Trace collaborators → Except Failure Attempt → Books → Prop where
  | misaddressed {failure : Failure} (unparsed : Address.parse order.proxy = .error failure) :
      Run gate order books [] (.error failure) books
  | untraced {proxy : Address} {failure : Failure} (parsed : Address.parse order.proxy = .ok proxy)
      (untraced : books.latest? proxy order.network = .error failure) :
      Run gate order books [] (.error failure) (startBooks books)
  | unread {proxy : Address} {previous : Option DeploymentRecord} {failure : Failure}
      (parsed : Address.parse order.proxy = .ok proxy)
      (latest : books.latest? proxy order.network = .ok previous)
      (unread : gate.live? books.disk order.contract order.network previous = .error failure) :
      Run gate order books [] (.error failure) (startBooks books)
  | unheld {proxy : Address} {previous : Option DeploymentRecord} {baseline : Layout}
      {failure : Failure} {disk : Disk} (parsed : Address.parse order.proxy = .ok proxy)
      (latest : books.latest? proxy order.network = .ok previous)
      (live : gate.live? books.disk order.contract order.network previous = .ok baseline)
      (unwritten : (gate.store.write books.now .scratch order.contract order.network
        baseline).run.run books.disk = (.error failure, disk)) :
      Run gate order books [] (.error failure)
        (countBooks (.error failure) { startBooks books with disk := disk })
  | held {proxy : Address} {previous : Option DeploymentRecord} {baseline : Layout} {path : Path}
      {scratch : Disk} {trace : Trace collaborators} {ended : Except Failure (Attempt × Report)}
      {middle : Books} (parsed : Address.parse order.proxy = .ok proxy)
      (latest : books.latest? proxy order.network = .ok previous)
      (live : gate.live? books.disk order.contract order.network previous = .ok baseline)
      (written : (gate.store.write books.now .scratch order.contract order.network
        baseline).run.run books.disk = (.ok path, scratch))
      (attempted : Attempted gate order proxy previous (freshAttempt order proxy)
        { startBooks books with disk := scratch } trace ended middle) :
      Run gate order books trace (ended.map Prod.fst) (countBooks ended { middle with
        disk := middle.disk.drop (gate.store.place .scratch order.contract order.network) })

/-- The scratch copy, once written, stands through the attempt. -/
theorem Attempted.stands [AddressRule] {fresh : Attempt}
    {result : Except Failure (Attempt × Report)}
    {now : Moment} {baseline : Layout} {path : Path} {before scratch : Disk}
    (attempted : Attempted gate order proxy previous fresh { books with disk := scratch } trace
      result after)
    (written : (gate.store.write now .scratch order.contract order.network baseline).run.run
      before = (.ok path, scratch)) :
    after.disk.Stands (gate.store.place .scratch order.contract order.network) := by
  obtain ⟨allowed, -, found⟩ := LayoutStore.run_write_ok written
  refine attempted.keeps.stands ?_ ⟨_, found, nofun⟩
  rw [LayoutStore.touches_place_iff allowed.2 allowed.2]
  exact fun same => nomatch same.1

/-- The scratch copy is gone after the attempt, however the attempt ended. -/
theorem Attempted.discarded [AddressRule] {fresh : Attempt}
    {result : Except Failure (Attempt × Report)}
    {now : Moment} {baseline : Layout} {path : Path} {before scratch : Disk}
    (attempted : Attempted gate order proxy previous fresh { books with disk := scratch } trace
      result after)
    (written : (gate.store.write now .scratch order.contract order.network baseline).run.run
      before = (.ok path, scratch)) :
    (gate.store.discardScratch order.contract order.network).run.run after.disk =
      (.ok (), after.disk.drop (gate.store.place .scratch order.contract order.network)) := by
  obtain ⟨allowed, ready, -⟩ := LayoutStore.run_write_ok written
  exact LayoutStore.run_discardScratch_of_stands allowed (attempted.keeps.disk.follow ready.1)
    (attempted.stands written)

/-- While a scratch copy is held, an attempt is made, and the copy is discarded in any case. -/
theorem ends_holdingScratch [AddressRule] {fresh : Attempt} {baseline : Layout}
    {result : Except Failure (Attempt × Report)} :
    (gate.holdingScratch order.contract order.network baseline
        (gate.attemptWith order proxy previous fresh)).Ends books trace result after ↔
      (∃ path scratch middle, (gate.store.write books.now .scratch order.contract order.network
          baseline).run.run books.disk = (.ok path, scratch) ∧
        Attempted gate order proxy previous fresh { books with disk := scratch } trace result
          middle ∧
        after = { middle with
          disk := middle.disk.drop (gate.store.place .scratch order.contract order.network) }) ∨
      ∃ failure disk, (gate.store.write books.now .scratch order.contract order.network
          baseline).run.run books.disk = (.error failure, disk) ∧ trace = [] ∧
        result = .error failure ∧ after = { books with disk := disk } := by
  rw [holdingScratch, ends_get_bind, ends_onDisk_bind]
  refine or_congr ⟨?_, ?_⟩ Iff.rfl
  · intro ended
    obtain ⟨path, scratch, written, holding⟩ := ended
    obtain ⟨outcome, middle, cleaned, _, _, body, cleanup, rfl, rfl⟩ := ends_ensuring.1 holding
    have attempted := ends_attemptWith.1 body
    obtain ⟨rfl, rfl, rfl⟩ := ends_onDisk.1 cleanup
    rw [attempted.discarded written, List.append_nil]
    exact ⟨path, scratch, middle, written, attempted, rfl⟩
  · intro ended
    obtain ⟨path, scratch, middle, written, attempted, rfl⟩ := ended
    refine ⟨path, scratch, written, ends_ensuring.2 ⟨result, middle, .ok (), trace, [],
      ends_attemptWith.2 attempted, ends_onDisk.2 ?_, (List.append_nil _).symm, rfl⟩⟩
    rw [attempted.discarded written]
    exact ⟨rfl, rfl, rfl⟩

/-- An upgrade from the layout behind the proxy on. -/
def upgradeFrom [AddressRule] (gate : Gate) (order : UpgradeOrder) (proxy : Address)
    (previous : Option DeploymentRecord) (baseline : Layout) : Flow Attempt := do
  let (attempt, report) ←
    gate.holdingScratch order.contract order.network baseline
      (gate.attemptWith order proxy previous (freshAttempt order proxy))
    |> Flow.onFailure Kind.isDeployment (Flow.count (Tally.attempt "failed"))
  Flow.count (Tally.attempt attempt.outcome.name)
  Flow.count (Tally.collided report.collisions)
  pure attempt

/-- An upgrade from a baseline writes the scratch copy, attempts, discards the copy and counts, or
fails at the write. -/
theorem ends_upgradeFrom [AddressRule] {baseline : Layout} {result : Except Failure Attempt} :
    (gate.upgradeFrom order proxy previous baseline).Ends books trace result after ↔
      (∃ path scratch ended middle, (gate.store.write books.now .scratch order.contract
          order.network baseline).run.run books.disk = (.ok path, scratch) ∧
        Attempted gate order proxy previous (freshAttempt order proxy)
          { books with disk := scratch } trace ended middle ∧
        result = ended.map Prod.fst ∧ after = countBooks ended { middle with
          disk := middle.disk.drop (gate.store.place .scratch order.contract order.network) }) ∨
      ∃ failure disk, (gate.store.write books.now .scratch order.contract order.network
          baseline).run.run books.disk = (.error failure, disk) ∧ trace = [] ∧
        result = .error failure ∧
        after = countBooks (.error failure) { books with disk := disk } := by
  rw [upgradeFrom]
  constructor
  · intro ended
    rcases ends_bind.1 ended with ⟨⟨attempt, report⟩, _, _, _, held, counting, rfl⟩ |
      ⟨failure, failed, rfl⟩
    · obtain ⟨last, kept, rfl⟩ := ends_onFailure.1 held
      rw [ends_count_bind, ends_count_bind] at counting
      obtain ⟨rfl, rfl, rfl⟩ := ends_pure.1 counting
      rcases ends_holdingScratch.1 kept with ⟨path, scratch, middle, written, attempted, rfl⟩ |
        ⟨_, _, -, -, ⟨⟩, -⟩
      rw [List.append_nil]
      exact .inl ⟨path, scratch, .ok (attempt, report), middle, written, attempted, rfl, rfl⟩
    · obtain ⟨last, kept, rfl⟩ := ends_onFailure.1 failed
      rcases ends_holdingScratch.1 kept with ⟨path, scratch, middle, written, attempted, rfl⟩ |
        ⟨_, disk, unwritten, rfl, ⟨⟩, rfl⟩
      · exact .inl ⟨path, scratch, .error failure, middle, written, attempted, rfl, rfl⟩
      · exact .inr ⟨failure, disk, unwritten, rfl, rfl, rfl⟩
  · intro ended
    rcases ended with ⟨path, scratch, ended, middle, written, attempted, rfl, rfl⟩ |
      ⟨failure, disk, unwritten, rfl, rfl, rfl⟩
    · have kept := ends_holdingScratch.2 (.inl ⟨path, scratch, middle, written, attempted, rfl⟩)
      cases ended with
      | ok outcome =>
        refine ends_bind.2 (.inl ⟨outcome, _, trace, [], ends_onFailure.2 ⟨_, kept, rfl⟩, ?_,
          (List.append_nil _).symm⟩)
        rw [ends_count_bind, ends_count_bind]
        exact ends_pure.2 ⟨rfl, rfl, rfl⟩
      | error failure => exact ends_bind.2 (.inr ⟨failure, ends_onFailure.2 ⟨_, kept, rfl⟩, rfl⟩)
    · refine ends_bind.2 (.inr ⟨failure, ends_onFailure.2 ⟨_, ?_, rfl⟩, rfl⟩)
      exact ends_holdingScratch.2 (.inr ⟨failure, disk, unwritten, rfl, rfl, rfl⟩)

/-- **An upgrade** ends in one of these ways. -/
theorem ends_run [AddressRule] {result : Except Failure Attempt} :
    (gate.run order).Ends books trace result after ↔ Run gate order books trace result after := by
  have steps : (gate.run order) = (do
      let proxy ← Flow.lift (Address.parse order.proxy)
      Flow.enter .start
      let previous ← latestRecord? proxy order.network
      let baseline ← gate.liveLayout order.contract order.network previous
      gate.upgradeFrom order proxy previous baseline) := rfl
  have latest : ∀ proxy : Address, (latestRecord? proxy order.network).Settles (startBooks books)
      (books.latest? proxy order.network) := fun proxy => settles_latestRecord? _ proxy _
  have live : ∀ previous, (gate.liveLayout order.contract order.network previous).Settles
      (startBooks books) (gate.live? books.disk order.contract order.network previous) :=
    fun previous => gate.settles_liveLayout _ _ _ previous
  rw [steps, ends_lift_bind]
  constructor
  · intro ended
    rcases ended with ⟨proxy, parsed, starting⟩ | ⟨failure, unparsed, rfl, rfl, rfl⟩
    case inr => exact .misaddressed unparsed
    rw [ends_enter_bind] at starting
    rcases (latest proxy).ends_bind.1 starting with ⟨previous, found, reading⟩ |
      ⟨failure, untraced, rfl, rfl, rfl⟩
    case inr => exact .untraced parsed untraced
    rcases (live previous).ends_bind.1 reading with ⟨baseline, read, upgrading⟩ |
      ⟨failure, unread, rfl, rfl, rfl⟩
    case inr => exact .unread parsed found unread
    rcases ends_upgradeFrom.1 upgrading with
      ⟨path, scratch, ended, middle, written, attempted, rfl, rfl⟩ |
      ⟨failure, disk, unwritten, rfl, rfl, rfl⟩
    · exact .held parsed found read written attempted
    · exact .unheld parsed found read unwritten
  · intro ways
    cases ways with
    | misaddressed unparsed => exact .inr ⟨_, unparsed, rfl, rfl, rfl⟩
    | untraced parsed untraced =>
      refine .inl ⟨_, parsed, ?_⟩
      rw [ends_enter_bind]
      exact (latest _).ends_bind.2 (.inr ⟨_, untraced, rfl, rfl, rfl⟩)
    | unread parsed found unread =>
      refine .inl ⟨_, parsed, ?_⟩
      rw [ends_enter_bind]
      refine (latest _).ends_bind.2 (.inl ⟨_, found, ?_⟩)
      exact (live _).ends_bind.2 (.inr ⟨_, unread, rfl, rfl, rfl⟩)
    | unheld parsed found read unwritten =>
      refine .inl ⟨_, parsed, ?_⟩
      rw [ends_enter_bind]
      refine (latest _).ends_bind.2 (.inl ⟨_, found, ?_⟩)
      refine (live _).ends_bind.2 (.inl ⟨_, read, ?_⟩)
      exact ends_upgradeFrom.2 (.inr ⟨_, _, unwritten, rfl, rfl, rfl⟩)
    | held parsed found read written attempted =>
      refine .inl ⟨_, parsed, ?_⟩
      rw [ends_enter_bind]
      refine (latest _).ends_bind.2 (.inl ⟨_, found, ?_⟩)
      refine (live _).ends_bind.2 (.inl ⟨_, read, ?_⟩)
      exact ends_upgradeFrom.2 (.inl ⟨_, _, _, _, written, attempted, rfl, rfl⟩)

/-! ## What it touches -/

section Held

variable {fresh : Attempt} {ended : Except Failure (Attempt × Report)} {middle : Books}
  {baseline : Layout} {path : Path} {scratch : Disk} {touched : Place → Prop}

/-- The place of the scratch copy is free after the attempt. -/
theorem Attempted.free [AddressRule] (attempted : Attempted gate order proxy previous fresh
      { startBooks books with disk := scratch } trace ended middle)
    (written : (gate.store.write books.now .scratch order.contract order.network baseline).run.run
      books.disk = (.ok path, scratch)) :
    middle.disk.node? (gate.store.place .scratch order.contract order.network) ≠ some .folder := by
  obtain ⟨node, found, solid⟩ := attempted.stands written
  rw [found]
  exact fun same => solid (Option.some.inj same)

/-- What an attempt touches is touched by the upgrade, and its scratch copy besides. -/
theorem Attempted.keeps_held [AddressRule] (attempted : Attempted gate order proxy previous fresh
      { startBooks books with disk := scratch } trace ended middle)
    (written : (gate.store.write books.now .scratch order.contract order.network baseline).run.run
      books.disk = (.ok path, scratch))
    (keeps : Books.Keeps touched { startBooks books with disk := scratch } middle)
    (within : ∀ place, gate.store.Touches .scratch order.contract order.network place →
      touched place) :
    Books.Keeps touched books (countBooks ended { middle with
      disk := middle.disk.drop (gate.store.place .scratch order.contract order.network) }) := by
  have copied := LayoutStore.keeps_of_write written
  have started : Books.Keeps touched books { startBooks books with disk := scratch } :=
    (keeps_startBooks touched books).trans (.ofDisk (copied.mono within))
  have discarded : Disk.Keeps touched middle.disk
      (middle.disk.drop (gate.store.place .scratch order.contract order.network)) :=
    (Disk.Keeps.drop _ (attempted.free written)).mono fun place own =>
      within place (.inl own)
  exact ((started.trans keeps).trans (.ofDisk discarded)).trans
    ((keeps_countBooks ended _).mono fun _ => False.elim)

end Held

/-- A run touches no place outside the baseline and the scratch copy of its contract and network. -/
theorem Run.keeps [AddressRule] {result : Except Failure Attempt}
    (run : Run gate order books trace result after) :
    Books.Keeps (fun place => ∃ copy, gate.store.Touches copy order.contract order.network place)
      books after := by
  cases run with
  | misaddressed => exact .refl _ _
  | untraced => exact keeps_startBooks _ _
  | unread => exact keeps_startBooks _ _
  | @unheld _ _ baseline _ disk _ _ _ unwritten =>
    have copied := LayoutStore.keeps_of_write unwritten
    refine ((keeps_startBooks _ books).trans (.ofDisk (copied.mono ?_))).trans
      ((keeps_countBooks _ _).mono fun _ => False.elim)
    exact fun place inside => ⟨.scratch, inside⟩
  | held _ _ _ written attempted =>
    exact attempted.keeps_held written (attempted.keeps.mono fun _ inside => ⟨.baseline, inside⟩)
      fun _ inside => ⟨.scratch, inside⟩

end Gate

end UpgradeGate
