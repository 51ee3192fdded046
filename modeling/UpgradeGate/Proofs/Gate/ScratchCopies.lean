import UpgradeGate.Proofs.Gate.Advisory
import UpgradeGate.Proofs.Workflow.Backing
import UpgradeGate.Proofs.Workflow.Calls
import UpgradeGate.Proofs.Workflow.Comparisons

/-!
# Scratch copies

A run holds a scratch copy of the layout behind the proxy while it asks for anything, and discards
it however it ends (`Gate.scratch_discarded`). So no calls of the workflow leave a scratch copy
behind in a workspace without any.
-/

namespace UpgradeGate.Gate

open UpgradeGate.Flow

variable {gate : Gate} {order : UpgradeOrder} {proxy : Address}
  {previous : Option DeploymentRecord} {books after : Books} {trace : Trace collaborators}

/-- A run comes to hold a scratch copy: the layout behind the proxy was loaded, and a copy of it
was written. -/
def Holding [AddressRule] (gate : Gate) (order : UpgradeOrder) (books : Books) (baseline : Layout) :
    Prop :=
  ∃ proxy previous path scratch, Address.parse order.proxy = .ok proxy ∧
    books.latest? proxy order.network = .ok previous ∧
    gate.live? books.disk order.contract order.network previous = .ok baseline ∧
    (gate.store.write books.now .scratch order.contract order.network baseline).run.run books.disk =
      (.ok path, scratch)

/-- The bytes of all scratch copies are as they were, apart from that of one contract. -/
def ScratchKept (gate : Gate) (before after : Disk) (changed : String → String → Prop) : Prop :=
  ∀ contract network, LayoutStore.Allowed contract network → ¬ changed contract network →
    after.file? (gate.store.place .scratch contract network) =
      before.file? (gate.store.place .scratch contract network)

/-- There is no scratch copy. -/
def Unscratched (gate : Gate) (disk : Disk) : Prop :=
  ∀ contract network, LayoutStore.Allowed contract network →
    disk.file? (gate.store.place .scratch contract network) = none

/-- Where scratch copies are kept, none appears. -/
theorem Unscratched.of_kept {before after : Disk} (none_before : Unscratched gate before)
    (kept : ScratchKept gate before after fun _ _ => False) : Unscratched gate after := by
  intro contract network allowed
  rw [kept contract network allowed nofun]
  exact none_before contract network allowed

/-! ## While a scratch copy is held -/

section Held

variable {fresh : Attempt} {ended : Except Failure (Attempt × Report)} {middle : Books}
  {baseline : Layout} {path : Path} {scratch : Disk}

/-- Whenever an attempt asks for anything, its scratch copy is read as the layout that was
written. -/
theorem Attempted.reading_scratch [AddressRule]
    (attempted : Attempted gate order proxy previous fresh
      { startBooks books with disk := scratch } trace ended middle)
    (written : (gate.store.write books.now .scratch order.contract order.network baseline).run.run
      books.disk = (.ok path, scratch))
    (valid : baseline.Valid) {exchange : Exchange collaborators} (asked : exchange ∈ trace) :
    gate.store.reading exchange.call.disk .scratch order.contract order.network =
      .ok (some baseline) := by
  have holds := LayoutStore.holds_of_write written
  have allowed := (LayoutStore.run_write_ok written).1
  have apart : ¬ gate.store.Touches .baseline order.contract order.network
      (gate.store.place .scratch order.contract order.network) := by
    rw [LayoutStore.touches_place_iff allowed.2 allowed.2]
    exact fun same => nomatch same.1
  have flow : (gate.attemptWith order proxy previous fresh).Along
      (Books.Keeps (gate.store.Touches .baseline order.contract order.network)) :=
    along_attemptWith (steady_keeps _) (fun books _ => books.keeps_recorded_of _ _)
      (fun books _ _ => books.keeps_recorded_of _ _)
      (fun _ _ _ => .ofDisk (LayoutStore.keeps_write ..)) fresh
  obtain ⟨during, keeps, same⟩ := flow.asks (ends_attemptWith.2 attempted) exchange asked
  have still := holds.of_books keeps (keeps.files apart)
  -- nothing is asked before the copy was read back, so it can be read
  have typed : baseline.Typed := by
    have readable : ∀ {found}, gate.store.reading scratch .scratch order.contract order.network =
        .ok found → baseline.Typed := by
      intro found read
      rw [holds.eq_of_reading valid read] at read
      exact (holds.reading_eq_iff allowed valid).1 read
    cases attempted with
    | unread => cases asked
    | uncompiled _ read => exact readable read
    | missing _ read => exact readable read
    | blocked _ _ read => exact readable read
    | tried _ read => exact readable read
  rw [same]
  exact (still.reading_eq_iff allowed valid).2 typed

/-- Once the scratch copy is discarded, nothing is in its place, and nothing is read there. -/
theorem Attempted.reading_discarded [AddressRule]
    (attempted : Attempted gate order proxy previous fresh
      { startBooks books with disk := scratch } trace ended middle)
    (written : (gate.store.write books.now .scratch order.contract order.network baseline).run.run
      books.disk = (.ok path, scratch)) :
    let left := middle.disk.drop (gate.store.place .scratch order.contract order.network)
    left.node? (gate.store.place .scratch order.contract order.network) = none ∧
      gate.store.reading left .scratch order.contract order.network = .ok none := by
  obtain ⟨allowed, ready, -⟩ := LayoutStore.run_write_ok written
  have inside : gate.store.place .scratch order.contract order.network ≠ [] :=
    LayoutStore.place_ne_nil allowed.2
  have gone := middle.disk.node?_drop_self inside
  have reached := (ready.keeps attempted.keeps.disk).keeps
    (Disk.Keeps.drop middle.disk (attempted.free written))
  exact ⟨gone, LayoutStore.reading_of_absent allowed reached.1 gone⟩

end Held

/-! ## Runs -/

/-- How a run leaves the scratch copies: it held one and discarded it, or it failed before it held
one, and asked for nothing. -/
inductive ScratchLeft [AddressRule] (gate : Gate) (order : UpgradeOrder) (books : Books)
    (trace : Trace collaborators) (result : Except Failure Attempt) (after : Books) : Prop where
  | discarded {baseline : Layout} (holding : Holding gate order books baseline)
      (gone : after.disk.node? (gate.store.place .scratch order.contract order.network) = none)
      (absent : gate.store.reading after.disk .scratch order.contract order.network = .ok none)
      (held : ∀ exchange ∈ trace, gate.store.reading exchange.call.disk .scratch order.contract
        order.network = .ok (some baseline))
      (captured : ∀ attempt, result = .ok attempt → attempt.baseline = some baseline)
      (others : ScratchKept gate books.disk after.disk fun contract network =>
        contract = order.contract ∧ network = order.network)
  | untouched {failure : Failure} (without : ∀ baseline, ¬ Holding gate order books baseline)
      (failed : result = .error failure) (silent : trace = [])
      (kept : ScratchKept gate books.disk after.disk fun _ _ => False)

/-- A run comes to hold one layout only. -/
theorem Holding.unique [AddressRule] {baseline other : Layout}
    (holding : Holding gate order books baseline)
    (holding' : Holding gate order books other) : baseline = other := by
  obtain ⟨proxy, previous, _, _, parsed, latest, live, -⟩ := holding
  obtain ⟨proxy', previous', _, _, parsed', latest', live', -⟩ := holding'
  cases parsed.symm.trans parsed'
  cases latest.symm.trans latest'
  exact Except.ok.inj (live.symm.trans live')

/-- **However a run ends**, the scratch copy that it held is discarded. -/
theorem Run.scratchLeft [AddressRule] {result : Except Failure Attempt}
    (run : Run gate order books trace result after) :
    ScratchLeft gate order books trace result after := by
  cases run with
  | misaddressed unparsed =>
    refine .untouched ?_ rfl rfl fun _ _ _ _ => rfl
    rintro baseline ⟨_, _, _, _, parsed, -⟩
    cases parsed.symm.trans unparsed
  | untraced parsed untraced =>
    refine .untouched ?_ rfl rfl fun _ _ _ _ => rfl
    rintro baseline ⟨_, _, _, _, parsed', latest, -⟩
    cases parsed.symm.trans parsed'
    cases latest.symm.trans untraced
  | unread parsed latest unread =>
    refine .untouched ?_ rfl rfl fun _ _ _ _ => rfl
    rintro baseline ⟨_, _, _, _, parsed', latest', live, -⟩
    cases parsed.symm.trans parsed'
    cases latest.symm.trans latest'
    cases live.symm.trans unread
  | unheld parsed latest live unwritten =>
    refine .untouched ?_ rfl rfl fun _ _ allowed _ => ?_
    · rintro baseline ⟨_, _, _, _, parsed', latest', live', written⟩
      cases parsed.symm.trans parsed'
      cases latest.symm.trans latest'
      cases live.symm.trans live'
      cases written.symm.trans unwritten
    · rw [disk_countBooks]
      exact LayoutStore.file?_of_write_error unwritten allowed.2
  | @held proxy previous baseline path scratch _ ended middle parsed latest live written
      attempted =>
    have valid := valid_of_live? live
    obtain ⟨gone, absent⟩ := attempted.reading_discarded written
    refine .discarded ⟨proxy, previous, path, scratch, parsed, latest, live, written⟩ ?_ ?_
      (fun exchange asked => attempted.reading_scratch written valid asked) ?_ ?_
    · rw [disk_countBooks]
      exact gone
    · rw [disk_countBooks]
      exact absent
    · rintro attempt returned
      have run := Run.held parsed latest live written attempted
      rw [returned] at run
      obtain ⟨captured, candidate, weighed⟩ := run.weighed
      obtain ⟨⟨proxy', previous', parsed', latest', live'⟩, -, judged⟩ := run.judged weighed
      cases parsed.symm.trans parsed'
      cases latest.symm.trans latest'
      cases live.symm.trans live'
      exact (judged attempt rfl).captured
    · intro contract network allowed other
      have named := (LayoutStore.run_write_ok written).1.2
      refine (Run.held parsed latest live written attempted).keeps.files fun touched => other ?_
      obtain ⟨copy, inside⟩ := touched
      obtain ⟨-, same, same'⟩ := (LayoutStore.touches_place_iff named allowed.2).1 inside
      exact ⟨same', same⟩

/-- A run leaves no scratch copy behind where there was none. -/
theorem Run.unscratched [AddressRule] {result : Except Failure Attempt}
    (run : Run gate order books trace result after) (none_before : Unscratched gate books.disk) :
    Unscratched gate after.disk := by
  cases run.scratchLeft with
  | untouched _ _ _ kept => exact none_before.of_kept kept
  | discarded holding gone _ _ _ others =>
    intro contract network allowed
    by_cases own : contract = order.contract ∧ network = order.network
    · obtain ⟨rfl, rfl⟩ := own
      simp [Disk.file?, Disk.held?, gone]
    · rw [others contract network allowed own]
      exact none_before contract network allowed

/-! ## Calls -/

/-- What touches no scratch copy leaves none behind where there was none. -/
theorem unscratched_of_along {α : Type} {flow : Flow α} {result : Except Failure α}
    {touched : Place → Prop} (along : flow.Along (Books.Keeps touched))
    (apart : ∀ contract network, LayoutStore.Allowed contract network →
      ¬ touched (gate.store.place .scratch contract network))
    (ended : flow.Ends books trace result after) (none_before : Unscratched gate books.disk) :
    Unscratched gate after.disk := by
  intro contract network allowed
  rw [(along.ends ended).files (apart contract network allowed)]
  exact none_before contract network allowed

/-- **No call** leaves a scratch copy behind where there was none, however it ends. -/
theorem unscratched_of_call [AddressRule] {call : GateCall} {result : Except Failure GateAnswer}
    (ended : (call.perform gate).Ends books trace result after)
    (none_before : Unscratched gate books.disk) : Unscratched gate after.disk := by
  have untouched := steady_keeps fun _ => False
  cases call with
  | deployRaw contract arguments network sender =>
    obtain ⟨_, deployed, -⟩ := ends_map.1 ended
    exact unscratched_of_along (along_deployRaw untouched arguments sender fun books _ =>
      books.keeps_recorded_of _ _) (fun _ _ _ => id) deployed none_before
  | deployProxy contract initData kind admin network sender =>
    obtain ⟨_, deployed, -⟩ := ends_map.1 ended
    have along := along_deployProxy
      (steady_keeps (gate.store.Reaches .baseline contract network)) initData kind admin sender
      (fun books _ _ _ _ => books.keeps_recorded_of _ _)
      (fun _ _ _ => .ofDisk (LayoutStore.keeps_write_reaches ..))
    refine unscratched_of_along along (fun contract' network' allowed reached => ?_) deployed
      none_before
    cases ((LayoutStore.reaches_place_iff allowed.2).1 reached).2.1
  | run order =>
    obtain ⟨_, runs, -⟩ := ends_map.1 ended
    exact (ends_run.1 runs).unscratched none_before
  | check contract network =>
    obtain ⟨_, checked, -⟩ := ends_map.1 ended
    exact unscratched_of_along (along_check untouched contract network) (fun _ _ _ => id) checked
      none_before
  | history contract network =>
    obtain ⟨_, listed, -⟩ := ends_map.1 ended
    exact unscratched_of_along (along_history untouched contract network) (fun _ _ _ => id) listed
      none_before

/-- A course leaves no scratch copies where there were none. -/
theorem Course.unscratched [AddressRule] {calls : List CallMade}
    (course : Course gate books calls after)
    (none_before : Unscratched gate books.disk) : Unscratched gate after.disk := by
  induction course with
  | done => exact none_before
  | call ended _ ih => exact ih (unscratched_of_call ended none_before)

/-- **Scratch copies are discarded.** Once a run holds a scratch copy of the layout behind the
proxy, there is none of that contract when the run ends, whether it returns or fails; whenever it
asks for anything, the copy is read as exactly that layout, and so is the baseline of an attempt
that is returned; and no other scratch copy is changed. A run that never held one failed before it
asked for anything, and changed none. So no calls leave a scratch copy behind in a workspace without
any. -/
theorem scratch_discarded [AddressRule] (gate : Gate) :
    (∀ order books trace result after, (gate.run order).Ends books trace result after →
      (∀ baseline, Holding gate order books baseline →
        after.disk.node? (gate.store.place .scratch order.contract order.network) = none ∧
        gate.store.reading after.disk .scratch order.contract order.network = .ok none ∧
        ScratchKept gate books.disk after.disk (fun contract network =>
          contract = order.contract ∧ network = order.network) ∧
        (∀ exchange ∈ trace, gate.store.reading exchange.call.disk .scratch order.contract
          order.network = .ok (some baseline)) ∧
        ∀ attempt, result = .ok attempt → attempt.baseline = some baseline) ∧
      ((∀ baseline, ¬ Holding gate order books baseline) →
        (∃ failure, result = .error failure) ∧ trace = [] ∧
          ScratchKept gate books.disk after.disk fun _ _ => False)) ∧
    ∀ books calls after, Course gate books calls after → Unscratched gate books.disk →
      Unscratched gate after.disk := by
  refine ⟨?_, fun _ _ _ course => course.unscratched⟩
  intro order books trace result after ended
  cases (ends_run.1 ended).scratchLeft with
  | discarded holding gone absent held captured others =>
    refine ⟨fun baseline holding' => ?_, fun without => absurd holding (without _)⟩
    cases holding.unique holding'
    exact ⟨gone, absent, others, held, captured⟩
  | untouched without failed silent kept =>
    constructor
    · intro baseline holding
      exact absurd holding (without baseline)
    · intro _
      exact ⟨⟨_, failed⟩, silent, kept⟩

/-- In the prepared workspace, which has no scratch copies, a report holds one of the empty layout
and leaves none behind. -/
theorem scratch_discarded_prepared :
    Unscratched prepared Books.prepared.disk ∧ ∃ trace attempt after,
      (prepared.run { UpgradeOrder.prepared with override := false }).Ends .prepared trace
        (.ok attempt) after ∧
      Holding prepared { UpgradeOrder.prepared with override := false } .prepared
        (.empty (some "Token")) ∧
      attempt.baseline = some (.empty (some "Token")) ∧
      prepared.store.reading after.disk .scratch "Token" "anvil" = .ok none ∧
      Unscratched prepared after.disk := by
  have unscratched : Unscratched prepared Books.prepared.disk := fun _ _ _ =>
    Books.file?_prepared _
  obtain ⟨trace, attempt, after, ended, -⟩ :=
    @exists_report prepared { UpgradeOrder.prepared with override := false } Address.preparedProxy
      none .prepared _ _ Layout.prepared rfl Address.parse_preparedProxy rfl live?_prepared
      (Layout.typed_empty _) (LayoutStore.writable_prepared .scratch)
  have holding : Holding prepared { UpgradeOrder.prepared with override := false } .prepared
      (.empty (some "Token")) := by
    obtain ⟨disk, written, -⟩ := LayoutStore.run_write_of_writable Books.prepared.now
      (Layout.empty (some "Token")) (LayoutStore.writable_prepared .scratch)
    exact ⟨_, none, _, disk, Address.parse_preparedProxy, rfl, live?_prepared, written⟩
  obtain ⟨-, absent, -, -, captured⟩ :=
    ((scratch_discarded prepared).1 _ _ _ _ _ ended).1 _ holding
  have course : Course prepared .prepared
      [⟨.run { UpgradeOrder.prepared with override := false }, 0, trace, .ok (.attempt attempt)⟩]
      after := .call (ends_map.2 ⟨_, ended, rfl⟩) (.done after)
  exact ⟨unscratched, trace, attempt, after, ended, holding, captured attempt rfl, absent,
    (scratch_discarded prepared).2 _ _ _ course unscratched⟩

end UpgradeGate.Gate
