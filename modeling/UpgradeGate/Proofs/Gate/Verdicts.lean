import UpgradeGate.Proofs.Gate.Advisory
import UpgradeGate.Proofs.Workflow.Comparisons

/-!
# One verdict on all paths

A run compares a scratch copy that was written to a file and read back, and a check compares the
baseline itself. Nevertheless an upgrade that is only reported, the same upgrade with an override,
and a check of the contract give the same verdict on the same new layout (`Gate.verdicts_agree`), so
a report tells what the upgrade will find. For the check that is so where the contract behind the
proxy has the name that is checked.
-/

namespace UpgradeGate

open UpgradeGate.Flow

variable {books : Books} {proxy : Address} {network : String} {now now' : Moment}
  {previous previous' : Option DeploymentRecord}

/-- Which contract is behind a proxy does not depend on the time. -/
theorem Books.contract_of_latest?
    (latest : { books with now := now }.latest? proxy network = .ok previous)
    (latest' : { books with now := now' }.latest? proxy network = .ok previous') :
    previous.map DeploymentRecord.contract = previous'.map DeploymentRecord.contract := by
  obtain ⟨rows, readable⟩ := Books.ledger_of_latest? latest
  have readable' : { books with now := now' }.ledger = .ok rows := readable
  rw [Books.latest?, readable] at latest
  rw [Books.latest?, readable'] at latest'
  have same := DeploymentLog.map_untimed_latest? now now' rows proxy network
  rw [show DeploymentLog.latest? now rows proxy network = .ok previous from latest,
    show DeploymentLog.latest? now' rows proxy network = .ok previous' from latest'] at same
  have untimed := congrArg (Option.map DeploymentRecord.contract) (Except.ok.inj same)
  rw [Option.map_map, Option.map_map] at untimed
  exact untimed

namespace Gate

variable {gate : Gate} {order order' : UpgradeOrder} {trace trace' : Trace collaborators}
  {after after' : Books} {contract : String} {baseline baseline' candidate : Layout}

/-- The layout behind a proxy depends on the log only by the name of the contract. -/
theorem live?_congr {disk : Disk}
    (same : previous.map DeploymentRecord.contract = previous'.map DeploymentRecord.contract) :
    gate.live? disk contract network previous = gate.live? disk contract network previous' := by
  rw [live?, live?, liveName, liveName, same]

/-- Behind a proxy that is not recorded, or recorded with a contract, is the baseline of that
contract. -/
theorem live?_of_named {disk : Disk}
    (named : ∀ record, previous = some record → record.contract = contract) :
    gate.live? disk contract network previous = gate.live? disk contract network none := by
  have same : liveName contract previous = liveName contract none := by
    cases previous with
    | none => rfl
    | some record => exact named record rfl
  rw [live?, live?, same]

/-- Two orders are for the same upgrade: of a proxy to a contract on a network. -/
structure SameUpgrade [AddressRule] (order order' : UpgradeOrder) : Prop where
  proxy : Address.parse order.proxy = Address.parse order'.proxy
  contract : order.contract = order'.contract
  network : order.network = order'.network

/-- **What two runs for the same upgrade capture** in the same state is the same. -/
theorem Run.captured_same [AddressRule] {result result' : Except Failure Attempt}
    {candidate' : Layout} (same : SameUpgrade order order')
    (run : Run gate order { books with now := now } trace result after)
    (run' : Run gate order' { books with now := now' } trace' result' after')
    (weighed : gate.weighed? order trace = some (baseline, candidate))
    (weighed' : gate.weighed? order' trace' = some (baseline', candidate')) :
    baseline = baseline' := by
  obtain ⟨⟨proxy, previous, parsed, latest, live⟩, -⟩ := run.judged weighed
  obtain ⟨⟨proxy', previous', parsed', latest', live'⟩, -⟩ := run'.judged weighed'
  rw [← same.proxy] at parsed'
  cases parsed.symm.trans parsed'
  rw [← same.network] at latest' live'
  rw [← same.contract, ← live?_congr (Books.contract_of_latest? latest latest')] at live'
  exact Except.ok.inj (live.symm.trans live')

/-- **A check** gives the verdict that a run for the same contract gives, where the log names no
other contract for the proxy. -/
theorem Run.check_same [AddressRule] {result : Except Failure Attempt}
    {verdict : Except Failure Report} {checked : Trace collaborators} {left : Books}
    (run : Run gate order { books with now := now } trace result after)
    (weighed : gate.weighed? order trace = some (baseline, candidate))
    (parsed : Address.parse order.proxy = .ok proxy)
    (latest : { books with now := now }.latest? proxy order.network = .ok previous)
    (named : ∀ record, previous = some record → record.contract = order.contract)
    (ended : (gate.check order.contract order.network).Ends { books with now := now' } checked
      verdict left)
    (compiled : candidate ∈ checked.filterMap compiled?) :
    verdict = .ok (baseline.compare candidate) := by
  obtain ⟨⟨proxy', previous', parsed', latest', live⟩, -⟩ := run.judged weighed
  cases parsed.symm.trans parsed'
  cases latest.symm.trans latest'
  rw [live?_of_named named] at live
  rcases ends_check.1 ended with ⟨own, answer, live', rfl, rfl, -⟩ | ⟨failure, unread, rfl, -, -⟩
  · cases live.symm.trans live'
    cases answer with
    | error => cases compiled
    | ok layout =>
      cases List.mem_singleton.1 compiled
      rfl
  · cases compiled

/-- **One verdict.** Two runs for the same upgrade are made in the same state, one with an override
and one without, and get past the comparison with the same new layout. Then both compared it with
the same baseline, and the run without an override returns. Where the one with an override returns
too, both attempts tell the same baseline, candidate, verdict and differences, and the override
passed where the report did and overrode a collision where that was blocked. A check of the contract
that is given this layout tells the same verdict and differences, if the log names no other contract
for the proxy. Each may be made at its own time. -/
theorem verdicts_agree [AddressRule] {result result' : Except Failure Attempt}
    {baseline baseline' candidate : Layout} (same : SameUpgrade order order')
    (override : order.override = true) (plain : order'.override = false)
    (ended : (gate.run order).Ends { books with now := now } trace result after)
    (ended' : (gate.run order').Ends { books with now := now' } trace' result' after')
    (weighed : gate.weighed? order trace = some (baseline, candidate))
    (weighed' : gate.weighed? order' trace' = some (baseline', candidate)) :
    baseline = baseline' ∧ ∃ reported, result' = .ok reported ∧
      Judged reported baseline candidate .collisionBlocked ∧
      (∀ installed, result = .ok installed →
        Judged installed baseline candidate .collisionOverridden ∧
        installed.baseline = reported.baseline ∧ installed.candidate = reported.candidate ∧
        installed.compatible = reported.compatible ∧ installed.diff = reported.diff ∧
        (reported.outcome = .passed → installed.outcome = .passed) ∧
        (reported.outcome = .collisionBlocked → installed.outcome = .collisionOverridden)) ∧
      ∀ proxy previous time checked verdict left,
        Address.parse order.proxy = .ok proxy →
        { books with now := now }.latest? proxy order.network = .ok previous →
        (∀ record, previous = some record → record.contract = order.contract) →
        (gate.check order.contract order.network).Ends { books with now := time } checked verdict
          left →
        candidate ∈ checked.filterMap compiled? →
          ∃ report, verdict = .ok report ∧ reported.compatible = some report.compatible ∧
            reported.diff = report.lines := by
  have run := ends_run.1 ended
  have run' := ends_run.1 ended'
  obtain rfl := run.captured_same same run' weighed weighed'
  obtain ⟨-, -, judged⟩ := run.judged weighed
  obtain ⟨-, returns, judged'⟩ := run'.judged weighed'
  obtain ⟨reported, rfl⟩ := returns plain
  have blocked := judged' reported rfl
  rw [collidedOutcome, plain] at blocked
  refine ⟨rfl, reported, rfl, blocked, ?_, ?_⟩
  · rintro installed rfl
    have overridden := judged installed rfl
    rw [collidedOutcome, override] at overridden
    refine ⟨overridden, overridden.captured.trans blocked.captured.symm,
      overridden.given.trans blocked.given.symm, overridden.verdict.trans blocked.verdict.symm,
      overridden.lines.trans blocked.lines.symm, ?_⟩
    rw [overridden.outcome, blocked.outcome]
    split
    · refine ⟨fun _ => rfl, fun impossible => ?_⟩
      cases impossible
    · refine ⟨fun impossible => ?_, fun _ => rfl⟩
      cases impossible
  · intro proxy previous time checked verdict left parsed latest named check compiled
    exact ⟨_, run.check_same weighed parsed latest named check compiled, blocked.verdict,
      blocked.lines⟩

/-- In the prepared workspace an upgrade is reported, installed and checked with the same
verdict. -/
theorem verdicts_agree_prepared :
    SameUpgrade .prepared { UpgradeOrder.prepared with override := false } ∧
    ∃ trace installed after trace' reported after' checked report,
      (prepared.run .prepared).Ends .prepared trace (.ok installed) after ∧
      (prepared.run { UpgradeOrder.prepared with override := false }).Ends .prepared trace'
        (.ok reported) after' ∧
      (prepared.check "Token" "anvil").Ends .prepared checked (.ok report) .prepared ∧
      installed.diff = reported.diff ∧ reported.diff = report.lines ∧
      reported.candidate = some .prepared := by
  have same : SameUpgrade .prepared { UpgradeOrder.prepared with override := false } :=
    ⟨rfl, rfl, rfl⟩
  obtain ⟨trace, installed, after, ended, compiled, -⟩ := exists_run_prepared .prepared
  obtain ⟨trace', reported, after', ended', told⟩ :=
    @exists_report prepared { UpgradeOrder.prepared with override := false } Address.preparedProxy
      none .prepared _ _ Layout.prepared rfl Address.parse_preparedProxy rfl live?_prepared
      (Layout.typed_empty _) (LayoutStore.writable_prepared .scratch)
  obtain ⟨baseline, candidate, weighed⟩ := (ends_run.1 ended).weighed
  obtain ⟨baseline', candidate', weighed'⟩ := (ends_run.1 ended').weighed
  -- both were given the prepared layout
  obtain ⟨_, _, _, _, _, layout, upgrade⟩ := (ends_run.1 ended).of_override rfl rfl
  rw [upgrade.compiled, List.mem_singleton] at compiled
  have given := ((ends_run.1 ended).judged weighed).2.2 _ rfl |>.given
  rw [upgrade.installed, ← compiled] at given
  cases given
  have given' := ((ends_run.1 ended').judged weighed').2.2 _ rfl |>.given
  rw [told] at given'
  cases given'
  have checked : (prepared.check "Token" "anvil").Ends .prepared
      [exchange (.layout "Token") Books.prepared.disk (.ok .prepared)]
      (.ok ((Layout.empty (some "Token")).compare .prepared)) .prepared :=
    ends_check.2 (.inl ⟨_, .ok .prepared, live?_prepared, rfl, rfl, rfl⟩)
  obtain ⟨-, _, ⟨⟩, -, installs, checks⟩ := @verdicts_agree .prepared 0 0 prepared _ _ _ _ _ _ _ _
    _ _ _ _ same rfl rfl ended ended' weighed weighed'
  obtain ⟨_, ⟨⟩, -, lines⟩ := checks _ none 0 _ _ _ Address.parse_preparedProxy rfl nofun checked
    (List.mem_singleton_self _)
  exact ⟨same, trace, installed, after, trace', reported, after', _, _, ended, ended', checked,
    (installs installed rfl).2.2.2.2.1, lines, told⟩

end Gate

end UpgradeGate
