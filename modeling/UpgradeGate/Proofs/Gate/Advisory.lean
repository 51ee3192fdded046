import UpgradeGate.Proofs.Gate.Bookkeeping
import UpgradeGate.Proofs.Layout.Tampering
import UpgradeGate.Proofs.Workflow.Reports

/-!
# Reports are inert

An upgrade without an override and a check ask nothing of the chain. They leave the log and all
baselines as they were, whether they return or fail, and what they answer is the same for all
chains; for an upgrade it depends neither on the sender nor on the administrator that is named
(`Gate.reports_only`). A check does not even write a scratch copy (`Gate.ends_check`).
-/

namespace UpgradeGate

open UpgradeGate.Flow

namespace Gate

variable {gate : Gate} {order : UpgradeOrder} {proxy : Address}
  {previous : Option DeploymentRecord} {books after : Books} {trace : Trace collaborators}
  {contract network : String}

/-- A baseline that could be read can still be read where the bytes of all baselines were kept. -/
theorem reading_of_baselinesKept {touched : Place → Prop} {layout : Layout}
    (keeps : Books.Keeps touched books after)
    (kept : BaselinesKept gate books.disk after.disk fun _ _ => False)
    (read : gate.store.reading books.disk .baseline contract network = .ok (some layout)) :
    gate.store.reading after.disk .baseline contract network = .ok (some layout) := by
  obtain ⟨allowed, place, content, taken, followed, there, accepts, rfl⟩ :=
    LayoutStore.reading_eq_ok_some_iff.1 read
  have own : place = gate.store.place .baseline contract network := Disk.follow_eq_target followed
  have bytes : after.disk.file? place = some content := by
    rw [own, kept contract network allowed nofun, ← own]
    exact Disk.file?_eq_some_iff.2 there
  exact LayoutStore.reading_eq_ok_some_iff.2 ⟨allowed, place, content, taken,
    keeps.disk.follow followed, Disk.file?_eq_some_iff.1 bytes, accepts, rfl⟩

/-- An upgrade without an override reads neither its sender nor its administrator. -/
theorem run_congr [AddressRule] (plain : order.override = false) (sender : String)
    (admin : Option String) :
    gate.run { order with sender := sender, admin := admin } = gate.run order := by
  have path : ∀ proxy previous fresh,
      gate.attemptWith { order with sender := sender, admin := admin } proxy previous fresh =
        gate.attemptWith order proxy previous fresh := by
    intro proxy previous fresh
    simp only [attemptWith, plain, Bool.false_eq_true, if_false]
  simp only [run, path]

/-- **A report is given** on any new layout, where the log and the baseline can be read and the
scratch copy can be written. -/
theorem exists_report [AddressRule] {baseline : Layout} (candidate : Layout)
    (plain : order.override = false) (parsed : Address.parse order.proxy = .ok proxy)
    (latest : books.latest? proxy order.network = .ok previous)
    (live : gate.live? books.disk order.contract order.network previous = .ok baseline)
    (typed : baseline.Typed)
    (scratch : gate.store.Writable .scratch order.contract order.network books.disk) :
    ∃ trace attempt after, (gate.run order).Ends books trace (.ok attempt) after ∧
      attempt.candidate = some candidate := by
  obtain ⟨disk, written, -⟩ := LayoutStore.run_write_of_writable books.now baseline scratch
  have held := ((LayoutStore.holds_of_write written).reading_eq_iff scratch.allowed
    (valid_of_live? live)).2 typed
  have attempted : Attempted gate order proxy previous (freshAttempt order proxy)
      { startBooks books with disk := disk } _ (.ok _) _ :=
    .blocked candidate (.ok ()) held plain
  exact ⟨_, _, _, ends_run.2 (.held parsed latest live written attempted), rfl⟩

/-! ## Checks -/

/-- Where the log tells of no contract, the layout to compare with is the baseline of the given one,
or else the empty layout. -/
theorem live?_none_eq_ok {disk : Disk} {baseline : Layout} :
    gate.live? disk contract network none = .ok baseline ↔
      ∃ found, gate.store.reading disk .baseline contract network = .ok found ∧
        baseline = found.getD (Layout.empty (some contract)) := by
  rw [live?, show liveName contract none = contract from rfl]
  cases gate.store.reading disk .baseline contract network with
  | error failure => simp [Bind.bind, Except.bind]
  | ok found => cases found <;> simp [Bind.bind, Except.bind, Pure.pure, Except.pure, eq_comm]

/-- **A check** reads the baseline and asks for the layout of the contract. -/
theorem ends_check {result : Except Failure Report} :
    (gate.check contract network).Ends books trace result after ↔
      (∃ baseline answer, gate.live? books.disk contract network none = .ok baseline ∧
        trace = [exchange (.layout contract) books.disk answer] ∧
        result = answer.map baseline.compare ∧ after = books) ∨
      ∃ failure, gate.live? books.disk contract network none = .error failure ∧ trace = [] ∧
        result = .error failure ∧ after = books := by
  rw [check, (gate.settles_liveLayout books contract network none).ends_bind]
  refine or_congr ⟨?_, ?_⟩ Iff.rfl
  · rintro ⟨baseline, live, asking⟩
    rw [← map_eq_pure_bind] at asking
    obtain ⟨answer, asked, rfl⟩ := ends_map.1 asking
    obtain ⟨rfl, rfl⟩ := ends_ask.1 asked
    exact ⟨baseline, answer, live, rfl, rfl, rfl⟩
  · rintro ⟨baseline, answer, live, rfl, rfl, rfl⟩
    refine ⟨baseline, live, ?_⟩
    rw [← map_eq_pure_bind]
    exact ends_map.2 ⟨answer, ends_ask.2 ⟨rfl, rfl⟩, rfl⟩

/-- A check asks for nothing but a report, and changes nothing at all. -/
theorem check_reports {result : Except Failure Report}
    (ended : (gate.check contract network).Ends books trace result after) :
    OnlyReports trace ∧ after = books := by
  rcases ends_check.1 ended with ⟨_, _, -, rfl, -, rfl⟩ | ⟨_, -, rfl, -, rfl⟩
  · exact ⟨onlyReports_nil.cons rfl, rfl⟩
  · exact ⟨onlyReports_nil, rfl⟩

/-! ## Reports in general -/

/-- Collaborators that agree on reports give flows that only report the same meaning. -/
theorem handle_eq_of_onlyReports {α : Type} {m : Type → Type} [Monad m]
    {first second : (request : Request) → m (Except Failure request.question.Answer)}
    (agree : ∀ request, request.question.isReport = true → first request = second request)
    {flow : Flow α} {books : Books}
    (only : ∀ trace result after, flow.Ends books trace result after → OnlyReports trace) :
    (flow.run.run books).handle first = (flow.run.run books).handle second := by
  have replies : ∀ request, Nonempty (collaborators.Reply request) :=
    fun _ => ⟨Except.error (.plain .shape)⟩
  apply Program.handle_congr replies agree
  intro trace ended runs
  exact only trace ended.1 ended.2 runs

/-- **Reports are inert.** An upgrade without an override and a check ask nothing of the chain and
load no artifact. The upgrade appends nothing to the log, keeps every baseline and, where it
returns, is blocked, with calldata or without; the check changes nothing at all. What they answer is
the same for all chains, and for an upgrade for all senders and administrators too. -/
theorem reports_only [AddressRule] {gate : Gate} {order : UpgradeOrder}
    (plain : order.override = false) :
    (∀ books trace result after, (gate.run order).Ends books trace result after →
      (∀ exchange ∈ trace, exchange.call.question.isChain = false ∧
        ∀ name, exchange.call.question ≠ .artifact name) ∧
      (∀ rows, after.ledger = .ok rows → books.ledger = .ok rows) ∧
      ((∀ place ∈ books.log.place?,
          ¬ gate.store.Touches .scratch order.contract order.network place) →
        after.ledger = books.ledger) ∧
      BaselinesKept gate books.disk after.disk (fun _ _ => False) ∧
      (∀ contract network layout,
        gate.store.reading books.disk .baseline contract network = .ok (some layout) →
          gate.store.reading after.disk .baseline contract network = .ok (some layout)) ∧
      ∀ attempt, result = .ok attempt → attempt.stage = .blocked) ∧
    (∀ contract network books trace result after,
      (gate.check contract network).Ends books trace result after →
        (∀ exchange ∈ trace, exchange.call.question.isChain = false ∧
          ∀ name, exchange.call.question ≠ .artifact name) ∧ after = books) ∧
    ∀ (m : Type → Type) [Monad m]
      (first second : (request : Request) → m (Except Failure request.question.Answer)),
      (∀ request, request.question.isChain = false →
        (∀ name, request.question ≠ .artifact name) → first request = second request) →
      (∀ books sender sender' admin admin',
        ((gate.run { order with sender := sender, admin := admin }).run.run books).handle first =
          ((gate.run { order with sender := sender', admin := admin' }).run.run books).handle
            second) ∧
      ∀ contract network books,
        ((gate.check contract network).run.run books).handle first =
          ((gate.check contract network).run.run books).handle second := by
  refine ⟨?_, ?_, ?_⟩
  · intro books trace result after ended
    have run := ends_run.1 ended
    have reports := run.reports plain
    have kept : BaselinesKept gate books.disk after.disk fun _ _ => False :=
      fun _ _ allowed _ => run.baseline_of_keeps reports.keeps allowed.2
    exact ⟨fun exchange member => Question.off_chain_of_isReport (reports.asks exchange member),
      fun rows => reports.ledger_before, reports.ledger_eq, kept,
      fun _ _ _ => reading_of_baselinesKept reports.keeps kept, reports.blocked⟩
  · intro contract network books trace result after ended
    obtain ⟨only, same⟩ := check_reports ended
    exact ⟨fun exchange member => Question.off_chain_of_isReport (only exchange member), same⟩
  · intro m _ first second agree
    have agree' : ∀ request : Request, request.question.isReport = true →
        first request = second request := by
      intro request report
      obtain ⟨offChain, compiled⟩ := Question.off_chain_of_isReport report
      exact agree request offChain compiled
    constructor
    · intro books sender sender' admin admin'
      rw [run_congr plain sender admin, run_congr plain sender' admin']
      apply handle_eq_of_onlyReports agree'
      intro trace result after ended
      exact ((ends_run.1 ended).reports plain).asks
    · intro contract network books
      apply handle_eq_of_onlyReports agree'
      intro trace result after ended
      exact (check_reports ended).1

/-- In the prepared workspace a report on a new layout is given, and it is blocked. -/
theorem reports_only_prepared :
    ∃ trace attempt after,
      (prepared.run { UpgradeOrder.prepared with override := false }).Ends .prepared trace
        (.ok attempt) after ∧
      attempt.stage = .blocked ∧ attempt.candidate = some .prepared ∧ after.ledger = .ok [] := by
  obtain ⟨trace, attempt, after, ended, candidate⟩ :=
    @exists_report prepared { UpgradeOrder.prepared with override := false } Address.preparedProxy
      none .prepared _ _ Layout.prepared rfl Address.parse_preparedProxy rfl live?_prepared
      (Layout.typed_empty _) (LayoutStore.writable_prepared .scratch)
  obtain ⟨-, -, ledger, -, -, blocked⟩ :=
    (@reports_only _ prepared { UpgradeOrder.prepared with override := false } rfl).1 _ _ _ _ ended
  exact ⟨trace, attempt, after, ended, blocked attempt rfl, candidate, ledger fun _ => nofun⟩

end Gate

end UpgradeGate
