import UpgradeGate.Proofs.Workflow.Completion
import UpgradeGate.Proofs.Workflow.Effects

/-!
# The books of an upgrade

An upgrade is booked as a whole or not at all. Where a run fails, at whatever call, all baselines
are as they were, no upgrade is recorded and none announced as completed; the log has one more
record if a contract was created, and that record belongs to no proxy. Where a run returns with an
override, the log has the records of the deployment and of the upgrade, the proxy was seen to
follow, and the file of its baseline, and no other one, holds the new layout
(`Gate.run_bookkeeping`).

A layout with an entry without a type is recorded as well, but cannot be read back.
-/

namespace UpgradeGate.Gate

open UpgradeGate.Flow

variable {gate : Gate} {order : UpgradeOrder} {books after : Books} {trace : Trace collaborators}

/-- The bytes of all baselines are as they were, apart from those of one contract. -/
def BaselinesKept (gate : Gate) (before after : Disk) (changed : String → String → Prop) : Prop :=
  ∀ contract network, LayoutStore.Allowed contract network → ¬ changed contract network →
    after.file? (gate.store.place .baseline contract network) =
      before.file? (gate.store.place .baseline contract network)

/-- An unhindered upgrade that fails changes no baseline. -/
theorem Run.baselines_of_error [AddressRule] {failure : Failure}
    (run : Run gate order books trace (.error failure) after)
    (unhindered : Unhindered gate order books) :
    BaselinesKept gate books.disk after.disk fun _ _ => False := by
  intro contract network allowed _
  obtain ⟨-, -, -, keeps⟩ := run.of_error rfl unhindered
  exact run.baseline_of_keeps keeps allowed.2

/-- Where a run returns, the baselines of other contracts are as they were. -/
theorem Run.baselines_of_ok [AddressRule] {attempt : Attempt}
    (run : Run gate order books trace (.ok attempt) after) :
    BaselinesKept gate books.disk after.disk fun contract network =>
      contract = order.contract ∧ network = order.network := by
  intro contract network allowed other
  exact run.baseline_other allowed.2 other

/-- **Bookkeeping.** An upgrade whose writes do not fail is booked as a whole or not at all. -/
theorem run_bookkeeping [AddressRule] {result : Except Failure Attempt}
    (unhindered : Unhindered gate order books)
    (ended : (gate.run order).Ends books trace result after) :
    (∀ failure, result = .error failure →
      BaselinesKept gate books.disk after.disk (fun _ _ => False) ∧
      trace.countP isCompletion = 0 ∧ (trace.filterMap deployed?).length ≤ 1 ∧
      after.ledger = books.ledger.map
        (· ++ rawRows order.contract order.network books.now trace)) ∧
    ∀ attempt, result = .ok attempt → order.override = true →
      ∃ proxy previous admin implementation candidate,
        Address.parse order.proxy = .ok proxy ∧ trace.filterMap compiled? = [candidate] ∧
        after.ledger = books.ledger.map
          (· ++ [(rawRecord order.contract order.network implementation books.now).row,
            (upgradeRecord order proxy previous admin implementation books.now).row]) ∧
        gate.store.Holds .baseline order.contract order.network candidate after.disk ∧
        (candidate.Valid → (gate.store.reading after.disk .baseline order.contract order.network =
          .ok (some candidate) ↔ candidate.Typed)) ∧
        BaselinesKept gate books.disk after.disk (fun contract network =>
          contract = order.contract ∧ network = order.network) ∧
        ∃ before current disk later, Address.parse current = .ok implementation ∧
          trace = before ++ installCall order proxy implementation admin disk (.ok ()) ::
            exchange (.implementationOf proxy) disk (.ok (some current)) :: later := by
  have run := ends_run.1 ended
  constructor
  · rintro failure rfl
    obtain ⟨ledger, once, incomplete, -⟩ := run.of_error rfl unhindered
    exact ⟨run.baselines_of_error unhindered, incomplete, once, ledger⟩
  · rintro attempt rfl override
    obtain ⟨proxy, previous, admin, implementation, baseline, candidate, installed⟩ :=
      run.of_override rfl override
    obtain ⟨rows, readable, ledger, -⟩ := installed.ledger
    refine ⟨proxy, previous, admin, implementation, candidate, installed.parsed, installed.compiled,
      ?_, installed.holds, installed.holds.reading_eq_iff run.allowed, run.baselines_of_ok,
      installed.follows⟩
    rw [readable, ledger (unhindered.apart .baseline)]
    rfl

/-- In the prepared workspace the writes do not fail, and an upgrade is booked as a whole. -/
theorem run_bookkeeping_prepared :
    Unhindered prepared .prepared .prepared ∧ ∃ trace attempt after,
      (prepared.run .prepared).Ends .prepared trace (.ok attempt) after ∧
      ∃ proxy previous admin implementation, after.ledger =
        .ok [(rawRecord "Token" "anvil" implementation 0).row,
          (upgradeRecord .prepared proxy previous admin implementation 0).row] := by
  have unhindered : Unhindered prepared .prepared .prepared :=
    unhindered_of_writable (LayoutStore.writable_prepared .scratch)
      (LayoutStore.writable_prepared .baseline) fun _ => nofun
  obtain ⟨trace, attempt, after, ended, -⟩ := exists_run_prepared (Layout.empty none)
  obtain ⟨proxy, previous, admin, implementation, -, -, -, ledger, -⟩ :=
    (run_bookkeeping unhindered ended).2 attempt rfl rfl
  exact ⟨unhindered, trace, attempt, after, ended, proxy, previous, admin, implementation, ledger⟩

end UpgradeGate.Gate
