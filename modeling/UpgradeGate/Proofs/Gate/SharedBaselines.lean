import UpgradeGate.Proofs.Workflow.Backing
import UpgradeGate.Proofs.Workflow.Completion

/-!
# Baselines that proxies share

Many proxies are deployed and upgraded on many networks (`Gate.History`). The log names for each
proxy the contract that it was last given, but a baseline is kept for a contract and a network, not
for a proxy. So a run compares with the layout that was last compiled under the name of the
contract behind its proxy, by whichever proxy (`Gate.history_captured`). That is the layout behind
the proxy where no other one took the name in the meantime, and in the other case only if the two
layouts are the same.
-/

namespace UpgradeGate.Gate

open UpgradeGate.Flow

variable {gate : Gate} {proxy : Address} {contract network : String} {layout : Layout}
  {books : Books}

/-- A proxy was given an implementation: a contract on a network, and the layout that was compiled
for it. -/
structure Placement where
  proxy : Address
  contract : String
  network : String
  layout : Layout

namespace Placement

/-- The placement gave an implementation to a proxy on a network. -/
def isOf (proxy : Address) (network : String) (placement : Placement) : Bool :=
  decide (placement.proxy = proxy ∧ placement.network = network)

/-- The placement was of a contract on a network. -/
def isUnder (contract network : String) (placement : Placement) : Bool :=
  decide (placement.contract = contract ∧ placement.network = network)

/-- A placement of a proxy on a network. -/
theorem isOf_iff {placement : Placement} :
    placement.isOf proxy network = true ↔
      placement.proxy = proxy ∧ placement.network = network := decide_eq_true_iff

/-- A placement of a contract on a network. -/
theorem isUnder_iff {placement : Placement} :
    placement.isUnder contract network = true ↔
      placement.contract = contract ∧ placement.network = network := decide_eq_true_iff

end Placement

/-- A history of deployments and completed upgrades of any proxies on any networks, the latest
first, and the books. Time may pass before every step. -/
inductive History [AddressRule] (gate : Gate) : List Placement → Books → Prop where
  | start (books : Books) : History gate [] books
  | deployed {placements : List Placement} {books after : Books} {trace : Trace collaborators}
      {contract network sender : String} {initData : Bytes} {kind : Json} {admin : Option String}
      {proxy : Address} {layout : Layout} (now : Moment) (history : History gate placements books)
      (records : gate.recordsBaselines = true)
      (ended : (gate.deployProxy contract initData kind admin network sender).Ends
        { books with now := now } trace (.ok proxy) after)
      (compiled : layout ∈ trace.filterMap compiled?) (valid : layout.Valid) :
      History gate (⟨proxy, contract, network, layout⟩ :: placements) after
  | upgraded {placements : List Placement} {books after : Books} {trace : Trace collaborators}
      {order : UpgradeOrder} {attempt : Attempt} {proxy : Address} {layout : Layout} (now : Moment)
      (history : History gate placements books) (parsed : Address.parse order.proxy = .ok proxy)
      (override : order.override = true)
      (ended : (gate.run order).Ends { books with now := now } trace (.ok attempt) after)
      (compiled : layout ∈ trace.filterMap compiled?) (valid : layout.Valid) :
      History gate (⟨proxy, order.contract, order.network, layout⟩ :: placements) after

/-- The books keep track of placements: the log names for every proxy the contract of its last one,
and the baseline of every contract holds the layout of its last one. -/
structure Tracked (gate : Gate) (placements : List Placement) (books : Books) : Prop where
  names : ∀ {proxy network own}, placements.find? (·.isOf proxy network) = some own →
    books.Names proxy network own.contract
  baselines : ∀ {contract network last},
    placements.find? (·.isUnder contract network) = some last →
      LayoutStore.Allowed contract network ∧ last.layout.Valid ∧
        gate.store.Holds .baseline contract network last.layout books.disk

/-- One more placement is kept track of where its proxy is backed by its layout, no row of another
proxy was appended, and no other baseline was touched. -/
theorem Tracked.cons [AddressRule] {placements : List Placement} {after : Books} {more : Ledger}
    (tracked : Tracked gate placements books)
    (backed : Backed gate proxy network contract layout after)
    (appends : Books.Appends more books after)
    (elsewhere : ∀ other here, ¬ (proxy = other ∧ network = here) →
      ∀ row ∈ more, DeploymentLog.IsElsewhere other here row)
    (kept : ∀ {other here layout}, LayoutStore.Allowed other here →
      ¬ (contract = other ∧ network = here) →
      gate.store.Holds .baseline other here layout books.disk →
        gate.store.Holds .baseline other here layout after.disk) :
    Tracked gate (⟨proxy, contract, network, layout⟩ :: placements) after where
  names := by
    intro other here own found
    rw [List.find?_cons] at found
    split at found
    · next same =>
      obtain ⟨rfl, rfl⟩ := Placement.isOf_iff.1 same
      cases found
      exact backed.names
    · next different =>
      refine (tracked.names found).of_appends appends (elsewhere other here fun same => ?_)
      rw [Placement.isOf_iff.2 same] at different
      cases different
  baselines := by
    intro other here last found
    rw [List.find?_cons] at found
    split at found
    · next same =>
      obtain ⟨rfl, rfl⟩ := Placement.isUnder_iff.1 same
      cases found
      exact ⟨backed.allowed, backed.valid, backed.holds⟩
    · next different =>
      obtain ⟨allowed, valid, holds⟩ := tracked.baselines found
      refine ⟨allowed, valid, kept allowed (fun same => ?_) holds⟩
      rw [Placement.isUnder_iff.2 same] at different
      cases different

/-- What placements track is no matter of time. -/
theorem Tracked.at_time {placements : List Placement} (tracked : Tracked gate placements books)
    (now : Moment) : Tracked gate placements { books with now := now } :=
  ⟨tracked.names, tracked.baselines⟩

/-- **The books keep track** of a whole history. -/
theorem History.tracked [AddressRule] {placements : List Placement}
    (history : History gate placements books) :
    Tracked gate placements books := by
  induction history with
  | start => exact ⟨nofun, nofun⟩
  | deployed now _ records ended compiled valid ih =>
    have deployment := proxyDeployment_of_ends records ended
    have backed := deployment.backed compiled valid
    obtain ⟨implementation, kind, admin, appends⟩ := deployment.appends
    refine (ih.at_time now).cons backed appends ?_ ?_
    · intro other here different row member
      cases List.mem_singleton.1 member
      exact DeploymentLog.isElsewhere_of_rowOf (rowOf_proxyRecord ..) rfl different
    · intro other here layout allowed different holds
      refine LayoutStore.Holds.of_books holds deployment.keeps
        (deployment.keeps.files fun touched => different ?_)
      obtain ⟨-, same, same'⟩ :=
        (LayoutStore.touches_place_iff backed.allowed.2 allowed.2).1 touched
      exact ⟨same'.symm, same.symm⟩
  | upgraded now _ parsed override ended compiled valid ih =>
    have run := ends_run.1 ended
    obtain ⟨owner, previous, admin, implementation, baseline, candidate, installed⟩ :=
      run.of_override rfl override
    cases parsed.symm.trans installed.parsed
    rw [installed.compiled, List.mem_singleton] at compiled
    cases compiled
    refine (ih.at_time now).cons (installed.backed run valid) installed.appends ?_ ?_
    · intro other here different row member
      rcases List.mem_cons.1 member with rfl | member
      · exact isElsewhere_rawRecord ..
      · cases List.mem_singleton.1 member
        exact DeploymentLog.isElsewhere_of_rowOf (rowOf_upgradeRecord ..) rfl different
    · intro other here layout allowed different holds
      refine LayoutStore.Holds.of_books holds run.keeps (run.baseline_other allowed.2 ?_)
      exact fun same => different ⟨same.1.symm, same.2.symm⟩

/-- The placement whose layout is the baseline of a proxy's contract: the last one since the proxy's
own that was of the same contract, else its own. -/
def shadowing (since : List Placement) (own : Placement) : Placement :=
  (since.find? (·.isUnder own.contract own.network)).getD own

/-- The proxy of a placement is backed by the layout of the one that shadows it. -/
theorem History.backed [AddressRule] {since before : List Placement} {own : Placement}
    (history : History gate (since ++ own :: before) books)
    (last : ∀ later ∈ since, ¬ later.isOf own.proxy own.network) :
    Backed gate own.proxy own.network own.contract (shadowing since own).layout books := by
  have placed : (since ++ own :: before).find? (·.isOf own.proxy own.network) = some own := by
    rw [List.find?_append, List.find?_eq_none.2 last, Option.none_or,
      List.find?_cons_of_pos (Placement.isOf_iff.2 ⟨rfl, rfl⟩)]
  have named : (since ++ own :: before).find? (·.isUnder own.contract own.network) =
      some (shadowing since own) := by
    rw [List.find?_append, List.find?_cons_of_pos (Placement.isUnder_iff.2 ⟨rfl, rfl⟩), shadowing]
    cases since.find? (·.isUnder own.contract own.network) <;> rfl
  obtain ⟨allowed, valid, holds⟩ := history.tracked.baselines named
  exact ⟨history.tracked.names placed, allowed, holds, valid⟩

/-- **Shared baselines.** After any history, a run for a proxy captures the layout that was last
compiled under the name of the proxy's contract since the proxy got its implementation. That is the
layout of its implementation exactly if no other layout was compiled under that name since. -/
theorem history_captured [AddressRule] {since before : List Placement} {own : Placement}
    (history : History gate (since ++ own :: before) books)
    (last : ∀ later ∈ since, ¬ later.isOf own.proxy own.network) {order : UpgradeOrder}
    {now : Moment} {trace : Trace collaborators} {result : Except Failure Attempt} {after : Books}
    {found : Layout} (ordered : IsFor order own.proxy own.network)
    (ended : (gate.run order).Ends { books with now := now } trace result after)
    (captured : Captured gate order trace result found) :
    found = (shadowing since own).layout ∧
      (found = own.layout ↔ ∀ later ∈ since.find? (·.isUnder own.contract own.network),
        later.layout = own.layout) := by
  have same : found = (shadowing since own).layout :=
    (history.backed last).at_time now |>.captured ordered (ends_run.1 ended) captured
  refine ⟨same, ?_⟩
  rw [same, shadowing]
  cases since.find? (·.isUnder own.contract own.network) with
  | none => simp
  | some later => simp

/-- In the prepared workspace two proxies are deployed in front of contracts of one name: an upgrade
of the first is compared with the layout that was compiled for the second. -/
theorem history_captured_prepared :
    ∃ first second books trace attempt after,
      History prepared [⟨second, "Token", "anvil", .prepared⟩,
        ⟨first, "Token", "anvil", .empty none⟩] books ∧ first ≠ second ∧
      (prepared.run .prepared).Ends books trace (.ok attempt) after ∧
      IsFor .prepared first "anvil" ∧ attempt.baseline = some .prepared ∧
      Layout.prepared ≠ .empty none := by
  have apart : Address.preparedProxy ≠ Address.preparedSender := by decide
  obtain ⟨_, middle, deployed, compiled, ready⟩ := exists_deployProxy_of_isPrepared
    Books.isPrepared_prepared Address.preparedSender Address.preparedProxy (.empty none)
  obtain ⟨_, books, deployed', compiled', ready'⟩ := exists_deployProxy_of_isPrepared ready
    Address.preparedSender Address.preparedSender .prepared
  have history := History.deployed middle.now (.deployed 0 (.start .prepared) rfl deployed compiled
    (Layout.valid_empty none)) rfl deployed' compiled' Layout.valid_prepared
  have last : ∀ later ∈ [Placement.mk Address.preparedSender "Token" "anvil" .prepared],
      ¬ later.isOf Address.preparedProxy "anvil" := by
    intro later member same
    cases List.mem_singleton.1 member
    exact apart (Placement.isOf_iff.1 same).1.symm
  have own := @DeploymentLog.latest?_append_own books.now [] _ _ _ "anvil" _
    (rowOf_proxyRecord "Token" "anvil" Address.preparedSender Address.preparedProxy .uups none 0)
    rfl rfl
  have elsewhere : DeploymentLog.IsElsewhere Address.preparedProxy "anvil" (proxyRecord "Token"
      "anvil" Address.preparedSender Address.preparedSender .uups none middle.now).row :=
    DeploymentLog.isElsewhere_of_rowOf (rowOf_proxyRecord ..) rfl fun same => apart same.1.symm
  have latest := (DeploymentLog.latest?_append_other elsewhere).trans own
  have typed : Layout.prepared.Typed := by
    intro entry member
    cases List.mem_singleton.1 member
    decide
  have backed := @History.backed _ _ _ [_] [] ⟨Address.preparedProxy, "Token", "anvil", .empty none⟩
    history last
  obtain ⟨trace, attempt, after, ended, -⟩ := exists_run_of_isPrepared ready' latest rfl nofun
    (backed.live?_eq "Token" typed rfl) Layout.valid_prepared typed .prepared
  have ordered : IsFor .prepared Address.preparedProxy "anvil" := ⟨Address.parse_preparedProxy, rfl⟩
  obtain ⟨_, _, _, _, baseline, _, installed⟩ := (ends_run.1 ended).of_override rfl rfl
  have captured := (@history_captured _ _ _ [_] [] ⟨Address.preparedProxy, "Token", "anvil", .empty
    none⟩ history last _ books.now _ _ _ _ ordered ended (.inr ⟨_, rfl, installed.captured⟩)).1
  refine ⟨_, _, books, trace, attempt, after, history, apart, ended, ordered, ?_, nofun⟩
  rw [installed.captured, captured]
  rfl

end UpgradeGate.Gate
