import UpgradeGate.Proofs.Layout.Compatibility
import UpgradeGate.Proofs.Workflow.Backing
import UpgradeGate.Proofs.Workflow.Completion

/-!
# The life of a proxy

A proxy is deployed and then upgraded any number of times, by runs that may end in any way
(`Gate.Life`). Every run compares with the layout that was compiled at the last completed upgrade,
or at the deployment, and so a proxy whose upgrades all passed is compatible with the layout that it
was deployed with (`Gate.life_gated`).
-/

namespace UpgradeGate.Gate

open UpgradeGate.Flow

variable {gate : Gate} {proxy : Address} {network : String} {first : Layout} {books : Books}

/-- A completed upgrade: the layout that was compiled for it, and how it ended. -/
structure Completed where
  layout : Layout
  outcome : Outcome

/-- The layout behind a proxy: that of the last completed upgrade, else that of the deployment. -/
def liveAfter (first : Layout) : List Completed → Layout
  | [] => first
  | upgrade :: _ => upgrade.layout

/-- The life of a proxy on a network, from its deployment on: the layout that was compiled then, the
completed upgrades, the latest first, and the books. Time may pass before every run. -/
inductive Life [AddressRule] (gate : Gate) (proxy : Address) (network : String) (first : Layout) :
    List Completed → Books → Prop where
  | deployed {contract sender : String} {initData : Bytes} {kind : Json} {admin : Option String}
      {books after : Books} {trace : Trace collaborators} (records : gate.recordsBaselines = true)
      (ended : (gate.deployProxy contract initData kind admin network sender).Ends books trace
        (.ok proxy) after)
      (compiled : first ∈ trace.filterMap compiled?) (valid : first.Valid) :
      Life gate proxy network first [] after
  | completed {completed : List Completed} {books after : Books} {trace : Trace collaborators}
      {order : UpgradeOrder} {attempt : Attempt} {layout : Layout} (now : Moment)
      (life : Life gate proxy network first completed books) (own : IsFor order proxy network)
      (override : order.override = true)
      (ended : (gate.run order).Ends { books with now := now } trace (.ok attempt) after)
      (compiled : layout ∈ trace.filterMap compiled?) (valid : layout.Valid) :
      Life gate proxy network first (⟨layout, attempt.outcome⟩ :: completed) after
  | compared {completed : List Completed} {books after : Books} {trace : Trace collaborators}
      {order : UpgradeOrder} {attempt : Attempt} (now : Moment)
      (life : Life gate proxy network first completed books) (own : IsFor order proxy network)
      (plain : order.override = false)
      (unhindered : Unhindered gate order { books with now := now })
      (ended : (gate.run order).Ends { books with now := now } trace (.ok attempt) after) :
      Life gate proxy network first completed after
  | failed {completed : List Completed} {books after : Books} {trace : Trace collaborators}
      {order : UpgradeOrder} {failure : Failure} (now : Moment)
      (life : Life gate proxy network first completed books) (own : IsFor order proxy network)
      (unhindered : Unhindered gate order { books with now := now })
      (ended : (gate.run order).Ends { books with now := now } trace (.error failure) after) :
      Life gate proxy network first completed after

/-- At every moment of its life, a proxy is backed by the layout of its last completed upgrade. -/
theorem Life.backed [AddressRule] {completed : List Completed}
    (life : Life gate proxy network first completed books) :
    ∃ contract, Backed gate proxy network contract (liveAfter first completed) books := by
  induction life with
  | deployed records ended compiled valid =>
    exact ⟨_, (proxyDeployment_of_ends records ended).backed compiled valid⟩
  | completed now _ own override ended compiled valid _ =>
    have run := ends_run.1 ended
    obtain ⟨owner, previous, admin, implementation, baseline, candidate, installed⟩ :=
      run.of_override rfl override
    cases own.parsed.symm.trans installed.parsed
    rw [installed.compiled, List.mem_singleton] at compiled
    cases compiled
    cases own.here
    exact ⟨_, installed.backed run valid⟩
  | compared now _ _ plain unhindered ended ih =>
    obtain ⟨contract, backed⟩ := ih
    exact ⟨contract, (backed.at_time now).of_plain (ends_run.1 ended) plain unhindered⟩
  | failed now _ _ unhindered ended ih =>
    obtain ⟨contract, backed⟩ := ih
    exact ⟨contract, (backed.at_time now).of_error (ends_run.1 ended) unhindered⟩

/-- What a run captures in the life of its proxy. -/
theorem Life.captured [AddressRule] {completed : List Completed} {order : UpgradeOrder}
    {now : Moment} {trace : Trace collaborators} {result : Except Failure Attempt} {after : Books}
    {layout : Layout} (life : Life gate proxy network first completed books)
    (own : IsFor order proxy network)
    (ended : (gate.run order).Ends { books with now := now } trace result after)
    (captured : Captured gate order trace result layout) :
    layout = liveAfter first completed := by
  obtain ⟨contract, backed⟩ := life.backed
  exact (backed.at_time now).captured own (ends_run.1 ended) captured

/-- Where all upgrades passed, the layout of the deployment is compatible with that of the last
one. -/
theorem Life.compatible [AddressRule] {completed : List Completed}
    (life : Life gate proxy network first completed books)
    (passed : ∀ upgrade ∈ completed, upgrade.outcome = .passed) :
    (first.compare (liveAfter first completed)).compatible = true := by
  induction life with
  | deployed => exact Layout.compatible_refl first
  | @completed completed _ _ _ _ _ layout now life own override ended compiled valid ih =>
    have earlier := ih fun upgrade member => passed upgrade (List.mem_cons_of_mem _ member)
    obtain ⟨_, _, _, _, baseline, candidate, installed⟩ :=
      (ends_run.1 ended).of_override rfl override
    rw [installed.compiled, List.mem_singleton] at compiled
    cases compiled
    cases life.captured own ended (.inr ⟨_, rfl, installed.captured⟩)
    have last := passed _ List.mem_cons_self
    rw [installed.outcome] at last
    have step : ((liveAfter first completed).compare layout).compatible = true := by
      by_cases compatible : ((liveAfter first completed).compare layout).compatible = true
      · exact compatible
      · rw [if_neg compatible] at last
        cases last
    exact Layout.compatible_trans earlier step
  | compared _ _ _ _ _ _ ih => exact ih passed
  | failed _ _ _ _ _ ih => exact ih passed

/-- **The gate is sound along the life of a proxy.** Whatever is asked for it next, a run compares
with the layout that was compiled at the last completed upgrade, or at the deployment; and where all
upgrades passed, the layout of the last one is compatible with that of the deployment. -/
theorem life_gated [AddressRule] {completed : List Completed}
    (life : Life gate proxy network first completed books) :
    (∀ order now trace result after layout, IsFor order proxy network →
      (gate.run order).Ends { books with now := now } trace result after →
      Captured gate order trace result layout → layout = liveAfter first completed) ∧
    ((∀ upgrade ∈ completed, upgrade.outcome = .passed) →
      (first.compare (liveAfter first completed)).compatible = true) :=
  ⟨fun _ _ _ _ _ _ own ended captured => life.captured own ended captured, life.compatible⟩

/-- In the prepared workspace a proxy is deployed over a layout without entries and upgraded: the
run compares with that layout, passes, and leaves the proxy compatible with its deployment. -/
theorem life_gated_prepared :
    ∃ books after trace attempt,
      Life prepared Address.preparedProxy "anvil" (.empty none) [] books ∧
      (prepared.run .prepared).Ends books trace (.ok attempt) after ∧
      attempt.baseline = some (.empty none) ∧
      Life prepared Address.preparedProxy "anvil" (.empty none) [⟨.prepared, .passed⟩] after ∧
      ((Layout.empty none).compare .prepared).compatible = true := by
  obtain ⟨early, books, deployed, compiled, ready⟩ := exists_deployProxy_of_isPrepared
    Books.isPrepared_prepared Address.preparedSender Address.preparedProxy (.empty none)
  have life := Life.deployed rfl deployed compiled (Layout.valid_empty none)
  have latest := @DeploymentLog.latest?_append_own books.now [] _ _ _ "anvil" _
    (rowOf_proxyRecord "Token" "anvil" Address.preparedSender Address.preparedProxy .uups none 0)
    rfl rfl
  have backed := (proxyDeployment_of_ends rfl deployed).backed compiled (Layout.valid_empty none)
  obtain ⟨trace, attempt, after, ended, compiled', -⟩ := exists_run_of_isPrepared ready latest rfl
    nofun (backed.live?_eq "Token" (Layout.typed_empty none) rfl) (Layout.valid_empty none)
    (Layout.typed_empty none) .prepared
  have own : IsFor .prepared Address.preparedProxy "anvil" := ⟨Address.parse_preparedProxy, rfl⟩
  obtain ⟨_, _, _, _, baseline, candidate, installed⟩ := (ends_run.1 ended).of_override rfl rfl
  have captured : baseline = .empty none :=
    (life_gated life).1 _ _ _ _ _ _ own ended (.inr ⟨_, rfl, installed.captured⟩)
  have passed : attempt.outcome = .passed := by
    rw [installed.compiled, List.mem_singleton] at compiled'
    rw [installed.outcome, captured, ← compiled']
    rfl
  have upgraded := Life.completed books.now life own rfl ended compiled' Layout.valid_prepared
  rw [passed] at upgraded
  refine ⟨books, after, trace, attempt, life, ended, ?_, upgraded, (life_gated upgraded).2 ?_⟩
  · rw [installed.captured, captured]
  · intro upgrade member
    cases List.mem_singleton.1 member
    rfl

end UpgradeGate.Gate
