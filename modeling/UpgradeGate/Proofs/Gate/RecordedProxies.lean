import UpgradeGate.Proofs.Gate.Bookkeeping
import UpgradeGate.Proofs.Workflow.Backing

/-!
# Proxies that are recorded

A new proxy is recorded in the log before its addresses are named and before its baseline is
written, so a deployment that fails in between leaves a proxy without a baseline behind
(`Gate.exists_unnamed`, `Gate.recorded_without_baseline`). Whether it does is told by how the
deployment ends: where it returns, the baseline holds the layout that was compiled for the proxy;
where it fails after recording the proxy, no baseline is changed (`Gate.recorded_proxies`).
-/

namespace UpgradeGate.Gate

open UpgradeGate.Flow

variable {gate : Gate} {books after : Books} {trace : Trace collaborators}
  {contract network sender : String}

/-- The layout was compiled, but could not be written as a baseline to the disk as it was when the
proxy was recorded. -/
def FailsToKeep (gate : Gate) (contract network : String) (now : Moment) (recorded : Disk)
    (trace : Trace collaborators) (failure : Failure) : Prop :=
  ∃ layout disk, trace.filterMap compiled? = [layout] ∧
    (gate.store.write now .baseline contract network layout).run.run recorded =
      (.error failure, disk)

/-- What a deployment leaves behind that recorded a proxy, on the disk as it was then. -/
inductive Recorded (gate : Gate) (contract network : String) (books : Books) (recorded : Disk)
    (trace : Trace collaborators) (proxy : Address) (after : Books) : Except Failure Address → Prop
    where
  | returned (deployment : ProxyDeployment gate contract network books trace proxy after) :
      Recorded gate contract network books recorded trace proxy after (.ok proxy)
  | failed {failure : Failure}
      (kept : BaselinesKept gate books.disk after.disk fun _ _ => False)
      (late : FailsLate contract trace failure ∨
        FailsToKeep gate contract network books.now recorded trace failure) :
      Recorded gate contract network books recorded trace proxy after (.error failure)

/-- Work that touches no file keeps all baselines. -/
theorem baselinesKept_of_keeps {touched : Place → Prop} (keeps : Books.Keeps touched books after)
    (apart : ∀ place, ¬ touched place) :
    BaselinesKept gate books.disk after.disk fun _ _ => False :=
  fun _ _ _ _ => keeps.files (apart _)

/-- **What is new in the log** after a deployment is one record of the contract, and with it comes
the baseline or a failure. -/
theorem ProxyEnding.recorded {result : Except Failure Address} {left : Ledger}
    (ending : ProxyEnding gate contract network books trace result after)
    (readable : after.ledger = .ok left) :
    books.ledger = .ok left ∨ ∃ rows implementation proxy kind admin, books.ledger = .ok rows ∧
      left = rows ++
        [(proxyRecord contract network implementation proxy kind admin books.now).row] ∧
      Recorded gate contract network books
        (proxyBooks books contract network implementation proxy kind admin).disk trace proxy after
        result := by
  cases ending with
  | unrecorded => exact .inl readable
  | @unanswered implementation proxy kind admin rows failure before fails =>
    rw [ledger_proxyBooks, before] at readable
    cases readable
    exact .inr ⟨rows, implementation, proxy, kind, admin, before, rfl,
      .failed (baselinesKept_of_keeps (keeps_proxyBooks ..) nofun) (.inl fails)⟩
  | @unwritten implementation proxy kind admin layout rows failure disk compiled before unwritten =>
    have recorded := ledger_proxyBooks books contract network implementation proxy kind admin
    rw [before] at recorded
    have same := LogConnection.rows_eq_of_rows
      (fun place rows => LayoutStore.database_of_write unwritten) recorded readable
    refine .inr ⟨rows, implementation, proxy, kind, admin, before, same, .failed ?_
      (.inr ⟨layout, disk, compiled, unwritten⟩)⟩
    intro contract' network' allowed _
    exact (LayoutStore.file?_of_write_error unwritten allowed.2).trans
      ((keeps_proxyBooks books contract network implementation proxy kind admin).files nofun)
  | deployed deployment =>
    obtain ⟨implementation, kind, admin, appends⟩ := deployment.appends
    obtain ⟨rows, before, same⟩ := appends left readable
    exact .inr ⟨rows, implementation, _, kind, admin, before, same, .returned deployment⟩

/-- **Recorded proxies.** After a deployment the log is as it was or has one more record, that of
the new proxy. Where the deployment returned its address, the baseline of the contract holds the
layout that was compiled for it, can be read as that layout if all entries have types, and is what
an upgrade of the proxy captures. Where it failed, a name or the layout was not given or the
baseline could not be written, and no baseline was changed. -/
theorem recorded_proxies [AddressRule] {initData : Bytes} {kind : Json} {admin : Option String}
    {result : Except Failure Address} {left : Ledger} (records : gate.recordsBaselines = true)
    (ended : (gate.deployProxy contract initData kind admin network sender).Ends books trace result
      after)
    (readable : after.ledger = .ok left) :
    books.ledger = .ok left ∨ ∃ rows implementation proxy parsed made,
      books.ledger = .ok rows ∧
      left = rows ++
        [(proxyRecord contract network implementation proxy parsed made books.now).row] ∧
      (∀ address, result = .ok address → address = proxy ∧
        ∃ layout, trace.filterMap compiled? = [layout] ∧
          gate.store.Holds .baseline contract network layout after.disk ∧
          (layout.Valid →
            (gate.store.reading after.disk .baseline contract network = .ok (some layout) ↔
              layout.Typed) ∧
            ∀ (order : UpgradeOrder) trace' result' last found, IsFor order proxy network →
              (gate.run order).Ends after trace' result' last →
                Captured gate order trace' result' found → found = layout)) ∧
      ∀ failure, result = .error failure →
        BaselinesKept gate books.disk after.disk (fun _ _ => False) ∧
        (FailsLate contract trace failure ∨ FailsToKeep gate contract network books.now
          (proxyBooks books contract network implementation proxy parsed made).disk trace
            failure) := by
  obtain same | ⟨rows, implementation, proxy, parsed, made, before, rfl, recorded⟩ :=
    (ending_of_ends records ended).recorded readable
  · exact .inl same
  refine .inr ⟨rows, implementation, proxy, parsed, made, before, rfl, ?_⟩
  cases recorded with
  | returned deployment =>
    refine ⟨?_, fun _ => nofun⟩
    rintro address ⟨⟩
    obtain ⟨layout, compiled, allowed, holds⟩ := deployment.holds
    refine ⟨rfl, layout, compiled, holds, fun valid => ⟨holds.reading_eq_iff allowed valid, ?_⟩⟩
    intro order trace' result' last found own run captured
    have own_layout : layout ∈ trace.filterMap compiled? := by
      rw [compiled]
      exact List.mem_singleton_self layout
    exact (deployment.backed own_layout valid).captured own (ends_run.1 run) captured
  | failed kept late =>
    refine ⟨fun _ => nofun, ?_⟩
    rintro _ ⟨⟩
    exact ⟨kept, late⟩

/-- In the prepared workspace a proxy is deployed, and its baseline is the layout that was compiled
for it. -/
theorem recorded_proxies_prepared :
    ∃ trace after, (prepared.deployProxy "Token" [] (.string "uups") none "anvil"
        UpgradeOrder.prepared.sender).Ends .prepared trace (.ok Address.preparedProxy) after ∧
      trace.filterMap compiled? = [Layout.prepared] ∧
      prepared.store.Holds .baseline "Token" "anvil" .prepared after.disk := by
  obtain ⟨trace, after, ended, compiled, ready⟩ := exists_deployProxy_of_isPrepared
    Books.isPrepared_prepared (Address.preparedSender.created 0) Address.preparedProxy
    Layout.prepared
  obtain same | ⟨_, _, _, _, _, -, -, returned, -⟩ := recorded_proxies rfl ended ready.ledger
  · cases same
  · obtain ⟨-, layout, alone, holds, -⟩ := returned _ rfl
    rw [alone, List.mem_singleton] at compiled
    subst compiled
    exact ⟨trace, after, ended, alone, holds⟩

/-- A proxy is deployed and recorded, and then the chain fails to name its implementation. -/
theorem exists_unnamed [AddressRule] {initData : Bytes} {kind : Json} {parsed : ProxyKind}
    {admin : Option String} {owner : Option Address} {arguments : List Argument} {rows : Ledger}
    (implementation proxy : Address) (failure : Failure) (sender : String)
    (known : ProxyKind.parse kind = .ok parsed)
    (owned : ownerOf contract parsed admin = .ok owner)
    (taken : parsed.constructorArguments implementation.text initData (owner.map Address.text) =
      .ok arguments)
    (readable : books.ledger = .ok rows) :
    ∃ trace, (gate.deployProxy contract initData kind admin network sender).Ends books trace
      (.error failure) (proxyBooks books contract network implementation proxy parsed none) := by
  obtain ⟨first, created⟩ := exists_create contract [] sender implementation books
  obtain ⟨second, created'⟩ := exists_create parsed.artifactName arguments sender proxy books
  obtain ⟨third, administered⟩ := exists_createdAdmin parsed proxy books
  refine ⟨first ++ (second ++ (third ++ [exchange (.label implementation.text (contract ++
    " (implementation)")) (proxyBooks books contract network implementation proxy parsed none).disk
    (.error failure)])), ?_⟩
  rw [deployProxy_eq]
  refine ends_lift_bind.2 (.inl ⟨parsed, known, ends_lift_bind.2 (.inl ⟨owner, owned, ?_⟩)⟩)
  refine ends_bind.2 (.inl ⟨implementation, books, first, _, created, ?_, rfl⟩)
  refine ends_lift_bind.2 (.inl ⟨arguments, taken, ?_⟩)
  refine ends_bind.2 (.inl ⟨proxy, books, second, _, created', ?_, rfl⟩)
  refine ends_bind.2 (.inl ⟨none, books, third, _, administered, ?_, rfl⟩)
  rw [ends_stamped_bind]
  refine (ends_appendRecord_bind (rowOf_proxyRecord contract network implementation proxy parsed
    none books.now)).2 (.inl ⟨rows, readable, ?_⟩)
  rw [ends_count_bind, ends_label_bind]
  exact .inl ⟨failure, rfl, rfl, rfl⟩

/-- In the prepared workspace a proxy is recorded without a baseline: the name of its implementation
is not given, the log has its record, no baseline is there, and an upgrade of the proxy would be
compared with the empty layout. -/
theorem recorded_without_baseline :
    ∃ trace failure after,
      (prepared.deployProxy "Token" [] (.string "uups") none "anvil"
        UpgradeOrder.prepared.sender).Ends .prepared trace (.error failure) after ∧
      Books.prepared.ledger = .ok [] ∧
      after.ledger = .ok [(proxyRecord "Token" "anvil" (Address.preparedSender.created 0)
        Address.preparedProxy .uups none 0).row] ∧
      prepared.store.reading after.disk .baseline "Token" "anvil" = .ok none ∧
      prepared.live? after.disk "Token" "anvil" (some (proxyRecord "Token" "anvil"
        (Address.preparedSender.created 0) Address.preparedProxy .uups none 0)) =
          .ok (Layout.empty (some "Token")) := by
  obtain ⟨trace, ended⟩ := @exists_unnamed prepared .prepared "Token" "anvil" _ []
    (.string "uups") .uups none none _ [] (Address.preparedSender.created 0) Address.preparedProxy
    (.plain .runtime) UpgradeOrder.prepared.sender ProxyKind.parse_uups rfl rfl rfl
  have absent : prepared.store.reading Books.prepared.disk .baseline "Token" "anvil" = .ok none :=
    LayoutStore.reading_of_absent (LayoutStore.writable_prepared .baseline).allowed
      (LayoutStore.writable_prepared .baseline).ready.1 rfl
  exact ⟨trace, _, _, ended, rfl, rfl, absent, live?_prepared⟩

end UpgradeGate.Gate
