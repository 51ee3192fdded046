import UpgradeGate.Proofs.Workflow.ByParts

/-!
# Flows along a relation of books

A flow goes along a relation where that leads from the books that it starts with to those that it
leaves behind, and to those at the time of every question (`Flow.Along`). Where the relation is
steady, this goes by the parts of a flow (`Flow.byParts_along`), so it need only be shown of the
records that are appended and of the work on the disk
(`Gate.along_deployRaw`, `Gate.along_deployProxy`, `Gate.along_attemptWith`).
-/

namespace UpgradeGate

/-- A relation of books that work may be measured by: it can be put together, and counts and stages
are no matter of it. -/
structure Steady (R : Books → Books → Prop) : Prop where
  trans : ∀ {before middle after}, R before middle → R middle after → R before after
  marked : ∀ books tally stages, R books { books with tally := tally, stages := stages }

theorem Steady.refl {R : Books → Books → Prop} (steady : Steady R) (books : Books) :
    R books books := steady.marked books books.tally books.stages

/-- Keeping all but the touched places is steady: neither the counts nor the stages are places. -/
theorem steady_keeps (touched : Place → Prop) : Steady (Books.Keeps touched) :=
  ⟨Books.Keeps.trans, fun books _ _ => (Books.Keeps.refl _ books).congr rfl rfl rfl⟩

/-- Appending touches no file at all. -/
theorem Books.keeps_recorded_of (touched : Place → Prop) (books : Books) (row : Row) :
    Books.Keeps touched books (books.recorded row) :=
  (Books.Keeps.recorded books row).mono fun _ => False.elim

namespace Flow

variable {α β : Type} {R : Books → Books → Prop} {flow : Flow α}

/-- **A flow goes along a relation**, from the books that it starts with to those that it leaves
behind, and to those at the time of every question that it asks. -/
structure Along (R : Books → Books → Prop) (flow : Flow α) : Prop where
  ends : ∀ {books trace result after}, flow.Ends books trace result after → R books after
  asks : ∀ {books trace result after}, flow.Ends books trace result after →
    ∀ exchange ∈ trace, ∃ during, R books during ∧ exchange.call.disk = during.disk

/-- A flow that asks nobody goes along every relation that leads to what it leaves behind. -/
theorem along_of_silent
    (silent : ∀ {books trace result after}, flow.Ends books trace result after →
      trace = [] ∧ R books after) : flow.Along R where
  ends ended := (silent ended).2
  asks ended := by
    rw [(silent ended).1]
    exact fun _ absent => absurd absent List.not_mem_nil

section Steady

variable (steady : Steady R)
include steady

/-- A flow that keeps the books goes along every steady relation, if nothing else is on the disk
when it asks. -/
theorem along_of_kept
    (kept : ∀ {books trace result after}, flow.Ends books trace result after →
      after = books ∧ ∀ exchange ∈ trace, exchange.call.disk = books.disk) : flow.Along R where
  ends ended := by
    rw [(kept ended).1]
    exact steady.refl _
  asks ended exchange member := ⟨_, steady.refl _, (kept ended).2 exchange member⟩

theorem along_pure (value : α) : (pure value : Flow α).Along R := by
  refine along_of_silent fun ended => ?_
  obtain ⟨rfl, -, rfl⟩ := ends_pure.1 ended
  exact ⟨rfl, steady.refl _⟩

theorem along_lift (given : Except Failure α) : (lift given).Along R := by
  refine along_of_silent fun ended => ?_
  obtain ⟨rfl, -, rfl⟩ := ends_lift.1 ended
  exact ⟨rfl, steady.refl _⟩

/-- A flow that settles leaves the books as they stood, which are along `R`. -/
theorem along_settles {found : Books → Except Failure α}
    (settles : ∀ books, flow.Settles books (found books)) : flow.Along R := by
  refine along_of_silent fun ended => ?_
  obtain ⟨rfl, -, rfl⟩ := (settles _ _ _ _).1 ended
  exact ⟨rfl, steady.refl _⟩

/-- A question moves nothing in the books. -/
theorem along_ask (question : Question) : (ask question).Along R := by
  refine along_of_kept steady fun ended => ?_
  obtain ⟨rfl, rfl⟩ := ends_ask.1 ended
  refine ⟨rfl, fun exchange member => ?_⟩
  rw [List.mem_singleton.1 member]
  rfl

theorem along_announce (event : Event) : (announce event).Along R := by
  refine along_of_kept steady fun ended => ?_
  obtain ⟨reply, rfl, -, rfl⟩ := ends_announce.1 ended
  refine ⟨rfl, fun exchange member => ?_⟩
  rw [List.mem_singleton.1 member]
  rfl

theorem along_count (change : Tally → Tally) : (count change).Along R := by
  refine along_of_silent fun {books} _ _ _ ended => ?_
  obtain ⟨rfl, -, rfl⟩ := ends_count.1 ended
  exact ⟨rfl, steady.marked books (change books.tally) books.stages⟩

theorem along_enter (stage : Stage) : (enter stage).Along R := by
  refine along_of_silent fun {books} _ _ _ ended => ?_
  obtain ⟨rfl, -, rfl⟩ := ends_enter.1 ended
  exact ⟨rfl, steady.marked books books.tally (books.stages ++ [stage])⟩

/-- **A sequence** goes along a steady relation where both parts do. -/
theorem along_bind {next : α → Flow β} (first : flow.Along R) (onward : ∀ a, (next a).Along R) :
    (flow >>= next).Along R where
  ends ended := by
    rcases ends_bind.1 ended with ⟨value, _, _, _, start, rest, -⟩ | ⟨_, start, -⟩
    · exact steady.trans (first.ends start) ((onward value).ends rest)
    · exact first.ends start
  asks ended exchange member := by
    rcases ends_bind.1 ended with ⟨value, middle, early, late, start, rest, rfl⟩ | ⟨_, start, -⟩
    · rcases List.mem_append.1 member with inside | inside
      · exact first.asks start exchange inside
      · obtain ⟨during, onwards, same⟩ := (onward value).asks rest exchange inside
        exact ⟨during, steady.trans (first.ends start) onwards, same⟩
    · exact first.asks start exchange member

/-- Cleaning up goes along where the body does. -/
theorem along_ensuring {cleanup : Flow Unit} (body : flow.Along R) (tidied : cleanup.Along R) :
    (ensuring cleanup flow).Along R where
  ends ended := by
    obtain ⟨_, _, _, _, _, start, rest, -, -⟩ := ends_ensuring.1 ended
    exact steady.trans (body.ends start) (tidied.ends rest)
  asks ended exchange member := by
    obtain ⟨_, _, _, _, _, start, rest, rfl, -⟩ := ends_ensuring.1 ended
    rcases List.mem_append.1 member with inside | inside
    · exact body.asks start exchange inside
    · obtain ⟨during, onwards, same⟩ := tidied.asks rest exchange inside
      exact ⟨during, steady.trans (body.ends start) onwards, same⟩

/-- Counting a failure keeps along `R` a flow that is along `R`. -/
theorem along_onFailure {isMeant : Kind → Bool} {change : Tally → Tally} (body : flow.Along R) :
    (onFailure isMeant (count change) flow).Along R where
  ends ended := by
    obtain ⟨last, runs, rfl⟩ := ends_onFailure.1 ended
    have kept := body.ends runs
    split
    · exact kept
    · split
      · exact steady.trans kept (steady.marked last (change last.tally) last.stages)
      · exact kept
  asks ended := by
    obtain ⟨last, runs, -⟩ := ends_onFailure.1 ended
    exact body.asks runs

/-- **Going along a steady relation** goes by the parts of a flow. -/
theorem byParts_along : ByParts fun _ flow => flow.Along R where
  lift := along_lift steady
  ask := along_ask steady
  announce := along_announce steady
  count := along_count steady
  enter := along_enter steady
  bind := along_bind steady
  ensuring := along_ensuring steady
  onFailure := along_onFailure steady

end Steady

/-- Work on the disk is along `R` when each disk the task leaves is. -/
theorem along_onDisk {task : DiskTask α}
    (work : ∀ books : Books, R books { books with disk := (task.run.run books.disk).2 }) :
    (onDisk task).Along R := by
  refine along_of_silent fun {books} _ _ _ ended => ?_
  obtain ⟨rfl, -, rfl⟩ := ends_onDisk.1 ended
  exact ⟨rfl, work books⟩

/-- A record of what happens now is appended. -/
theorem along_note [AddressRule] {record : Moment → DeploymentRecord}
    (taken : ∀ now, DeploymentLog.rowOf (record now) = .ok (record now).row)
    (recorded : ∀ books : Books, R books (books.recorded (record books.now).row)) :
    (note record).Along R := by
  refine along_of_silent fun {books} _ _ _ ended => ?_
  obtain ⟨rfl, -, rfl⟩ := (ends_note taken).1 ended
  exact ⟨rfl, recorded books⟩

/-- A write of the store is along `R` when the write itself is, at whatever moment it is made. -/
theorem along_writeNow {gate : Gate} {copy : Copy} {contract network : String} {layout : Layout}
    (work : ∀ (books : Books) now, R books { books with
      disk := ((gate.store.write now copy contract network layout).run.run books.disk).2 }) :
    (gate.writeNow copy contract network layout).Along R := by
  refine along_of_silent fun {books} _ _ _ ended => ?_
  obtain ⟨rfl, -, rfl⟩ := Gate.ends_writeNow.1 ended
  exact ⟨rfl, work books books.now⟩

end Flow

namespace Gate

open UpgradeGate.Flow

variable {R : Books → Books → Prop} (steady : Steady R) {gate : Gate} {order : UpgradeOrder}
  {contract network : String}
include steady

/-- **Deploying a contract that stands alone** appends one record. -/
theorem along_deployRaw [AddressRule] (arguments : List Argument) (sender : String)
    (recorded : ∀ books address,
      R books (books.recorded (rawRecord contract network address books.now).row)) :
    (deployRaw contract arguments network sender).Along R :=
  (byParts_along steady).deployRaw arguments sender fun address =>
    along_note (rowOf_rawRecord contract network address) fun books => recorded books address

/-- **Deploying a proxy** appends one record and writes the baseline of its contract. -/
theorem along_deployProxy [AddressRule] (initData : Bytes) (kind : Json) (admin : Option String)
    (sender : String)
    (recorded : ∀ books implementation proxy kind admin, R books (books.recorded
      (proxyRecord contract network implementation proxy kind admin books.now).row))
    (written : ∀ (books : Books) now layout, R books { books with
      disk := ((gate.store.write now .baseline contract network layout).run.run books.disk).2 }) :
    (gate.deployProxy contract initData kind admin network sender).Along R := by
  refine (byParts_along steady).deployProxy initData kind admin sender ?_ fun layout =>
    along_writeNow fun books now => written books now layout
  intro implementation proxy kind made
  exact along_note (rowOf_proxyRecord contract network implementation proxy kind made)
    fun books => recorded books implementation proxy kind made

/-- **An attempt** appends the records of the deployment and of the upgrade, and writes the baseline
of the order's contract. -/
theorem along_attemptWith [AddressRule] {proxy : Address} {previous : Option DeploymentRecord}
    (deployed : ∀ books address,
      R books (books.recorded (rawRecord order.contract order.network address books.now).row))
    (upgraded : ∀ books admin implementation, R books (books.recorded
      (upgradeRecord order proxy previous admin implementation books.now).row))
    (written : ∀ (books : Books) now layout, R books { books with
      disk := ((gate.store.write now .baseline order.contract order.network layout).run.run
        books.disk).2 })
    (fresh : Attempt) : (gate.attemptWith order proxy previous fresh).Along R := by
  refine (byParts_along steady).attemptWith ?_ ?_ ?_ fresh ?_
  · exact fun address => along_note (rowOf_rawRecord order.contract order.network address)
      fun books => deployed books address
  · exact fun admin implementation =>
      along_note (rowOf_upgradeRecord order proxy previous admin implementation)
        fun books => upgraded books admin implementation
  · exact fun layout => along_writeNow fun books now => written books now layout
  · exact along_settles steady fun books => gate.settles_reading books _ _ _

end Gate

end UpgradeGate
