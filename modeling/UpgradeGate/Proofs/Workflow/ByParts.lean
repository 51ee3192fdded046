import UpgradeGate.Proofs.Workflow.Upgrade

/-!
# Properties that go by the parts of a flow

A property goes by the parts of flows where a sequence has it as soon as both of its parts do, and
questions, announcements, counts and stages have it anyhow (`Flow.ByParts`). All that is left to
show of a deployment or an upgrade are its steps on the log and on the disk
(`Flow.ByParts.deployRaw`, `Flow.ByParts.deployProxy`, `Flow.ByParts.attemptWith`,
`Flow.ByParts.run`).
-/

namespace UpgradeGate

/-- Append the record of something that happens now, whatever its number. -/
def Flow.note [AddressRule] (record : Moment → DeploymentRecord) : Flow Unit := do
  let made ← Gate.stamped record
  let _ ← appendRecord made

/-- Write a copy of a layout that is captured now. -/
def Gate.writeNow (gate : Gate) (copy : Copy) (contract network : String) (layout : Layout) :
    Flow Path := do
  let now := (← get).now
  Flow.onDisk (gate.store.write now copy contract network layout)

/-- A copy is written as it is captured now. -/
theorem Gate.ends_writeNow {gate : Gate} {copy : Copy} {contract network : String}
    {layout : Layout} {books after : Books} {trace : Trace collaborators}
    {result : Except Failure Path} :
    (gate.writeNow copy contract network layout).Ends books trace result after ↔
      let written := (gate.store.write books.now copy contract network layout).run.run books.disk
      trace = [] ∧ result = written.1 ∧ after = { books with disk := written.2 } := by
  rw [writeNow, Flow.ends_get_bind, Flow.ends_onDisk]

namespace Flow

/-- **Noting a record** asks nobody. It fails where the log cannot be read. -/
theorem ends_note [AddressRule] {record : Moment → DeploymentRecord} {books after : Books}
    {trace : Trace collaborators} {result : Except Failure Unit}
    (taken : ∀ now, DeploymentLog.rowOf (record now) = .ok (record now).row) :
    (note record).Ends books trace result after ↔
      trace = [] ∧ result = books.ledger.map (fun _ => ()) ∧
        after = books.recorded (record books.now).row := by
  rw [note, Gate.ends_stamped_bind, bind_pure_comp, ends_map]
  simp only [ends_appendRecord (taken books.now)]
  constructor
  · rintro ⟨_, ⟨rfl, rfl, rfl⟩, rfl⟩
    exact ⟨rfl, by cases books.ledger <;> rfl, rfl⟩
  · rintro ⟨rfl, rfl, rfl⟩
    exact ⟨_, ⟨rfl, rfl, rfl⟩, by cases books.ledger <;> rfl⟩

/-- **A property goes by the parts** of a flow. -/
structure ByParts (P : (α : Type) → Flow α → Prop) : Prop where
  lift : ∀ {α : Type} (result : Except Failure α), P α (lift result)
  ask : ∀ question, P question.Answer (ask question)
  announce : ∀ event, P Unit (announce event)
  count : ∀ change, P Unit (count change)
  enter : ∀ stage, P Unit (enter stage)
  bind : ∀ {α β : Type} {flow : Flow α} {next : α → Flow β},
    P α flow → (∀ value, P β (next value)) → P β (flow >>= next)
  ensuring : ∀ {α : Type} {cleanup : Flow Unit} {body : Flow α},
    P α body → P Unit cleanup → P α (ensuring cleanup body)
  onFailure : ∀ {α : Type} {isMeant : Kind → Bool} {change : Tally → Tally} {body : Flow α},
    P α body → P α (onFailure isMeant (Flow.count change) body)

namespace ByParts

variable {P : (α : Type) → Flow α → Prop} (parts : ByParts P) {α β : Type}
include parts

theorem pure (value : α) : P α (pure value) := parts.lift (.ok value)

theorem throw (failure : Failure) : P α (throw failure) := parts.lift (.error failure)

theorem map {flow : Flow α} (f : α → β) (first : P α flow) : P β (f <$> flow) := by
  rw [← bind_pure_comp]
  exact parts.bind first fun _ => parts.pure _

/-- Stamping a record, appending it and going on is made of the two parts that note and go on. -/
theorem note_bind [AddressRule] {record : Moment → DeploymentRecord} {next : Flow α}
    (noted : P Unit (note record)) (onward : P α next) :
    P α (do
      let made ← Gate.stamped record
      let _ ← appendRecord made
      next) := by
  have sequence : (do
      let made ← Gate.stamped record
      let _ ← appendRecord made
      next) = note record >>= fun _ => next := by
    simp only [note, bind_assoc, pure_bind]
  rw [sequence]
  exact parts.bind noted fun _ => onward

/-- Writing a layout now and going on is made of the write and of what goes on from its path. -/
theorem writeNow_bind {gate : Gate} {copy : Copy} {contract network : String} {layout : Layout}
    {next : Path → Flow α} (written : P Path (gate.writeNow copy contract network layout))
    (onward : ∀ path, P α (next path)) :
    P α (do
      let now := (← get).now
      let path ← onDisk (gate.store.write now copy contract network layout)
      next path) := by
  have sequence := parts.bind written onward
  rwa [Gate.writeNow, bind_assoc] at sequence

variable {gate : Gate} {contract network sender : String}

/-! ## Deployments -/

theorem create [AddressRule] (contract : String) (arguments : List Argument) (sender : String) :
    P Address (Gate.create contract arguments sender) :=
  parts.bind (parts.ask _) fun _ => parts.bind (parts.ask _) fun _ => parts.lift _

theorem label (address name : String) : P Unit (Gate.label address name) :=
  parts.bind (parts.ask (.label address name)) fun _ => parts.announce _

/-- **Deploying a contract that stands alone** appends one record. -/
theorem deployRaw [AddressRule] (arguments : List Argument) (sender : String)
    (noted : ∀ address, P Unit (note (Gate.rawRecord contract network address))) :
    P Address (Gate.deployRaw contract arguments network sender) := by
  refine parts.bind (parts.create _ _ _) fun address => ?_
  refine parts.note_bind (noted address) ?_
  refine parts.bind (parts.count _) fun _ => ?_
  refine parts.bind (parts.label _ _) fun _ => ?_
  exact parts.bind (parts.announce _) fun _ => parts.pure _

theorem createdAdmin (kind : ProxyKind) (proxy : Address) :
    P (Option String) (Gate.createdAdmin kind proxy) := by
  cases kind with
  | uups => exact parts.pure _
  | transparent => exact parts.ask (.adminOf proxy)

theorem labelAdmin (contract : String) (admin : Option String) :
    P Unit (Gate.labelAdmin contract admin) := by
  unfold Gate.labelAdmin
  split
  · exact parts.label _ _
  · exact parts.pure _

theorem recordBaseline
    (written : ∀ layout, P Path (gate.writeNow .baseline contract network layout)) :
    P Unit (gate.recordBaseline contract network) := by
  unfold Gate.recordBaseline
  split
  · refine parts.bind (parts.ask _) fun layout => ?_
    exact parts.writeNow_bind (written layout) fun _ => parts.pure _
  · exact parts.pure _

/-- **Deploying a proxy** appends one record and writes the baseline of its contract. -/
theorem deployProxy [AddressRule] (initData : Bytes) (kind : Json) (admin : Option String)
    (sender : String) (noted : ∀ implementation proxy kind admin,
      P Unit (note (Gate.proxyRecord contract network implementation proxy kind admin)))
    (written : ∀ layout, P Path (gate.writeNow .baseline contract network layout)) :
    P Address (gate.deployProxy contract initData kind admin network sender) := by
  rw [Gate.deployProxy_eq]
  refine parts.bind (parts.lift _) fun kind => ?_
  refine parts.bind (parts.lift _) fun owner => ?_
  refine parts.bind (parts.create _ _ _) fun implementation => ?_
  refine parts.bind (parts.lift _) fun arguments => ?_
  refine parts.bind (parts.create _ _ _) fun proxy => ?_
  refine parts.bind (parts.createdAdmin kind proxy) fun made => ?_
  refine parts.note_bind (noted implementation proxy kind made) ?_
  refine parts.bind (parts.count _) fun _ => ?_
  refine parts.bind (parts.label _ _) fun _ => ?_
  refine parts.bind (parts.label _ _) fun _ => ?_
  refine parts.bind (parts.labelAdmin _ _) fun _ => ?_
  refine parts.bind (parts.announce _) fun _ => ?_
  exact parts.bind (parts.recordBaseline written) fun _ => parts.pure _

/-! ## Upgrades -/

theorem administrator [AddressRule] (proxy : Address) (admin : Option String)
    (previous : Option DeploymentRecord) :
    P (Option Address) (Gate.administrator proxy admin previous) := by
  rw [Gate.administrator_eq]
  split
  · split
    · exact parts.throw _
    · exact parts.pure _
  · refine parts.bind (parts.lift _) fun address => ?_
    refine parts.bind (parts.ask _) fun there => ?_
    split
    · exact parts.pure _
    · exact parts.throw _

theorem predictNext (gate : Gate) (sender : String) : P String (gate.predictNext sender) := by
  unfold Gate.predictNext
  split
  · exact parts.pure _
  · exact parts.bind (parts.ask _) fun _ => parts.map _ (parts.lift _)

theorem install (order : UpgradeOrder) (proxy implementation : Address) (admin : Option Address) :
    P Unit (Gate.install order proxy implementation admin) := by
  unfold Gate.install
  split
  · exact parts.ask (.upgradeAndCall ..)
  · exact parts.ask (.upgrade ..)

theorem confirm [AddressRule] (proxy implementation : Address) :
    P Unit (Gate.confirm proxy implementation) := by
  refine parts.bind (parts.ask _) fun current => ?_
  split
  · exact parts.pure _
  · exact parts.throw _

variable [AddressRule] {order : UpgradeOrder} {proxy : Address} {previous : Option DeploymentRecord}
  (deployed : ∀ address, P Unit (note (Gate.rawRecord order.contract order.network address)))
  (upgraded : ∀ admin implementation,
    P Unit (note (Gate.upgradeRecord order proxy previous admin implementation)))
  (written : ∀ layout, P Path (gate.writeNow .baseline order.contract order.network layout))
include deployed upgraded written

/-- **The fast path** appends the records of the deployment and of the upgrade, and writes the
baseline of the order's contract. -/
theorem fastPath (candidate : Layout) (compatible : Bool) (attempt : Attempt) :
    P Attempt (gate.fastPath order proxy previous candidate compatible attempt) := by
  rw [Gate.fastPath_eq]
  refine parts.bind (parts.enter _) fun _ => ?_
  refine parts.bind (parts.administrator _ _ _) fun admin => ?_
  refine parts.bind (parts.predictNext _ _) fun predicted => ?_
  refine parts.bind (parts.deployRaw _ _ deployed) fun implementation => ?_
  split
  case isFalse => exact parts.bind (parts.count _) fun _ => parts.throw _
  refine parts.bind (parts.install _ _ _ _) fun _ => ?_
  refine parts.bind (parts.confirm _ _) fun _ => ?_
  refine parts.bind (parts.enter _) fun _ => ?_
  refine parts.note_bind (upgraded admin implementation) ?_
  refine parts.writeNow_bind (written candidate) fun _ => ?_
  exact parts.bind (parts.announce _) fun _ => parts.pure _

/-- **An attempt** reads its scratch copy, appends no other records and writes nothing else. -/
theorem attemptWith (fresh : Attempt)
    (read : P (Option Layout)
      (onDisk (gate.store.read? .scratch order.contract order.network))) :
    P (Attempt × Report) (gate.attemptWith order proxy previous fresh) := by
  refine parts.bind read fun captured => ?_
  refine parts.bind (parts.enter _) fun _ => ?_
  refine parts.bind (parts.ask _) fun candidate => ?_
  cases captured with
  | none => exact parts.throw _
  | some baseline =>
    dsimp only
    split
    · exact parts.bind (parts.fastPath deployed upgraded written _ _ _) fun _ => parts.pure _
    · refine parts.bind ?_ fun _ => parts.pure _
      refine parts.bind (parts.enter _) fun _ => ?_
      refine parts.bind (parts.enter _) fun _ => ?_
      exact parts.bind (parts.announce _) fun _ => parts.pure _

omit upgraded in
/-- **An upgrade** looks up the layout behind the proxy, and writes and discards its scratch copy
besides. -/
theorem run
    (latest : ∀ proxy, P (Option DeploymentRecord) (Gate.latestRecord? proxy order.network))
    (live : ∀ previous, P Layout (gate.liveLayout order.contract order.network previous))
    (upgraded : ∀ proxy previous admin implementation,
      P Unit (note (Gate.upgradeRecord order proxy previous admin implementation)))
    (read : P (Option Layout) (onDisk (gate.store.read? .scratch order.contract order.network)))
    (scratched : ∀ layout, P Path (gate.writeNow .scratch order.contract order.network layout))
    (discarded : P Unit (onDisk (gate.store.discardScratch order.contract order.network))) :
    P Attempt (gate.run order) := by
  refine parts.bind (parts.lift _) fun proxy => ?_
  refine parts.bind (parts.enter _) fun _ => ?_
  refine parts.bind (latest proxy) fun previous => ?_
  refine parts.bind (live previous) fun baseline => ?_
  refine parts.bind (parts.onFailure ?_) fun _ => ?_
  · refine parts.writeNow_bind (scratched baseline) fun _ => ?_
    exact parts.ensuring
      (parts.attemptWith deployed (upgraded proxy previous) written _ read) discarded
  · refine parts.bind (parts.count _) fun _ => ?_
    exact parts.bind (parts.count _) fun _ => parts.pure _

omit [AddressRule] deployed upgraded written in
/-- **A check** looks up the layout that is installed. -/
theorem check (live : P Layout (gate.liveLayout contract network none)) :
    P Report (gate.check contract network) :=
  parts.bind live fun _ => parts.bind (parts.ask _) fun _ => parts.pure _

end ByParts

end Flow

end UpgradeGate
