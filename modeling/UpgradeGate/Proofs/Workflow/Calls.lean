import UpgradeGate.Proofs.Workflow.Along

/-!
# Calls of the workflow

A workspace is used by calls: contracts and proxies are deployed, proxies upgraded, layouts checked
and records looked up (`GateCall.perform`). Each call is made at its own moment and ends in its own
way, and one comes after the other (`Gate.Course`).
-/

namespace UpgradeGate

open UpgradeGate.Flow

/-- A call of the workflow, with its arguments. -/
inductive GateCall where
  | deployRaw (contract : String) (arguments : List Argument) (network sender : String)
  | deployProxy (contract : String) (initData : Bytes) (kind : Json) (admin : Option String)
      (network sender : String)
  | run (order : UpgradeOrder)
  | check (contract network : String)
  | history (contract network : Option String)

/-- What a call returns. -/
inductive GateAnswer where
  | address (address : Address)
  | attempt (attempt : Attempt)
  | report (report : Report)
  | records (records : List DeploymentRecord)

/-- Make a call. -/
def GateCall.perform [AddressRule] (gate : Gate) : GateCall → Flow GateAnswer
  | .deployRaw contract arguments network sender =>
    .address <$> Gate.deployRaw contract arguments network sender
  | .deployProxy contract initData kind admin network sender =>
    .address <$> gate.deployProxy contract initData kind admin network sender
  | .run order => .attempt <$> gate.run order
  | .check contract network => .report <$> gate.check contract network
  | .history contract network => .records <$> Flow.history contract network

/-- The network that a call is about, if it is about one. -/
def GateCall.network? : GateCall → Option String
  | .deployRaw _ _ network _ => some network
  | .deployProxy _ _ _ _ network _ => some network
  | .run order => some order.network
  | .check _ network => some network
  | .history _ network => network

/-- A property of all steps on the log and on the disk that calls about a network are made of. -/
structure Gate.StepsOn [AddressRule] (gate : Gate) (network : String)
    (P : (α : Type) → Flow α → Prop) :
    Prop where
  noted : ∀ record : Moment → DeploymentRecord, (∀ now, (record now).network = network) →
    (∀ now, DeploymentLog.rowOf (record now) = .ok (record now).row) → P Unit (note record)
  latest : ∀ proxy, P (Option DeploymentRecord) (latestRecord? proxy network)
  listed : ∀ contract, P (List DeploymentRecord) (Flow.history contract (some network))
  live : ∀ contract previous, P Layout (gate.liveLayout contract network previous)
  read : ∀ copy contract, P (Option Layout) (onDisk (gate.store.read? copy contract network))
  written : ∀ copy contract layout, P Path (gate.writeNow copy contract network layout)
  discarded : ∀ contract, P Unit (onDisk (gate.store.discardScratch contract network))

/-- **A property of a call** that goes by parts is shown step by step. -/
theorem Flow.ByParts.perform [AddressRule] {P : (α : Type) → Flow α → Prop} (parts : ByParts P)
    {gate : Gate} {network : String} (steps : gate.StepsOn network P) {call : GateCall}
    (about : call.network? = some network) : P GateAnswer (call.perform gate) := by
  cases call with
  | deployRaw contract arguments here sender =>
    cases about
    refine parts.map _ (parts.deployRaw arguments sender fun address => ?_)
    exact steps.noted _ (fun _ => rfl) (Gate.rowOf_rawRecord contract network address)
  | deployProxy contract initData kind admin here sender =>
    cases about
    refine parts.map _ (parts.deployProxy initData kind admin sender ?_ (steps.written _ _))
    intro implementation proxy kind made
    exact steps.noted _ (fun _ => rfl)
      (Gate.rowOf_proxyRecord contract network implementation proxy kind made)
  | run order =>
    cases about
    refine parts.map _ (parts.run ?_ (steps.written _ _) steps.latest (steps.live _) ?_
      (steps.read _ _) (steps.written _ _) (steps.discarded _))
    · intro address
      exact steps.noted _ (fun _ => rfl) (Gate.rowOf_rawRecord order.contract order.network address)
    · intro proxy previous admin implementation
      exact steps.noted _ (fun _ => rfl)
        (Gate.rowOf_upgradeRecord order proxy previous admin implementation)
  | check contract here =>
    cases about
    exact parts.map _ (parts.check (steps.live contract none))
  | history contract here =>
    cases about
    exact parts.map _ (steps.listed contract)

/-- A call that was made: at a moment, with the exchanges and the result that it had. -/
structure CallMade where
  call : GateCall
  now : Moment
  trace : Trace collaborators
  result : Except Failure GateAnswer

namespace Gate

variable {gate : Gate} {R : Books → Books → Prop}

/-- Calls that are made one after the other, each at its own moment and ending in its own way, with
the books before and after. -/
inductive Course [AddressRule] (gate : Gate) : Books → List CallMade → Books → Prop where
  | done (books : Books) : Course gate books [] books
  | call {books middle after : Books} {call : GateCall} {now : Moment}
      {trace : Trace collaborators} {result : Except Failure GateAnswer} {later : List CallMade}
      (ended : (call.perform gate).Ends { books with now := now } trace result middle)
      (rest : Course gate middle later after) :
      Course gate books (⟨call, now, trace, result⟩ :: later) after

/-- Calls can be made after others. -/
theorem Course.append [AddressRule] {start middle after : Books} {calls later : List CallMade}
    (course : Course gate start calls middle) (rest : Course gate middle later after) :
    Course gate start (calls ++ later) after := by
  induction course with
  | done => exact rest
  | call ended _ ih => exact .call ended (ih rest)

/-- A check moves the books along every steady relation. -/
theorem along_check (steady : Steady R) (contract network : String) :
    (gate.check contract network).Along R := by
  refine along_bind steady (along_settles steady fun books =>
    gate.settles_liveLayout books contract network none) fun baseline => ?_
  exact along_bind steady (along_ask steady _) fun _ => along_pure steady _

/-- So does a reading of the history. -/
theorem along_history (steady : Steady R) (contract network : Option String) :
    (Flow.history contract network).Along R :=
  along_settles steady fun books => settles_history books contract network

end Gate

end UpgradeGate
