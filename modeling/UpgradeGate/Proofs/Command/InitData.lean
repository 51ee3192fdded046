import UpgradeGate.Proofs.Command.Calldata
import UpgradeGate.Proofs.Command.Opening
import UpgradeGate.Proofs.Gate.ProxyDeployments

/-!
# Where calldata arrives

A command comes to its work with the bytes that its calldata spells. A run asks for its upgrade with
the calldata of its order (`Gate.Run.calldata`), also where that is empty, for an upgrade without a
call is another question. The constructor of a proxy is given the calldata of its deployment
(`Gate.deploying_of_ends`). What spells no bytes is refused before anything is asked or written
(`Command.calldata_arrives`).
-/

namespace UpgradeGate

open UpgradeGate.Flow

namespace Flow

variable {trace : Trace collaborators}

/-- What an upgrade is asked for with: the calldata, or nothing where there is no call. -/
def calldata? : Exchange collaborators → Option (Option Bytes)
  | ⟨⟨.upgradeAndCall _ _ data _ _, _⟩, _⟩ => some (some data)
  | ⟨⟨.upgrade _ _ _ _, _⟩, _⟩ => some none
  | _ => none

/-- Where no upgrade is asked for, no calldata is sent. -/
theorem filterMap_calldata?_of_unasked (unasked : trace.countP isUpgrade = 0) :
    trace.filterMap calldata? = [] := by
  refine List.filterMap_eq_nil_iff.2 fun exchange member => ?_
  have other := List.countP_eq_zero.1 unasked exchange member
  obtain ⟨⟨question, disk⟩, answer⟩ := exchange
  cases question <;> first | rfl | exact absurd rfl other

end Flow

namespace Gate

variable {gate : Gate} {order : UpgradeOrder} {proxy : Address}
  {previous : Option DeploymentRecord} {books after : Books} {trace : Trace collaborators}

/-! ## Upgrades -/

/-- An installation sends the calldata of the order. -/
theorem calldata?_installCall (order : UpgradeOrder) (proxy implementation : Address)
    (admin : Option Address) (disk : Disk) (reply : Except Failure Unit) :
    calldata? (installCall order proxy implementation admin disk reply) = some order.initData := by
  unfold installCall
  cases order.initData <;> rfl

/-- The fast path sends the calldata of its order, in every upgrade that it asks for. -/
theorem FastPath.calldata [AddressRule] {candidate : Layout} {compatible : Bool} {attempt : Attempt}
    {result : Except Failure Attempt}
    (path : FastPath gate order proxy previous candidate compatible attempt books trace result
      after) :
    trace.filterMap calldata? = [] ∨ trace.filterMap calldata? = [order.initData] := by
  rcases path.asks with unasked | ⟨checked, foretold, early, later, admin, predicted,
    implementation, middle, reply, foreseen, deployed, -, idle, rfl⟩
  · exact .inl (filterMap_calldata?_of_unasked unasked)
  · right
    simp only [List.filterMap_append, List.filterMap_cons, calldata?_installCall,
      filterMap_calldata?_of_unasked foreseen.quiet.1.countP_isUpgrade,
      filterMap_calldata?_of_unasked foreseen.quiet.2.countP_isUpgrade,
      filterMap_calldata?_of_unasked deployed.countP_isUpgrade,
      filterMap_calldata?_of_unasked idle.upgrades, List.nil_append]

/-- **What an upgrade is asked for with** is the calldata of the order; a run with an override that
returned did ask. -/
theorem Run.calldata [AddressRule] {result : Except Failure Attempt}
    (run : Run gate order books trace result after) :
    (trace.filterMap calldata? = [] ∨ trace.filterMap calldata? = [order.initData]) ∧
      (order.override = true → (∃ attempt, result = .ok attempt) →
        trace.filterMap calldata? = [order.initData]) := by
  have once : trace.filterMap calldata? = [] ∨ trace.filterMap calldata? = [order.initData] := by
    rcases run.follows with ⟨-, unasked⟩ |
      ⟨proxy, previous, candidate, _, _, entered, rest, _, -, -, -, -, -, path, rfl⟩
    · exact .inl (filterMap_calldata?_of_unasked unasked)
    · exact path.calldata
  refine ⟨once, ?_⟩
  rintro override ⟨attempt, rfl⟩
  obtain ⟨-, proxy, -, implementation, admin, before, current, disk, later, -, -, -, rfl⟩ :=
    run.confirmed override
  rcases once with none | one
  · simp [List.filterMap_append, List.filterMap_cons, calldata?_installCall] at none
  · exact one

/-! ## New proxies -/

/-- **What a new proxy is constructed with**: nothing is deployed, or there is no objection, and
what is deployed is as the kind of the proxy, the owner and the calldata say. A proxy that is
returned was placed. -/
theorem deploying_of_ends [AddressRule] {contract network sender : String} {initData : Bytes}
    {given : Json} {admin : Option String} {result : Except Failure Address}
    (ended : (gate.deployProxy contract initData given admin network sender).Ends books trace result
      after) :
    (told trace = ⟨[], [], [], []⟩ ∧ ∃ failure, result = .error failure) ∨
    ∃ kind arguments placed, Accepted given admin initData kind arguments ∧
      Deploying contract kind arguments sender (told trace) placed ∧
      ((∃ proxy, result = .ok proxy) → placed.isSome = true) := by
  rw [deployProxy_eq_bookProxy] at ended
  rcases ends_lift_bind.1 ended with ⟨kind, known, owning⟩ | ⟨failure, -, rfl, rfl, -⟩
  case inr => exact .inl ⟨rfl, failure, rfl⟩
  rcases ends_lift_bind.1 owning with ⟨owner, owned, creating⟩ | ⟨failure, -, rfl, rfl, -⟩
  case inr => exact .inl ⟨rfl, failure, rfl⟩
  obtain ⟨_, refused, -⟩ | ⟨_, arguments, same, accepted, taken⟩ :=
    @ownerOf_cases contract initData given admin kind _ (ProxyKind.parse_eq_ok_iff.1 known)
  · cases refused.symm.trans owned
  cases same.symm.trans owned
  right
  cases placing_of_ends taken creating with
  | unplaced failure deploying =>
    exact ⟨kind, arguments, none, accepted, deploying, fun ⟨_, impossible⟩ => nomatch impossible⟩
  | placed deploying => exact ⟨kind, arguments, _, accepted, deploying, fun _ => rfl⟩

end Gate

namespace Command

variable {invocation : Invocation} {environment : Environment} {context : Context}
  {books after : Books} {trace said : Trace collaborators} {result : Except Failure Ending}
  {proxy contract kind data : String} {admin : Option String} {override asJson : Bool}
  {bytes : Bytes}

/-! ## The work -/

/-- The attempt of an upgrade command, with calldata that was read. -/
def runIn [AddressRule] (proxy contract : String) (initData : Option Bytes) (override : Bool)
    (admin : Option String) (context : Context) : Flow Attempt := do
  let account ← Flow.lift (sender context)
  context.gate.run ⟨proxy, contract, context.network.name, account, initData, override, admin⟩

/-- The deployment of a proxy, with calldata that was read. -/
def placeIn [AddressRule] (contract kind : String) (admin : Option String) (initData : Bytes)
    (context : Context) : Flow Address := do
  let account ← Flow.lift (sender context)
  context.gate.deployProxy contract initData (.string kind) admin context.network.name account

/-- The end of a command that deployed a proxy. -/
def placedEnding (contract kind : String) (proxy : Address) : Ending :=
  done [contract ++ " deployed behind " ++ kind ++ " proxy at " ++ proxy.text]

/-- An upgrade with calldata starts from the bytes of it. -/
theorem startsFrom_upgrade [AddressRule]
    (upgrades : invocation.command = .upgrade proxy contract (some data) override admin asJson) :
    StartsFrom invocation (Calldata.parse data) fun bytes context =>
      attemptEnding asJson <$> runIn proxy contract (some bytes) override admin context := by
  rintro context rfl
  rw [carryOut_upgrade upgrades]
  cases read : Calldata.parse data with
  | ok bytes =>
    have parsed : (some data).mapM Calldata.parse = .ok (some bytes) := by
      simp [Option.mapM_some, read]
    rw [map_bind]
    simp only [attemptIn, parsed]
    rfl
  | error failure =>
    have failed : (some data).mapM Calldata.parse = .error failure := by
      simp [Option.mapM_some, read]
    rw [map_bind]
    simp only [attemptIn, failed]
    rfl

/-- The deployment of a proxy starts from the bytes of its calldata. -/
theorem startsFrom_deployProxy [AddressRule]
    (deploys : invocation.command = .deployProxy contract kind admin data) :
    StartsFrom invocation (Calldata.parse data) fun bytes context =>
      placedEnding contract kind <$> placeIn contract kind admin bytes context := by
  rintro context rfl
  rw [carryOut, deploys]
  simp only [deployProxyOf, placeIn, placedEnding, map_eq_pure_bind, bind_assoc]

/-! ## What is said -/

/-- What is dealt with the chain is overheard as it was told. -/
theorem Overheard.told_eq [AddressRule] (overheard : Overheard said trace) :
    Flow.told trace = Flow.told said := by
  simp only [Flow.told, Flow.Told.mk.injEq]
  exact ⟨overheard.filterMap_eq fun _ _ => rfl, overheard.filterMap_eq fun _ _ => rfl,
    overheard.filterMap_eq fun _ _ => rfl, overheard.filterMap_eq fun _ _ => rfl⟩

/-- Status 0 is that of work that returned. -/
theorem exists_ok_of_status {names : List String} {ended : Except Failure Ending}
    (done : (conclusion names ended).map Ending.status = .ok 0) : ∃ ending, ended = .ok ending := by
  rw [status_conclusion] at done
  cases ended with
  | ok ending => exact ⟨ending, rfl⟩
  | error failure =>
    rw [Except.map, concluded_error] at done
    split at done <;> cases done

/-- Work for an account ends before anything is said, or it is done for the account. -/
theorem ends_opened_for_sender {α : Type} {work : Context → String → Flow α} {ending : α → Ending}
    (ended : (opened invocation environment >>= fun context =>
      ending <$> (Flow.lift (sender context) >>= work context)).Ends books said result after) :
    (said = [] ∧ ∃ failure, result = .error failure) ∨
      ∃ context account middle worked, (work context account).Ends middle said worked after ∧
        ((∃ failure, worked = .error failure) → ∃ failure, result = .error failure) ∧
        ((∃ ending, result = .ok ending) → ∃ value, worked = .ok value) := by
  rcases ends_bind.1 ended with ⟨context, middle, _, _, start, rest, rfl⟩ | ⟨failure, start, rfl⟩
  · rw [of_ends_opened start, List.nil_append]
    obtain ⟨worked, working, rfl⟩ := ends_map.1 rest
    rcases ends_lift_bind.1 working with ⟨account, -, doing⟩ | ⟨failure, -, rfl, rfl, -⟩
    · refine .inr ⟨context, account, middle, worked, doing, ?_, ?_⟩
      · rintro ⟨failure, rfl⟩
        exact ⟨failure, rfl⟩
      · rintro ⟨_, done⟩
        cases worked with
        | ok value => exact ⟨value, rfl⟩
        | error => cases done
    · exact .inl ⟨rfl, failure, rfl⟩
  · rw [of_ends_opened start]
    exact .inl ⟨rfl, failure, rfl⟩

/-- An upgrade command asks for its upgrade with the calldata that it works with. -/
theorem calldata_of_ends [AddressRule] {initData : Option Bytes}
    (ended : (opened invocation environment >>= fun context =>
      attemptEnding asJson <$> runIn proxy contract initData override admin context).Ends books said
        result after) :
    (said.filterMap calldata? = [] ∨ said.filterMap calldata? = [initData]) ∧
      (override = true → (∃ ending, result = .ok ending) →
        said.filterMap calldata? = [initData]) := by
  unfold runIn at ended
  rcases ends_opened_for_sender ended with ⟨rfl, failure, rfl⟩ |
    ⟨_, _, _, _, running, -, returned⟩
  · refine ⟨.inl rfl, ?_⟩
    rintro - ⟨_, impossible⟩
    cases impossible
  · obtain ⟨once, asked⟩ := (Gate.ends_run.1 running).calldata
    exact ⟨once, fun overrides done => asked overrides (returned done)⟩

/-- A command that deploys a proxy has it constructed with the calldata that it works with. -/
theorem deploying_of_ends [AddressRule]
    (ended : (opened invocation environment >>= fun context =>
      placedEnding contract kind <$> placeIn contract kind admin bytes context).Ends books said
        result after) :
    (Flow.told said = ⟨[], [], [], []⟩ ∧ ∃ failure, result = .error failure) ∨
    ∃ known arguments account placed, Gate.Accepted (.string kind) admin bytes known arguments ∧
      Gate.Deploying contract known arguments account (Flow.told said) placed ∧
      ((∃ ending, result = .ok ending) → placed.isSome = true) := by
  unfold placeIn at ended
  rcases ends_opened_for_sender ended with ⟨rfl, failed⟩ |
    ⟨_, account, _, _, placing, failing, returned⟩
  · exact .inl ⟨rfl, failed⟩
  rcases Gate.deploying_of_ends placing with ⟨untold, failed⟩ |
    ⟨known, arguments, placed, accepted, deploying, whole⟩
  · exact .inl ⟨untold, failing failed⟩
  · exact .inr ⟨known, arguments, account, placed, accepted, deploying,
      fun done => whole (returned done)⟩

/-- **Calldata arrives.** An upgrade with calldata that spells bytes comes to its run with exactly
these bytes. Where the run asks for its upgrade, it asks once and with these bytes, also where there
are none; with an override it did ask if the command ends with status 0. The deployment of a proxy
comes to its work with exactly the bytes as well: nothing is deployed, or there is no objection to
the kind and the owner, and what is deployed is as these and the bytes say; both contracts were
deployed if the command ends with status 0. Both refuse calldata that spells no bytes. -/
theorem calldata_arrives [AddressRule] (invocation : Invocation) (environment : Environment) :
    (∀ proxy contract data override admin asJson,
      invocation.command = .upgrade proxy contract (some data) override admin asJson →
      (∀ bytes, Calldata.IsSpelling bytes data →
        ComesTo invocation environment (fun context =>
          attemptEnding asJson <$> runIn proxy contract (some bytes) override admin context) ∧
        ∀ books trace result after,
          (program invocation environment books).Runs trace (result, after) →
          (trace.filterMap calldata? = [] ∨ trace.filterMap calldata? = [some bytes]) ∧
            (override = true → result.map Ending.status = .ok 0 →
              trace.filterMap calldata? = [some bytes])) ∧
      ((∀ bytes, ¬ Calldata.IsSpelling bytes data) → Refuses invocation environment
        (.command (.invalidHex (String.ofList (Calldata.digitsOf data.toList)))))) ∧
    ∀ contract kind admin data, invocation.command = .deployProxy contract kind admin data →
      (∀ bytes, Calldata.IsSpelling bytes data →
        ComesTo invocation environment (fun context =>
          placedEnding contract kind <$> placeIn contract kind admin bytes context) ∧
        ∀ books trace result after,
          (program invocation environment books).Runs trace (result, after) →
          (Flow.told trace = ⟨[], [], [], []⟩ ∧ result.map Ending.status ≠ .ok 0) ∨
          ∃ known arguments account placed,
            Gate.Accepted (.string kind) admin bytes known arguments ∧
            Gate.Deploying contract known arguments account (Flow.told trace) placed ∧
            (result.map Ending.status = .ok 0 → placed.isSome = true)) ∧
      ((∀ bytes, ¬ Calldata.IsSpelling bytes data) → Refuses invocation environment
        (.command (.invalidHex (String.ofList (Calldata.digitsOf data.toList))))) := by
  constructor
  · intro proxy contract data override admin asJson upgrades
    have starts := startsFrom_upgrade upgrades
    refine ⟨fun bytes spells => ?_,
      fun unspelled => starts.refuses (Calldata.parse_of_unspelled unspelled) rfl⟩
    have comes : ComesTo invocation environment _ :=
      starts.comesTo (Calldata.parse_eq_ok_iff.2 spells)
    refine ⟨comes, fun books trace result after runs => ?_⟩
    obtain ⟨said, ended, work, overheard, rfl⟩ := (comes ..).1 runs
    obtain ⟨once, returned⟩ := calldata_of_ends work
    rw [overheard.filterMap_eq fun _ _ => rfl]
    exact ⟨once, fun overrides done => returned overrides (exists_ok_of_status done)⟩
  · intro contract kind admin data deploys
    have starts := startsFrom_deployProxy deploys
    refine ⟨fun bytes spells => ?_,
      fun unspelled => starts.refuses (Calldata.parse_of_unspelled unspelled) rfl⟩
    have comes : ComesTo invocation environment _ :=
      starts.comesTo (Calldata.parse_eq_ok_iff.2 spells)
    refine ⟨comes, fun books trace result after runs => ?_⟩
    obtain ⟨said, ended, work, overheard, rfl⟩ := (comes ..).1 runs
    rw [overheard.told_eq]
    rcases deploying_of_ends work with ⟨untold, failure, rfl⟩ |
      ⟨known, arguments, account, placed, accepted, deploying, returned⟩
    · refine .inl ⟨untold, fun done => ?_⟩
      obtain ⟨_, impossible⟩ := exists_ok_of_status done
      cases impossible
    · exact .inr ⟨known, arguments, account, placed, accepted, deploying,
        fun done => returned (exists_ok_of_status done)⟩

/-- The prepared upgrade with the empty calldata `0x` is asked for with no bytes, and not without a
call; and a pair of digits that is split is refused. -/
theorem calldata_arrives_empty :
    (∃ trace result after, (program { preparedInvocation with
        command := .upgrade UpgradeOrder.prepared.proxy "Token" (some "0x") true none false }
        bareEnvironment preparedBooks).Runs trace (result, after) ∧
      trace.filterMap calldata? = [some []]) ∧
    Refuses { preparedInvocation with command := .deployProxy "Token" "uups" none "0x8 1" }
      bareEnvironment (.command (.invalidHex "8 1")) := by
  have read : Calldata.parse "0x" = .ok [] := by rfl
  have failed : Calldata.parse "0x8 1" = .error (.command (.invalidHex "8 1")) := by rfl
  constructor
  · obtain ⟨trace, result, after, runs, done⟩ := @exists_program_of_parse _ (some "0x") (some [])
      (by simp [Option.mapM_some, read])
    have arrives := (calldata_arrives { preparedInvocation with
      command := .upgrade UpgradeOrder.prepared.proxy "Token" (some "0x") true none false }
        bareEnvironment).1 _ _ _ _ _ _ rfl
    have sent := (arrives.1 [] (Calldata.parse_eq_ok_iff.1 read)).2 _ _ _ _ runs
    exact ⟨trace, result, after, runs, sent.2 rfl done⟩
  · have digits : String.ofList (Calldata.digitsOf "0x8 1".toList) = "8 1" := by decide +kernel
    have refuses := ((calldata_arrives { preparedInvocation with
      command := .deployProxy "Token" "uups" none "0x8 1" } bareEnvironment).2 _ _ _ _ rfl).2
    rw [digits] at refuses
    refine refuses fun bytes spells => ?_
    cases failed.symm.trans (Calldata.parse_eq_ok_iff.2 spells)

end Command

end UpgradeGate
