import UpgradeGate.Proofs.Command.Conclusion
import UpgradeGate.Proofs.Gate.Advisory
import UpgradeGate.Proofs.Gate.Installation

/-!
# The status of upgrades and comparisons

An upgrade command ends with status 2 where its attempt was blocked over a collision, and then the
chain was asked for nothing; with status 0 where it made any other attempt, and an attempt with an
override was confirmed (`Gate.Confirmed`); with status 1 where something that is reported went
wrong, and with no status where something else did. Whether it prints for people or for programs is
not told by the status. The status of a comparison tells in the same way whether the layouts are
compatible (`Command.exit_status`). All this is so where what a command says is printed; where a
console fails to print it, status 1 tells of that instead (`Command.TellsOn`).
-/

namespace UpgradeGate

open UpgradeGate.Flow

/-! ## What an override comes to -/

namespace Gate

variable {gate : Gate} {order : UpgradeOrder} {proxy : Address}
  {previous : Option DeploymentRecord} {books after : Books} {trace : Trace collaborators}

/-- An attempt was confirmed in some exchanges: one contract was created, an upgrade to it was asked
for, and then the slot of the proxy named it. -/
def Confirmed [AddressRule] (order : UpgradeOrder) (proxy : Address) (attempt : Attempt)
    (trace : Trace collaborators) : Prop :=
  ∃ implementation admin before current disk later,
    attempt.implementation = some implementation ∧
      before.filterMap deployed? = [implementation] ∧ Address.parse current = .ok implementation ∧
      trace = before ++ installCall order proxy implementation admin disk (.ok ()) ::
        exchange (.implementationOf proxy) disk (.ok (some current)) :: later

/-- An upgrade that is completed has passed or overridden a collision. -/
theorem FastPath.confirmed [AddressRule] {candidate : Layout} {compatible : Bool}
    {attempt finished : Attempt}
    (path : FastPath gate order proxy previous candidate compatible attempt books trace
      (.ok finished) after) :
    finished.stage = .upgraded ∧ Confirmed order proxy finished trace := by
  cases path with
  | @completed checked foretold early admin predicted implementation middle current _ disk told
      foreseen deployed same follows written =>
    obtain ⟨address, rfl, own⟩ : ∃ address, current = some address ∧
        Address.sameAccount address implementation.text = true := by
      cases current with
      | none => cases follows
      | some address => exact ⟨address, rfl, follows⟩
    have created : early.filterMap deployed? = [implementation] := by
      obtain ⟨artifact, text, named, parsed, idle, rfl⟩ := deployed.calls
      simp [List.filterMap_cons, exchange, deployed?, parsed, Except.toOption, idle.deployed]
    refine ⟨rfl, implementation, admin, checked ++ (foretold ++ early), address, middle.disk,
      [exchange (.announce (.completed (finish attempt compatible predicted implementation))) disk
        told], rfl, ?_, Address.sameAccount_text_right_iff.1 own, ?_⟩
    · simp only [List.filterMap_append, foreseen.quiet.1.filterMap_deployed?,
        foreseen.quiet.2.filterMap_deployed?, created, List.nil_append]
    · simp only [List.append_assoc]

/-- **Overrides are confirmed.** An attempt with an override that is returned was installed, and was
confirmed in the exchanges. -/
theorem Run.confirmed [AddressRule] {attempt : Attempt}
    (run : Run gate order books trace (.ok attempt) after) (override : order.override = true) :
    attempt.stage = .upgraded ∧
      ∃ proxy, Address.parse order.proxy = .ok proxy ∧ Confirmed order proxy attempt trace := by
  rcases run.follows with ⟨-, unasked⟩ |
    ⟨proxy, previous, candidate, _, _, entered, rest, _, -, parsed, -, -, -, path, rfl⟩
  · obtain ⟨proxy, previous, admin, implementation, baseline, candidate, installed⟩ :=
      run.of_override rfl override
    obtain ⟨before, current, disk, later, -, rfl⟩ := installed.follows
    simp at unasked
  · obtain ⟨upgraded, implementation, admin, before, current, disk, later, named, created, own,
      rfl⟩ := path.confirmed
    exact ⟨upgraded, proxy, parsed, implementation, admin,
      exchange (.layout order.contract) entered.disk (.ok candidate) :: before, current, disk,
      later, named, created, own, rfl⟩

end Gate

namespace Command

variable {invocation : Invocation} {environment : Environment} {context : Context}
  {books after : Books} {trace told : Trace collaborators} {proxy contract : String}
  {data admin : Option String} {override : Bool}

/-! ## The work of the commands -/

/-- A command is prepared, and the deployment log is opened for it. -/
def opened (invocation : Invocation) (environment : Environment) : Flow Context := do
  let context ← prepare invocation environment
  openLog context
  pure context

/-- The attempt of an upgrade command. -/
def attemptIn [AddressRule] (proxy contract : String) (data : Option String) (override : Bool)
    (admin : Option String) (context : Context) : Flow Attempt := do
  let initData ← Flow.lift (data.mapM Calldata.parse)
  let account ← Flow.lift (sender context)
  context.gate.run ⟨proxy, contract, context.network.name, account, initData, override, admin⟩

/-- Opening a log asks nobody. -/
theorem of_ends_openLog {result : Except Failure Unit}
    (ended : (openLog context).Ends books trace result after) : trace = [] := by
  rcases ends_onDisk_bind.1 ended with ⟨_, _, -, rest⟩ | ⟨_, _, -, rfl, -, -⟩
  · exact (ends_modify.1 rest).1
  · rfl

/-- Nobody is asked before the work of a command starts. -/
theorem of_ends_opened {result : Except Failure Context}
    (ended : (opened invocation environment).Ends books trace result after) : trace = [] := by
  rcases ends_bind.1 ended with ⟨context, _, _, _, start, rest, rfl⟩ | ⟨_, start, -⟩
  · rw [(prepared_of_ends start).unasked, List.nil_append]
    rcases ends_bind.1 rest with ⟨_, _, _, _, opening, last, rfl⟩ | ⟨_, opening, -⟩
    · rw [of_ends_openLog opening, (ends_pure.1 last).1, List.append_nil]
    · exact of_ends_openLog opening
  · exact (prepared_of_ends start).unasked

/-- Preparing, opening the log and going on is going on after both. -/
theorem opened_bind {α : Type} (part : Context → Flow α) :
    (prepare invocation environment >>= fun context => openLog context >>= fun _ => part context) =
      opened invocation environment >>= part := by
  simp only [opened, bind_assoc, pure_bind]

/-- Work that does not look at the command is the same for all commands. -/
theorem prepare_bind_congr {α : Type} {part : Context → Flow α} (command : Command)
    (same : ∀ context, part { context with
      invocation := { context.invocation with command := command } } = part context) :
    prepare { invocation with command := command } environment >>= part =
      prepare invocation environment >>= part := by
  simp only [prepare]
  split
  · rfl
  · simp only [bind_assoc, pure_bind, ← same]

/-- Which command it is does not matter to an attempt with the same values. -/
theorem opened_attemptIn_congr [AddressRule] (command : Command) :
    opened { invocation with command := command } environment >>=
        attemptIn proxy contract data override admin =
      opened invocation environment >>= attemptIn proxy contract data override admin := by
  rw [← opened_bind, ← opened_bind]
  exact prepare_bind_congr command fun _ => rfl

/-! ## What the commands end with -/

/-- The end of a command that made an attempt. -/
def attemptEnding (asJson : Bool) (attempt : Attempt) : Ending :=
  ⟨attemptStatus attempt, printed
    (if asJson then [Json.indentedText Json.asciiSpelling attempt.summary]
    else attemptLines attempt)⟩

/-- What an upgrade command does once it is prepared. -/
theorem carryOut_upgrade [AddressRule] {asJson : Bool}
    (upgrades : context.invocation.command =
      .upgrade proxy contract data override admin asJson) :
    carryOut context = attemptEnding asJson <$>
      (openLog context >>= fun _ => attemptIn proxy contract data override admin context) := by
  rw [carryOut, upgrades]
  simp only [upgradeOf, attemptIn, attemptEnding, map_eq_pure_bind, bind_assoc]

/-- An upgrade command concludes what comes of its attempt. -/
theorem runs_upgrade_iff [AddressRule] {console : Console} {asJson : Bool}
    {result : Except Failure Ending}
    (upgrades : invocation.command = .upgrade proxy contract data override admin asJson) :
    (programOn console invocation environment books).Runs trace (result, after) ↔
    ∃ told attempted, (opened invocation environment >>=
        attemptIn proxy contract data override admin).Ends books told attempted after ∧
      Overheard told trace ∧
      result = conclusionOn console (printed ((events told).filterMap nameLine?))
        (attempted.map (attemptEnding asJson)) := by
  have carried : ∀ context : Context, context.invocation = invocation →
      Network.resolve invocation.network invocation.endpoint environment = .ok context.network →
      carryOut context = attemptEnding asJson <$> (openLog context >>= fun _ =>
        attemptIn proxy contract data override admin context) :=
    fun context same _ => carryOut_upgrade (same ▸ upgrades)
  rw [runs_programOn_iff, ← opened_bind]
  constructor
  · rintro ⟨told, ended, work, overheard, rfl⟩
    obtain ⟨attempted, worked, rfl⟩ := (ends_carryOut_iff carried).1 work
    exact ⟨told, attempted, worked, overheard, rfl⟩
  · rintro ⟨told, attempted, worked, overheard, rfl⟩
    exact ⟨told, _, (ends_carryOut_iff carried).2 ⟨attempted, worked, rfl⟩, overheard, rfl⟩

/-- What was confirmed is so in the exchanges without the announcements. -/
theorem Overheard.confirmed [AddressRule] {order : UpgradeOrder} {proxy : Address}
    {attempt : Attempt}
    (overheard : Overheard told trace) (confirmed : Gate.Confirmed order proxy attempt told) :
    Gate.Confirmed order proxy attempt trace := by
  obtain ⟨implementation, admin, before, current, disk, later, named, created, own, rfl⟩ :=
    confirmed
  obtain ⟨early, _, heard, asking, rfl⟩ := overheard.append_cases
  obtain ⟨_, reading, rfl⟩ := asking.cons_cases (Gate.announced?_installCall ..)
  obtain ⟨late, -, rfl⟩ := reading.cons_cases rfl
  exact ⟨implementation, admin, early, current, disk, late, named,
    heard.filterMap_deployed?.trans created, own, rfl⟩

/-- An installation is overheard without its announcements. -/
theorem overheard_installationCourse (order : UpgradeOrder) (proxy implementation : Address)
    (admin : Option Address) (nonce : Int) (finished : Attempt) (entered booked kept : Disk) :
    Overheard (Gate.installationCourse order proxy implementation admin nonce finished entered
      booked kept) [exchange (.transactionCount order.sender) entered (.ok nonce),
        exchange (.artifact order.contract) entered (.ok default),
        exchange (.deploy default [] order.sender) entered (.ok implementation.text),
        exchange (.label implementation.text order.contract) booked (.ok ()),
        Gate.installCall order proxy implementation admin booked (.ok ()),
        exchange (.implementationOf proxy) booked (.ok (some implementation.text))] :=
  .asked rfl (.asked rfl (.asked rfl (.asked rfl (.announced (.announced
    (.asked (Gate.announced?_installCall ..) (.asked rfl (.announced .nil))))))))

/-- The command that installs an upgrade in the prepared workspace. -/
def preparedInvocation : Invocation where
  network := none
  endpoint := none
  sender := some UpgradeOrder.prepared.sender
  project := "."
  home := some "home"
  command := .upgrade UpgradeOrder.prepared.proxy "Token" none true none false

/-- An environment without settings. -/
def bareEnvironment : Environment := ⟨none, none, none, none⟩

/-- What that command works with. -/
def preparedContext : Context where
  invocation := preparedInvocation
  environment := bareEnvironment
  home := ["home"]
  network := ⟨"anvil", some 31337, "http://127.0.0.1:8545", 30⟩
  gate := ⟨⟨["home", "layouts"]⟩, .creation, true⟩

/-- The books of a workspace in which the folders of the network `anvil` were made, before a log is
opened. -/
def preparedBooks : Books where
  disk := ⟨[(["home"], .folder), (["home", "layouts"], .folder),
    (["home", "layouts", "anvil"], .folder), (["home", "layouts", "anvil", ".scratch"], .folder)]⟩
  log := .closed
  tally := .zero
  now := 0
  stages := []

/-- Those books with a new log. -/
def loggedBooks : Books :=
  { preparedBooks with
    disk := preparedBooks.disk.put ["home", "deployments.db"] (.database [])
    log := .file ["home", "deployments.db"] }

/-- The prepared command opens its log. -/
theorem ends_opened_prepared :
    (opened preparedInvocation bareEnvironment).Ends preparedBooks [] (.ok preparedContext)
      loggedBooks := by
  have home : homeFolder preparedInvocation.home bareEnvironment = "home" := by decide +kernel
  have folder : Path.ofText "home" = ["home"] := by decide +kernel
  have text : Path.text (["home"] ++ ["deployments.db"]) = "home/deployments.db" := by
    decide +kernel
  have file : Path.ofText "home/deployments.db" = ["home", "deployments.db"] := by decide +kernel
  have named : "home".isEmpty = false ∧ "home/deployments.db".isEmpty = false := by decide +kernel
  have prepared : (prepare preparedInvocation bareEnvironment).Ends preparedBooks []
      (.ok preparedContext) preparedBooks := by
    rw [prepare]
    simp only [home, folder, named, Bool.false_eq_true, if_false]
    exact .done _
  have logged : (openLog preparedContext).Ends preparedBooks [] (.ok ()) loggedBooks := by
    rw [Command.openLog, Flow.openLog, preparedContext, text, LogConnection.connect]
    simp only [file, named]
    exact .done _
  refine ends_bind_ok.2 ⟨_, _, [], [], prepared, ?_, rfl⟩
  refine ends_bind_ok.2 ⟨(), _, [], [], logged, ?_, rfl⟩
  exact ends_pure.2 ⟨rfl, rfl, rfl⟩

/-- The baseline of the prepared command can be written. -/
theorem writable_logged (copy : Copy) :
    preparedContext.gate.store.Writable copy "Token" "anvil" loggedBooks.disk := by
  cases copy
  all_goals
    refine ⟨LayoutStore.allowed_prepared, ⟨by rfl, by rfl⟩, ?_⟩
    rintro place (rfl | rfl) folder
    · cases folder
    · cases folder

/-- The prepared command comes to its end with status 0, also with calldata. -/
theorem exists_program_of_parse [AddressRule] {data : Option String} {initData : Option Bytes}
    (parsed : data.mapM Calldata.parse = .ok initData) : ∃ trace result after,
    (program { preparedInvocation with
        command := .upgrade UpgradeOrder.prepared.proxy "Token" data true none false }
      bareEnvironment preparedBooks).Runs trace (result, after) ∧
      result.map Ending.status = .ok 0 := by
  have absent : preparedContext.gate.store.reading loggedBooks.disk .baseline "Token" "anvil" =
      .ok none := LayoutStore.reading_of_absent (writable_logged .baseline).allowed
        (writable_logged .baseline).ready.1 rfl
  have live : preparedContext.gate.live? loggedBooks.disk "Token" "anvil" none =
      .ok (Layout.empty (some "Token")) := Gate.live?_none_eq_ok.2 ⟨none, absent, rfl⟩
  have apart : ∀ place ∈ loggedBooks.log.place?,
      ¬ preparedContext.gate.store.Touches .scratch "Token" "anvil" place := by
    rintro place ⟨⟩ (same | same)
    · exact absurd same (by decide +kernel)
    · exact absurd same (by decide +kernel)
  obtain ⟨checked, attempt, entered, booked, kept, after, ran, resolved, -⟩ :=
    @Gate.exists_run preparedContext.gate { UpgradeOrder.prepared with initData } loggedBooks _
      Address.preparedProxy (Address.preparedSender.created 0) none none _ 0 (Layout.empty none) rfl
      rfl Address.parse_preparedProxy rfl live (Layout.valid_empty _) (Layout.typed_empty _)
      (.inl ⟨rfl, nofun, rfl⟩) Address.predict_preparedSender (writable_logged .scratch)
      (writable_logged .baseline) apart
  obtain ⟨-, ⟨-, -, rfl, -⟩ | ⟨_, _, ⟨⟩, -⟩⟩ := Gate.ends_administrator_ok.1 resolved
  have attempted : (opened preparedInvocation bareEnvironment >>=
      attemptIn UpgradeOrder.prepared.proxy "Token" data true none).Ends preparedBooks _
        (.ok attempt) after :=
    ends_bind_ok.2 ⟨_, _, [], _, ends_opened_prepared, ends_lift_bind.2 (.inl ⟨initData, parsed,
      ends_lift_bind.2 (.inl ⟨_, rfl, ran⟩)⟩), rfl⟩
  rw [← opened_attemptIn_congr (.upgrade UpgradeOrder.prepared.proxy "Token" data true none false)]
    at attempted
  have status : attemptStatus attempt = 0 := by
    have upgraded := ((Gate.ends_run.1 ran).confirmed rfl).1
    rw [attemptStatus, Attempt.isBlocked, upgraded]
    rfl
  refine ⟨_, _, after, (runs_upgrade_iff rfl).2 ⟨_, _, attempted,
    .asked rfl (overheard_installationCourse ..), rfl⟩, ?_⟩
  rw [conclusionOn_free, status_conclusion]
  exact congrArg Except.ok status

end Command

end UpgradeGate
