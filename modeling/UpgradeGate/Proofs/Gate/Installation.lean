import UpgradeGate.Proofs.Workflow.Completion

/-!
# When an upgrade is asked for

A run asks for at most one upgrade, and only with an override. Before that it made one deployment,
and the new contract landed at the address that was foretold from the transactions of the sender;
the administrator was resolved before that deployment (`Gate.Installation`). Where the contract
landed elsewhere, no upgrade is asked for and the run fails (`Gate.run_installation`): over the
address, unless the log or the name of the new contract failed before the addresses were compared
(`Gate.mismatch_masked_by_label`).
-/

namespace UpgradeGate

/-- A question asks for a contract to be created. -/
def Question.isDeployment : Question → Bool
  | .deploy _ _ _ => true
  | _ => false

namespace Flow

/-- A contract is to be created. -/
def isDeployment (exchange : Exchange collaborators) : Bool := exchange.call.question.isDeployment

/-- Whether an exchange deploys something is told by its question. -/
@[simp] theorem isDeployment_exchange (question : Question) (disk : Disk)
    (answer : Except Failure question.Answer) :
    isDeployment (exchange question disk answer) = question.isDeployment := rfl

/-- The number of transactions that an account was told to have sent. -/
def counted? : Exchange collaborators → Option Int
  | ⟨⟨.transactionCount _, _⟩, .ok nonce⟩ => some nonce
  | _ => none

/-- No contract was created, no upgrade asked for, and no transactions were counted. -/
structure Idle [AddressRule] (trace : Trace collaborators) : Prop where
  deployments : trace.countP isDeployment = 0
  upgrades : trace.countP isUpgrade = 0
  deployed : trace.filterMap deployed? = []
  counted : trace.filterMap counted? = []

end Flow

namespace Gate

open UpgradeGate.Flow

variable {gate : Gate} {order : UpgradeOrder} {proxy : Address}
  {previous : Option DeploymentRecord} {books after : Books} {trace : Trace collaborators}

/-- The administrator of an order was resolved in some exchanges: none where none is given, and else
the given one, which was seen to be a contract. -/
def Resolved [AddressRule] (order : UpgradeOrder) (previous : Option DeploymentRecord)
    (checked : Trace collaborators) (admin : Option Address) : Prop :=
  match givenAdmin? order.admin previous with
  | none => admin = none
  | some given => ∃ address disk, Address.parse given = .ok address ∧ admin = some address ∧
    exchange (.hasCode address) disk (.ok true) ∈ checked

/-- An upgrade was asked for once in some exchanges, after all that has to come before. -/
structure Installation [AddressRule] (order : UpgradeOrder) (proxy : Address)
    (previous : Option DeploymentRecord) (trace : Trace collaborators) (admin : Option Address)
    (nonce : Int) (implementation : Address) : Prop where
  /-- The new contract landed where the transactions of the sender foretold. -/
  foretold : Address.predict (.string order.sender) nonce = .ok implementation
  /-- One upgrade was asked for. -/
  upgrades : trace.countP isUpgrade = 1
  /-- One contract was created. -/
  deployments : trace.countP isDeployment = 1
  /-- The administrator was resolved, the transactions were counted, the contract was created and
  named, and then the upgrade was asked for with what was found. -/
  calls : ∃ checked artifact text named reply later disk disk',
    Resolved order previous checked admin ∧ Address.parse text = .ok implementation ∧
      trace = checked ++ (exchange (.transactionCount order.sender) disk (.ok nonce) ::
        exchange (.artifact order.contract) disk (.ok artifact) ::
        exchange (.deploy artifact [] order.sender) disk (.ok text) ::
        (named ++ installCall order proxy implementation admin disk' reply :: later))

/-- An administrator that was resolved in some exchanges was resolved in more of them. -/
theorem Resolved.mono [AddressRule] {checked more : Trace collaborators} {admin : Option Address}
    (resolved : Resolved order previous checked admin)
    (within : ∀ exchange ∈ checked, exchange ∈ more) : Resolved order previous more admin := by
  unfold Resolved at resolved ⊢
  split at resolved
  · exact resolved
  · obtain ⟨address, disk, parsed, same, asked⟩ := resolved
    exact ⟨address, disk, parsed, same, within _ asked⟩

/-- Compiling the new layout in front of an installation. -/
theorem Installation.compiled [AddressRule] {admin : Option Address} {nonce : Int}
    {implementation : Address} {contract : String} {disk : Disk} {candidate : Layout}
    (installation : Installation order proxy previous trace admin nonce implementation) :
    Installation order proxy previous (exchange (.layout contract) disk (.ok candidate) :: trace)
      admin nonce implementation := by
  obtain ⟨foretold, upgrades, deployments, checked, artifact, text, named, reply, later, start,
    middle, resolved, parsed, rfl⟩ := installation
  refine ⟨foretold, upgrades, deployments, exchange (.layout contract) disk (.ok candidate) ::
    checked, artifact, text, named, reply, later, start, middle, ?_, parsed, rfl⟩
  exact resolved.mono fun _ member => List.mem_cons_of_mem _ member

/-! ## The exchanges before an upgrade is asked for -/

/-- What was asked before anything was deployed: about the administrator, and the nonce. -/
theorem Foreseen.calls [AddressRule] {checked foretold : Trace collaborators}
    {admin : Option Address} {predicted : String} (creation : gate.predictor = .creation)
    (foreseen : Foreseen gate order proxy previous books checked foretold admin predicted) :
    Resolved order previous checked admin ∧ Idle checked ∧
      ∃ nonce address, Address.predict (.string order.sender) nonce = .ok address ∧
        predicted = address.text ∧
        foretold = [exchange (.transactionCount order.sender) books.disk (.ok nonce)] := by
  obtain ⟨-, nonce, address, foreknown, rfl, rfl⟩ :=
    (ends_predictNext_ok creation).1 foreseen.foretold
  obtain ⟨-, ⟨unowned, -, rfl, rfl⟩ | ⟨given, owner, named, parsed, rfl, rfl⟩⟩ :=
    ends_administrator_ok.1 foreseen.resolved
  · refine ⟨?_, ⟨rfl, rfl, rfl, rfl⟩, nonce, address, foreknown, rfl, rfl⟩
    simp only [Resolved, unowned]
  · refine ⟨?_, ⟨rfl, rfl, rfl, rfl⟩, nonce, address, foreknown, rfl, rfl⟩
    simp only [Resolved, named]
    exact ⟨owner, books.disk, parsed, rfl, List.mem_singleton_self _⟩

/-- A deployment that returned: the contract was compiled and created, and then named. -/
theorem RawDeployment.calls [AddressRule] {contract network sender : String} {address : Address}
    (deployment : RawDeployment contract [] network sender books trace (.ok address) after) :
    ∃ artifact text named, Address.parse text = .ok address ∧ Idle named ∧
      trace = exchange (.artifact contract) books.disk (.ok artifact) ::
        exchange (.deploy artifact [] sender) books.disk (.ok text) :: named := by
  cases deployment with
  | deployed named told created readable =>
    obtain ⟨-, artifact, text, parsed, rfl⟩ := ends_create_ok.1 created
    exact ⟨artifact, text, _, parsed, ⟨rfl, rfl, rfl, rfl⟩, rfl⟩

/-- Deploying a contract that stands alone asks for no upgrade. -/
theorem RawDeployment.countP_isUpgrade [AddressRule] {contract network sender : String}
    {result : Except Failure Address}
    (deployment : RawDeployment contract [] network sender books trace result after) :
    trace.countP isUpgrade = 0 := by
  cases deployment with
  | undeployed failed => exact Quiet.countP_isUpgrade (of_ends_create_error failed).2
  | unlogged created =>
    obtain ⟨-, artifact, text, -, rfl⟩ := ends_create_ok.1 created
    rfl
  | unlabelled failure created =>
    obtain ⟨-, artifact, text, -, rfl⟩ := ends_create_ok.1 created
    rfl
  | deployed named told created =>
    obtain ⟨-, artifact, text, -, rfl⟩ := ends_create_ok.1 created
    rfl

/-- Where the fast path asks for an upgrade, it was foreseen and deployed as foreseen. -/
theorem FastPath.asks [AddressRule] {candidate : Layout} {compatible : Bool} {attempt : Attempt}
    {result : Except Failure Attempt}
    (path : FastPath gate order proxy previous candidate compatible attempt books trace result
      after) :
    trace.countP isUpgrade = 0 ∨ ∃ checked foretold early later admin predicted implementation
      middle reply, Foreseen gate order proxy previous books checked foretold admin predicted ∧
        RawDeployment order.contract [] order.network order.sender books early
          (.ok implementation) middle ∧
        Address.sameAccount predicted implementation.text = true ∧ Idle later ∧
        trace = checked ++ (foretold ++ (early ++
          installCall order proxy implementation admin middle.disk reply :: later)) := by
  cases path with
  | unresolved failed => exact .inl (of_ends_administrator_error failed).2.countP_isUpgrade
  | unforeseen resolved failed =>
    exact .inl ((quiet_of_resolved resolved).append (of_ends_predictNext failed).2).countP_isUpgrade
  | undeployed foreseen failed =>
    left
    simp only [List.countP_append, foreseen.quiet.1.countP_isUpgrade,
      foreseen.quiet.2.countP_isUpgrade, failed.countP_isUpgrade]
  | mismatched foreseen deployed differs =>
    left
    simp only [List.countP_append, foreseen.quiet.1.countP_isUpgrade,
      foreseen.quiet.2.countP_isUpgrade, deployed.countP_isUpgrade]
  | refused failure foreseen deployed same =>
    exact .inr ⟨_, _, _, [], _, _, _, _, _, foreseen, deployed, same, ⟨rfl, rfl, rfl, rfl⟩, rfl⟩
  | unconfirmed foreseen deployed same failed =>
    obtain ⟨-, answer, rfl, -⟩ := ends_confirm.1 failed
    exact .inr ⟨_, _, _, _, _, _, _, _, _, foreseen, deployed, same, ⟨rfl, rfl, rfl, rfl⟩, rfl⟩
  | unkept foreseen deployed same =>
    exact .inr ⟨_, _, _, _, _, _, _, _, _, foreseen, deployed, same, ⟨rfl, rfl, rfl, rfl⟩, rfl⟩
  | completed told foreseen deployed same =>
    exact .inr ⟨_, _, _, _, _, _, _, _, _, foreseen, deployed, same, ⟨rfl, rfl, rfl, rfl⟩, rfl⟩

@[simp] theorem isDeployment_installCall (order : UpgradeOrder) (proxy implementation : Address)
    (admin : Option Address) (disk : Disk) (reply : Except Failure Unit) :
    isDeployment (installCall order proxy implementation admin disk reply) = false := by
  unfold installCall
  cases order.initData <;> rfl

/-- An installation asks for no nonce. -/
@[simp] theorem counted?_installCall (order : UpgradeOrder) (proxy implementation : Address)
    (admin : Option Address) (disk : Disk) (reply : Except Failure Unit) :
    counted? (installCall order proxy implementation admin disk reply) = none := by
  unfold installCall
  cases order.initData <;> rfl

/-- In the exchanges before an upgrade is asked for, one number of transactions was told and one
contract created. -/
theorem told_of_asks [AddressRule] {foretold early rest checked : Trace collaborators}
    {admin : Option Address} {predicted : String} {implementation : Address} {middle : Books}
    (creation : gate.predictor = .creation)
    (foreseen : Foreseen gate order proxy previous books checked foretold admin predicted)
    (deployed : RawDeployment order.contract [] order.network order.sender books early
      (.ok implementation) middle) :
    ∃ nonce address, Address.predict (.string order.sender) nonce = .ok address ∧
      predicted = address.text ∧
      (checked ++ (foretold ++ (early ++ rest))).filterMap counted? =
        nonce :: rest.filterMap counted? ∧
      (checked ++ (foretold ++ (early ++ rest))).filterMap deployed? =
        implementation :: rest.filterMap deployed? := by
  obtain ⟨-, idle, nonce, address, foreknown, rfl, rfl⟩ := foreseen.calls creation
  obtain ⟨artifact, text, named, parsed, idle', rfl⟩ := deployed.calls
  refine ⟨nonce, address, foreknown, rfl, ?_, ?_⟩
  · simp [List.filterMap_append, List.filterMap_cons, idle.counted, idle'.counted, exchange,
      counted?]
  · simp [List.filterMap_append, List.filterMap_cons, idle.deployed, idle'.deployed, exchange,
      deployed?, parsed, Except.toOption]

/-- Where a contract landed elsewhere than foretold, the fast path asks for no upgrade and fails,
over the address or before the addresses were compared. -/
theorem FastPath.elsewhere [AddressRule] {candidate : Layout} {compatible : Bool}
    {attempt : Attempt} {result : Except Failure Attempt} {nonce : Int} {expected landed : Address}
    (creation : gate.predictor = .creation)
    (path : FastPath gate order proxy previous candidate compatible attempt books trace result
      after)
    (counted : nonce ∈ trace.filterMap counted?)
    (predicted : Address.predict (.string order.sender) nonce = .ok expected)
    (created : landed ∈ trace.filterMap deployed?) (differs : landed ≠ expected) :
    trace.countP isUpgrade = 0 ∧ ∃ failure, result = .error failure ∧
      (failure = .deployment (.addressMismatch expected.text landed) ∨
      (∃ disk, exchange (.label landed.text order.contract) disk (.error failure) ∈ trace) ∨
      books.ledger = .error failure) := by
  rcases path.asks with none | ⟨checked, foretold, early, later, admin, given, implementation,
    middle, reply, foreseen, deployed, same, idle, rfl⟩
  case inr =>
    -- an upgrade is asked for only where both addresses are the same
    obtain ⟨nonce', address, foreknown, rfl, counts, creations⟩ :=
      @told_of_asks gate order proxy previous books _ foretold early
        (installCall order proxy implementation admin middle.disk reply :: later) checked _ _ _ _
        creation foreseen deployed
    rw [counts, List.filterMap_cons, counted?_installCall, idle.counted,
      List.mem_singleton] at counted
    rw [creations, List.filterMap_cons, deployed?_installCall, idle.deployed,
      List.mem_singleton] at created
    subst counted created
    cases foreknown.symm.trans predicted
    exact absurd (Address.sameAccount_text_iff.1 same).symm differs
  refine ⟨none, ?_⟩
  cases path with
  | unresolved failed =>
    rw [(of_ends_administrator_error failed).2.filterMap_deployed?] at created
    cases created
  | unforeseen resolved failed =>
    rw [((quiet_of_resolved resolved).append
      (of_ends_predictNext failed).2).filterMap_deployed?] at created
    cases created
  | undeployed foreseen failed =>
    rw [List.filterMap_append, foreseen.quiet.1.filterMap_deployed?, List.filterMap_append,
      foreseen.quiet.2.filterMap_deployed?, List.nil_append, List.nil_append] at created
    cases failed with
    | undeployed failed =>
      rw [Quiet.filterMap_deployed? (of_ends_create_error failed).2] at created
      cases created
    | unlogged _ unreadable => exact ⟨_, rfl, .inr (.inr unreadable)⟩
    | @unlabelled early address rows _ creating =>
      obtain ⟨-, artifact, text, parsed, rfl⟩ := ends_create_ok.1 creating
      have own : address = landed := by
        simpa [exchange, deployed?, parsed, Except.toOption] using created
      subst own
      refine ⟨_, rfl, .inr (.inl ⟨(rawBooks books order.contract order.network address).disk, ?_⟩)⟩
      simp
  | mismatched foreseen deployed differs' =>
    obtain ⟨nonce', address, foreknown, rfl, counts, creations⟩ :=
      @told_of_asks gate order proxy previous books _ _ _ [] _ _ _ _ _ creation foreseen deployed
    rw [List.append_nil] at counts creations
    rw [counts, List.filterMap_nil, List.mem_singleton] at counted
    rw [creations, List.filterMap_nil, List.mem_singleton] at created
    subst counted created
    cases foreknown.symm.trans predicted
    exact ⟨_, rfl, .inl rfl⟩
  | refused failure foreseen deployed same => simp at none
  | unconfirmed foreseen deployed same failed => simp at none
  | unkept foreseen deployed same => simp at none
  | completed told foreseen deployed same => simp at none

/-- The fast path asks for no upgrade, or for one after all that has to come before. -/
theorem FastPath.installation [AddressRule] {candidate : Layout} {compatible : Bool}
    {attempt : Attempt} {result : Except Failure Attempt} (creation : gate.predictor = .creation)
    (path : FastPath gate order proxy previous candidate compatible attempt books trace result
      after) :
    trace.countP isUpgrade = 0 ∨ ∃ admin nonce implementation,
      Installation order proxy previous trace admin nonce implementation := by
  rcases path.asks with unasked | ⟨checked, foretold, early, later, admin, predicted,
    implementation, middle, reply, foreseen, deployed, same, idle, rfl⟩
  · exact .inl unasked
  obtain ⟨resolved, idle', nonce, address, foreknown, rfl, rfl⟩ := foreseen.calls creation
  obtain ⟨artifact, text, named, parsed, idle'', rfl⟩ := deployed.calls
  have own := Address.sameAccount_text_iff.1 same
  subst own
  refine .inr ⟨admin, nonce, address, foreknown, ?_, ?_, checked, artifact, text, named, reply,
    later, books.disk, middle.disk, resolved, parsed, rfl⟩
  · simp [idle'.upgrades, idle''.upgrades, idle.upgrades, Question.isUpgrade]
  · simp [List.countP_cons, idle'.deployments, idle''.deployments, idle.deployments,
      isDeployment_installCall, Question.isDeployment]

/-! ## The whole run -/

/-- A run takes the fast path, or creates nothing and asks for no upgrade. -/
theorem Run.follows [AddressRule] {result : Except Failure Attempt}
    (run : Run gate order books trace result after) :
    (trace.filterMap deployed? = [] ∧ trace.countP isUpgrade = 0) ∨
    ∃ proxy previous candidate compatible attempt entered rest last,
      order.override = true ∧ Address.parse order.proxy = .ok proxy ∧
      books.latest? proxy order.network = .ok previous ∧ entered.log = books.log ∧
      Disk.Keeps (gate.store.Touches .scratch order.contract order.network) books.disk
        entered.disk ∧
      FastPath gate order proxy previous candidate compatible attempt entered rest result last ∧
      trace = exchange (.layout order.contract) entered.disk (.ok candidate) :: rest := by
  cases run with
  | misaddressed => exact .inl ⟨rfl, rfl⟩
  | untraced => exact .inl ⟨rfl, rfl⟩
  | unread => exact .inl ⟨rfl, rfl⟩
  | unheld => exact .inl ⟨rfl, rfl⟩
  | @held proxy previous baseline path scratch trace ended middle parsed latest live written
      attempted =>
    have touched := LayoutStore.keeps_of_write written
    cases attempted with
    | unread => exact .inl ⟨rfl, rfl⟩
    | uncompiled => exact .inl ⟨rfl, rfl⟩
    | missing => exact .inl ⟨rfl, rfl⟩
    | blocked => exact .inl ⟨rfl, rfl⟩
    | @tried _ candidate trace result after read override path =>
      rw [map_fst_map_report]
      exact .inr ⟨proxy, previous, candidate, _, _, { captureBooks
        { startBooks books with disk := scratch } with stages := _ }, trace, middle, override,
        parsed, latest, rfl, touched, path, rfl⟩

/-- **Installation.** A run asks for at most one upgrade, and only with an override and after all
that has to come before. Where the new contract landed elsewhere than foretold, no upgrade is asked
for, and the run fails: over the address, or because the new contract could not be named, or because
its record was not appended to a log that the scratch copy had overwritten. -/
theorem run_installation [AddressRule] {result : Except Failure Attempt}
    (creation : gate.predictor = .creation)
    (ended : (gate.run order).Ends books trace result after) :
    trace.countP isUpgrade ≤ 1 ∧
    (0 < trace.countP isUpgrade → order.override = true ∧
      ∃ proxy previous admin nonce implementation, Address.parse order.proxy = .ok proxy ∧
        books.latest? proxy order.network = .ok previous ∧
        Installation order proxy previous trace admin nonce implementation) ∧
    ∀ nonce expected landed, nonce ∈ trace.filterMap counted? →
      Address.predict (.string order.sender) nonce = .ok expected →
      landed ∈ trace.filterMap deployed? → landed ≠ expected →
      trace.countP isUpgrade = 0 ∧ ∃ failure, result = .error failure ∧
        (failure = .deployment (.addressMismatch expected.text landed) ∨
        (∃ disk, exchange (.label landed.text order.contract) disk (.error failure) ∈ trace) ∨
        ∃ place ∈ books.log.place?,
          gate.store.Touches .scratch order.contract order.network place) := by
  rcases (ends_run.1 ended).follows with ⟨undeployed, unasked⟩ | ⟨proxy, previous, candidate,
    compatible, attempt, entered, rest, last, override, parsed, latest, sameLog, touched, path, rfl⟩
  · refine ⟨by omega, fun asked => by omega, fun _ _ landed _ _ created => ?_⟩
    rw [undeployed] at created
    cases created
  have asks : (exchange (.layout order.contract) entered.disk (.ok candidate) :: rest).countP
      isUpgrade = rest.countP isUpgrade := List.countP_cons_of_neg nofun
  refine ⟨?_, fun asked => ⟨override, ?_⟩, ?_⟩
  · rw [asks]
    rcases path.installation creation with unasked | ⟨_, _, _, installation⟩
    · omega
    · exact Nat.le_of_eq installation.upgrades
  · rw [asks] at asked
    rcases path.installation creation with unasked | ⟨admin, nonce, implementation, installation⟩
    · omega
    · exact ⟨proxy, previous, admin, nonce, implementation, parsed, latest, installation.compiled⟩
  · intro nonce expected landed counted predicted created differs
    rw [asks]
    have earlier : ∀ {told : Exchange collaborators},
        told ∈ rest →
          told ∈ exchange (.layout order.contract) entered.disk (.ok candidate) :: rest :=
      List.mem_cons_of_mem _
    obtain ⟨unasked, failure, failed, mismatch | ⟨disk, unnamed⟩ | unreadable⟩ :=
      path.elsewhere creation counted predicted created differs
    · exact ⟨unasked, failure, failed, .inl mismatch⟩
    · exact ⟨unasked, failure, failed, .inr (.inl ⟨disk, earlier unnamed⟩)⟩
    · -- the log could be read when the latest record was looked for
      refine ⟨unasked, failure, failed, .inr (.inr (Classical.byContradiction fun apart => ?_))⟩
      obtain ⟨rows, readable⟩ := Books.ledger_of_latest? latest
      have kept := LogConnection.rows_keeps touched
        (fun place own inside => apart ⟨place, own, inside⟩) readable
      rw [Books.ledger, sameLog, kept] at unreadable
      cases unreadable

/-- In the prepared workspace an upgrade is asked for, after all that has to come before. -/
theorem run_installation_prepared :
    ∃ trace attempt after, (prepared.run .prepared).Ends .prepared trace (.ok attempt) after ∧
      ∃ proxy previous admin nonce implementation,
        Installation .prepared proxy previous trace admin nonce implementation := by
  obtain ⟨trace, attempt, after, ended, -, asked⟩ := exists_run_prepared (Layout.empty none)
  obtain ⟨-, proxy, previous, admin, nonce, implementation, -, -, installation⟩ :=
    (run_installation rfl ended).2.1 asked
  exact ⟨trace, attempt, after, ended, proxy, previous, admin, nonce, implementation, installation⟩

/-- **Masked mismatches.** A contract may land elsewhere than foretold and the run fail over
something else: here over the name of the contract, which is given before the addresses are
compared. -/
theorem mismatch_masked_by_label : ¬ ∀ (gate : Gate) (order : UpgradeOrder) (books after : Books)
    (trace : Trace collaborators) (result : Except Failure Attempt) (nonce : Int)
    (expected landed : Address), gate.predictor = .creation →
    (gate.run order).Ends books trace result after → nonce ∈ trace.filterMap counted? →
    Address.predict (.string order.sender) nonce = .ok expected →
    landed ∈ trace.filterMap deployed? → landed ≠ expected →
    result = .error (.deployment (.addressMismatch expected.text landed)) := by
  intro always
  obtain ⟨landed, elsewhere⟩ : ∃ landed, landed ≠ Address.preparedSender.created 0 := by
    by_cases same : Address.preparedSender = Address.preparedSender.created 0
    · rw [← same]
      exact ⟨Address.preparedProxy, by decide⟩
    · exact ⟨_, same⟩
  obtain ⟨disk, written, -⟩ := LayoutStore.run_write_of_writable Books.prepared.now
    (Layout.empty (some "Token")) (LayoutStore.writable_prepared .scratch)
  have held := ((LayoutStore.holds_of_write written).reading_eq_iff
    (LayoutStore.writable_prepared .scratch).allowed (Layout.valid_empty _)).2
      (Layout.typed_empty _)
  have ended := ends_run.2 (.held Address.parse_preparedProxy Books.latest?_prepared
    live?_prepared written (.tried (Layout.empty none) held rfl (.undeployed
      ⟨ends_administrator_ok.2 ⟨rfl, .inl ⟨rfl, nofun, rfl, rfl⟩⟩, (ends_predictNext_ok rfl).2
        ⟨rfl, 0, _, Address.predict_preparedSender, rfl, rfl⟩⟩
      (.unlabelled (.foreign .runtime "label failed") (ends_create_ok.2 ⟨rfl, default, landed.text,
        Address.parse_text _, rfl⟩) rfl))))
  have impossible := always _ _ _ _ _ _ 0 _ landed rfl ended (by simp [exchange, counted?])
    Address.predict_preparedSender (by simp [exchange, deployed?, Except.toOption]) elsewhere
  cases impossible

end Gate

end UpgradeGate
