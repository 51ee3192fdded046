import UpgradeGate.Proofs.Workflow.Deploy
import UpgradeGate.Workflow.Upgrade

/-!
# How the fast path ends

The fast path fails before anything is deployed, or while the new implementation is deployed, or
because its address is not the predicted one, or because the proxy was not seen to follow, or it
completes (`Gate.FastPath`, `Gate.ends_fastPath`). Only where it completes, the log gets an
upgrade record and the store a new baseline.
-/

namespace UpgradeGate.Gate

open UpgradeGate.Flow

variable {gate : Gate} {order : UpgradeOrder} {proxy : Address}
  {previous : Option DeploymentRecord} {books after : Books} {trace : Trace collaborators}

/-! ## Quiet exchanges -/

/-- No contract was created, no layout compiled, no upgrade asked for, and none announced as
completed. -/
def Quiet [AddressRule] (trace : Trace collaborators) : Prop := ∀ exchange ∈ trace,
  deployed? exchange = none ∧ compiled? exchange = none ∧ isUpgrade exchange = false ∧
    isCompletion exchange = false

theorem Quiet.append [AddressRule] {first second : Trace collaborators} (one : Quiet first)
    (two : Quiet second) : Quiet (first ++ second) := by
  intro exchange member
  rcases List.mem_append.1 member with early | late
  · exact one exchange early
  · exact two exchange late

/-- A quiet trace makes no upgrade. -/
theorem Quiet.countP_isUpgrade [AddressRule] (quiet : Quiet trace) : trace.countP isUpgrade = 0 :=
  List.countP_eq_zero.2 fun exchange member => by simp [(quiet exchange member).2.2.1]

theorem Quiet.countP_isCompletion [AddressRule] (quiet : Quiet trace) :
    trace.countP isCompletion = 0 :=
  List.countP_eq_zero.2 fun exchange member => by simp [(quiet exchange member).2.2.2]

theorem Quiet.filterMap_deployed? [AddressRule] (quiet : Quiet trace) :
    trace.filterMap deployed? = [] :=
  List.filterMap_eq_nil_iff.2 fun exchange member => (quiet exchange member).1

theorem Quiet.filterMap_compiled? [AddressRule] (quiet : Quiet trace) :
    trace.filterMap compiled? = [] :=
  List.filterMap_eq_nil_iff.2 fun exchange member => (quiet exchange member).2.1

theorem quiet_nil [AddressRule] : Quiet [] := fun _ absent => absurd absent List.not_mem_nil

/-! ## Before the deployment -/

/-- The administrator that is named, or else recorded. -/
def givenAdmin? (admin : Option String) (previous : Option DeploymentRecord) : Option String :=
  (admin.filter (!·.isEmpty)).orElse fun _ =>
    (previous.bind DeploymentRecord.admin).filter (!·.isEmpty)

/-- The administrator is the one given or, where none is and the record names a transparent proxy,
the one the chain tells. -/
theorem administrator_eq [AddressRule] (proxy : Address) (admin : Option String)
    (previous : Option DeploymentRecord) :
    administrator proxy admin previous =
      match givenAdmin? admin previous with
      | none =>
        if previous.bind DeploymentRecord.kind = some .transparent then
          throw (.deployment (.adminUnknown proxy))
        else pure none
      | some given => (do
        let address ← Flow.lift (Address.parse given)
        let there ← Flow.ask (.hasCode address)
        if there then pure (some address)
        else throw (.deployment (.notAContract address))) := by
  rw [administrator, givenAdmin?]
  cases (admin.filter (!·.isEmpty)).orElse fun _ =>
    (previous.bind DeploymentRecord.admin).filter (!·.isEmpty) with
  | none =>
    dsimp only
    split <;> rfl
  | some given =>
    refine bind_congr fun address => bind_congr fun there => ?_
    cases there <;> rfl

/-- **The administrator.** One is resolved where none is given and none is needed, or where there is
code at the one that is given. -/
theorem ends_administrator_ok [AddressRule] {admin : Option String} {resolved : Option Address} :
    (administrator proxy admin previous).Ends books trace (.ok resolved) after ↔ after = books ∧
      ((givenAdmin? admin previous = none ∧
        previous.bind DeploymentRecord.kind ≠ some .transparent ∧ trace = [] ∧ resolved = none) ∨
      ∃ given address, givenAdmin? admin previous = some given ∧
        Address.parse given = .ok address ∧
        trace = [exchange (.hasCode address) books.disk (.ok true)] ∧ resolved = some address) := by
  rw [administrator_eq]
  cases givenAdmin? admin previous with
  | none =>
    by_cases needed : previous.bind DeploymentRecord.kind = some .transparent
    · simp [needed, ends_throw]
    · simp only [needed, if_false, ends_pure, Except.ok.injEq]
      constructor
      · intro ended
        obtain ⟨rfl, rfl, rfl⟩ := ended
        exact ⟨rfl, .inl ⟨trivial, needed, rfl, rfl⟩⟩
      · intro ended
        obtain ⟨rfl, ⟨-, -, rfl, rfl⟩ | ⟨_, _, ⟨⟩, -⟩⟩ := ended
        exact ⟨rfl, rfl, rfl⟩
  | some given =>
    dsimp only
    rw [ends_lift_bind]
    constructor
    · intro ended
      rcases ended with ⟨address, parsed, asking⟩ | ⟨_, -, -, ⟨⟩, -⟩
      rcases ends_ask_bind.1 asking with ⟨there, _, rfl, deciding⟩ | ⟨_, -, ⟨⟩, -⟩
      cases there with
      | false => obtain ⟨-, ⟨⟩, -⟩ := ends_throw.1 deciding
      | true =>
        obtain ⟨rfl, ⟨⟩, rfl⟩ := ends_pure.1 deciding
        exact ⟨rfl, .inr ⟨given, address, rfl, parsed, rfl, rfl⟩⟩
    · intro ended
      obtain ⟨rfl, ⟨⟨⟩, -⟩ | ⟨_, address, ⟨⟩, parsed, rfl, rfl⟩⟩ := ended
      refine .inl ⟨address, parsed, ends_ask_bind.2 (.inl ⟨true, [], rfl, ?_⟩)⟩
      exact ends_pure.2 ⟨rfl, rfl, rfl⟩

/-- The administrator that an upgrade is sent through: none where none is named or recorded and none
is needed, else the one that is named or recorded. -/
def ResolvesTo [AddressRule] (named : Option String) (previous : Option DeploymentRecord)
    (admin : Option Address) : Prop :=
  (givenAdmin? named previous = none ∧ previous.bind DeploymentRecord.kind ≠ some .transparent ∧
    admin = none) ∨
  ∃ given address, givenAdmin? named previous = some given ∧ Address.parse given = .ok address ∧
    admin = some address

/-- An administrator that was found is the one the names resolve to. -/
theorem resolvesTo_of_ends [AddressRule] {named : Option String} {admin : Option Address}
    (resolved : (administrator proxy named previous).Ends books trace (.ok admin) after) :
    ResolvesTo named previous admin := by
  obtain ⟨-, ⟨unowned, unneeded, -, rfl⟩ | ⟨given, address, owned, parsed, -, rfl⟩⟩ :=
    ends_administrator_ok.1 resolved
  · exact .inl ⟨unowned, unneeded, rfl⟩
  · exact .inr ⟨given, address, owned, parsed, rfl⟩

/-- An administrator that the names resolve to can be found. -/
theorem ResolvesTo.exists_ends [AddressRule] {named : Option String} {admin : Option Address}
    (resolves : ResolvesTo named previous admin) (proxy : Address) (books : Books) :
    ∃ checked, (administrator proxy named previous).Ends books checked (.ok admin) books := by
  rcases resolves with ⟨unowned, unneeded, rfl⟩ | ⟨given, address, owned, parsed, rfl⟩
  · exact ⟨_, ends_administrator_ok.2 ⟨rfl, .inl ⟨unowned, unneeded, rfl, rfl⟩⟩⟩
  · exact ⟨_, ends_administrator_ok.2 ⟨rfl, .inr ⟨given, address, owned, parsed, rfl, rfl⟩⟩⟩

/-- A transparent proxy without a known administrator is not upgraded, and nobody is asked. -/
theorem of_ends_administrator_unowned [AddressRule] {named : Option String}
    {result : Except Failure (Option Address)} (unowned : givenAdmin? named previous = none)
    (needed : previous.bind DeploymentRecord.kind = some .transparent)
    (ended : (administrator proxy named previous).Ends books trace result after) :
    trace = [] ∧ result = .error (.deployment (.adminUnknown proxy)) := by
  rw [administrator_eq, unowned] at ended
  dsimp only at ended
  rw [if_pos needed] at ended
  obtain ⟨rfl, rfl, -⟩ := ends_throw.1 ended
  exact ⟨rfl, rfl⟩

/-- Where an administrator is given, the chain is asked for its code, and nothing else. -/
theorem of_ends_administrator_given [AddressRule] {named : Option String} {given : String}
    {address : Address}
    {result : Except Failure (Option Address)} (owned : givenAdmin? named previous = some given)
    (parsed : Address.parse given = .ok address)
    (ended : (administrator proxy named previous).Ends books trace result after) :
    ∃ reply, trace = [exchange (.hasCode address) books.disk reply] ∧
      (reply = .ok false → result = .error (.deployment (.notAContract address))) := by
  rw [administrator_eq, owned] at ended
  rcases ends_lift_bind.1 ended with ⟨other, valid, asking⟩ | ⟨failure, invalid, -⟩
  case inr => cases parsed.symm.trans invalid
  cases parsed.symm.trans valid
  rcases ends_ask_bind.1 asking with ⟨there, _, rfl, deciding⟩ | ⟨failure, rfl, -, -⟩
  case inr => exact ⟨.error failure, rfl, nofun⟩
  refine ⟨.ok there, ?_, ?_⟩
  · cases there
    · obtain ⟨rfl, -, -⟩ := ends_throw.1 deciding
      rfl
    · obtain ⟨rfl, -, -⟩ := ends_pure.1 deciding
      rfl
  · rintro ⟨⟩
    obtain ⟨-, rfl, -⟩ := ends_throw.1 deciding
    rfl

/-- Where no administrator is resolved, nothing has happened yet. -/
theorem of_ends_administrator_error [AddressRule] {admin : Option String} {failure : Failure}
    (ended : (administrator proxy admin previous).Ends books trace (.error failure) after) :
    after = books ∧ Quiet trace := by
  have asked : ∀ address disk reply, Quiet [exchange (.hasCode address) disk reply] := by
    intro address disk reply
    simp [Quiet, exchange, deployed?, compiled?, isUpgrade, isCompletion, Question.isUpgrade]
  rw [administrator_eq] at ended
  split at ended
  · split at ended
    · obtain ⟨rfl, -, rfl⟩ := ends_throw.1 ended
      exact ⟨rfl, quiet_nil⟩
    · obtain ⟨-, ⟨⟩, -⟩ := ends_pure.1 ended
  · rcases ends_lift_bind.1 ended with ⟨address, -, asking⟩ | ⟨_, -, rfl, -, rfl⟩
    case inr => exact ⟨rfl, quiet_nil⟩
    rcases ends_ask_bind.1 asking with ⟨there, _, rfl, deciding⟩ | ⟨_, rfl, -, rfl⟩
    case inr => exact ⟨rfl, asked _ _ _⟩
    cases there with
    | false =>
      obtain ⟨rfl, -, rfl⟩ := ends_throw.1 deciding
      exact ⟨rfl, asked _ _ _⟩
    | true => obtain ⟨-, ⟨⟩, -⟩ := ends_pure.1 deciding

/-- **The prediction** from the account's transactions. -/
theorem ends_predictNext_ok {sender predicted : String} (creation : gate.predictor = .creation) :
    (gate.predictNext sender).Ends books trace (.ok predicted) after ↔ after = books ∧
      ∃ nonce address, Address.predict (.string sender) nonce = .ok address ∧
        predicted = address.text ∧
        trace = [exchange (.transactionCount sender) books.disk (.ok nonce)] := by
  rw [predictNext, creation]
  dsimp only
  rw [ends_ask_bind]
  constructor
  · intro ended
    rcases ended with ⟨nonce, _, rfl, predicting⟩ | ⟨_, -, ⟨⟩, -⟩
    obtain ⟨original, lifted, same⟩ := ends_map.1 predicting
    obtain ⟨rfl, rfl, rfl⟩ := ends_lift.1 lifted
    cases foretold : Address.predict (.string sender) nonce with
    | error failure =>
      rw [foretold] at same
      cases same
    | ok address =>
      rw [foretold] at same
      cases same
      exact ⟨rfl, nonce, address, foretold, rfl, rfl⟩
  · intro ended
    obtain ⟨rfl, nonce, address, foretold, rfl, rfl⟩ := ended
    refine .inl ⟨nonce, [], rfl, ends_map.2 ⟨_, ends_lift.2 ⟨rfl, rfl, rfl⟩, ?_⟩⟩
    rw [foretold]
    rfl

/-- A prediction moves no books and is quiet. -/
theorem of_ends_predictNext [AddressRule] {sender : String} {result : Except Failure String}
    (ended : (gate.predictNext sender).Ends books trace result after) :
    after = books ∧ Quiet trace := by
  have asked : ∀ disk reply, Quiet [exchange (.transactionCount sender) disk reply] := by
    intro disk reply
    simp [Quiet, exchange, deployed?, compiled?, isUpgrade, isCompletion, Question.isUpgrade]
  unfold predictNext at ended
  split at ended
  · obtain ⟨rfl, -, rfl⟩ := ends_pure.1 ended
    exact ⟨rfl, quiet_nil⟩
  · rcases ends_ask_bind.1 ended with ⟨nonce, _, rfl, predicting⟩ | ⟨_, rfl, -, rfl⟩
    · obtain ⟨original, lifted, -⟩ := ends_map.1 predicting
      obtain ⟨rfl, -, rfl⟩ := ends_lift.1 lifted
      exact ⟨rfl, asked _ _⟩
    · exact ⟨rfl, asked _ _⟩

/-! ## From the deployment on -/

/-- The record of a completed upgrade. -/
def upgradeRecord (order : UpgradeOrder) (proxy : Address) (previous : Option DeploymentRecord)
    (admin : Option Address) (implementation : Address) (now : Moment) : DeploymentRecord where
  contract := order.contract
  network := order.network
  implementation := implementation.text
  proxy := some proxy.text
  kind := previous.bind DeploymentRecord.kind
  admin := admin.map Address.text
  action := .upgrade
  timestamp := Moment.text now

/-- The record of an upgrade always has its row. -/
theorem rowOf_upgradeRecord [AddressRule] (order : UpgradeOrder) (proxy : Address)
    (previous : Option DeploymentRecord) (admin : Option Address) (implementation : Address)
    (now : Moment) :
    DeploymentLog.rowOf (upgradeRecord order proxy previous admin implementation now) =
      .ok (upgradeRecord order proxy previous admin implementation now).row :=
  @DeploymentLog.rowOf_eq_ok _ _ implementation (some proxy) rfl rfl

/-- An attempt whose implementation was installed. -/
def finish (attempt : Attempt) (compatible : Bool) (predicted : String)
    (implementation : Address) : Attempt :=
  { attempt with
    stage := .upgraded
    outcome := if compatible then .passed else .collisionOverridden
    predicted := some predicted
    implementation := some implementation }

/-- Record an installed implementation. -/
def bookUpgrade [AddressRule] (gate : Gate) (order : UpgradeOrder) (proxy : Address)
    (previous : Option DeploymentRecord) (candidate : Layout) (admin : Option Address)
    (implementation : Address) (finished : Attempt) : Flow Attempt := do
  Flow.enter .upgraded
  let record ← stamped (upgradeRecord order proxy previous admin implementation)
  let _ ← Flow.appendRecord record
  let now := (← get).now
  let _ ← Flow.onDisk (gate.store.write now .baseline order.contract order.network candidate)
  Flow.announce (.completed finished)
  pure finished

/-- Look whether the proxy follows, and fail where it does not. -/
def confirm [AddressRule] (proxy implementation : Address) : Flow Unit := do
  let current ← Flow.ask (.implementationOf proxy)
  if current.any fun address => Address.sameAccount address implementation.text then pure ()
  else throw (.deployment (.notApplied proxy implementation current))

/-- Let the proxy point to the implementation, and call that where the order says so. -/
def install (order : UpgradeOrder) (proxy implementation : Address) (admin : Option Address) :
    Flow Unit :=
  match order.initData with
  | some data => Flow.ask (.upgradeAndCall proxy implementation data order.sender admin)
  | none => Flow.ask (.upgrade proxy implementation order.sender admin)

/-- The fast path, by its steps. -/
theorem fastPath_eq [AddressRule] (gate : Gate) (order : UpgradeOrder) (proxy : Address)
    (previous : Option DeploymentRecord) (candidate : Layout) (compatible : Bool)
    (attempt : Attempt) :
    gate.fastPath order proxy previous candidate compatible attempt = (do
      Flow.enter .fastPath
      let admin ← administrator proxy order.admin previous
      let predicted ← gate.predictNext order.sender
      let implementation ← deployRaw order.contract [] order.network order.sender
      if Address.sameAccount predicted implementation.text then do
        install order proxy implementation admin
        confirm proxy implementation
        gate.bookUpgrade order proxy previous candidate admin implementation
          (finish attempt compatible predicted implementation)
      else do
        Flow.count Tally.mismatch
        throw (.deployment (.addressMismatch predicted implementation))) := by
  refine bind_congr fun entered => bind_congr fun admin => bind_congr fun predicted => ?_
  refine bind_congr fun implementation => ?_
  cases Address.sameAccount predicted implementation.text with
  | false => rfl
  | true =>
    rw [install]
    -- what follows the call is the same, whichever call the order asks for
    cases order.initData
    all_goals
      refine bind_congr fun asked => ?_
      rw [confirm, bind_assoc]
      refine bind_congr fun current => ?_
      cases current.any fun address => Address.sameAccount address implementation.text with
      | false => rfl
      | true =>
        simp only [Bool.not_true, Bool.false_eq_true, if_false, if_true, pure_bind]
        rfl

/-! ## How it ends -/

/-- The call that lets the proxy point to the implementation, with the reply to it. -/
def installCall (order : UpgradeOrder) (proxy implementation : Address) (admin : Option Address)
    (disk : Disk) (reply : Except Failure Unit) : Exchange collaborators :=
  match order.initData with
  | some data =>
    exchange (.upgradeAndCall proxy implementation data order.sender admin) disk reply
  | none => exchange (.upgrade proxy implementation order.sender admin) disk reply

@[simp] theorem isUpgrade_installCall (order : UpgradeOrder) (proxy implementation : Address)
    (admin : Option Address) (disk : Disk) (reply : Except Failure Unit) :
    isUpgrade (installCall order proxy implementation admin disk reply) = true := by
  unfold installCall
  cases order.initData <;> rfl

@[simp] theorem deployed?_installCall [AddressRule] (order : UpgradeOrder)
    (proxy implementation : Address)
    (admin : Option Address) (disk : Disk) (reply : Except Failure Unit) :
    deployed? (installCall order proxy implementation admin disk reply) = none := by
  unfold installCall
  cases order.initData <;> rfl

@[simp] theorem compiled?_installCall (order : UpgradeOrder) (proxy implementation : Address)
    (admin : Option Address) (disk : Disk) (reply : Except Failure Unit) :
    compiled? (installCall order proxy implementation admin disk reply) = none := by
  unfold installCall
  cases order.initData <;> rfl

@[simp] theorem isCompletion_installCall (order : UpgradeOrder) (proxy implementation : Address)
    (admin : Option Address) (disk : Disk) (reply : Except Failure Unit) :
    isCompletion (installCall order proxy implementation admin disk reply) = false := by
  unfold installCall
  cases order.initData <;> rfl

/-- An installation asks one question, which leaves the books. -/
theorem ends_install {implementation : Address} {admin : Option Address}
    {result : Except Failure Unit} :
    (install order proxy implementation admin).Ends books trace result after ↔
      trace = [installCall order proxy implementation admin books.disk result] ∧ after = books := by
  unfold install installCall
  cases order.initData <;> exact ends_ask

/-- A confirmation asks the proxy for its implementation and compares the answer. -/
theorem ends_confirm [AddressRule] {implementation : Address} {result : Except Failure Unit} :
    (confirm proxy implementation).Ends books trace result after ↔ after = books ∧
      ∃ answer, trace = [exchange (.implementationOf proxy) books.disk answer] ∧
        ((∃ failure, answer = .error failure ∧ result = .error failure) ∨
        ∃ current, answer = .ok current ∧
          result = if current.any fun address => Address.sameAccount address implementation.text
            then .ok ()
            else .error (.deployment (.notApplied proxy implementation current))) := by
  rw [confirm, ends_ask_bind]
  constructor
  · intro ended
    rcases ended with ⟨current, _, rfl, deciding⟩ | ⟨failure, rfl, rfl, rfl⟩
    · split at deciding
      · next follows =>
        obtain ⟨rfl, rfl, rfl⟩ := ends_pure.1 deciding
        exact ⟨rfl, _, rfl, .inr ⟨current, rfl, by rw [if_pos follows]⟩⟩
      · next follows =>
        obtain ⟨rfl, rfl, rfl⟩ := ends_throw.1 deciding
        exact ⟨rfl, _, rfl, .inr ⟨current, rfl, by rw [if_neg follows]⟩⟩
    · exact ⟨rfl, _, rfl, .inl ⟨failure, rfl, rfl⟩⟩
  · intro ended
    obtain ⟨rfl, answer, rfl, ⟨failure, rfl, rfl⟩ | ⟨current, rfl, rfl⟩⟩ := ended
    · exact .inr ⟨failure, rfl, rfl, rfl⟩
    · refine .inl ⟨current, [], rfl, ?_⟩
      split
      · exact ends_pure.2 ⟨rfl, rfl, rfl⟩
      · exact ends_throw.2 ⟨rfl, rfl, rfl⟩

/-- The administrator was resolved and the address predicted, before anything was deployed. -/
structure Foreseen [AddressRule] (gate : Gate) (order : UpgradeOrder) (proxy : Address)
    (previous : Option DeploymentRecord) (books : Books) (checked foreseen : Trace collaborators)
    (admin : Option Address) (predicted : String) : Prop where
  resolved : (administrator proxy order.admin previous).Ends books checked (.ok admin) books
  foretold : (gate.predictNext order.sender).Ends books foreseen (.ok predicted) books

/-- A flow that goes on after both checks. -/
theorem Foreseen.ends_bind [AddressRule] {checked foretold rest : Trace collaborators}
    {admin : Option Address}
    {predicted : String} {α : Type} {next : Option Address → String → Flow α}
    {result : Except Failure α}
    (foreseen : Foreseen gate order proxy previous books checked foretold admin predicted)
    (onward : (next admin predicted).Ends books rest result after) :
    (do
      let admin ← administrator proxy order.admin previous
      let predicted ← gate.predictNext order.sender
      next admin predicted).Ends books (checked ++ (foretold ++ rest)) result after :=
  Flow.ends_bind.2 (.inl ⟨_, _, _, _, foreseen.resolved,
    Flow.ends_bind.2 (.inl ⟨_, _, _, _, foreseen.foretold, onward, rfl⟩), rfl⟩)

/-- The books after an upgrade was recorded, before the baseline is written. -/
def upgradeBooks (books : Books) (order : UpgradeOrder) (proxy : Address)
    (previous : Option DeploymentRecord) (admin : Option Address) (implementation : Address) :
    Books :=
  { books with stages := books.stages ++ [Stage.upgraded] }.recorded
    (upgradeRecord order proxy previous admin implementation books.now).row

theorem ledger_upgradeBooks (books : Books) (order : UpgradeOrder) (proxy : Address)
    (previous : Option DeploymentRecord) (admin : Option Address) (implementation : Address) :
    (upgradeBooks books order proxy previous admin implementation).ledger = books.ledger.map
      (· ++ [(upgradeRecord order proxy previous admin implementation books.now).row]) :=
  Books.ledger_recorded _ _

/-- Recording an installed implementation in a readable log fails only where the baseline cannot be
written. -/
theorem ends_bookUpgrade [AddressRule] {candidate : Layout} {admin : Option Address}
    {implementation : Address}
    {finished : Attempt} {rows : Ledger} {result : Except Failure Attempt}
    (readable : books.ledger = .ok rows) :
    (gate.bookUpgrade order proxy previous candidate admin implementation finished).Ends books
        trace result after ↔
      (∃ path disk told, (gate.store.write books.now .baseline order.contract order.network
          candidate).run.run (upgradeBooks books order proxy previous admin implementation).disk =
            (.ok path, disk) ∧
        trace = [exchange (.announce (.completed finished)) disk told] ∧ result = .ok finished ∧
        after = { upgradeBooks books order proxy previous admin implementation with
          disk := disk }) ∨
      ∃ failure disk, (gate.store.write books.now .baseline order.contract order.network
          candidate).run.run (upgradeBooks books order proxy previous admin implementation).disk =
            (.error failure, disk) ∧
        trace = [] ∧ result = .error failure ∧
        after = { upgradeBooks books order proxy previous admin implementation with
          disk := disk } := by
  have now : (upgradeBooks books order proxy previous admin implementation).now = books.now :=
    Books.now_recorded _ _
  have appended : ∀ {trace result after},
      (Flow.appendRecord (upgradeRecord order proxy previous admin implementation books.now)).Ends
        { books with stages := books.stages ++ [.upgraded] } trace result after ↔
      trace = [] ∧ result = .ok (rows.length + 1) ∧
        after = upgradeBooks books order proxy previous admin implementation := by
    intro trace result after
    rw [ends_appendRecord (rowOf_upgradeRecord order proxy previous admin implementation _)]
    change _ ∧ result = books.ledger.map _ ∧ _ ↔ _
    rw [readable]
    rfl
  rw [bookUpgrade, ends_enter_bind, ends_stamped_bind, ends_bind_of_returns appended,
    ends_get_bind, now, ends_onDisk_bind]
  simp only [ends_announce_bind, ends_pure]
  constructor
  · intro ended
    rcases ended with ⟨path, disk, written, told, _, rfl, rfl, rfl, rfl⟩ |
      ⟨failure, disk, unwritten, rfl, rfl, rfl⟩
    · exact .inl ⟨path, disk, told, written, rfl, rfl, rfl⟩
    · exact .inr ⟨failure, disk, unwritten, rfl, rfl, rfl⟩
  · intro ended
    rcases ended with
      ⟨path, disk, told, written, rfl, rfl, rfl⟩ | ⟨failure, disk, unwritten, rfl, rfl, rfl⟩
    · exact .inl ⟨path, disk, written, told, [], rfl, rfl, rfl, rfl⟩
    · exact .inr ⟨failure, disk, unwritten, rfl, rfl, rfl⟩

/-- How the fast path ends, from the books with which it is entered. -/
inductive FastPath [AddressRule] (gate : Gate) (order : UpgradeOrder) (proxy : Address)
    (previous : Option DeploymentRecord) (candidate : Layout) (compatible : Bool)
    (attempt : Attempt) (books : Books) :
    Trace collaborators → Except Failure Attempt → Books → Prop where
  | unresolved {trace : Trace collaborators} {failure : Failure}
      (failed : (administrator proxy order.admin previous).Ends books trace (.error failure)
        books) :
      FastPath gate order proxy previous candidate compatible attempt books trace
        (.error failure) books
  | unforeseen {checked foretold : Trace collaborators} {admin : Option Address}
      {failure : Failure}
      (resolved : (administrator proxy order.admin previous).Ends books checked (.ok admin) books)
      (failed : (gate.predictNext order.sender).Ends books foretold (.error failure) books) :
      FastPath gate order proxy previous candidate compatible attempt books (checked ++ foretold)
        (.error failure) books
  | undeployed {checked foretold early : Trace collaborators} {admin : Option Address}
      {predicted : String} {failure : Failure} {middle : Books}
      (foreseen : Foreseen gate order proxy previous books checked foretold admin predicted)
      (failed : RawDeployment order.contract [] order.network order.sender books early
        (.error failure) middle) :
      FastPath gate order proxy previous candidate compatible attempt books
        (checked ++ (foretold ++ early)) (.error failure) middle
  | mismatched {checked foretold early : Trace collaborators} {admin : Option Address}
      {predicted : String} {implementation : Address} {middle : Books}
      (foreseen : Foreseen gate order proxy previous books checked foretold admin predicted)
      (deployed : RawDeployment order.contract [] order.network order.sender books early
        (.ok implementation) middle)
      (differs : Address.sameAccount predicted implementation.text = false) :
      FastPath gate order proxy previous candidate compatible attempt books
        (checked ++ (foretold ++ early))
        (.error (.deployment (.addressMismatch predicted implementation)))
        { middle with tally := middle.tally.mismatch }
  | refused {checked foretold early : Trace collaborators} {admin : Option Address}
      {predicted : String} {implementation : Address} {middle : Books} (failure : Failure)
      (foreseen : Foreseen gate order proxy previous books checked foretold admin predicted)
      (deployed : RawDeployment order.contract [] order.network order.sender books early
        (.ok implementation) middle)
      (same : Address.sameAccount predicted implementation.text = true) :
      FastPath gate order proxy previous candidate compatible attempt books
        (checked ++ (foretold ++ (early ++
          [installCall order proxy implementation admin middle.disk (.error failure)])))
        (.error failure) middle
  | unconfirmed {checked foretold early seen : Trace collaborators} {admin : Option Address}
      {predicted : String} {implementation : Address} {middle : Books} {failure : Failure}
      (foreseen : Foreseen gate order proxy previous books checked foretold admin predicted)
      (deployed : RawDeployment order.contract [] order.network order.sender books early
        (.ok implementation) middle)
      (same : Address.sameAccount predicted implementation.text = true)
      (failed : (confirm proxy implementation).Ends middle seen (.error failure) middle) :
      FastPath gate order proxy previous candidate compatible attempt books
        (checked ++ (foretold ++ (early ++
          (installCall order proxy implementation admin middle.disk (.ok ()) :: seen))))
        (.error failure) middle
  | unkept {checked foretold early : Trace collaborators} {admin : Option Address}
      {predicted : String} {implementation : Address} {middle : Books} {current : Option String}
      {failure : Failure} {disk : Disk}
      (foreseen : Foreseen gate order proxy previous books checked foretold admin predicted)
      (deployed : RawDeployment order.contract [] order.network order.sender books early
        (.ok implementation) middle)
      (same : Address.sameAccount predicted implementation.text = true)
      (follows : (current.any fun address =>
        Address.sameAccount address implementation.text) = true)
      (unwritten : (gate.store.write middle.now .baseline order.contract order.network
        candidate).run.run (upgradeBooks middle order proxy previous admin implementation).disk =
          (.error failure, disk)) :
      FastPath gate order proxy previous candidate compatible attempt books
        (checked ++ (foretold ++ (early ++
          [installCall order proxy implementation admin middle.disk (.ok ()),
            exchange (.implementationOf proxy) middle.disk (.ok current)])))
        (.error failure)
        { upgradeBooks middle order proxy previous admin implementation with disk := disk }
  | completed {checked foretold early : Trace collaborators} {admin : Option Address}
      {predicted : String} {implementation : Address} {middle : Books} {current : Option String}
      {path : Path} {disk : Disk} (told : Except Failure Unit)
      (foreseen : Foreseen gate order proxy previous books checked foretold admin predicted)
      (deployed : RawDeployment order.contract [] order.network order.sender books early
        (.ok implementation) middle)
      (same : Address.sameAccount predicted implementation.text = true)
      (follows : (current.any fun address =>
        Address.sameAccount address implementation.text) = true)
      (written : (gate.store.write middle.now .baseline order.contract order.network
        candidate).run.run (upgradeBooks middle order proxy previous admin implementation).disk =
          (.ok path, disk)) :
      FastPath gate order proxy previous candidate compatible attempt books
        (checked ++ (foretold ++ (early ++
          [installCall order proxy implementation admin middle.disk (.ok ()),
            exchange (.implementationOf proxy) middle.disk (.ok current),
            exchange (.announce (.completed (finish attempt compatible predicted implementation)))
              disk told])))
        (.ok (finish attempt compatible predicted implementation))
        { upgradeBooks middle order proxy previous admin implementation with disk := disk }

theorem quiet_of_resolved [AddressRule] {admin : Option String} {resolved : Option Address}
    (ended : (administrator proxy admin previous).Ends books trace (.ok resolved) after) :
    Quiet trace := by
  obtain ⟨-, ⟨-, -, rfl, -⟩ | ⟨_, _, -, -, rfl, -⟩⟩ := ends_administrator_ok.1 ended
  · exact quiet_nil
  · simp [Quiet, exchange, deployed?, compiled?, isUpgrade, isCompletion, Question.isUpgrade]

/-- The checks and the prediction before a fast path are quiet. -/
theorem Foreseen.quiet [AddressRule] {checked foretold : Trace collaborators}
    {admin : Option Address} {predicted : String}
    (foreseen : Foreseen gate order proxy previous books checked foretold admin predicted) :
    Quiet checked ∧ Quiet foretold :=
  ⟨quiet_of_resolved foreseen.resolved, (of_ends_predictNext foreseen.foretold).2⟩

/-- What comes of both checks: the first fails, the second does, or the flow goes on after them. -/
theorem ends_foresee_bind [AddressRule] {α : Type} {next : Option Address → String → Flow α}
    {result : Except Failure α} :
    (do
      let admin ← administrator proxy order.admin previous
      let predicted ← gate.predictNext order.sender
      next admin predicted).Ends books trace result after ↔
      (∃ failure, (administrator proxy order.admin previous).Ends books trace (.error failure)
        books ∧ result = .error failure ∧ after = books) ∨
      (∃ checked foretold admin failure,
        (administrator proxy order.admin previous).Ends books checked (.ok admin) books ∧
        (gate.predictNext order.sender).Ends books foretold (.error failure) books ∧
        trace = checked ++ foretold ∧ result = .error failure ∧ after = books) ∨
      ∃ checked foretold rest admin predicted,
        Foreseen gate order proxy previous books checked foretold admin predicted ∧
        (next admin predicted).Ends books rest result after ∧
        trace = checked ++ (foretold ++ rest) := by
  constructor
  · intro ended
    rcases Flow.ends_bind.1 ended with ⟨admin, start, checked, _, resolved, predicting, rfl⟩ |
      ⟨failure, failed, rfl⟩
    case inr =>
      obtain ⟨rfl, -⟩ := of_ends_administrator_error failed
      exact .inl ⟨failure, failed, rfl, rfl⟩
    obtain ⟨rfl, -⟩ := ends_administrator_ok.1 resolved
    rcases Flow.ends_bind.1 predicting with
      ⟨predicted, start', foretold, rest, prediction, onward, rfl⟩ | ⟨failure, failed, rfl⟩
    case inr =>
      obtain ⟨rfl, -⟩ := of_ends_predictNext failed
      exact .inr (.inl ⟨checked, _, admin, failure, resolved, failed, rfl, rfl, rfl⟩)
    obtain ⟨rfl, -⟩ := of_ends_predictNext prediction
    exact .inr (.inr
      ⟨checked, foretold, rest, admin, predicted, ⟨resolved, prediction⟩, onward, rfl⟩)
  · intro ended
    rcases ended with ⟨failure, failed, rfl, rfl⟩ |
      ⟨checked, foretold, admin, failure, resolved, failed, rfl, rfl, rfl⟩ |
      ⟨checked, foretold, rest, admin, predicted, foreseen, onward, rfl⟩
    · exact Flow.ends_bind.2 (.inr ⟨failure, failed, rfl⟩)
    · refine Flow.ends_bind.2 (.inl ⟨admin, _, checked, foretold, resolved, ?_, rfl⟩)
      exact Flow.ends_bind.2 (.inr ⟨failure, failed, rfl⟩)
    · exact foreseen.ends_bind onward

/-- How an installation ends, from the books after the implementation was deployed. -/
inductive Installing [AddressRule] (gate : Gate) (order : UpgradeOrder) (proxy : Address)
    (previous : Option DeploymentRecord) (candidate : Layout) (admin : Option Address)
    (implementation : Address) (finished : Attempt) (books : Books) :
    Trace collaborators → Except Failure Attempt → Books → Prop where
  | refused (failure : Failure) :
      Installing gate order proxy previous candidate admin implementation finished books
        [installCall order proxy implementation admin books.disk (.error failure)]
        (.error failure) books
  | unconfirmed {seen : Trace collaborators} {failure : Failure}
      (failed : (confirm proxy implementation).Ends books seen (.error failure) books) :
      Installing gate order proxy previous candidate admin implementation finished books
        (installCall order proxy implementation admin books.disk (.ok ()) :: seen)
        (.error failure) books
  | unkept {current : Option String} {failure : Failure} {disk : Disk}
      (follows : (current.any fun address =>
        Address.sameAccount address implementation.text) = true)
      (unwritten : (gate.store.write books.now .baseline order.contract order.network
        candidate).run.run (upgradeBooks books order proxy previous admin implementation).disk =
          (.error failure, disk)) :
      Installing gate order proxy previous candidate admin implementation finished books
        [installCall order proxy implementation admin books.disk (.ok ()),
          exchange (.implementationOf proxy) books.disk (.ok current)]
        (.error failure)
        { upgradeBooks books order proxy previous admin implementation with disk := disk }
  | completed {current : Option String} {path : Path} {disk : Disk} (told : Except Failure Unit)
      (follows : (current.any fun address =>
        Address.sameAccount address implementation.text) = true)
      (written : (gate.store.write books.now .baseline order.contract order.network
        candidate).run.run (upgradeBooks books order proxy previous admin implementation).disk =
          (.ok path, disk)) :
      Installing gate order proxy previous candidate admin implementation finished books
        [installCall order proxy implementation admin books.disk (.ok ()),
          exchange (.implementationOf proxy) books.disk (.ok current),
          exchange (.announce (.completed finished)) disk told]
        (.ok finished)
        { upgradeBooks books order proxy previous admin implementation with disk := disk }

/-- An installation with a readable log ends in one of these ways. -/
theorem ends_installing [AddressRule] {candidate : Layout} {admin : Option Address}
    {implementation : Address} {finished : Attempt} {rows : Ledger}
    {result : Except Failure Attempt} (readable : books.ledger = .ok rows) :
    (do
      install order proxy implementation admin
      confirm proxy implementation
      gate.bookUpgrade order proxy previous candidate admin implementation finished).Ends books
        trace result after ↔
      Installing gate order proxy previous candidate admin implementation finished books trace
        result after := by
  constructor
  · intro ended
    rcases Flow.ends_bind.1 ended with ⟨_, _, _, _, installed, confirming, rfl⟩ |
      ⟨failure, failed, rfl⟩
    case inr =>
      obtain ⟨rfl, rfl⟩ := ends_install.1 failed
      exact .refused failure
    obtain ⟨rfl, rfl⟩ := ends_install.1 installed
    rcases Flow.ends_bind.1 confirming with ⟨_, _, _, _, confirmed, booking, rfl⟩ |
      ⟨failure, failed, rfl⟩
    case inr =>
      obtain ⟨rfl, -⟩ := ends_confirm.1 failed
      exact .unconfirmed failed
    obtain ⟨rfl, answer, rfl, ⟨_, -, ⟨⟩⟩ | ⟨current, rfl, outcome⟩⟩ := ends_confirm.1 confirmed
    split at outcome
    case isFalse => cases outcome
    next follows =>
    rcases (ends_bookUpgrade readable).1 booking with ⟨path, disk, told, written, rfl, rfl, rfl⟩ |
      ⟨failure, disk, unwritten, rfl, rfl, rfl⟩
    · exact .completed told follows written
    · exact .unkept follows unwritten
  · intro installing
    have installs : (install order proxy implementation admin).Ends books
        [installCall order proxy implementation admin books.disk (.ok ())] (.ok ()) books :=
      ends_install.2 ⟨rfl, rfl⟩
    have confirms : ∀ {current : Option String},
        (current.any fun address => Address.sameAccount address implementation.text) = true →
        (confirm proxy implementation).Ends books
          [exchange (.implementationOf proxy) books.disk (.ok current)] (.ok ()) books := by
      intro current follows
      exact ends_confirm.2 ⟨rfl, _, rfl, .inr ⟨current, rfl, by rw [if_pos follows]⟩⟩
    cases installing with
    | refused failure =>
      exact Flow.ends_bind.2 (.inr ⟨failure, ends_install.2 ⟨rfl, rfl⟩, rfl⟩)
    | unconfirmed failed =>
      refine Flow.ends_bind.2 (.inl ⟨(), _, _, _, installs, ?_, rfl⟩)
      exact Flow.ends_bind.2 (.inr ⟨_, failed, rfl⟩)
    | unkept follows unwritten =>
      refine Flow.ends_bind.2 (.inl ⟨(), _, _, _, installs, ?_, rfl⟩)
      refine Flow.ends_bind.2 (.inl ⟨(), _, _, [], confirms follows, ?_, rfl⟩)
      exact (ends_bookUpgrade readable).2 (.inr ⟨_, _, unwritten, rfl, rfl, rfl⟩)
    | completed told follows written =>
      refine Flow.ends_bind.2 (.inl ⟨(), _, _, _, installs, ?_, rfl⟩)
      refine Flow.ends_bind.2 (.inl ⟨(), _, _, _, confirms follows, ?_, rfl⟩)
      exact (ends_bookUpgrade readable).2 (.inl ⟨_, _, told, written, rfl, rfl, rfl⟩)

/-- A flow that goes on after both checks and the deployment. -/
theorem Foreseen.ends_deployRaw_bind [AddressRule]
    {checked foretold early rest : Trace collaborators} {admin : Option Address}
    {predicted : String} {implementation : Address} {middle : Books} {α : Type}
    {next : Option Address → String → Address → Flow α} {result : Except Failure α}
    (foreseen : Foreseen gate order proxy previous books checked foretold admin predicted)
    (deployed : RawDeployment order.contract [] order.network order.sender books early
      (.ok implementation) middle)
    (onward : (next admin predicted implementation).Ends middle rest result after) :
    (do
      let admin ← administrator proxy order.admin previous
      let predicted ← gate.predictNext order.sender
      let implementation ← deployRaw order.contract [] order.network order.sender
      next admin predicted implementation).Ends books (checked ++ (foretold ++ (early ++ rest)))
        result after := by
  refine foreseen.ends_bind ?_
  exact Flow.ends_bind.2 (.inl ⟨_, _, _, _, ends_deployRaw.2 deployed, onward, rfl⟩)

/-- **The fast path** ends in one of these ways. -/
theorem ends_fastPath [AddressRule] {candidate : Layout} {compatible : Bool} {attempt : Attempt}
    {result : Except Failure Attempt} :
    (gate.fastPath order proxy previous candidate compatible attempt).Ends books trace
        result after ↔
      FastPath gate order proxy previous candidate compatible attempt
        { books with stages := books.stages ++ [.fastPath] } trace result after := by
  rw [fastPath_eq, ends_enter_bind]
  generalize { books with stages := books.stages ++ [Stage.fastPath] } = entered
  constructor
  · intro ended
    rcases ends_foresee_bind.1 ended with ⟨failure, failed, rfl, rfl⟩ |
      ⟨checked, foretold, admin, failure, resolved, failed, rfl, rfl, rfl⟩ |
      ⟨checked, foretold, rest, admin, predicted, foreseen, deploying, rfl⟩
    · exact .unresolved failed
    · exact .unforeseen resolved failed
    rcases ends_bind.1 deploying with ⟨implementation, middle, early, _, deployed, deciding, rfl⟩ |
      ⟨failure, failed, rfl⟩
    case inr => exact .undeployed foreseen (ends_deployRaw.1 failed)
    have deployment := ends_deployRaw.1 deployed
    split at deciding
    case isFalse differs =>
      rw [ends_count_bind] at deciding
      obtain ⟨rfl, rfl, rfl⟩ := ends_throw.1 deciding
      rw [List.append_nil]
      exact .mismatched foreseen deployment (by simpa using differs)
    next same =>
    obtain ⟨rows, readable⟩ := deployment.ledger_ok
    cases (ends_installing readable).1 deciding with
    | refused failure => exact .refused failure foreseen deployment same
    | unconfirmed failed => exact .unconfirmed foreseen deployment same failed
    | unkept follows unwritten => exact .unkept foreseen deployment same follows unwritten
    | completed told follows written =>
      exact .completed told foreseen deployment same follows written
  · intro path
    cases path with
    | unresolved failed => exact ends_foresee_bind.2 (.inl ⟨_, failed, rfl, rfl⟩)
    | unforeseen resolved failed =>
      exact ends_foresee_bind.2 (.inr (.inl ⟨_, _, _, _, resolved, failed, rfl, rfl, rfl⟩))
    | undeployed foreseen failed =>
      exact foreseen.ends_bind (ends_bind.2 (.inr ⟨_, ends_deployRaw.2 failed, rfl⟩))
    | @mismatched _ _ early _ _ _ _ foreseen deployed differs =>
      rw [← List.append_nil early]
      refine foreseen.ends_deployRaw_bind deployed ?_
      rw [if_neg (by simp [differs]), ends_count_bind]
      exact ends_throw.2 ⟨rfl, rfl, rfl⟩
    | refused failure foreseen deployed same =>
      obtain ⟨rows, readable⟩ := deployed.ledger_ok
      refine foreseen.ends_deployRaw_bind deployed ?_
      rw [if_pos same]
      exact (ends_installing readable).2 (.refused failure)
    | unconfirmed foreseen deployed same failed =>
      obtain ⟨rows, readable⟩ := deployed.ledger_ok
      refine foreseen.ends_deployRaw_bind deployed ?_
      rw [if_pos same]
      exact (ends_installing readable).2 (.unconfirmed failed)
    | unkept foreseen deployed same follows unwritten =>
      obtain ⟨rows, readable⟩ := deployed.ledger_ok
      refine foreseen.ends_deployRaw_bind deployed ?_
      rw [if_pos same]
      exact (ends_installing readable).2 (.unkept follows unwritten)
    | completed told foreseen deployed same follows written =>
      obtain ⟨rows, readable⟩ := deployed.ledger_ok
      refine foreseen.ends_deployRaw_bind deployed ?_
      rw [if_pos same]
      exact (ends_installing readable).2 (.completed told follows written)

/-- The fast path begins with the administrator, and ends with it where none is resolved. -/
theorem FastPath.administered [AddressRule] {candidate : Layout} {compatible : Bool}
    {attempt : Attempt} {result : Except Failure Attempt}
    (path : FastPath gate order proxy previous candidate compatible attempt books trace result
      after) :
    ∃ checked later outcome, trace = checked ++ later ∧
      (administrator proxy order.admin previous).Ends books checked outcome books ∧
      ∀ failure, outcome = .error failure → later = [] ∧ result = .error failure := by
  cases path with
  | unresolved failed =>
    refine ⟨_, [], _, (List.append_nil _).symm, failed, ?_⟩
    rintro _ ⟨⟩
    exact ⟨rfl, rfl⟩
  | unforeseen resolved => exact ⟨_, _, _, rfl, resolved, fun _ => nofun⟩
  | undeployed foreseen => exact ⟨_, _, _, rfl, foreseen.resolved, fun _ => nofun⟩
  | mismatched foreseen => exact ⟨_, _, _, rfl, foreseen.resolved, fun _ => nofun⟩
  | refused _ foreseen => exact ⟨_, _, _, rfl, foreseen.resolved, fun _ => nofun⟩
  | unconfirmed foreseen => exact ⟨_, _, _, rfl, foreseen.resolved, fun _ => nofun⟩
  | unkept foreseen => exact ⟨_, _, _, rfl, foreseen.resolved, fun _ => nofun⟩
  | completed _ foreseen => exact ⟨_, _, _, rfl, foreseen.resolved, fun _ => nofun⟩

/-! ## What it touches -/

/-- Booking the row of an upgrade touches no place outside the log. -/
theorem keeps_upgradeBooks (books : Books) (order : UpgradeOrder) (proxy : Address)
    (previous : Option DeploymentRecord) (admin : Option Address) (implementation : Address) :
    Books.Keeps (fun _ => False) books
      (upgradeBooks books order proxy previous admin implementation) := by
  have entered : Books.Keeps (fun _ => False) books
      { books with stages := books.stages ++ [Stage.upgraded] } :=
    (Books.Keeps.refl _ books).congr rfl rfl rfl
  exact entered.trans (.recorded _ _)

/-- Nor does it make a place of the store unwritable. -/
theorem stillWritable_upgradeBooks (store : LayoutStore) (books : Books) (order : UpgradeOrder)
    (proxy : Address) (previous : Option DeploymentRecord) (admin : Option Address)
    (implementation : Address) : store.StillWritable books.disk
      (upgradeBooks books order proxy previous admin implementation).disk :=
  Books.stillWritable_recorded store { books with stages := books.stages ++ [.upgraded] } _

/-- A baseline that could be written before the deployment can be written after both records were
appended. -/
theorem RawDeployment.not_unwritten [AddressRule] {early : Trace collaborators}
    {admin : Option Address}
    {implementation : Address} {middle : Books} {candidate : Layout} {failure : Failure}
    {disk : Disk}
    (deployed : RawDeployment order.contract [] order.network order.sender books early
      (.ok implementation) middle)
    (writable : gate.store.Writable .baseline order.contract order.network books.disk) :
    (gate.store.write middle.now .baseline order.contract order.network candidate).run.run
      (upgradeBooks middle order proxy previous admin implementation).disk ≠
        (.error failure, disk) := by
  have still := (deployed.stillWritable gate.store).trans
    (stillWritable_upgradeBooks gate.store middle order proxy previous admin implementation)
  obtain ⟨disk, written, -⟩ := LayoutStore.run_write_of_writable middle.now candidate
    (still _ _ _ writable)
  intro unwritten
  cases written.symm.trans unwritten

/-- The fast path appends to the log and touches the baseline of the order's contract. -/
theorem FastPath.keeps [AddressRule] {candidate : Layout} {compatible : Bool} {attempt : Attempt}
    {result : Except Failure Attempt}
    (path : FastPath gate order proxy previous candidate compatible attempt books trace result
      after) :
    Books.Keeps (gate.store.Touches .baseline order.contract order.network) books after := by
  have never : ∀ place, False → gate.store.Touches .baseline order.contract order.network place :=
    fun _ => False.elim
  -- the baseline is written, or tried to be written, after both records were appended
  have kept : ∀ {middle : Books} {early : Trace collaborators} {admin : Option Address}
      {implementation : Address} {written : Except Failure Path} {disk : Disk},
      RawDeployment order.contract [] order.network order.sender books early (.ok implementation)
        middle →
      (gate.store.write middle.now .baseline order.contract order.network candidate).run.run
        (upgradeBooks middle order proxy previous admin implementation).disk = (written, disk) →
      Books.Keeps (gate.store.Touches .baseline order.contract order.network) books
        { upgradeBooks middle order proxy previous admin implementation with disk := disk } := by
    intro middle early admin implementation written disk deployed ended
    have touched := LayoutStore.keeps_of_write ended
    have recorded := deployed.keeps.trans
      (keeps_upgradeBooks middle order proxy previous admin implementation)
    exact (recorded.mono never).trans (.ofDisk touched)
  cases path with
  | unresolved => exact .refl _ _
  | unforeseen => exact .refl _ _
  | undeployed _ failed => exact failed.keeps.mono never
  | mismatched _ deployed => exact (deployed.keeps.mono never).congr rfl rfl rfl
  | refused _ _ deployed => exact deployed.keeps.mono never
  | unconfirmed _ deployed => exact deployed.keeps.mono never
  | unkept _ deployed _ _ unwritten => exact kept deployed unwritten
  | completed _ _ deployed _ _ written => exact kept deployed written

end UpgradeGate.Gate
