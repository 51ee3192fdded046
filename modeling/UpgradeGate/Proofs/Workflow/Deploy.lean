import UpgradeGate.Proofs.Layout.StoreEffects
import UpgradeGate.Proofs.Workflow.Ledger
import UpgradeGate.Workflow.Deploy

/-!
# How deployments end

A deployment fails before the chain gave an address, or its record is appended and the addresses are
named (`Gate.RawDeployment`); these are all ways to end, and each can happen
(`Gate.ends_deployRaw`). The deployment of a proxy keeps nothing before it comes to recording the
proxy (`Gate.progress_of_ends`). Then its record is appended, and a name, the layout or the file of
the baseline may still fail (`Gate.ProxyEnding`, `Gate.ending_of_ends`). Where it returns and
baselines are recorded, the layout that was compiled for it is the baseline of its contract
(`Gate.proxyDeployment_of_ends`).
-/

namespace UpgradeGate

/-- A row in the log makes no place of the store unwritable. -/
theorem Books.stillWritable_recorded (store : LayoutStore) (books : Books) (row : Row) :
    store.StillWritable books.disk (books.recorded row).disk :=
  .of_keeps (books.keeps_recorded row) fun _ => folder_of_recorded

/-! ## What an exchange tells -/

namespace Flow

/-- The address that a deployment was given by the chain. -/
def deployed? [AddressRule] : Exchange collaborators → Option Address
  | ⟨⟨.deploy _ _ _, _⟩, .ok text⟩ => (Address.parse text).toOption
  | _ => none

/-- The layout that the toolchain gave. -/
def compiled? : Exchange collaborators → Option Layout
  | ⟨⟨.layout _, _⟩, .ok layout⟩ => some layout
  | _ => none

/-- An upgrade is asked for. -/
def isUpgrade (exchange : Exchange collaborators) : Bool := exchange.call.question.isUpgrade

@[simp] theorem isUpgrade_exchange (question : Question) (disk : Disk)
    (answer : Except Failure question.Answer) :
    isUpgrade (exchange question disk answer) = question.isUpgrade := rfl

/-- A completed upgrade is announced. -/
def isCompletion : Exchange collaborators → Bool
  | ⟨⟨.announce (.completed _), _⟩, _⟩ => true
  | _ => false

end Flow

namespace Gate

open UpgradeGate.Flow

variable {books after : Books} {trace : Trace collaborators}
  {contract network sender name : String} {arguments : List Argument} {address : Address}

/-! ## The steps of a deployment -/

/-- A record is stamped with the moment of the books, and nothing is asked. -/
theorem ends_stamped {record : Moment → DeploymentRecord}
    {result : Except Failure DeploymentRecord} :
    (stamped record).Ends books trace result after ↔
      trace = [] ∧ result = .ok (record books.now) ∧ after = books := by
  rw [stamped, ends_get_bind, ends_pure]

theorem ends_stamped_bind {α : Type} {record : Moment → DeploymentRecord}
    {next : DeploymentRecord → Flow α} {result : Except Failure α} :
    (stamped record >>= next).Ends books trace result after ↔
      (next (record books.now)).Ends books trace result after :=
  ends_bind_of_returns ends_stamped

/-- A name is given and announced, or the chain fails to give it. -/
theorem ends_label {address : String} {result : Except Failure Unit} :
    (label address name).Ends books trace result after ↔ after = books ∧
      ((∃ failure, trace = [exchange (.label address name) books.disk (.error failure)] ∧
        result = .error failure) ∨
      ∃ reply, trace = [exchange (.label address name) books.disk (.ok ()),
        exchange (.announce (.labelled address name)) books.disk reply] ∧ result = .ok ()) := by
  rw [label, ends_ask_bind]
  simp only [ends_announce]
  constructor
  · intro ended
    rcases ended with ⟨_, _, rfl, reply, rfl, rfl, rfl⟩ | ⟨failure, rfl, rfl, rfl⟩
    · exact ⟨rfl, .inr ⟨reply, rfl, rfl⟩⟩
    · exact ⟨rfl, .inl ⟨failure, rfl, rfl⟩⟩
  · intro ended
    obtain ⟨rfl, ⟨failure, rfl, rfl⟩ | ⟨reply, rfl, rfl⟩⟩ := ended
    · exact .inr ⟨failure, rfl, rfl, rfl⟩
    · exact .inl ⟨(), _, rfl, reply, rfl, rfl, rfl⟩

/-- A flow that labels first ends where the label fails, or goes on from the label's reply. -/
theorem ends_label_bind {α : Type} {address : String} {next : Unit → Flow α}
    {result : Except Failure α} :
    (label address name >>= next).Ends books trace result after ↔
      (∃ failure, trace = [exchange (.label address name) books.disk (.error failure)] ∧
        result = .error failure ∧ after = books) ∨
      ∃ reply rest, trace = exchange (.label address name) books.disk (.ok ()) ::
          exchange (.announce (.labelled address name)) books.disk reply :: rest ∧
        (next ()).Ends books rest result after := by
  rw [ends_bind]
  simp only [ends_label]
  constructor
  · intro ended
    rcases ended with ⟨_, _, _, rest, ⟨rfl, ⟨_, -, ⟨⟩⟩ | ⟨reply, rfl, -⟩⟩, onward, rfl⟩ |
      ⟨failure, ⟨rfl, ⟨_, rfl, ⟨⟩⟩ | ⟨_, -, ⟨⟩⟩⟩, rfl⟩
    · exact .inr ⟨reply, rest, rfl, onward⟩
    · exact .inl ⟨failure, rfl, rfl, rfl⟩
  · intro ended
    rcases ended with ⟨failure, rfl, rfl, rfl⟩ | ⟨reply, rest, rfl, onward⟩
    · exact .inr ⟨failure, ⟨rfl, .inl ⟨failure, rfl, rfl⟩⟩, rfl⟩
    · exact .inl ⟨(), books, [_, _], rest, ⟨rfl, .inr ⟨reply, rfl, trivial⟩⟩, onward, rfl⟩

/-- A contract is created where it was compiled and the chain gave an address. -/
theorem ends_create_ok [AddressRule] :
    (create contract arguments sender).Ends books trace (.ok address) after ↔
      after = books ∧ ∃ artifact text, Address.parse text = .ok address ∧
        trace = [exchange (.artifact contract) books.disk (.ok artifact),
          exchange (.deploy artifact arguments sender) books.disk (.ok text)] := by
  rw [create, ends_ask_bind]
  constructor
  · intro ended
    rcases ended with ⟨artifact, _, rfl, ended⟩ | ⟨_, -, ⟨⟩, -⟩
    rcases ends_ask_bind.1 ended with ⟨text, _, rfl, read⟩ | ⟨_, -, ⟨⟩, -⟩
    obtain ⟨rfl, parsed, rfl⟩ := ends_lift.1 read
    exact ⟨rfl, artifact, text, parsed.symm, rfl⟩
  · intro ended
    obtain ⟨rfl, artifact, text, parsed, rfl⟩ := ended
    refine .inl ⟨artifact, _, rfl, ends_ask_bind.2 (.inl ⟨text, [], rfl, ?_⟩)⟩
    exact ends_lift.2 ⟨rfl, parsed.symm, rfl⟩

/-- Where creating a contract fails, nothing was kept, and the chain gave no address. -/
theorem of_ends_create_error [AddressRule] {failure : Failure}
    (ended : (create contract arguments sender).Ends books trace (.error failure) after) :
    after = books ∧ ∀ exchange ∈ trace, deployed? exchange = none ∧ compiled? exchange = none ∧
      isUpgrade exchange = false ∧ isCompletion exchange = false := by
  rw [create, ends_ask_bind] at ended
  rcases ended with ⟨artifact, _, rfl, rest⟩ | ⟨_, rfl, -, rfl⟩
  · rcases ends_ask_bind.1 rest with ⟨text, _, rfl, read⟩ | ⟨_, rfl, -, rfl⟩
    · obtain ⟨rfl, parsed, rfl⟩ := ends_lift.1 read
      refine ⟨rfl, ?_⟩
      simp [exchange, deployed?, compiled?, isUpgrade, isCompletion, Question.isUpgrade, ← parsed,
        Except.toOption]
    · refine ⟨rfl, ?_⟩
      simp [exchange, deployed?, compiled?, isUpgrade, isCompletion, Question.isUpgrade]
  · refine ⟨rfl, ?_⟩
    simp [exchange, deployed?, compiled?, isUpgrade, isCompletion, Question.isUpgrade]

/-! ## Contracts that stand alone -/

/-- The record of a contract that stands alone. -/
def rawRecord (contract network : String) (address : Address) (now : Moment) :
    DeploymentRecord where
  contract := contract
  network := network
  implementation := address.text
  proxy := none
  kind := none
  admin := none
  action := .deploy
  timestamp := Moment.text now

/-- The record of a raw deployment always has its row. -/
theorem rowOf_rawRecord [AddressRule] (contract network : String) (address : Address)
    (now : Moment) :
    DeploymentLog.rowOf (rawRecord contract network address now) =
      .ok (rawRecord contract network address now).row :=
  @DeploymentLog.rowOf_eq_ok _ _ address none rfl rfl

/-- The books after a contract that stands alone was deployed and recorded. -/
def rawBooks (books : Books) (contract network : String) (address : Address) : Books :=
  let recorded := books.recorded (rawRecord contract network address books.now).row
  { recorded with tally := recorded.tally.deployment "raw" }

theorem ledger_rawBooks (books : Books) (contract network : String) (address : Address) :
    (rawBooks books contract network address).ledger =
      books.ledger.map (· ++ [(rawRecord contract network address books.now).row]) :=
  books.ledger_recorded _

/-- How the deployment of a contract that stands alone ends. -/
inductive RawDeployment [AddressRule] (contract : String) (arguments : List Argument)
    (network sender : String)
    (books : Books) : Trace collaborators → Except Failure Address → Books → Prop where
  | undeployed {trace : Trace collaborators} {failure : Failure}
      (failed : (create contract arguments sender).Ends books trace (.error failure) books) :
      RawDeployment contract arguments network sender books trace (.error failure) books
  | unlogged {trace : Trace collaborators} {address : Address} {failure : Failure}
      (created : (create contract arguments sender).Ends books trace (.ok address) books)
      (unreadable : books.ledger = .error failure) :
      RawDeployment contract arguments network sender books trace (.error failure) books
  | unlabelled {trace : Trace collaborators} {address : Address} {rows : Ledger}
      (failure : Failure)
      (created : (create contract arguments sender).Ends books trace (.ok address) books)
      (readable : books.ledger = .ok rows) :
      RawDeployment contract arguments network sender books
        (trace ++ [exchange (.label address.text contract)
          (rawBooks books contract network address).disk (.error failure)])
        (.error failure) (rawBooks books contract network address)
  | deployed {trace : Trace collaborators} {address : Address} {rows : Ledger}
      (named told : Except Failure Unit)
      (created : (create contract arguments sender).Ends books trace (.ok address) books)
      (readable : books.ledger = .ok rows) :
      RawDeployment contract arguments network sender books
        (trace ++ [
          exchange (.label address.text contract)
            (rawBooks books contract network address).disk (.ok ()),
          exchange (.announce (.labelled address.text contract))
            (rawBooks books contract network address).disk named,
          exchange (.announce (.deployed contract network address.text none))
            (rawBooks books contract network address).disk told])
        (.ok address) (rawBooks books contract network address)

/-- **Deploying a contract that stands alone** ends in one of these ways. -/
theorem ends_deployRaw [AddressRule] {result : Except Failure Address} :
    (deployRaw contract arguments network sender).Ends books trace result after ↔
      RawDeployment contract arguments network sender books trace result after := by
  rw [deployRaw]
  constructor
  · intro ended
    rcases ends_bind.1 ended with ⟨address, _, early, _, created, rest, rfl⟩ |
      ⟨failure, failed, rfl⟩
    case inr =>
      obtain ⟨rfl, -⟩ := of_ends_create_error failed
      exact .undeployed failed
    obtain ⟨rfl, -⟩ := ends_create_ok.1 created
    rw [ends_stamped_bind] at rest
    rcases (ends_appendRecord_bind (rowOf_rawRecord contract network address _)).1 rest with
      ⟨rows, readable, naming⟩ | ⟨failure, unreadable, rfl, rfl, rfl⟩
    case inr =>
      rw [List.append_nil]
      exact .unlogged created unreadable
    rw [ends_count_bind, ends_label_bind] at naming
    rcases naming with ⟨failure, rfl, rfl, rfl⟩ | ⟨named, _, rfl, telling⟩
    · exact .unlabelled failure created readable
    · obtain ⟨told, _, rfl, returned⟩ := ends_announce_bind.1 telling
      obtain ⟨rfl, rfl, rfl⟩ := ends_pure.1 returned
      exact .deployed named told created readable
  · intro deployment
    cases deployment with
    | undeployed failed => exact ends_bind.2 (.inr ⟨_, failed, rfl⟩)
    | unlogged created unreadable =>
      refine ends_bind.2 (.inl ⟨_, _, trace, [], created, ?_, (List.append_nil _).symm⟩)
      rw [ends_stamped_bind]
      exact (ends_appendRecord_bind (rowOf_rawRecord ..)).2 (.inr ⟨_, unreadable, rfl, rfl, rfl⟩)
    | unlabelled failure created readable =>
      refine ends_bind.2 (.inl ⟨_, _, _, _, created, ?_, rfl⟩)
      rw [ends_stamped_bind]
      refine (ends_appendRecord_bind (rowOf_rawRecord ..)).2 (.inl ⟨_, readable, ?_⟩)
      rw [ends_count_bind, ends_label_bind]
      exact .inl ⟨failure, rfl, rfl, rfl⟩
    | deployed named told created readable =>
      refine ends_bind.2 (.inl ⟨_, _, _, _, created, ?_, rfl⟩)
      rw [ends_stamped_bind]
      refine (ends_appendRecord_bind (rowOf_rawRecord ..)).2 (.inl ⟨_, readable, ?_⟩)
      rw [ends_count_bind, ends_label_bind]
      refine .inr ⟨named, _, rfl, ends_announce_bind.2 ⟨told, [], rfl, ?_⟩⟩
      exact ends_pure.2 ⟨rfl, rfl, rfl⟩

theorem keeps_rawBooks (books : Books) (contract network : String) (address : Address) :
    Books.Keeps (fun _ => False) books (rawBooks books contract network address) :=
  (Books.Keeps.recorded books _).congr rfl rfl rfl

/-- A raw deployment touches no place outside the log. -/
theorem RawDeployment.keeps [AddressRule] {result : Except Failure Address}
    (deployment : RawDeployment contract arguments network sender books trace result after) :
    Books.Keeps (fun _ => False) books after := by
  cases deployment with
  | undeployed => exact .refl _ _
  | unlogged => exact .refl _ _
  | unlabelled => exact keeps_rawBooks ..
  | deployed => exact keeps_rawBooks ..

/-- Nor does it make a place of the store unwritable. -/
theorem RawDeployment.stillWritable [AddressRule] {result : Except Failure Address}
    (deployment : RawDeployment contract arguments network sender books trace result after)
    (store : LayoutStore) : store.StillWritable books.disk after.disk := by
  cases deployment with
  | undeployed => exact fun _ _ _ writable => writable
  | unlogged => exact fun _ _ _ writable => writable
  | unlabelled => exact books.stillWritable_recorded store _
  | deployed => exact books.stillWritable_recorded store _

/-- A raw deployment that returns leaves a log that can be read. -/
theorem RawDeployment.ledger_ok [AddressRule]
    (deployment : RawDeployment contract arguments network sender books trace (.ok address) after) :
    ∃ rows, after.ledger = .ok rows := by
  cases deployment with
  | deployed named told created readable =>
    have ledger := ledger_rawBooks books contract network address
    rw [readable] at ledger
    exact ⟨_, ledger⟩

/-! ## Proxies -/

/-- The record of a new proxy. -/
def proxyRecord (contract network : String) (implementation proxy : Address) (kind : ProxyKind)
    (admin : Option String) (now : Moment) : DeploymentRecord where
  contract := contract
  network := network
  implementation := implementation.text
  proxy := some proxy.text
  kind := some kind
  admin := admin
  action := .deployProxy
  timestamp := Moment.text now

/-- The record of a proxy always has its row. -/
theorem rowOf_proxyRecord [AddressRule] (contract network : String) (implementation proxy : Address)
    (kind : ProxyKind) (admin : Option String) (now : Moment) :
    DeploymentLog.rowOf (proxyRecord contract network implementation proxy kind admin now) =
      .ok (proxyRecord contract network implementation proxy kind admin now).row :=
  @DeploymentLog.rowOf_eq_ok _ _ implementation (some proxy) rfl rfl

/-- The books after a proxy was deployed and recorded. -/
def proxyBooks (books : Books) (contract network : String) (implementation proxy : Address)
    (kind : ProxyKind) (admin : Option String) : Books :=
  let recorded := books.recorded
    (proxyRecord contract network implementation proxy kind admin books.now).row
  { recorded with tally := recorded.tally.deployment kind.name }

theorem ledger_proxyBooks (books : Books) (contract network : String)
    (implementation proxy : Address) (kind : ProxyKind) (admin : Option String) :
    (proxyBooks books contract network implementation proxy kind admin).ledger = books.ledger.map
      (· ++ [(proxyRecord contract network implementation proxy kind admin books.now).row]) :=
  books.ledger_recorded _

/-- Booking the row of a proxy touches no place outside the log. -/
theorem keeps_proxyBooks (books : Books) (contract network : String)
    (implementation proxy : Address) (kind : ProxyKind) (admin : Option String) :
    Books.Keeps (fun _ => False) books
      (proxyBooks books contract network implementation proxy kind admin) :=
  (Books.Keeps.recorded books _).congr rfl rfl rfl

/-- The administrator that a new proxy made for itself. -/
def createdAdmin (kind : ProxyKind) (proxy : Address) : Flow (Option String) :=
  match kind with
  | .transparent => Flow.ask (.adminOf proxy)
  | .uups => pure none

/-- Name the administrator of a new proxy, if it has one. -/
def labelAdmin (contract : String) (admin : Option String) : Flow Unit :=
  match admin.filter (!·.isEmpty) with
  | some address => label address (contract ++ " (proxy admin)")
  | none => pure ()

/-- Record the layout of a new proxy's implementation as a baseline, if that is wanted. -/
def recordBaseline (gate : Gate) (contract network : String) : Flow Unit :=
  if gate.recordsBaselines then do
    let layout ← Flow.ask (.layout contract)
    let now := (← get).now
    let _ ← Flow.onDisk (gate.store.write now .baseline contract network layout)
    pure ()
  else pure ()

/-- Deploying a proxy, by its steps. -/
theorem deployProxy_eq [AddressRule] (gate : Gate) (contract : String) (initData : Bytes)
    (kind : Json) (admin : Option String) (network sender : String) :
    gate.deployProxy contract initData kind admin network sender = (do
      let kind ← Flow.lift (ProxyKind.parse kind)
      let owner ← Flow.lift (ownerOf contract kind admin)
      let implementation ← create contract [] sender
      let arguments ← Flow.lift
        (kind.constructorArguments implementation.text initData (owner.map Address.text))
      let proxy ← create kind.artifactName arguments sender
      let made ← createdAdmin kind proxy
      let record ← stamped (proxyRecord contract network implementation proxy kind made)
      let _ ← Flow.appendRecord record
      Flow.count (Tally.deployment kind.name)
      label implementation.text (contract ++ " (implementation)")
      label proxy.text (contract ++ " (" ++ kind.name ++ " proxy)")
      labelAdmin contract made
      Flow.announce (.deployed contract network implementation.text (some proxy.text))
      gate.recordBaseline contract network
      pure proxy) := by
  refine bind_congr fun kind => bind_congr fun owner => bind_congr fun implementation => ?_
  refine bind_congr fun arguments => bind_congr fun proxy => ?_
  cases kind
  all_goals
    refine bind_congr fun made => bind_congr fun record => bind_congr fun number => ?_
    refine bind_congr fun counted => bind_congr fun named => bind_congr fun named' => ?_
    rw [labelAdmin, recordBaseline]
    cases made.filter (!·.isEmpty) <;> cases gate.recordsBaselines <;>
      simp only [bind_assoc, pure_bind, ↓reduceIte, Bool.false_eq_true]

/-- No layout was compiled in some exchanges, and no upgrade announced as completed. -/
def Preliminary (trace : Trace collaborators) : Prop :=
  ∀ exchange ∈ trace, compiled? exchange = none ∧ isCompletion exchange = false

theorem preliminary_nil : Preliminary [] := fun _ absent => absurd absent List.not_mem_nil

theorem Preliminary.append {first second : Trace collaborators} (one : Preliminary first)
    (two : Preliminary second) : Preliminary (first ++ second) := by
  intro exchange member
  rcases List.mem_append.1 member with early | late
  · exact one exchange early
  · exact two exchange late

/-- What is preliminary compiles no layout. -/
theorem Preliminary.filterMap_compiled? (preliminary : Preliminary trace) :
    trace.filterMap compiled? = [] :=
  List.filterMap_eq_nil_iff.2 fun exchange member => (preliminary exchange member).1

theorem Preliminary.countP_isCompletion (preliminary : Preliminary trace) :
    trace.countP isCompletion = 0 :=
  List.countP_eq_zero.2 fun exchange member => by simp [(preliminary exchange member).2]

/-- A creation moves no books and is preliminary. -/
theorem preliminary_of_ends_create [AddressRule] {result : Except Failure Address}
    (ended : (create contract arguments sender).Ends books trace result after) :
    after = books ∧ Preliminary trace := by
  cases result with
  | error failure =>
    obtain ⟨same, quiet⟩ := of_ends_create_error ended
    exact ⟨same, fun exchange member =>
      ⟨(quiet exchange member).2.1, (quiet exchange member).2.2.2⟩⟩
  | ok address =>
    obtain ⟨same, artifact, text, -, rfl⟩ := ends_create_ok.1 ended
    refine ⟨same, ?_⟩
    simp [Preliminary, exchange, compiled?, isCompletion]

/-- Asking for the administrator of a new proxy keeps nothing and compiles nothing. -/
theorem of_ends_createdAdmin {kind : ProxyKind} {proxy : Address}
    {result : Except Failure (Option String)}
    (ended : (createdAdmin kind proxy).Ends books trace result after) :
    after = books ∧ Preliminary trace := by
  cases kind with
  | uups =>
    obtain ⟨rfl, -, rfl⟩ := ends_pure.1 ended
    exact ⟨rfl, preliminary_nil⟩
  | transparent =>
    obtain ⟨rfl, rfl⟩ := ends_ask.1 ended
    refine ⟨rfl, ?_⟩
    simp [Preliminary, exchange, compiled?, isCompletion]

/-- A trace ends with a failure of a question that is put after a new proxy was recorded: for the
name of an address, or for the layout of the contract. -/
def FailsLate (contract : String) (trace : Trace collaborators) (failure : Failure) : Prop :=
  ∃ before question disk, ((∃ address name, question = .label address name) ∨
      question = .layout contract) ∧
    trace = before ++ [exchange question disk (.error failure)]

/-- A late failure stays one after any exchanges before it. -/
theorem FailsLate.prepend {failure : Failure} (fails : FailsLate contract trace failure)
    (first : Trace collaborators) : FailsLate contract (first ++ trace) failure := by
  obtain ⟨before, question, disk, late, rfl⟩ := fails
  exact ⟨first ++ before, question, disk, late, (List.append_assoc ..).symm⟩

/-- Name the addresses of a new proxy, and announce it. -/
def nameProxy (contract network : String) (implementation proxy : Address) (kind : ProxyKind)
    (admin : Option String) : Flow Unit := do
  label implementation.text (contract ++ " (implementation)")
  label proxy.text (contract ++ " (" ++ kind.name ++ " proxy)")
  labelAdmin contract admin
  Flow.announce (.deployed contract network implementation.text (some proxy.text))

/-- What giving names asks and keeps: nothing is kept, and what can fail is a name. -/
structure Named (contract : String) (books : Books) (trace : Trace collaborators)
    (result : Except Failure Unit) (after : Books) : Prop where
  same : after = books
  quiet : Preliminary trace
  fails : ∀ failure, result = .error failure → FailsLate contract trace failure

theorem named_of_ends_label {address : String} {result : Except Failure Unit}
    (ended : (label address name).Ends books trace result after) :
    Named contract books trace result after := by
  obtain ⟨rfl, ⟨failure, rfl, rfl⟩ | ⟨reply, rfl, rfl⟩⟩ := ends_label.1 ended
  · refine ⟨rfl, by simp [Preliminary, exchange, compiled?, isCompletion], ?_⟩
    rintro _ ⟨⟩
    exact ⟨[], _, _, .inl ⟨_, _, rfl⟩, rfl⟩
  · exact ⟨rfl, by simp [Preliminary, exchange, compiled?, isCompletion], fun _ => nofun⟩

/-- Labelling the administrator keeps nothing, and what can fail is the label. -/
theorem named_of_ends_labelAdmin {admin : Option String} {result : Except Failure Unit}
    (ended : (labelAdmin contract admin).Ends books trace result after) :
    Named contract books trace result after := by
  unfold labelAdmin at ended
  split at ended
  · exact named_of_ends_label ended
  · obtain ⟨rfl, rfl, rfl⟩ := ends_pure.1 ended
    exact ⟨rfl, preliminary_nil, fun _ => nofun⟩

/-- Two steps that give names give names. -/
theorem named_bind {first second : Flow Unit} {result : Except Failure Unit}
    (begun : ∀ {trace result after}, first.Ends books trace result after →
      Named contract books trace result after)
    (onward : ∀ {trace result after}, second.Ends books trace result after →
      Named contract books trace result after)
    (ended : (do first; second).Ends books trace result after) :
    Named contract books trace result after := by
  rcases ends_bind.1 ended with ⟨_, middle, early, late, start, rest, rfl⟩ | ⟨failure, start, rfl⟩
  · obtain ⟨rfl, quiet, -⟩ := begun start
    obtain ⟨rfl, quiet', fails⟩ := onward rest
    exact ⟨rfl, quiet.append quiet', fun failure failed => (fails failure failed).prepend early⟩
  · exact begun start

/-- Naming a proxy and what belongs to it keeps nothing, and what can fail is a label. -/
theorem named_of_ends_nameProxy {implementation proxy : Address} {kind : ProxyKind}
    {admin : Option String} {result : Except Failure Unit}
    (ended : (nameProxy contract network implementation proxy kind admin).Ends books trace result
      after) : Named contract books trace result after := by
  refine named_bind named_of_ends_label (named_bind named_of_ends_label
    (named_bind named_of_ends_labelAdmin ?_)) ended
  intro trace result after told
  obtain ⟨reply, rfl, rfl, rfl⟩ := ends_announce.1 told
  exact ⟨rfl, by simp [Preliminary, exchange, compiled?, isCompletion], fun _ => nofun⟩

/-- How the deployment of a proxy ends that returns, where baselines are recorded. -/
inductive ProxyDeployment (gate : Gate) (contract network : String) (books : Books) :
    Trace collaborators → Address → Books → Prop where
  | recorded {trace : Trace collaborators} {implementation proxy : Address} {kind : ProxyKind}
      {admin : Option String} {layout : Layout} {rows : Ledger} {path : Path} {disk : Disk}
      (compiled : trace.filterMap compiled? = [layout])
      (readable : books.ledger = .ok rows)
      (written : (gate.store.write books.now .baseline contract network layout).run.run
        (proxyBooks books contract network implementation proxy kind admin).disk =
          (.ok path, disk)) :
      ProxyDeployment gate contract network books trace proxy
        { proxyBooks books contract network implementation proxy kind admin with disk := disk }

/-- How the deployment of a proxy ends, where baselines are recorded: nothing is kept, or the proxy
is recorded and then a name or the layout is not given, the baseline is not written, or all is
done. -/
inductive ProxyEnding (gate : Gate) (contract network : String) (books : Books) :
    Trace collaborators → Except Failure Address → Books → Prop where
  | unrecorded {trace : Trace collaborators} (failure : Failure) :
      ProxyEnding gate contract network books trace (.error failure) books
  | unanswered {trace : Trace collaborators} {implementation proxy : Address} {kind : ProxyKind}
      {admin : Option String} {rows : Ledger} {failure : Failure}
      (readable : books.ledger = .ok rows) (fails : FailsLate contract trace failure) :
      ProxyEnding gate contract network books trace (.error failure)
        (proxyBooks books contract network implementation proxy kind admin)
  | unwritten {trace : Trace collaborators} {implementation proxy : Address} {kind : ProxyKind}
      {admin : Option String} {layout : Layout} {rows : Ledger} {failure : Failure} {disk : Disk}
      (compiled : trace.filterMap compiled? = [layout])
      (readable : books.ledger = .ok rows)
      (unwritten : (gate.store.write books.now .baseline contract network layout).run.run
        (proxyBooks books contract network implementation proxy kind admin).disk =
          (.error failure, disk)) :
      ProxyEnding gate contract network books trace (.error failure)
        { proxyBooks books contract network implementation proxy kind admin with disk := disk }
  | deployed {trace : Trace collaborators} {proxy : Address} {after : Books}
      (deployment : ProxyDeployment gate contract network books trace proxy after) :
      ProxyEnding gate contract network books trace (.ok proxy) after

/-- A deployment in which no layout was given before ends in the same way. -/
theorem ProxyEnding.prepend {gate : Gate} {result : Except Failure Address}
    (ending : ProxyEnding gate contract network books trace result after)
    {first : Trace collaborators} (quiet : first.filterMap compiled? = []) :
    ProxyEnding gate contract network books (first ++ trace) result after := by
  have same : (first ++ trace).filterMap compiled? = trace.filterMap compiled? := by
    rw [List.filterMap_append, quiet, List.nil_append]
  cases ending with
  | unrecorded failure => exact .unrecorded failure
  | unanswered readable fails => exact .unanswered readable (fails.prepend first)
  | unwritten compiled readable unwritten =>
    exact .unwritten (same.trans compiled) readable unwritten
  | deployed deployment =>
    cases deployment with
    | recorded compiled readable written =>
      exact .deployed (.recorded (same.trans compiled) readable written)

/-- Record a new proxy, name its addresses, and record its baseline. -/
def bookProxy [AddressRule] (gate : Gate) (contract network : String)
    (implementation proxy : Address) (kind : ProxyKind) (made : Option String) : Flow Address := do
  let record ← stamped (proxyRecord contract network implementation proxy kind made)
  let _ ← Flow.appendRecord record
  Flow.count (Tally.deployment kind.name)
  nameProxy contract network implementation proxy kind made
  gate.recordBaseline contract network
  pure proxy

/-- Deploying a proxy, by its steps up to the one that records it. -/
theorem deployProxy_eq_bookProxy [AddressRule] (gate : Gate) (contract : String) (initData : Bytes)
    (kind : Json) (admin : Option String) (network sender : String) :
    gate.deployProxy contract initData kind admin network sender = (do
      let kind ← Flow.lift (ProxyKind.parse kind)
      let owner ← Flow.lift (ownerOf contract kind admin)
      let implementation ← create contract [] sender
      let arguments ← Flow.lift
        (kind.constructorArguments implementation.text initData (owner.map Address.text))
      let proxy ← create kind.artifactName arguments sender
      let made ← createdAdmin kind proxy
      gate.bookProxy contract network implementation proxy kind made) := by
  simp only [deployProxy_eq, bookProxy, nameProxy, bind_assoc]

/-- Booking a proxy ends in one of the ways of `ProxyEnding`, one for each step that can fail. -/
theorem ending_of_ends_bookProxy [AddressRule] {gate : Gate} {implementation proxy : Address}
    {kind : ProxyKind} {made : Option String} {result : Except Failure Address}
    (records : gate.recordsBaselines = true)
    (ended : (gate.bookProxy contract network implementation proxy kind made).Ends books trace
      result after) : ProxyEnding gate contract network books trace result after := by
  rw [bookProxy, ends_stamped_bind] at ended
  rcases (ends_appendRecord_bind (rowOf_proxyRecord contract network implementation proxy kind made
    _)).1 ended with ⟨rows, readable, counting⟩ | ⟨failure, -, rfl, rfl, rfl⟩
  case inr => exact .unrecorded failure
  rw [ends_count_bind] at counting
  rcases ends_bind.1 counting with ⟨_, _, names, _, naming, keeping, rfl⟩ | ⟨failure, naming, rfl⟩
  case inr =>
    obtain ⟨rfl, -, fails⟩ := named_of_ends_nameProxy naming
    exact .unanswered readable (fails failure rfl)
  obtain ⟨rfl, quiet, -⟩ := named_of_ends_nameProxy naming
  refine ProxyEnding.prepend ?_ quiet.filterMap_compiled?
  rw [recordBaseline, if_pos records, bind_assoc] at keeping
  rcases ends_ask_bind.1 keeping with ⟨layout, _, rfl, reading⟩ | ⟨failure, rfl, rfl, rfl⟩
  case inr => exact .unanswered readable ⟨[], _, _, .inr rfl, rfl⟩
  rw [bind_assoc, ends_get_bind, bind_assoc] at reading
  rcases ends_onDisk_bind.1 reading with ⟨path, disk, written, finishing⟩ |
    ⟨failure, disk, unwritten, rfl, rfl, rfl⟩
  · rw [pure_bind] at finishing
    obtain ⟨rfl, rfl, rfl⟩ := ends_pure.1 finishing
    rw [Books.now_recorded] at written
    exact .deployed (.recorded rfl readable written)
  · rw [Books.now_recorded] at unwritten
    exact .unwritten rfl readable unwritten

/-- How far the deployment of a proxy comes: it fails and nothing was kept, or it comes to recording
the new proxy. -/
inductive ProxyProgress [AddressRule] (gate : Gate) (contract network : String) (books : Books) :
    Trace collaborators → Except Failure Address → Books → Prop where
  | failed {trace : Trace collaborators} (failure : Failure) (preliminary : Preliminary trace) :
      ProxyProgress gate contract network books trace (.error failure) books
  | booking {first rest : Trace collaborators} {implementation proxy : Address} {kind : ProxyKind}
      {made : Option String} {result : Except Failure Address} {after : Books}
      (preliminary : Preliminary first)
      (ended : (gate.bookProxy contract network implementation proxy kind made).Ends books rest
        result after) :
      ProxyProgress gate contract network books (first ++ rest) result after

/-- The progress of a proxy stays what it is after preliminary exchanges. -/
theorem ProxyProgress.prepend [AddressRule] {gate : Gate} {result : Except Failure Address}
    (progress : ProxyProgress gate contract network books trace result after)
    {first : Trace collaborators} (preliminary : Preliminary first) :
    ProxyProgress gate contract network books (first ++ trace) result after := by
  cases progress with
  | failed failure rest => exact .failed failure (preliminary.append rest)
  | booking rest ended =>
    rw [← List.append_assoc]
    exact .booking (preliminary.append rest) ended

/-- **Deploying a proxy** keeps nothing before it comes to recording the proxy. -/
theorem progress_of_ends [AddressRule] {gate : Gate} {initData : Bytes} {kind : Json}
    {admin : Option String} {result : Except Failure Address}
    (ended : (gate.deployProxy contract initData kind admin network sender).Ends books trace result
      after) : ProxyProgress gate contract network books trace result after := by
  rw [deployProxy_eq_bookProxy] at ended
  rcases ends_lift_bind.1 ended with ⟨kind, -, owning⟩ | ⟨failure, -, rfl, rfl, rfl⟩
  case inr => exact .failed failure preliminary_nil
  rcases ends_lift_bind.1 owning with ⟨owner, -, creating⟩ | ⟨failure, -, rfl, rfl, rfl⟩
  case inr => exact .failed failure preliminary_nil
  rcases ends_bind.1 creating with ⟨implementation, _, _, _, created, arguing, rfl⟩ |
    ⟨failure, uncreated, rfl⟩
  case inr =>
    obtain ⟨rfl, preliminary⟩ := preliminary_of_ends_create uncreated
    exact .failed failure preliminary
  obtain ⟨rfl, first⟩ := preliminary_of_ends_create created
  refine ProxyProgress.prepend ?_ first
  rcases ends_lift_bind.1 arguing with ⟨arguments, -, proxying⟩ | ⟨failure, -, rfl, rfl, rfl⟩
  case inr => exact .failed failure preliminary_nil
  rcases ends_bind.1 proxying with ⟨proxy, _, _, _, created', administering, rfl⟩ |
    ⟨failure, uncreated, rfl⟩
  case inr =>
    obtain ⟨rfl, preliminary⟩ := preliminary_of_ends_create uncreated
    exact .failed failure preliminary
  obtain ⟨rfl, second⟩ := preliminary_of_ends_create created'
  refine ProxyProgress.prepend ?_ second
  rcases ends_bind.1 administering with ⟨made, _, _, _, administered, booking, rfl⟩ |
    ⟨failure, unadministered, rfl⟩
  case inr =>
    obtain ⟨rfl, preliminary⟩ := of_ends_createdAdmin unadministered
    exact .failed failure preliminary
  obtain ⟨rfl, third⟩ := of_ends_createdAdmin administered
  exact .booking third booking

/-- **Deploying a proxy**, where baselines are recorded, ends in one of these ways. -/
theorem ending_of_ends [AddressRule] {gate : Gate} {initData : Bytes} {kind : Json}
    {admin : Option String}
    {result : Except Failure Address} (records : gate.recordsBaselines = true)
    (ended : (gate.deployProxy contract initData kind admin network sender).Ends books trace result
      after) : ProxyEnding gate contract network books trace result after := by
  cases progress_of_ends ended with
  | failed failure => exact .unrecorded failure
  | booking preliminary booked =>
    exact (ending_of_ends_bookProxy records booked).prepend preliminary.filterMap_compiled?

/-- Where the deployment of a proxy returns and baselines are recorded, its record was appended to
the log, and the layout that was compiled then was written as the baseline of its contract. -/
theorem proxyDeployment_of_ends [AddressRule] {gate : Gate} {initData : Bytes} {kind : Json}
    {admin : Option String} {proxy : Address} (records : gate.recordsBaselines = true)
    (ended : (gate.deployProxy contract initData kind admin network sender).Ends books trace
      (.ok proxy) after) : ProxyDeployment gate contract network books trace proxy after := by
  cases ending_of_ends records ended with
  | deployed deployment => exact deployment

end Gate

end UpgradeGate
