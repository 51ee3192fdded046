import UpgradeGate.Proofs.Gate.TransparentProxies
import UpgradeGate.Proofs.Workflow.Appending
import UpgradeGate.Proofs.Workflow.Questions

/-!
# Deployments of proxies

Before anything is asked, it is checked what the caller means: a kind, and an owner where the kind
has one. The first objection ends the deployment (`Gate.Objected`). Else the contract is deployed
without arguments and then the proxy, with the address that the contract got (`Gate.Deploying`). The
proxy is recorded exactly when both addresses were given, and its administrator was told if it has
one; the record names the administrator that was told, not the owner (`Gate.proxy_deployments`).
-/

namespace UpgradeGate

open UpgradeGate.Flow

/-! ## What an exchange tells -/

/-- A question is one that a deployment of a proxy puts before it records the proxy. -/
def Question.isDealing : Question → Bool
  | .artifact _ => true
  | .deploy _ _ _ => true
  | .adminOf _ => true
  | _ => false

namespace Flow

variable {trace : Trace collaborators}

/-- The compiled form that was loaded, and of which contract. -/
def loaded? : Exchange collaborators → Option (String × Artifact)
  | ⟨⟨.artifact contract, _⟩, .ok artifact⟩ => some (contract, artifact)
  | _ => none

/-- What is asked to be deployed: what, with which arguments, and by whom. -/
def deployment? : Exchange collaborators → Option (Artifact × List Argument × String)
  | ⟨⟨.deploy artifact arguments sender, _⟩, _⟩ => some (artifact, arguments, sender)
  | _ => none

/-- The administrator that the chain tells of a proxy. -/
def administered? : Exchange collaborators → Option (Address × Option String)
  | ⟨⟨.adminOf proxy, _⟩, .ok admin⟩ => some (proxy, admin)
  | _ => none

/-- What exchanges tell of deployments: what was loaded, what was asked to be deployed, which
addresses were given, and which administrators. -/
structure Told where
  loaded : List (String × Artifact)
  asked : List (Artifact × List Argument × String)
  given : List Address
  administered : List (Address × Option String)

/-- What is told first, and then more. -/
def Told.append (first second : Told) : Told :=
  ⟨first.loaded ++ second.loaded, first.asked ++ second.asked, first.given ++ second.given,
    first.administered ++ second.administered⟩

def told [AddressRule] (trace : Trace collaborators) : Told :=
  ⟨trace.filterMap loaded?, trace.filterMap deployment?, trace.filterMap deployed?,
    trace.filterMap administered?⟩

/-- What is dealt in two parts is dealt in one after the other. -/
theorem told_append [AddressRule] (first second : Trace collaborators) :
    told (first ++ second) = (told first).append (told second) := by
  simp only [told, Told.append, List.filterMap_append]

/-- Nothing is told of deployments where no questions of a deployment are put. -/
theorem told_of_undealt [AddressRule]
    (undealt : ∀ exchange ∈ trace, exchange.call.question.isDealing = false) :
    told trace = ⟨[], [], [], []⟩ := by
  simp only [told, Told.mk.injEq, List.filterMap_eq_nil_iff]
  refine ⟨?_, ?_, ?_, ?_⟩
  all_goals
    rintro ⟨⟨question, disk⟩, answer⟩ member
    have none := undealt _ member
    cases question <;> first | rfl | cases none

end Flow

/-! ## What the caller means -/

namespace ProxyKind

variable {given : Json} {kind : ProxyKind} {name : String}

/-- A caller means a kind by its name, whatever blanks and capitals it comes with. -/
def IsMeant (given : Json) (kind : ProxyKind) : Prop :=
  (Text.trimmed given.shown).toLower = kind.name

instance (given : Json) (kind : ProxyKind) : Decidable (IsMeant given kind) :=
  inferInstanceAs (Decidable ((Text.trimmed given.shown).toLower = kind.name))

/-- A kind is found by its own name only. -/
theorem ofName?_eq_some_iff : ofName? name = some kind ↔ name = kind.name := by
  constructor
  · intro found
    unfold ofName? at found
    split at found
    · cases found
      assumption
    · split at found
      · cases found
        assumption
      · cases found
  · rintro rfl
    exact ofName?_name kind

/-- A kind is read where it is meant. -/
theorem parse_eq_ok_iff : parse given = .ok kind ↔ IsMeant given kind := by
  rw [IsMeant, ← ofName?_eq_some_iff, parse]
  cases ofName? (Text.trimmed given.shown).toLower <;> simp

/-- Where no kind is read, none is meant, and that is reported. -/
theorem parse_eq_error {failure : Failure} (refused : parse given = .error failure) :
    (∀ kind, ¬ IsMeant given kind) ∧ failure = .deployment (.unsupportedProxyKind given.shown) := by
  refine ⟨fun kind meant => ?_, ?_⟩
  · rw [parse_eq_ok_iff.2 meant] at refused
    cases refused
  · unfold parse at refused
    split at refused
    · cases refused
    · cases refused
      rfl

end ProxyKind

namespace Gate

variable {gate : Gate} {contract network sender : String} {initData : Bytes} {given : Json}
  {admin made : Option String} {kind : ProxyKind} {implementation proxy : Address}
  {arguments : List Argument} {books after : Books} {trace : Trace collaborators}
  {failure : Failure}

open ProxyKind (IsMeant)

/-- **The first objection** to what a caller asks for. -/
inductive Objected [AddressRule] (contract : String) (given : Json) (admin : Option String) :
    Failure → Prop where
  | unknown (unmeant : ∀ kind, ¬ IsMeant given kind) :
      Objected contract given admin (.deployment (.unsupportedProxyKind given.shown))
  | unowned (meant : IsMeant given .transparent) (blank : admin.getD "" = "") :
      Objected contract given admin (.deployment (.adminRequiredFor contract))
  | misowned {kind : ProxyKind} {text : String} (meant : IsMeant given kind)
      (named : admin = some text) (filled : text ≠ "") (wrong : Address.ofText? text = none) :
      Objected contract given admin (.value (.invalidAddress text))

/-- **What is asked for**, where there is no objection: a kind, and what the constructor of the
proxy is given once the contract has an address. -/
inductive Accepted [AddressRule] (given : Json) (admin : Option String) (initData : Bytes) :
    ProxyKind → (Address → List Argument) → Prop where
  | uups (meant : IsMeant given .uups)
      (unowned : admin.getD "" = "" ∨ ∃ owner, admin.bind Address.ofText? = some owner) :
      Accepted given admin initData .uups fun implementation =>
        [.text implementation.text, .data initData]
  | transparent {owner : Address} (meant : IsMeant given .transparent)
      (owned : admin.bind Address.ofText? = some owner) :
      Accepted given admin initData .transparent fun implementation =>
        [.text implementation.text, .text owner.text, .data initData]

/-- An administrator that is absent or empty is none. -/
theorem filter_eq_none_iff : admin.filter (!·.isEmpty) = none ↔ admin.getD "" = "" := by
  cases admin <;> simp [Option.filter]

/-- An administrator with a name is kept. -/
theorem filter_some_of_filled {text : String} (filled : text ≠ "") :
    (some text).filter (!·.isEmpty) = some text := by
  simp [Option.filter, filled]

/-- An objection is what the checks of a deployment fail with. -/
theorem Objected.fails [AddressRule] (objected : Objected contract given admin failure) :
    (ProxyKind.parse given >>= fun kind => ownerOf contract kind admin) = .error failure := by
  cases objected with
  | unknown unmeant =>
    cases parsed : ProxyKind.parse given with
    | ok kind => exact absurd (ProxyKind.parse_eq_ok_iff.1 parsed) (unmeant kind)
    | error failure => rw [(ProxyKind.parse_eq_error parsed).2]; rfl
  | unowned meant blank =>
    rw [ProxyKind.parse_eq_ok_iff.2 meant]
    change ownerOf contract .transparent admin = _
    rw [ownerOf, filter_eq_none_iff.2 blank]
    rfl
  | @misowned kind text meant named filled wrong =>
    rw [ProxyKind.parse_eq_ok_iff.2 meant]
    change ownerOf contract kind admin = _
    rw [ownerOf, named, filter_some_of_filled filled]
    simp [Address.parse, wrong]

/-- The administrator that is given is objected to, or accepted with the arguments of the
constructor. -/
theorem ownerOf_cases [AddressRule] (meant : IsMeant given kind) :
    (∃ failure, ownerOf contract kind admin = .error failure ∧
      Objected contract given admin failure) ∨
    ∃ owner arguments, ownerOf contract kind admin = .ok owner ∧
      Accepted given admin initData kind arguments ∧
      ∀ implementation : Address, kind.constructorArguments implementation.text initData
        (owner.map Address.text) = .ok (arguments implementation) := by
  cases filled : admin.filter (!·.isEmpty) with
  | none =>
    rw [filter_eq_none_iff] at filled
    cases kind with
    | uups =>
      refine .inr ⟨none, _, ?_, .uups meant (.inl filled), fun _ => rfl⟩
      rw [ownerOf, filter_eq_none_iff.2 filled]
      rfl
    | transparent =>
      refine .inl ⟨_, ?_, .unowned meant filled⟩
      rw [ownerOf, filter_eq_none_iff.2 filled]
      rfl
  | some text =>
    obtain ⟨rfl, nonempty⟩ := Option.filter_eq_some_iff.1 filled
    have filledText : text ≠ "" := by simpa using nonempty
    cases named : Address.ofText? text with
    | none =>
      refine .inl ⟨_, ?_, .misowned meant rfl filledText named⟩
      rw [ownerOf, filled]
      simp [Address.parse, named]
    | some owner =>
      have read : ownerOf contract kind (some text) = .ok (some owner) := by
        rw [ownerOf, filled]
        simp [Address.parse, named]
      cases kind with
      | uups => exact .inr ⟨_, _, read, .uups meant (.inr ⟨owner, named⟩), fun _ => rfl⟩
      | transparent =>
        refine .inr ⟨_, _, read, .transparent meant named, fun implementation => ?_⟩
        simp [ProxyKind.constructorArguments, Address.text_ne_empty]

/-! ## What is deployed -/

/-- Who administers a new proxy: nobody, or whom the chain tells when it is asked. -/
inductive Administered (proxy : Address) : ProxyKind → Option String →
    List (Address × Option String) → Prop where
  | uups : Administered proxy .uups none []
  | transparent (made : Option String) : Administered proxy .transparent made [(proxy, made)]

/-- A proxy that was placed: the addresses of the contract and of the proxy, and the
administrator. -/
structure Placed where
  implementation : Address
  proxy : Address
  admin : Option String

/-- **What is loaded and deployed for a proxy, and the addresses that are given**: the contract
itself, without arguments, and then the proxy of its kind, with the address of the contract. The
proxy is placed if both have addresses, and it was told who administers it if anybody does. -/
inductive Deploying (contract : String) (kind : ProxyKind) (arguments : Address → List Argument)
    (sender : String) : Told → Option Placed → Prop where
  | unloaded : Deploying contract kind arguments sender ⟨[], [], [], []⟩ none
  | undeployed (artifact : Artifact) :
      Deploying contract kind arguments sender
        ⟨[(contract, artifact)], [(artifact, [], sender)], [], []⟩ none
  | proxyUnloaded (artifact : Artifact) (implementation : Address) :
      Deploying contract kind arguments sender
        ⟨[(contract, artifact)], [(artifact, [], sender)], [implementation], []⟩ none
  | proxyUndeployed (artifact artifact' : Artifact) (implementation : Address) :
      Deploying contract kind arguments sender
        ⟨[(contract, artifact), (kind.artifactName, artifact')],
          [(artifact, [], sender), (artifact', arguments implementation, sender)],
          [implementation], []⟩ none
  | unadministered (artifact artifact' : Artifact) (implementation proxy : Address)
      (needed : kind = .transparent) :
      Deploying contract kind arguments sender
        ⟨[(contract, artifact), (kind.artifactName, artifact')],
          [(artifact, [], sender), (artifact', arguments implementation, sender)],
          [implementation, proxy], []⟩ none
  | placed (artifact artifact' : Artifact) {implementation proxy : Address} {admin : Option String}
      {answers : List (Address × Option String)}
      (administered : Administered proxy kind admin answers) :
      Deploying contract kind arguments sender
        ⟨[(contract, artifact), (kind.artifactName, artifact')],
          [(artifact, [], sender), (artifact', arguments implementation, sender)],
          [implementation, proxy], answers⟩ (some ⟨implementation, proxy, admin⟩)

/-- A failure to create a contract: it is not loaded, or it is deployed and no address is given. -/
theorem told_of_ends_create_error [AddressRule]
    (ended : (create contract arguments sender).Ends books trace (.error failure) after) :
    after = books ∧ (told trace = ⟨[], [], [], []⟩ ∨ ∃ artifact,
      told trace = ⟨[(contract, artifact)], [(artifact, arguments, sender)], [], []⟩) := by
  obtain ⟨same, quiet⟩ := of_ends_create_error ended
  have ungiven := List.filterMap_eq_nil_iff.2 fun exchange member => (quiet exchange member).1
  refine ⟨same, ?_⟩
  rw [create, ends_ask_bind] at ended
  rcases ended with ⟨artifact, _, rfl, rest⟩ | ⟨_, rfl, -, -⟩
  · right
    refine ⟨artifact, ?_⟩
    rw [told, ungiven]
    rcases ends_ask_bind.1 rest with ⟨text, _, rfl, read⟩ | ⟨_, rfl, -, -⟩
    · obtain ⟨rfl, -, -⟩ := ends_lift.1 read
      rfl
    · rfl
  · exact .inl rfl

/-- What is told where a contract is created. -/
theorem told_of_ends_create_ok [AddressRule] {address : Address}
    (ended : (create contract arguments sender).Ends books trace (.ok address) after) :
    after = books ∧ ∃ artifact,
      told trace = ⟨[(contract, artifact)], [(artifact, arguments, sender)], [address], []⟩ := by
  obtain ⟨same, artifact, text, parsed, rfl⟩ := ends_create_ok.1 ended
  have named : deployed? (exchange (.deploy artifact arguments sender) books.disk (.ok text)) =
      some address := by
    change (Address.parse text).toOption = _
    rw [parsed]
    rfl
  refine ⟨same, artifact, ?_⟩
  rw [told, List.filterMap_cons_none (f := deployed?) rfl, List.filterMap_cons_some named]
  rfl

/-- Asking for the administrator of a new proxy: it is told, or the failure is that of the chain. -/
theorem told_of_ends_createdAdmin [AddressRule] {result : Except Failure (Option String)}
    (ended : (createdAdmin kind proxy).Ends books trace result after) :
    after = books ∧
      ((∃ made answers, result = .ok made ∧ told trace = ⟨[], [], [], answers⟩ ∧
          Administered proxy kind made answers) ∨
        ∃ failure, result = .error failure ∧ kind = .transparent ∧
          told trace = ⟨[], [], [], []⟩) := by
  cases kind with
  | uups =>
    obtain ⟨rfl, rfl, rfl⟩ := ends_pure.1 ended
    exact ⟨rfl, .inl ⟨none, [], rfl, rfl, .uups⟩⟩
  | transparent =>
    obtain ⟨rfl, rfl⟩ := ends_ask.1 ended
    cases result with
    | ok made => exact ⟨rfl, .inl ⟨made, _, rfl, rfl, .transparent made⟩⟩
    | error failure => exact ⟨rfl, .inr ⟨failure, rfl, rfl, rfl⟩⟩

/-! ## What is recorded -/

/-- No questions of a deployment are put. -/
abbrev Undealt {α : Type} (flow : Flow α) : Prop := flow.Asks (·.isDealing = false)

theorem undealt_announce (event : Event) : Undealt (announce event) := by
  refine ⟨fun ended exchange member => ?_⟩
  obtain ⟨reply, rfl, -, -⟩ := ends_announce.1 ended
  rw [List.mem_singleton.1 member]
  rfl

theorem undealt_label (address name : String) : Undealt (label address name) :=
  asks_bind (asks_ask rfl) fun _ => undealt_announce _

/-- Naming a new proxy deals with nothing. -/
theorem undealt_nameProxy (contract network : String) (implementation proxy : Address)
    (kind : ProxyKind) (made : Option String) :
    Undealt (nameProxy contract network implementation proxy kind made) := by
  refine asks_bind (undealt_label _ _) fun _ => asks_bind (undealt_label _ _) fun _ => ?_
  refine asks_bind ?_ fun _ => undealt_announce _
  unfold labelAdmin
  split
  · exact undealt_label _ _
  · exact asks_pure _

/-- The books after a baseline was to be recorded. -/
inductive BaselineLeft (gate : Gate) (contract network : String) (books : Books) :
    Books → Prop where
  | untried : BaselineLeft gate contract network books books
  | tried (layout : Layout) :
    BaselineLeft gate contract network books
      { books with disk :=
          ((gate.store.write books.now .baseline contract network layout).run.run books.disk).2 }

/-- Recording a baseline leaves the books as told, and deals with nothing. -/
theorem left_of_ends_recordBaseline {result : Except Failure Unit}
    (ended : (gate.recordBaseline contract network).Ends books trace result after) :
    BaselineLeft gate contract network books after ∧
      ∀ exchange ∈ trace, exchange.call.question.isDealing = false := by
  rw [recordBaseline] at ended
  split at ended
  · rcases ends_ask_bind.1 ended with ⟨layout, rest, rfl, writing⟩ | ⟨failure, rfl, -, rfl⟩
    · rw [ends_get_bind] at writing
      have tried {written : Except Failure Path} {disk : Disk}
          (wrote : (gate.store.write books.now .baseline contract network layout).run.run
            books.disk = (written, disk)) :
          BaselineLeft gate contract network books { books with disk := disk } := by
        cases congrArg Prod.snd wrote
        exact .tried layout
      have silent : BaselineLeft gate contract network books after ∧ rest = [] := by
        rcases ends_onDisk_bind.1 writing with ⟨path, disk, written, finishing⟩ |
          ⟨failure, disk, written, rfl, -, rfl⟩
        · obtain ⟨rfl, -, rfl⟩ := ends_pure.1 finishing
          exact ⟨tried written, rfl⟩
        · exact ⟨tried written, rfl⟩
      obtain ⟨left, rfl⟩ := silent
      exact ⟨left, by simp [exchange, Question.isDealing]⟩
    · exact ⟨.untried, by simp [exchange, Question.isDealing]⟩
  · obtain ⟨rfl, -, rfl⟩ := ends_pure.1 ended
    exact ⟨.untried, fun _ absent => absurd absent List.not_mem_nil⟩

/-- **A record is added** to the log by a deployment, if that can be read. The log has it
afterwards, unless a layout is written in its place. -/
def Adds [AddressRule] (gate : Gate) (contract network : String) (record : DeploymentRecord)
    (books after : Books) : Prop :=
  ∃ row, DeploymentLog.rowOf record = .ok row ∧ Books.Extends [row] books after ∧
    ((∀ place ∈ books.log.place?, ¬ gate.store.Touches .baseline contract network place) →
      after.ledger = books.ledger.map (· ++ [row]))

/-- Nothing is added where the log cannot be read. -/
theorem adds_of_unreadable [AddressRule] (unreadable : books.ledger = .error failure) :
    gate.Adds contract network
      (proxyRecord contract network implementation proxy kind made books.now) books books := by
  refine ⟨_, rowOf_proxyRecord .., ⟨id, fun rows readable => ?_⟩, fun _ => ?_⟩
  · cases unreadable.symm.trans readable
  · rw [unreadable]
    rfl

/-- A record is added before the baseline is recorded, however that goes. -/
theorem adds_of_left [AddressRule] {rows : Ledger} (readable : books.ledger = .ok rows)
    (left : BaselineLeft gate contract network
      (proxyBooks books contract network implementation proxy kind made) after) :
    gate.Adds contract network
      (proxyRecord contract network implementation proxy kind made books.now) books after := by
  have recorded : Books.Extends [(proxyRecord contract network implementation proxy kind made
      books.now).row] books (proxyBooks books contract network implementation proxy kind made) :=
    (Books.Extends.recorded books _).congr rfl rfl
  have ledger := ledger_proxyBooks books contract network implementation proxy kind made
  refine ⟨_, rowOf_proxyRecord .., ?_⟩
  cases left with
  | untried => exact ⟨recorded, fun _ => ledger⟩
  | tried layout =>
    refine ⟨recorded.trans (.write ..), fun apart => ?_⟩
    rw [readable] at ledger ⊢
    rw [← (keeps_proxyBooks books contract network implementation proxy kind made).place] at apart
    exact LogConnection.rows_keeps (gate.store.keeps_write ..) apart ledger

/-- **Recording a new proxy** adds its record, and asks nothing more about deployments. -/
theorem adds_of_ends_bookProxy [AddressRule] {result : Except Failure Address}
    (ended : (gate.bookProxy contract network implementation proxy kind made).Ends books trace
      result after) :
    (∀ exchange ∈ trace, exchange.call.question.isDealing = false) ∧
      gate.Adds contract network
        (proxyRecord contract network implementation proxy kind made books.now) books after ∧
      ∀ returned, result = .ok returned → returned = proxy := by
  have silent (failure : Failure) (returned : Address)
      (same : Except.error failure = .ok returned) : returned = proxy := by
    cases same
  rw [bookProxy, ends_stamped_bind] at ended
  rcases (ends_appendRecord_bind (rowOf_proxyRecord ..)).1 ended with ⟨rows, readable, counting⟩ |
    ⟨failure, unreadable, rfl, rfl, rfl⟩
  case inr =>
    exact ⟨fun _ absent => absurd absent List.not_mem_nil, adds_of_unreadable unreadable,
      silent failure⟩
  rw [ends_count_bind] at counting
  have untold := undealt_nameProxy contract network implementation proxy kind made
  rcases ends_bind.1 counting with ⟨_, _, names, _, naming, keeping, rfl⟩ | ⟨failure, naming, rfl⟩
  case inr =>
    have quiet := untold.meant naming
    obtain ⟨rfl, -, -⟩ := named_of_ends_nameProxy naming
    exact ⟨quiet, adds_of_left readable .untried, silent failure⟩
  have quiet := untold.meant naming
  obtain ⟨rfl, -, -⟩ := named_of_ends_nameProxy naming
  rcases ends_bind.1 keeping with ⟨_, _, kept, _, baseline, returning, rfl⟩ |
    ⟨failure, baseline, rfl⟩
  · obtain ⟨left, unasked⟩ := left_of_ends_recordBaseline baseline
    obtain ⟨rfl, rfl, rfl⟩ := ends_pure.1 returning
    refine ⟨fun exchange member => ?_, adds_of_left readable left, ?_⟩
    · rw [List.append_nil] at member
      exact (List.mem_append.1 member).elim (quiet exchange) (unasked exchange)
    · rintro _ ⟨⟩
      rfl
  · obtain ⟨left, unasked⟩ := left_of_ends_recordBaseline baseline
    refine ⟨fun exchange member => ?_, adds_of_left readable left, silent failure⟩
    exact (List.mem_append.1 member).elim (quiet exchange) (unasked exchange)

/-! ## How deployments go -/

/-- **How a deployment goes** that there is no objection to: the proxy is recorded if it was placed,
and else nothing is kept. -/
inductive Placing [AddressRule] (gate : Gate) (contract network sender : String) (kind : ProxyKind)
    (arguments : Address → List Argument) (books : Books) (trace : Trace collaborators) :
    Except Failure Address → Books → Prop where
  | unplaced (failure : Failure)
      (deploying : Deploying contract kind arguments sender (told trace) none) :
      Placing gate contract network sender kind arguments books trace (.error failure) books
  | placed {implementation proxy : Address} {admin : Option String}
      {result : Except Failure Address} {after : Books}
      (deploying : Deploying contract kind arguments sender (told trace)
        (some ⟨implementation, proxy, admin⟩))
      (adds : gate.Adds contract network
        (proxyRecord contract network implementation proxy kind admin books.now) books after)
      (returned : ∀ address, result = .ok address → address = proxy) :
      Placing gate contract network sender kind arguments books trace result after

theorem placing_of_ends [AddressRule] {arguments : Address → List Argument} {owner : Option Address}
    {result : Except Failure Address}
    (taken : ∀ implementation : Address, kind.constructorArguments implementation.text initData
      (owner.map Address.text) = .ok (arguments implementation))
    (ended : (do
      let implementation ← create contract [] sender
      let arguments ← Flow.lift
        (kind.constructorArguments implementation.text initData (owner.map Address.text))
      let proxy ← create kind.artifactName arguments sender
      let made ← createdAdmin kind proxy
      gate.bookProxy contract network implementation proxy kind made).Ends books trace result
        after) :
    Placing gate contract network sender kind arguments books trace result after := by
  rcases ends_bind.1 ended with ⟨implementation, _, first, _, created, arguing, rfl⟩ |
    ⟨failure, uncreated, rfl⟩
  case inr =>
    obtain ⟨rfl, tells | ⟨artifact, tells⟩⟩ := told_of_ends_create_error uncreated
    · exact .unplaced failure (tells ▸ .unloaded)
    · exact .unplaced failure (tells ▸ .undeployed artifact)
  obtain ⟨rfl, artifact, tells⟩ := told_of_ends_create_ok created
  rw [taken] at arguing
  rcases ends_lift_bind.1 arguing with ⟨_, ⟨⟩, proxying⟩ | ⟨_, ⟨⟩, -⟩
  rcases ends_bind.1 proxying with ⟨proxy, _, second, _, created', administering, rfl⟩ |
    ⟨failure, uncreated, rfl⟩
  case inr =>
    obtain ⟨rfl, tells' | ⟨artifact', tells'⟩⟩ := told_of_ends_create_error uncreated
    · refine .unplaced failure ?_
      rw [told_append, tells, tells']
      exact .proxyUnloaded artifact implementation
    · refine .unplaced failure ?_
      rw [told_append, tells, tells']
      exact .proxyUndeployed artifact artifact' implementation
  obtain ⟨rfl, artifact', tells'⟩ := told_of_ends_create_ok created'
  rcases ends_bind.1 administering with ⟨made, _, third, rest, asked, booking, rfl⟩ |
    ⟨failure, asked, rfl⟩
  case inr =>
    obtain ⟨rfl, ⟨_, _, ⟨⟩, -⟩ | ⟨_, ⟨⟩, needed, silent⟩⟩ := told_of_ends_createdAdmin asked
    refine .unplaced failure ?_
    rw [told_append, told_append, tells, tells', silent]
    exact .unadministered artifact artifact' implementation proxy needed
  obtain ⟨rfl, ⟨_, answers, ⟨⟩, tells'', administered⟩ | ⟨_, ⟨⟩, -⟩⟩ :=
    told_of_ends_createdAdmin asked
  obtain ⟨undealt, adds, returned⟩ := adds_of_ends_bookProxy booking
  refine .placed ?_ adds returned
  rw [told_append, told_append, told_append, tells, tells', tells'', told_of_undealt undealt]
  simp only [Told.append, List.nil_append, List.append_nil]
  exact .placed artifact artifact' administered

/-- **Deploying a proxy checks before it spends, and records what it did.** The first objection to
what is asked for ends it, before anything is asked or kept. Else the contract is deployed without
arguments, then the proxy of the kind with the address that the contract got, and no more. The
record of the proxy, with both addresses, the kind and the administrator that the chain told of, is
added to the log if the chain gave both addresses and told who administers the proxy. Nothing is
kept else. -/
theorem proxy_deployments [AddressRule] {result : Except Failure Address}
    (ended : (gate.deployProxy contract initData given admin network sender).Ends books trace result
      after) :
    (∀ failure, Objected contract given admin failure →
      trace = [] ∧ result = .error failure ∧ after = books) ∧
    ((∀ failure, ¬ Objected contract given admin failure) → ∃ kind arguments,
      Accepted given admin initData kind arguments ∧
      Placing gate contract network sender kind arguments books trace result after) := by
  rw [deployProxy_eq_bookProxy] at ended
  rcases ends_lift_bind.1 ended with ⟨kind, known, owning⟩ | ⟨failure, refused, rfl, rfl, rfl⟩
  case inr =>
    obtain ⟨unmeant, rfl⟩ := ProxyKind.parse_eq_error refused
    refine ⟨fun failure objected => ?_, fun unobjected => absurd (.unknown unmeant) (unobjected _)⟩
    have fails := objected.fails
    rw [refused] at fails
    cases fails
    exact ⟨rfl, rfl, rfl⟩
  have checks : (ProxyKind.parse given >>= fun kind => ownerOf contract kind admin) =
      ownerOf contract kind admin := by
    rw [known]
    rfl
  have cases := @ownerOf_cases contract initData given admin kind _
    (ProxyKind.parse_eq_ok_iff.1 known)
  rcases ends_lift_bind.1 owning with ⟨owner, owned, creating⟩ | ⟨failure, refused, rfl, rfl, rfl⟩
  · obtain ⟨_, same, -⟩ | ⟨_, arguments, same, accepted, taken⟩ := cases
    · cases same.symm.trans owned
    cases same.symm.trans owned
    refine ⟨fun failure objected => ?_, fun _ => ?_⟩
    · cases owned.symm.trans (checks.symm.trans objected.fails)
    · exact ⟨kind, arguments, accepted, placing_of_ends taken creating⟩
  · obtain ⟨_, same, objected⟩ | ⟨_, _, same, -⟩ := cases
    case inr => cases same.symm.trans refused
    cases same.symm.trans refused
    refine ⟨fun failure other => ?_, fun unobjected => absurd objected (unobjected _)⟩
    cases refused.symm.trans (checks.symm.trans other.fails)
    exact ⟨rfl, rfl, rfl⟩

/-- A transparent proxy is deployed in the prepared workspace, by a caller who writes its kind with
a capital and a blank. -/
theorem proxy_deployments_prepared : ∃ trace after kind arguments,
    (prepared.deployProxy "Token" [] (.string "Transparent ") (some UpgradeOrder.prepared.sender)
      "anvil" UpgradeOrder.prepared.sender).Ends .prepared trace (.ok Address.preparedProxy) after ∧
    Accepted (.string "Transparent ") (some UpgradeOrder.prepared.sender) [] kind arguments ∧
    Placing prepared "Token" "anvil" UpgradeOrder.prepared.sender kind arguments .prepared trace
      (.ok Address.preparedProxy) after := by
  have meant : IsMeant (.string "Transparent ") .transparent := by decide +kernel
  have known := ProxyKind.parse_eq_ok_iff.2 meant
  have owned : ownerOf "Token" .transparent (some UpgradeOrder.prepared.sender) =
      .ok (some Address.preparedSender) := by rfl
  have taken : ProxyKind.transparent.constructorArguments Address.preparedSender.text []
      ((some Address.preparedSender).map Address.text) =
        .ok [.text Address.preparedSender.text, .text Address.preparedSender.text, .data []] := by
    simp [ProxyKind.constructorArguments, Address.text_ne_empty]
  obtain ⟨trace, after, ended, -, -⟩ := exists_deployProxy_of_parse Books.isPrepared_prepared known
    owned taken (ends_ask.2 ⟨rfl, rfl⟩ : (createdAdmin .transparent Address.preparedProxy).Ends
      .prepared _ (.ok (some Address.preparedSender.text)) .prepared) (.empty none)
  have unobjected (failure : Failure) : ¬ Objected "Token" (.string "Transparent ")
      (some UpgradeOrder.prepared.sender) failure := by
    intro objected
    have fails := objected.fails
    rw [known] at fails
    cases owned.symm.trans fails
  obtain ⟨kind, arguments, accepted, placing⟩ := (proxy_deployments ended).2 unobjected
  exact ⟨trace, after, kind, arguments, ended, accepted, placing⟩

end Gate

end UpgradeGate
