import UpgradeGate.Proofs.Gate.Installation
import UpgradeGate.Proofs.Workflow.Connected
import UpgradeGate.Proofs.Workflow.Questions

/-!
# The transactions of an upgrade

At a node, an upgrade sends nothing without an override, and with one at most two transactions: one
that creates the new contract, and one that lets the proxy point to it. The second is sent only
where the first is known to have succeeded, at the foretold address (`Gate.Launched`). An upgrade
that returns was seen in the slot of the proxy, and a transaction that is known to have failed ends
it (`Gate.run_transactions`).
-/

namespace UpgradeGate

open UpgradeGate.Flow UpgradeGate.Node

namespace Gate

variable {gate : Gate} {order : UpgradeOrder} {proxy : Address}
  {previous : Option DeploymentRecord} {books after : Books} {told : Trace collaborators}
  {patience : Nat} {labels labels' : Labels} {calls : Trace nodes}
  {contract network sender : String} {arguments : List Argument}

theorem still_of_lookups (lookups : ∀ exchange ∈ told, exchange.call.question.isLookup = true) :
    ∀ exchange ∈ told, exchange.call.question.isSending = false := by
  intro exchange member
  have lookup := lookups exchange member
  cases question : exchange.call.question <;> first | rfl | (rw [question] at lookup; cases lookup)

/-! ## Creating a contract -/

/-- What a deployment comes to at a node: nothing, where it fails before, and else one transaction.
It returns where that succeeded and its receipt tells an address. -/
inductive Created [AddressRule] (patience : Nat) (arguments : List Argument) (sender : String) :
    Trace nodes → Except Failure Address → Prop where
  | unsent (failure : Failure) : Created patience arguments sender [] (.error failure)
  | failed {artifact : Artifact} {account : Address} {calls : Trace nodes} {failure : Failure}
      (parsed : Address.parse sender = .ok account)
      (sending : Sending patience (creation artifact arguments account)
        ("deploy " ++ artifact.name) calls (.error failure)) :
      Created patience arguments sender calls (.error failure)
  | lost {artifact : Artifact} {account : Address} {calls : Trace nodes} {receipt : Receipt}
      (failure : Failure) (parsed : Address.parse sender = .ok account)
      (sending : Sending patience (creation artifact arguments account)
        ("deploy " ++ artifact.name) calls (.ok receipt)) :
      Created patience arguments sender calls (.error failure)
  | landed {artifact : Artifact} {account : Address} {calls : Trace nodes} {receipt : Receipt}
      {address : Address} (parsed : Address.parse sender = .ok account)
      (sending : Sending patience (creation artifact arguments account)
        ("deploy " ++ artifact.name) calls (.ok receipt))
      (located : Address.ofJson receipt.contract = .ok address) :
      Created patience arguments sender calls (.ok address)

/-- A contract that is created through a node is created by one transaction. -/
theorem created_of_ends_create [AddressRule] {result : Except Failure Address}
    (ended : (create contract arguments sender).Ends books told result after)
    (carries : Carries patience labels told calls labels') :
    Created patience arguments sender calls result := by
  rw [create] at ended
  rcases ends_ask_bind.1 ended with ⟨artifact, _, rfl, deploying⟩ | ⟨failure, rfl, rfl, -⟩
  case inr =>
    obtain ⟨rfl, -⟩ := (carries_offChain_cons rfl).1 carries
    exact .unsent failure
  rw [carries_offChain_cons rfl] at carries
  rcases ends_ask_bind.1 deploying with ⟨text, _, rfl, reading⟩ | ⟨failure, rfl, rfl, -⟩
  · obtain ⟨rfl, rfl, -⟩ := ends_lift.1 reading
    obtain ⟨-, ⟨_, -, -, ⟨⟩⟩ | ⟨account, sent, parsed, sending, same⟩⟩ :=
      answers_deploy.1 (carries_singleton.1 carries)
    cases sent with
    | error => cases same
    | ok receipt =>
      cases located : Address.ofJson receipt.contract with
      | error failure => simp [Except.bind, located, Except.map] at same
      | ok address =>
        simp only [Except.bind, located, Except.map, Except.ok.injEq] at same
        rw [same, Address.parse_text]
        exact .landed parsed sending located
  · obtain ⟨-, ⟨_, -, rfl, -⟩ | ⟨account, sent, parsed, sending, same⟩⟩ :=
      answers_deploy.1 (carries_singleton.1 carries)
    · exact .unsent failure
    cases sent with
    | error _ =>
      cases same
      exact .failed parsed sending
    | ok receipt => exact .lost failure parsed sending

/-- What a contract that stands alone comes to at a node: its creation, and nothing else. -/
theorem RawDeployment.created [AddressRule] {result : Except Failure Address}
    (deployment : RawDeployment contract arguments network sender books told result after)
    (carries : Carries patience labels told calls labels') :
    Created patience arguments sender calls result := by
  -- what fails after the contract was created fails the deployment
  have spoiled : ∀ {calls address} (failure : Failure),
      Created patience arguments sender calls (.ok address) →
      Created patience arguments sender calls (.error failure) := by
    intro calls address failure created
    cases created with
    | landed parsed sending => exact .lost failure parsed sending
  cases deployment with
  | undeployed failed => exact created_of_ends_create failed carries
  | unlogged created => exact spoiled _ (created_of_ends_create created carries)
  | unlabelled failure created =>
    obtain ⟨early, _, _, creating, naming, rfl⟩ := carries_append.1 carries
    rw [trace_of_answers_label (carries_singleton.1 naming), List.append_nil]
    exact spoiled _ (created_of_ends_create created creating)
  | deployed named told created =>
    obtain ⟨early, _, _, creating, ⟨_, _, _, naming, telling, rfl⟩, rfl⟩ :=
      carries_append.1 carries
    obtain ⟨rfl, -⟩ := (carries_offChain_cons rfl).1 ((carries_offChain_cons rfl).1 telling)
    rw [trace_of_answers_label naming, List.append_nil, List.append_nil]
    exact created_of_ends_create created creating

/-! ## The fast path -/

/-- An address is the foretold one: that of the next contract of an account by the transactions that
were counted, or the one that the gate was set up with. -/
def Foretells [AddressRule] (gate : Gate) (sender : String) (account implementation : Address)
    (counted : Trace nodes) : Prop :=
  match gate.predictor with
  | .creation => ∃ nonce, Address.predict (.string sender) nonce = .ok implementation ∧
    counted = [⟨.transactionCount account, .ok nonce⟩]
  | .fixed address => Address.sameAccount address implementation.text = true ∧ counted = []

theorem Foretells.reads [AddressRule] {account implementation : Address} {counted : Trace nodes}
    (foretells : gate.Foretells sender account implementation counted) : Reads counted := by
  unfold Foretells at foretells
  split at foretells
  · obtain ⟨nonce, -, rfl⟩ := foretells
    exact reads_singleton _ rfl
  · obtain ⟨-, rfl⟩ := foretells
    exact reads_nil

/-- All that has to come before an upgrade is sent: the new contract was created by a transaction
that is known to have succeeded, at the address that was foretold before. -/
structure Launched [AddressRule] (gate : Gate) (order : UpgradeOrder)
    (previous : Option DeploymentRecord)
    (patience : Nat) (calls : Trace nodes) (account : Address) (admin : Option Address)
    (artifact : Artifact) (implementation : Address) : Prop where
  sender : Address.parse order.sender = .ok account
  resolves : ResolvesTo order.admin previous admin
  calls : ∃ checked counted hash receipt, Reads checked ∧
    gate.Foretells order.sender account implementation counted ∧
    isOne receipt.status = true ∧ Address.ofJson receipt.contract = .ok implementation ∧
    calls = checked ++ (counted ++ mined patience (creation artifact [] account) hash receipt)

/-- What the fast path comes to at a node. -/
inductive Dealings [AddressRule] (gate : Gate) (order : UpgradeOrder) (proxy : Address)
    (previous : Option DeploymentRecord) (patience : Nat) :
    Trace nodes → Except Failure Attempt → Prop where
  | stopped {early creating : Trace nodes} {outcome : Except Failure Address} {failure : Failure}
      (reads : Reads early) (created : Created patience [] order.sender creating outcome)
      (cause : ∀ other, outcome = .error other → failure = other) :
      Dealings gate order proxy previous patience (early ++ creating) (.error failure)
  | refused {early sent : Trace nodes} {account : Address} {admin : Option Address}
      {artifact : Artifact} {implementation : Address} {failure : Failure}
      (launched : Launched gate order previous patience early account admin artifact implementation)
      (sending : Sending patience
        (upgradeCall proxy implementation (order.initData.getD []) account admin)
        ("upgrade " ++ proxy.text) sent (.error failure)) :
      Dealings gate order proxy previous patience (early ++ sent) (.error failure)
  | unfollowed {early sent late : Trace nodes} {account : Address} {admin : Option Address}
      {artifact : Artifact} {implementation : Address} {receipt : Receipt} (failure : Failure)
      (launched : Launched gate order previous patience early account admin artifact implementation)
      (sending : Sending patience
        (upgradeCall proxy implementation (order.initData.getD []) account admin)
        ("upgrade " ++ proxy.text) sent (.ok receipt))
      (reads : Reads late) :
      Dealings gate order proxy previous patience (early ++ (sent ++ late)) (.error failure)
  | followed {early : Trace nodes} {account : Address} {admin : Option Address}
      {artifact : Artifact} {implementation : Address} {hash word : Bytes} {receipt : Receipt}
      (attempt : Attempt)
      (launched : Launched gate order previous patience early account admin artifact implementation)
      (succeeded : isOne receipt.status = true)
      (follows : word.drop (word.length - 20) = implementation.bytes) :
      Dealings gate order proxy previous patience
        (early ++ (mined patience
          (upgradeCall proxy implementation (order.initData.getD []) account admin) hash receipt ++
          [⟨.storage proxy implementationSlot, .ok word⟩])) (.ok attempt)

/-- The call that lets the proxy point to the implementation comes to one transaction. -/
theorem sending_of_installCall [AddressRule] {implementation account : Address}
    {admin : Option Address}
    {disk : Disk} {reply : Except Failure Unit} {later : Trace collaborators}
    (parsed : Address.parse order.sender = .ok account)
    (carries : Carries patience labels
      (installCall order proxy implementation admin disk reply :: later) calls labels') :
    ∃ sent first middle rest, Sending patience
        (upgradeCall proxy implementation (order.initData.getD []) account admin)
        ("upgrade " ++ proxy.text) first sent ∧
      reply = sent.bind (fun _ => .ok ()) ∧ Carries patience middle later rest labels' ∧
      calls = first ++ rest := by
  have sending : ∀ {data first middle}, Answers patience
      (.upgradeAndCall proxy implementation data order.sender admin) labels first reply middle →
      ∃ sent, Sending patience (upgradeCall proxy implementation data account admin)
        ("upgrade " ++ proxy.text) first sent ∧ reply = sent.bind (fun _ => .ok ()) := by
    intro data first middle answers
    obtain ⟨-, ⟨_, unparsed, -⟩ | ⟨_, sent, valid, sending, same⟩⟩ :=
      answers_upgradeAndCall.1 answers
    · cases parsed.symm.trans unparsed
    · cases parsed.symm.trans valid
      exact ⟨sent, sending, same⟩
  unfold installCall at carries
  cases given : order.initData with
  | none =>
    rw [given] at carries
    obtain ⟨first, middle, rest, answers, further, rfl⟩ := carries
    obtain ⟨sent, sending, same⟩ := @sending [] _ _ answers
    exact ⟨sent, first, middle, rest, sending, same, further, rfl⟩
  | some data =>
    rw [given] at carries
    obtain ⟨first, middle, rest, answers, further, rfl⟩ := carries
    obtain ⟨sent, sending, same⟩ := sending answers
    exact ⟨sent, first, middle, rest, sending, same, further, rfl⟩

/-- The node was asked for what foretells the address. -/
theorem Foreseen.foretells [AddressRule] {checked foretold : Trace collaborators}
    {admin : Option Address} {predicted : String} {implementation account : Address}
    (foreseen : Foreseen gate order proxy previous books checked foretold admin predicted)
    (same : Address.sameAccount predicted implementation.text = true)
    (parsed : Address.parse order.sender = .ok account)
    (carries : Carries patience labels foretold calls labels') :
    gate.Foretells order.sender account implementation calls := by
  have prediction := foreseen.foretold
  unfold Foretells
  cases predictor : gate.predictor with
  | fixed address =>
    rw [predictNext, predictor] at prediction
    obtain ⟨rfl, told, -⟩ := ends_pure.1 prediction
    cases told
    exact ⟨same, carries.1⟩
  | creation =>
    obtain ⟨-, nonce, address, foreknown, rfl, rfl⟩ := (ends_predictNext_ok predictor).1 prediction
    cases Address.sameAccount_text_iff.1 same
    obtain ⟨-, ⟨_, -, -, ⟨⟩⟩ | ⟨_, parsed', rfl⟩⟩ :=
      answers_transactionCount.1 (carries_singleton.1 carries)
    cases parsed.symm.trans parsed'
    exact ⟨nonce, foreknown, rfl⟩

/-- Where the contract was created as foreseen, all is done that has to come before an upgrade. -/
theorem Foreseen.launched [AddressRule] {checked foretold early later : Trace collaborators}
    {admin : Option Address} {predicted : String} {implementation : Address} {middle : Books}
    (foreseen : Foreseen gate order proxy previous books checked foretold admin predicted)
    (deployed : RawDeployment order.contract [] order.network order.sender books early
      (.ok implementation) middle)
    (same : Address.sameAccount predicted implementation.text = true)
    (carries : Carries patience labels (checked ++ (foretold ++ (early ++ later))) calls labels') :
    ∃ account artifact start labels'' rest,
      Launched gate order previous patience start account admin artifact implementation ∧
        Carries patience labels'' later rest labels' ∧ calls = start ++ rest := by
  obtain ⟨checks, _, _, checking, uncounted, rfl⟩ := carries_append.1 carries
  obtain ⟨counts, _, _, counting, uncreated, rfl⟩ := carries_append.1 uncounted
  obtain ⟨creates, labels'', rest, creating, further, rfl⟩ := carries_append.1 uncreated
  have reads := reads_of_carries
    (still_of_lookups ((lookups_administrator _ _ _).meant foreseen.resolved)) checking
  cases deployed.created creating with
  | @landed artifact account _ receipt _ parsed sending located =>
    have foretells := foreseen.foretells same parsed counting
    cases sending with
    | @mined hash _ succeeded =>
      exact ⟨account, artifact, _, labels'', rest, ⟨parsed, resolvesTo_of_ends foreseen.resolved,
        checks, counts, hash, receipt, reads, foretells, succeeded, located, rfl⟩, further,
        by simp only [List.append_assoc]⟩

/-- Where the contract was created as foreseen and an upgrade asked for, that comes to one
transaction after all that has to come before. -/
theorem Foreseen.sends [AddressRule] {checked foretold early later : Trace collaborators}
    {admin : Option Address} {predicted : String} {implementation : Address} {middle : Books}
    {disk : Disk} {reply : Except Failure Unit}
    (foreseen : Foreseen gate order proxy previous books checked foretold admin predicted)
    (deployed : RawDeployment order.contract [] order.network order.sender books early
      (.ok implementation) middle)
    (same : Address.sameAccount predicted implementation.text = true)
    (carries : Carries patience labels (checked ++ (foretold ++ (early ++
      installCall order proxy implementation admin disk reply :: later))) calls labels') :
    ∃ account artifact start sent first labels'' rest,
      Launched gate order previous patience start account admin artifact implementation ∧
        Sending patience
          (upgradeCall proxy implementation (order.initData.getD []) account admin)
          ("upgrade " ++ proxy.text) first sent ∧
        reply = sent.bind (fun _ => .ok ()) ∧ Carries patience labels'' later rest labels' ∧
        calls = start ++ (first ++ rest) := by
  obtain ⟨account, artifact, start, _, _, launched, further, rfl⟩ :=
    foreseen.launched deployed same carries
  obtain ⟨sent, first, labels'', rest, sending, replied, looking, rfl⟩ :=
    sending_of_installCall launched.sender further
  exact ⟨account, artifact, start, sent, first, labels'', rest, launched, sending, replied, looking,
    rfl⟩

/-- An upgrade that was answered was sent and mined. -/
theorem exists_receipt {sent : Except Failure Receipt}
    (replied : (.ok () : Except Failure Unit) = sent.bind (fun _ => .ok ())) :
    ∃ receipt, sent = .ok receipt := by
  cases sent with
  | error => cases replied
  | ok receipt => exact ⟨receipt, rfl⟩

/-- A fast path that only looked things up sent nothing. -/
theorem dealings_of_lookups [AddressRule] {failure : Failure}
    (lookups : ∀ exchange ∈ told, exchange.call.question.isLookup = true)
    (carries : Carries patience labels told calls labels') :
    Dealings gate order proxy previous patience calls (.error failure) := by
  have stopped := @Dealings.stopped _ gate order proxy previous patience calls [] _ failure
    (reads_of_carries (still_of_lookups lookups) carries) (.unsent failure)
    fun _ same => Except.error.inj same
  rwa [List.append_nil] at stopped

/-- A fast path that did not come past its deployment sent at most that. -/
theorem Foreseen.dealings [AddressRule] {checked foretold early : Trace collaborators}
    {admin : Option Address}
    {predicted : String} {outcome : Except Failure Address} {middle : Books} {failure : Failure}
    (foreseen : Foreseen gate order proxy previous books checked foretold admin predicted)
    (deployed : RawDeployment order.contract [] order.network order.sender books early outcome
      middle)
    (cause : ∀ other, outcome = .error other → failure = other)
    (carries : Carries patience labels (checked ++ (foretold ++ early)) calls labels') :
    Dealings gate order proxy previous patience calls (.error failure) := by
  rw [← List.append_assoc] at carries
  obtain ⟨looks, _, creates, looking, creating, rfl⟩ := carries_append.1 carries
  exact .stopped (reads_of_carries (still_of_lookups foreseen.lookups) looking)
    (deployed.created creating) cause

/-- **The fast path** at a node. -/
theorem FastPath.dealings [AddressRule] {candidate : Layout} {compatible : Bool} {attempt : Attempt}
    {result : Except Failure Attempt}
    (path : FastPath gate order proxy previous candidate compatible attempt books told result after)
    (carries : Carries patience labels told calls labels') :
    Dealings gate order proxy previous patience calls result := by
  cases path with
  | unresolved failed =>
    exact dealings_of_lookups ((lookups_administrator _ _ _).meant failed) carries
  | unforeseen resolved failed =>
    refine dealings_of_lookups (fun exchange member => ?_) carries
    rcases List.mem_append.1 member with early | late
    · exact (lookups_administrator _ _ _).meant resolved exchange early
    · exact (lookups_predictNext _ _).meant failed exchange late
  | undeployed foreseen failed =>
    exact foreseen.dealings failed (fun _ => Except.error.inj) carries
  | mismatched foreseen deployed => exact foreseen.dealings deployed (fun _ => nofun) carries
  | refused failure foreseen deployed same =>
    obtain ⟨account, artifact, start, sent, first, _, _, launched, sending, replied, ⟨rfl, rfl⟩,
      rfl⟩ := foreseen.sends deployed same carries
    cases sent with
    | ok => cases replied
    | error other =>
      cases replied
      rw [List.append_nil]
      exact .refused launched sending
  | unconfirmed foreseen deployed same failed =>
    obtain ⟨account, artifact, start, sent, first, _, _, launched, sending, replied, looking,
      rfl⟩ := foreseen.sends deployed same carries
    obtain ⟨receipt, rfl⟩ := exists_receipt replied
    exact .unfollowed _ launched sending
      (reads_of_carries (still_of_lookups ((lookups_confirm _ _).meant failed)) looking)
  | unkept foreseen deployed same =>
    obtain ⟨account, artifact, start, sent, first, _, _, launched, sending, replied, looking,
      rfl⟩ := foreseen.sends deployed same carries
    obtain ⟨receipt, rfl⟩ := exists_receipt replied
    exact .unfollowed _ launched sending (reads_of_answers rfl (carries_singleton.1 looking))
  | @completed _ _ _ admin _ implementation _ current _ _ told foreseen deployed same follows =>
    obtain ⟨account, artifact, start, sent, first, _, _, launched, sending, replied,
      ⟨_, _, _, answers, telling, rfl⟩, rfl⟩ := foreseen.sends deployed same carries
    obtain ⟨receipt, rfl⟩ := exists_receipt replied
    obtain ⟨rfl, -⟩ := (carries_offChain_cons rfl).1 telling
    obtain ⟨-, read, rfl, found⟩ := answers_implementationOf.1 answers
    obtain ⟨text, rfl, seen⟩ := (Option.any_eq_true _ _).1 follows
    cases read with
    | error => cases found
    | ok word =>
      have own := bytes_of_wordAddress found.symm (Address.sameAccount_text_right_iff.1 seen)
      cases sending with
      | mined succeeded => exact .followed _ launched succeeded own

/-! ## The whole run -/

/-- A launch sends one transaction, which creates the contract. -/
theorem Launched.filterMap_transaction? [AddressRule] {account : Address} {admin : Option Address}
    {artifact : Artifact} {implementation : Address}
    (launched : Launched gate order previous patience calls account admin artifact implementation) :
    calls.filterMap transaction? = [creation artifact [] account] := by
  obtain ⟨-, -, checked, counted, hash, receipt, reads, foretells, -, -, rfl⟩ := launched
  rw [List.filterMap_append, List.filterMap_append, reads.filterMap_transaction?,
    foretells.reads.filterMap_transaction?]
  rfl

/-- The receipt of a launch is that of its one transaction. -/
theorem Launched.isOne_of_receipt [AddressRule] {account : Address} {admin : Option Address}
    {artifact : Artifact} {implementation : Address} {hash : Bytes} {receipt : Receipt}
    (launched : Launched gate order previous patience calls account admin artifact implementation)
    (received : ⟨.receipt hash patience, .ok receipt⟩ ∈ calls) : isOne receipt.status = true := by
  obtain ⟨-, -, checked, counted, _, _, reads, foretells, succeeded, -, rfl⟩ := launched
  have late := (List.mem_append.1 ((List.mem_append.1 received).resolve_left
    reads.not_receipt)).resolve_left foretells.reads.not_receipt
  simp only [mined, List.mem_cons, List.not_mem_nil, or_false] at late
  rcases late with ⟨⟨⟩⟩ | ⟨⟨⟩⟩
  exact succeeded

/-- The transactions that are sent: none, or one that creates the contract, or one more that lets
the proxy point to it, after all that has to come before. -/
theorem Dealings.transactions [AddressRule] {result : Except Failure Attempt}
    (dealings : Dealings gate order proxy previous patience calls result) :
    calls.filterMap transaction? = [] ∨
      (∃ artifact account, Address.parse order.sender = .ok account ∧
        calls.filterMap transaction? = [creation artifact [] account]) ∨
      ∃ account admin artifact implementation early late,
        Launched gate order previous patience early account admin artifact implementation ∧
        calls = early ++ late ∧ late.filterMap transaction? =
          [upgradeCall proxy implementation (order.initData.getD []) account admin] := by
  cases dealings with
  | stopped reads created =>
    rw [List.filterMap_append, reads.filterMap_transaction?, List.nil_append]
    cases created with
    | unsent => exact .inl rfl
    | failed parsed sending => exact .inr (.inl ⟨_, _, parsed, sending.filterMap_transaction?⟩)
    | lost failure parsed sending =>
      exact .inr (.inl ⟨_, _, parsed, sending.filterMap_transaction?⟩)
    | landed parsed sending => exact .inr (.inl ⟨_, _, parsed, sending.filterMap_transaction?⟩)
  | refused launched sending =>
    exact .inr (.inr ⟨_, _, _, _, _, _, launched, rfl, sending.filterMap_transaction?⟩)
  | unfollowed failure launched sending reads =>
    refine .inr (.inr ⟨_, _, _, _, _, _, launched, rfl, ?_⟩)
    rw [List.filterMap_append, sending.filterMap_transaction?, reads.filterMap_transaction?]
    rfl
  | followed attempt launched => exact .inr (.inr ⟨_, _, _, _, _, _, launched, rfl, rfl⟩)

/-- A transaction that is known to have failed is the last one, and fails the upgrade. -/
theorem Dealings.of_receipt [AddressRule] {result : Except Failure Attempt} {hash : Bytes}
    {receipt : Receipt} (dealings : Dealings gate order proxy previous patience calls result)
    (received : ⟨.receipt hash patience, .ok receipt⟩ ∈ calls)
    (failed : isOne receipt.status = false) :
    (∃ purpose, result = .error (.deployment (.reverted hash purpose))) ∧
      calls.getLast? = some ⟨.receipt hash patience, .ok receipt⟩ := by
  have last : ∀ {early late : Trace nodes} {exchange : Exchange nodes},
      late.getLast? = some exchange → (early ++ late).getLast? = some exchange := by
    intro early late exchange found
    rw [List.getLast?_append, found]
    rfl
  have launched_ok : ∀ {early account admin artifact implementation},
      Launched gate order previous patience early account admin artifact implementation →
      ⟨.receipt hash patience, .ok receipt⟩ ∉ early := by
    intro early account admin artifact implementation launched member
    cases (launched.isOne_of_receipt member).symm.trans failed
  cases dealings with
  | stopped reads created cause =>
    have member := (List.mem_append.1 received).resolve_left reads.not_receipt
    cases created with
    | unsent => cases member
    | failed parsed sending =>
      obtain ⟨same, found⟩ := sending.of_receipt member failed
      cases same
      rw [cause _ rfl]
      exact ⟨⟨_, rfl⟩, last found⟩
    | lost failure parsed sending => cases (sending.of_receipt member failed).1
    | landed parsed sending => cases (sending.of_receipt member failed).1
  | refused launched sending =>
    obtain ⟨same, found⟩ := sending.of_receipt
      ((List.mem_append.1 received).resolve_left (launched_ok launched)) failed
    cases same
    exact ⟨⟨_, rfl⟩, last found⟩
  | unfollowed failure launched sending reads =>
    rcases List.mem_append.1 ((List.mem_append.1 received).resolve_left (launched_ok launched)) with
      member | member
    · cases (sending.of_receipt member failed).1
    · exact absurd member reads.not_receipt
  | followed attempt launched succeeded =>
    have member := (List.mem_append.1 received).resolve_left (launched_ok launched)
    simp only [mined, List.cons_append, List.nil_append, List.mem_cons, List.not_mem_nil,
      or_false] at member
    rcases member with ⟨⟨⟩⟩ | ⟨⟨⟩⟩ | ⟨⟨⟩⟩
    cases succeeded.symm.trans failed

/-- A run that does not come to the fast path makes no calls to a node. -/
theorem Run.dealings [AddressRule] {result : Except Failure Attempt}
    (run : Run gate order books told result after)
    (carries : Carries patience labels told calls labels') :
    (calls = [] ∧ ∀ attempt, result = .ok attempt → order.override = false) ∨
      order.override = true ∧ ∃ proxy previous, Address.parse order.proxy = .ok proxy ∧
        books.latest? proxy order.network = .ok previous ∧
        Dealings gate order proxy previous patience calls result := by
  have unasked : ∀ {told calls labels labels'} {result : Except Failure Attempt},
      OnlyReports told → (∀ attempt, result = .ok attempt → order.override = false) →
      Carries patience labels told calls labels' →
      calls = [] ∧ ∀ attempt, result = .ok attempt → order.override = false :=
    fun reports plain carries => ⟨calls_of_onlyReports reports carries, plain⟩
  cases run with
  | misaddressed => exact .inl (unasked onlyReports_nil (fun _ => nofun) carries)
  | untraced => exact .inl (unasked onlyReports_nil (fun _ => nofun) carries)
  | unread => exact .inl (unasked onlyReports_nil (fun _ => nofun) carries)
  | unheld => exact .inl (unasked onlyReports_nil (fun _ => nofun) carries)
  | held parsed latest live written attempted =>
    cases attempted with
    | unread => exact .inl (unasked onlyReports_nil (fun _ => nofun) carries)
    | uncompiled => exact .inl (unasked (onlyReports_nil.cons rfl) (fun _ => nofun) carries)
    | missing => exact .inl (unasked (onlyReports_nil.cons rfl) (fun _ => nofun) carries)
    | blocked _ _ _ plain =>
      exact .inl (unasked ((onlyReports_nil.cons rfl).cons rfl) (fun _ _ => plain) carries)
    | tried candidate read override path =>
      rw [map_fst_map_report]
      exact .inr ⟨override, _, _, parsed, latest,
        path.dealings ((carries_offChain_cons rfl).1 carries)⟩

/-- A node can bear an installation for the prepared order, at any address but that of zeros. -/
theorem exists_carries_prepared [AddressRule] {implementation : Address}
    (filled : implementation.bytes.all (· == 0) = false) (attempt : Attempt)
    (entered booked kept : Disk) :
    ∃ calls labels', Carries 120 [] (installationCourse .prepared Address.preparedProxy
      implementation none 0 attempt entered booked kept) calls labels' := by
  let receipt : Receipt := ⟨.int 1, .string implementation.text⟩
  have located : Address.ofJson receipt.contract = .ok implementation := by
    rw [Address.ofJson, Address.ofJson?, Address.ofText?_text]
  have seen := wordAddress_bytes filled
  have counting := @answers_transactionCount 120 [] [] _ _ UpgradeOrder.prepared.sender (.ok 0) |>.2
    ⟨rfl, .inr ⟨_, Address.parse_preparedSender, rfl⟩⟩
  have creating := @answers_deploy 120 [] [] _ _ default [] UpgradeOrder.prepared.sender
    (.ok implementation.text) |>.2 ⟨rfl, .inr ⟨_, .ok receipt, Address.parse_preparedSender,
      @Sending.mined _ _ _ [] receipt rfl, by rw [Except.bind, located]; rfl⟩⟩
  have naming := @answers_label_text 120 _ implementation "Token" []
  have installing : Answers 120 (.upgrade Address.preparedProxy implementation
      UpgradeOrder.prepared.sender none) [(implementation, "Token")] _ (.ok ()) _ :=
    answers_upgradeAndCall.2 ⟨rfl, .inr ⟨_, .ok receipt, Address.parse_preparedSender,
      @Sending.mined _ _ _ [] receipt rfl, rfl⟩⟩
  have confirming := @answers_implementationOf 120 [(implementation, "Token")] _ _ _
    Address.preparedProxy (.ok (some implementation.text)) |>.2
      ⟨rfl, .ok implementation.bytes, rfl, seen.symm⟩
  -- behind the nonce the artifact is asked for, and what is done is announced off the chain
  exact ⟨_, _, .cons counting <| .offChain rfl <| .cons creating <| .cons naming <|
    .offChain rfl <| .offChain rfl <| .cons installing <| .cons confirming <|
    .offChain rfl ⟨rfl, rfl⟩⟩

/-- In the prepared workspace an upgrade can be installed at a node. -/
theorem exists_connected_prepared [AddressRule] : ∃ trace attempt after labels',
    ((prepared.run .prepared).connect 120 .prepared []).Runs trace
      ((.ok attempt, after), labels') := by
  have filled : (Address.preparedSender.created 0).bytes.all (· == 0) = false := by decide +kernel
  obtain ⟨checked, attempt, entered, booked, kept, after, ran, resolved, -⟩ :=
    @exists_run prepared .prepared .prepared _ Address.preparedProxy
      (Address.preparedSender.created 0) none none _ 0 (Layout.empty none) rfl rfl
      Address.parse_preparedProxy Books.latest?_prepared live?_prepared (Layout.valid_empty _)
      (Layout.typed_empty _) (.inl ⟨rfl, nofun, rfl⟩) Address.predict_preparedSender
      (LayoutStore.writable_prepared .scratch) (LayoutStore.writable_prepared .baseline) nofun
  obtain ⟨-, ⟨-, -, rfl, -⟩ | ⟨_, _, ⟨⟩, -⟩⟩ := ends_administrator_ok.1 resolved
  obtain ⟨calls, labels', carries⟩ :=
    exists_carries_prepared filled attempt entered.disk booked kept
  obtain ⟨trace, -, runs⟩ :=
    calls_connect_iff.2 ⟨_, ran, carries.offChain rfl⟩
  exact ⟨trace, attempt, after, labels', runs⟩

/-- **The transactions of an upgrade.** At a node, whatever it answers, a run without an override
makes no call. A run with one sends nothing, or one transaction that creates the contract, or that
and one more that lets the proxy point to the contract; the second only after the first succeeded,
at the foretold address. Where the run returns, the second one succeeded as well, and the slot of
the proxy was seen to hold the new contract. A transaction that is known to have failed is the last
call, and the run fails over it. -/
theorem run_transactions [AddressRule] {trace : Trace connected} {result : Except Failure Attempt}
    (ended : ((gate.run order).connect patience books labels).Runs trace
      ((result, after), labels')) :
    (order.override = false → nodeCalls trace = []) ∧
    ((nodeCalls trace).filterMap transaction? = [] ∨
      (∃ artifact account, Address.parse order.sender = .ok account ∧
        (nodeCalls trace).filterMap transaction? = [Node.creation artifact [] account]) ∨
      ∃ proxy previous account admin artifact implementation early late,
        Address.parse order.proxy = .ok proxy ∧
        books.latest? proxy order.network = .ok previous ∧
        Launched gate order previous patience early account admin artifact implementation ∧
        nodeCalls trace = early ++ late ∧
        (nodeCalls trace).filterMap transaction? = [Node.creation artifact [] account,
          upgradeCall proxy implementation (order.initData.getD []) account admin]) ∧
    (∀ attempt, result = .ok attempt → order.override = true →
      ∃ proxy previous account admin artifact implementation early hash receipt word,
        Address.parse order.proxy = .ok proxy ∧
        books.latest? proxy order.network = .ok previous ∧
        Launched gate order previous patience early account admin artifact implementation ∧
        nodeCalls trace = early ++ (mined patience
          (upgradeCall proxy implementation (order.initData.getD []) account admin) hash receipt ++
          [⟨.storage proxy implementationSlot, .ok word⟩]) ∧
        isOne receipt.status = true ∧ word.drop (word.length - 20) = implementation.bytes) ∧
    ∀ hash receipt, ⟨.receipt hash patience, .ok receipt⟩ ∈ nodeCalls trace →
      isOne receipt.status = false →
        (∃ purpose, result = .error (.deployment (.reverted hash purpose))) ∧
        (nodeCalls trace).getLast? = some ⟨.receipt hash patience, .ok receipt⟩ := by
  obtain ⟨told, ran, carries⟩ := calls_connect_iff.1 ⟨trace, rfl, ended⟩
  rcases (ends_run.1 ran).dealings carries with ⟨silent, plain⟩ |
    ⟨override, proxy, previous, parsed, latest, dealings⟩
  · rw [silent]
    refine ⟨fun _ => rfl, .inl rfl, ?_, fun _ _ => nofun⟩
    intro attempt returned override
    cases (plain attempt returned).symm.trans override
  refine ⟨fun plain => (nomatch plain.symm.trans override), ?_, ?_, ?_⟩
  · rcases dealings.transactions with none | one | ⟨account, admin, artifact, implementation, early,
      late, launched, split, second⟩
    · exact .inl none
    · exact .inr (.inl one)
    · refine .inr (.inr ⟨proxy, previous, account, admin, artifact, implementation, early, late,
        parsed, latest, launched, split, ?_⟩)
      rw [split, List.filterMap_append, launched.filterMap_transaction?, second]
      rfl
  · intro attempt returned _
    subst returned
    generalize nodeCalls trace = calls at dealings
    cases dealings with
    | followed _ launched succeeded follows =>
      exact ⟨proxy, previous, _, _, _, _, _, _, _, _, parsed, latest, launched, rfl, succeeded,
        follows⟩
  · exact fun hash receipt => dealings.of_receipt

/-- In the prepared workspace both transactions are sent, and the slot of the proxy is seen to hold
the new contract. -/
theorem run_transactions_prepared : ∃ trace attempt after labels',
    ((prepared.run .prepared).connect 120 .prepared []).Runs trace
      ((.ok attempt, after), labels') ∧
    ∃ previous account admin artifact implementation early hash receipt word,
      Launched prepared .prepared previous 120 early account admin artifact implementation ∧
      nodeCalls trace = early ++ (mined 120
        (upgradeCall Address.preparedProxy implementation [] account admin) hash receipt ++
        [⟨.storage Address.preparedProxy implementationSlot, .ok word⟩]) ∧
      isOne receipt.status = true ∧ word.drop (word.length - 20) = implementation.bytes := by
  obtain ⟨trace, attempt, after, labels', runs⟩ := exists_connected_prepared
  obtain ⟨-, -, returned, -⟩ := run_transactions runs
  obtain ⟨proxy, previous, account, admin, artifact, implementation, early, hash, receipt, word,
    parsed, -, launched, calls, succeeded, follows⟩ := returned attempt rfl rfl
  cases parsed.symm.trans Address.parse_preparedProxy
  exact ⟨trace, attempt, after, labels', runs, previous, account, admin, artifact, implementation,
    early, hash, receipt, word, launched, calls, succeeded, follows⟩

end Gate

end UpgradeGate
