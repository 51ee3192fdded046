import UpgradeGate.Chain.Connection
import UpgradeGate.Proofs.Chain.AddressText
import UpgradeGate.Proofs.Workflow.Trace

/-!
# What is done with a node

Each question to the chain becomes a few calls to a node. To create a contract or to let a proxy
point elsewhere, one transaction is sent and its receipt waited for; its failure, a missing receipt
and a receipt that does not tell of success all fail what was done (`Node.Sending`). All other
questions only read (`Node.reads_of_answers`).
-/

namespace UpgradeGate

/-- A call to a node that changes nothing on the chain. -/
def NodeCall.isRead : NodeCall → Bool
  | .transactionCount _ => true
  | .code _ => true
  | .storage _ _ => true
  | .transact _ => false
  | .receipt _ _ => false

/-- A question for which a transaction is sent. -/
def Question.isSending : Question → Bool
  | .deploy _ _ _ => true
  | question => question.isUpgrade

namespace Node

variable {α β : Type} {patience : Nat} {labels after : Labels} {trace : Trace nodes}

/-- Nothing was changed on the chain. -/
def Reads (trace : Trace nodes) : Prop := ∀ exchange ∈ trace, exchange.call.isRead = true

theorem reads_nil : Reads [] := fun _ absent => absurd absent List.not_mem_nil

theorem reads_singleton {call : NodeCall} (reply : Except Failure call.Answer)
    (read : call.isRead = true) : Reads [⟨call, reply⟩] :=
  fun _ member => List.mem_singleton.1 member ▸ read

/-- Calls that read, behind calls that read. -/
theorem Reads.append {first second : Trace nodes} (one : Reads first) (two : Reads second) :
    Reads (first ++ second) := by
  intro exchange member
  rcases List.mem_append.1 member with early | late
  · exact one exchange early
  · exact two exchange late

/-- The transaction that is sent in an exchange. -/
def transaction? : Exchange nodes → Option Transaction
  | ⟨.transact transaction, _⟩ => some transaction
  | _ => none

/-- Where all calls read, none is a transaction. -/
theorem Reads.filterMap_transaction? (reads : Reads trace) :
    trace.filterMap transaction? = [] := by
  refine List.filterMap_eq_nil_iff.2 fun exchange member => ?_
  obtain ⟨call, reply⟩ := exchange
  have read := reads _ member
  cases call <;> first | rfl | cases read

/-- Where all calls read, none waits for a receipt. -/
theorem Reads.not_receipt {hash : Bytes} {patience : Nat} {reply : Except Failure Receipt}
    (reads : Reads trace) : ⟨.receipt hash patience, reply⟩ ∉ trace :=
  fun member => nomatch reads _ member

/-! ## How something done with a node ends -/

/-- From some names of addresses, something done with a node makes the exchanges of a trace and ends
with a result, leaving other names behind. -/
def Task.Ends (task : Task α) (labels : Labels) (trace : Trace nodes)
    (result : Except Failure α) (after : Labels) : Prop :=
  Program.Runs (task.run.run labels) trace (result, after)

theorem ends_pure {value : α} {result : Except Failure α} :
    Task.Ends (pure value) labels trace result after ↔
      trace = [] ∧ result = .ok value ∧ after = labels := by
  change (Program.done (Except.ok value, labels)).Runs trace (result, after) ↔ _
  rw [Program.runs_done_iff, Prod.mk.injEq]

theorem ends_throw {failure : Failure} {result : Except Failure α} :
    Task.Ends (throw failure) labels trace result after ↔
      trace = [] ∧ result = .error failure ∧ after = labels := by
  change (Program.done (Except.error failure, labels)).Runs trace (result, after) ↔ _
  rw [Program.runs_done_iff, Prod.mk.injEq]

theorem ends_lift {given result : Except Failure α} :
    Task.Ends (ExceptT.mk (pure given)) labels trace result after ↔
      trace = [] ∧ result = given ∧ after = labels := by
  change (Program.done (given, labels)).Runs trace (result, after) ↔ _
  rw [Program.runs_done_iff, Prod.mk.injEq]

theorem ends_modify {change : Labels → Labels} {result : Except Failure Unit} :
    Task.Ends (modify change) labels trace result after ↔
      trace = [] ∧ result = .ok () ∧ after = change labels := by
  change (Program.done (Except.ok (), change labels)).Runs trace (result, after) ↔ _
  rw [Program.runs_done_iff, Prod.mk.injEq]

/-- A call has what the node replies. -/
theorem ends_ask {call : NodeCall} {result : Except Failure call.Answer} :
    Task.Ends (ask call) labels trace result after ↔
      trace = [⟨call, result⟩] ∧ after = labels := by
  change (Program.ask (I := nodes) (α := Except Failure call.Answer × Labels)
    call fun reply => .done (reply, labels)).Runs trace (result, after) ↔ _
  simp only [Program.runs_ask_iff, Program.runs_done_iff, Prod.mk.injEq]
  constructor
  · intro ended
    obtain ⟨reply, rest, rfl, rfl, rfl, rfl⟩ := ended
    exact ⟨rfl, rfl⟩
  · intro ended
    obtain ⟨rfl, rfl⟩ := ended
    exact ⟨result, [], rfl, rfl, rfl, rfl⟩

/-- How a task goes on after its first part. -/
theorem run_bind (task : Task α) (next : α → Task β) (labels : Labels) :
    (task >>= next).run.run labels =
      (task.run.run labels).bind
        (Program.onward fun value middle => (next value).run.run middle) := by
  change Program.bind _ _ = Program.bind _ _
  congr 1
  funext ⟨result, middle⟩
  cases result <;> rfl

/-- A task in two parts ends where the second does, or where the first fails. -/
theorem ends_bind {task : Task α} {next : α → Task β} {result : Except Failure β} :
    Task.Ends (task >>= next) labels trace result after ↔
      (∃ value middle first second, task.Ends labels first (.ok value) middle ∧
        (next value).Ends middle second result after ∧ trace = first ++ second) ∨
      ∃ failure, task.Ends labels trace (.error failure) after ∧ result = .error failure := by
  rw [Task.Ends, run_bind]
  exact Program.runs_onward_iff

/-- What is done with the address of an account: nothing, where the text is none. -/
theorem ends_address_bind [AddressRule] {text : String} {next : Address → Task β}
    {result : Except Failure β} :
    Task.Ends (address text >>= next) labels trace result after ↔
      (∃ account, Address.parse text = .ok account ∧
        (next account).Ends labels trace result after) ∨
      ∃ failure, Address.parse text = .error failure ∧ trace = [] ∧ result = .error failure ∧
        after = labels := by
  rw [ends_bind]
  simp only [address, ends_lift]
  constructor
  · intro ended
    rcases ended with ⟨account, _, _, _, ⟨rfl, parsed, rfl⟩, rest, rfl⟩ |
      ⟨failure, ⟨rfl, unparsed, rfl⟩, rfl⟩
    · exact .inl ⟨account, parsed.symm, rest⟩
    · exact .inr ⟨failure, unparsed.symm, rfl, rfl, rfl⟩
  · intro ended
    rcases ended with ⟨account, parsed, rest⟩ | ⟨failure, unparsed, rfl, rfl, rfl⟩
    · exact .inl ⟨account, labels, [], trace, ⟨rfl, parsed.symm, rfl⟩, rest, rfl⟩
    · exact .inr ⟨failure, ⟨rfl, unparsed.symm, rfl⟩, rfl⟩

/-- The canonical text of an address means that address. -/
theorem address_text_bind [AddressRule] (account : Address) (next : Address → Task β) :
    address account.text >>= next = next account := by
  rw [address, Address.parse_text]
  rfl

/-- A task goes on with what the node replies to its first call, unless that fails. -/
theorem ends_ask_bind {call : NodeCall} {next : call.Answer → Task β}
    {result : Except Failure β} :
    Task.Ends (ask call >>= next) labels trace result after ↔
      (∃ value rest, trace = ⟨call, .ok value⟩ :: rest ∧
        (next value).Ends labels rest result after) ∨
      ∃ failure, trace = [⟨call, .error failure⟩] ∧ result = .error failure ∧ after = labels := by
  rw [ends_bind]
  simp only [ends_ask]
  constructor
  · intro ended
    rcases ended with ⟨value, _, _, rest, ⟨rfl, rfl⟩, onward, rfl⟩ | ⟨failure, ⟨rfl, rfl⟩, rfl⟩
    · exact .inl ⟨value, rest, rfl, onward⟩
    · exact .inr ⟨failure, rfl, rfl, rfl⟩
  · intro ended
    rcases ended with ⟨value, rest, rfl, onward⟩ | ⟨failure, rfl, rfl, rfl⟩
    · exact .inl ⟨value, labels, [_], rest, ⟨rfl, rfl⟩, onward, rfl⟩
    · exact .inr ⟨failure, ⟨rfl, rfl⟩, rfl⟩

/-! ## Transactions -/

/-- The transaction that creates a contract. -/
def creation (artifact : Artifact) (arguments : List Argument) (account : Address) : Transaction :=
  ⟨.creation artifact.interface artifact.bytecode, "constructor", arguments, account⟩

/-- The transaction that lets a proxy point to an implementation and calls that with data: sent to
the administrator, or to the proxy where there is none. -/
def upgradeCall (proxy implementation : Address) (data : Bytes) (account : Address) :
    Option Address → Transaction
  | some admin => ⟨.contract admin, "upgradeAndCall",
      [.text proxy.text, .text implementation.text, .data data], account⟩
  | none => ⟨.contract proxy, "upgradeToAndCall", [.text implementation.text, .data data], account⟩

/-- The exchanges of a transaction that has a receipt. -/
def mined (patience : Nat) (transaction : Transaction) (hash : Bytes) (receipt : Receipt) :
    Trace nodes :=
  [⟨.transact transaction, .ok hash⟩, ⟨.receipt hash patience, .ok receipt⟩]

/-- How a transaction ends that is sent and waited for. -/
inductive Sending (patience : Nat) (transaction : Transaction) (purpose : String) :
    Trace nodes → Except Failure Receipt → Prop where
  | unsent (failure : Failure) :
      Sending patience transaction purpose [⟨.transact transaction, .error failure⟩]
        (.error failure)
  | unseen (hash : Bytes) (failure : Failure) :
      Sending patience transaction purpose
        [⟨.transact transaction, .ok hash⟩, ⟨.receipt hash patience, .error failure⟩]
        (.error failure)
  | reverted {hash : Bytes} {receipt : Receipt} (failed : isOne receipt.status = false) :
      Sending patience transaction purpose (mined patience transaction hash receipt)
        (.error (.deployment (.reverted hash purpose)))
  | mined {hash : Bytes} {receipt : Receipt} (succeeded : isOne receipt.status = true) :
      Sending patience transaction purpose (mined patience transaction hash receipt) (.ok receipt)

/-- However sending goes, the transaction was sent once. -/
theorem Sending.filterMap_transaction? {transaction : Transaction} {purpose : String}
    {result : Except Failure Receipt}
    (sending : Sending patience transaction purpose trace result) :
    trace.filterMap transaction? = [transaction] := by
  cases sending <;> rfl

/-- A transaction with a receipt that does not tell of success fails as reverted, and nothing comes
after the receipt. -/
theorem Sending.of_receipt {transaction : Transaction} {purpose : String} {hash : Bytes}
    {receipt : Receipt} {result : Except Failure Receipt}
    (sending : Sending patience transaction purpose trace result)
    (received : ⟨.receipt hash patience, .ok receipt⟩ ∈ trace)
    (failed : isOne receipt.status = false) :
    result = .error (.deployment (.reverted hash purpose)) ∧
      trace.getLast? = some ⟨.receipt hash patience, .ok receipt⟩ := by
  cases sending with
  | unsent => cases List.mem_singleton.1 received
  | unseen => simp at received
  | reverted =>
    simp only [Node.mined, List.mem_cons, List.not_mem_nil, or_false] at received
    rcases received with ⟨⟨⟩⟩ | ⟨⟨⟩⟩
    exact ⟨rfl, rfl⟩
  | mined succeeded =>
    simp only [Node.mined, List.mem_cons, List.not_mem_nil, or_false] at received
    rcases received with ⟨⟨⟩⟩ | ⟨⟨⟩⟩
    cases succeeded.symm.trans failed

/-- Send a transaction and wait for its receipt. -/
def send (patience : Nat) (transaction : Transaction) (purpose : String) : Task Receipt := do
  let hash ← ask (.transact transaction)
  settled patience hash purpose

theorem ends_send {transaction : Transaction} {purpose : String}
    {result : Except Failure Receipt} :
    (send patience transaction purpose).Ends labels trace result after ↔
      after = labels ∧ Sending patience transaction purpose trace result := by
  rw [send, ends_ask_bind]
  constructor
  · intro ended
    rcases ended with ⟨hash, _, rfl, waiting⟩ | ⟨failure, rfl, rfl, rfl⟩
    case inr => exact ⟨rfl, .unsent failure⟩
    rcases ends_ask_bind.1 waiting with ⟨receipt, _, rfl, deciding⟩ | ⟨failure, rfl, rfl, rfl⟩
    case inr => exact ⟨rfl, .unseen hash failure⟩
    split at deciding
    · next succeeded =>
      obtain ⟨rfl, rfl, rfl⟩ := ends_pure.1 deciding
      exact ⟨rfl, .mined succeeded⟩
    · next failed =>
      obtain ⟨rfl, rfl, rfl⟩ := ends_throw.1 deciding
      exact ⟨rfl, .reverted (Bool.eq_false_iff.2 failed)⟩
  · intro ended
    obtain ⟨rfl, sending⟩ := ended
    cases sending with
    | unsent failure => exact .inr ⟨failure, rfl, rfl, rfl⟩
    | unseen hash failure =>
      exact .inl ⟨hash, _, rfl, ends_ask_bind.2 (.inr ⟨failure, rfl, rfl, rfl⟩)⟩
    | @reverted hash receipt failed =>
      refine .inl ⟨hash, _, rfl, ends_ask_bind.2 (.inl ⟨receipt, [], rfl, ?_⟩)⟩
      rw [if_neg (Bool.eq_false_iff.1 failed)]
      exact ends_throw.2 ⟨rfl, rfl, rfl⟩
    | @mined hash receipt succeeded =>
      refine .inl ⟨hash, _, rfl, ends_ask_bind.2 (.inl ⟨receipt, [], rfl, ?_⟩)⟩
      rw [if_pos succeeded]
      exact ends_pure.2 ⟨rfl, rfl, rfl⟩

/-- What comes of a transaction of a sender. -/
def sendAs [AddressRule] (patience : Nat) (sender : String) (transaction : Address → Transaction)
    (purpose : String) (finish : Receipt → Except Failure α) : Task α := do
  let account ← address sender
  let receipt ← send patience (transaction account) purpose
  ExceptT.mk (pure (finish receipt))

/-- How sending a transaction in an account's name ends: nothing is sent where the account is none.
-/
theorem ends_sendAs [AddressRule] {sender : String} {transaction : Address → Transaction}
    {purpose : String} {finish : Receipt → Except Failure α} {result : Except Failure α} :
    (sendAs patience sender transaction purpose finish).Ends labels trace result after ↔
      after = labels ∧
        ((∃ failure, Address.parse sender = .error failure ∧ trace = [] ∧
          result = .error failure) ∨
        ∃ account sent, Address.parse sender = .ok account ∧
          Sending patience (transaction account) purpose trace sent ∧
          result = sent.bind finish) := by
  rw [sendAs, ends_address_bind]
  simp only [ends_bind, ends_send, ends_lift]
  constructor
  · intro ended
    rcases ended with ⟨account, parsed, ⟨receipt, _, first, _, ⟨rfl, sending⟩, ⟨rfl, rfl, rfl⟩,
      rfl⟩ | ⟨failure, ⟨rfl, sending⟩, rfl⟩⟩ | ⟨failure, unparsed, rfl, rfl, rfl⟩
    · rw [List.append_nil]
      exact ⟨rfl, .inr ⟨account, .ok receipt, parsed, sending, rfl⟩⟩
    · exact ⟨rfl, .inr ⟨account, .error failure, parsed, sending, rfl⟩⟩
    · exact ⟨rfl, .inl ⟨failure, unparsed, rfl, rfl⟩⟩
  · intro ended
    obtain ⟨rfl, ⟨failure, unparsed, rfl, rfl⟩ | ⟨account, sent, parsed, sending, rfl⟩⟩ := ended
    · exact .inr ⟨failure, unparsed, rfl, rfl, rfl⟩
    · refine .inl ⟨account, parsed, ?_⟩
      cases sent with
      | ok receipt =>
        exact .inl ⟨receipt, after, trace, [], ⟨rfl, sending⟩, ⟨rfl, rfl, rfl⟩,
          (List.append_nil _).symm⟩
      | error failure => exact .inr ⟨failure, ⟨rfl, sending⟩, rfl⟩

/-- **Creating a contract**: one transaction of the sender, whose receipt tells the address. -/
theorem deploy_eq [AddressRule] (patience : Nat) (artifact : Artifact) (arguments : List Argument)
    (sender : String) :
    deploy patience artifact arguments sender =
      sendAs patience sender (creation artifact arguments) ("deploy " ++ artifact.name)
        fun receipt => (Address.ofJson receipt.contract).map Address.text := by
  simp only [deploy, sendAs, send, bind_assoc]
  refine bind_congr fun account => bind_congr fun hash => bind_congr fun receipt => ?_
  cases Address.ofJson receipt.contract <;> rfl

/-- **Letting a proxy point elsewhere**: one transaction of the sender. -/
theorem upgradeAndCall_eq [AddressRule] (patience : Nat) (proxy implementation : Address)
    (data : Bytes) (sender : String) (admin : Option Address) :
    upgradeAndCall patience proxy.text implementation.text data sender (admin.map Address.text) =
      sendAs patience sender (fun account => upgradeCall proxy implementation data account admin)
        ("upgrade " ++ proxy.text) fun _ => .ok () := by
  rw [upgradeAndCall, address_text_bind, address_text_bind]
  cases admin with
  | none =>
    simp only [sendAs, send, bind_assoc]
    rfl
  | some admin =>
    have given : (some admin.text).filter (!·.isEmpty) = some admin.text :=
      Option.filter_eq_some_iff.2 ⟨rfl, by rw [Address.text_ne_empty]; rfl⟩
    rw [Option.map_some, given]
    dsimp only
    rw [address_text_bind]
    simp only [sendAs, send, bind_assoc]
    rfl

/-! ## Questions that only read -/

/-- The address at the end of a storage word, if there is one. -/
def wordAddress [AddressRule] (word : Bytes) : Except Failure (Option String) :=
  match addressOfWord word with
  | none => .ok none
  | some bytes => (Address.parse ("0x" ++ Bytes.hexText bytes)).map fun found => some found.text

/-- The address in a slot of an account is read by one call. -/
theorem ends_slotAddress [AddressRule] {account : Address} {slot : Nat}
    {result : Except Failure (Option String)} :
    (slotAddress account.text slot).Ends labels trace result after ↔
      after = labels ∧ ∃ reply, trace = [⟨.storage account slot, reply⟩] ∧
        result = reply.bind wordAddress := by
  have by_steps : slotAddress account.text slot =
      ask (.storage account slot) >>= fun word => ExceptT.mk (pure (wordAddress word)) := by
    rw [slotAddress, address_text_bind]
    refine bind_congr fun word => ?_
    unfold wordAddress
    generalize addressOfWord word = found
    cases found with
    | none => rfl
    | some bytes =>
      dsimp only
      unfold address
      generalize Address.parse ("0x" ++ Bytes.hexText bytes) = parsed
      cases parsed <;> rfl
  rw [by_steps, ends_ask_bind]
  constructor
  · intro ended
    rcases ended with ⟨word, _, rfl, rest⟩ | ⟨failure, rfl, rfl, rfl⟩
    · obtain ⟨rfl, rfl, rfl⟩ := ends_lift.1 rest
      exact ⟨rfl, .ok word, rfl, rfl⟩
    · exact ⟨rfl, .error failure, rfl, rfl⟩
  · intro ended
    obtain ⟨rfl, reply, rfl, rfl⟩ := ended
    cases reply with
    | ok word => exact .inl ⟨word, [], rfl, ends_lift.2 ⟨rfl, rfl, rfl⟩⟩
    | error failure => exact .inr ⟨failure, rfl, rfl, rfl⟩

/-- The address in a word is made of its last 20 bytes. -/
theorem drop_of_addressOfWord {word bytes : Bytes} (found : addressOfWord word = some bytes) :
    word.drop (word.length - 20) = bytes := by
  unfold addressOfWord at found
  dsimp only at found
  split at found
  · cases found
  · exact Option.some.inj found

/-- The address that a storage word was found to hold has the last 20 bytes of the word. -/
theorem bytes_of_wordAddress [AddressRule] {word : Bytes} {text : String} {holder : Address}
    (found : wordAddress word = .ok (some text)) (parsed : Address.parse text = .ok holder) :
    word.drop (word.length - 20) = holder.bytes := by
  unfold wordAddress at found
  cases there : addressOfWord word with
  | none =>
    rw [there] at found
    cases found
  | some bytes =>
    rw [there] at found
    dsimp only at found
    rw [Address.parse, Address.ofText?_hexText, Address.ofBytes?] at found
    by_cases size : bytes.length = 20
    · rw [dif_pos size] at found
      cases found
      rw [Address.parse_text] at parsed
      exact (drop_of_addressOfWord there).trans (congrArg Address.bytes (Except.ok.inj parsed))
    · rw [dif_neg size] at found
      cases found

/-- A word that is an address and not zero holds that address. -/
theorem wordAddress_bytes [AddressRule] {holder : Address}
    (filled : holder.bytes.all (· == 0) = false) :
    wordAddress holder.bytes = .ok (some holder.text) := by
  have whole : holder.bytes.drop (holder.bytes.length - 20) = holder.bytes := by
    rw [holder.length_bytes]
    rfl
  have there : addressOfWord holder.bytes = some holder.bytes := by
    unfold addressOfWord
    dsimp only
    rw [whole, if_neg (Bool.eq_false_iff.1 filled)]
  unfold wordAddress
  rw [there]
  dsimp only
  rw [Address.parse, Address.ofText?_hexText, Address.ofBytes?, dif_pos holder.length_bytes]
  rfl

/-! ## Questions at a node -/

/-- A question is answered at a node in some exchanges; none, if it is not one to the chain. -/
def Answers [AddressRule] (patience : Nat) (question : Question) (labels : Labels)
    (trace : Trace nodes) (reply : Except Failure question.Answer) (after : Labels) : Prop :=
  match task? patience question with
  | some task => task.Ends labels trace reply after
  | none => trace = [] ∧ after = labels

/-- Names of addresses are no matter of the node. -/
theorem trace_of_answers_label [AddressRule] {account name : String} {reply : Except Failure Unit}
    (answers : Answers patience (.label account name) labels trace reply after) : trace = [] := by
  rcases ends_address_bind.1 answers with ⟨holder, -, naming⟩ | ⟨_, -, rfl, -⟩
  · exact (ends_modify.1 naming).1
  · rfl

/-- A label is put down, and the node is not asked. -/
theorem answers_label_text [AddressRule] (account : Address) (name : String) (labels : Labels) :
    Answers patience (.label account.text name) labels [] (.ok ())
      (Table.put account name labels) :=
  ends_address_bind.2 (.inl ⟨account, Address.parse_text account, ends_modify.2 ⟨rfl, rfl, rfl⟩⟩)

/-- **Reading.** A question for which no transaction is sent only reads. -/
theorem reads_of_answers [AddressRule] {question : Question}
    {reply : Except Failure question.Answer} (still : question.isSending = false)
    (answers : Answers patience question labels trace reply after) : Reads trace := by
  cases question with
  | transactionCount account =>
    rcases ends_address_bind.1 answers with ⟨holder, -, asking⟩ | ⟨_, -, rfl, -⟩
    · obtain ⟨rfl, -⟩ := ends_ask.1 asking
      exact reads_singleton _ rfl
    · exact reads_nil
  | hasCode holder =>
    rcases ends_address_bind.1 answers with ⟨_, -, asking⟩ | ⟨_, -, rfl, -⟩
    · rcases ends_ask_bind.1 asking with ⟨code, _, rfl, rest⟩ | ⟨_, rfl, -⟩
      · obtain ⟨rfl, -⟩ := ends_pure.1 rest
        exact reads_singleton _ rfl
      · exact reads_singleton _ rfl
    · exact reads_nil
  | implementationOf proxy =>
    obtain ⟨-, reply, rfl, -⟩ := ends_slotAddress.1 answers
    exact reads_singleton _ rfl
  | adminOf proxy =>
    obtain ⟨-, reply, rfl, -⟩ := ends_slotAddress.1 answers
    exact reads_singleton _ rfl
  | label => exact trace_of_answers_label answers ▸ reads_nil
  | artifact => exact answers.1 ▸ reads_nil
  | layout => exact answers.1 ▸ reads_nil
  | announce => exact answers.1 ▸ reads_nil
  | deploy => cases still
  | upgrade => cases still
  | upgradeAndCall => cases still

/-- A contract is created by one transaction, unless the sender is no account. -/
theorem answers_deploy [AddressRule] {artifact : Artifact} {arguments : List Argument}
    {sender : String} {reply : Except Failure String} :
    Answers patience (.deploy artifact arguments sender) labels trace reply after ↔
      after = labels ∧
        ((∃ failure, Address.parse sender = .error failure ∧ trace = [] ∧
          reply = .error failure) ∨
        ∃ account sent, Address.parse sender = .ok account ∧
          Sending patience (creation artifact arguments account) ("deploy " ++ artifact.name) trace
            sent ∧
          reply = sent.bind fun receipt => (Address.ofJson receipt.contract).map Address.text) := by
  change (deploy patience artifact arguments sender).Ends labels trace reply after ↔ _
  rw [deploy_eq]
  exact ends_sendAs

/-- A proxy is let point elsewhere by one transaction, unless the sender is no account. -/
theorem answers_upgradeAndCall [AddressRule] {proxy implementation : Address} {data : Bytes}
    {sender : String} {admin : Option Address} {reply : Except Failure Unit} :
    Answers patience (.upgradeAndCall proxy implementation data sender admin) labels trace reply
        after ↔
      after = labels ∧
        ((∃ failure, Address.parse sender = .error failure ∧ trace = [] ∧
          reply = .error failure) ∨
        ∃ account sent, Address.parse sender = .ok account ∧
          Sending patience (upgradeCall proxy implementation data account admin)
            ("upgrade " ++ proxy.text) trace sent ∧
          reply = sent.bind fun _ => .ok ()) := by
  change (upgradeAndCall patience proxy.text implementation.text data sender
    (admin.map Address.text)).Ends labels trace reply after ↔ _
  rw [upgradeAndCall_eq]
  exact ends_sendAs

/-- What a proxy points to is read from its slot. -/
theorem answers_implementationOf [AddressRule] {proxy : Address}
    {reply : Except Failure (Option String)} :
    Answers patience (.implementationOf proxy) labels trace reply after ↔
      after = labels ∧ ∃ word, trace = [⟨.storage proxy implementationSlot, word⟩] ∧
        reply = word.bind wordAddress :=
  ends_slotAddress

/-- Transactions are counted at the node, unless the sender is no account. -/
theorem answers_transactionCount [AddressRule] {sender : String} {reply : Except Failure Int} :
    Answers patience (.transactionCount sender) labels trace reply after ↔
      after = labels ∧
        ((∃ failure, Address.parse sender = .error failure ∧ trace = [] ∧
          reply = .error failure) ∨
        ∃ account, Address.parse sender = .ok account ∧
          trace = [⟨.transactionCount account, reply⟩]) := by
  change (address sender >>= fun account => ask (.transactionCount account)).Ends labels trace
    reply after ↔ _
  rw [ends_address_bind]
  constructor
  · intro ended
    rcases ended with ⟨account, parsed, asking⟩ | ⟨failure, unparsed, rfl, rfl, rfl⟩
    · obtain ⟨rfl, rfl⟩ := ends_ask.1 asking
      exact ⟨rfl, .inr ⟨account, parsed, rfl⟩⟩
    · exact ⟨rfl, .inl ⟨failure, unparsed, rfl, rfl⟩⟩
  · intro ended
    obtain ⟨rfl, ⟨failure, unparsed, rfl, rfl⟩ | ⟨account, parsed, rfl⟩⟩ := ended
    · exact .inr ⟨failure, unparsed, rfl, rfl, rfl⟩
    · exact .inl ⟨account, parsed, ends_ask.2 ⟨rfl, rfl⟩⟩

end Node

end UpgradeGate
