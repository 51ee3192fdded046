import UpgradeGate.Chain.Creation
import UpgradeGate.Table
import UpgradeGate.Workflow.Question

/-!
# A chain for rehearsals

A stand-in for the chain. Contracts land where the creator and its transactions say; proxies keep
their implementation and their administrator. It can be told to misbehave: to let other
transactions come between, to ignore upgrades, to answer with other addresses, or to fail once.
-/

namespace UpgradeGate

/-- How a rehearsal chain misbehaves. -/
structure ChainOptions where
  /-- Transactions of others that come before the next deployment. -/
  interleaved : Int
  ignoreUpgrades : Bool
  lowercase : Bool
  noAdminSlot : Bool
  /-- The address that deployments tell instead of their own. -/
  deployReturns : Option String
  deriving DecidableEq, Repr

/-- A chain that behaves. -/
def ChainOptions.usual : ChainOptions := ⟨0, false, false, false, none⟩

/-- The state of a rehearsal chain. -/
structure RehearsalChain where
  nonces : List (Address × Int)
  code : List Address
  implementations : List (Address × Option String)
  admins : List (Address × Option String)
  labels : List (String × String)
  options : ChainOptions
  /-- The failure with which the next question of a name is answered. -/
  armed : List (String × Failure)

/-- The name of a question to the chain. -/
def Question.name : Question → String
  | .transactionCount _ => "get_transaction_count"
  | .deploy _ _ _ => "deploy"
  | .upgrade _ _ _ _ => "upgrade"
  | .upgradeAndCall _ _ _ _ _ => "upgrade_and_call"
  | .hasCode _ => "has_code"
  | .implementationOf _ => "implementation_of"
  | .adminOf _ => "proxy_admin"
  | .label _ _ => "label"
  | .artifact _ => "load_artifact"
  | .layout _ => "storage_layout"
  | .announce event => event.topic

namespace RehearsalChain

/-- A chain on which nothing has happened. -/
def fresh : RehearsalChain := ⟨[], [], [], [], [], .usual, []⟩

/-- Something done on a rehearsal chain. -/
abbrev Task := ExceptT Failure (StateM RehearsalChain)

/-- The address that a text means. -/
def address (text : String) : Task Address := ExceptT.mk (pure (Address.parse text))

/-- How many transactions an account has sent. -/
def nonceOf (chain : RehearsalChain) (account : Address) : Int :=
  (chain.nonces.lookup account).getD 0

/-- Set how many transactions an account has sent. -/
def setNonce (account : Address) (nonce : Int) (chain : RehearsalChain) : RehearsalChain :=
  { chain with nonces := Table.put account nonce chain.nonces }

/-- Put code at an address. -/
def addCode (account : Address) (chain : RehearsalChain) : RehearsalChain :=
  if chain.code.contains account then chain else { chain with code := chain.code ++ [account] }

/-- Let a proxy point to an implementation. -/
def setImplementation (proxy : Address) (value : Option String) (chain : RehearsalChain) :
    RehearsalChain :=
  { chain with implementations := Table.put proxy value chain.implementations }

/-- Give a proxy an administrator. -/
def setAdmin (proxy : Address) (value : Option String) (chain : RehearsalChain) :
    RehearsalChain :=
  { chain with admins := Table.put proxy value chain.admins }

/-- Fail if the question of a name is to fail, once. -/
def failIfArmed (name : String) : Task Unit := do
  match (← get).armed.lookup name with
  | none => pure ()
  | some failure =>
    modify fun chain => { chain with armed := chain.armed.filter (·.1 != name) }
    throw failure

/-- What a deployed proxy keeps: its implementation, and an administrator of its own. -/
def fillSlots (contract : String) (arguments : List Argument) (proxy : Address) : Task Unit := do
  let uups := ProxyKind.uups.artifactName
  let transparent := ProxyKind.transparent.artifactName
  match arguments with
  | first :: _ =>
    if contract = uups || contract = transparent then
      let given := match first with
        | .value value => value
        | .data _ => .null
      let implementation ← ExceptT.mk (pure (Address.ofJson given))
      modify (setImplementation proxy (some implementation.text))
      if contract = transparent && !(← get).options.noAdminSlot then
        let admin := proxy.created 1
        modify (setAdmin proxy (some admin.text))
        modify (addCode admin)
  | [] => pure ()

/-- Create a contract. -/
def deploy (artifact : Artifact) (arguments : List Argument) (sender : String) : Task String := do
  let sender ← address sender
  modify fun chain => chain.setNonce sender (chain.nonceOf sender + chain.options.interleaved)
  modify fun chain => { chain with options := { chain.options with interleaved := 0 } }
  let nonce := (← get).nonceOf sender
  let created ← ExceptT.mk (pure (Address.predict (.string sender.text) nonce))
  modify fun chain => (chain.setNonce sender (nonce + 1)).addCode created
  fillSlots artifact.name arguments created
  let options := (← get).options
  pure (options.deployReturns.getD
    (if options.lowercase then created.text.toLower else created.text))

/-- Let a proxy point to another implementation. -/
def upgrade (proxy implementation : Address) : Task Unit := do
  if !(← get).options.ignoreUpgrades then
    modify (setImplementation proxy (some implementation.text))

/-- What a question to the chain does. What is not put to the chain has no answer here. -/
def respond : (question : Question) → Task question.Answer
  | .transactionCount account => do
    let account ← address account
    pure ((← get).nonceOf account)
  | .deploy artifact arguments sender => deploy artifact arguments sender
  | .upgrade proxy implementation _ _ => upgrade proxy implementation
  | .upgradeAndCall proxy implementation _ _ _ => upgrade proxy implementation
  | .hasCode account => do pure ((← get).code.contains account)
  | .implementationOf proxy => do pure ((← get).implementations.lookup proxy).join
  | .adminOf proxy => do pure ((← get).admins.lookup proxy).join
  | .label account name =>
    modify fun chain => { chain with labels := Table.put account name chain.labels }
  | .artifact _ => throw (.plain .operation)
  | .layout _ => throw (.plain .operation)
  | .announce _ => pure ()

/-- Answer a question to the chain. -/
def answer (question : Question) : Task question.Answer := do
  failIfArmed question.name
  respond question

end RehearsalChain

end UpgradeGate
