import UpgradeGate.Chain.Creation
import UpgradeGate.Deployment.Record
import UpgradeGate.Workflow.Program

/-!
# The chain behind a node

How what the workflow asks of the chain becomes calls to a node, which holds the accounts and signs
for them. A proxy keeps the addresses of its implementation and of its administrator in storage
slots that are fixed by convention. An upgrade is sent to the administrator where there is one, and
to the proxy itself otherwise. A transaction counts as failed when the status of its receipt is not
one.
-/

namespace UpgradeGate

/-- What a transaction is sent to. -/
inductive Target where
  | creation (interface : List Json) (bytecode : String)
  | contract (address : Address)

/-- A transaction: a function of a target, its arguments, and the account that pays. -/
structure Transaction where
  target : Target
  function : String
  arguments : List Argument
  sender : Address

/-- What a node reports of a mined transaction. -/
structure Receipt where
  status : Json
  contract : Json
  deriving Inhabited

/-- A call to a node. -/
inductive NodeCall where
  | transactionCount (account : Address)
  | code (address : Address)
  | storage (address : Address) (slot : Nat)
  | transact (transaction : Transaction)
  | receipt (transaction : Bytes) (patience : Nat)

/-- What a node answers. -/
abbrev NodeCall.Answer : NodeCall → Type
  | .transactionCount _ => Int
  | .code _ => Bytes
  | .storage _ _ => Bytes
  | .transact _ => Bytes
  | .receipt _ _ => Receipt

/-- The interface to a node. Any call may fail. -/
abbrev nodes : Interface where
  Call := NodeCall
  Reply := fun call => Except Failure call.Answer

namespace Node

/-- Names of addresses, in order of first use. -/
abbrev Labels := List (Address × String)

/-- Something done with a node; names of addresses are kept here. -/
abbrev Task := ExceptT Failure (StateT Labels (Program nodes))

/-- Where a proxy keeps the address of its implementation. -/
def implementationSlot : Nat :=
  0x360894a13ba1a3210667c828492db98dca3e2076cc3735a920a3ca505d382bbc

/-- Where a proxy keeps the address of its administrator. -/
def adminSlot : Nat := 0xb53127684a568b3173ae13b9f8a6016e243e63b6e8ee1178d6a717850b5d6103

/-- Call the node. -/
def ask (call : NodeCall) : Task call.Answer :=
  ExceptT.mk (StateT.lift (Program.request (I := nodes) call))

/-- The address that a text means. -/
def address [AddressRule] (text : String) : Task Address := ExceptT.mk (pure (Address.parse text))

/-- A value is the number one. -/
def isOne : Json → Bool
  | .int value => value == 1
  | .bool value => value
  | .float value => value.isOne
  | _ => false

/-- Wait for the receipt of a transaction, which must have succeeded. -/
def settled (patience : Nat) (transaction : Bytes) (purpose : String) : Task Receipt := do
  let receipt ← ask (.receipt transaction patience)
  if isOne receipt.status then pure receipt
  else throw (.deployment (.reverted transaction purpose))

/-- How many transactions an account has sent. -/
def transactionCount [AddressRule] (account : String) : Task Int := do
  ask (.transactionCount (← address account))

/-- Create a contract. -/
def deploy [AddressRule] (patience : Nat) (artifact : Artifact) (arguments : List Argument)
    (sender : String) :
    Task String := do
  let sender ← address sender
  let transaction ← ask (.transact
    ⟨.creation artifact.interface artifact.bytecode, "constructor", arguments, sender⟩)
  let receipt ← settled patience transaction ("deploy " ++ artifact.name)
  let created ← ExceptT.mk (pure (Address.ofJson receipt.contract))
  pure created.text

/-- Let a proxy point to another implementation, and call that with data. -/
def upgradeAndCall [AddressRule] (patience : Nat) (proxy implementation : String) (data : Bytes)
    (sender : String) (admin : Option String) : Task Unit := do
  let proxy ← address proxy
  let implementation ← address implementation
  let (target, function, arguments) ← match admin.filter (!·.isEmpty) with
    | some admin => do
      let admin ← address admin
      pure (admin, "upgradeAndCall",
        [Argument.text proxy.text, .text implementation.text, .data data])
    | none => pure (proxy, "upgradeToAndCall", [Argument.text implementation.text, .data data])
  let sender ← address sender
  let transaction ← ask (.transact ⟨.contract target, function, arguments, sender⟩)
  let _ ← settled patience transaction ("upgrade " ++ proxy.text)

/-- Let a proxy point to another implementation: a call with no data. -/
def upgrade [AddressRule] (patience : Nat) (proxy implementation sender : String)
    (admin : Option String) :
    Task Unit :=
  upgradeAndCall patience proxy implementation [] sender admin

/-- Whether there is a contract at an address. -/
def hasCode [AddressRule] (account : String) : Task Bool := do
  let code ← ask (.code (← address account))
  pure (!code.isEmpty)

/-- The last 20 bytes of a storage word, unless all of them are zero. -/
def addressOfWord (word : Bytes) : Option Bytes :=
  let tail := word.drop (word.length - 20)
  if tail.all (· == 0) then none else some tail

/-- The address in a slot of a contract. -/
def slotAddress [AddressRule] (account : String) (slot : Nat) : Task (Option String) := do
  let word ← ask (.storage (← address account) slot)
  match addressOfWord word with
  | none => pure none
  | some bytes => do
    let found ← address ("0x" ++ Bytes.hexText bytes)
    pure (some found.text)

/-- What a proxy points to. -/
def implementationOf [AddressRule] (proxy : String) :
    Task (Option String) := slotAddress proxy implementationSlot

/-- The administrator of a proxy. -/
def adminOf [AddressRule] (proxy : String) : Task (Option String) := slotAddress proxy adminSlot

/-- Give an address a name. -/
def label [AddressRule] (account name : String) : Task Unit := do
  let account ← address account
  modify (Table.put account name)

end Node

end UpgradeGate
