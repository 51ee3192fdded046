import UpgradeGate.Failure

/-!
# Networks

A network has a name, the number that its chain gives itself, an endpoint, and a time to wait for
receipts. Three networks are known; any other name is taken where an endpoint is given, which also
replaces the endpoint of a known network.
-/

namespace UpgradeGate

/-- What the environment of a command gives. -/
structure Environment where
  network : Option String
  endpoint : Option String
  sender : Option String
  home : Option String
  deriving DecidableEq, Repr

/-- The environment whose settings are asked for by name. -/
def Environment.read {m : Type → Type} [Monad m] (setting? : String → m (Option String)) :
    m Environment := do
  pure
    { network := ← setting? "SLOTGUARD_NETWORK"
      endpoint := ← setting? "SLOTGUARD_RPC_URL"
      sender := ← setting? "SLOTGUARD_SENDER"
      home := ← setting? "SLOTGUARD_HOME" }

/-- The environment of some settings. -/
def Environment.ofSettings (settings : List (String × String)) : Environment :=
  Id.run (Environment.read fun name => settings.lookup name)

/-- A text that was given and is not empty. -/
def given? (text : Option String) : Option String := text.filter (!·.isEmpty)

/-- A chain and how it is reached. -/
structure Network where
  name : String
  chain : Option Nat
  endpoint : String
  /-- Seconds to wait for a receipt. -/
  patience : Nat
  deriving DecidableEq, Repr

namespace Network

/-- Seconds to wait for a receipt where nothing else is said. -/
def defaultPatience : Nat := 120

/-- The networks known by name. -/
def known : List Network :=
  [⟨"anvil", some 31337, "http://127.0.0.1:8545", 30⟩,
    ⟨"sepolia", some 11155111, "https://rpc.sepolia.org", defaultPatience⟩,
    ⟨"mainnet", some 1, "https://eth.llamarpc.com", 600⟩]

/-- The network that a name and an endpoint mean, either of which the environment may give. -/
def resolve (name endpoint : Option String) (environment : Environment) :
    Except Failure Network :=
  let name := (given? name).getD (environment.network.getD "anvil")
  let endpoint := (given? endpoint).orElse fun _ => given? environment.endpoint
  match known.find? (·.name == name), endpoint with
  | some network, some url => .ok { network with endpoint := url }
  | some network, none => .ok network
  | none, some url => .ok ⟨name, none, url, defaultPatience⟩
  | none, none => .error (.value (.unknownNetwork name (known.map Network.name)))

/-- The network in words. -/
def describe (network : Network) : String :=
  "NetworkConfig(" ++ network.name ++ ", chain_id=" ++
    (match network.chain with
      | some chain => Text.naturalText chain
      | none => "None") ++ ")"

/-- The network is known as it is. -/
def isKnown (network : Network) : Bool := known.contains network

end Network

/-- The folder that holds the state of the command line. -/
def homeFolder (home : Option String) (environment : Environment) : String :=
  (given? home).getD (environment.home.getD "./.slotguard")

end UpgradeGate
