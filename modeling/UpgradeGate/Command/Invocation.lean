import UpgradeGate.Command.Words
import UpgradeGate.Number.Literal

/-!
# Commands

What the command line can be asked to do, and how its words say so. Switches that hold for all
commands stand in front of the command.
-/

namespace UpgradeGate

/-- A command and what it is about. -/
inductive Command where
  | layoutSnapshot (contract : String)
  | layoutShow (contract : String)
  | layoutList (all : Bool)
  | layoutDiff (contract : String)
  | deploy (contract : String) (arguments : List String)
  | deployProxy (contract kind : String) (admin : Option String) (initData : String)
  /-- Upgrade a proxy; with data, also call the new implementation. -/
  | upgrade (proxy contract : String) (data : Option String) (override : Bool)
      (admin : Option String) (asJson : Bool)
  | predictAddress (sender : String) (nonce : Option Int)
  | history (contract : Option String) (all : Bool)
  | metrics
  deriving DecidableEq, Repr

/-- A command with the switches that hold for all commands. -/
structure Invocation where
  network : Option String
  endpoint : Option String
  sender : Option String
  project : String
  home : Option String
  command : Command
  deriving DecidableEq, Repr

namespace Invocation

/-- The switch for help, which every form has. -/
def helpSwitch : Switch := ⟨"help", ["-h", "--help"], false⟩

/-- A switch with a value. -/
def valued (name : String) : Switch := ⟨name, ["--" ++ name], true⟩

/-- A switch without a value. -/
def flag (name : String) : Switch := ⟨name, ["--" ++ name], false⟩

/-- What stands in front of a command, and the command. -/
def mainForm : Form :=
  ⟨[helpSwitch, valued "network", valued "rpc", valued "sender", valued "project", valued "home",
    ⟨"verbose", ["-v", "--verbose"], false⟩], [.rest]⟩

/-- A form with switches and places of its own. -/
def form (switches : List Switch) (places : List Arity) : Form := ⟨helpSwitch :: switches, places⟩

/-- The value of a switch. -/
def setting? (filled : Filled) (key : String) : Option String := filled.settings.lookup key

/-- A switch was given. -/
def isSet (filled : Filled) (key : String) : Bool := (setting? filled key).isSome

/-- A command, and whether words are left for which its form has no place. -/
abbrev Parsed := Except Usage (Command × Bool)

/-- Fill the form of a command and read the command off it. -/
def parsed (form : Form) (words : List String) (read : Filled → Option Command) : Parsed := do
  let filled ← Words.fill form words
  match read filled with
  | some command => pure (command, filled.strays)
  | none => throw .misuse

/-- The commands about layouts. -/
def layoutCommand (words : List String) : Parsed := do
  let filled ← Words.fill (form [] [.rest]) words
  let (command, strays) ← match filled.groups with
    | [name :: rest] =>
      let about (command : String → Command) : Parsed :=
        parsed (form [] [.one]) rest fun filled => match filled.groups with
          | [[contract]] => some (command contract)
          | _ => none
      if name = "snapshot" then about .layoutSnapshot
      else if name = "show" then about .layoutShow
      else if name = "diff" then about .layoutDiff
      else if name = "list" then
        parsed (form [flag "all"] []) rest fun filled => some (.layoutList (isSet filled "all"))
      else throw .misuse
    | _ => throw .misuse
  pure (command, strays || filled.strays)

/-- The switches of an upgrade. -/
def upgradeSwitches : List Switch := [flag "override", valued "admin", flag "json"]

/-- The command that a word names, with the words behind it. -/
def named (name : String) (words : List String) : Parsed :=
  if name = "layout" then layoutCommand words
  else if name = "deploy" then
    parsed (form [] [.one, .many]) words fun filled => match filled.groups with
      | [[contract], arguments] => some (.deploy contract arguments)
      | _ => none
  else if name = "deploy-proxy" then
    parsed (form [valued "kind", valued "admin", valued "init-data"] [.one]) words fun filled =>
      match filled.groups with
      | [[contract]] => some (.deployProxy contract ((setting? filled "kind").getD "uups")
          (setting? filled "admin") ((setting? filled "init-data").getD ""))
      | _ => none
  else if name = "upgrade" then
    parsed (form upgradeSwitches [.one, .one]) words fun filled => match filled.groups with
      | [[proxy], [contract]] => some (.upgrade proxy contract none (isSet filled "override")
          (setting? filled "admin") (isSet filled "json"))
      | _ => none
  else if name = "upgrade-and-call" then
    parsed (form upgradeSwitches [.one, .one, .one]) words fun filled => match filled.groups with
      | [[proxy], [contract], [data]] => some (.upgrade proxy contract (some data)
          (isSet filled "override") (setting? filled "admin") (isSet filled "json"))
      | _ => none
  else if name = "predict-address" then
    parsed (form [] [.one, .number]) words fun filled => match filled.groups with
      | [[sender], []] => some (.predictAddress sender none)
      | [[sender], [nonce]] => (Literal.plain? nonce).map fun n => .predictAddress sender (some n)
      | _ => none
  else if name = "history" then
    parsed (form [valued "contract", flag "all"] []) words fun filled =>
      some (.history (setting? filled "contract") (isSet filled "all"))
  else if name = "metrics" then parsed (form [] []) words fun _ => some .metrics
  else .error .misuse

/-- Read a command line. -/
def ofWords (words : List String) : Except Usage Invocation := do
  let filled ← Words.fill mainForm words
  match filled.groups with
  | [name :: rest] =>
    let (command, strays) ← named name rest
    if strays || filled.strays then throw .misuse
    pure
      { network := setting? filled "network"
        endpoint := setting? filled "rpc"
        sender := setting? filled "sender"
        project := (setting? filled "project").getD "."
        home := setting? filled "home"
        command }
  | _ => throw .misuse

end Invocation

end UpgradeGate
