import UpgradeGate.Failure

/-!
# Proxy kinds

A proxy is upgraded by its own code (`uups`), or by an administrator contract that it creates for
an owner (`transparent`). The kind decides which contract is deployed as the proxy and what its
constructor is given.
-/

namespace UpgradeGate

/-- A kind of proxy. -/
inductive ProxyKind where
  | uups
  | transparent
  deriving DecidableEq, Repr

/-- An argument of a constructor. -/
inductive Argument where
  | value (value : Json)
  | data (bytes : Bytes)
  deriving Inhabited

/-- A text as an argument. -/
def Argument.text (text : String) : Argument := .value (.string text)

namespace ProxyKind

/-- The name of a kind. -/
def name : ProxyKind → String
  | .uups => "uups"
  | .transparent => "transparent"

/-- The kind of a name. -/
def ofName? (name : String) : Option ProxyKind :=
  if name = "uups" then some .uups
  else if name = "transparent" then some .transparent
  else none

/-- A kind is found by its name. -/
theorem ofName?_name (kind : ProxyKind) : ofName? kind.name = some kind := by
  cases kind <;> rfl

/-- The kind that a caller means, whatever blanks and capitals it comes with. Only ASCII letters
are capitals of the letters in these names. -/
def parse (given : Json) : Except Failure ProxyKind :=
  match ofName? (Text.trimmed given.shown).toLower with
  | some kind => .ok kind
  | none => .error (.deployment (.unsupportedProxyKind given.shown))

/-- The kind of an exact name. -/
def ofExactName (given : Json) : Except Failure ProxyKind :=
  match given with
  | .string name =>
    match ofName? name with
    | some kind => .ok kind
    | none => .error (.value (.notAProxyKind given))
  | _ => .error (.value (.notAProxyKind given))

/-- The contract that is deployed as the proxy. -/
def artifactName : ProxyKind → String
  | .uups => "ERC1967Proxy"
  | .transparent => "TransparentUpgradeableProxy"

/-- The proxy is upgraded through an administrator. -/
def requiresAdmin : ProxyKind → Bool
  | .uups => false
  | .transparent => true

/-- What the constructor of the proxy is given. -/
def constructorArguments (kind : ProxyKind) (implementation : String) (initData : Bytes)
    (admin : Option String) : Except Failure (List Argument) :=
  match kind with
  | .uups => .ok [.text implementation, .data initData]
  | .transparent =>
    match admin with
    | some owner =>
      if owner.isEmpty then .error (.deployment .adminRequired)
      else .ok [.text implementation, .text owner, .data initData]
    | none => .error (.deployment .adminRequired)

end ProxyKind

end UpgradeGate
