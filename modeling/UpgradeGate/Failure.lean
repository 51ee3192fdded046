import UpgradeGate.Chain.Address
import UpgradeGate.Json.Reader
import UpgradeGate.Layout.Basic
import UpgradeGate.Number.Literal
import UpgradeGate.Text.Utf8

/-!
# Failures

What can go wrong, by cause, with its wording and the family it belongs to. Families matter to
callers: the command line reports some of them and lets the others through, and the upgrade
workflow counts those of deployments.
-/

namespace UpgradeGate

/-- The family of a failure. -/
inductive Kind where
  /-- A command that cannot be carried out as given. -/
  | command
  /-- A storage layout that is invalid or cannot be read. -/
  | layout
  /-- An artifact or a layout that the toolchain does not deliver. -/
  | toolchain
  /-- A deployment or an upgrade that has to stop. -/
  | deployment
  | unsupportedProxyKind
  | missingAdmin
  | addressMismatch
  | transactionReverted
  | notAContract
  | upgradeNotApplied
  /-- A value outside its range. -/
  | value
  /-- A file that is not UTF-8. -/
  | undecodable
  /-- A document that breaks the rules of its fields. -/
  | validation
  | connection
  | runtime
  /-- A value of the wrong shape. -/
  | shape
  /-- An operation that a value does not have. -/
  | operation
  | missingKey
  | missingIndex
  /-- A number that is not finite where an integer is needed. -/
  | overflow
  /-- A deployment log that is closed or not opened yet. -/
  | closedLog
  /-- A row without a column that it must have. -/
  | incompleteRow
  /-- A database file that cannot be opened. -/
  | unopenable
  /-- A file that is no database. -/
  | notADatabase
  | fileExists
  | fileMissing
  | notADirectory
  | isADirectory
  /-- A file name that is too long. -/
  | fileName
  deriving DecidableEq, Repr

namespace Kind

/-- The families that stop a deployment or an upgrade. -/
def isDeployment : Kind → Bool
  | .deployment | .unsupportedProxyKind | .missingAdmin | .addressMismatch
  | .transactionReverted | .notAContract | .upgradeNotApplied => true
  | _ => false

/-- The families that the command line reports in a message of its own. -/
def isReported : Kind → Bool
  | .command | .layout | .toolchain | .value | .undecodable | .validation => true
  | kind => kind.isDeployment

end Kind

/-! ## Rules of fields -/

/-- A rule that a field of a document breaks. -/
inductive Rule where
  | missing
  | stringType
  | stringTooShort
  | intType
  | intParsing
  | intParsingSize
  | intFromFloat
  | finiteNumber
  | atLeast
  | atMost
  | objectType
  | tupleType
  | listType
  | choice
  | invalidJson
  deriving DecidableEq, Repr

/-- The name of a rule in reports. -/
def Rule.name : Rule → String
  | .missing => "missing"
  | .stringType => "string_type"
  | .stringTooShort => "string_too_short"
  | .intType => "int_type"
  | .intParsing => "int_parsing"
  | .intParsingSize => "int_parsing_size"
  | .intFromFloat => "int_from_float"
  | .finiteNumber => "finite_number"
  | .atLeast => "greater_than_equal"
  | .atMost => "less_than_equal"
  | .objectType => "model_type"
  | .tupleType => "tuple_type"
  | .listType => "list_type"
  | .choice => "enum"
  | .invalidJson => "json_invalid"

/-- A broken rule and the path to the field that breaks it; the empty path is the document. -/
structure Issue where
  path : List String
  rule : Rule
  deriving DecidableEq, Repr

namespace Issue

/-- The path as one text. -/
def place (issue : Issue) : String := ".".intercalate issue.path

/-- The issue of a field inside a larger document. -/
def under (issue : Issue) (step : String) : Issue := { issue with path := step :: issue.path }

/-- The issues of a document within a sentence. -/
def summary (issues : List Issue) : String :=
  "<" ++ "; ".intercalate (issues.map fun issue => issue.place ++ "=" ++ issue.rule.name) ++ ">"

end Issue

/-- The kinds of documents whose fields have rules. -/
inductive Document where
  | entry
  | layout
  | layoutRecord
  | deploymentRecord
  | artifact
  deriving DecidableEq, Repr

/-! ## Causes -/

/-- What is wrong with an item of a compiler's storage layout. -/
inductive ItemFault where
  | missingKey (key : String)
  | notAnObject (item : Json)
  | badNumeral (base : Nat) (text : String)
  /-- A decimal numeral with more digits than may be read. -/
  | longNumeral (digits : Nat)
  | notANumber (value : Json)
  | noNumber
  | invalid (issues : List Issue)

/-- What is wrong with a storage layout. -/
inductive LayoutFault where
  | samePosition (earlier later : Entry)
  | outOfOrder (earlier later : Entry)
  | noStorageList
  | malformedItem (item : Json) (fault : ItemFault)
  | malformedFile (path : String) (issues : List Issue)
  | wrongHash (path : String)
  | unreadableOutput (contract reason : String)

/-- What the toolchain failed to deliver. -/
inductive ToolchainFault where
  | noArtifact (contract folder : String)
  | unreadableArtifact (path reason : String)
  | noBytecode (contract : String)
  | emptyBytecode (contract : String)
  | binaryMissing (binary : String)
  | failed (command errors : String)
  | noLayout (contract : String)

/-- Why a deployment or an upgrade stopped. -/
inductive DeploymentFault where
  | unsupportedProxyKind (given : String)
  | adminRequired
  | adminRequiredFor (contract : String)
  | adminUnknown (proxy : Address)
  | addressMismatch (predicted : String) (actual : Address)
  | reverted (transaction : Bytes) (purpose : String)
  | notAContract (admin : Address)
  | notApplied (proxy expected : Address) (actual : Option String)

/-- What a name names. -/
inductive NameRole where
  | contract
  | network
  deriving DecidableEq, Repr

/-- What is wrong with a value that was given. -/
inductive ValueFault where
  | invalidAddress (given : String)
  | negativeNonce (nonce : Int)
  | notHexText (given : String)
  | unknownAddressForm (given : Json) (hex : String)
  | invalidName (role : NameRole) (name : String)
  | unknownNetwork (name : String) (known : List String)
  | notAProxyKind (given : Json)
  | negativeIncrement
  | tooFewParts (count : Nat)
  | badNumeral (base : Nat) (text : String)
  /-- A number whose decimal numeral would have more digits than may be written. -/
  | tooManyDigits
  | misplacedStars

/-- What is missing from a command or wrong with it. -/
inductive CommandFault where
  | invalidHex (digits : String)
  | senderRequired

/-- A failure by its cause. -/
inductive Failure where
  | command (fault : CommandFault)
  | layout (fault : LayoutFault)
  | toolchain (fault : ToolchainFault)
  | deployment (fault : DeploymentFault)
  | value (fault : ValueFault)
  | undecodable (fault : Text.Utf8Fault)
  | invalid (document : Document) (issues : List Issue)
  /-- A failure of which its family says all there is to say. -/
  | plain (kind : Kind)
  /-- A failure of a collaborator, in its own words. -/
  | foreign (kind : Kind) (message : String)

/-! ## Wording -/

/-- The wording for a text that is no integer. A long text is cut short. -/
def badNumeralMessage (base : Nat) (text : String) : String :=
  "invalid literal for int() with base " ++ Text.naturalText base ++ ": " ++
    String.ofList ((Text.quotedChars text.toList).take 200)

/-- The wording for a decimal numeral with too many digits. -/
def longNumeralMessage (digits : Nat) : String :=
  "Exceeds the limit (" ++ Text.naturalText Literal.digitLimit ++
    " digits) for integer string conversion: value has " ++ Text.naturalText digits ++
    " digits; use sys.set_int_max_str_digits() to increase the limit"

/-- The wording of what is wrong with an item. -/
def ItemFault.message : ItemFault → String
  | .missingKey key => Text.quoted key
  | .notAnObject (.string _) => "string indices must be integers, not 'str'"
  | .notAnObject (.array _) => "list indices must be integers or slices, not str"
  | .notAnObject item => "'" ++ item.shapeName ++ "' object is not subscriptable"
  | .badNumeral base text => badNumeralMessage base text
  | .longNumeral digits => longNumeralMessage digits
  | .notANumber value =>
    "int() argument must be a string, a bytes-like object or a real number, not '" ++
      value.shapeName ++ "'"
  | .noNumber => "cannot convert float NaN to integer"
  | .invalid issues => Issue.summary issues

/-- The wording of what is wrong with a layout. -/
def LayoutFault.message : LayoutFault → String
  | .samePosition earlier later =>
    "Duplicate storage position slot " ++ Text.naturalText later.slot ++ " offset " ++
      Text.naturalText later.offset ++ " (" ++ earlier.label ++ " / " ++ later.label ++ ")"
  | .outOfOrder earlier later =>
    "Storage entries out of order: " ++ later.describe ++ " after " ++ earlier.describe
  | .noStorageList => "Storage layout must contain a 'storage' list"
  | .malformedItem item fault =>
    "Malformed storage layout item " ++ item.display ++ ": " ++ fault.message
  | .malformedFile path issues =>
    "Layout file " ++ path ++ " is malformed: " ++ Issue.summary issues
  | .wrongHash path => "Layout file " ++ path ++ " failed hash verification"
  | .unreadableOutput contract reason =>
    "forge inspect returned invalid JSON for " ++ contract ++ ": " ++ reason

/-- The wording of what the toolchain failed to deliver. -/
def ToolchainFault.message : ToolchainFault → String
  | .noArtifact contract folder => "No compiled artifact for " ++ contract ++ " under " ++ folder
  | .unreadableArtifact path reason => "Artifact " ++ path ++ " is not valid JSON: " ++ reason
  | .noBytecode contract => "Artifact for " ++ contract ++ " has no bytecode"
  | .emptyBytecode contract => contract ++ " is abstract or an interface (empty bytecode)"
  | .binaryMissing binary => "'" ++ binary ++ "' not found; is Foundry installed?"
  | .failed command errors => command ++ " failed: " ++ errors
  | .noLayout contract => "no layout for " ++ contract

/-- The family of a stopped deployment. -/
def DeploymentFault.kind : DeploymentFault → Kind
  | .unsupportedProxyKind _ => .unsupportedProxyKind
  | .adminRequired | .adminRequiredFor _ | .adminUnknown _ => .missingAdmin
  | .addressMismatch _ _ => .addressMismatch
  | .reverted _ _ => .transactionReverted
  | .notAContract _ => .notAContract
  | .notApplied _ _ _ => .upgradeNotApplied

/-- The wording of why a deployment stopped. -/
def DeploymentFault.message : DeploymentFault → String
  | .unsupportedProxyKind given =>
    "Unsupported proxy kind '" ++ given ++ "' (expected one of: uups, transparent)"
  | .adminRequired => "Transparent proxy requires an admin address"
  | .adminRequiredFor contract =>
    "Transparent proxy for " ++ contract ++ " requires an admin address"
  | .adminUnknown proxy => "No ProxyAdmin known for transparent proxy " ++ proxy.text
  | .addressMismatch predicted actual =>
    "Deployed implementation landed at " ++ actual.text ++ ", expected " ++ predicted ++
      ". Another transaction likely consumed the sender nonce; proxy left untouched."
  | .reverted transaction purpose =>
    "Transaction " ++ Bytes.hexText transaction ++ " (" ++ purpose ++ ") reverted"
  | .notAContract admin =>
    "Admin " ++ admin.text ++ " has no code; pass the ProxyAdmin contract, not its owner"
  | .notApplied proxy expected actual =>
    "Proxy " ++ proxy.text ++ " points to " ++ actual.getD "None" ++
      " after the upgrade, expected " ++ expected.text

/-- The words for what a name names. -/
def NameRole.words : NameRole → String
  | .contract => "contract name"
  | .network => "network id"

/-- The wording of what is wrong with a value. -/
def ValueFault.message : ValueFault → String
  | .invalidAddress given => "Invalid address: " ++ given
  | .negativeNonce nonce => "Nonce must be non-negative, got " ++ Text.integerText nonce
  | .notHexText given =>
    "when sending a str, it must be a hex string. Got: " ++ Text.quoted given
  | .unknownAddressForm given hex =>
    "Unknown format " ++ given.display ++ ", attempted to normalize to " ++ Text.quoted hex
  | .invalidName role name => "Invalid " ++ role.words ++ ": " ++ Text.quoted name
  | .unknownNetwork name known =>
    "Unknown network '" ++ name ++ "' (known: " ++ ", ".intercalate known ++ "); pass an RPC URL"
  | .notAProxyKind given => given.display ++ " is not a valid ProxyKind"
  | .negativeIncrement => "Counters can only be incremented by non-negative amounts."
  | .tooFewParts count =>
    "not enough values to unpack (expected at least 3, got " ++ Text.naturalText count ++ ")"
  | .badNumeral base text => badNumeralMessage base text
  | .tooManyDigits =>
    "Exceeds the limit (" ++ Text.naturalText Literal.digitLimit ++
      " digits) for integer string conversion; " ++
      "use sys.set_int_max_str_digits() to increase the limit"
  | .misplacedStars => "Invalid pattern: '**' can only be an entire path component"

/-- The wording of what is wrong with a command. -/
def CommandFault.message : CommandFault → String
  | .invalidHex digits => "Invalid hex data: " ++ digits
  | .senderRequired => "Sender address required (--sender or SLOTGUARD_SENDER)"

namespace Failure

/-- The family of a failure. -/
def kind : Failure → Kind
  | .command _ => .command
  | .layout _ => .layout
  | .toolchain _ => .toolchain
  | .deployment fault => fault.kind
  | .value _ => .value
  | .undecodable _ => .undecodable
  | .invalid _ _ => .validation
  | .plain kind => kind
  | .foreign kind _ => kind

/-- The wording of a failure; empty where its family says all. -/
def message : Failure → String
  | .command fault => fault.message
  | .layout fault => fault.message
  | .toolchain fault => fault.message
  | .deployment fault => fault.message
  | .value fault => fault.message
  | .undecodable fault => fault.message
  | .invalid _ issues => Issue.summary issues
  | .plain _ => ""
  | .foreign _ message => message

end Failure

end UpgradeGate
