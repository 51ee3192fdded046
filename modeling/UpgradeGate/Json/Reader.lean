import UpgradeGate.Json.Basic
import UpgradeGate.Text.Scan

/-!
# Reading JSON

A reader of JSON documents over their characters. It takes `NaN`, `Infinity` and `-Infinity` as
numbers, refuses control characters inside strings, and lets the last of several members with one
key win. A document that is refused is described by what was expected and where.

An escape of half a surrogate pair names no character. Tool output may hold one, and reads as the
replacement character; in a stored record it is refused.
-/

namespace UpgradeGate.Json

open Text

/-- What a reader found wrong. -/
inductive Complaint where
  | byteOrderMark
  | value
  | propertyName
  | comma
  | colon
  | extraData
  | unterminatedString
  | controlCharacter
  | escape
  | unicodeEscape
  deriving DecidableEq, Repr

/-- The wording of a complaint. -/
def Complaint.message : Complaint → String
  | .byteOrderMark => "Unexpected UTF-8 BOM (decode using utf-8-sig)"
  | .value => "Expecting value"
  | .propertyName => "Expecting property name enclosed in double quotes"
  | .comma => "Expecting ',' delimiter"
  | .colon => "Expecting ':' delimiter"
  | .extraData => "Extra data"
  | .unterminatedString => "Unterminated string starting at"
  | .controlCharacter => "Invalid control character at"
  | .escape => "Invalid \\escape"
  | .unicodeEscape => "Invalid \\uXXXX escape"

/-- A complaint and the part of the document it points at the start of. -/
structure Refusal where
  complaint : Complaint
  remaining : List Char

/-- What a reader makes of a text: a result and the text behind it, or a refusal. -/
abbrev Reading (α : Type) := Except Refusal (α × List Char)

/-- The space that may stand between the tokens of a document. -/
def isSpacing (c : Char) : Bool := c == ' ' || c == '\t' || c == '\n' || c == '\r'

/-- Skip space. -/
def skip (text : List Char) : List Char := text.dropWhile isSpacing

/-! ## Strings -/

/-- The value of four hexadecimal digits. -/
def codeUnit? (a b c d : Char) : Option Nat := do
  let a ← hexValue? a
  let b ← hexValue? b
  let c ← hexValue? c
  let d ← hexValue? d
  pure (((a * 16 + b) * 16 + c) * 16 + d)

/-- The first half of a surrogate pair. -/
def isHighSurrogate (unit : Nat) : Bool := 0xD800 ≤ unit && unit < 0xDC00

/-- The second half of a surrogate pair. -/
def isLowSurrogate (unit : Nat) : Bool := 0xDC00 ≤ unit && unit < 0xE000

/-- The characters of code units, each pair of surrogates being one character. `half` is what half a
pair reads as, if it may occur. -/
def ofCodeUnits? (half : Option Char) : List Nat → Option (List Char)
  | [] => some []
  | [unit] => do
    let c ← if isHighSurrogate unit || isLowSurrogate unit then half else some (Char.ofNat unit)
    pure [c]
  | unit :: next :: rest =>
    if isHighSurrogate unit && isLowSurrogate next then do
      let chars ← ofCodeUnits? half rest
      pure (Char.ofNat (0x10000 + (unit - 0xD800) * 0x400 + (next - 0xDC00)) :: chars)
    else do
      let c ← if isHighSurrogate unit || isLowSurrogate unit then half else some (Char.ofNat unit)
      let chars ← ofCodeUnits? half (next :: rest)
      pure (c :: chars)

/-- The character after a backslash, apart from `u`. -/
def simpleEscape? (c : Char) : Option Char :=
  if c == '"' then some '"'
  else if c == '\\' then some '\\'
  else if c == '/' then some '/'
  else if c == 'b' then some '\x08'
  else if c == 'f' then some '\x0c'
  else if c == 'n' then some '\n'
  else if c == 'r' then some '\r'
  else if c == 't' then some '\t'
  else none

/-- A code unit in front of what was read of the rest. -/
def Reading.push (unit : Nat) (rest : Reading (List Nat)) : Reading (List Nat) :=
  rest.map fun (units, text) => (unit :: units, text)

/-- The code units of a string up to its closing quote. An escape by number must not be the last
thing of the document. `opening` is the document from the opening quote on. -/
def readCodeUnits (opening : List Char) : List Char → Reading (List Nat)
  | [] => .error ⟨.unterminatedString, opening⟩
  | '"' :: rest => .ok ([], rest)
  | ['\\'] => .error ⟨.unterminatedString, opening⟩
  | '\\' :: 'u' :: a :: b :: c :: d :: rest =>
    match codeUnit? a b c d, rest.isEmpty with
    | some unit, false => (readCodeUnits opening rest).push unit
    | _, _ => .error ⟨.unicodeEscape, 'u' :: a :: b :: c :: d :: rest⟩
  | '\\' :: 'u' :: rest => .error ⟨.unicodeEscape, 'u' :: rest⟩
  | '\\' :: c :: rest =>
    match simpleEscape? c with
    | some plain => (readCodeUnits opening rest).push plain.toNat
    | none => .error ⟨.escape, '\\' :: c :: rest⟩
  | c :: rest =>
    if c.toNat < 0x20 then .error ⟨.controlCharacter, c :: rest⟩
    else (readCodeUnits opening rest).push c.toNat

/-- The string behind an opening quote. -/
def readString (half : Option Char) (opening text : List Char) : Reading String :=
  match readCodeUnits opening text with
  | .error refusal => .error refusal
  | .ok (units, rest) =>
    match ofCodeUnits? half units with
    | some chars => .ok (String.ofList chars, rest)
    | none => .error ⟨.unicodeEscape, opening⟩

/-! ## Numbers -/

/-- The number that ASCII digits write. -/
def digitsValue (digits : List Char) : Nat :=
  digits.foldl (fun total c => 10 * total + (c.toNat - 48)) 0

/-- The digits after a point, if the text starts with a point and a digit. -/
def readFraction (text : List Char) : List Char × List Char :=
  match text with
  | '.' :: rest =>
    let digits := rest.takeWhile Char.isDigit
    if digits.isEmpty then ([], text) else (digits, rest.dropWhile Char.isDigit)
  | _ => ([], text)

/-- The exponent, if the text starts with one. -/
def readExponent (text : List Char) : Option Int × List Char :=
  let digitsOf (negative : Bool) (rest : List Char) : Option Int × List Char :=
    let digits := rest.takeWhile Char.isDigit
    if digits.isEmpty then (none, text)
    else
      let size : Int := digitsValue digits
      (some (if negative then -size else size), rest.dropWhile Char.isDigit)
  match text with
  | c :: rest =>
    if c == 'e' || c == 'E' then
      match rest with
      | '-' :: rest => digitsOf true rest
      | '+' :: rest => digitsOf false rest
      | rest => digitsOf false rest
    else (none, text)
  | [] => (none, text)

/-- A number without its sign: digits without a leading zero, a fraction, an exponent. -/
def readUnsigned? (negative : Bool) (text : List Char) : Option (Json × List Char) :=
  let digits := text.takeWhile Char.isDigit
  let whole := if digits.head? == some '0' then ['0'] else digits
  if whole.isEmpty then none
  else
    let (fraction, rest) := readFraction (text.drop whole.length)
    let (exponent, rest) := readExponent rest
    let value :=
      if fraction.isEmpty && exponent.isNone then
        let size : Int := digitsValue whole
        Json.int (if negative then -size else size)
      else
        Json.float (Binary64.ofDecimal negative (digitsValue (whole ++ fraction))
          (exponent.getD 0 - fraction.length))
    some (value, rest)

/-- The words that stand for a value. -/
def words : List (List Char × Json) :=
  [("null".toList, .null), ("true".toList, .bool true), ("false".toList, .bool false),
    ("NaN".toList, .float .nan), ("Infinity".toList, .float (.infinite false)),
    ("-Infinity".toList, .float (.infinite true))]

/-- A word or a number. -/
def readScalar (text : List Char) : Reading Json :=
  let word? := words.findSome? fun (word, value) =>
    (behind? word text).map fun rest => (value, rest)
  let found := word?.orElse fun _ =>
    match text with
    | '-' :: rest => readUnsigned? true rest
    | _ => readUnsigned? false text
  match found with
  | some result => .ok result
  | none => .error ⟨.value, text⟩

/-! ## Documents -/

mutual

/-- The value at the start of a text, with nesting up to `fuel`. -/
def readValue (half : Option Char) : (fuel : Nat) → List Char → Reading Json
  | 0, text => .error ⟨.value, text⟩
  | fuel + 1, text =>
    match text with
    | '"' :: rest =>
      (readString half text rest).map fun (value, rest) => (.string value, rest)
    | '[' :: rest =>
      match skip rest with
      | ']' :: rest => .ok (.array [], rest)
      | rest => (readItems half fuel rest).map fun (items, rest) => (.array items, rest)
    | '\x7b' :: rest =>
      match skip rest with
      | '\x7d' :: rest => .ok (.object [], rest)
      | rest =>
        (readMembers half fuel [] rest).map fun (members, rest) => (.object members, rest)
    | _ => readScalar text

/-- The items of an array that is not empty, up to the closing bracket. -/
def readItems (half : Option Char) : (fuel : Nat) → List Char → Reading (List Json)
  | 0, text => .error ⟨.value, text⟩
  | fuel + 1, text =>
    match readValue half fuel text with
    | .error refusal => .error refusal
    | .ok (item, rest) =>
      match skip rest with
      | ']' :: rest => .ok ([item], rest)
      | ',' :: rest =>
        (readItems half fuel (skip rest)).map fun (items, rest) => (item :: items, rest)
      | rest => .error ⟨.comma, rest⟩

/-- The members of an object that is not empty, up to the closing brace, added to those that were
read before. -/
def readMembers (half : Option Char) : (fuel : Nat) → Members → List Char → Reading Members
  | 0, _, text => .error ⟨.value, text⟩
  | fuel + 1, before, text =>
    match text with
    | '"' :: rest =>
      match readString half text rest with
      | .error refusal => .error refusal
      | .ok (key, rest) =>
        match skip rest with
        | ':' :: rest =>
          match readValue half fuel (skip rest) with
          | .error refusal => .error refusal
          | .ok (value, rest) =>
            let members := set before key value
            match skip rest with
            | '\x7d' :: rest => .ok (members, rest)
            | ',' :: rest => readMembers half fuel members (skip rest)
            | rest => .error ⟨.comma, rest⟩
        | rest => .error ⟨.colon, rest⟩
    | _ => .error ⟨.propertyName, text⟩

end

/-- A whole document, with nothing but space around its value. -/
def readDocument (half : Option Char) (text : List Char) : Except Refusal Json :=
  match text with
  | '\uFEFF' :: _ => .error ⟨.byteOrderMark, text⟩
  | _ =>
    -- every level of nesting and every item takes up a character
    match readValue half (2 * text.length + 2) (skip text) with
    | .error refusal => .error refusal
    | .ok (value, rest) =>
      match skip rest with
      | [] => .ok value
      | rest => .error ⟨.extraData, rest⟩

/-- Where a refusal points, as line, column and character of the document. -/
def Refusal.place (refusal : Refusal) (text : List Char) : Nat × Nat × Nat :=
  let before := text.take (text.length - refusal.remaining.length)
  let line := before.count '\n' + 1
  let column := (before.reverse.takeWhile (· != '\n')).length + 1
  (line, column, before.length)

/-- The wording of a refusal of a document. -/
def Refusal.message (refusal : Refusal) (text : List Char) : String :=
  let (line, column, position) := refusal.place text
  refusal.complaint.message ++ ": line " ++ naturalText line ++ " column " ++
    naturalText column ++ " (char " ++ naturalText position ++ ")"

/-- Read the output of a tool. -/
def ofToolOutput (text : String) : Except String Json :=
  (readDocument (some '\uFFFD') text.toList).mapError (·.message text.toList)

/-- Read a stored record. -/
def ofStoredText? (text : String) : Option Json := (readDocument none text.toList).toOption

end UpgradeGate.Json
