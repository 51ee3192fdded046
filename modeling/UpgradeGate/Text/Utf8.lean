import UpgradeGate.Text.Decimal

/-!
# UTF-8 files

Text files are UTF-8. A file that is not is described by the first sequence that no character has:
where it stands, how many of its bytes were read as one sequence, and why that sequence ends there.
Reading a text file turns the line ends `\r\n` and `\r` into `\n`.

Main statement: what was written as text is read back unchanged unless it holds a carriage return
(`fileText?_toUTF8`).
-/

namespace UpgradeGate.Text

/-- Why bytes are no character. -/
inductive Utf8Reason where
  | invalidStart
  | invalidContinuation
  | unexpectedEnd
  deriving DecidableEq, Repr

/-- The wording of a reason. -/
def Utf8Reason.message : Utf8Reason → String
  | .invalidStart => "invalid start byte"
  | .invalidContinuation => "invalid continuation byte"
  | .unexpectedEnd => "unexpected end of data"

/-- A sequence of bytes that is no character: its position, its bytes, and what is wrong with it. -/
structure Utf8Fault where
  position : Nat
  bytes : List UInt8
  reason : Utf8Reason
  deriving DecidableEq, Repr

/-- The wording of a fault. One byte is shown by its value, several by where they stand. -/
def Utf8Fault.message (fault : Utf8Fault) : String :=
  let place :=
    match fault.bytes with
    | [byte] => "byte 0x" ++ String.ofList (hexFixed 2 byte.toNat) ++ " in position " ++
        naturalText fault.position
    | bytes => "bytes in position " ++ naturalText fault.position ++ "-" ++
        naturalText (fault.position + bytes.length - 1)
  "'utf-8' codec can't decode " ++ place ++ ": " ++ fault.reason.message

/-- The least and the greatest second byte after a first byte, and the number of bytes that follow
the first one; nothing where no character starts with that byte. -/
def sequenceShape (first : UInt8) : Option (UInt8 × UInt8 × Nat) :=
  if first < 0x80 then some (0, 0, 0)
  else if first < 0xC2 then none
  else if first < 0xE0 then some (0x80, 0xBF, 1)
  else if first == 0xE0 then some (0xA0, 0xBF, 2)
  else if first == 0xED then some (0x80, 0x9F, 2)
  else if first < 0xF0 then some (0x80, 0xBF, 2)
  else if first == 0xF0 then some (0x90, 0xBF, 3)
  else if first < 0xF4 then some (0x80, 0xBF, 3)
  else if first == 0xF4 then some (0x80, 0x8F, 3)
  else none

/-- Read `needed` continuation bytes, the first of them between `low` and `high`: how many fit, and
what stopped the reading early. -/
def continuation (low high : UInt8) : (needed : Nat) → List UInt8 → Nat × Option Utf8Reason
  | 0, _ => (0, none)
  | _ + 1, [] => (0, some .unexpectedEnd)
  | needed + 1, byte :: rest =>
    if low ≤ byte && byte ≤ high then
      let (count, stop) := continuation 0x80 0xBF needed rest
      (count + 1, stop)
    else (0, some .invalidContinuation)

/-- The first fault at or after a position, with as many sequences read as `fuel` allows. -/
def firstFault? : (fuel position : Nat) → List UInt8 → Option Utf8Fault
  | 0, _, _ => none
  | _ + 1, _, [] => none
  | fuel + 1, position, first :: rest =>
    match sequenceShape first with
    | none => some ⟨position, [first], .invalidStart⟩
    | some (low, high, needed) =>
      match continuation low high needed rest with
      | (count, some reason) => some ⟨position, first :: rest.take count, reason⟩
      | (count, none) => firstFault? fuel (position + count + 1) (rest.drop count)

/-- The first fault of a file that is not UTF-8. -/
def utf8Fault (file : ByteArray) : Utf8Fault :=
  (firstFault? (file.size + 1) 0 file.data.toList).getD ⟨0, [], .invalidStart⟩

/-- Line ends of all kinds as line feeds. -/
def unifyLineEnds : List Char → List Char
  | [] => []
  | '\r' :: '\n' :: rest => '\n' :: unifyLineEnds rest
  | c :: rest => (if c == '\r' then '\n' else c) :: unifyLineEnds rest

/-- The text of a file, or what is wrong with its bytes. -/
def fileText? (file : ByteArray) : Except Utf8Fault String :=
  match String.fromUTF8? file with
  | some text =>
    .ok (if text.toList.contains '\r' then String.ofList (unifyLineEnds text.toList) else text)
  | none => .error (utf8Fault file)

theorem exists_fileText_of_valid {file : ByteArray} (valid : file.IsValidUTF8) :
    ∃ text, fileText? file = .ok text := by
  simp [fileText?, String.fromUTF8?, valid]

/-- A text without carriage returns survives being written to a file. -/
theorem fileText?_toUTF8 {text : String} (plain : '\r' ∉ text.toList) :
    fileText? text.toUTF8 = .ok text := by
  have valid : String.fromUTF8? text.toUTF8 = some text := by
    have : text.toUTF8.IsValidUTF8 := text.isValidUTF8
    simp only [String.fromUTF8?, this, ↓reduceDIte]
    rfl
  simp only [fileText?, valid, List.contains_eq_mem, plain, decide_false, Bool.false_eq_true,
    ↓reduceIte]

end UpgradeGate.Text
