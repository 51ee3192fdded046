import UpgradeGate.Disk.Basic

/-!
# Patterns for paths

A pattern is a path in which a step may hold wildcards: `*` for any characters, `?` for one, and
`[…]` for one of a set, which `!` in front turns into its complement. A step `**` stands for any
number of folders, and may not be part of a longer step.
-/

namespace UpgradeGate.Glob

/-- A piece of a step. -/
inductive Piece where
  | one (c : Char)
  | anyOne
  | anyMany
  | set (complement : Bool) (ranges : List (Char × Char))
  deriving DecidableEq, Repr

/-- The ranges that the text between brackets lists. A hyphen between two characters spans a range;
elsewhere it stands for itself. -/
def ranges : List Char → List (Char × Char)
  | [] => []
  | low :: '-' :: high :: rest => (low, high) :: ranges rest
  | c :: rest => (c, c) :: ranges rest

/-- The mark of a complement at the start of a text, and the text behind it. -/
def splitComplement : List Char → Bool × List Char
  | '!' :: rest => (true, rest)
  | text => (false, text)

/-- A closing bracket at the start of a text, and the text behind it. -/
def splitBracket : List Char → List Char × List Char
  | ']' :: rest => ([']'], rest)
  | text => ([], text)

/-- A complement mark is taken from the text. -/
theorem length_splitComplement (text : List Char) :
    (splitComplement text).2.length ≤ text.length := by
  simp only [splitComplement]
  split <;> simp

/-- A bracket at the front is taken from the text. -/
theorem length_splitBracket (text : List Char) : (splitBracket text).2.length ≤ text.length := by
  simp only [splitBracket]
  split <;> simp

/-- The set between brackets at the start of a text, and the text behind it. The first character of
a set may be a closing bracket. -/
def set? (text : List Char) : Option (Piece × List Char) :=
  let complement := splitComplement text
  let first := splitBracket complement.2
  match first.2.dropWhile (· != ']') with
  | _ :: rest =>
    some (.set complement.1 (ranges (first.1 ++ first.2.takeWhile (· != ']'))), rest)
  | [] => none

/-- What follows a set is shorter, so compiling a pattern ends. -/
theorem set?_shorter {text rest : List Char} {piece : Piece}
    (found : set? text = some (piece, rest)) : rest.length < text.length := by
  simp only [set?] at found
  split at found
  · next closed =>
    simp only [Option.some.injEq, Prod.mk.injEq] at found
    obtain ⟨-, rfl⟩ := found
    have cut := (List.dropWhile_suffix (l := (splitBracket (splitComplement text).2).2)
      (· != ']')).length_le
    rw [closed, List.length_cons] at cut
    have inner := length_splitBracket (splitComplement text).2
    have outer := length_splitComplement text
    omega
  · cases found

/-- The pieces of a step. A bracket that is not closed stands for itself. -/
def pieces (text : List Char) : List Piece :=
  match text with
  | [] => []
  | '*' :: rest => .anyMany :: pieces rest
  | '?' :: rest => .anyOne :: pieces rest
  | '[' :: rest =>
    match _found : set? rest with
    | some (piece, rest) => piece :: pieces rest
    | none => .one '[' :: pieces rest
  | c :: rest => .one c :: pieces rest
termination_by text.length
decreasing_by
  all_goals simp only [List.length_cons]
  all_goals first
    | omega
    | exact Nat.lt_succ_of_lt (set?_shorter ‹_›)

/-- A character is in one of some ranges. -/
def inRanges (ranges : List (Char × Char)) (c : Char) : Bool :=
  ranges.any fun range => range.1 ≤ c && c ≤ range.2

/-- A text is what the pieces describe. -/
def describes : List Piece → List Char → Bool
  | [], text => text.isEmpty
  | .anyMany :: pieces, text =>
    describes pieces text ||
      match text with
      | [] => false
      | _ :: rest => describes (.anyMany :: pieces) rest
  | .one c :: pieces, d :: rest => c == d && describes pieces rest
  | .anyOne :: pieces, _ :: rest => describes pieces rest
  | .set complement ranges :: pieces, d :: rest =>
    (inRanges ranges d != complement) && describes pieces rest
  | _ :: _, [] => false
termination_by pieces text => pieces.length + text.length

/-- A name is what a step describes. -/
def fits (step name : String) : Bool := describes (pieces step.toList) name.toList

/-- A step holds wildcards. -/
def isWild (step : String) : Bool := step.toList.any fun c => c == '*' || c == '?' || c == '['

/-- The text holds two stars side by side. -/
def hasDoubleStar : List Char → Bool
  | '*' :: '*' :: _ => true
  | _ :: rest => hasDoubleStar rest
  | [] => false

/-- A step that is more than two stars and holds them. -/
def isMisplaced (step : String) : Bool := step != "**" && hasDoubleStar step.toList

/-- The folders below a place, each with the path that leads to it. -/
def foldersBelow (disk : Disk) (path : Path) (place : Place) : List Path :=
  (disk.below place).filterMap fun found =>
    match disk.node? found with
    | some .folder => some (path ++ found.drop place.length)
    | _ => none

/-- What is found at a path: what is inside, if it is a folder, or else the path itself if the
pattern ends there. To look for a name that is too long fails. -/
def visit (disk : Disk) (last : Bool) (inside : Path → Except Kind (List Path)) (path : Path) :
    Except Kind (List Path) :=
  match disk.look path with
  | .error kind => .error kind
  | .ok none => .ok []
  | .ok (some .folder) => inside path
  | .ok (some _) => .ok (if last then [path] else [])

/-- What a pattern finds from a folder on, as paths. -/
def search (disk : Disk) : (pattern : List String) → Path → Except Kind (List Path)
  | [], path => .ok [path]
  | step :: rest, path =>
    match disk.follow [] path with
    | .error _ => .ok []
    | .ok place =>
      match disk.node? place with
      | some .folder =>
        let candidates :=
          if step = "**" then path :: foldersBelow disk path place
          else if step = ".." then [path ++ [step]]
          else if isWild step then
            ((disk.names place).filter (fits step)).map fun name => path ++ [name]
          else [path ++ [step]]
        (candidates.mapM (visit disk rest.isEmpty (search disk rest))).map List.flatten
      | _ => .ok []

/-- A path does not come after another one, step by step. -/
def before (a b : Path) : Bool := !b.lex a fun step other => decide (step < other)

/-- What a pattern finds from a folder on, each path once and in ascending order. -/
def find (disk : Disk) (pattern : List String) (folder : Path) : Except Kind (List Path) := do
  let found ← search disk pattern folder
  pure (found.eraseDups.mergeSort before)

end UpgradeGate.Glob
