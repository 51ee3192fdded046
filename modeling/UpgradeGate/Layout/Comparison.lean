import UpgradeGate.Layout.Basic

/-!
# Comparing layouts

A new implementation may take over the storage of an old one when its layout begins with the old
one: entry by entry the same slot, offset and type. Labels may change, and entries may follow.

A finding is a collision when an old entry is gone, has moved or has changed its type.

Main statement: comparing a layout with itself finds nothing (`findings_self`).
-/

namespace UpgradeGate

namespace Entry

/-- Two entries use storage in the same way. -/
def sameStorage (a b : Entry) : Bool :=
  a.slot == b.slot && a.offset == b.offset && a.type == b.type

/-- An entry in a report. -/
def row (entry : Entry) : String :=
  "[slot " ++ Text.padLeft 3 (Text.naturalText entry.slot) ++ " | offset " ++
    Text.padLeft 2 (Text.naturalText entry.offset) ++ "] " ++ entry.label ++ " : " ++ entry.type

end Entry

/-- What differs at one index of two layouts. -/
inductive Finding where
  | removed (old : Entry)
  | collided (old new : Entry)
  | renamed (old new : Entry)
  | appended (new : Entry)
  deriving DecidableEq, Repr

namespace Finding

/-- The finding endangers what is stored. -/
def isCollision : Finding → Bool
  | .removed _ | .collided _ _ => true
  | .renamed _ _ | .appended _ => false

/-- The finding about two entries at one index. -/
def ofEntries? (old new : Entry) : Option Finding :=
  if !old.sameStorage new then some (.collided old new)
  else if old.label != new.label then some (.renamed old new)
  else none

/-- What of slot, offset and type changes between two entries. -/
def changes (old new : Entry) : List String :=
  (if old.slot == new.slot then []
    else ["slot " ++ Text.naturalText old.slot ++ "->" ++ Text.naturalText new.slot]) ++
  (if old.offset == new.offset then []
    else ["offset " ++ Text.naturalText old.offset ++ "->" ++ Text.naturalText new.offset]) ++
  (if old.type == new.type then [] else ["type " ++ old.type ++ "->" ++ new.type])

/-- The lines of a finding in a report. -/
def lines : Finding → List String
  | .removed old => ["- removed  " ++ old.row]
  | .collided old new =>
    ["! collision at slot " ++ Text.naturalText old.slot ++ " offset " ++
        Text.naturalText old.offset ++ " (" ++ ", ".intercalate (changes old new) ++ ")",
      "    old  " ++ old.row, "    new  " ++ new.row]
  | .renamed old new =>
    ["~ renamed  [slot " ++ Text.padLeft 3 (Text.naturalText old.slot) ++ " | offset " ++
      Text.padLeft 2 (Text.naturalText old.offset) ++ "] " ++ old.label ++ " -> " ++ new.label ++
      " (cosmetic)"]
  | .appended new => ["+ appended " ++ new.row]

end Finding

/-- What a comparison of two layouts found, index by index. -/
structure Report where
  findings : List Finding
  deriving DecidableEq, Repr

namespace Report

/-- How many old entries are endangered. -/
def collisions (report : Report) : Nat := report.findings.countP Finding.isCollision

/-- Nothing that is stored is endangered. -/
def compatible (report : Report) : Bool := report.collisions == 0

/-- The report in lines. -/
def lines (report : Report) : List String := report.findings.flatMap Finding.lines

/-- The report as one text. -/
def text (report : Report) : String := "\n".intercalate report.lines

end Report

namespace Layout

/-- The findings about two lists of entries, index by index. -/
def findings : (old new : List Entry) → List Finding
  | [], new => new.map .appended
  | old, [] => old.map .removed
  | old :: olds, new :: news => (Finding.ofEntries? old new).toList ++ findings olds news

/-- Compare the layout behind a proxy with the layout that is to replace it. -/
def compare (baseline candidate : Layout) : Report :=
  ⟨findings baseline.entries candidate.entries⟩

/-- A layout does not differ from itself. -/
theorem findings_self (entries : List Entry) : findings entries entries = [] := by
  induction entries with
  | nil => rfl
  | cons entry rest ih => simp [findings, Finding.ofEntries?, Entry.sameStorage, ih]

end Layout

end UpgradeGate
