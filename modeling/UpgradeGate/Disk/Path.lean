/-!
# Paths

A path is a list of steps from the working folder. Empty steps and steps to the same folder are
left out when a path is read; a step up, `..`, is kept until the path is followed. A path from the
root of all folders has `/` as its first step.
-/

namespace UpgradeGate

/-- The steps of a path. -/
abbrev Path := List String

namespace Path

/-- A step that leads somewhere. -/
def isStep (step : String) : Bool := !step.isEmpty && step != "."

/-- Read a path. -/
def ofText (text : String) : Path :=
  let steps := ((text.toList.splitOn '/').map String.ofList).filter isStep
  if text.startsWith "/" then "/" :: steps else steps

/-- A path, followed by another one unless that starts from the root. -/
def join (path tail : Path) : Path := if tail.head? == some "/" then tail else path ++ tail

/-- A path with one more step, or with several. -/
def child (path : Path) (name : String) : Path := path.join (ofText name)

/-- The text of a path; that of the working folder is a point. -/
def text : Path → String
  | [] => "."
  | "/" :: steps => "/" ++ "/".intercalate steps
  | steps => "/".intercalate steps

end Path

end UpgradeGate
