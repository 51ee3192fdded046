import UpgradeGate.Command.Run
import UpgradeGate.Toolchain.Project

/-!
# Commands without a network

What a command comes to where it has a disk and nothing else: no node answers for the chain, and no
compiler can be started. Contracts that are compiled already are found on the disk, so that layouts
can be recorded, shown and compared, and the deployment log can be read. Everything that is printed
can be printed.
-/

namespace UpgradeGate.Offline

/-- The failure of every question to the chain. -/
def unconnected : Failure := .foreign .connection "no node is connected"

/-- No tool can be started. -/
def noTool (call : tools.Call) : tools.Reply call := none

/-- What collaborators answer: the toolchain from the disk alone, the chain nothing. -/
def answer (project : Project) (request : Request) : Except Failure request.question.Answer :=
  match request with
  | ⟨.announce _, _⟩ => .ok ()
  | ⟨.artifact contract, disk⟩ => project.artifact contract disk
  | ⟨.layout contract, disk⟩ =>
    Id.run (Program.handle (I := tools) (m := Id) noTool (project.layout contract disk))
  | _ => .error unconnected

/-- What a command ends with, and the disk that it leaves. -/
def run (invocation : Invocation) (environment : Environment) (now : Moment) (disk : Disk) :
    Except Failure Ending × Disk :=
  let project := Project.usual invocation.project
  let program := Command.program invocation environment ⟨disk, .closed, .zero, now, []⟩
  let (result, books) := Id.run (Program.handle (m := Id) (answer project) program)
  (result, books.disk)

end UpgradeGate.Offline
