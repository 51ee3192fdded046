import UpgradeGate.Command.Offline
import UpgradeGate.Disk.Bundle

/-!
# The command line

A command is carried out on the files that come as a bundle on standard input. What it prints goes
to standard output, and the files that it leaves go to standard error, as a bundle again. The exit
status is 0 where help was asked for, 2 where the words of the command line do not fit, and
otherwise that of the command. The time is that of the environment setting `SOURCE_DATE_EPOCH`.
-/

namespace UpgradeGate

/-- The rest of an input, behind what was read before. -/
partial def readAll (input : IO.FS.Stream) (before : String) : IO String := do
  let line ← input.getLine
  if line.isEmpty then pure before else readAll input (before ++ line)

/-- The members of the document on standard input; none where there is no object. -/
def readBundle : IO Json.Members := do
  match Json.ofStoredText? (← readAll (← IO.getStdin) "") with
  | some (.object members) => pure members
  | _ => pure []

/-- The environment of the process. -/
def readEnvironment : IO Environment := Environment.read fun name => IO.getEnv name

/-- The time that is given to the process, in seconds; the start of 1970 where none is given. -/
def readClock : IO Moment := do
  let seconds := (← IO.getEnv "SOURCE_DATE_EPOCH").bind Literal.plain?
  pure (seconds.getD 0 * 1000000)

/-- Carry out a command on a bundle of files. -/
def serveCommand (invocation : Invocation) : IO UInt32 := do
  let disk := Bundle.unpack (← readBundle)
  let (result, after) := Offline.run invocation (← readEnvironment) (← readClock) disk
  match result with
  | .ok ending =>
    IO.print ending.output
    IO.eprintln (Json.compactText Json.plainSpelling (.object (Bundle.pack after)))
    pure ending.status.toUInt32
  | .error failure =>
    IO.eprintln failure.message
    pure 1

/-- Read the words of a command line and carry out what they ask for. -/
def serveWords (words : List String) : IO UInt32 :=
  match Invocation.ofWords words with
  | .error .help => pure 0
  | .error .misuse => pure 2
  | .ok invocation => serveCommand invocation

end UpgradeGate

/-- The program. -/
def main (words : List String) : IO UInt32 := UpgradeGate.serveWords words
