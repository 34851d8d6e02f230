import Cutover.CommandLine.Session
import Std.Time.DateTime.Timestamp

/-!
# The command line

The program: it runs the command given by its arguments, or else the command lines that it reads from its
input, against a service of its own.
-/

namespace Cutover

/-- The time now. -/
def currentTime : IO Timestamp := do
  let now ← Std.Time.Timestamp.now
  return .universal (now.toNanosecondsSinceUnixEpoch.toInt / 1000)

/-- The variables of the environment that settings are taken from. -/
def currentEnvironment : IO Settings.Environment :=
  Settings.variableFields.filterMapM fun field => do
    let name := Settings.variableName field
    return (← IO.getEnv name).map (name, ·)

/-- Run a command line and show what it shows. -/
def runShown (session : CommandLine.Session) (args : List String) :
    IO (CommandLine.Session × Nat) := do
  let (session, ending) := session.run (← currentTime) args
  IO.print ending.output
  return (session, ending.exit)

/-- Run the command lines of an input up to its end. -/
partial def runLines (input : IO.FS.Stream) (session : CommandLine.Session) : IO Nat := do
  let line ← input.getLine
  if line.isEmpty then return 0
  let args := (Text.splitText ' ' (Text.trimText line)).filter (· ≠ "")
  let (session, _) ← runShown session args
  runLines input session

end Cutover

/-- Run the command given by the arguments, or those of the input. -/
def main (args : List String) : IO UInt32 := do
  let service := Cutover.Service.opened .logging (.fresh (← Cutover.currentTime))
  let session : Cutover.CommandLine.Session := { service, environment := ← Cutover.currentEnvironment }
  let status ←
    if args.isEmpty then Cutover.runLines (← IO.getStdin) session
    else Prod.snd <$> Cutover.runShown session args
  return UInt32.ofNat status
