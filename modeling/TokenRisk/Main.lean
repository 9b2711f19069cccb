import Std.Time.DateTime.Timestamp
import TokenRisk.Command
import TokenRisk.Http.Client
import TokenRisk.Setup

/-!
# The program

Runs a command line with the environment and the clock of the system. The program has no network of
its own: every question to a node or an explorer comes back as a failed connection, which the
analysis reports.
-/

namespace TokenRisk

/-- The variables in the text that the system keeps about a process: a name, an equals sign and a
value each, ended by zero characters. -/
def environmentOfText (text : String) : Environment :=
  (Text.splitOn (Char.ofNat 0) text.toList).filterMap fun entry =>
    let name := entry.takeWhile (· != '=')
    match entry.drop name.length with
    | [] => none
    | _ :: value => some (String.ofList name, String.ofList value)

/-- The `Environment` of the process, empty where the system does not tell it. -/
def processEnvironment : IO Environment := do
  try
    return environmentOfText (← IO.FS.readFile "/proc/self/environ")
  catch _ => return []

/-- The answer to every question without a network. -/
def offline : Http.Transport := fun _ => .raised "ConnectError" "no network"

end TokenRisk

/-- Runs the command line by `Command.runLine` and ends with its exit code. -/
def main (arguments : List String) : IO UInt32 := do
  let environment ← TokenRisk.processEnvironment
  let now ← Std.Time.Timestamp.now
  let start : TokenRisk.Command.Start := fun config =>
    config.start .default (TokenRisk.Http.sources config TokenRisk.offline {})
      now.toMillisecondsSinceUnixEpoch.val
  let output := TokenRisk.Command.runLine environment start arguments
  IO.print output.stdout
  IO.eprint output.stderr
  match output.failure with
  | some failure => IO.eprintln (failure.label ++ ": " ++ failure.message)
  | none => pure ()
  return output.exitCode.toUInt32
