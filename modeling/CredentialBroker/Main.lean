import CredentialBroker.Command
import Std.Time

namespace CredentialBroker

/-!
# The program

Reads the environment and the clock, runs the command the arguments make up, and prints what comes
of it.
-/

/-- The variables of the environment that settings are read from. -/
def readEnvironment : IO Environment := do
  let found ← Settings.variableNames.mapM fun key => do
    let value ← IO.getEnv key
    pure (key, value.map Text.utf8)
  pure fun key => (found.lookup key).join

/-- The time. -/
def readClock : IO Timestamp := do
  let now ← Std.Time.Timestamp.now
  pure (.ofSeconds now.toSecondsSinceUnixEpoch.toInt)

/-- Prints why the program fails; the status it ends with. -/
def fail (reason : String) : IO UInt32 := do
  IO.eprintln ("Error: " ++ reason)
  pure 1

end CredentialBroker

open CredentialBroker

/-- Runs the command the arguments make up. -/
def main (args : List String) : IO UInt32 := do
  match Command.ofArguments? args with
  | none => do
    IO.eprintln Command.usage
    pure 2
  | some command =>
    match Settings.read (← readEnvironment) with
    | .error e => fail e.message
    | .ok settings =>
      match command.run settings (← readClock) with
      | .error reason => fail reason
      | .ok text => do
        IO.println text
        pure 0
