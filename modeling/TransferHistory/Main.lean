import TransferHistory.Launch.Start

/-!
# The command line

The program takes `--config PATH`, reads `.env` and the settings file, starts the service and tells what
came of it: the log on the standard output, errors on the standard error, and the exit code.
-/

namespace TransferHistory.Launch

/-- The text of a file, if it is there; the inner value is missing where it cannot be read. -/
def readText (path : String) : IO (Option (Option String)) := do
  match ← (IO.FS.readFile path).toBaseIO with
  | .ok text => return some (some text)
  | .error (.noFileOrDirectory ..) => return none
  | .error _ => return some none

/-- The variables that are set. -/
def readEnvironment (envFile : Option String) : IO Environment := do
  let found ← (Environment.candidates (envFile.getD "")).filterMapM fun name => do
    return (← IO.getEnv name).map fun value => (name, value)
  return Ordered.ofPairs found

/-- What the service is started with here. -/
def gather (arguments : List String) : IO Launch := do
  let envFile := ((← readText ".env").getD none)
  let launch : Launch :=
    { arguments, environment := ← readEnvironment envFile, envFile,
      findFile := fun _ => none, obstacle := fun _ => none }
  let path := (ConfigPath.resolve arguments launch.prepare.1).path
  let file := (← readText path).map fun text => ConfigFile.mk path text
  return { launch with findFile := fun _ => file }

end TransferHistory.Launch

/-- The program. -/
def main (arguments : List String) : IO UInt32 := do
  let result := (← TransferHistory.Launch.gather arguments).start
  for line in result.errors do
    IO.eprintln line
  for line in result.filter.lines (·.render TransferHistory.Json.numberFormat) result.log do
    IO.println line
  return UInt32.ofNat result.code
