import TransferHistory.Launch.ConfigPath
import TransferHistory.Launch.EnvFile
import TransferHistory.Log.Filter

/-!
# Starting the service

The start has four steps: the variables of a file are added to the environment, the settings file is
found, the configuration is loaded, and the service listens on its address. A configuration that
cannot be loaded ends the start with code 2, an address that cannot be listened on with code 1.
-/

namespace TransferHistory

/-- What the service is started with. -/
structure Launch where
  /-- The arguments, without the name of the program. -/
  arguments : List String
  environment : Environment
  /-- The text of the file with variables, where there is one. -/
  envFile : Option String
  /-- The settings file at a path, where there is one. -/
  findFile : String → Option ConfigFile
  /-- Why an address cannot be listened on, if it cannot. -/
  obstacle : SocketAddress → Option String
  /-- The service is told to stop in the end. -/
  stopped : Bool := false

/-- What came of a start: the exit code, what went to the standard error, and what was logged. -/
structure Launch.Result where
  code : Nat
  errors : List String
  log : List Log.Entry
  filter : Log.Filter
  deriving DecidableEq, Repr

/-- The wording of the error, as far as it is the service's own. -/
def LoadError.message : LoadError → String
  | .illFormed | .misfit _ => "Configuration error"
  | .invalid defect => "Configuration error: " ++ defect.message

namespace Launch

/-- What is logged once the configuration is there. -/
def loadedEntry (path : ConfigPath) (config : Config) : Log.Entry where
  level := .info
  target := "xferhist_server"
  message := "Configuration loaded"
  fields := [("path", .plain path.path), ("source", .plain path.source.text),
    ("chain", .plain config.search.chain)]

/-- What is logged once the service listens. -/
def listeningEntry (address : SocketAddress) : Log.Entry where
  level := .info
  target := "xferhist_server::server"
  message := "listening on " ++ address.render

/-- What is logged once the service is told to stop. -/
def stoppingEntry : Log.Entry where
  level := .info
  target := "xferhist_server::server"
  message := "shutdown signal received"

/-- What is logged of a service that listens, and may have been told to stop. -/
def servingEntries (address : SocketAddress) (stopped : Bool) : List Log.Entry :=
  listeningEntry address :: if stopped then [stoppingEntry] else []

/-- The filter of a log with a configured level in an environment. -/
def filter (level : String) (environment : Environment) : Log.Filter :=
  Log.filterOf level (Ordered.get? "RUST_LOG" environment)

/-- The environment of a start and what was wrong with the file of variables. -/
def prepare (launch : Launch) : Environment × List String :=
  match launch.envFile with
  | none => (launch.environment, [])
  | some text =>
      let (environment, defect) := EnvFile.load launch.environment text
      (environment, (defect.map fun defect =>
        "Warning: Failed to load .env file: " ++ defect.message).toList)

/-- A start with a configuration. -/
def listen (launch : Launch) (warnings : List String) (environment : Environment)
    (path : ConfigPath) (config : Config) : Result :=
  let filter := filter config.logging.level environment
  match launch.obstacle config.address with
  | some reason =>
      { code := 1, errors := warnings ++ ["Server error: " ++ reason]
        log := [loadedEntry path config], filter }
  | none =>
      { code := 0, errors := warnings
        log := loadedEntry path config :: servingEntries config.address launch.stopped, filter }

/-- A whole start. -/
def start (launch : Launch) : Result :=
  let (environment, warnings) := launch.prepare
  let path := ConfigPath.resolve launch.arguments environment
  match Config.load (launch.findFile path.path) environment with
  | .error error =>
      { code := 2, errors := warnings ++ [error.message], log := [], filter := ⟨[]⟩ }
  | .ok config => launch.listen warnings environment path config

end Launch

end TransferHistory
