import TransferHistory.Config.Load

/-!
# Where the configuration is

The path of the settings file is the argument behind the first `--config` that has one behind it, else
what the variable `XFERHIST_CONFIG` holds unless that is empty, else the default path.
-/

namespace TransferHistory

/-- How a path was determined. -/
inductive PathSource where
  | argument
  | environment
  | standard
  deriving DecidableEq, Repr

/-- The wording of a source. -/
def PathSource.text : PathSource → String
  | .argument => "CLI argument (--config)"
  | .environment => "environment variable (XFERHIST_CONFIG)"
  | .standard => "default"

/-- The path of the settings file and how it was determined. -/
structure ConfigPath where
  path : String
  source : PathSource
  deriving DecidableEq, Repr

namespace ConfigPath

/-- The argument behind the first `--config` that has one. -/
def ofArguments? : List String → Option String
  | option :: path :: rest =>
      if option = "--config" then some path else ofArguments? (path :: rest)
  | _ => none

/-- The path that the environment gives. -/
def ofEnvironment? (environment : Environment) : Option String :=
  (Ordered.get? "XFERHIST_CONFIG" environment).filter (· ≠ "")

/-- The path for some arguments, without the name of the program, and an environment. -/
def resolve (arguments : List String) (environment : Environment) : ConfigPath :=
  match ofArguments? arguments, ofEnvironment? environment with
  | some path, _ => ⟨path, .argument⟩
  | none, some path => ⟨path, .environment⟩
  | none, none => ⟨Config.defaultPath, .standard⟩

end ConfigPath

end TransferHistory
