import TransferHistory.Config.Environment
import TransferHistory.Config.Validation
import TransferHistory.Json.Written
import TransferHistory.Toml.Document

/-!
# Loading the configuration

The configuration has three layers: the defaults, a settings file where there is one, and the
environment, which wins. What they add up to is read and then validated.
-/

namespace TransferHistory

/-- A settings file that was found, with its text if it can be read. -/
structure ConfigFile where
  path : String
  text : Option String
  deriving DecidableEq, Repr

/-- Why there is no configuration. -/
inductive LoadError where
  /-- The file is of no known kind, or not well formed. -/
  | illFormed
  /-- A value cannot stand where it does. -/
  | misfit (cause : Setting.Misfit)
  /-- The service cannot start with these settings. -/
  | invalid (defect : ConfigDefect)
  deriving DecidableEq, Repr

mutual

/-- A JSON value as a setting. An integer that does not fit 63 bits becomes a binary number. -/
def Json.toSetting : Json → Setting
  | .null => .null
  | .bool value => .bool value
  | .number (.int value) =>
      if value < values63 then .int value else .real (Extended.ofDecimal false value.toNat 0)
  | .number (.real value) => .real (.finite value)
  | .string text => .text text
  | .array items => .list (toSettings items)
  | .object members => .table (toSettingEntries members)

/-- JSON values as settings. -/
def Json.toSettings : List Json → List Setting
  | [] => []
  | item :: rest => toSetting item :: toSettings rest

/-- The members of an object as settings. -/
def Json.toSettingEntries : List (String × Json) → List (String × Setting)
  | [] => []
  | (name, value) :: rest => (name, toSetting value) :: toSettingEntries rest

end

namespace ConfigFile

/-- The part of the file's name behind its last point, unless the name begins there. -/
def extension (file : ConfigFile) : String :=
  let name := ((file.path.toList.reverse.dropWhile (· == '/')).takeWhile (· != '/')).reverse
  match Url.cutLast? '.' name with
  | some (_ :: _, kind) => String.ofList kind
  | _ => ""

/-- The entries of a settings file in JSON: the members of one object. -/
def jsonLayer? (text : String) : Option Setting.Layer :=
  match Json.parse? text with
  | some (.object members) => some (Json.toSettingEntries members)
  | _ => none

/-- How a file is read, which the end of its name tells. -/
def reader? (file : ConfigFile) : Option (String → Option Setting.Layer) :=
  [("toml", Toml.parse?), ("json", jsonLayer?)].lookup file.extension

/-- The layer of settings in a file. A byte-order mark in front of its text is no part of it. -/
def layer? (file : ConfigFile) : Option Setting.Layer := do
  (← file.reader?) (String.ofList (Text.withoutMark (← file.text).toList))

end ConfigFile

namespace Config

/-- The path of the settings file, if no other one is given. -/
def defaultPath : String := "xferhist.toml"

/-- The tree of settings in a file and the environment. -/
def tree (file : Option ConfigFile) (environment : Environment) : Except LoadError Setting :=
  match file with
  | none => .ok (.ofLayers [environment.layer])
  | some file =>
      match file.layer? with
      | some layer => .ok (.ofLayers [layer, environment.layer])
      | none => .error .illFormed

/-- The settings in a tree. -/
def ofTree (tree : Setting) : Except LoadError Config :=
  match Setting.lenient.config tree with
  | .ok config => .ok config
  | .error cause => .error (.misfit cause)

/-- A configuration that the service can start with. -/
def checked (config : Config) : Except LoadError Config :=
  match config.validate with
  | .ok () => .ok config
  | .error defect => .error (.invalid defect)

/-- The configuration in a file and the environment. A missing file sets nothing. -/
def load (file : Option ConfigFile) (environment : Environment) : Except LoadError Config := do
  checked (← ofTree (← tree file environment))

end Config

end TransferHistory
