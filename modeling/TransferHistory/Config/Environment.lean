import TransferHistory.Config.Setting

/-!
# Settings from the environment

A variable whose name begins with `XFERHIST__`, in small or capital letters, sets what the rest of its
name says: `XFERHIST__SEARCH__CHAIN` stands for `search.chain`. Its value is a truth value, an integer
or a number where it reads as one, and a text otherwise.
-/

namespace TransferHistory

/-- Environment variables, each with its value. -/
abbrev Environment := Ordered String

namespace Environment

/-- What the names of the variables for settings begin with. -/
def marker : List Char := "xferhist__".toList

/-- Two low lines stand for a point. -/
def withPoints : List Char → List Char
  | '_' :: '_' :: rest => '.' :: withPoints rest
  | c :: rest => c :: withPoints rest
  | [] => []

/-- The key that a variable sets, if it is one for settings. -/
def key? (name : String) : Option String :=
  let lower := (Text.lowerAscii name).toList
  if marker.isPrefixOf lower then
    some (String.ofList (withPoints (lower.drop marker.length)))
  else none

/-- A value as a truth value. -/
def truth? (value : String) : Option Bool :=
  [("true", true), ("false", false)].lookup (Text.lowerAscii value)

/-- A value as an integer of 64 bits. -/
def integer? (value : String) : Option Int :=
  let (negative, digits) := Text.withoutSign value.toList
  if Text.isNatural digits then Text.signed64? negative (Text.natural digits) else none

/-- What the value of a variable sets. -/
def setting (value : String) : Setting :=
  match truth? value, integer? value, Extended.parse? value with
  | some truth, _, _ => .bool truth
  | none, some number, _ => .int number
  | none, none, some number => .real number
  | none, none, none => .text value

/-- The layer of settings that the variables make up. -/
def layer (environment : Environment) : Setting.Layer :=
  environment.filterMap fun (name, value) => (key? name).map fun key => (key, setting value)

/-- The names of the settings, section by section. -/
def settingNames : List (String × List String) :=
  [("SERVER", ["HOST", "PORT", "BODY_LIMIT_BYTES"]), ("SEARCH", ["CHAIN", "MAX_RESULTS"]),
    ("ELASTIC", ["URL", "USER", "PASSWORD", "TIMEOUT_MS"]), ("CHAIN_RPC", ["URL", "TIMEOUT_MS"]),
    ("LOGGING", ["LEVEL"])]

/-- The variables for single settings. -/
def settingVariables : List String :=
  settingNames.flatMap fun (group, keys) => keys.map fun key => "XFERHIST__" ++ group ++ "__" ++ key

/-- A character of the name of a variable. -/
def isNameChar (c : Char) : Bool :=
  c.isAlphanum || c == '_' || c == '.'

/-- The variables that may matter where a file with more of them has the given text: those for the
settings, the two that the start itself looks at, and every word of the text. -/
def candidates (fileText : String) : List String :=
  let spaced := fileText.toList.map fun c => if isNameChar c then c else ' '
  settingVariables ++ ["XFERHIST_CONFIG", "RUST_LOG"] ++
    (Text.split ' ' (String.ofList spaced)).filter (· ≠ "")

end Environment

end TransferHistory
