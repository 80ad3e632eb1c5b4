import TransferHistory.Config.Basic
import TransferHistory.Json.Decode

/-!
# Reading settings

Settings are read from a tree of values. How strictly single values are taken depends on where the
tree comes from, so that is given as a `Reading`: what a value looks like from outside, and how texts
and numbers are read. Everything else is the same for all trees:

- a section is a table, or a list of its values in the order of its settings;
- what is missing keeps its default, and what is not known is skipped;
- the first value that does not fit ends the reading, in the order of the tree.
-/

namespace TransferHistory

/-- What a value looks like from outside. -/
inductive Shape (σ : Type) where
  | table (entries : List (String × σ))
  | list (items : List σ)
  | other

/-- How the values of a tree are read. -/
structure Reading (σ ε : Type) where
  shape : σ → Shape σ
  text : σ → Except ε String
  word16 : σ → Except ε UInt16
  word64 : σ → Except ε UInt64
  size : σ → Except ε UInt64
  /-- A value that stands for nothing. -/
  isNull : σ → Bool
  /-- A section of the given name is neither a table nor a list. -/
  notASection : String → σ → ε
  /-- A list with more values than the section has settings, where that is an error. -/
  tooLong? : Nat → Option ε

/-- How one setting of a section is read: its name, and what a value does to the section. -/
abbrev Setter (σ ε α : Type) := String × (σ → α → Except ε α)

namespace Reading

variable {σ ε α : Type}

/-- One entry of a table put into a section. -/
def putEntry (setters : List (Setter σ ε α)) (known : α) (entry : String × σ) : Except ε α :=
  match setters.lookup entry.1 with
  | some read => read entry.2 known
  | none => .ok known

/-- The values of a list put into a section, one for each setting. -/
def putItems : List (Setter σ ε α) → α → List σ → Except ε α
  | (_, read) :: setters, known, item :: items => do putItems setters (← read item known) items
  | _, known, _ => .ok known

/-- A section read from a value, beginning with its defaults. -/
def readSection (reading : Reading σ ε) (name : String) (setters : List (Setter σ ε α))
    (default : α) (value : σ) : Except ε α :=
  match reading.shape value with
  | .table entries => entries.foldlM (putEntry setters) default
  | .list items => do
      let known ← putItems setters default items
      match (if setters.length < items.length then reading.tooLong? items.length else none) with
      | some error => .error error
      | none => .ok known
  | .other => .error (reading.notASection name value)

/-- A text or nothing. -/
def optionalText (reading : Reading σ ε) (value : σ) : Except ε (Option String) :=
  if reading.isNull value then .ok none else (reading.text value).map some

/-! ## Sections -/

/-- The settings of the server. -/
def serverSetters (reading : Reading σ ε) : List (Setter σ ε ServerSettings) :=
  [("host", fun value known => do return { known with host := ← reading.text value }),
    ("port", fun value known => do return { known with port := ← reading.word16 value }),
    ("body_limit_bytes", fun value known => do
      return { known with bodyLimit := ← reading.size value })]

/-- The settings of the search. -/
def searchSetters (reading : Reading σ ε) : List (Setter σ ε SearchSettings) :=
  [("chain", fun value known => do return { known with chain := ← reading.text value }),
    ("max_results", fun value known => do
      return { known with maxResults := ← reading.word64 value })]

/-- The settings of the search service. -/
def elasticSetters (reading : Reading σ ε) : List (Setter σ ε ElasticSettings) :=
  [("url", fun value known => do return { known with url := ← reading.text value }),
    ("user", fun value known => do return { known with user := ← reading.optionalText value }),
    ("password", fun value known => do
      return { known with password := ← reading.optionalText value }),
    ("timeout_ms", fun value known => do
      return { known with timeout := ← reading.word64 value })]

/-- The settings of the chain node. -/
def nodeSetters (reading : Reading σ ε) : List (Setter σ ε NodeSettings) :=
  [("url", fun value known => do return { known with url := ← reading.text value }),
    ("timeout_ms", fun value known => do
      return { known with timeout := ← reading.word64 value })]

/-- The settings of the log. -/
def loggingSetters (reading : Reading σ ε) : List (Setter σ ε LoggingSettings) :=
  [("level", fun value known => do return { known with level := ← reading.text value })]

/-- The sections. -/
def configSetters (reading : Reading σ ε) : List (Setter σ ε Config) :=
  [("server", fun value known => do
      return { known with
        server := ← reading.readSection "ServerConfig" reading.serverSetters {} value }),
    ("search", fun value known => do
      return { known with
        search := ← reading.readSection "SearchSettings" reading.searchSetters {} value }),
    ("elastic", fun value known => do
      return { known with
        elastic := ← reading.readSection "ElasticConfig" reading.elasticSetters {} value }),
    ("chain_rpc", fun value known => do
      return { known with
        node := ← reading.readSection "ChainRpcConfig" reading.nodeSetters {} value }),
    ("logging", fun value known => do
      return { known with
        logging := ← reading.readSection "LoggingConfig" reading.loggingSetters {} value })]

/-- All settings. -/
def config (reading : Reading σ ε) (value : σ) : Except ε Config :=
  reading.readSection "AppConfig" reading.configSetters {} value

end Reading

/-- JSON values are read strictly: no kind of value stands for another one. -/
def Json.strict : Reading Json Json.Mismatch where
  shape
    | .object members => .table members
    | .array items => .list items
    | _ => .other
  text := Json.asText
  word16 := Json.asWord16
  word64 := Json.asWord64
  size := Json.asSize
  isNull value := value == .null
  notASection name value := .wrongKind value (.structure name)
  tooLong? length := some (.tooLong length)

/-- The settings in a JSON value. -/
def Config.ofJson? (value : Json) : Except Json.Mismatch Config :=
  Json.strict.config value

end TransferHistory
