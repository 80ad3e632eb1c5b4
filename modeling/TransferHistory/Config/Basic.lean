import TransferHistory.Json.Printer
import TransferHistory.Net.Address
import TransferHistory.Search.Request

/-!
# Settings

Everything that can be set about the service, in five sections. Every setting has a default, and so has
every section; `ServerSettings.default_eq` and its like say that they agree. `Config.toJson` writes all
settings; reading them back is in the module on reading.
-/

namespace TransferHistory

/-! ## Defaults of single settings -/

def ServerSettings.defaultHost : String := "0.0.0.0"

def ServerSettings.defaultPort : UInt16 := 7000

def ServerSettings.defaultBodyLimit : UInt64 := 64 * 1024

def SearchSettings.defaultChain : String := "eos"

def SearchSettings.defaultMaxResults : UInt64 := 1000

def ElasticSettings.defaultUrl : String := "http://127.0.0.1:9200"

def NodeSettings.defaultUrl : String := "http://127.0.0.1:8888"

/-- The milliseconds that both collaborators are given to answer. -/
def Config.defaultTimeout : UInt64 := 10000

def LoggingSettings.defaultLevel : String := "info"

/-! ## Sections

The default of a field is what the setting is if its section is there without it. A section that is
not there at all has a default of its own. -/

/-- Where the service listens. -/
structure ServerSettings where
  host : String := ServerSettings.defaultHost
  port : UInt16 := ServerSettings.defaultPort
  bodyLimit : UInt64 := ServerSettings.defaultBodyLimit
  deriving DecidableEq, Repr

/-- What is searched. -/
structure SearchSettings where
  chain : String := SearchSettings.defaultChain
  maxResults : UInt64 := SearchSettings.defaultMaxResults
  deriving DecidableEq, Repr

/-- How the search service is reached. -/
structure ElasticSettings where
  url : String := ElasticSettings.defaultUrl
  user : Option String := none
  password : Option String := none
  timeout : UInt64 := Config.defaultTimeout
  deriving DecidableEq, Repr

/-- How the chain node is reached. -/
structure NodeSettings where
  url : String := NodeSettings.defaultUrl
  timeout : UInt64 := Config.defaultTimeout
  deriving DecidableEq, Repr

/-- What is logged. -/
structure LoggingSettings where
  level : String := LoggingSettings.defaultLevel
  deriving DecidableEq, Repr

/-- The settings of the server if none are given. -/
def ServerSettings.default : ServerSettings where
  host := defaultHost
  port := defaultPort
  bodyLimit := defaultBodyLimit

/-- The settings of the search if none are given. -/
def SearchSettings.default : SearchSettings where
  chain := defaultChain
  maxResults := defaultMaxResults

/-- The settings of the search service if none are given. -/
def ElasticSettings.default : ElasticSettings where
  url := defaultUrl
  user := none
  password := none
  timeout := Config.defaultTimeout

/-- The settings of the chain node if none are given. -/
def NodeSettings.default : NodeSettings where
  url := defaultUrl
  timeout := Config.defaultTimeout

/-- The settings of the log if none are given. -/
def LoggingSettings.default : LoggingSettings where
  level := defaultLevel

/-- All settings. -/
structure Config where
  server : ServerSettings := .default
  search : SearchSettings := .default
  elastic : ElasticSettings := .default
  node : NodeSettings := .default
  logging : LoggingSettings := .default
  deriving DecidableEq, Repr

/-- All settings if none are given. -/
def Config.default : Config where
  server := .default
  search := .default
  elastic := .default
  node := .default
  logging := .default

/-! A section that is not there is the section that is there without any setting. -/

theorem ServerSettings.default_eq : ServerSettings.default = {} :=
  rfl

theorem SearchSettings.default_eq : SearchSettings.default = {} :=
  rfl

theorem ElasticSettings.default_eq : ElasticSettings.default = {} :=
  rfl

theorem NodeSettings.default_eq : NodeSettings.default = {} :=
  rfl

theorem LoggingSettings.default_eq : LoggingSettings.default = {} :=
  rfl

theorem Config.default_eq : Config.default = {} :=
  rfl

namespace Config

/-- The address to listen on. A host that is no address stands for all of them. -/
def address (config : Config) : SocketAddress where
  host := (IpAddress.parse? config.server.host).getD (.v4 0 0 0 0)
  port := config.server.port

/-- The settings of the search. -/
def searchConfig (config : Config) : SearchConfig where
  chain := config.search.chain
  maxResults := config.search.maxResults

/-- All settings as a value. -/
def toJson (config : Config) : Json :=
  .object [
    ("server", .object [("host", .string config.server.host),
      ("port", .ofNat config.server.port.toNat),
      ("body_limit_bytes", .ofWord64 config.server.bodyLimit)]),
    ("search", .object [("chain", .string config.search.chain),
      ("max_results", .ofWord64 config.search.maxResults)]),
    ("elastic", .object [("url", .string config.elastic.url),
      ("user", .ofText? config.elastic.user), ("password", .ofText? config.elastic.password),
      ("timeout_ms", .ofWord64 config.elastic.timeout)]),
    ("chain_rpc", .object [("url", .string config.node.url),
      ("timeout_ms", .ofWord64 config.node.timeout)]),
    ("logging", .object [("level", .string config.logging.level)])]

end Config

end TransferHistory
