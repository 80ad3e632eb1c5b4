import TransferHistory.Config.Basic
import TransferHistory.Log.Filter
import TransferHistory.Net.Url

/-!
# Valid settings

Settings that the service can start with. The checks run in a fixed order and the first defect is
reported.
-/

namespace TransferHistory

/-- What keeps the service from starting. -/
inductive ConfigDefect where
  | noPort
  | noChain
  | noResults
  | elasticUrl (error : UrlError)
  | noElasticTimeout
  | halfCredentials
  | nodeUrl (error : UrlError)
  | noNodeTimeout
  | unknownLevel
  deriving DecidableEq, Repr

/-- The wording of a defect. -/
def ConfigDefect.message : ConfigDefect → String
  | .noPort => "server.port must be > 0"
  | .noChain => "search.chain must not be empty"
  | .noResults => "search.max_results must be > 0"
  | .elasticUrl error => "elastic.url is invalid: " ++ error.message
  | .noElasticTimeout => "elastic.timeout_ms must be > 0"
  | .halfCredentials => "elastic.user and elastic.password must be set together"
  | .nodeUrl error => "chain_rpc.url is invalid: " ++ error.message
  | .noNodeTimeout => "chain_rpc.timeout_ms must be > 0"
  | .unknownLevel =>
      "logging.level must be one of [\"trace\", \"debug\", \"info\", \"warn\", \"error\", \"off\"]"

namespace Config

/-- The levels that may be set. -/
def levels : List String := ["trace", "debug", "info", "warn", "error", "off"]

/-- A condition that holds, or the defect of its failing. -/
def check (holds : Bool) (defect : ConfigDefect) : Except ConfigDefect Unit :=
  if holds then .ok () else .error defect

/-- A web address that can be read, or the defect of an unreadable one. -/
def checkUrl (text : String) (defect : UrlError → ConfigDefect) : Except ConfigDefect Unit :=
  match Url.parse? text with
  | .ok _ => .ok ()
  | .error error => .error (defect error)

/-- All checks, in order. -/
def validate (config : Config) : Except ConfigDefect Unit := do
  check (config.server.port != 0) .noPort
  check (Text.trim config.search.chain != "") .noChain
  check (config.search.maxResults != 0) .noResults
  checkUrl config.elastic.url .elasticUrl
  check (config.elastic.timeout != 0) .noElasticTimeout
  check (config.elastic.user.isSome == config.elastic.password.isSome) .halfCredentials
  checkUrl config.node.url .nodeUrl
  check (config.node.timeout != 0) .noNodeTimeout
  check (levels.contains (Text.lowerAscii config.logging.level)) .unknownLevel

end Config

end TransferHistory
