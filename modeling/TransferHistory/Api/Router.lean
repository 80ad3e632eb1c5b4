import TransferHistory.Api.Response
import TransferHistory.Net.Url

/-!
# Routes

The service has two routes, matched exactly on the path as it was sent: one says that it is alive,
the other answers transfer history. Both are asked with GET; HEAD does the same and leaves the body
out; OPTIONS is answered for every path, so that a browser may ask from another site. The whole
request is one span of the log.
-/

namespace TransferHistory

/-- A request: a method, and a target with a path and, behind a question mark, a query string. In
front of the path may stand where the service is, as a scheme and an authority. -/
structure HttpRequest where
  method : String := "GET"
  target : String
  deriving DecidableEq, Repr

namespace HttpRequest

/-- The target without a fragment. -/
def resource (request : HttpRequest) : List Char :=
  (Text.cut '#' request.target.toList).1

/-- A character that an authority may have; others end it. -/
def isAuthorityChar (c : Char) : Bool :=
  c != '/' && c != '?'

/-- The scheme and the authority in front of a resource, where there are any, and what stands behind
them. -/
def cutOrigin (resource : List Char) : Option (List Char × List Char) × List Char :=
  match Text.cut ':' resource with
  | (scheme, some ('/' :: '/' :: rest)) =>
      if scheme ≠ [] ∧ scheme.all Url.isSchemeChar then
        (some (scheme, rest.takeWhile isAuthorityChar), rest.dropWhile isAuthorityChar)
      else (none, resource)
  | _ => (none, resource)

/-- The path as it was sent, which is never empty, and the query string behind it, where there is
one. -/
def pathAndQuery (request : HttpRequest) : List Char × Option (List Char) :=
  match Text.cut '?' (cutOrigin request.resource).2 with
  | ([], query) => (['/'], query)
  | (path, query) => (path, query)

/-- The path as it was sent. -/
def path (request : HttpRequest) : String :=
  String.ofList request.pathAndQuery.1

/-- The query string; nothing where there is none. -/
def query (request : HttpRequest) : String :=
  String.ofList (request.pathAndQuery.2.getD [])

/-- The scheme and the authority as they are written in front of a path. The names of the two schemes
of the web are written in lower case. -/
def renderOrigin (scheme authority : List Char) : String :=
  let name := String.ofList scheme
  let known := Text.lowerAscii name
  (if known = "http" ∨ known = "https" then known else name) ++ "://" ++ String.ofList authority

/-- The target as it is logged. -/
def shown (request : HttpRequest) : String :=
  let origin := match (cutOrigin request.resource).1 with
    | some (scheme, authority) => renderOrigin scheme authority
    | none => ""
  let query := match request.pathAndQuery.2 with
    | some query => "?" ++ String.ofList query
    | none => ""
  origin ++ request.path ++ query

/-- The parameters of the query string. -/
def params (request : HttpRequest) : Params :=
  .ofForm request.query

end HttpRequest

/-- A response, the calls made for it, and what was logged. -/
structure Reply where
  response : Response
  searches : List SearchRequest := []
  nodeCalls : Nat := 0
  entries : List Log.Entry := []

namespace Router

/-- A path that has a route. -/
inductive Route where
  | health
  | transfers
  deriving DecidableEq, Repr

/-- The route of a path. -/
def route? (path : String) : Option Route :=
  if path = "/healthz" then some .health
  else if path = "/v2/history/get_transfers" then some .transfers
  else none

/-- What is logged about the answer of the engine. -/
def resultEntry (elapsed : Binary64) : Except EngineError TransferPage → Log.Entry
  | .error error =>
      { level := .warn
        target := "xferhist_server::handlers"
        message := "get_transfers failed"
        fields := [("error", .plain error.message),
          ("parameter", .quoted (error.parameter?.getD ""))] }
  | .ok page =>
      { level := .info
        target := "xferhist_server::handlers"
        message := "get_transfers served"
        fields := [("total", .plain page.total.render),
          ("returned", .plain (Json.renderInt page.projection.size)),
          ("query_time_ms", .measured elapsed "")] }

/-- The response to a request for transfer history. -/
def transfersResponse (elapsed : Binary64) : Except EngineError TransferPage → Response
  | .error error => (ApiError.ofEngine error).toResponse
  | .ok page => .json 200 (page.envelope elapsed)

/-- Transfer history is answered. -/
def serveTransfers (config : SearchConfig) (collaborators : Collaborators) (elapsed : Binary64)
    (params : Params) : Reply :=
  let outcome := Engine.answer config collaborators params
  { response := transfersResponse elapsed outcome.result
    searches := outcome.searches
    nodeCalls := outcome.nodeCalls
    entries := outcome.entries ++ resultEntry elapsed outcome.result ::
      match outcome.result with
      | .error error => (ApiError.ofEngine error).entries
      | .ok _ => [] }

/-- The answer of a route. -/
def serve (config : SearchConfig) (collaborators : Collaborators) (elapsed : Binary64)
    (request : HttpRequest) : Route → Reply
  | .health => { response := .json 200 (.object [("status", .string "ok")]) }
  | .transfers => serveTransfers config collaborators elapsed request.params

/-- The answer to a request, before it is logged. -/
def dispatch (config : SearchConfig) (collaborators : Collaborators) (elapsed : Binary64)
    (request : HttpRequest) : Reply :=
  if request.method = "OPTIONS" then { response := { status := 200 } }
  else
    let reply : Reply :=
      match route? request.path with
      | some route =>
          if request.method = "GET" ∨ request.method = "HEAD" then
            serve config collaborators elapsed request route
          else { response := { status := 405, allow := some "GET,HEAD" } }
      | none => { response := (ApiError.notFound "route not found").toResponse }
    if request.method = "HEAD" then { reply with response := reply.response.withoutBody } else reply

/-- The span of a request, with the status once there is one. -/
def span (request : HttpRequest) (status : Option Nat) : Log.Span where
  level := .info
  target := "xferhist_server::server"
  name := "http.request"
  fields :=
    [("http.method", .plain request.method),
      ("http.target", .plain request.shown)] ++
    (status.map fun status => ("http.status_code", Log.Value.plain (Json.renderInt status))).toList

/-- What is logged once a response is there. -/
def responseEntries (elapsed : Binary64) (status : Nat) : List Log.Entry :=
  { level := .info
    target := "xferhist_server::server"
    message := "request handled"
    fields := [("http.status", .plain (Json.renderInt status)),
      ("elapsed_ms", .measured elapsed "")] } ::
  if 500 ≤ status then
    [{ level := .error
       target := "tower_http::trace::on_failure"
       message := "response failed"
       fields := [("classification",
          .plain ("Status code: " ++ Json.renderInt status ++ " " ++ statusReason status)),
        ("latency", .measured elapsed " ms")] }]
  else []

/-- The answer to a request. -/
def answer (config : SearchConfig) (collaborators : Collaborators) (elapsed : Binary64)
    (request : HttpRequest) : Reply :=
  let reply := dispatch config collaborators elapsed request
  let status := reply.response.status
  { reply with
    entries :=
      reply.entries.map (Log.Entry.within (span request none)) ++
        (responseEntries elapsed status).map (Log.Entry.within (span request (some status))) }

/-- A request of a run: who can be asked for it then, and how long it takes to answer it. -/
structure Step where
  collaborators : Collaborators
  elapsed : Binary64
  request : HttpRequest

/-- The answer to the request of a step. -/
def Step.reply (config : SearchConfig) (step : Step) : Reply :=
  answer config step.collaborators step.elapsed step.request

/-- The answers to a sequence of requests, each with the number of node calls made so far. -/
def run (config : SearchConfig) (calls : Nat) : List Step → List (Reply × Nat)
  | [] => []
  | step :: rest =>
      let reply := step.reply config
      let calls := calls + reply.nodeCalls
      (reply, calls) :: run config calls rest

end Router

end TransferHistory
