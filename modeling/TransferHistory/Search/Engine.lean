import TransferHistory.Log.Entry
import TransferHistory.Query.Form
import TransferHistory.Record.Projection
import TransferHistory.Search.Hits
import TransferHistory.Search.Request

/-!
# The search engine

One request is validated, compiled, searched, and projected. Two collaborators are asked, each at
most once: the search service, and with `checkLib` the chain node for the last irreversible block.
Nothing is asked while a parameter is bad, and no part of a page is answered when one of them fails.

`Engine.answer` gives the answer together with the calls that were made for it; `Engine.run` answers
one request after another and counts the calls of the node over all of them.
-/

namespace TransferHistory

/-- Why a request has no page. -/
inductive EngineError where
  | validation (error : QueryError)
  | storage (failure : Failure)
  deriving DecidableEq, Repr

namespace EngineError

/-- The wording of the error. -/
def message : EngineError → String
  | .validation error => "validation error: " ++ error.message
  | .storage failure => "storage error: " ++ failure.message

/-- The parameter at fault, if one is. -/
def parameter? : EngineError → Option String
  | .validation error => some error.parameter
  | .storage _ => none

end EngineError

/-- One page of transfer history. The last irreversible block is 0 where nobody asked for it. -/
structure TransferPage where
  lib : UInt64
  total : Json
  projection : Projection
  deriving DecidableEq, Repr

/-- When two answers that are awaited together arrive. The search is looked at first: an answer that
is there at once needs no waiting. -/
inductive Arrival where
  | atOnce
  | searchFirst
  | nodeFirst
  deriving DecidableEq, Repr

/-- What the collaborators do for one request. -/
structure Collaborators where
  backendName : String
  search : SearchRequest → Except Failure SearchHits
  node : Except Failure UInt64
  arrival : Arrival := .atOnce

/-- The answer to one request, the calls made for it, and what was logged. -/
structure Outcome where
  result : Except EngineError TransferPage
  searches : List SearchRequest := []
  nodeCalls : Nat := 0
  entries : List Log.Entry := []

namespace Engine

/-- Two answers awaited together: both, or the failure that is noticed first. -/
def join (arrival : Arrival) (search : Except Failure SearchHits) (node : Except Failure UInt64) :
    Except Failure (SearchHits × UInt64) :=
  match search, node, arrival with
  | .error _, .error failure, .nodeFirst => .error failure
  | .error failure, _, _ => .error failure
  | .ok _, .error failure, _ => .error failure
  | .ok hits, .ok lib, _ => .ok (hits, lib)

/-- The number of times the node is asked beside a search: a search that fails at once leaves it
unasked. -/
def callsBeside (arrival : Arrival) (search : Except Failure SearchHits) : Nat :=
  match search, arrival with
  | .error _, .atOnce => 0
  | _, _ => 1

/-- The page of the hits found. -/
def page (flags : ResponseFlags) (hits : SearchHits) (lib : Option UInt64) : TransferPage where
  lib := lib.getD 0
  total := hits.total
  projection :=
    ProjectionOptions.project { simple := flags.simple, noBinary := flags.noBinary, lib }
      hits.records

/-- The search and, where it is wanted, the last irreversible block. -/
def gather (flags : ResponseFlags) (collaborators : Collaborators) (request : SearchRequest) :
    Except Failure (SearchHits × Option UInt64) × Nat :=
  let found := collaborators.search request
  if flags.checkLib then
    ((join collaborators.arrival found collaborators.node).map fun (hits, lib) => (hits, some lib),
      callsBeside collaborators.arrival found)
  else (found.map fun hits => (hits, none), 0)

/-- What is logged before a search. -/
def searchEntry (backendName : String) (request : SearchRequest) : Log.Entry where
  level := .debug
  target := "xferhist_search::engine"
  message := "executing transfer search"
  fields :=
    [("backend", .quoted backendName), ("index", .plain request.index),
      ("from", .plain (Json.renderInt request.skip)),
      ("size", .plain (Json.renderInt request.size)), ("body", .plain request.body.render)]

/-- What a request asks for, if all its parameters are good: a search, and the switches of the
response. -/
def plan (config : SearchConfig) (params : Params) :
    Except QueryError (SearchRequest × ResponseFlags) := do
  let compiled ← CompiledQuery.ofParams params
  let flags ← ResponseFlags.ofParams params
  return (compiled.toRequest config.actionIndex config.maxResults.toNat, flags)

/-- The answer to one request. -/
def answer (config : SearchConfig) (collaborators : Collaborators) (params : Params) : Outcome :=
  match plan config params with
  | .error error => { result := .error (.validation error) }
  | .ok (request, flags) =>
      let (gathered, nodeCalls) := gather flags collaborators request
      { result :=
          match gathered with
          | .ok (hits, lib) => .ok (page flags hits lib)
          | .error failure => .error (.storage failure)
        searches := [request]
        nodeCalls
        entries := [searchEntry collaborators.backendName request] }

/-- The answers to a sequence of requests, each with the number of node calls made so far. -/
def run (config : SearchConfig) (calls : Nat) :
    List (Collaborators × Params) → List (Outcome × Nat)
  | [] => []
  | (collaborators, params) :: rest =>
      let outcome := answer config collaborators params
      let calls := calls + outcome.nodeCalls
      (outcome, calls) :: run config calls rest

end Engine

end TransferHistory
