import TransferHistory.Client.Call
import TransferHistory.Config.Basic
import TransferHistory.Search.Hits

/-!
# The search service over HTTP

A search is posted to the index below the base address, the window of hits in the query string and the
rest in the body. The settings authorize it only where they have both a user and a password.
-/

namespace TransferHistory.Client

/-- How the search service is called. -/
structure SearchService where
  base : String
  credentials : Option (String × String)
  deriving DecidableEq, Repr

namespace SearchService

/-- The name of the service. -/
def name : String := "elasticsearch"

/-- The service that the settings describe. -/
def ofSettings (settings : ElasticSettings) : SearchService where
  base := settings.url
  credentials :=
    match settings.user, settings.password with
    | some user, some password => some (user, password)
    | _, _ => none

/-- What is below the base address for an index. -/
def resource (index : String) : String :=
  "/" ++ index ++ "/_search"

/-- The call for a search, if the service can be called. -/
def call? (service : SearchService) (request : SearchRequest) : Option Call :=
  (address? service.base (resource request.index)).map fun url =>
    let call := Call.ofUrl url
    { call with
      url := (call.url.withPair "from" (Json.renderInt request.skip)).withPair "size"
        (Json.renderInt request.size)
      authorizations := call.authorizations ++ (service.credentials.map fun (user, password) =>
        Call.basicAuthorization user (some password)).toList
      body := some request.body }

/-- The hits in an answer. -/
def readAnswer (answer : Answer) : Except Failure SearchHits :=
  if answer.isSuccess then
    match answer.json? with
    | some body => SearchHits.ofResponse body
    | none => .error (.malformed .undecodable)
  else .error answer.failure

/-- What is logged about an answer: only that a search was refused. -/
def entries (request : SearchRequest) (answer : Answer) : List Log.Entry :=
  if answer.isSuccess then []
  else
    [{ level := .warn
       target := "xferhist_server::elastic"
       message := "search backend rejected query"
       fields := [("status", .plain (Json.renderInt answer.status)),
         ("index", .plain request.index)] }]

/-- A search. -/
def search (service : SearchService) (network : Network) (request : SearchRequest) :
    Exchange SearchHits :=
  exchange network (service.call? request) readAnswer (entries request)

end SearchService

end TransferHistory.Client
