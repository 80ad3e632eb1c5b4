import TransferHistory.Api.Error

/-!
# HTTP responses

A response is a status, the two headers that matter here, and a JSON body or none.
-/

namespace TransferHistory

/-- A response. -/
structure Response where
  status : Nat
  contentType : Option String := none
  allow : Option String := none
  body : Option Json := none
  deriving DecidableEq, Repr

namespace Response

/-- The text of the body; nothing where there is none. -/
def bodyText (response : Response) : String :=
  (response.body.map Json.render).getD ""

/-- A response with a JSON body. -/
def json (status : Nat) (body : Json) : Response :=
  { status, contentType := some "application/json", body := some body }

/-- A response without its body, all else being as it is. -/
def withoutBody (response : Response) : Response :=
  { response with body := none }

end Response

/-- The response that shows an error. -/
def ApiError.toResponse (error : ApiError) : Response :=
  .json error.status error.body

/-- The body that answers a page: how long the request took, in milliseconds, and the page. Nothing
is ever cached. -/
def TransferPage.envelope (page : TransferPage) (elapsed : Binary64) : Json :=
  .object ([("query_time_ms", .number (.real elapsed)), ("cached", .bool false),
    ("lib", .ofWord64 page.lib), ("total", page.total)] ++ page.projection.toMembers)

end TransferHistory
