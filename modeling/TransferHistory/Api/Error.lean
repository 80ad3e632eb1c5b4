import TransferHistory.Search.Engine

/-!
# HTTP errors

An error of the service as HTTP shows it: a status, its reason, and a message. Bad parameters are the
caller's fault; of the failures only an internal one is the service's own, every other one is that of
a collaborator, whatever status the collaborator itself answered.
-/

namespace TransferHistory

/-- An error as a response shows it. -/
inductive ApiError where
  | badRequest (message : String)
  | notFound (message : String)
  | badGateway (message : String)
  | internal (message : String)
  deriving DecidableEq, Repr

/-- The reason that belongs to a status of this service. -/
def statusReason (status : Nat) : String :=
  match status with
  | 200 => "OK"
  | 400 => "Bad Request"
  | 404 => "Not Found"
  | 405 => "Method Not Allowed"
  | 502 => "Bad Gateway"
  | _ => "Internal Server Error"

namespace ApiError

/-- The status of the response. -/
def status : ApiError → Nat
  | .badRequest _ => 400
  | .notFound _ => 404
  | .badGateway _ => 502
  | .internal _ => 500

/-- The reason that belongs to the status. -/
def reason (error : ApiError) : String :=
  statusReason error.status

/-- What is told to the caller. -/
def message : ApiError → String
  | .badRequest message | .notFound message | .badGateway message | .internal message => message

/-- The error in one line. -/
def text : ApiError → String
  | .badRequest message => "Bad request: " ++ message
  | .notFound message => "Not found: " ++ message
  | .badGateway message => "Bad gateway: " ++ message
  | .internal message => "Internal server error: " ++ message

/-- The error is one of the service or its collaborators. -/
def isServerError (error : ApiError) : Bool :=
  500 ≤ error.status

/-- The body of the response. -/
def body (error : ApiError) : Json :=
  .object [("statusCode", .ofNat error.status), ("error", .string error.reason),
    ("message", .string error.message)]

/-- The error that a failed request is answered with. -/
def ofEngine : EngineError → ApiError
  | .validation error => .badRequest error.message
  | .storage failure =>
      match failure.category with
      | .internal => .internal failure.message
      | .infrastructure | .collaborator => .badGateway failure.message

/-- What is logged when the error is answered: an error of the caller is not. -/
def entries (error : ApiError) : List Log.Entry :=
  if error.isServerError then
    [{ level := .error
       target := "xferhist_api"
       message := "request failed"
       fields := [("error", .plain error.text)] }]
  else []

end ApiError

end TransferHistory
