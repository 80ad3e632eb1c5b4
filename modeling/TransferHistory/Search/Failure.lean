import TransferHistory.Json.Printer
import TransferHistory.Record.Decode

/-!
# Failures of the collaborators

What can go wrong while the search service or the chain node is asked. A failure says who is to
blame (`Category`); no request is tried again.
-/

namespace TransferHistory

/-- What is wrong with an answer that arrived. -/
inductive Defect where
  | noHits
  | hitsNotAList
  | noSource
  | record (error : RecordError)
  /-- The answer is no JSON text, or not one of the wanted shape. -/
  | undecodable
  /-- A record is bad for a reason that is given in words. -/
  | recordBecause (reason : String)
  /-- The answer is bad for a reason that is given in words. -/
  | because (reason : String)
  deriving DecidableEq, Repr

/-- The wording of a defect. -/
def Defect.message : Defect → String
  | .noHits => "missing `hits` in search response"
  | .hitsNotAList => "`hits.hits` is not an array"
  | .noSource => "hit without `_source`"
  | .record error => error.message
  | .undecodable => "error decoding response body"
  | .recordBecause reason => "Invalid action record: " ++ reason
  | .because reason => reason

/-- A failure of a collaborator. -/
inductive Failure where
  /-- The collaborator was not reached. -/
  | connection (reason : String)
  /-- The collaborator refused the request. -/
  | backend (status : Nat) (answer : String)
  /-- The collaborator answered something else than expected. -/
  | malformed (defect : Defect)
  /-- The service itself failed. -/
  | internal (reason : String)
  deriving DecidableEq, Repr

/-- Who is to blame for a failure. -/
inductive Category where
  | infrastructure
  | collaborator
  | internal
  deriving DecidableEq, Repr

/-- The name of a category. -/
def Category.text : Category → String
  | .infrastructure => "infrastructure"
  | .collaborator => "upstream"
  | .internal => "internal"

namespace Failure

/-- The wording of a failure. -/
def message : Failure → String
  | .connection reason => "Connection error: " ++ reason
  | .backend status answer => "Backend error (" ++ Json.renderInt status ++ "): " ++ answer
  | .malformed defect => "Malformed response: " ++ defect.message
  | .internal reason => "Internal error: " ++ reason

/-- Who is to blame. -/
def category : Failure → Category
  | .connection _ => .infrastructure
  | .backend _ _ => .collaborator
  | .malformed _ => .collaborator
  | .internal _ => .internal

end Failure

end TransferHistory
