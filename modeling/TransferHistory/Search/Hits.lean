import TransferHistory.Search.Failure

/-!
# Hits

The answer of the search service: a description of the total, passed on as it is, and the records of
one page, in order. A page is read completely or not at all; the first bad hit decides.
-/

namespace TransferHistory

/-- One page of hits. -/
structure SearchHits where
  total : Json
  records : List Record
  deriving DecidableEq, Repr

namespace SearchHits

/-- A page without hits. -/
def empty : SearchHits := ⟨.null, []⟩

/-- The record of one hit. -/
def readHit (hit : Json) : Except Failure Record :=
  match hit.get? "_source" with
  | none => .error (.malformed .noSource)
  | some source =>
      match Record.ofSource? source with
      | .ok record => .ok record
      | .error error => .error (.malformed (.record error))

/-- The list of hits; a missing one is empty. -/
def readList (hits : Json) : Except Failure (List Json) :=
  match hits.get? "hits" with
  | none => .ok []
  | some (.array items) => .ok items
  | some _ => .error (.malformed .hitsNotAList)

/-- The page in an answer of the search service. -/
def ofResponse (body : Json) : Except Failure SearchHits :=
  match body.get? "hits" with
  | none => .error (.malformed .noHits)
  | some hits => do
      let items ← readList hits
      let records ← items.mapM readHit
      return ⟨(hits.get? "total").getD .null, records⟩

/-- A page as a value. -/
def toJson (hits : SearchHits) : Json :=
  .object [("total", hits.total), ("hits", .array (hits.records.map Record.toJson))]

end SearchHits

end TransferHistory
