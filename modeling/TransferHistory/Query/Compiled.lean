import TransferHistory.Query.Filter
import TransferHistory.Query.Page
import TransferHistory.Query.Shortcut
import TransferHistory.Query.SortOrder
import TransferHistory.Query.Track
import TransferHistory.Query.Window

/-!
# Compiled queries

A request's parameters become a page window, a way of counting, a boolean query and a sort order. The
boolean query is built in three stages: shortcuts, filters, time window. Of several bad parameters
the first in the order skip, limit, sort, track is reported.
-/

namespace TransferHistory

/-- What a request asks of the search service. -/
structure CompiledQuery where
  page : Page
  track : Track
  query : BooleanQuery
  sort : SortOrder
  deriving DecidableEq, Repr

/-- The boolean query of a request. -/
def BooleanQuery.ofParams (params : Params) : BooleanQuery :=
  let (query, consumed) := empty.requireShortcuts params
  (query.requireFilters params consumed).restrictTime params

namespace CompiledQuery

/-- The compiled form of a request. -/
def ofParams (params : Params) : Except QueryError CompiledQuery := do
  let page ← Page.ofParams params
  let direction ← Direction.ofParams params
  let track ← Track.ofParams params
  return { page, track, query := .ofParams params, sort := .ofParams params direction }

/-- The body sent to the search service. -/
def body (compiled : CompiledQuery) : Json :=
  .object [("track_total_hits", compiled.track.toJson), ("query", compiled.query.toJson),
    ("sort", compiled.sort.toJson)]

end CompiledQuery

end TransferHistory
