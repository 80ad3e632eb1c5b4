import TransferHistory.Query.Clause
import TransferHistory.Query.Params

/-!
# Time window

A request may ask for the records after one time and before another. Times are in UTC, so a bound
that does not end with the mark `Z` gets one; a missing bound is open and gets none.
-/

namespace TransferHistory

namespace Window

/-- The field that holds the time of a record. -/
def field : String := "@timestamp"

/-- A time with the mark of UTC. -/
def inUtc (time : String) : String :=
  if time.toList.getLast? = some 'Z' then time else time ++ "Z"

/-- The range of a request's window, if it has a bound. -/
def clause? (params : Params) : Option Clause :=
  match params.get? "after", params.get? "before" with
  | none, none => none
  | after, before =>
      some (.range field ((after.map inUtc).getD "0") ((before.map inUtc).getD "now"))

end Window

/-- The time window of a request applied to a query. -/
def BooleanQuery.restrictTime (params : Params) (query : BooleanQuery) : BooleanQuery :=
  match Window.clause? params with
  | some clause => query.restrict clause
  | none => query

end TransferHistory
