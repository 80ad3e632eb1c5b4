/-!
# Validation errors

What can be wrong with the parameters of a request. Each error names the parameter that caused it;
`QueryError.message` is the only place that words it.
-/

namespace TransferHistory

/-- A parameter that cannot be used. -/
inductive QueryError where
  | invalidSkip
  | invalidLimit
  | invalidSortDirection
  | invalidTrack
  | invalidFlag (name : String)
  deriving DecidableEq, Repr

namespace QueryError

/-- The wording of the error. -/
def message : QueryError → String
  | .invalidSkip => "invalid skip parameter"
  | .invalidLimit => "invalid limit parameter"
  | .invalidSortDirection => "invalid sort direction"
  | .invalidTrack => "failed to parse track param"
  | .invalidFlag name => "invalid boolean for " ++ name

/-- The parameter at fault. -/
def parameter : QueryError → String
  | .invalidSkip => "skip"
  | .invalidLimit => "limit"
  | .invalidSortDirection => "sort"
  | .invalidTrack => "track"
  | .invalidFlag name => name

end QueryError

end TransferHistory
