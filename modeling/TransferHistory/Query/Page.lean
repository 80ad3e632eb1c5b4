import TransferHistory.Query.Params

/-!
# Page window

Which part of the hits a request asks for: how many to skip and how many to return at most. A
parameter without a leading integer takes its default. The service's own limit is applied later, to
the size only.
-/

namespace TransferHistory

/-- The window of a request. -/
structure Page where
  skip : Nat := 0
  limit : Nat := 10
  deriving DecidableEq, Repr

namespace Page

/-- The number of hits to skip. It must not be negative. -/
def readSkip (params : Params) : Except QueryError Nat :=
  match params.int? "skip" with
  | none => .ok 0
  | some skip => if skip < 0 then .error .invalidSkip else .ok skip.toNat

/-- The number of hits to return. It must be positive. -/
def readLimit (params : Params) : Except QueryError Nat :=
  match params.int? "limit" with
  | none => .ok 10
  | some limit => if limit < 1 then .error .invalidLimit else .ok limit.toNat

/-- The window of a request. -/
def ofParams (params : Params) : Except QueryError Page := do
  return { skip := ← readSkip params, limit := ← readLimit params }

/-- The number of hits to return under a service limit. -/
def size (greatest : Nat) (page : Page) : Nat :=
  min page.limit greatest

end Page

end TransferHistory
