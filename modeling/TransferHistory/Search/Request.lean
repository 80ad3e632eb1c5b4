import TransferHistory.Query.Compiled

/-!
# Search requests

One search: an index pattern, a window on the hits, and a body.
-/

namespace TransferHistory

/-- What is sent to the search service. -/
structure SearchRequest where
  index : String
  skip : Nat := 0
  size : Nat := 10
  body : Json
  deriving DecidableEq, Repr

/-- What the service searches: the indices of one chain, and at most so many hits a request. -/
structure SearchConfig where
  chain : String := "eos"
  maxResults : UInt64 := 1000
  deriving DecidableEq, Repr

/-- The pattern of a chain's action indices. -/
def SearchConfig.actionIndex (config : SearchConfig) : String :=
  config.chain ++ "-action-*"

/-- The request of a compiled query. -/
def CompiledQuery.toRequest (compiled : CompiledQuery) (index : String) (greatest : Nat) :
    SearchRequest where
  index := index
  skip := compiled.page.skip
  size := compiled.page.size greatest
  body := compiled.body

end TransferHistory
