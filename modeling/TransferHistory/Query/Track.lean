import TransferHistory.Json.Basic
import TransferHistory.Query.Params

/-!
# Counting the hits

How exactly the search service counts all matching records: always, never, or up to a number.
-/

namespace TransferHistory

/-- How far the hits are counted. -/
inductive Track where
  | exact (counted : Bool)
  | upTo (count : Nat)
  deriving DecidableEq, Repr

namespace Track

/-- The number up to which hits are counted unless the request says otherwise. -/
def defaultCount : Nat := 10000

/-- The counting asked for: `true`, `false` or a positive number. -/
def ofParams (params : Params) : Except QueryError Track :=
  match params.get? "track" with
  | none => .ok (.upTo defaultCount)
  | some "true" => .ok (.exact true)
  | some "false" => .ok (.exact false)
  | some _ =>
      match params.int? "track" with
      | some count => if 0 < count then .ok (.upTo count.toNat) else .error .invalidTrack
      | none => .error .invalidTrack

/-- The counting as a value. -/
def toJson : Track → Json
  | .exact counted => .bool counted
  | .upTo count => .ofNat count

end Track

end TransferHistory
