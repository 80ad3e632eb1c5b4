import TransferHistory.Json.Basic
import TransferHistory.Query.Params
import TransferHistory.Text.Split

/-!
# Sort order

Hits come in the order of their global sequence number unless the request names another field. The
direction of a named field is passed on as it is; only the direction parameter of its own is checked.
-/

namespace TransferHistory

/-- A checked direction. -/
inductive Direction where
  | asc
  | desc
  deriving DecidableEq, Repr

/-- A direction as the search body spells it. -/
def Direction.text : Direction → String
  | .asc => "asc"
  | .desc => "desc"

/-- The direction of a request. -/
def Direction.ofParams (params : Params) : Except QueryError Direction :=
  match params.get? "sort" with
  | none => .ok .desc
  | some "asc" | some "1" => .ok .asc
  | some "desc" | some "-1" => .ok .desc
  | some _ => .error .invalidSortDirection

/-- A field and a direction as sent to the search service. -/
structure SortOrder where
  field : String
  direction : String
  deriving DecidableEq, Repr

namespace SortOrder

/-- The field of the global sequence number. -/
def defaultField : String := "global_sequence"

/-- The order of a request: `sortedBy` gives a field and, behind a colon, a direction. -/
def ofParams (params : Params) (direction : Direction) : SortOrder :=
  match params.get? "sortedBy" with
  | none => ⟨defaultField, direction.text⟩
  | some sortedBy =>
      match Text.split ':' sortedBy with
      | field :: named :: _ => ⟨field, named⟩
      | field :: [] => ⟨field, direction.text⟩
      | [] => ⟨"", direction.text⟩

/-- The order as a value. -/
def toJson (order : SortOrder) : Json :=
  .object [(order.field, .string order.direction)]

end SortOrder

end TransferHistory
