import TransferHistory.Json.Basic

/-!
# Clauses

What the search service is asked to match. A boolean query holds its clauses in three lists: those
that must hold, those that must not, and those that filter without being scored. Clauses are only
ever added at the end of a list (`require`, `exclude`, `restrict`).
-/

namespace TransferHistory

/-- One condition on a record. -/
inductive Clause where
  /-- A field has a value. -/
  | term (field value : String)
  /-- A field lies between two bounds, both included. -/
  | range (field lower upper : String)
  /-- One of some conditions holds. -/
  | anyOf (clauses : List Clause)
  deriving Repr

namespace Clause

mutual

/-- Equality of clauses can be decided. -/
def decEq : (a b : Clause) → Decidable (a = b)
  | .term f v, .term g w =>
      if h : f = g ∧ v = w then isTrue (by rw [h.1, h.2]) else isFalse (by simpa using h)
  | .range f l u, .range g m w =>
      if h : f = g ∧ l = m ∧ u = w then isTrue (by rw [h.1, h.2.1, h.2.2])
      else isFalse (by simpa using h)
  | .anyOf cs, .anyOf ds =>
      match decEqList cs ds with
      | isTrue h => isTrue (by rw [h])
      | isFalse h => isFalse (by simpa using h)
  | .term _ _, .range _ _ _ | .term _ _, .anyOf _ | .range _ _ _, .term _ _
  | .range _ _ _, .anyOf _ | .anyOf _, .term _ _ | .anyOf _, .range _ _ _ => isFalse (by simp)

/-- Equality of clause lists can be decided. -/
def decEqList : (as bs : List Clause) → Decidable (as = bs)
  | [], [] => isTrue rfl
  | [], _ :: _ => isFalse (by simp)
  | _ :: _, [] => isFalse (by simp)
  | a :: as, b :: bs =>
      match decEq a b, decEqList as bs with
      | isTrue h, isTrue hs => isTrue (by rw [h, hs])
      | isFalse h, _ => isFalse (by simp [h])
      | _, isFalse hs => isFalse (by simp [hs])

end

instance : DecidableEq Clause := decEq

mutual

/-- A clause as a value. -/
def toJson : Clause → Json
  | .term field value => .object [("term", .object [(field, .string value)])]
  | .range field lower upper =>
      .object [("range", .object [(field, .object [("gte", .string lower),
        ("lte", .string upper)])])]
  | .anyOf clauses => .object [("bool", .object [("should", .array (listToJson clauses))])]

/-- Clauses as values. -/
def listToJson : List Clause → List Json
  | [] => []
  | clause :: rest => toJson clause :: listToJson rest

end

end Clause

/-- Clauses in three lists, and the weight of their score. -/
structure BooleanQuery where
  must : List Clause := []
  mustNot : List Clause := []
  filter : List Clause := []
  boost : Binary64 := .one
  deriving DecidableEq, Repr

namespace BooleanQuery

/-- A query without clauses. -/
def empty : BooleanQuery := {}

/-- A query has no clauses. -/
def isEmpty (query : BooleanQuery) : Bool :=
  query.must.isEmpty && query.mustNot.isEmpty && query.filter.isEmpty

/-- One more clause that must hold. -/
def require (clause : Clause) (query : BooleanQuery) : BooleanQuery :=
  { query with must := query.must ++ [clause] }

/-- More clauses that must hold. -/
def requireAll (clauses : List Clause) (query : BooleanQuery) : BooleanQuery :=
  { query with must := query.must ++ clauses }

/-- One more clause that must not hold. -/
def exclude (clause : Clause) (query : BooleanQuery) : BooleanQuery :=
  { query with mustNot := query.mustNot ++ [clause] }

/-- One more clause that filters without being scored. -/
def restrict (clause : Clause) (query : BooleanQuery) : BooleanQuery :=
  { query with filter := query.filter ++ [clause] }

/-- A query as a value. An empty filter list is not written. -/
def toJson (query : BooleanQuery) : Json :=
  .object [("bool", .object (
    [("must", .array (Clause.listToJson query.must)),
      ("must_not", .array (Clause.listToJson query.mustNot))] ++
    (if query.filter.isEmpty then []
      else [("filter", .array (Clause.listToJson query.filter))]) ++
    [("boost", .number (.real query.boost))]))]

end BooleanQuery

end TransferHistory
