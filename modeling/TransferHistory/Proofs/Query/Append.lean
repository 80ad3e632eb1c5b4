import TransferHistory.Query.Filter

/-!
# Queries behind one another

A query followed by the clauses of another one, list by list. Every way of adding a clause is of this
form, so what holds of `append` holds of all of them. A step that puts the same clauses behind every
query only appends (`Appends`), and steps that only append may be looked at one by one.

Results:
1. `requireAll_eq_append`, `require?_eq_append` and the like: the ways of adding clauses.
2. `foldl_eq_append`: steps that only append, one after another.
-/

namespace TransferHistory.BooleanQuery

/-- A query with the clauses of another one behind its own. -/
def append (query more : BooleanQuery) : BooleanQuery :=
  { query with
    must := query.must ++ more.must
    mustNot := query.mustNot ++ more.mustNot
    filter := query.filter ++ more.filter }

theorem requireAll_eq_append (query : BooleanQuery) (clauses : List Clause) :
    query.requireAll clauses = query.append { must := clauses } := by
  simp [requireAll, append]

theorem require_eq_append (query : BooleanQuery) (clause : Clause) :
    query.require clause = query.append { must := [clause] } := by
  simp [require, append]

theorem exclude_eq_append (query : BooleanQuery) (clause : Clause) :
    query.exclude clause = query.append { mustNot := [clause] } := by
  simp [exclude, append]

theorem restrict_eq_append (query : BooleanQuery) (clause : Clause) :
    query.restrict clause = query.append { filter := [clause] } := by
  simp [restrict, append]

theorem require?_eq_append (query : BooleanQuery) (clause : Option Clause) :
    query.require? clause = query.append { must := clause.toList } := by
  cases clause with
  | none => simp [require?, append]
  | some clause => exact require_eq_append query clause

theorem exclude?_eq_append (query : BooleanQuery) (clause : Option Clause) :
    query.exclude? clause = query.append { mustNot := clause.toList } := by
  cases clause with
  | none => simp [exclude?, append]
  | some clause => exact exclude_eq_append query clause

/-! ## Steps that only append -/

/-- A step puts clauses behind those of a query, the same ones whatever the query is. -/
def Appends (step : BooleanQuery → BooleanQuery) : Prop :=
  ∀ query, step query = query.append (step empty)

theorem append_empty_append (query more : BooleanQuery) :
    query.append (empty.append more) = query.append more := by
  simp [append, empty]

theorem Appends.of_eq {step : BooleanQuery → BooleanQuery} {more : BooleanQuery}
    (same : ∀ query, step query = query.append more) : Appends step := by
  intro query
  rw [same query, same empty, append_empty_append]

/-- Queries behind one another, list by list. -/
def concat (queries : List BooleanQuery) : BooleanQuery where
  must := queries.flatMap must
  mustNot := queries.flatMap mustNot
  filter := queries.flatMap filter

theorem append_concat_cons (query first : BooleanQuery) (rest : List BooleanQuery) :
    query.append (concat (first :: rest)) = (query.append first).append (concat rest) := by
  simp [append, concat]

/-- Steps that only append put the clauses of the first one before those of the second, and so on. -/
theorem foldl_eq_append {α : Type} {step : BooleanQuery → α → BooleanQuery}
    (each : ∀ item, Appends fun query => step query item) (items : List α) (query : BooleanQuery) :
    items.foldl step query = query.append (concat (items.map (step empty))) := by
  -- By induction on the items, for every query that the items before them have led to.
  induction items generalizing query with
  | nil => simp [append, concat]
  | cons item rest ih =>
      have first : step query item = query.append (step empty item) := each item query
      rw [List.foldl_cons, ih, first, List.map_cons, append_concat_cons]

end TransferHistory.BooleanQuery
