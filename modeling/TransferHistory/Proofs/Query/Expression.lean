import TransferHistory.Proofs.Text.Split
import TransferHistory.Query.Filter

/-!
# Filter expressions as data

What the text of a filter asks for, read off the separators it holds: a hyphen wins over a comma, a
comma over a space, and only a text with none of the three can be a negation. `requireFilter_eq` says
that a filter adds to a query exactly the clauses of its expression.
-/

namespace TransferHistory

/-- What a filter asks of its field. -/
inductive Expression where
  /-- The field lies between two bounds. -/
  | range (lower upper : String)
  /-- One of the plain tokens, where there are any, and none of the negated ones. -/
  | alternatives (tokens : List String)
  /-- All of these values. -/
  | words (values : List String)
  /-- Not this value. -/
  | negation (value : String)
  /-- This value. -/
  | plain (value : String)
  deriving DecidableEq, Repr

namespace Expression

/-- The expression that a text stands for. -/
def ofText (value : String) : Expression :=
  if '-' ∈ value.toList then
    .range (String.ofList (Text.upTo '-' value.toList))
      (String.ofList (Text.upTo '-' (Text.past '-' value.toList)))
  else if ',' ∈ value.toList then .alternatives (Text.split ',' value)
  else if ' ' ∈ value.toList then .words (Text.split ' ' value)
  else
    match Text.behind? '!' value with
    | some negated => .negation negated
    | none => .plain value

end Expression

/-- The clauses of an expression on a field. -/
def BooleanQuery.requireExpression (field : String) (expression : Expression)
    (query : BooleanQuery) : BooleanQuery :=
  match expression with
  | .range lower upper => query.require (.range field lower upper)
  | .alternatives tokens => query.requireAlternatives field tokens
  | .words values => query.requireAll (values.map (.term field))
  | .negation value => query.exclude (.term field value)
  | .plain value => query.require (.term field value)

theorem Filter.range?_of_mem {field value : String} (present : '-' ∈ value.toList) :
    range? field value =
      some (.range field (String.ofList (Text.upTo '-' value.toList))
        (String.ofList (Text.upTo '-' (Text.past '-' value.toList)))) := by
  obtain ⟨others, split⟩ := Text.split_of_mem present
  simp [range?, split]

theorem Filter.range?_of_not_mem {field value : String} (absent : '-' ∉ value.toList) :
    range? field value = none := by
  simp [range?, Text.split_of_not_mem absent]

/-- A filter adds the clauses of its expression. -/
theorem BooleanQuery.requireFilter_eq (key value : String) (query : BooleanQuery) :
    query.requireFilter key value = query.requireExpression key (Expression.ofText value) := by
  unfold requireFilter Expression.ofText
  by_cases hyphen : '-' ∈ value.toList
  · simp only [hyphen, if_true, Filter.range?_of_mem hyphen]
    rfl
  · simp only [hyphen, if_false, Filter.range?_of_not_mem hyphen]
    by_cases comma : ',' ∈ value.toList
    · obtain ⟨others, split⟩ := Text.split_of_mem comma
      simp only [comma, if_true, split]
      rfl
    · simp only [comma, if_false, Text.split_of_not_mem comma]
      by_cases space : ' ' ∈ value.toList
      · obtain ⟨others, split⟩ := Text.split_of_mem space
        simp only [space, if_true, split]
        rfl
      · simp only [space, if_false, Text.split_of_not_mem space]
        cases Text.behind? '!' value with
        | none => rfl
        | some negated => rfl

example : BooleanQuery.empty.requireFilter "f" "a,!b,c" =
    { must := [.anyOf [.term "f" "a", .term "f" "c"]], mustNot := [.term "f" "b"] } := by
  decide +kernel

end TransferHistory
