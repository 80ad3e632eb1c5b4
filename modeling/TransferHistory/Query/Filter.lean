import TransferHistory.Query.Clause
import TransferHistory.Query.Field

/-!
# Filter expressions

The text of a filter is tried against these forms, in this order:

- `lower-upper`, a range: a text with a hyphen. What follows a second hyphen is dropped.
- `a,b,!c`, alternatives: one of the plain tokens holds and none of the negated ones.
- `a b`, words: every one of them holds.
- `!a`, a negation.
- `a`, a plain term.
-/

namespace TransferHistory

namespace Filter

/-- The range of a text with a hyphen. -/
def range? (field value : String) : Option Clause :=
  match Text.split '-' value with
  | lower :: upper :: _ => some (.range field lower upper)
  | _ => none

/-- One of some values: nothing for none, a term for one. -/
def group? (field : String) : List String → Option Clause
  | [] => none
  | [value] => some (.term field value)
  | values => some (.anyOf (values.map (.term field)))

/-- A token is negated. -/
def isNegated (token : String) : Bool :=
  (Text.behind? '!' token).isSome

end Filter

namespace BooleanQuery

/-- A clause that must hold, where there is one. -/
def require? (clause : Option Clause) (query : BooleanQuery) : BooleanQuery :=
  match clause with
  | some clause => query.require clause
  | none => query

/-- A clause that must not hold, where there is one. -/
def exclude? (clause : Option Clause) (query : BooleanQuery) : BooleanQuery :=
  match clause with
  | some clause => query.exclude clause
  | none => query

/-- Alternatives: one of the plain tokens, and none of the negated ones. -/
def requireAlternatives (field : String) (tokens : List String) (query : BooleanQuery) :
    BooleanQuery :=
  let plain := tokens.filter fun token => !Filter.isNegated token
  let negated := tokens.filterMap (Text.behind? '!')
  (query.require? (Filter.group? field plain)).exclude? (Filter.group? field negated)

/-- The clauses of one filter. -/
def requireFilter (key value : String) (query : BooleanQuery) : BooleanQuery :=
  match Filter.range? key value with
  | some range => query.require range
  | none =>
      match Text.split ',' value with
      | first :: second :: others => query.requireAlternatives key (first :: second :: others)
      | _ =>
          match Text.split ' ' value with
          | first :: second :: others =>
              query.requireAll ((first :: second :: others).map (.term key))
          | _ =>
              match Text.behind? '!' value with
              | some negated => query.exclude (.term key negated)
              | none => query.require (.term key value)

/-- The clauses of every filter of a request that earlier stages have left. -/
def requireFilters (params : Params) (consumed : List String) (query : BooleanQuery) :
    BooleanQuery :=
  (params.filterFields consumed).foldl
    (fun query field => query.requireFilter field.storageKey field.value) query

end BooleanQuery

end TransferHistory
