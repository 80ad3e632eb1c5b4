import TransferHistory.Proofs.Query.Clauses

/-!
# Stages of a query

A query is built by stages: the shortcuts, the filters and the time window of a request, or a single
filter and a single list of alternatives. Each stage puts clauses behind those that are there, and the
same ones whatever is there (`Appends`). So a run of stages, in any order and for any requests, is the
first query with the clauses of each stage behind it, and they can be looked at one stage at a time.

Results:
1. `BooleanQuery.appends_apply`: every stage only appends.
2. `BooleanQuery.emitted_window`, `BooleanQuery.emitted_shortcuts`, `BooleanQuery.filter_emitted`:
   which lists a stage extends.
3. `BooleanQuery.requireFilters_without`: leaving names out of a request instead of reporting them.
4. `BooleanQuery.after_appends`: what a run of stages makes of a query.
-/

namespace TransferHistory

/-- A stage that a query goes through, with all that it is given. -/
inductive Stage where
  /-- The shortcuts of a request. -/
  | shortcuts (params : Params)
  /-- The filters of a request, except for the names that were reported. -/
  | filters (params : Params) (consumed : List String)
  /-- The time window of a request. -/
  | window (params : Params)
  /-- Alternatives for a field. -/
  | alternatives (field : String) (tokens : List String)
  /-- One filter. -/
  | filter (field : FilterField)
  deriving DecidableEq

/-- A request without the parameters of some names. -/
def Params.without (consumed : List String) (params : Params) : Params where
  entries := params.entries.filter fun entry => entry.1 ∉ consumed
  distinct := params.distinct.sublist (List.filter_sublist.map Prod.fst)

namespace BooleanQuery

/-- A query after a stage. -/
def apply (query : BooleanQuery) : Stage → BooleanQuery
  | .shortcuts params => (query.requireShortcuts params).1
  | .filters params consumed => query.requireFilters params consumed
  | .window params => query.restrictTime params
  | .alternatives field tokens => query.requireAlternatives field tokens
  | .filter field => query.requireFilter field.storageKey field.value

/-- A query after some stages, in order. -/
def after (query : BooleanQuery) (stages : List Stage) : BooleanQuery :=
  stages.foldl apply query

/-- What a stage makes of the query without clauses. -/
def emitted (stage : Stage) : BooleanQuery :=
  empty.apply stage

/-! ## Stages -/

theorem appends_requireFilter (field : FilterField) :
    Appends fun query => query.requireFilter field.storageKey field.value :=
  .of_eq (requireFilter_eq_append field.storageKey field.value)

/-- The filters of a request put their clauses behind one another. -/
theorem requireFilters_eq_append (params : Params) (consumed : List String)
    (query : BooleanQuery) :
    query.requireFilters params consumed = query.append (concat
      ((params.filterFields consumed).map fun field =>
        empty.requireFilter field.storageKey field.value)) :=
  foldl_eq_append appends_requireFilter (params.filterFields consumed) query

/-- Every stage only appends. -/
theorem appends_apply (stage : Stage) : Appends fun query => query.apply stage := by
  cases stage with
  | shortcuts params => exact .of_eq (requireShortcuts_eq params)
  | filters params consumed => exact .of_eq (requireFilters_eq_append params consumed)
  | window params => exact .of_eq (restrictTime_eq params)
  | alternatives field tokens => exact .of_eq (requireExpression_eq_append field (.alternatives tokens))
  | filter field => exact appends_requireFilter field

theorem after_eq_append (query : BooleanQuery) (stages : List Stage) :
    query.after stages = query.append (concat (stages.map emitted)) :=
  foldl_eq_append appends_apply stages query

/-! ## The lists that a stage extends -/

theorem emitted_window (params : Params) :
    emitted (.window params) = { filter := (Window.clause? params).toList } := by
  show empty.restrictTime params = _
  rw [restrictTime_eq]
  simp [append, empty]

theorem emitted_shortcuts (params : Params) :
    emitted (.shortcuts params) = { must := params.shortcutClauses } := by
  show (empty.requireShortcuts params).1 = _
  rw [requireShortcuts_eq]
  simp [append, empty]

/-- No filter asks for a clause that only filters. -/
theorem filter_requireFilter (query : BooleanQuery) (field : FilterField) :
    (query.requireFilter field.storageKey field.value).filter = query.filter := by
  rw [requireFilter_eq_append, Expression.clauses_eq]
  exact List.append_nil query.filter

/-- A stage other than the time window leaves the clauses alone that only filter. -/
theorem filter_emitted {stage : Stage} (other : ∀ params, stage ≠ .window params) :
    (emitted stage).filter = [] := by
  cases stage with
  | shortcuts params => rw [emitted_shortcuts]
  | filters params consumed =>
      show (empty.requireFilters params consumed).filter = []
      rw [requireFilters_eq_append]
      show List.flatMap filter _ = []
      rw [List.flatMap_map, List.flatMap_eq_nil_iff]
      intro field _
      exact filter_requireFilter empty field
  | window params => exact absurd rfl (other params)
  | alternatives field tokens =>
      show (empty.requireExpression field (.alternatives tokens)).filter = []
      rw [requireExpression_eq_append, Expression.clauses_eq]
      rfl
  | filter field => exact filter_requireFilter empty field

/-! ## Names that were reported -/

theorem snd_foldl_applyShortcut (params : Params) (shortcuts : List Shortcut)
    (query other : BooleanQuery) (reported : List String) :
    (shortcuts.foldl (Shortcut.apply params) (query, reported)).2 =
      (shortcuts.foldl (Shortcut.apply params) (other, reported)).2 := by
  induction shortcuts generalizing query other reported with
  | nil => rfl
  | cons shortcut rest ih =>
      rw [List.foldl_cons, List.foldl_cons]
      unfold Shortcut.apply
      cases params.get? shortcut.param with
      | none => exact ih query other reported
      | some value => exact ih _ _ _

/-- Reporting a name is the same to the filters as leaving it out of the request. -/
theorem requireFilters_without (params : Params) (consumed : List String) (query : BooleanQuery) :
    query.requireFilters params consumed = query.requireFilters (params.without consumed) [] := by
  have same : params.filterFields consumed = (params.without consumed).filterFields [] := by
    simp [Params.filterFields, Params.without]
  unfold requireFilters
  rw [same]

/-! ## Runs -/

/-- A run of stages puts behind each list of a query what the stages emit to that list from an empty
query, in the order of the stages, and leaves the weight as it is. Only the time window extends the
clauses that filter, and it extends no others; the shortcuts exclude nothing, and which names they
report does not depend on the query either. Filters that some names were reported to are the filters
of the request without these names. -/
theorem after_appends (query : BooleanQuery) (stages : List Stage) :
    query.after stages =
      { must := query.must ++ stages.flatMap fun stage => (emitted stage).must
        mustNot := query.mustNot ++ stages.flatMap fun stage => (emitted stage).mustNot
        filter := query.filter ++ stages.flatMap fun stage => (emitted stage).filter
        boost := query.boost } ∧
    (∀ stage, (emitted stage).filter ≠ [] → ∃ params, stage = .window params) ∧
    (∀ params, (emitted (.window params)).must = [] ∧ (emitted (.window params)).mustNot = []) ∧
    (∀ params, (emitted (.shortcuts params)).mustNot = [] ∧
      (query.requireShortcuts params).2 = (empty.requireShortcuts params).2) ∧
    ∀ params consumed,
      query.requireFilters params consumed = query.requireFilters (params.without consumed) [] := by
  refine ⟨?_, ?_, ?_, ?_, ?_⟩
  · rw [after_eq_append]
    simp [append, concat, List.flatMap_map]
  · intro stage extended
    by_contra other
    exact extended (filter_emitted fun params same => other ⟨params, same⟩)
  · intro params
    rw [emitted_window]
    exact ⟨rfl, rfl⟩
  · intro params
    rw [emitted_shortcuts]
    exact ⟨rfl, snd_foldl_applyShortcut params Shortcut.all query empty []⟩
  · intro params consumed
    exact requireFilters_without params consumed query

end BooleanQuery

end TransferHistory
