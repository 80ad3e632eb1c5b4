import TransferHistory.Proofs.Query.Append
import TransferHistory.Proofs.Query.Expression
import TransferHistory.Proofs.Query.Field
import TransferHistory.Proofs.Result
import TransferHistory.Query.Compiled

/-!
# The clauses of a request

The boolean query of a request, list by list. What must hold comes from the shortcuts, in their own
order, and behind that from the filters, in the order of the parameters. What must not hold comes from
the filters alone, and the time window alone filters without being scored.

Results:
1. `BooleanQuery.requireFilter_eq_append`, `BooleanQuery.requireShortcuts_eq`: what a filter and the
   shortcuts add does not depend on the query that they are added to.
2. `BooleanQuery.ofParams_eq`: the three lists of a request's query.
3. `CompiledQuery.parts_of_ofParams`: the query of a request beside the other parts that it has.
-/

namespace TransferHistory

/-! ## Filters -/

/-- The clauses that an expression on a field asks for. -/
def Expression.clauses (field : String) : Expression → BooleanQuery
  | .range lower upper => { must := [.range field lower upper] }
  | .alternatives tokens =>
      { must := (Filter.group? field (tokens.filter fun token => !Filter.isNegated token)).toList
        mustNot := (Filter.group? field (tokens.filterMap (Text.behind? '!'))).toList }
  | .words values => { must := values.map (.term field) }
  | .negation value => { mustNot := [.term field value] }
  | .plain value => { must := [.term field value] }

/-- The clauses that a filter parameter asks for. -/
def BooleanQuery.ofFilter (entry : String × String) : BooleanQuery :=
  (Expression.ofText entry.2).clauses (Field.indexed entry.1)

/-- No expression asks for a clause that only filters. -/
theorem Expression.clauses_eq (field : String) (expression : Expression) :
    expression.clauses field =
      { must := (expression.clauses field).must
        mustNot := (expression.clauses field).mustNot } := by
  cases expression <;> rfl

namespace BooleanQuery

theorem append_append (query first second : BooleanQuery) :
    (query.append first).append second = query.append (first.append second) := by
  simp [append]

/-- A list of tokens asks for its plain tokens as one group, and for its negated ones as another. -/
theorem clauses_alternatives (field : String) (tokens : List String) :
    (Expression.alternatives tokens).clauses field =
      append
        { must := (Filter.group? field (tokens.filter fun token => !Filter.isNegated token)).toList }
        { mustNot := (Filter.group? field (tokens.filterMap (Text.behind? '!'))).toList } := by
  simp [append, Expression.clauses]

theorem requireExpression_eq_append (field : String) (expression : Expression)
    (query : BooleanQuery) :
    query.requireExpression field expression = query.append (expression.clauses field) := by
  cases expression with
  | range lower upper => exact require_eq_append query _
  | alternatives tokens =>
      rw [requireExpression, requireAlternatives, exclude?_eq_append, require?_eq_append,
        append_append, clauses_alternatives]
  | words values => exact requireAll_eq_append query _
  | negation value => exact exclude_eq_append query _
  | plain value => exact require_eq_append query _

/-- A filter adds the same clauses to every query. -/
theorem requireFilter_eq_append (key value : String) (query : BooleanQuery) :
    query.requireFilter key value = query.append ((Expression.ofText value).clauses key) := by
  rw [requireFilter_eq, requireExpression_eq_append]

/-- The clauses of some filter parameters, one parameter behind the other. -/
def ofFilters (entries : List (String × String)) : BooleanQuery where
  must := entries.flatMap fun entry => (ofFilter entry).must
  mustNot := entries.flatMap fun entry => (ofFilter entry).mustNot

theorem ofFilters_cons (entry : String × String) (rest : List (String × String)) :
    ofFilters (entry :: rest) = (ofFilter entry).append (ofFilters rest) := by
  have scored : ofFilter entry =
      { must := (ofFilter entry).must, mustNot := (ofFilter entry).mustNot } :=
    Expression.clauses_eq _ _
  rw [scored]
  simp [append, ofFilters]

theorem foldl_requireFilter_eq (entries : List (String × String)) (query : BooleanQuery) :
    (entries.map FilterField.ofParam).foldl
        (fun query field => query.requireFilter field.storageKey field.value) query =
      query.append (ofFilters entries) := by
  induction entries generalizing query with
  | nil => simp [append, ofFilters]
  | cons entry rest ih =>
      rw [List.map_cons, List.foldl_cons, requireFilter_eq_append, ih, ofFilters_cons,
        ← append_append]
      rfl

/-- The filters of a request behind a query, where the reported names take none of them away. -/
theorem requireFilters_eq {params : Params} {consumed : List String}
    (apart : ∀ name ∈ consumed, ¬ Field.IsFilter name) (query : BooleanQuery) :
    query.requireFilters params consumed = query.append (ofFilters params.filters) := by
  unfold requireFilters
  rw [Params.filterFields_eq apart, foldl_requireFilter_eq]

end BooleanQuery

/-! ## Shortcuts -/

/-- The clause of a shortcut, where its parameter is given. -/
def Shortcut.clause? (params : Params) (shortcut : Shortcut) : Option Clause :=
  (params.get? shortcut.param).map fun value => shortcut.clause value

/-- The clauses of the shortcuts that are given, in the order of the shortcuts. -/
def Params.shortcutClauses (params : Params) : List Clause :=
  Shortcut.all.filterMap (Shortcut.clause? params)

theorem Params.mem_shortcutClauses_iff {params : Params} {clause : Clause} :
    clause ∈ params.shortcutClauses ↔
      ∃ shortcut ∈ Shortcut.all, ∃ value,
        params.get? shortcut.param = some value ∧ shortcut.clause value = clause := by
  simp [shortcutClauses, Shortcut.clause?]

namespace BooleanQuery

variable {params : Params} {query : BooleanQuery}

theorem foldl_applyShortcut_eq (params : Params) (shortcuts : List Shortcut)
    (state : BooleanQuery × List String) :
    (shortcuts.foldl (Shortcut.apply params) state).1 =
      state.1.append { must := shortcuts.filterMap (Shortcut.clause? params) } := by
  induction shortcuts generalizing state with
  | nil => simp [append]
  | cons shortcut rest ih =>
      rw [List.foldl_cons, ih, List.filterMap_cons]
      unfold Shortcut.apply Shortcut.clause?
      cases params.get? shortcut.param with
      | none => rfl
      | some value => simp [require, append]

/-- The shortcuts of a request add their clauses behind those that must hold. -/
theorem requireShortcuts_eq (params : Params) (query : BooleanQuery) :
    (query.requireShortcuts params).1 = query.append { must := params.shortcutClauses } :=
  foldl_applyShortcut_eq params Shortcut.all (query, [])

theorem mem_foldl_applyShortcut {shortcuts : List Shortcut}
    {state : BooleanQuery × List String} {name : String}
    (reported : name ∈ (shortcuts.foldl (Shortcut.apply params) state).2) :
    name ∈ state.2 ∨ ∃ shortcut : Shortcut, name = shortcut.param := by
  induction shortcuts generalizing state with
  | nil => exact Or.inl reported
  | cons shortcut rest ih =>
      rcases ih reported with before | later
      · unfold Shortcut.apply at before
        cases given : params.get? shortcut.param with
        | none => simpa [given] using Or.inl before
        | some value =>
            simp only [given, List.mem_append, List.mem_singleton] at before
            exact before.imp id fun same => ⟨shortcut, same⟩
      · exact Or.inr later

/-- No shortcut is a filter, so the shortcuts take no filter away. -/
theorem not_isFilter_of_mem_requireShortcuts {name : String}
    (reported : name ∈ (query.requireShortcuts params).2) : ¬ Field.IsFilter name := by
  rcases mem_foldl_applyShortcut reported with before | ⟨shortcut, same⟩
  · exact absurd before List.not_mem_nil
  · subst same
    cases shortcut <;> decide +kernel

/-! ## The whole query -/

theorem restrictTime_eq (params : Params) (query : BooleanQuery) :
    query.restrictTime params = query.append { filter := (Window.clause? params).toList } := by
  unfold restrictTime
  cases Window.clause? params with
  | none => simp [append]
  | some clause => exact restrict_eq_append query clause

/-- The query of a request: the clauses of its shortcuts, of its filters, and its time window. -/
theorem ofParams_eq (params : Params) :
    ofParams params =
      { must := params.shortcutClauses ++ (ofFilters params.filters).must
        mustNot := (ofFilters params.filters).mustNot
        filter := (Window.clause? params).toList } := by
  have stages : ofParams params =
      ((empty.requireShortcuts params).1.requireFilters params
        (empty.requireShortcuts params).2).restrictTime params := rfl
  rw [stages, restrictTime_eq,
    requireFilters_eq fun name reported => not_isFilter_of_mem_requireShortcuts reported,
    requireShortcuts_eq]
  simp [append, empty, ofFilters]

end BooleanQuery

/-- The parts of a request that is accepted, each from its own parameters. -/
theorem CompiledQuery.parts_of_ofParams {params : Params} {compiled : CompiledQuery}
    (accepted : ofParams params = .ok compiled) :
    Page.ofParams params = .ok compiled.page ∧ Track.ofParams params = .ok compiled.track ∧
      compiled.query = .ofParams params ∧
      ∃ direction, Direction.ofParams params = .ok direction ∧
        compiled.sort = .ofParams params direction := by
  obtain ⟨page, readPage, accepted⟩ := bind_eq_ok_iff.mp accepted
  obtain ⟨direction, readDirection, accepted⟩ := bind_eq_ok_iff.mp accepted
  obtain ⟨track, readTrack, accepted⟩ := bind_eq_ok_iff.mp accepted
  cases accepted
  exact ⟨readPage, readTrack, rfl, direction, readDirection, rfl⟩

end TransferHistory
