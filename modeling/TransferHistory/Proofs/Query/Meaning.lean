import TransferHistory.Proofs.Query.Clauses
import TransferHistory.ResultEq

/-!
# What a compiled query matches

A valuation says which conditions on single fields hold; nothing is assumed of it. Under a valuation
a clause holds or not, and so does a boolean query. Every stage of compiling adds clauses to the query
so far, so it is described by what these clauses mean.

Results:
1. `BooleanQuery.holds_clauses`: the clauses of an expression say what it asks of its field.
2. `BooleanQuery.holds_requireShortcuts`, `holds_requireFilters`, `holds_restrictTime`: each stage
   keeps what was asked before and adds the meaning of its own parameters.
3. `CompiledQuery.holds_iff`: a compiled query holds exactly if every parameter of the request does.
-/

namespace TransferHistory

/-! ## Meaning -/

/-- Which conditions on single fields hold. -/
structure Valuation where
  /-- The field has the value. -/
  has (field value : String) : Prop
  /-- The field lies between the bounds. -/
  between (field lower upper : String) : Prop

namespace Clause

mutual

/-- A clause holds. -/
def Holds (v : Valuation) : Clause → Prop
  | .term field value => v.has field value
  | .range field lower upper => v.between field lower upper
  | .anyOf clauses => SomeHolds v clauses

/-- One of some clauses holds. -/
def SomeHolds (v : Valuation) : List Clause → Prop
  | [] => False
  | clause :: rest => Holds v clause ∨ SomeHolds v rest

end

theorem someHolds_iff (v : Valuation) (clauses : List Clause) :
    SomeHolds v clauses ↔ ∃ clause ∈ clauses, Holds v clause := by
  induction clauses with
  | nil => simp [SomeHolds]
  | cons clause rest ih => simp [SomeHolds, ih]

theorem holds_anyOf_term (v : Valuation) (field : String) (values : List String) :
    Holds v (.anyOf (values.map (.term field))) ↔ ∃ value ∈ values, v.has field value := by
  rw [Holds, someHolds_iff]
  constructor
  · rintro ⟨clause, present, holds⟩
    obtain ⟨value, known, rfl⟩ := List.mem_map.mp present
    exact ⟨value, known, holds⟩
  · rintro ⟨value, known, holds⟩
    exact ⟨.term field value, List.mem_map_of_mem known, holds⟩

end Clause

/-- A query holds: all clauses that must hold or filter, and none that must not. -/
structure BooleanQuery.Holds (v : Valuation) (query : BooleanQuery) : Prop where
  must : ∀ clause ∈ query.must, clause.Holds v
  filter : ∀ clause ∈ query.filter, clause.Holds v
  mustNot : ∀ clause ∈ query.mustNot, ¬ clause.Holds v

/-- What an expression asks of a field. Where all tokens of a list are negated, none has to hold. -/
def Expression.Holds (v : Valuation) (field : String) : Expression → Prop
  | .range lower upper => v.between field lower upper
  | .alternatives tokens =>
      ((∃ token ∈ tokens, ¬ Filter.isNegated token) →
        ∃ token ∈ tokens, ¬ Filter.isNegated token ∧ v.has field token) ∧
      ∀ negated, "!" ++ negated ∈ tokens → ¬ v.has field negated
  | .words values => ∀ value ∈ values, v.has field value
  | .negation value => ¬ v.has field value
  | .plain value => v.has field value

/-- How a bound of a time window is sent, given the text of its parameter: with the mark of UTC at its
end, and as the open bound where the parameter is missing. -/
inductive Window.Bound (whenMissing : String) : Option String → String → Prop
  | missing : Bound whenMissing none whenMissing
  | marked (start : String) : Bound whenMissing (some (start ++ "Z")) (start ++ "Z")
  | unmarked {time : String} (bare : ∀ start, time ≠ start ++ "Z") :
      Bound whenMissing (some time) (time ++ "Z")

namespace BooleanQuery

/-! ## Adding clauses -/

variable {v : Valuation} {query : BooleanQuery}

theorem holds_empty : empty.Holds v :=
  ⟨by simp [empty], by simp [empty], by simp [empty]⟩

theorem holds_append {more : BooleanQuery} :
    (query.append more).Holds v ↔ query.Holds v ∧ more.Holds v := by
  constructor
  · rintro ⟨must, filter, mustNot⟩
    simp only [append, List.forall_mem_append] at must filter mustNot
    exact ⟨⟨must.1, filter.1, mustNot.1⟩, ⟨must.2, filter.2, mustNot.2⟩⟩
  · rintro ⟨before, behind⟩
    refine ⟨?_, ?_, ?_⟩
    · exact List.forall_mem_append.mpr ⟨before.must, behind.must⟩
    · exact List.forall_mem_append.mpr ⟨before.filter, behind.filter⟩
    · exact List.forall_mem_append.mpr ⟨before.mustNot, behind.mustNot⟩

theorem holds_must {clauses : List Clause} :
    Holds v { must := clauses } ↔ ∀ clause ∈ clauses, clause.Holds v :=
  ⟨fun holds => holds.must, fun all => ⟨all, by simp, by simp⟩⟩

theorem holds_mustNot {clauses : List Clause} :
    Holds v { mustNot := clauses } ↔ ∀ clause ∈ clauses, ¬ clause.Holds v :=
  ⟨fun holds => holds.mustNot, fun all => ⟨by simp, by simp, all⟩⟩

theorem holds_filter {clauses : List Clause} :
    Holds v { filter := clauses } ↔ ∀ clause ∈ clauses, clause.Holds v :=
  ⟨fun holds => holds.filter, fun all => ⟨by simp, all, by simp⟩⟩

/-! ## Filters -/

/-- A group of some values is one clause, which holds if one of the values does. -/
theorem group?_of_ne_nil (v : Valuation) (field : String) {values : List String}
    (someValue : values ≠ []) :
    ∃ clause, Filter.group? field values = some clause ∧
      (clause.Holds v ↔ ∃ value ∈ values, v.has field value) := by
  match values with
  | [] => exact absurd rfl someValue
  | [value] => exact ⟨.term field value, rfl, by simp [Clause.Holds]⟩
  | first :: second :: others => exact ⟨_, rfl, Clause.holds_anyOf_term v field _⟩

/-- A group that must hold asks for one of its values, where it has any. -/
theorem holds_must_group? (field : String) (values : List String) :
    Holds v { must := (Filter.group? field values).toList } ↔
      (values ≠ [] → ∃ value ∈ values, v.has field value) := by
  rw [holds_must]
  by_cases noneGiven : values = []
  · subst noneGiven
    simp [Filter.group?]
  · obtain ⟨clause, group, meaning⟩ := group?_of_ne_nil v field noneGiven
    simp [group, meaning, noneGiven]

/-- A group that must not hold refuses every one of its values. -/
theorem holds_mustNot_group? (field : String) (values : List String) :
    Holds v { mustNot := (Filter.group? field values).toList } ↔
      ∀ value ∈ values, ¬ v.has field value := by
  rw [holds_mustNot]
  by_cases noneGiven : values = []
  · subst noneGiven
    simp [Filter.group?]
  · obtain ⟨clause, group, meaning⟩ := group?_of_ne_nil v field noneGiven
    simp [group, meaning]

/-- The negated tokens of a list are those that begin with an exclamation mark. -/
theorem mem_negated_iff {tokens : List String} {negated : String} :
    negated ∈ tokens.filterMap (Text.behind? '!') ↔ "!" ++ negated ∈ tokens := by
  rw [List.mem_filterMap]
  constructor
  · rintro ⟨token, present, behind⟩
    rw [Text.behind?_eq_some_iff] at behind
    subst behind
    exact present
  · intro present
    exact ⟨"!" ++ negated, present, Text.behind?_eq_some_iff.mpr rfl⟩

/-- The clauses of an expression hold exactly if it does. -/
theorem holds_clauses (field : String) (expression : Expression) :
    (expression.clauses field).Holds v ↔ expression.Holds v field := by
  cases expression with
  | range lower upper => exact holds_must.trans List.forall_mem_singleton
  | alternatives tokens =>
      rw [clauses_alternatives, holds_append, holds_must_group?, holds_mustNot_group?]
      simp only [mem_negated_iff]
      simp [Expression.Holds, List.filter_eq_nil_iff, and_assoc]
  | words values => exact holds_must.trans List.forall_mem_map
  | negation value => exact holds_mustNot.trans List.forall_mem_singleton
  | plain value => exact holds_must.trans List.forall_mem_singleton

theorem holds_ofFilters (entries : List (String × String)) :
    (ofFilters entries).Holds v ↔
      ∀ entry ∈ entries, (Expression.ofText entry.2).Holds v (Field.indexed entry.1) := by
  induction entries with
  | nil => simpa [ofFilters, empty] using holds_empty (v := v)
  | cons entry rest ih =>
      rw [ofFilters_cons, holds_append, ofFilter, holds_clauses, ih, List.forall_mem_cons]

/-- The filters of a request: each has to hold on the field it stands for. -/
theorem holds_requireFilters {params : Params} {consumed : List String}
    (apart : ∀ name ∈ consumed, ¬ Field.IsFilter name) :
    (query.requireFilters params consumed).Holds v ↔
      query.Holds v ∧ ∀ name value, (name, value) ∈ params.entries → Field.IsFilter name →
        (Expression.ofText value).Holds v (Field.indexed name) := by
  rw [requireFilters_eq apart, holds_append, holds_ofFilters]
  simp [Params.filters]

/-! ## Shortcuts -/

/-- The shortcuts of a request: each that is given has to hold. -/
theorem holds_requireShortcuts (params : Params) :
    (query.requireShortcuts params).1.Holds v ↔
      query.Holds v ∧ ∀ shortcut ∈ Shortcut.all, ∀ value,
        params.get? shortcut.param = some value → (shortcut.clause value).Holds v := by
  rw [requireShortcuts_eq, holds_append, holds_must]
  simp only [Params.mem_shortcutClauses_iff]
  apply and_congr_right
  intro _
  constructor
  · intro holds shortcut known value given
    exact holds (shortcut.clause value) ⟨shortcut, known, value, given, rfl⟩
  · rintro holds clause ⟨shortcut, known, value, given, same⟩
    exact same ▸ holds shortcut known value given

end BooleanQuery

/-! ## Time window -/

namespace Window

theorem inUtc_append (start : String) : inUtc (start ++ "Z") = start ++ "Z" := by
  simp [inUtc]

theorem inUtc_of_bare {time : String} (bare : ∀ start, time ≠ start ++ "Z") :
    inUtc time = time ++ "Z" := by
  have unmarked : time.toList.getLast? ≠ some 'Z' := by
    intro marked
    obtain ⟨start, ends⟩ := List.getLast?_eq_some_iff.mp marked
    apply bare (String.ofList start)
    rw [← String.toList_inj, ends]
    simp
  simp [inUtc, unmarked]

/-- A bound is sent in one way only. -/
theorem bound_iff {whenMissing sent : String} {time : Option String} :
    Bound whenMissing time sent ↔ sent = (time.map inUtc).getD whenMissing := by
  constructor
  · intro bound
    cases bound with
    | missing => rfl
    | marked start => simp [inUtc_append]
    | unmarked bare => simp [inUtc_of_bare bare]
  · intro same
    subst same
    cases time with
    | none => exact Bound.missing
    | some time =>
        by_cases marked : ∃ start, time = start ++ "Z"
        · obtain ⟨start, rfl⟩ := marked
          have bound : Bound whenMissing (some (start ++ "Z")) (start ++ "Z") := Bound.marked start
          simpa [inUtc_append] using bound
        · have bare : ∀ start, time ≠ start ++ "Z" := fun start same => marked ⟨start, same⟩
          have bound : Bound whenMissing (some time) (time ++ "Z") := Bound.unmarked bare
          simpa [inUtc_of_bare bare] using bound

end Window

namespace BooleanQuery

variable {v : Valuation} {query : BooleanQuery}

/-- The window of a request: the time of a record lies between its bounds, where it has one. -/
theorem holds_restrictTime (params : Params) :
    (query.restrictTime params).Holds v ↔
      query.Holds v ∧ (params.contains "after" ∨ params.contains "before" →
        ∃ lower upper, Window.Bound "0" (params.get? "after") lower ∧
          Window.Bound "now" (params.get? "before") upper ∧
          v.between "@timestamp" lower upper) := by
  rw [restrictTime_eq, holds_append, holds_filter]
  simp only [Window.bound_iff]
  unfold Window.clause? Params.contains
  cases params.get? "after" with
  | none =>
      cases params.get? "before" with
      | none => simp
      | some before => simp [Clause.Holds, Window.field]
  | some after => simp [Clause.Holds, Window.field]

/-! ## The whole query -/

/-- The meaning of a request's query: its shortcuts, its filters and its window. -/
theorem holds_ofParams (params : Params) :
    (ofParams params).Holds v ↔
      ((∀ shortcut ∈ Shortcut.all, ∀ value,
          params.get? shortcut.param = some value → (shortcut.clause value).Holds v) ∧
        ∀ name value, (name, value) ∈ params.entries → Field.IsFilter name →
          (Expression.ofText value).Holds v (Field.indexed name)) ∧
      (params.contains "after" ∨ params.contains "before" →
        ∃ lower upper, Window.Bound "0" (params.get? "after") lower ∧
          Window.Bound "now" (params.get? "before") upper ∧
          v.between "@timestamp" lower upper) := by
  unfold ofParams
  -- The names that the shortcuts report are those of no filter, so every filter is still there.
  rw [holds_restrictTime,
    holds_requireFilters fun name reported => not_isFilter_of_mem_requireShortcuts reported,
    holds_requireShortcuts]
  simp [holds_empty]

end BooleanQuery

theorem CompiledQuery.query_eq_of_ofParams {params : Params} {compiled : CompiledQuery}
    (accepted : CompiledQuery.ofParams params = .ok compiled) :
    compiled.query = BooleanQuery.ofParams params := by
  obtain ⟨-, -, query, -⟩ := CompiledQuery.parts_of_ofParams accepted
  exact query

/-- Compiling keeps the meaning of a request. Under every valuation a compiled query holds exactly if
the contract, the account on either side and the symbol are as asked for, every filter parameter's
expression holds on the field it stands for, and the time lies in the window, where there is one. -/
theorem CompiledQuery.holds_iff {params : Params} {compiled : CompiledQuery}
    (accepted : CompiledQuery.ofParams params = .ok compiled) (v : Valuation) :
    compiled.query.Holds v ↔
      (∀ contract, params.get? "smAccount" = some contract → v.has "act.account" contract) ∧
      (∀ account, params.get? "canAccount" = some account →
        v.has "@transfer.from" account ∨ v.has "@transfer.to" account) ∧
      (∀ symbol, params.get? "symbol" = some symbol → v.has "@transfer.symbol" symbol) ∧
      (∀ name value, (name, value) ∈ params.entries → Field.IsFilter name →
        (Expression.ofText value).Holds v (Field.indexed name)) ∧
      (params.contains "after" ∨ params.contains "before" →
        ∃ lower upper, Window.Bound "0" (params.get? "after") lower ∧
          Window.Bound "now" (params.get? "before") upper ∧
          v.between "@timestamp" lower upper) := by
  rw [CompiledQuery.query_eq_of_ofParams accepted, BooleanQuery.holds_ofParams]
  simp [Shortcut.all, Shortcut.param, Shortcut.clause, Clause.Holds, Clause.SomeHolds, and_assoc]

/-- What bob sent or got since 2021, for rent and not for spam. -/
def exRequest : Params :=
  .ofPairs [("canAccount", "bob"), ("transfer.memo", "rent,!spam"), ("after", "2021")]

/-- The compiled form of `exRequest`. -/
def exCompiled : CompiledQuery where
  page := {}
  track := .upTo 10000
  query :=
    { must := [.anyOf [.term "@transfer.from" "bob", .term "@transfer.to" "bob"],
        .term "@transfer.memo" "rent"]
      mustNot := [.term "@transfer.memo" "spam"]
      filter := [.range "@timestamp" "2021Z" "now"] }
  sort := ⟨"global_sequence", "desc"⟩

/-- One record with a time in the window: bob got rent. -/
def exRecord : Valuation where
  has field value := (field, value) ∈ [("@transfer.to", "bob"), ("@transfer.memo", "rent")]
  between field lower upper := (field, lower, upper) = ("@timestamp", "2021Z", "now")

/-- The record `exRecord` is found by `exRequest`, by the meaning of its three parameters. -/
theorem exRequest_finds_exRecord :
    CompiledQuery.ofParams exRequest = .ok exCompiled ∧ exCompiled.query.Holds exRecord := by
  have accepted : CompiledQuery.ofParams exRequest = .ok exCompiled := by decide +kernel
  refine ⟨accepted, (CompiledQuery.holds_iff accepted exRecord).mpr ⟨?_, ?_, ?_, ?_, ?_⟩⟩
  · have missing : exRequest.get? "smAccount" = none := by decide +kernel
    simp [missing]
  · have given : exRequest.get? "canAccount" = some "bob" := by decide +kernel
    simp [given, exRecord]
  · have missing : exRequest.get? "symbol" = none := by decide +kernel
    simp [missing]
  · intro name value given filters
    have entries : exRequest.entries =
        [("canAccount", "bob"), ("transfer.memo", "rent,!spam"), ("after", "2021")] := by
      decide +kernel
    simp only [entries, List.mem_cons, Prod.mk.injEq, List.not_mem_nil, or_false] at given
    rcases given with ⟨rfl, rfl⟩ | ⟨rfl, rfl⟩ | ⟨rfl, rfl⟩
    · exact absurd filters (by decide +kernel)
    · have field : Field.indexed "transfer.memo" = "@transfer.memo" := by decide +kernel
      have expression : Expression.ofText "rent,!spam" = .alternatives ["rent", "!spam"] := by
        decide +kernel
      rw [field, expression]
      refine ⟨fun _ => ⟨"rent", by simp, by decide +kernel, by simp [exRecord]⟩, ?_⟩
      intro negated present found
      have same : negated = "rent" := by simpa [exRecord] using found
      subst same
      exact absurd present (by decide +kernel)
    · exact absurd filters (by decide +kernel)
  · intro _
    refine ⟨"2021Z", "now", ?_, ?_, rfl⟩
    · exact Window.bound_iff.mpr (by decide +kernel)
    · exact Window.bound_iff.mpr (by decide +kernel)

end TransferHistory
