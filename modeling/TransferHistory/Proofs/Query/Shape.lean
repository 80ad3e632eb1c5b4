import Mathlib.Data.List.Basic
import TransferHistory.Proofs.Query.Clauses
import TransferHistory.ResultEq

/-!
# The shape of a compiled query

Which clauses a compiled query can have at all, and how many of them a filter gives. A filter is on
one field: it gives one range, or a term for each of its tokens, and terms that are alternatives to
each other stand in one group. Only the account shortcut makes a group on two fields.

Results:
1. `Clause.OnField`: the clauses that filters give; `Clause.onField_clauses` says that they give no
   others, and `Clause.isTerm_of_excluded` that what they exclude are terms.
2. `Expression.spends_clauses`: a filter spends every token on one term.
3. `SortOrder.ofParams_of_plain`, `SortOrder.ofParams_of_named`: the order of the hits.
4. `CompiledQuery.shape_of_ofParams`: the shape of every compiled query.
-/

namespace TransferHistory

/-! ## Leaves -/

namespace Clause

mutual

/-- The conditions on single fields that a clause is made of. -/
def leaves : Clause → List Clause
  | .term field value => [.term field value]
  | .range field lower upper => [.range field lower upper]
  | .anyOf clauses => leavesOfAll clauses

/-- The conditions on single fields that some clauses are made of. -/
def leavesOfAll : List Clause → List Clause
  | [] => []
  | clause :: rest => leaves clause ++ leavesOfAll rest

end

/-- A clause asks one field for one value. -/
def isTerm : Clause → Bool
  | .term _ _ => true
  | .range _ _ _ | .anyOf _ => false

/-- The field of a condition on a single field. -/
def field? : Clause → Option String
  | .term field _ | .range field _ _ => some field
  | .anyOf _ => none

/-- The clauses that a filter on a field can give. Alternatives are two or more terms. -/
inductive OnField (field : String) : Clause → Prop
  | term (value : String) : OnField field (.term field value)
  | range (lower upper : String) : OnField field (.range field lower upper)
  | anyOf {values : List String} (several : 2 ≤ values.length) :
      OnField field (.anyOf (values.map (.term field)))

theorem leavesOfAll_eq_flatMap (clauses : List Clause) :
    leavesOfAll clauses = clauses.flatMap leaves := by
  induction clauses with
  | nil => rfl
  | cons clause rest ih => rw [leavesOfAll, ih, List.flatMap_cons]

theorem flatMap_leaves_terms (field : String) (values : List String) :
    (values.map (Clause.term field)).flatMap leaves = values.map (.term field) := by
  rw [List.flatMap_map, List.map_eq_flatMap]
  rfl

theorem field?_of_mem_leaves {field : String} {clause leaf : Clause} (on : OnField field clause)
    (present : leaf ∈ clause.leaves) : leaf.field? = some field := by
  cases on with
  | term value =>
      rw [leaves, List.mem_singleton] at present
      subst present
      rfl
  | range lower upper =>
      rw [leaves, List.mem_singleton] at present
      subst present
      rfl
  | anyOf several =>
      rw [leaves, leavesOfAll_eq_flatMap, flatMap_leaves_terms] at present
      obtain ⟨value, -, rfl⟩ := List.mem_map.mp present
      rfl

/-- Alternatives that a filter gives are at least two terms on its field. -/
theorem OnField.members {field : String} {members : List Clause}
    (on : OnField field (.anyOf members)) :
    2 ≤ members.length ∧ (∀ member ∈ members, member.isTerm) ∧
      ∀ member ∈ members, member.field? = some field := by
  cases on with
  | @anyOf values several =>
      simp only [List.forall_mem_map, List.length_map]
      exact ⟨several, fun _ _ => rfl, fun _ _ => rfl⟩

/-! ## Groups -/

/-- A group spends each of its values on one term. -/
theorem leaves_group? (field : String) (values : List String) :
    (Filter.group? field values).toList.flatMap leaves = values.map (.term field) := by
  match values with
  | [] => rfl
  | [value] => rfl
  | first :: second :: others =>
      have grouped : Filter.group? field (first :: second :: others) =
          some (.anyOf ((first :: second :: others).map (.term field))) := rfl
      rw [grouped, Option.toList_some, List.flatMap_singleton, leaves, leavesOfAll_eq_flatMap,
        flatMap_leaves_terms]

theorem onField_group? {field : String} {values : List String} {clause : Clause}
    (grouped : Filter.group? field values = some clause) : OnField field clause := by
  match values with
  | [] => cases grouped
  | [value] =>
      cases grouped
      exact .term value
  | first :: second :: others =>
      cases grouped
      exact .anyOf (by simp)

/-- Whatever a filter gives is on its field. -/
theorem onField_clauses {field : String} {expression : Expression} {clause : Clause}
    (given : clause ∈ (expression.clauses field).must ++ (expression.clauses field).mustNot) :
    OnField field clause := by
  rw [List.mem_append] at given
  cases expression with
  | range lower upper =>
      simp only [Expression.clauses, List.mem_singleton, List.not_mem_nil, or_false] at given
      subst given
      exact .range lower upper
  | alternatives tokens =>
      simp only [Expression.clauses, Option.mem_toList] at given
      rcases given with plain | negated
      · exact onField_group? plain
      · exact onField_group? negated
  | words values =>
      simp only [Expression.clauses, List.mem_map, List.not_mem_nil, or_false] at given
      obtain ⟨value, -, rfl⟩ := given
      exact .term value
  | negation value =>
      simp only [Expression.clauses, List.mem_singleton, List.not_mem_nil, false_or] at given
      subst given
      exact .term value
  | plain value =>
      simp only [Expression.clauses, List.mem_singleton, List.not_mem_nil, or_false] at given
      subst given
      exact .term value

end Clause

/-! ## Tokens -/

/-- The tokens of a filter without a hyphen: what stands between its commas or, if it has none,
between its spaces. -/
def Filter.tokens (value : String) : List String :=
  if ',' ∈ value.toList then Text.split ',' value else Text.split ' ' value

/-- Clauses that spend each of some tokens on one term, on what the token negates if that is
excluded. None is lost and none is spent twice. -/
def BooleanQuery.Spends (field : String) (tokens : List String) (clauses : BooleanQuery) : Prop :=
  ∃ kept negated : List String,
    clauses.must.flatMap Clause.leaves = kept.map (.term field) ∧
    clauses.mustNot.flatMap Clause.leaves = negated.map (.term field) ∧
    (kept ++ negated.map ("!" ++ ·)).Perm tokens

theorem BooleanQuery.Spends.countP_isTerm {field : String} {tokens : List String}
    {clauses : BooleanQuery} (spends : clauses.Spends field tokens) :
    ((clauses.must ++ clauses.mustNot).flatMap Clause.leaves).countP Clause.isTerm =
      tokens.length := by
  obtain ⟨kept, negated, must, mustNot, perm⟩ := spends
  have terms (values : List String) :
      (values.map (Clause.term field)).countP Clause.isTerm = values.length := by
    rw [List.countP_map]
    exact List.countP_eq_length.mpr fun _ _ => rfl
  rw [List.flatMap_append, must, mustNot, List.countP_append, terms, terms, ← perm.length_eq]
  simp

namespace Expression

theorem map_negated (tokens : List String) :
    (tokens.filterMap (Text.behind? '!')).map ("!" ++ ·) = tokens.filter Filter.isNegated := by
  induction tokens with
  | nil => rfl
  | cons token rest ih =>
      cases behind : Text.behind? '!' token with
      | none => simp [Filter.isNegated, behind, ih]
      | some negated =>
          have whole : token = "!" ++ negated := Text.behind?_eq_some_iff.mp behind
          simp [Filter.isNegated, behind, ih, ← whole]

/-- The plain tokens of a list and its negated ones are all that it has. -/
theorem spends_alternatives (field : String) (tokens : List String) :
    ((alternatives tokens).clauses field).Spends field tokens := by
  refine ⟨_, _, Clause.leaves_group? field _, Clause.leaves_group? field _, ?_⟩
  rw [map_negated]
  exact List.perm_append_comm.trans (List.filter_append_perm Filter.isNegated tokens)

theorem spends_words (field : String) (values : List String) :
    ((words values).clauses field).Spends field values :=
  ⟨values, [], Clause.flatMap_leaves_terms field values, rfl, by simp⟩

/-- A filter without a hyphen spends each of its tokens on one term. -/
theorem spends_clauses (field : String) {value : String} (plain : '-' ∉ value.toList) :
    ((ofText value).clauses field).Spends field (Filter.tokens value) := by
  unfold ofText Filter.tokens
  rw [if_neg plain]
  by_cases comma : ',' ∈ value.toList
  · rw [if_pos comma, if_pos comma]
    exact spends_alternatives field _
  · rw [if_neg comma, if_neg comma]
    by_cases space : ' ' ∈ value.toList
    · rw [if_pos space]
      exact spends_words field _
    · rw [if_neg space, Text.split_of_not_mem space]
      cases behind : Text.behind? '!' value with
      | none => exact ⟨[value], [], rfl, rfl, .refl _⟩
      | some negated =>
          have whole : value = "!" ++ negated := Text.behind?_eq_some_iff.mp behind
          exact ⟨[], [negated], rfl, rfl, by simp [whole]⟩

theorem clauses_of_hyphen (field : String) {value : String} (hyphen : '-' ∈ value.toList) :
    ∃ lower upper, ((ofText value).clauses field).must = [.range field lower upper] ∧
      ((ofText value).clauses field).mustNot = [] := by
  unfold ofText
  rw [if_pos hyphen]
  exact ⟨_, _, rfl, rfl⟩

end Expression

/-- What a filter excludes are terms. -/
theorem Clause.isTerm_of_excluded {field : String} {value : String} {clause leaf : Clause}
    (excluded : clause ∈ ((Expression.ofText value).clauses field).mustNot)
    (present : leaf ∈ clause.leaves) : leaf.isTerm = true := by
  by_cases hyphen : '-' ∈ value.toList
  · obtain ⟨_, _, -, none⟩ := Expression.clauses_of_hyphen field hyphen
    rw [none] at excluded
    exact absurd excluded List.not_mem_nil
  · obtain ⟨_, negated, -, spent, -⟩ := Expression.spends_clauses field hyphen
    have known : leaf ∈ negated.map (.term field) :=
      spent ▸ List.mem_flatMap.mpr ⟨clause, excluded, present⟩
    obtain ⟨_, -, rfl⟩ := List.mem_map.mp known
    rfl

/-! ## The order of the hits -/

namespace SortOrder

theorem direction_ofParams_of_plain {params : Params} {direction : Direction}
    (plain : ∀ sortedBy, params.get? "sortedBy" = some sortedBy → ':' ∉ sortedBy.toList) :
    (ofParams params direction).direction = direction.text := by
  unfold ofParams
  cases given : params.get? "sortedBy" with
  | none => rfl
  | some sortedBy => simp only [Text.split_of_not_mem (plain sortedBy given)]

theorem ofParams_of_named {params : Params} {direction : Direction} {sortedBy : String}
    (given : params.get? "sortedBy" = some sortedBy) (named : ':' ∈ sortedBy.toList) :
    ofParams params direction =
      ⟨String.ofList (Text.upTo ':' sortedBy.toList),
        String.ofList (Text.upTo ':' (Text.past ':' sortedBy.toList))⟩ := by
  obtain ⟨others, split⟩ := Text.split_of_mem named
  unfold ofParams
  simp only [given, split]

end SortOrder

theorem Direction.text_mem (direction : Direction) : direction.text ∈ ["asc", "desc"] := by
  cases direction <;> simp [text]

/-! ## The whole query -/

/-- The clauses of one filter, given the field and the text of it. -/
structure FilterShape (field value : String) (clauses : BooleanQuery) : Prop where
  /-- A text with a hyphen gives one range and nothing else. -/
  range : '-' ∈ value.toList →
    ∃ lower upper, clauses.must = [.range field lower upper] ∧ clauses.mustNot = []
  /-- Any other text gives one term for each token. -/
  spends : '-' ∉ value.toList → clauses.Spends field (Filter.tokens value)
  count : '-' ∉ value.toList →
    ((clauses.must ++ clauses.mustNot).flatMap Clause.leaves).countP Clause.isTerm =
      (Filter.tokens value).length

/-- How the query and the order of the hits look that a request is compiled to. -/
structure CompiledQuery.Shape (params : Params) (compiled : CompiledQuery) : Prop where
  /-- The shortcuts come first, each where it is given, and the filters behind them in the order of
  the parameters. -/
  must : compiled.query.must =
    ((params.get? "smAccount").map fun contract => Clause.term "act.account" contract).toList ++
    ((params.get? "canAccount").map fun account =>
      Clause.anyOf [.term "@transfer.from" account, .term "@transfer.to" account]).toList ++
    ((params.get? "symbol").map fun symbol => Clause.term "@transfer.symbol" symbol).toList ++
    params.filters.flatMap fun entry => (BooleanQuery.ofFilter entry).must
  mustNot : compiled.query.mustNot =
    params.filters.flatMap fun entry => (BooleanQuery.ofFilter entry).mustNot
  /-- The clauses of a filter are those that it adds to an empty query, on its key. -/
  filters : ∀ name value, (name, value) ∈ params.filters →
    ∃ key, Field.storageKey? name = some key ∧
      BooleanQuery.ofFilter (name, value) = BooleanQuery.empty.requireFilter key value ∧
      FilterShape key value (.ofFilter (name, value))
  /-- The field of a clause that a filter gives is the key of a parameter. -/
  fields : ∀ entry ∈ params.filters, ∀ clause ∈
      (BooleanQuery.ofFilter entry).must ++ (BooleanQuery.ofFilter entry).mustNot,
    ∀ leaf ∈ clause.leaves, ∃ name value, (name, value) ∈ params.entries ∧
      ∃ key, Field.storageKey? name = some key ∧ leaf.field? = some key
  /-- Alternatives are at least two terms, all on one field but for those of the account. -/
  alternatives : ∀ members,
    .anyOf members ∈ compiled.query.must ++ compiled.query.mustNot →
      2 ≤ members.length ∧ (∀ member ∈ members, member.isTerm) ∧
      ((∃ field, ∀ member ∈ members, member.field? = some field) ∨
        ∃ account, params.get? "canAccount" = some account ∧
          members = [.term "@transfer.from" account, .term "@transfer.to" account])
  /-- Nothing but terms is excluded. -/
  excluded : ∀ clause ∈ compiled.query.mustNot, ∀ leaf ∈ clause.leaves, leaf.isTerm
  /-- Only the time window filters without being scored. -/
  unbounded : params.get? "after" = none → params.get? "before" = none →
    compiled.query.filter = []
  window : params.contains "after" ∨ params.contains "before" →
    ∃ lower upper, compiled.query.filter = [.range "@timestamp" lower upper]
  /-- The direction is checked unless `sortedBy` has one of its own, behind a colon. -/
  direction : (∀ sortedBy, params.get? "sortedBy" = some sortedBy → ':' ∉ sortedBy.toList) →
    compiled.sort.direction ∈ ["asc", "desc"]
  named : ∀ sortedBy, params.get? "sortedBy" = some sortedBy → ':' ∈ sortedBy.toList →
    compiled.sort = ⟨String.ofList (Text.upTo ':' sortedBy.toList),
      String.ofList (Text.upTo ':' (Text.past ':' sortedBy.toList))⟩

theorem Params.shortcutClauses_eq (params : Params) :
    params.shortcutClauses =
      ((params.get? "smAccount").map fun contract => Clause.term "act.account" contract).toList ++
      ((params.get? "canAccount").map fun account =>
        Clause.anyOf [.term "@transfer.from" account, .term "@transfer.to" account]).toList ++
      ((params.get? "symbol").map fun symbol => Clause.term "@transfer.symbol" symbol).toList := by
  rw [shortcutClauses, List.filterMap_eq_flatMap_toList]
  simp only [Shortcut.all, List.flatMap_cons, List.flatMap_nil, List.append_nil, List.append_assoc]
  rfl

theorem Expression.filterShape (field value : String) :
    FilterShape field value ((ofText value).clauses field) where
  range := clauses_of_hyphen field
  spends := spends_clauses field
  count := fun plain => (spends_clauses field plain).countP_isTerm

/-- The clauses of a filter parameter are those that it adds to an empty query, on its key. -/
theorem BooleanQuery.exists_storageKey {name : String} (filters : Field.IsFilter name)
    (value : String) :
    ∃ key, Field.storageKey? name = some key ∧
      ofFilter (name, value) = empty.requireFilter key value ∧
      FilterShape key value (ofFilter (name, value)) := by
  refine ⟨Field.indexed name, ?_, ?_, Expression.filterShape _ value⟩
  · rw [Field.storageKey?_eq, if_pos filters]
  · rw [requireFilter_eq_append, ofFilter, Expression.clauses_eq]
    simp [append, empty]

namespace CompiledQuery

variable {params : Params} {compiled : CompiledQuery}

/-- The only shortcut that gives alternatives is the account, on either side of a transfer. -/
theorem account_of_mem_shortcutClauses {members : List Clause}
    (present : .anyOf members ∈ params.shortcutClauses) :
    ∃ account, params.get? "canAccount" = some account ∧
      members = [.term "@transfer.from" account, .term "@transfer.to" account] := by
  obtain ⟨shortcut, -, value, given, same⟩ := Params.mem_shortcutClauses_iff.mp present
  cases shortcut with
  | contract => cases same
  | account =>
      cases same
      exact ⟨value, given, rfl⟩
  | symbol => cases same

/-- Every request that is accepted is compiled to a query of this shape: the clauses of the
shortcuts and behind them those of the filters, with no alternatives but of terms, nothing but terms
excluded, a time window at most in the filter list, and a checked direction unless `sortedBy` has
its own. -/
theorem shape_of_ofParams (accepted : ofParams params = .ok compiled) : Shape params compiled := by
  obtain ⟨-, -, query, direction, -, sort⟩ := parts_of_ofParams accepted
  rw [BooleanQuery.ofParams_eq] at query
  have filters {name value : String} (given : (name, value) ∈ params.filters) :
      (name, value) ∈ params.entries ∧ Field.IsFilter name := by
    simpa [Params.filters] using given
  constructor
  case must => rw [query, Params.shortcutClauses_eq]; rfl
  case mustNot => rw [query]; rfl
  case filters =>
    intro name value given
    exact BooleanQuery.exists_storageKey (filters given).2 value
  case fields =>
    rintro ⟨name, value⟩ given clause known leaf present
    obtain ⟨standing, isFilter⟩ := filters given
    refine ⟨name, value, standing, Field.indexed name, ?_, ?_⟩
    · rw [Field.storageKey?_eq, if_pos isFilter]
    · exact Clause.field?_of_mem_leaves (Clause.onField_clauses known) present
  case alternatives =>
    intro members given
    rw [query] at given
    simp only [BooleanQuery.ofFilters, List.mem_append, List.mem_flatMap] at given
    rcases given with (shortcut | ⟨entry, -, filter⟩) | ⟨entry, -, filter⟩
    · obtain ⟨account, given, same⟩ := account_of_mem_shortcutClauses shortcut
      subst same
      exact ⟨by simp, by simp [Clause.isTerm], .inr ⟨account, given, rfl⟩⟩
    · obtain ⟨several, terms, field⟩ :=
        (Clause.onField_clauses (List.mem_append_left _ filter)).members
      exact ⟨several, terms, .inl ⟨_, field⟩⟩
    · obtain ⟨several, terms, field⟩ :=
        (Clause.onField_clauses (List.mem_append_right _ filter)).members
      exact ⟨several, terms, .inl ⟨_, field⟩⟩
  case excluded =>
    intro clause given leaf present
    rw [query] at given
    obtain ⟨entry, -, excluded⟩ := List.mem_flatMap.mp given
    exact Clause.isTerm_of_excluded excluded present
  case unbounded =>
    intro after before
    rw [query]
    simp [Window.clause?, after, before]
  case window =>
    intro bounded
    rw [query]
    unfold Params.contains at bounded
    unfold Window.clause?
    cases after : params.get? "after" with
    | some time => exact ⟨_, _, rfl⟩
    | none =>
        cases before : params.get? "before" with
        | some time => exact ⟨_, _, rfl⟩
        | none => simp [after, before] at bounded
  case direction =>
    intro plain
    rw [sort, SortOrder.direction_ofParams_of_plain plain]
    exact direction.text_mem
  case named =>
    intro sortedBy given named
    rw [sort, SortOrder.ofParams_of_named given named]

/-- A request with alternatives of both kinds, a range, a window and an order of its own. -/
def mixedRequest : Params :=
  .ofPairs [("transfer.memo", "rent,!spam,fee"), ("canAccount", "bob"), ("block_num", "10-20-30"),
    ("after", "2021"), ("sortedBy", "block_num:up")]

/-- The compiled form of `mixedRequest`. -/
def mixedCompiled : CompiledQuery where
  page := {}
  track := .upTo 10000
  query :=
    { must := [.anyOf [.term "@transfer.from" "bob", .term "@transfer.to" "bob"],
        .anyOf [.term "@transfer.memo" "rent", .term "@transfer.memo" "fee"],
        .range "block_num" "10" "20"]
      mustNot := [.term "@transfer.memo" "spam"]
      filter := [.range "@timestamp" "2021Z" "now"] }
  sort := ⟨"block_num", "up"⟩

/-- The three tokens of the memo are three terms, and the direction is the one behind the colon. -/
theorem mixedRequest_shape :
    ofParams mixedRequest = .ok mixedCompiled ∧ Shape mixedRequest mixedCompiled ∧
      (∃ key, Field.storageKey? "transfer.memo" = some key ∧
        (BooleanQuery.ofFilter ("transfer.memo", "rent,!spam,fee")).Spends key
          ["rent", "!spam", "fee"]) ∧
      mixedCompiled.sort = ⟨"block_num", "up"⟩ := by
  have accepted : ofParams mixedRequest = .ok mixedCompiled := by decide +kernel
  have shape := shape_of_ofParams accepted
  refine ⟨accepted, shape, ?_, ?_⟩
  · obtain ⟨key, stored, -, filter⟩ :=
      shape.filters "transfer.memo" "rent,!spam,fee" (by decide +kernel)
    have tokens : Filter.tokens "rent,!spam,fee" = ["rent", "!spam", "fee"] := by decide +kernel
    exact ⟨key, stored, tokens ▸ filter.spends (by decide +kernel)⟩
  · rw [shape.named "block_num:up" (by decide +kernel) (by decide +kernel)]
    decide +kernel

end CompiledQuery

end TransferHistory
