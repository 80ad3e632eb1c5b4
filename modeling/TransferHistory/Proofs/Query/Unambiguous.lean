import TransferHistory.Proofs.Query.Shape

/-!
# Filters that ask for the same

The expression of a filter can be read back from its clauses, but for the order in which the plain and
the negated tokens of a list alternate. So texts that ask for the same clauses are the same text, or
differ only in that order, or in what follows a second hyphen.

Results:
1. `Expression.ofClauses_clauses`: an expression is read back from its clauses.
2. `Expression.standsFor_ofText`: the five forms that a text may have.
3. `Filter.same_clauses_iff`: the texts that ask a field for the same clauses.
-/

namespace TransferHistory

/-! ## Values of clauses -/

namespace Clause

/-- The value that a term asks for. -/
def value? : Clause → Option String
  | .term _ value => some value
  | .range _ _ _ | .anyOf _ => none

/-- The values of all terms that some clauses are made of. -/
def values (clauses : List Clause) : List String :=
  (clauses.flatMap leaves).filterMap value?

theorem filterMap_value?_terms (field : String) (texts : List String) :
    (texts.map (.term field)).filterMap value? = texts := by
  rw [List.filterMap_map]
  exact List.filterMap_some

theorem values_terms (field : String) (texts : List String) :
    values (texts.map (.term field)) = texts := by
  rw [values, flatMap_leaves_terms, filterMap_value?_terms]

theorem values_group? (field : String) (texts : List String) :
    values (Filter.group? field texts).toList = texts := by
  rw [values, leaves_group?, filterMap_value?_terms]

end Clause

/-! ## Expressions and clauses -/

namespace Expression

/-- The expression that asks for some clauses. A list has its plain tokens first. -/
def ofClauses : List Clause → List Clause → Expression
  | [.range _ lower upper], _ => .range lower upper
  | [.term _ value], [] => .plain value
  | [], [.term _ value] => .negation value
  | first :: second :: others, _ => .words (Clause.values (first :: second :: others))
  | must, mustNot =>
      .alternatives (Clause.values must ++ (Clause.values mustNot).map ("!" ++ ·))

/-- An expression with the negated tokens of a list behind the plain ones. -/
def sorted : Expression → Expression
  | .alternatives tokens =>
      .alternatives (tokens.filter (fun token => !Filter.isNegated token) ++
        tokens.filter Filter.isNegated)
  | other => other

/-- The forms of an expression. -/
inductive Form where
  | range
  | alternatives
  | words
  | negation
  | plain
  deriving DecidableEq, Repr

/-- The form of an expression. -/
def form : Expression → Form
  | .range _ _ => .range
  | .alternatives _ => .alternatives
  | .words _ => .words
  | .negation _ => .negation
  | .plain _ => .plain

theorem form_sorted (expression : Expression) : expression.sorted.form = expression.form := by
  cases expression <;> rfl

/-- A list of alternatives or of words has several members. -/
def Several : Expression → Prop
  | .alternatives tokens => 2 ≤ tokens.length
  | .words values => 2 ≤ values.length
  | .range _ _ | .negation _ | .plain _ => True

theorem ofClauses_groups (field : String) {kept negated : List String}
    (several : 2 ≤ kept.length + negated.length) :
    ofClauses (Filter.group? field kept).toList (Filter.group? field negated).toList =
      .alternatives (kept ++ negated.map ("!" ++ ·)) := by
  have keptBack := Clause.values_group? field kept
  have negatedBack := Clause.values_group? field negated
  -- Alternatives are read back unless one clause alone is left of them, and that takes one token.
  have alternatives : ofClauses (Filter.group? field kept).toList
      (Filter.group? field negated).toList =
      .alternatives (Clause.values (Filter.group? field kept).toList ++
        (Clause.values (Filter.group? field negated).toList).map ("!" ++ ·)) := by
    match kept, negated with
    | [], [] | [], [_] | [_], [] => simp at several
    | [], _ :: _ :: _ | [_], [_] | [_], _ :: _ :: _ | _ :: _ :: _, _ => rfl
  rw [alternatives, keptBack, negatedBack]

/-- An expression is read back from its clauses, but for the order of plain and negated tokens. -/
theorem ofClauses_clauses (field : String) {expression : Expression}
    (several : expression.Several) :
    ofClauses (expression.clauses field).must (expression.clauses field).mustNot =
      expression.sorted := by
  cases expression with
  | range lower upper => rfl
  | alternatives tokens =>
      have count : (tokens.filter fun token => !Filter.isNegated token).length +
          (tokens.filterMap (Text.behind? '!')).length = tokens.length := by
        have perm := List.filter_append_perm Filter.isNegated tokens
        rw [← perm.length_eq, List.length_append, ← map_negated, List.length_map, Nat.add_comm]
      have several : 2 ≤ (tokens.filter fun token => !Filter.isNegated token).length +
          (tokens.filterMap (Text.behind? '!')).length := count ▸ several
      rw [sorted, ← map_negated]
      exact ofClauses_groups field several
  | words values =>
      have back := Clause.values_terms field values
      match values with
      | [] | [_] => simp [Several] at several
      | first :: second :: others => exact congrArg words back
  | negation value => rfl
  | plain value => rfl

theorem filterMap_behind_filter (tokens : List String) :
    (tokens.filter Filter.isNegated).filterMap (Text.behind? '!') =
      tokens.filterMap (Text.behind? '!') := by
  rw [List.filterMap_filter]
  apply List.filterMap_congr
  intro token _
  unfold Filter.isNegated
  cases Text.behind? '!' token with
  | none => rfl
  | some negated => rfl

/-- The clauses of a list are those of its plain and of its negated tokens. -/
theorem clauses_congr (field : String) {tokens others : List String}
    (plain : tokens.filter (fun token => !Filter.isNegated token) =
      others.filter fun token => !Filter.isNegated token)
    (negated : tokens.filter Filter.isNegated = others.filter Filter.isNegated) :
    (alternatives tokens).clauses field = (alternatives others).clauses field := by
  rw [clauses, clauses, plain, ← filterMap_behind_filter tokens, negated, filterMap_behind_filter]

theorem filter_eq_of_sorted_eq {tokens others : List String}
    (same : (alternatives tokens).sorted = (alternatives others).sorted) :
    tokens.filter (fun token => !Filter.isNegated token) =
        others.filter (fun token => !Filter.isNegated token) ∧
      tokens.filter Filter.isNegated = others.filter Filter.isNegated := by
  have joined := alternatives.inj same
  constructor
  · have plain := congrArg (List.filter fun token => !Filter.isNegated token) joined
    simpa [List.filter_filter] using plain
  · have negated := congrArg (List.filter Filter.isNegated) joined
    simpa [List.filter_filter] using negated

end Expression

/-! ## Texts and expressions -/

namespace Expression

/-- How a text stands for an expression. A hyphen wins over a comma, and a comma over a space. -/
inductive StandsFor (value : String) : Expression → Prop
  | range (hyphen : '-' ∈ value.toList) :
      StandsFor value (.range (String.ofList (Text.upTo '-' value.toList))
        (String.ofList (Text.upTo '-' (Text.past '-' value.toList))))
  | alternatives (hyphen : '-' ∉ value.toList) (comma : ',' ∈ value.toList) :
      StandsFor value (.alternatives (Text.split ',' value))
  | words (hyphen : '-' ∉ value.toList) (comma : ',' ∉ value.toList)
      (space : ' ' ∈ value.toList) : StandsFor value (.words (Text.split ' ' value))
  | negation {negated : String} (whole : value = "!" ++ negated) :
      StandsFor value (.negation negated)
  | plain : StandsFor value (.plain value)

theorem standsFor_ofText (value : String) : (ofText value).StandsFor value := by
  unfold ofText
  by_cases hyphen : '-' ∈ value.toList
  · rw [if_pos hyphen]
    exact .range hyphen
  · rw [if_neg hyphen]
    by_cases comma : ',' ∈ value.toList
    · rw [if_pos comma]
      exact .alternatives hyphen comma
    · rw [if_neg comma]
      by_cases space : ' ' ∈ value.toList
      · rw [if_pos space]
        exact .words hyphen comma space
      · rw [if_neg space]
        cases behind : Text.behind? '!' value with
        | none => exact .plain
        | some negated => exact .negation (Text.behind?_eq_some_iff.mp behind)

theorem StandsFor.several {value : String} {expression : Expression}
    (stands : StandsFor value expression) : expression.Several := by
  cases stands with
  | range => trivial
  | alternatives _ comma =>
      obtain ⟨others, split⟩ := Text.split_of_mem comma
      rw [split, Several, List.length_cons, List.length_cons]
      omega
  | words _ _ space =>
      obtain ⟨others, split⟩ := Text.split_of_mem space
      rw [split, Several, List.length_cons, List.length_cons]
      omega
  | negation => trivial
  | plain => trivial

end Expression

namespace Filter

/-- Two ranges with the same bounds: texts that agree up to a second hyphen. -/
structure SameBounds (value other : String) : Prop where
  hyphen : '-' ∈ value.toList
  otherHyphen : '-' ∈ other.toList
  lower : Text.upTo '-' value.toList = Text.upTo '-' other.toList
  upper : Text.upTo '-' (Text.past '-' value.toList) = Text.upTo '-' (Text.past '-' other.toList)

/-- Two lists with the same plain tokens and the same negated ones, each in their order. -/
structure SameTokens (value other : String) : Prop where
  hyphen : '-' ∉ value.toList
  otherHyphen : '-' ∉ other.toList
  comma : ',' ∈ value.toList
  otherComma : ',' ∈ other.toList
  plain : (Text.split ',' value).filter (fun token => !isNegated token) =
    (Text.split ',' other).filter fun token => !isNegated token
  negated : (Text.split ',' value).filter isNegated = (Text.split ',' other).filter isNegated

/-- Texts that stand for the same expression, but for the order of plain and negated tokens. -/
theorem alike_of_sorted_eq {value other : String} {expression another : Expression}
    (first : expression.StandsFor value) (second : another.StandsFor other)
    (same : expression.sorted = another.sorted) :
    value = other ∨ SameBounds value other ∨ SameTokens value other := by
  cases first with
  | range hyphen =>
      cases second with
      | range otherHyphen =>
          obtain ⟨lower, upper⟩ := Expression.range.inj same
          exact Or.inr (Or.inl ⟨hyphen, otherHyphen, String.ofList_inj.mp lower,
            String.ofList_inj.mp upper⟩)
      | _ => cases same
  | alternatives hyphen comma =>
      cases second with
      | alternatives otherHyphen otherComma =>
          obtain ⟨plain, negated⟩ := Expression.filter_eq_of_sorted_eq same
          exact Or.inr (Or.inr ⟨hyphen, otherHyphen, comma, otherComma, plain, negated⟩)
      | _ => cases same
  | words hyphen comma space =>
      cases second with
      | words => exact Or.inl (Text.split_inj (Expression.words.inj same))
      | _ => cases same
  | negation whole =>
      cases second with
      | negation otherWhole =>
          left
          rw [whole, otherWhole, Expression.negation.inj same]
      | _ => cases same
  | plain =>
      cases second with
      | plain => exact Or.inl (Expression.plain.inj same)
      | _ => cases same

theorem clauses_eq_of_alike (key : String) {value other : String}
    (alike : value = other ∨ SameBounds value other ∨ SameTokens value other) :
    (Expression.ofText value).clauses key = (Expression.ofText other).clauses key := by
  rcases alike with rfl | bounds | tokens
  · rfl
  · unfold Expression.ofText
    rw [if_pos bounds.hyphen, if_pos bounds.otherHyphen, bounds.lower, bounds.upper]
  · unfold Expression.ofText
    rw [if_neg tokens.hyphen, if_neg tokens.otherHyphen, if_pos tokens.comma,
      if_pos tokens.otherComma]
    exact Expression.clauses_congr key tokens.plain tokens.negated

/-- Two texts ask a field for the same clauses. -/
def AsksSame (key value other : String) : Prop :=
  (BooleanQuery.empty.requireFilter key value).must =
      (BooleanQuery.empty.requireFilter key other).must ∧
    (BooleanQuery.empty.requireFilter key value).mustNot =
      (BooleanQuery.empty.requireFilter key other).mustNot

theorem asksSame_iff (key value other : String) :
    AsksSame key value other ↔
      ((Expression.ofText value).clauses key).must = ((Expression.ofText other).clauses key).must ∧
        ((Expression.ofText value).clauses key).mustNot =
          ((Expression.ofText other).clauses key).mustNot := by
  unfold AsksSame
  rw [BooleanQuery.requireFilter_eq_append, BooleanQuery.requireFilter_eq_append]
  rfl

theorem sorted_eq_of_asksSame {key value other : String} (same : AsksSame key value other) :
    (Expression.ofText value).sorted = (Expression.ofText other).sorted := by
  obtain ⟨must, mustNot⟩ := (asksSame_iff key value other).mp same
  rw [← Expression.ofClauses_clauses key (Expression.standsFor_ofText value).several,
    ← Expression.ofClauses_clauses key (Expression.standsFor_ofText other).several, must, mustNot]

/-- Two texts ask a field for the same clauses exactly if they are the same text, or two ranges that
agree up to a second hyphen, or two lists with the same plain and the same negated tokens. So texts of
different forms never ask for the same. -/
theorem same_clauses_iff (key value other : String) :
    (AsksSame key value other ↔
      value = other ∨ SameBounds value other ∨ SameTokens value other) ∧
    (AsksSame key value other →
      (Expression.ofText value).form = (Expression.ofText other).form) := by
  refine ⟨⟨?_, ?_⟩, ?_⟩
  · intro same
    exact alike_of_sorted_eq (Expression.standsFor_ofText value) (Expression.standsFor_ofText other)
      (sorted_eq_of_asksSame same)
  · intro alike
    rw [asksSame_iff, clauses_eq_of_alike key alike]
    exact ⟨rfl, rfl⟩
  · intro same
    have forms := congrArg Expression.form (sorted_eq_of_asksSame same)
    rwa [Expression.form_sorted, Expression.form_sorted] at forms

end Filter

end TransferHistory
