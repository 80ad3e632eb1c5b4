import TransferHistory.Proofs.Query.Isolation
import TransferHistory.Proofs.Query.Shape
import TransferHistory.Search.Request

/-!
# Parameters in another order

The order of the parameters decides in which order the clauses of the filters come, and nothing else.
Names are distinct, so every parameter that is looked up has the same text in any order, and the
filters of one order are a rearrangement of those of another.

Results:
1. `Params.agree_of_perm`, `Params.filters_perm`: what rearranging does to parameters.
2. `BooleanQuery.ofFilters_perm`: what it does to the clauses of filters.
3. `CompiledQuery.rearranged`: what it does to a compiled query and to the search.
-/

namespace TransferHistory

variable {first second : Params}

namespace Params

theorem agree_of_perm (same : first.entries.Perm second.entries) (names : List String) :
    Agree names first second :=
  fun name _ => congrArg (Option.filter (· ≠ "")) (Ordered.get?_perm first.distinct same name)

theorem filters_perm (same : first.entries.Perm second.entries) :
    first.filters.Perm second.filters :=
  same.filter _

end Params

/-- The clauses of filters in another order are the same clauses in another order. -/
theorem BooleanQuery.ofFilters_perm {entries others : List (String × String)}
    (same : entries.Perm others) :
    (ofFilters entries).must.Perm (ofFilters others).must ∧
      (ofFilters entries).mustNot.Perm (ofFilters others).mustNot :=
  ⟨same.flatMap_right _, same.flatMap_right _⟩

namespace CompiledQuery

/-- Requests with the same parameters in another order are refused with the same error, or they are
both accepted: with the same window, counting, order and time range, with the clauses of the contract,
the account and the symbol first and the clauses of the filters behind them in another order, and with
what must not hold in another order. So the searches are for the same window of the same indices. -/
theorem rearranged (same : first.entries.Perm second.entries) :
    (∃ error, ofParams first = .error error ∧ ofParams second = .error error) ∨
    ∃ one other, ofParams first = .ok one ∧ ofParams second = .ok other ∧
      one.page = other.page ∧ one.track = other.track ∧ one.sort = other.sort ∧
      one.query.filter = other.query.filter ∧
      (∃ front clauses others,
        front =
          ((first.get? "smAccount").map fun contract =>
            Clause.term "act.account" contract).toList ++
          ((first.get? "canAccount").map fun account =>
            Clause.anyOf [.term "@transfer.from" account, .term "@transfer.to" account]).toList ++
          ((first.get? "symbol").map fun symbol =>
            Clause.term "@transfer.symbol" symbol).toList ∧
        one.query.must = front ++ clauses ∧ other.query.must = front ++ others ∧
        clauses.Perm others) ∧
      one.query.must.Perm other.query.must ∧ one.query.mustNot.Perm other.query.mustNot ∧
      ∀ index greatest,
        (one.toRequest index greatest).index = (other.toRequest index greatest).index ∧
        (one.toRequest index greatest).skip = (other.toRequest index greatest).skip ∧
        (one.toRequest index greatest).size = (other.toRequest index greatest).size := by
  have alike := ofParams_eq_map (Params.agree_of_perm same _)
  cases accepted : ofParams first with
  | error error =>
      rw [accepted] at alike
      exact Or.inl ⟨error, rfl, alike⟩
  | ok one =>
      rw [accepted] at alike
      obtain ⟨-, -, query, -⟩ := parts_of_ofParams accepted
      have shortcuts := Params.shortcutClauses_congr (Params.agree_of_perm same _)
      have window := Window.clause?_congr (Params.agree_of_perm same _)
      obtain ⟨must, mustNot⟩ := BooleanQuery.ofFilters_perm (Params.filters_perm same)
      refine Or.inr ⟨one, { one with query := .ofParams second }, rfl, alike, rfl, rfl, rfl, ?_⟩
      rw [query, BooleanQuery.ofParams_eq first, BooleanQuery.ofParams_eq second, ← shortcuts,
        ← window]
      exact ⟨rfl, ⟨_, _, _, first.shortcutClauses_eq, rfl, rfl, must⟩, must.append_left _, mustNot,
        fun _ _ => ⟨rfl, rfl, rfl⟩⟩

/-- A request with two filters around a shortcut. -/
def orderedRequest : Params :=
  .ofPairs [("transfer.to", "bob,!eve"), ("symbol", "EOS"), ("block_num", "10-20"), ("skip", "3")]

/-- The same request with its parameters in another order. -/
def shuffledRequest : Params :=
  .ofPairs [("skip", "3"), ("block_num", "10-20"), ("transfer.to", "bob,!eve"), ("symbol", "EOS")]

/-- The compiled form of `orderedRequest`. -/
def orderedCompiled : CompiledQuery where
  page := { skip := 3 }
  track := .upTo 10000
  query :=
    { must := [.term "@transfer.symbol" "EOS", .term "@transfer.to" "bob",
        .range "block_num" "10" "20"]
      mustNot := [.term "@transfer.to" "eve"] }
  sort := ⟨"global_sequence", "desc"⟩

/-- The symbol stays in front, and the two filters change places. -/
theorem shuffledRequest_rearranged :
    orderedRequest.entries.Perm shuffledRequest.entries ∧
      ∃ shuffled, ofParams shuffledRequest = .ok shuffled ∧ shuffled.page = { skip := 3 } ∧
        (∃ others, shuffled.query.must = .term "@transfer.symbol" "EOS" :: others ∧
          [Clause.term "@transfer.to" "bob", .range "block_num" "10" "20"].Perm others) ∧
        shuffled.query ≠ orderedCompiled.query := by
  have same : orderedRequest.entries.Perm shuffledRequest.entries := by decide +kernel
  have accepted : ofParams orderedRequest = .ok orderedCompiled := by decide +kernel
  have contract : orderedRequest.get? "smAccount" = none := by decide +kernel
  have account : orderedRequest.get? "canAccount" = none := by decide +kernel
  have symbol : orderedRequest.get? "symbol" = some "EOS" := by decide +kernel
  have moved : BooleanQuery.ofParams shuffledRequest ≠ orderedCompiled.query := by decide +kernel
  refine ⟨same, ?_⟩
  rcases rearranged same with
    ⟨error, refused, -⟩ | ⟨one, shuffled, known, found, page, -, -, -, must, -⟩
  · rw [accepted] at refused
    cases refused
  · cases accepted.symm.trans known
    obtain ⟨front, clauses, others, shortcuts, before, behind, perm⟩ := must
    rw [contract, account, symbol] at shortcuts
    subst shortcuts
    refine ⟨shuffled, found, page.symm, ⟨others, behind, ?_⟩, ?_⟩
    · cases before
      exact perm
    · rw [(parts_of_ofParams found).2.2.1]
      exact moved

end CompiledQuery

end TransferHistory
