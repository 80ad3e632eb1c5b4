import TransferHistory.Proofs.Ordered
import TransferHistory.Proofs.Query.Clauses
import TransferHistory.ResultEq

/-!
# What a compiled query depends on

Each part of a compiled query is read off parameters of its own, looked up by their names; only what
must and what must not hold depends on the filters besides. So a parameter that is neither looked up
nor a filter, such as a switch of the response, never shows in a compiled query.

Results:
1. `Page.ofParams_congr`, `Direction.ofParams_congr`, `SortOrder.ofParams_congr`,
   `Track.ofParams_congr`, `Window.clause?_congr`, `Params.shortcutClauses_congr`: the parameters that
   each part is read off.
2. `CompiledQuery.ofParams_eq_map`, `CompiledQuery.ofParams_eq_of_query`: requests that differ in their
   clauses only are accepted alike.
3. `CompiledQuery.isolated`: which requests agree in which parts.
-/

namespace TransferHistory

namespace Params

/-- Two requests give some parameters the same texts. -/
def Agree (names : List String) (first second : Params) : Prop :=
  ∀ name ∈ names, first.get? name = second.get? name

instance (names : List String) (first second : Params) : Decidable (Agree names first second) :=
  inferInstanceAs (Decidable (∀ name ∈ names, _))

theorem Agree.mono {names others : List String} {first second : Params}
    (agree : Agree others first second) (within : names ⊆ others) : Agree names first second :=
  fun name present => agree name (within present)

theorem Agree.int? {names : List String} {first second : Params} (agree : Agree names first second)
    {name : String} (present : name ∈ names) : first.int? name = second.int? name := by
  unfold Params.int?
  rw [agree name present]

end Params

open Params (Agree)

variable {first second : Params}

/-! ## Parts -/

theorem Page.ofParams_congr (agree : Agree ["skip", "limit"] first second) :
    ofParams first = ofParams second := by
  unfold ofParams readSkip readLimit
  rw [agree.int? (by simp), agree.int? (by simp)]

theorem Direction.ofParams_congr (agree : Agree ["sort"] first second) :
    ofParams first = ofParams second := by
  unfold ofParams
  rw [agree "sort" (by simp)]

theorem SortOrder.ofParams_congr (agree : Agree ["sortedBy"] first second) (direction : Direction) :
    ofParams first direction = ofParams second direction := by
  unfold ofParams
  rw [agree "sortedBy" (by simp)]

theorem Track.ofParams_congr (agree : Agree ["track"] first second) :
    ofParams first = ofParams second := by
  unfold ofParams
  rw [agree "track" (by simp), agree.int? (by simp)]

theorem Window.clause?_congr (agree : Agree ["after", "before"] first second) :
    clause? first = clause? second := by
  unfold clause?
  rw [agree "after" (by simp), agree "before" (by simp)]

theorem Params.shortcutClauses_congr
    (agree : Agree ["smAccount", "canAccount", "symbol"] first second) :
    first.shortcutClauses = second.shortcutClauses := by
  unfold shortcutClauses
  apply List.filterMap_congr
  intro shortcut _
  unfold Shortcut.clause?
  rw [agree shortcut.param (by cases shortcut <;> simp [Shortcut.param])]

/-! ## Whole requests -/

namespace CompiledQuery

/-- Requests with the same window, order and counting are accepted alike, but for their clauses. -/
theorem ofParams_eq_map
    (agree : Agree ["skip", "limit", "sort", "sortedBy", "track"] first second) :
    ofParams second =
      (ofParams first).map fun compiled => { compiled with query := .ofParams second } := by
  have page := Page.ofParams_congr (agree.mono (by decide))
  have direction := Direction.ofParams_congr (agree.mono (by decide))
  have track := Track.ofParams_congr (agree.mono (by decide))
  have sort := SortOrder.ofParams_congr (agree.mono (by decide))
  unfold ofParams
  rw [page, direction, track]
  simp only [sort]
  cases Page.ofParams second with
  | error error => rfl
  | ok page =>
      cases Direction.ofParams second with
      | error error => rfl
      | ok direction =>
          cases Track.ofParams second with
          | error error => rfl
          | ok track => rfl

/-- The parameters that compiling looks up by their names. -/
def lookups : List String :=
  ["skip", "limit", "sort", "sortedBy", "track", "after", "before", "smAccount", "canAccount",
    "symbol"]

/-- Requests with the same window, order and counting and the same clauses are compiled alike. -/
theorem ofParams_eq_of_query
    (agree : Agree ["skip", "limit", "sort", "sortedBy", "track"] first second)
    (query : BooleanQuery.ofParams first = .ofParams second) : ofParams first = ofParams second := by
  rw [ofParams_eq_map agree, ← query]
  cases accepted : ofParams first with
  | error error => rfl
  | ok compiled =>
      obtain ⟨-, -, same, -⟩ := parts_of_ofParams accepted
      rw [← same]
      rfl

/-- Requests that agree on the parameters looked up and on the filters are compiled alike. -/
theorem ofParams_congr (agree : Agree lookups first second)
    (filters : first.filters = second.filters) : ofParams first = ofParams second := by
  have query : BooleanQuery.ofParams first = .ofParams second := by
    rw [BooleanQuery.ofParams_eq, BooleanQuery.ofParams_eq,
      Params.shortcutClauses_congr (agree.mono (by decide)),
      Window.clause?_congr (agree.mono (by decide)), filters]
  exact ofParams_eq_of_query (agree.mono (by decide)) query

end CompiledQuery

/-- A parameter that is no filter can be set without a filter changing. -/
theorem Params.filters_set {name : String} (value : String) (params : Params)
    (other : ¬ Field.IsFilter name) : (params.set name value).filters = params.filters :=
  Ordered.filter_set (fun name => decide (Field.IsFilter name)) (by simpa using other)

theorem Params.agree_set {names : List String} {name : String} (value : String) (params : Params)
    (other : name ∉ names) : Agree names (params.set name value) params := by
  intro known present
  have ne : known ≠ name := fun same => other (same ▸ present)
  exact congrArg (Option.filter (· ≠ "")) (Ordered.get?_set_of_ne ne value params.entries)

namespace CompiledQuery

/-- Two requests that are accepted agree in every part whose parameters they agree on: in the window,
the order, the counting, the time range, and in the clauses if the filters are the same as well. Two
requests that agree on all these parameters and have the same filters are accepted with the same
compiled query or refused with the same error. A parameter that is neither looked up nor a filter
changes nothing, and the switches of the response are such parameters. -/
theorem isolated (first second : Params) :
    (∀ one other, ofParams first = .ok one → ofParams second = .ok other →
      (Agree ["skip", "limit"] first second → one.page = other.page) ∧
      (Agree ["sort", "sortedBy"] first second → one.sort = other.sort) ∧
      (Agree ["track"] first second → one.track = other.track) ∧
      (Agree ["after", "before"] first second → one.query.filter = other.query.filter) ∧
      (Agree ["smAccount", "canAccount", "symbol"] first second → first.filters = second.filters →
        one.query.must = other.query.must ∧ one.query.mustNot = other.query.mustNot)) ∧
    (Agree lookups first second → first.filters = second.filters →
      ofParams first = ofParams second) ∧
    (∀ name value, name ∉ lookups → ¬ Field.IsFilter name →
      ofParams (first.set name value) = ofParams first) ∧
    ∀ name ∈ ["simple", "checkLib", "noBinary"], name ∉ lookups ∧ ¬ Field.IsFilter name := by
  refine ⟨?_, ofParams_congr, ?_, by decide +kernel⟩
  · intro one other accepted acceptedOther
    obtain ⟨page, track, query, direction, sorted, sort⟩ := parts_of_ofParams accepted
    obtain ⟨otherPage, otherTrack, otherQuery, otherDirection, otherSorted, otherSort⟩ :=
      parts_of_ofParams acceptedOther
    rw [BooleanQuery.ofParams_eq] at query otherQuery
    refine ⟨?_, ?_, ?_, ?_, ?_⟩
    · intro agree
      rw [Page.ofParams_congr agree] at page
      exact Except.ok.inj (page.symm.trans otherPage)
    · intro agree
      rw [Direction.ofParams_congr (agree.mono (by decide))] at sorted
      have same : direction = otherDirection := Except.ok.inj (sorted.symm.trans otherSorted)
      rw [sort, otherSort, same]
      exact SortOrder.ofParams_congr (agree.mono (by decide)) otherDirection
    · intro agree
      rw [Track.ofParams_congr agree] at track
      exact Except.ok.inj (track.symm.trans otherTrack)
    · intro agree
      rw [query, otherQuery, Window.clause?_congr agree]
    · intro agree filters
      rw [query, otherQuery, Params.shortcutClauses_congr agree, filters]
      exact ⟨rfl, rfl⟩
  · intro name value unread unfiltered
    exact ofParams_congr (Params.agree_set value first unread)
      (Params.filters_set value first unfiltered)

/-- A request for the last tokens sent to bob. -/
def plainRequest : Params :=
  .ofPairs [("limit", "5"), ("symbol", "EOS"), ("transfer.to", "bob,!eve")]

/-- The same request among parameters that the query does not show. -/
def noisyRequest : Params :=
  .ofPairs [("checkLib", "perhaps"), ("transfer.to", "bob,!eve"), ("color", "red"), ("symbol", "EOS"),
    ("limit", "5 "), ("limit", "5")]

/-- The compiled form of `plainRequest`. -/
def plainCompiled : CompiledQuery where
  page := { limit := 5 }
  track := .upTo 10000
  query :=
    { must := [.term "@transfer.symbol" "EOS", .term "@transfer.to" "bob"]
      mustNot := [.term "@transfer.to" "eve"] }
  sort := ⟨"global_sequence", "desc"⟩

/-- The request with the hits in another order. -/
def sortedRequest : Params :=
  noisyRequest.set "sortedBy" "block_num:asc"

/-- The compiled form of `sortedRequest`. -/
def sortedCompiled : CompiledQuery :=
  { plainCompiled with sort := ⟨"block_num", "asc"⟩ }

/-- Noise does not show, and another order of the hits leaves all other parts as they are. -/
theorem noisyRequest_isolated :
    ofParams noisyRequest = .ok plainCompiled ∧
      ofParams (noisyRequest.set "simple" "no") = .ok plainCompiled ∧
      ofParams sortedRequest = .ok sortedCompiled ∧ sortedCompiled.page = plainCompiled.page ∧
      sortedCompiled.track = plainCompiled.track ∧
      sortedCompiled.query.filter = plainCompiled.query.filter ∧
      sortedCompiled.query.must = plainCompiled.query.must ∧
      sortedCompiled.query.mustNot = plainCompiled.query.mustNot := by
  have plain : ofParams plainRequest = .ok plainCompiled := by decide +kernel
  have sorted : ofParams sortedRequest = .ok sortedCompiled := by decide +kernel
  obtain ⟨-, alike, unread, switches⟩ := isolated noisyRequest plainRequest
  have noisy : ofParams noisyRequest = .ok plainCompiled :=
    (alike (by decide +kernel) (by decide +kernel)).trans plain
  obtain ⟨free, unfiltered⟩ := switches "simple" (by simp)
  obtain ⟨parts, -⟩ := isolated sortedRequest plainRequest
  obtain ⟨page, -, track, filter, clauses⟩ := parts sortedCompiled plainCompiled sorted plain
  have given := clauses (by decide +kernel) (by decide +kernel)
  exact ⟨noisy, (unread "simple" "no" free unfiltered).trans noisy, sorted, page (by decide +kernel),
    track (by decide +kernel), filter (by decide +kernel), given.1, given.2⟩

end CompiledQuery

end TransferHistory
