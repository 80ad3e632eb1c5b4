import TransferHistory.Proofs.Json.Alike
import TransferHistory.Query.Compiled
import TransferHistory.ResultEq

/-!
# Reading the body of a search

All that a compiled query asks of the search service can be read back from the body that is sent, so
queries that ask for different things are never sent alike. The names of fields stand where the
names of the query language stand too, and any text may be such a name. What keeps them apart is
where they stand: a clause has one member, and its name is the kind of the clause.

A reader looks members up by name wherever there may be several, so it does not see their order.

Results:
1. `Clause.ofJson?_of_alike`: a clause is read back, with everything below it.
2. `BooleanQuery.ofJson?_of_alike`, `Track.ofJson?_of_alike`, `SortOrder.ofJson?_of_alike`: the
   parts of a body.
3. `CompiledQuery.body_tells_all`: the whole body.
-/

namespace TransferHistory

open Json (Alike)

/-! ## Clauses -/

namespace Clause

mutual

/-- The clause that a value stands for. -/
def ofJson? : Json → Option Clause
  | .object [("term", .object [(field, .string value)])] => some (.term field value)
  | .object [("range", .object [(field, bounds)])] =>
      match bounds.get? "gte", bounds.get? "lte" with
      | some (.string lower), some (.string upper) => some (.range field lower upper)
      | _, _ => none
  | .object [("bool", .object [("should", .array items)])] => (listOfJson? items).map .anyOf
  | _ => none

/-- The clauses that some values stand for. -/
def listOfJson? : List Json → Option (List Clause)
  | [] => some []
  | item :: rest =>
      match ofJson? item, listOfJson? rest with
      | some clause, some clauses => some (clause :: clauses)
      | _, _ => none

end

mutual

theorem ofJson?_of_alike {value : Json} :
    (clause : Clause) → Alike clause.toJson value → ofJson? value = some clause
  | .term field text, alike => by
      obtain ⟨condition, rfl, inner⟩ := alike.eq_single
      obtain ⟨counterpart, rfl, same⟩ := inner.eq_single
      cases same
      rw [ofJson?]
  | .range field lower upper, alike => by
      obtain ⟨condition, rfl, inner⟩ := alike.eq_single
      obtain ⟨bounds, rfl, alikeBounds⟩ := inner.eq_single
      obtain ⟨least, foundLower, same⟩ := alikeBounds.get? "gte" rfl
      cases same
      obtain ⟨greatest, foundUpper, same⟩ := alikeBounds.get? "lte" rfl
      cases same
      rw [ofJson?, foundLower, foundUpper]
  | .anyOf clauses, alike => by
      obtain ⟨condition, rfl, inner⟩ := alike.eq_single
      obtain ⟨list, rfl, alikeList⟩ := inner.eq_single
      obtain ⟨items, rfl, each⟩ := alikeList.eq_array
      rw [ofJson?, listOfJson?_of_alike clauses each]
      rfl

theorem listOfJson?_of_alike {values : List Json} :
    (clauses : List Clause) → List.Forall₂ Alike (listToJson clauses) values →
      listOfJson? values = some clauses
  | [], each => by
      cases each
      rfl
  | clause :: rest, each => by
      cases each with
      | cons first others =>
          rw [listOfJson?, ofJson?_of_alike clause first, listOfJson?_of_alike rest others]

end

/-- The clauses that an array stands for. -/
def ofArray? : Json → Option (List Clause)
  | .array items => listOfJson? items
  | _ => none

theorem ofArray?_of_get? {value other : Json} (alike : Alike value other) (name : String)
    {clauses : List Clause} (found : value.get? name = some (.array (listToJson clauses))) :
    ∃ list, other.get? name = some list ∧ ofArray? list = some clauses := by
  obtain ⟨list, known, same⟩ := alike.get? name found
  obtain ⟨items, rfl, each⟩ := same.eq_array
  exact ⟨_, known, listOfJson?_of_alike clauses each⟩

end Clause

/-! ## The parts of a body -/

namespace BooleanQuery

/-- The query with the lists and the weight that some members give. The filter list may be missing. -/
def ofMembers? (members : Json) : Option BooleanQuery :=
  match members.get? "must", members.get? "must_not", members.get? "boost" with
  | some must, some mustNot, some (.number (.real boost)) => do
      return {
        must := ← Clause.ofArray? must
        mustNot := ← Clause.ofArray? mustNot
        filter := ← Clause.ofArray? ((members.get? "filter").getD (.array []))
        boost }
  | _, _, _ => none

/-- The query that a value stands for. -/
def ofJson? : Json → Option BooleanQuery
  | .object [("bool", members)] => ofMembers? members
  | _ => none

theorem ofJson?_of_alike {query : BooleanQuery} {value : Json} (alike : Alike query.toJson value) :
    ofJson? value = some query := by
  obtain ⟨members, rfl, inner⟩ := alike.eq_single
  obtain ⟨must, mustNot, filter, boost⟩ := query
  obtain ⟨_, foundMust, readMust⟩ := Clause.ofArray?_of_get? inner "must" rfl
  obtain ⟨_, foundMustNot, readMustNot⟩ := Clause.ofArray?_of_get? inner "must_not" rfl
  -- The filter list is written only where it has clauses, and the weight stands behind it.
  obtain ⟨_, foundBoost, same⟩ := inner.get? "boost" (by cases filter <;> rfl)
  cases same
  have readFilter :
      Clause.ofArray? ((members.get? "filter").getD (.array [])) = some filter := by
    cases filter with
    | nil =>
        rw [inner.get?_eq_none "filter" rfl]
        rfl
    | cons clause rest =>
        obtain ⟨_, foundFilter, read⟩ := Clause.ofArray?_of_get? inner "filter" rfl
        rw [foundFilter]
        exact read
  rw [ofJson?, ofMembers?, foundMust, foundMustNot, foundBoost]
  simp [readMust, readMustNot, readFilter]

end BooleanQuery

/-- The counting that a value stands for. -/
def Track.ofJson? : Json → Option Track
  | .bool counted => some (.exact counted)
  | .number (.int count) => some (.upTo count.toNat)
  | _ => none

theorem Track.ofJson?_of_alike {track : Track} {value : Json} (alike : Alike track.toJson value) :
    Track.ofJson? value = some track := by
  cases track with
  | exact counted =>
      cases alike
      rfl
  | upTo count =>
      cases alike
      rfl

/-- The order that a value stands for. -/
def SortOrder.ofJson? : Json → Option SortOrder
  | .object [(field, .string direction)] => some ⟨field, direction⟩
  | _ => none

theorem SortOrder.ofJson?_of_alike {order : SortOrder} {value : Json}
    (alike : Alike order.toJson value) : SortOrder.ofJson? value = some order := by
  obtain ⟨direction, rfl, same⟩ := alike.eq_single
  cases same
  rfl

namespace CompiledQuery

/-- What a body asks of the search service: a query, a counting and an order. -/
def ofBody? (body : Json) : Option (BooleanQuery × Track × SortOrder) :=
  match body.get? "query", body.get? "track_total_hits", body.get? "sort" with
  | some query, some track, some sort => do
      return (← BooleanQuery.ofJson? query, ← Track.ofJson? track, ← SortOrder.ofJson? sort)
  | _, _, _ => none

theorem ofBody?_of_alike {compiled : CompiledQuery} {body : Json}
    (alike : Alike compiled.body body) :
    ofBody? body = some (compiled.query, compiled.track, compiled.sort) := by
  obtain ⟨_, foundQuery, query⟩ := alike.get? "query" rfl
  obtain ⟨_, foundTrack, track⟩ := alike.get? "track_total_hits" rfl
  obtain ⟨_, foundSort, sort⟩ := alike.get? "sort" rfl
  rw [ofBody?, foundQuery, foundTrack, foundSort]
  simp [BooleanQuery.ofJson?_of_alike query, Track.ofJson?_of_alike track,
    SortOrder.ofJson?_of_alike sort]

/-- A body tells all that is asked: the query with its lists in order, the counting and the order of
the hits are read back from it, in whatever order its members come. So two bodies are the same, but
for the order of members, exactly if they ask for the same. -/
theorem body_tells_all :
    (∀ (compiled : CompiledQuery) (body : Json), Alike compiled.body body →
      ofBody? body = some (compiled.query, compiled.track, compiled.sort)) ∧
    ∀ first second : CompiledQuery, Alike first.body second.body ↔
      first.query = second.query ∧ first.track = second.track ∧ first.sort = second.sort := by
  refine ⟨fun _ _ => ofBody?_of_alike, fun first second => ⟨fun alike => ?_, ?_⟩⟩
  · have read := ofBody?_of_alike alike
    rw [ofBody?_of_alike (Alike.refl second.body), Option.some.injEq] at read
    simp only [Prod.mk.injEq] at read
    exact ⟨read.1.symm, read.2.1.symm, read.2.2.symm⟩
  · rintro ⟨query, track, sort⟩
    have same : first.body = second.body := by rw [body, body, query, track, sort]
    exact same ▸ Alike.refl first.body

/-- A query on fields that are named like parts of the query language. -/
def cunningQuery : CompiledQuery where
  page := {}
  track := .exact true
  query :=
    { must := [.anyOf [.term "bool" "should", .anyOf [.range "term" "gte" "lte"]]]
      mustNot := [.term "range" "bool"] }
  sort := ⟨"query", "filter"⟩

/-- The body of `cunningQuery` with its members in another order. -/
def cunningBody : Json :=
  .object [("sort", cunningQuery.sort.toJson), ("query", cunningQuery.query.toJson),
    ("track_total_hits", .bool true)]

/-- It is read back as what it is, and only a query that asks for the same has this body. -/
theorem cunningQuery_told :
    Alike cunningQuery.body cunningBody ∧
      ofBody? cunningBody = some (cunningQuery.query, .exact true, ⟨"query", "filter"⟩) ∧
      ∀ other : CompiledQuery, other.body = cunningQuery.body →
        other.query = cunningQuery.query := by
  have alike : Alike cunningQuery.body cunningBody :=
    Alike.of_perm (by simp [Ordered.Distinct, Ordered.names]) (List.reverse_perm _).symm
  obtain ⟨reads, tells⟩ := body_tells_all
  refine ⟨alike, reads cunningQuery cunningBody alike, fun other same => ?_⟩
  exact ((tells other cunningQuery).mp (same ▸ Alike.refl other.body)).1

end CompiledQuery

end TransferHistory
