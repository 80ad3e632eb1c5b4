import TransferHistory.Json.Written
import TransferHistory.Proofs.Ordered

/-!
# Values without repeated names

A value is well formed if no object in it, at any depth, holds a name twice. What a text stands for
always is, also where the text repeats a name.

Results:
1. `wellFormedItems_iff`, `wellFormedMembers_iff`: it is a matter of each item and of each member.
2. `wellFormed_object_perm`, `wellFormed_object_replace`: the order of the members has no part in it,
   and one value may give way to another.
3. `wellFormed_of_parse?`: every value that was read is well formed.
-/

namespace TransferHistory.Json

open Ordered (Distinct names)

theorem wellFormedItems_iff {items : List Json} :
    WellFormedItems items ↔ ∀ item ∈ items, item.WellFormed := by
  induction items with
  | nil => simp [WellFormedItems]
  | cons item rest ih => rw [WellFormedItems, ih, List.forall_mem_cons]

theorem wellFormedMembers_iff {members : Members} :
    WellFormedMembers members ↔ ∀ entry ∈ members, entry.2.WellFormed := by
  induction members with
  | nil => simp [WellFormedMembers]
  | cons entry rest ih => rw [WellFormedMembers, ih, List.forall_mem_cons]

theorem wellFormed_object_perm {members others : Members} (order : members.Perm others)
    (wellFormed : (Json.object members).WellFormed) : (Json.object others).WellFormed := by
  refine ⟨(order.map Prod.fst).nodup_iff.mp wellFormed.1, ?_⟩
  have each := wellFormedMembers_iff.mp wellFormed.2
  exact wellFormedMembers_iff.mpr fun entry present => each entry (order.mem_iff.mpr present)

theorem wellFormed_object_replace {before after : Members} {name : String} {value other : Json}
    (wellFormed : (Json.object (before ++ (name, value) :: after)).WellFormed)
    (inner : other.WellFormed) : (Json.object (before ++ (name, other) :: after)).WellFormed := by
  have each := wellFormedMembers_iff.mp wellFormed.2
  refine ⟨?_, wellFormedMembers_iff.mpr ?_⟩
  · have distinct := wellFormed.1
    simp only [Distinct, names, List.map_append, List.map_cons] at distinct ⊢
    exact distinct
  · simp only [List.forall_mem_append, List.forall_mem_cons] at each ⊢
    exact ⟨each.1, inner, each.2.2⟩

/-! ## What a text stands for -/

theorem wellFormed_ofPairs {pairs : List (String × Json)} (each : WellFormedMembers pairs) :
    (Json.object (Ordered.ofPairs pairs)).WellFormed := by
  refine ⟨Ordered.distinct_ofPairs pairs, wellFormedMembers_iff.mpr ?_⟩
  intro entry present
  rcases Ordered.mem_of_mem_setAll present with before | given
  · cases before
  · exact wellFormedMembers_iff.mp each entry given

namespace Written

mutual

theorem wellFormed_of_valueWithin? {levels : Nat} : {written : Written} → {value : Json} →
    valueWithin? levels written = some value → value.WellFormed
  | .null, _, read => by
      cases read
      trivial
  | .bool _, _, read => by
      cases read
      trivial
  | .number _, _, read => by
      obtain ⟨_, -, rfl⟩ := Option.map_eq_some_iff.mp read
      trivial
  | .string _, _, read => by
      obtain ⟨_, -, rfl⟩ := Option.map_eq_some_iff.mp read
      trivial
  | .array items, value, read => by
      rw [valueWithin?, Option.ite_none_left_eq_some, Option.map_eq_some_iff] at read
      obtain ⟨-, values, read, rfl⟩ := read
      exact wellFormed_of_itemsWithin? read
  | .object members, value, read => by
      rw [valueWithin?, Option.ite_none_left_eq_some, Option.map_eq_some_iff] at read
      obtain ⟨-, pairs, read, rfl⟩ := read
      exact wellFormed_ofPairs (wellFormed_of_membersWithin? read)

theorem wellFormed_of_itemsWithin? {levels : Nat} : {items : List Written} → {values : List Json} →
    itemsWithin? levels items = some values → WellFormedItems values
  | [], _, read => by
      cases read
      trivial
  | item :: rest, values, read => by
      obtain ⟨first, head, read⟩ := Option.bind_eq_some_iff.mp read
      obtain ⟨others, tail, read⟩ := Option.bind_eq_some_iff.mp read
      cases read
      exact ⟨wellFormed_of_valueWithin? head, wellFormed_of_itemsWithin? tail⟩

theorem wellFormed_of_membersWithin? {levels : Nat} : {members : List (List TextItem × Written)} →
    {pairs : List (String × Json)} → membersWithin? levels members = some pairs →
    WellFormedMembers pairs
  | [], _, read => by
      cases read
      trivial
  | (name, value) :: rest, pairs, read => by
      obtain ⟨text, -, read⟩ := Option.bind_eq_some_iff.mp read
      obtain ⟨first, head, read⟩ := Option.bind_eq_some_iff.mp read
      obtain ⟨others, tail, read⟩ := Option.bind_eq_some_iff.mp read
      cases read
      exact ⟨wellFormed_of_valueWithin? head, wellFormed_of_membersWithin? tail⟩

end

end Written

/-- Every value that was read is well formed. -/
theorem wellFormed_of_parse? {text : String} {value : Json} (read : parse? text = some value) :
    value.WellFormed := by
  obtain ⟨written, -, meant⟩ := Option.bind_eq_some_iff.mp read
  exact Written.wellFormed_of_valueWithin? meant

example : parse? "\x7b\"a\":1,\"b\":2,\"a\":3\x7d" =
    some (.object [("a", .number (.int 3)), ("b", .number (.int 2))]) := by decide +kernel

end TransferHistory.Json
