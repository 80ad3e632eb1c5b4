import TransferHistory.Proofs.Query.Canonical

/-!
# Names with one key

When two filters of a request search the same field. The decoded fields of an action can be named with
and without the sign of an index, and these two names are the only ones that come together.

Results:
1. `Field.indexed_eq_indexed_iff`: names with one key are the same name or a bare and a signed form.
2. `Field.length_le_two_of_together`: no three names have one key.
3. `Params.pairwise_namesOn`: the filters of a request that search one field.
4. `Field.storageKey?_eq_iff`: all of this about the keys that are looked up.
-/

namespace TransferHistory

namespace Field

/-- A name and the same name with the sign of an index in front, where the bare name begins with an
action whose decoded fields are indexed. -/
def IsSigned (bare signed : String) : Prop :=
  signed = "@" ++ bare ∧ IsExtended bare

/-- Two names of which one is the signed form of the other. -/
def Together (name other : String) : Prop :=
  IsSigned name other ∨ IsSigned other name

/-- A bare name and its signed form have one key. -/
theorem IsSigned.indexed_eq {bare signed : String} (form : IsSigned bare signed) :
    indexed bare = indexed signed := by
  obtain ⟨rfl, extended⟩ := form
  rw [indexed_of_isExtended extended, indexed_of_not_isExtended (not_isExtended_at bare)]

/-- Names have one key exactly if they are the same or one is the signed form of the other. -/
theorem indexed_eq_indexed_iff {name other : String} :
    indexed name = indexed other ↔ name = other ∨ Together name other := by
  constructor
  · intro same
    by_cases extended : IsExtended name
    · rw [indexed_of_isExtended extended] at same
      by_cases otherExtended : IsExtended other
      · rw [indexed_of_isExtended otherExtended] at same
        exact Or.inl (String.append_right_inj _ |>.mp same)
      · rw [indexed_of_not_isExtended otherExtended] at same
        exact Or.inr (Or.inl ⟨same.symm, extended⟩)
    · rw [indexed_of_not_isExtended extended] at same
      by_cases otherExtended : IsExtended other
      · rw [indexed_of_isExtended otherExtended] at same
        exact Or.inr (Or.inr ⟨same, otherExtended⟩)
      · rw [indexed_of_not_isExtended otherExtended] at same
        exact Or.inl same
  · rintro (rfl | form | form)
    · rfl
    · exact form.indexed_eq
    · exact form.indexed_eq.symm

/-- Of two names that come together exactly one is bare. -/
theorem Together.isExtended_iff {name other : String} (pair : Together name other) :
    IsExtended name ↔ ¬ IsExtended other := by
  rcases pair with ⟨rfl, extended⟩ | ⟨rfl, extended⟩
  · exact iff_of_true extended (not_isExtended_at name)
  · exact iff_of_false (not_isExtended_at other) (not_not_intro extended)

/-- Names that all come together with each other are two at most: of three, two would be bare or two
would be signed. -/
theorem length_le_two_of_together {names : List String} (pairs : names.Pairwise Together) :
    names.length ≤ 2 := by
  match names, pairs with
  | [], _ => exact Nat.zero_le 2
  | [_], _ => exact Nat.le_succ 1
  | [_, _], _ => exact Nat.le_refl 2
  | first :: second :: third :: rest, pairs =>
      obtain ⟨withFirst, pairs⟩ := List.pairwise_cons.mp pairs
      obtain ⟨withSecond, -⟩ := List.pairwise_cons.mp pairs
      -- exactly one of every two is bare, which three names cannot share out
      have firstSecond := (withFirst second (by simp)).isExtended_iff
      have firstThird := (withFirst third (by simp)).isExtended_iff
      have secondThird := (withSecond third (by simp)).isExtended_iff
      tauto

end Field

namespace Params

variable {params : Params} {consumed : List String}

/-- A filter has the name of its parameter, and searches the key of that name. -/
theorem eq_ofParam_of_entry {entry : String × String} {field : FilterField}
    (made : FilterField.ofEntry? entry = some field) : field = FilterField.ofParam entry := by
  rw [FilterField.ofEntry?_eq, Option.ite_none_right_eq_some] at made
  exact (Option.some.inj made.2).symm

/-- The names of the filters that search one field. -/
def namesOn (params : Params) (consumed : List String) (key : String) : List String :=
  ((params.filterFields consumed).filter fun field => field.storageKey = key).map FilterField.param

theorem storageKey_of_mem_filterFields {field : FilterField}
    (present : field ∈ params.filterFields consumed) :
    field.storageKey = Field.indexed field.param := by
  obtain ⟨entry, -, made⟩ := List.mem_filterMap.mp present
  rw [eq_ofParam_of_entry made]
  rfl

/-- The filters of a request have different names. -/
theorem pairwise_filterFields (params : Params) (consumed : List String) :
    (params.filterFields consumed).Pairwise fun field other => field.param ≠ other.param := by
  have apart : params.entries.Pairwise fun entry other => entry.1 ≠ other.1 :=
    List.pairwise_map.mp params.distinct
  refine List.pairwise_filterMap.mpr ((apart.filter _).imp ?_)
  intro entry other ne field made otherField otherMade
  rw [eq_ofParam_of_entry made, eq_ofParam_of_entry otherMade]
  exact ne

/-- The filters that search one field come together in pairs. -/
theorem pairwise_namesOn (params : Params) (consumed : List String) (key : String) :
    (params.namesOn consumed key).Pairwise Field.Together := by
  have apart := (pairwise_filterFields params consumed).filter fun field => field.storageKey = key
  refine List.pairwise_map.mpr (apart.imp_of_mem ?_)
  intro field other present otherPresent ne
  have known (field : FilterField) (present : field ∈ (params.filterFields consumed).filter
      fun field => field.storageKey = key) : Field.indexed field.param = key := by
    obtain ⟨inFields, onKey⟩ := List.mem_filter.mp present
    rw [← storageKey_of_mem_filterFields inFields]
    exact of_decide_eq_true onKey
  have same := (known field present).trans (known other otherPresent).symm
  exact (Field.indexed_eq_indexed_iff.mp same).resolve_left ne

end Params

namespace Field

/-- Two names that filter are looked up under one key exactly if they are the same or one of them is the
other with the sign of an index in front, the other one beginning with an action whose decoded fields
are indexed. So any filters of a request that search one field are two at most, and then such a
pair. -/
theorem storageKey?_eq_iff {name other : String} (filters : IsFilter name)
    (alsoFilters : IsFilter other) :
    (storageKey? name = storageKey? other ↔
      name = other ∨ IsSigned name other ∨ IsSigned other name) ∧
    ∀ (params : Params) (consumed : List String) (key : String),
      (params.namesOn consumed key).Pairwise Together ∧
        (params.namesOn consumed key).length ≤ 2 := by
  constructor
  · rw [storageKey?_eq, storageKey?_eq, if_pos filters, if_pos alsoFilters, Option.some_inj]
    exact indexed_eq_indexed_iff
  · intro params consumed key
    have pairs := params.pairwise_namesOn consumed key
    exact ⟨pairs, length_le_two_of_together pairs⟩

/-- A request that names one field in both ways, and another one beside it whose name begins alike. -/
def doubledRequest : Params :=
  .ofPairs [("buyram.payer", "bob"), ("buyrambytes.payer", "carol"), ("@buyram.payer", "!eve")]

/-- Its first and its last filter search one field, and no other two do. -/
theorem doubledRequest_together :
    storageKey? "buyram.payer" = storageKey? "@buyram.payer" ∧
      storageKey? "buyram.payer" ≠ storageKey? "buyrambytes.payer" ∧
      doubledRequest.namesOn [] "@buyram.payer" = ["buyram.payer", "@buyram.payer"] ∧
      (doubledRequest.namesOn [] "@buyram.payer").length ≤ 2 := by
  have bare : IsFilter "buyram.payer" := by decide +kernel
  have signed : IsFilter "@buyram.payer" := by decide +kernel
  have longer : IsFilter "buyrambytes.payer" := by decide +kernel
  obtain ⟨same, few⟩ := storageKey?_eq_iff bare signed
  obtain ⟨apart, -⟩ := storageKey?_eq_iff bare longer
  refine ⟨same.mpr (Or.inr (Or.inl ⟨by decide +kernel, by decide +kernel⟩)), ?_, by decide +kernel,
    (few doubledRequest [] "@buyram.payer").2⟩
  rw [Ne, apart]
  rintro (equal | ⟨equal, -⟩ | ⟨equal, -⟩) <;> exact absurd equal (by decide +kernel)

end Field

end TransferHistory
