import TransferHistory.Proofs.Ordered.Collecting
import TransferHistory.Proofs.Query.Isolation

/-!
# Canonical requests

A request may name a filter as it is stored, and may give its times with their mark. The canonical form
of a request does both, parameter by parameter and each in its place. It asks for the same as the
request, unless two of its parameters come to have one name.

Results:
1. `Field.indexed_indexed`, `Field.isFilter_indexed`: the key of a filter is a filter and its own key.
2. `Params.canonicalEntry_canonicalEntry`: a parameter in its canonical form stays as it is.
3. `Params.get?_canonical`, `Params.filters_canonical`: what is looked up in a canonical request.
4. `BooleanQuery.ofFilters_canonical`, `Window.clause?_canonical`: the clauses of a canonical request.
5. `CompiledQuery.canonical_same`: a canonical request is compiled to the same query.
-/

namespace TransferHistory

/-! ## Names -/

namespace Field

theorem toList_at (name : String) : ("@" ++ name).toList = '@' :: name.toList := by
  simp

/-- No action that is indexed begins with the sign of an index. -/
theorem not_isExtended_at (name : String) : ¬ IsExtended ("@" ++ name) := by
  have unsigned : ∀ action ∈ extendedActions, action.toList.head? ≠ some '@' := by decide +kernel
  rintro ⟨-, action⟩
  rw [toList_at, Text.upTo_cons_of_ne (by decide)] at action
  exact unsigned _ action (by simp)

theorem indexed_of_isExtended {name : String} (extended : IsExtended name) :
    indexed name = "@" ++ name :=
  if_pos extended

theorem indexed_of_not_isExtended {name : String} (plain : ¬ IsExtended name) :
    indexed name = name :=
  if_neg plain

/-- The key of a filter is stored under itself. -/
theorem indexed_indexed (name : String) : indexed (indexed name) = indexed name := by
  by_cases extended : IsExtended name
  · rw [indexed_of_isExtended extended, indexed_of_not_isExtended (not_isExtended_at name)]
  · rw [indexed_of_not_isExtended extended, indexed_of_not_isExtended extended]

theorem isFilter_of_isExtended {name : String} (extended : IsExtended name) : IsFilter name :=
  Or.inl extended.1

/-- A name that does not filter has no other key. -/
theorem indexed_of_not_isFilter {name : String} (plain : ¬ IsFilter name) : indexed name = name :=
  indexed_of_not_isExtended fun extended => plain (isFilter_of_isExtended extended)

theorem isFilter_indexed {name : String} : IsFilter (indexed name) ↔ IsFilter name := by
  by_cases extended : IsExtended name
  · have dotted : '.' ∈ ("@" ++ name).toList := by
      rw [toList_at]
      exact List.mem_cons_of_mem _ extended.1
    rw [indexed_of_isExtended extended]
    exact iff_of_true (Or.inl dotted) (isFilter_of_isExtended extended)
  · rw [indexed_of_not_isExtended extended]

/-- A name that does not filter is the key of nothing but itself. -/
theorem indexed_eq_iff {name other : String} (plain : ¬ IsFilter name) :
    indexed other = name ↔ other = name := by
  constructor
  · rintro rfl
    rw [isFilter_indexed] at plain
    exact (indexed_of_not_isFilter plain).symm
  · rintro rfl
    exact indexed_of_not_isFilter plain

theorem getD_storageKey? (name : String) : (storageKey? name).getD name = indexed name := by
  rw [storageKey?_eq]
  by_cases filters : IsFilter name
  · rw [if_pos filters, Option.getD_some]
  · rw [if_neg filters, Option.getD_none, indexed_of_not_isFilter filters]

end Field

/-! ## Times -/

namespace Window

/-- The parameters that give a time. -/
def bounds : List String := ["after", "before"]

theorem not_isFilter_of_mem_bounds : ∀ name ∈ bounds, ¬ Field.IsFilter name := by
  decide +kernel

theorem inUtc_inUtc (time : String) : inUtc (inUtc time) = inUtc time := by
  by_cases marked : time.toList.getLast? = some 'Z'
  · simp [inUtc, marked]
  · simp [inUtc, marked]

theorem inUtc_ne_empty {time : String} (given : time ≠ "") : inUtc time ≠ "" := by
  unfold inUtc
  split
  · exact given
  · intro same
    simpa using congrArg String.toList same

end Window

/-! ## Parameters -/

namespace Params

/-- The canonical text of a parameter: a time that is not empty has its mark. -/
def canonicalText (name text : String) : String :=
  if name ∈ Window.bounds ∧ text ≠ "" then Window.inUtc text else text

/-- A parameter in its canonical form: a filter under the key it is stored under, a time with its
mark. -/
def canonicalEntry (entry : String × String) : String × String :=
  ((Field.storageKey? entry.1).getD entry.1, canonicalText entry.1 entry.2)

/-- A request with every parameter in its canonical form, each in its place. -/
def canonical (params : Params) : Params :=
  ofPairs (params.entries.map canonicalEntry)

theorem canonicalText_of_not_mem {name : String} (other : name ∉ Window.bounds) (text : String) :
    canonicalText name text = text :=
  if_neg fun bound => other bound.1

theorem canonicalText_of_mem {name text : String} (bound : name ∈ Window.bounds)
    (given : text ≠ "") : canonicalText name text = Window.inUtc text :=
  if_pos ⟨bound, given⟩

theorem canonicalText_eq_empty_iff {name text : String} : canonicalText name text = "" ↔ text = "" := by
  unfold canonicalText
  split
  case isTrue bound => exact iff_of_false (Window.inUtc_ne_empty bound.2) bound.2
  case isFalse => rfl

theorem canonicalText_canonicalText (name text : String) :
    canonicalText name (canonicalText name text) = canonicalText name text := by
  by_cases bound : name ∈ Window.bounds ∧ text ≠ ""
  · rw [canonicalText_of_mem bound.1 bound.2,
      canonicalText_of_mem bound.1 (Window.inUtc_ne_empty bound.2), Window.inUtc_inUtc]
  · have plain : canonicalText name text = text := if_neg bound
    rw [plain, plain]

theorem canonicalEntry_eq (entry : String × String) :
    canonicalEntry entry = (Field.indexed entry.1, canonicalText entry.1 entry.2) := by
  rw [canonicalEntry, Field.getD_storageKey?]

/-- Whether a parameter gives a time can be seen from its key. -/
theorem canonicalText_indexed (name : String) : canonicalText (Field.indexed name) = canonicalText name := by
  by_cases filters : Field.IsFilter name
  · have plain : name ∉ Window.bounds := fun bound => Window.not_isFilter_of_mem_bounds name bound filters
    have keyPlain : Field.indexed name ∉ Window.bounds := fun bound =>
      Window.not_isFilter_of_mem_bounds _ bound (Field.isFilter_indexed.mpr filters)
    funext text
    rw [canonicalText_of_not_mem plain, canonicalText_of_not_mem keyPlain]
  · rw [Field.indexed_of_not_isFilter filters]

/-- A parameter in its canonical form stays as it is. -/
theorem canonicalEntry_canonicalEntry (entry : String × String) :
    canonicalEntry (canonicalEntry entry) = canonicalEntry entry := by
  rw [canonicalEntry_eq entry, canonicalEntry_eq, Field.indexed_indexed, canonicalText_indexed,
    canonicalText_canonicalText]

/-- A request in its canonical form stays as it is. -/
theorem canonical_canonical (params : Params) : params.canonical.canonical = params.canonical := by
  have kept : params.canonical.entries.map canonicalEntry = params.canonical.entries := by
    refine (List.map_congr_left fun entry present => ?_).trans (List.map_id' _)
    rcases Ordered.mem_of_mem_setAll present with none | known
    · exact absurd none List.not_mem_nil
    · obtain ⟨source, -, rfl⟩ := List.mem_map.mp known
      exact canonicalEntry_canonicalEntry source
  apply eq_of_entries
  show Ordered.ofPairs (params.canonical.entries.map canonicalEntry) = params.canonical.entries
  rw [kept, Ordered.ofPairs_of_distinct params.canonical.distinct]

end Params

/-! ## What is looked up -/

/-- Parameters under their canonical names are all different. -/
def Params.Separate (params : Params) : Prop :=
  Ordered.Distinct (params.entries.map Params.canonicalEntry)

instance (params : Params) : Decidable params.Separate :=
  inferInstanceAs (Decidable (List.Nodup _))

namespace Params

variable {params : Params}

theorem entries_canonical (separate : params.Separate) :
    params.canonical.entries = params.entries.map canonicalEntry :=
  Ordered.ofPairs_of_distinct separate

/-- A parameter that is no filter is looked up under its own name. -/
theorem get?_canonical (separate : params.Separate) {name : String}
    (plain : ¬ Field.IsFilter name) :
    params.canonical.get? name = (params.get? name).map (canonicalText name) := by
  have found : params.canonical.entries.get? name =
      (params.entries.get? name).map (canonicalText name) := by
    rw [entries_canonical separate]
    apply Ordered.get?_map
    · intro entry
      rw [canonicalEntry_eq]
      exact Field.indexed_eq_iff plain
    · rintro entry rfl
      rw [canonicalEntry_eq]
  unfold get?
  rw [found]
  cases params.entries.get? name with
  | none => rfl
  | some text =>
      by_cases empty : text = ""
      · have stays : canonicalText name "" = "" := canonicalText_eq_empty_iff.mpr rfl
        simp [Option.filter, empty, stays]
      · simp [Option.filter, empty, canonicalText_eq_empty_iff]

theorem agree_canonical (separate : params.Separate) {names : List String}
    (plain : ∀ name ∈ names, ¬ Field.IsFilter name ∧ name ∉ Window.bounds) :
    Agree names params.canonical params := by
  intro name present
  obtain ⟨unfiltered, timeless⟩ := plain name present
  have kept : canonicalText name = id := funext (canonicalText_of_not_mem timeless)
  rw [get?_canonical separate unfiltered, kept, Option.map_id, id]

theorem filters_canonical (separate : params.Separate) :
    params.canonical.filters = params.filters.map canonicalEntry := by
  unfold filters
  rw [entries_canonical separate, List.filter_map]
  congr 1
  apply List.filter_congr
  intro entry _
  rw [Function.comp, canonicalEntry_eq]
  exact decide_eq_decide.mpr Field.isFilter_indexed

end Params

/-! ## What is asked for -/

/-- A filter asks for the same under its key. -/
theorem BooleanQuery.ofFilter_canonicalEntry {entry : String × String}
    (filters : Field.IsFilter entry.1) :
    ofFilter (Params.canonicalEntry entry) = ofFilter entry := by
  have timeless : entry.1 ∉ Window.bounds := fun bound =>
    Window.not_isFilter_of_mem_bounds entry.1 bound filters
  unfold ofFilter
  rw [Params.canonicalEntry_eq, Params.canonicalText_of_not_mem timeless, Field.indexed_indexed]

theorem BooleanQuery.ofFilters_canonical {entries : List (String × String)}
    (filters : ∀ entry ∈ entries, Field.IsFilter entry.1) :
    ofFilters (entries.map Params.canonicalEntry) = ofFilters entries := by
  induction entries with
  | nil => rfl
  | cons entry rest ih =>
      obtain ⟨first, others⟩ := List.forall_mem_cons.mp filters
      rw [List.map_cons, ofFilters_cons, ofFilters_cons, ofFilter_canonicalEntry first, ih others]

theorem Params.isFilter_of_mem_filters {params : Params} :
    ∀ entry ∈ params.filters, Field.IsFilter entry.1 :=
  fun _ present => of_decide_eq_true (List.mem_filter.mp present).2

/-- The window of a request does not change where its times get their marks before. -/
theorem Window.clause?_canonical {params : Params} (separate : params.Separate) :
    clause? params.canonical = clause? params := by
  have marked {name : String} (bound : name ∈ bounds) :
      params.canonical.get? name = (params.get? name).map inUtc := by
    rw [Params.get?_canonical separate (not_isFilter_of_mem_bounds name bound)]
    cases given : params.get? name with
    | none => rfl
    | some time =>
        have filled := (Params.get?_eq_some_iff.mp given).2
        rw [Option.map_some, Option.map_some, Params.canonicalText_of_mem bound filled]
  unfold clause?
  rw [marked (by decide), marked (by decide)]
  cases params.get? "after" with
  | none =>
      cases params.get? "before" with
      | none => rfl
      | some before => simp [inUtc_inUtc]
  | some after =>
      cases params.get? "before" with
      | none => simp [inUtc_inUtc]
      | some before => simp [inUtc_inUtc]

namespace CompiledQuery

/-- A request whose parameters have different names in their canonical form is compiled to the same
query in that form, or refused with the same error. Its parameters stand there under their keys, in
their places and with their marks, and it is in its canonical form already. -/
theorem canonical_same {params : Params} (separate : params.Separate) :
    ofParams params.canonical = ofParams params ∧
      params.canonical.entries = params.entries.map Params.canonicalEntry ∧
      params.canonical.canonical = params.canonical := by
  refine ⟨?_, Params.entries_canonical separate, params.canonical_canonical⟩
  -- Page, track and order only look up names that are no filters and no times: these agree.
  apply ofParams_eq_of_query
  · exact Params.agree_canonical separate (by decide +kernel)
  · have shortcuts : params.canonical.shortcutClauses = params.shortcutClauses :=
      Params.shortcutClauses_congr (Params.agree_canonical separate (by decide +kernel))
    rw [BooleanQuery.ofParams_eq, BooleanQuery.ofParams_eq, shortcuts,
      Window.clause?_canonical separate, Params.filters_canonical separate,
      BooleanQuery.ofFilters_canonical Params.isFilter_of_mem_filters]

/-- A request with one filter under its key already, and a time without its mark. -/
def roughRequest : Params :=
  .ofPairs [("after", "2021-01-01"), ("transfer.to", "bob,!eve"), ("before", ""),
    ("@buyram.payer", "carol"), ("skip", "2x")]

/-- The compiled form of `roughRequest`. -/
def roughCompiled : CompiledQuery where
  page := { skip := 2 }
  track := .upTo 10000
  query :=
    { must := [.term "@transfer.to" "bob", .term "@buyram.payer" "carol"]
      mustNot := [.term "@transfer.to" "eve"]
      filter := [.range "@timestamp" "2021-01-01Z" "now"] }
  sort := ⟨"global_sequence", "desc"⟩

/-- The canonical form of the request says the same, and saying it twice would be another query. -/
theorem roughRequest_canonical :
    roughRequest.Separate ∧ ofParams roughRequest.canonical = .ok roughCompiled ∧
      roughRequest.canonical.entries =
        [("after", "2021-01-01Z"), ("@transfer.to", "bob,!eve"), ("before", ""),
          ("@buyram.payer", "carol"), ("skip", "2x")] ∧
      ¬ (roughRequest.set "@transfer.to" "dan").Separate := by
  have separate : roughRequest.Separate := by decide +kernel
  have accepted : ofParams roughRequest = .ok roughCompiled := by decide +kernel
  obtain ⟨same, entries, -⟩ := canonical_same separate
  exact ⟨separate, same.trans accepted, entries.trans (by decide +kernel), by decide +kernel⟩

end CompiledQuery

end TransferHistory
