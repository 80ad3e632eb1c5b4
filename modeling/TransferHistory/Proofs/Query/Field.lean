import TransferHistory.Proofs.Text.Split
import TransferHistory.Query.Field

/-!
# Which parameters filter

The rule of filter parameters, said on their names: a name filters if it has a dot or is a primary
field (`Field.IsFilter`), and what is then searched is the field `Field.indexed`. Stages report only
names that do not filter, so that what they report never takes a filter away (`filterFields_eq`).
-/

namespace TransferHistory

namespace Field

/-- A parameter of this name filters records. -/
def IsFilter (name : String) : Prop :=
  '.' ∈ name.toList ∨ name ∈ primary

instance (name : String) : Decidable (IsFilter name) :=
  inferInstanceAs (Decidable (_ ∨ _))

/-- The name begins with an action whose decoded fields are indexed, and a dot. -/
def IsExtended (name : String) : Prop :=
  '.' ∈ name.toList ∧ String.ofList (Text.upTo '.' name.toList) ∈ extendedActions

instance (name : String) : Decidable (IsExtended name) :=
  inferInstanceAs (Decidable (_ ∧ _))

/-- The indexed field that a filter parameter stands for. -/
def indexed (name : String) : String :=
  if IsExtended name then "@" ++ name else name

theorem storageKey?_eq (name : String) :
    storageKey? name = if IsFilter name then some (indexed name) else none := by
  unfold storageKey?
  rw [Text.cut_eq]
  by_cases dot : '.' ∈ name.toList
  · have filters : IsFilter name := Or.inl dot
    by_cases action : String.ofList (Text.upTo '.' name.toList) ∈ extendedActions
    · simp [dot, action, filters, indexed, IsExtended]
    · simp [dot, action, filters, indexed, IsExtended]
  · have plain : indexed name = name := by simp [indexed, IsExtended, dot]
    simp [dot, IsFilter, plain]

end Field

/-- A filter parameter with the field it stands for. -/
def FilterField.ofParam (entry : String × String) : FilterField :=
  ⟨entry.1, Field.indexed entry.1, entry.2⟩

theorem FilterField.ofEntry?_eq (entry : String × String) :
    FilterField.ofEntry? entry = if Field.IsFilter entry.1 then some (ofParam entry) else none := by
  unfold FilterField.ofEntry?
  rw [Field.storageKey?_eq]
  split <;> rfl

/-- The parameters that filter, in order. -/
def Params.filters (params : Params) : List (String × String) :=
  params.entries.filter fun entry => decide (Field.IsFilter entry.1)

/-- Names that do not filter take no filter away. -/
theorem Params.filterFields_eq {params : Params} {consumed : List String}
    (apart : ∀ name ∈ consumed, ¬ Field.IsFilter name) :
    params.filterFields consumed = params.filters.map FilterField.ofParam := by
  unfold Params.filterFields Params.filters
  simp only [List.contains_eq_mem]
  induction params.entries with
  | nil => rfl
  | cons entry rest ih =>
      rw [List.filter_cons, List.filter_cons]
      by_cases filters : Field.IsFilter entry.1
      · have left : entry.1 ∉ consumed := fun reported => apart entry.1 reported filters
        simp [left, filters, FilterField.ofEntry?_eq entry, ih]
      · by_cases reported : entry.1 ∈ consumed
        · simp [reported, filters, ih]
        · simp [reported, filters, FilterField.ofEntry?_eq entry, ih]

end TransferHistory
