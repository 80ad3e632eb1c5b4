import TransferHistory.Ordered
import TransferHistory.Query.Error
import TransferHistory.Query.LeadingInt

/-!
# Request parameters

The parameters of a request are named texts, each name once, in the order in which the names first
came. Looking a parameter up treats an empty text as missing; walking through all of them does not.
-/

namespace TransferHistory

/-- The parameters of a request. -/
structure Params where
  entries : Ordered String
  distinct : entries.Distinct
  deriving DecidableEq

namespace Params

theorem eq_of_entries {first second : Params} (same : first.entries = second.entries) :
    first = second := by
  cases first
  cases second
  cases same
  rfl

/-- No parameters. -/
def empty : Params := ⟨[], by simp [Ordered.Distinct, Ordered.names]⟩

/-- The parameters of a list of pairs: a repeated name keeps its first place and its last value. -/
def ofPairs (pairs : List (String × String)) : Params :=
  ⟨.ofPairs pairs, Ordered.distinct_ofPairs pairs⟩

/-- One parameter set. -/
def set (name value : String) (params : Params) : Params :=
  ⟨params.entries.set name value, Ordered.distinct_set params.distinct⟩

/-- The number of parameters. -/
def size (params : Params) : Nat :=
  params.entries.length

/-- The text of a parameter, if it has one that is not empty. -/
def get? (name : String) (params : Params) : Option String :=
  (params.entries.get? name).filter (· ≠ "")

theorem get?_eq_some_iff {params : Params} {name value : String} :
    params.get? name = some value ↔ params.entries.get? name = some value ∧ value ≠ "" := by
  unfold get?
  rw [Option.filter_eq_some_iff, decide_eq_true_eq]

/-- A parameter has a text that is not empty. -/
def contains (name : String) (params : Params) : Bool :=
  (params.get? name).isSome

/-- The leading integer of a parameter. -/
def int? (name : String) (params : Params) : Option Int :=
  (params.get? name).bind fun text => LeadingInt.ofText? text.toList

/-- A parameter that switches something on or off. -/
def flag (name : String) (default : Bool) (params : Params) : Except QueryError Bool :=
  match params.get? name with
  | none => .ok default
  | some "true" | some "1" => .ok true
  | some "false" | some "0" => .ok false
  | some _ => .error (.invalidFlag name)

end Params

/-- The switches that shape a response: compact records, records marked against the last
irreversible block, and payloads without long texts. -/
structure ResponseFlags where
  simple : Bool := true
  checkLib : Bool := false
  noBinary : Bool := false
  deriving DecidableEq, Repr

/-- The switches of a request. The first bad one is reported. -/
def ResponseFlags.ofParams (params : Params) : Except QueryError ResponseFlags := do
  return {
    simple := ← params.flag "simple" true
    checkLib := ← params.flag "checkLib" false
    noBinary := ← params.flag "noBinary" false }

end TransferHistory
