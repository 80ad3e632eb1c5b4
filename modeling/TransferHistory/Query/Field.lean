import TransferHistory.Query.Params
import TransferHistory.Text.Split

/-!
# Filter fields

A parameter filters records when its name is qualified, that is, has a dot, or is one of the primary
fields of a record. The decoded fields of some actions are indexed under `@<action>`; a name that
begins with such an action is stored under that key.
-/

namespace TransferHistory

namespace Field

/-- The fields of a record that may be filtered by their bare names. -/
def primary : List String :=
  ["notified", "block_num", "global_sequence", "producer", "@timestamp",
    "creator_action_ordinal", "action_ordinal", "cpu_usage_us", "net_usage_words", "trx_id"]

/-- The actions whose decoded fields are indexed. -/
def extendedActions : List String :=
  ["transfer", "newaccount", "updateauth", "buyram", "buyrambytes", "delegatebw", "undelegatebw"]

/-- The key under which a name is stored, if it filters at all. -/
def storageKey? (name : String) : Option String :=
  match Text.cut '.' name.toList with
  | (space, some _) =>
      if String.ofList space ∈ extendedActions then some ("@" ++ name) else some name
  | (_, none) => if name ∈ primary then some name else none

end Field

/-- A parameter that filters: its name, the key it is stored under, and its expression. -/
structure FilterField where
  param : String
  storageKey : String
  value : String
  deriving DecidableEq, Repr

/-- A parameter as a filter, if it filters at all. -/
def FilterField.ofEntry? (entry : String × String) : Option FilterField :=
  (Field.storageKey? entry.1).map fun key => ⟨entry.1, key, entry.2⟩

/-- The filters of a request that earlier stages have left, in order. -/
def Params.filterFields (params : Params) (consumed : List String) : List FilterField :=
  (params.entries.filter fun entry => !consumed.contains entry.1).filterMap FilterField.ofEntry?

end TransferHistory
