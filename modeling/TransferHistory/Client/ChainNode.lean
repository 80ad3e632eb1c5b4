import TransferHistory.Client.SearchService
import TransferHistory.Search.Engine

/-!
# The chain node over HTTP

The node is asked for its state, of which only the number of the last irreversible block counts. It
has to be there once, as an unsigned integer of 64 bits; a list of just that number is taken as well.
What else the node tells need only be well written, byte by byte; the names in its state are texts.
-/

namespace TransferHistory.Client

/-- How the chain node is called. -/
structure ChainNode where
  base : String
  deriving DecidableEq, Repr

namespace ChainNode

/-- The node that the settings describe. -/
def ofSettings (settings : NodeSettings) : ChainNode where
  base := settings.url

/-- What is below the base address. -/
def resource : String := "/v1/chain/get_info"

/-- The member that holds the number of the last irreversible block. -/
def member : String := "last_irreversible_block_num"

/-- The call, if the node can be called. -/
def call? (node : ChainNode) : Option Call :=
  (address? node.base resource).map Call.ofUrl

/-- A value as an unsigned integer of 64 bits. -/
def word64? : Json.Written → Option UInt64
  | .number text =>
      match text.number? with
      | some (.int value) => if 0 ≤ value then some (UInt64.ofNat value.toNat) else none
      | _ => none
  | _ => none

/-- The elements of a text whose characters are bytes, behind a run of such bytes, the last one
first. -/
def itemsAfter? (run : List UInt8) : List Json.TextItem → Option (List Json.TextItem)
  | [] => (Text.Utf8.decodeStrict run.reverse).map (List.map .char)
  | .char c :: rest => itemsAfter? (UInt8.ofNat c.toNat :: run) rest
  | .unit code :: rest => do
      let characters ← Text.Utf8.decodeStrict run.reverse
      let items ← itemsAfter? [] rest
      return characters.map .char ++ .unit code :: items

/-- The name of a member, taken apart byte by byte. -/
def name? (items : List Json.TextItem) : Option String :=
  (itemsAfter? [] items).bind Json.text?

/-- The number of the last irreversible block in the state of a node. -/
def lib? : Json.Written → Option UInt64
  | .object members => do
      let named ← members.mapM fun (name, value) => (name? name).map fun name => (name, value)
      match named.filter fun entry => entry.1 = member with
      | [(_, value)] => word64? value
      | _ => none
  | .array [value] => word64? value
  | _ => none

/-- The number in an answer. -/
def readAnswer (answer : Answer) : Except Failure UInt64 :=
  if answer.isSuccess then
    match answer.bytewise?.bind lib? with
    | some lib => .ok lib
    | none => .error (.malformed .undecodable)
  else .error answer.failure

/-- The last irreversible block. -/
def lastIrreversible (node : ChainNode) (network : Network) : Exchange UInt64 :=
  exchange network node.call? readAnswer fun _ => []

end ChainNode

/-- The collaborators that the settings describe. -/
def collaborators (config : Config) (network : Network) (arrival : Arrival) : Collaborators where
  backendName := SearchService.name
  search request := ((SearchService.ofSettings config.elastic).search network request).result
  node := ((ChainNode.ofSettings config.node).lastIrreversible network).result
  arrival := arrival

end TransferHistory.Client
