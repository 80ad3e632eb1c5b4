import TransferHistory.Record.Enrichment
import TransferHistory.Record.Shortening

/-!
# Projection

A page of records is answered in one of two forms: compact rows, or the full enriched records. Both
keep the number and the order of the records. A row says whether its block is irreversible only when
the last irreversible block is known.
-/

namespace TransferHistory

/-- One record in compact form. -/
structure Row where
  block : UInt64
  irreversible : Option Bool
  timestamp : String
  transactionId : String
  actors : String
  notified : String
  contract : String
  action : String
  data : Json
  deriving DecidableEq, Repr

/-- Records in the form in which they are answered. -/
inductive Projection where
  | simple (rows : List Row)
  | full (records : List Record)
  deriving DecidableEq, Repr

/-- How to answer: compactly or in full, with long payload texts cut or not, and against which last
irreversible block, if any. -/
structure ProjectionOptions where
  simple : Bool := true
  noBinary : Bool := false
  lib : Option UInt64 := none
  deriving DecidableEq, Repr

/-- The compact form of a record. -/
def Record.toRow (lib : Option UInt64) (record : Record) : Row where
  block := record.blockNum
  irreversible := lib.map fun last => decide (record.blockNum < last)
  timestamp := record.timestamp
  transactionId := record.trxId
  actors := record.actors
  notified := ",".intercalate record.notified
  contract := record.act.account
  action := record.act.name
  data := record.act.data

namespace ProjectionOptions

/-- What a record goes through before it is answered. -/
def prepare (options : ProjectionOptions) (record : Record) : Record :=
  if options.noBinary then record.enrich.shorten else record.enrich

/-- Records in the form asked for. -/
def project (options : ProjectionOptions) (records : List Record) : Projection :=
  let prepared := records.map options.prepare
  if options.simple then .simple (prepared.map (Record.toRow options.lib)) else .full prepared

end ProjectionOptions

/-- A row as a value. -/
def Row.toJson (row : Row) : Json :=
  .object ([("block", Json.ofWord64 row.block)] ++
    (row.irreversible.map fun known => ("irreversible", Json.bool known)).toList ++
    [("timestamp", .string row.timestamp), ("transaction_id", .string row.transactionId),
      ("actors", .string row.actors), ("notified", .string row.notified),
      ("contract", .string row.contract), ("action", .string row.action), ("data", row.data)])

namespace Projection

/-- The number of records. -/
def size : Projection → Nat
  | .simple rows => rows.length
  | .full records => records.length

/-- The records, each as a value. -/
def items : Projection → List Json
  | .simple rows => rows.map Row.toJson
  | .full records => records.map Record.toJson

/-- The member under which the records are answered. -/
def label : Projection → String
  | .simple _ => "simple_actions"
  | .full _ => "actions"

/-- The records as the one member that an answer holds. -/
def toMembers (projection : Projection) : Json.Members :=
  [(projection.label, .array projection.items)]

end Projection

theorem ProjectionOptions.size_project (options : ProjectionOptions) (records : List Record) :
    (options.project records).size = records.length := by
  cases h : options.simple <;> simp [project, h, Projection.size]

end TransferHistory
