import TransferHistory.Proofs.Record.Reading
import TransferHistory.Record.Projection
import TransferHistory.ResultEq

/-!
# Records between reading and writing

Before it is answered a record may be enriched and shortened, in any order and any number of times.
No such step touches the names that make a record readable, so every record that can be reached from
a source is read back from what it is written as.

The derived member that enrichment takes out is named after the action. Nothing keeps that name from
being the name of a field, as with an action `timestamp`; but no other member has such a name.

Results:
1. `Record.separate_after`: every record that can be reached is separate.
2. `Record.rereadable_after`: it is written without a repeated name and read back as it is.
-/

namespace TransferHistory

open Ordered (Distinct names)

namespace Record

/-- What may be done to a record before it is answered. -/
inductive Step where
  | enrich
  | shorten
  deriving DecidableEq, Repr

/-- A record after one step. -/
def apply (record : Record) : Step → Record
  | .enrich => record.enrich
  | .shorten => record.shorten

/-- A record after some steps, in order. -/
def after (record : Record) (steps : List Step) : Record :=
  steps.foldl apply record

theorem separate_foldDecoded {record : Record} (separate : record.Separate) :
    record.foldDecoded.Separate := by
  unfold foldDecoded
  split
  · exact ⟨separate.extra.takeOut record.decodedName, separate.act⟩
  · exact separate

theorem separate_enrich {record : Record} (separate : record.Separate) :
    record.enrich.Separate := by
  have folded := separate_foldDecoded separate
  have free : "timestamp" ∉ Record.fields := by decide
  exact ⟨folded.extra.set free _, folded.act⟩

theorem separate_shorten {record : Record} (separate : record.Separate) :
    record.shorten.Separate :=
  ⟨separate.extra, separate.act⟩

theorem separate_apply {record : Record} (separate : record.Separate) (step : Step) :
    (record.apply step).Separate := by
  cases step with
  | enrich => exact separate_enrich separate
  | shorten => exact separate_shorten separate

theorem separate_after {record : Record} (separate : record.Separate) (steps : List Step) :
    (record.after steps).Separate := by
  induction steps generalizing record with
  | nil => exact separate
  | cons step rest ih => exact ih (separate_apply separate step)

/-- A record that is read from a source and then enriched and shortened in any order keeps the names
of its other members apart from those of the fields, at the top and in the action. It is written as an
object in which no name is repeated at either level, and that object is read as the same record. -/
theorem rereadable_after {source : Json} {record : Record} (read : ofSource? source = .ok record)
    (steps : List Step) :
    (∀ name ∈ names (record.after steps).extra, name ∉ Record.fields) ∧
      (∀ name ∈ names (record.after steps).act.extra, name ∉ Action.fields) ∧
      (∃ members inner, (record.after steps).toJson = .object members ∧ Distinct members ∧
        Ordered.get? "act" members = some (.object inner) ∧ Distinct inner) ∧
      ofSource? (record.after steps).toJson = .ok (record.after steps) := by
  have separate := separate_after (separate_of_ofSource? read) steps
  obtain ⟨members, written, once, act⟩ := distinct_toJson separate
  obtain ⟨inner, same, innerOnce⟩ := Action.distinct_toJson separate.act
  rw [same] at act
  exact ⟨separate.extra.apart, separate.act.apart, ⟨members, inner, written, once, act, innerOnce⟩,
    ofSource?_toJson separate⟩

/-- A transfer of tokens in its index form: its memo is decoded, its parties are not. -/
def transferSource : Json :=
  .object [("block_num", .number (.int 7)), ("@transfer", .object [("memo", .string "rent")]),
    ("cpu", .number (.int 5)), ("@timestamp", .string "2021-01-01T00:00:00"),
    ("trx_id", .string "ab"),
    ("act", .object [("hash", .null), ("name", .string "transfer"),
      ("account", .string "eosio.token"), ("data", .object [("from", .string "bob")])])]

/-- The record in `transferSource`. -/
def transferRecord : Record where
  timestamp := "2021-01-01T00:00:00"
  blockNum := 7
  trxId := "ab"
  act :=
    { account := "eosio.token"
      name := "transfer"
      data := .object [("from", .string "bob")]
      authorization := []
      extra := [("hash", .null)] }
  notified := []
  globalSequence := none
  extra := [("@transfer", .object [("memo", .string "rent")]), ("cpu", .number (.int 5))]

theorem transferRecord_rereadable :
    ofSource? transferSource = .ok transferRecord ∧
      names (transferRecord.after [.enrich, .shorten, .enrich]).extra = ["cpu", "timestamp"] ∧
      ofSource? (transferRecord.after [.enrich, .shorten, .enrich]).toJson =
        .ok (transferRecord.after [.enrich, .shorten, .enrich]) := by
  have read : ofSource? transferSource = .ok transferRecord := by decide +kernel
  obtain ⟨-, -, -, reread⟩ := rereadable_after read [.enrich, .shorten, .enrich]
  exact ⟨read, by decide +kernel, reread⟩

end Record

end TransferHistory
