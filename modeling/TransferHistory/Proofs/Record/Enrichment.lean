import TransferHistory.Proofs.Record.Grammar
import TransferHistory.Proofs.Record.Reprojection

/-!
# What enrichment changes

Enriching a record changes its payload, takes the decoded fields from its other members and stamps
the time on them. Everything else stays, whatever the action is called: the decoded fields of an
action `timestamp` would stand under the name of a field, where no other member is.

Results:
1. `Json.gains_withDecoded`: what a payload becomes when decoded fields are folded in.
2. `Record.enrich_frame`: the parts of a record that enrichment does not look at.
3. `Record.get?_extra_enrich`: the other members of an enriched record, name by name.
4. `Record.enrich_exact`: all that enrichment does to a record that was read.
-/

namespace TransferHistory

open Json (Members)
open Ordered (Distinct names)

/-- What a payload becomes when decoded fields are folded in: the members of an object are followed by
the decoded fields that they lack, a missing payload gives way to the decoded fields, and any other
payload stays as it is. -/
inductive Json.Gains (decoded : Members) : Json → Json → Prop
  | object (members : Members) :
      Gains decoded (.object members)
        (.object (members ++ decoded.filter fun entry => entry.1 ∉ names members))
  | null : Gains decoded .null (.object decoded)
  | other {data : Json} (noObject : ∀ members, data ≠ .object members) (given : data ≠ .null) :
      Gains decoded data data

theorem Json.gains_withDecoded {decoded : Members} (distinct : Distinct decoded) (data : Json) :
    Gains decoded data (data.withDecoded decoded) := by
  cases data with
  | object members =>
      rw [withDecoded, Ordered.fill_eq distinct]
      exact .object members
  | null => exact .null
  | _ => exact .other (by simp) (by simp)

namespace Record

variable {record : Record}

/-! ## The two steps of an enrichment -/

theorem foldDecoded_of_get? {decoded : Members}
    (found : record.extra.get? record.decodedName = some (.object decoded)) :
    record.foldDecoded =
      { record with
        act := { record.act with data := record.act.data.withDecoded decoded }
        extra := record.extra.takeOut record.decodedName } := by
  unfold foldDecoded
  rw [found]

theorem extra_enrich (record : Record) :
    record.enrich.extra = record.foldDecoded.extra.set "timestamp" (.string record.timestamp) :=
  rfl

theorem act_enrich (record : Record) : record.enrich.act = record.foldDecoded.act :=
  rfl

/-- Enrichment changes nothing but the payload and the other members at the top. -/
theorem enrich_frame (record : Record) :
    record.enrich =
      { record with
        act := { record.act with data := record.enrich.act.data }
        extra := record.enrich.extra } := by
  unfold enrich foldDecoded
  split <;> rfl

/-- A member is found as before if it is neither the one that is taken out nor the stamp. -/
theorem get?_extra_enrich (distinct : Distinct record.extra) {name : String}
    (apart : name ≠ record.decodedName) (unstamped : name ≠ "timestamp") :
    record.enrich.extra.get? name = record.extra.get? name := by
  rw [extra_enrich, Ordered.get?_set_of_ne unstamped]
  unfold foldDecoded
  split
  · exact Ordered.get?_takeOut_of_ne distinct apart
  · rfl

/-- What is under the name of the decoded fields is not the stamp. -/
theorem get?_decodedName_enrich (record : Record) :
    record.enrich.extra.get? record.decodedName = record.foldDecoded.extra.get? record.decodedName :=
  Ordered.get?_set_of_ne (decodedName_ne_timestamp record) _ _

/-! ## Records that were read -/

/-- No member of a record that was read repeats a name within. -/
theorem wellFormed_of_mem_extra {source : Json} (wellFormed : source.WellFormed)
    (read : ofSource? source = .ok record) {entry : String × Json} (present : entry ∈ record.extra) :
    entry.2.WellFormed := by
  cases source with
  | object members =>
      rw [(readFrom_of_ofSource? wellFormed read).extra] at present
      exact Json.wellFormedMembers_iff.mp wellFormed.2 entry (List.mem_of_mem_filter present)
  | _ => cases read

/-- Enriching a record that was read. Decoded fields under the name of its action are folded into the
payload and are no longer beside it; without such fields neither the payload nor what is under that
name changes. An action whose decoded fields would stand under the name of a field has none. The
member `timestamp` is the time of the record, all other members keep their values, no name is
repeated, and nothing else of the record changes. -/
theorem enrich_exact {source : Json} (wellFormed : source.WellFormed)
    (read : ofSource? source = .ok record) :
    (∀ decoded, record.extra.get? ("@" ++ record.act.name) = some (.object decoded) →
      Json.Gains decoded record.act.data record.enrich.act.data ∧
        record.enrich.extra.get? ("@" ++ record.act.name) = none) ∧
    ((∀ decoded, record.extra.get? ("@" ++ record.act.name) ≠ some (.object decoded)) →
      record.enrich.act.data = record.act.data ∧
        record.enrich.extra.get? ("@" ++ record.act.name) =
          record.extra.get? ("@" ++ record.act.name)) ∧
    ("@" ++ record.act.name ∈ Record.fields →
      record.extra.get? ("@" ++ record.act.name) = none) ∧
    record.enrich.extra.get? "timestamp" = some (.string record.timestamp) ∧
    (∀ name, name ≠ "@" ++ record.act.name → name ≠ "timestamp" →
      record.enrich.extra.get? name = record.extra.get? name) ∧
    Distinct record.enrich.extra ∧
    record.enrich =
      { record with
        act := { record.act with data := record.enrich.act.data }
        extra := record.enrich.extra } := by
  have separate := separate_of_ofSource? read
  have distinct := separate.extra.distinct
  refine ⟨?_, ?_, ?_, ?_, ?_, ?_, enrich_frame record⟩
  · intro decoded found
    have once : Distinct decoded :=
      (wellFormed_of_mem_extra wellFormed read (Ordered.mem_of_get? found)).1
    have folded := foldDecoded_of_get? found
    constructor
    · rw [act_enrich, folded]
      exact Json.gains_withDecoded once record.act.data
    · refine (get?_decodedName_enrich record).trans ?_
      rw [folded]
      exact Ordered.get?_eq_none_iff.mpr (Ordered.not_mem_names_takeOut distinct)
  · intro folded
    refine ⟨?_, (get?_decodedName_enrich record).trans ?_⟩
    · rw [act_enrich, foldDecoded_of_folded folded]
    · rw [foldDecoded_of_folded folded]
      rfl
  · intro field
    exact Ordered.get?_eq_none_iff.mpr fun present => separate.extra.apart _ present field
  · exact Ordered.get?_set_self _ _ _
  · intro name apart unstamped
    exact get?_extra_enrich distinct apart unstamped
  · exact (separate_enrich separate).extra.distinct

/-- A transfer whose sender is decoded otherwise than it was sent, and which has a stamp already. -/
def stampedRecord : Record :=
  { transferRecord with
    extra :=
      [("@transfer", .object [("from", .string "eve"), ("memo", .string "rent")]),
        ("node", .null), ("timestamp", .string "1999-01-01T00:00:00"), ("cpu", .number (.int 5))] }

/-- An action `timestamp` in its index form. -/
def clockSource : Json :=
  .object [("@timestamp", .string "2021-01-01T00:00:00"), ("block_num", .number (.int 7)),
    ("trx_id", .string "ab"),
    ("act", .object [("account", .string "clock"), ("name", .string "timestamp")])]

/-- The sender of the payload stays, the memo is added behind it, and the stamp is replaced. An action
`timestamp` has nothing that could be folded in. -/
theorem stampedRecord_enriched :
    (stampedRecord.toJson.WellFormed ∧ ofSource? stampedRecord.toJson = .ok stampedRecord ∧
      stampedRecord.enrich.act.data =
        .object [("from", .string "bob"), ("memo", .string "rent")] ∧
      stampedRecord.enrich.extra.get? "@transfer" = none ∧
      stampedRecord.enrich.extra.get? "cpu" = some (.number (.int 5)) ∧
      stampedRecord.enrich.extra.get? "timestamp" = some (.string "2021-01-01T00:00:00")) ∧
    clockSource.WellFormed ∧
      ∃ record, ofSource? clockSource = .ok record ∧ record.enrich.act.data = record.act.data := by
  constructor
  · have wellFormed : stampedRecord.toJson.WellFormed := by
      simp [stampedRecord, transferRecord, toJson, Action.toJson, Json.WellFormed,
        Json.WellFormedMembers, Json.WellFormedItems, Json.ofWord64, Json.ofNat, Json.ofStrings,
        Distinct, names]
    have read : ofSource? stampedRecord.toJson = .ok stampedRecord := by decide +kernel
    obtain ⟨folds, -, -, stamp, others, -, -⟩ := enrich_exact wellFormed read
    obtain ⟨gains, gone⟩ := folds [("from", .string "eve"), ("memo", .string "rent")] rfl
    refine ⟨wellFormed, read, ?_, gone, others "cpu" (by decide) (by decide), stamp⟩
    generalize stampedRecord.enrich.act.data = data at gains
    cases gains with
    | object members => rfl
    | other noObject => exact absurd rfl (noObject _)
  · -- What a text is read as is well formed, whatever it holds.
    have written : Json.parse? clockSource.render = some clockSource := by decide +kernel
    have wellFormed := Json.wellFormed_of_parse? written
    have accepted : (ofSource? clockSource).isOk = true := by decide +kernel
    cases read : ofSource? clockSource with
    | error error =>
        rw [read] at accepted
        cases accepted
    | ok record =>
        obtain ⟨-, unfolded, field, -⟩ := enrich_exact wellFormed read
        have name : (ofSource? clockSource).map (·.act.name) = .ok "timestamp" := by decide +kernel
        rw [read] at name
        have called : record.act.name = "timestamp" := Except.ok.inj name
        have missing := field (by rw [called]; decide)
        exact ⟨wellFormed, record, rfl, (unfolded (by simp [missing])).1⟩

end Record

end TransferHistory
