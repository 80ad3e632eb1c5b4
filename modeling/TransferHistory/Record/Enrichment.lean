import TransferHistory.Record.Basic

/-!
# Enrichment

The index keeps the decoded fields of well-known actions beside the action, under the member
`@<action name>`. Enriching a record folds that object back into the payload: a missing payload
becomes the object, an object payload gains the members it lacks, and an opaque payload stays as it
is. An enriched record also has the member `timestamp`, equal to its time.
-/

namespace TransferHistory

/-- A payload with decoded fields folded in. Its own members win. -/
def Json.withDecoded (data : Json) (decoded : Json.Members) : Json :=
  match data with
  | .object members => .object (Ordered.fill members decoded)
  | .null => .object decoded
  | other => other

namespace Record

/-- The member under which the decoded fields of a record's action are kept. -/
def decodedName (record : Record) : String :=
  "@" ++ record.act.name

/-- A record with its decoded fields folded into the payload, where it has any. -/
def foldDecoded (record : Record) : Record :=
  match record.extra.get? record.decodedName with
  | some (.object decoded) =>
      { record with
        act := { record.act with data := record.act.data.withDecoded decoded }
        extra := record.extra.takeOut record.decodedName }
  | _ => record

/-- The enriched record. -/
def enrich (record : Record) : Record :=
  let folded := record.foldDecoded
  { folded with extra := folded.extra.set "timestamp" (.string record.timestamp) }

end Record

end TransferHistory
