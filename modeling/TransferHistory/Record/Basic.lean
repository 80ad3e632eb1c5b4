import TransferHistory.Json.Basic

/-!
# Action records

A record of the action index: which action ran, in which block and transaction, and who signed it.
The fields that the service works with have a place of their own; every other member is kept as it
was found, in order, in `extra`.

`Record.toJson` writes a record the way it was indexed: the known fields in a fixed order, then the
extra members. `RecordError` in the module on reading says what is no record.
-/

namespace TransferHistory

/-- One signer of an action: an account and the permission it signed with. -/
structure Authorization where
  actor : String
  permission : String
  deriving DecidableEq, Repr

/-- What ran: a contract's action, its payload and its signers. -/
structure Action where
  account : String
  name : String
  data : Json
  authorization : List Authorization
  extra : Json.Members
  deriving DecidableEq, Repr

/-- A record of the action index. -/
structure Record where
  timestamp : String
  blockNum : UInt64
  trxId : String
  act : Action
  notified : List String
  globalSequence : Option UInt64
  extra : Json.Members
  deriving DecidableEq, Repr

/-- A signer as one text. -/
def Authorization.label (signer : Authorization) : String :=
  signer.actor ++ "@" ++ signer.permission

/-- All signers of a record, in order, with commas between them. -/
def Record.actors (record : Record) : String :=
  ",".intercalate (record.act.authorization.map Authorization.label)

/-- A signer as a value. -/
def Authorization.toJson (signer : Authorization) : Json :=
  .object [("actor", .string signer.actor), ("permission", .string signer.permission)]

/-- An action as a value. -/
def Action.toJson (act : Action) : Json :=
  .object ([("account", .string act.account), ("name", .string act.name), ("data", act.data),
    ("authorization", .array (act.authorization.map Authorization.toJson))] ++ act.extra)

/-- A record as a value. A missing sequence number is not written. -/
def Record.toJson (record : Record) : Json :=
  .object ([("@timestamp", .string record.timestamp), ("block_num", .ofWord64 record.blockNum),
    ("trx_id", .string record.trxId), ("act", record.act.toJson),
    ("notified", .ofStrings record.notified)] ++
    (record.globalSequence.map fun n => ("global_sequence", Json.ofWord64 n)).toList ++
    record.extra)

end TransferHistory
