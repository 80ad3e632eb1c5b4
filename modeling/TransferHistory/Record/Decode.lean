import TransferHistory.Json.Decode
import TransferHistory.Record.Basic

/-!
# Reading action records

A source is read member by member, in the order of the document, into a draft in which every known
field may still be missing; the first member that does not fit ends the reading. Only then are the
missing fields looked at, in the order of the record's fields.

A signer may also be an array of exactly two texts. A member that no field knows is kept by a record
and by its action, and dropped from a signer.
-/

namespace TransferHistory

open Json (Mismatch)

namespace Authorization

/-- A signer with its fields as far as they are known. -/
structure Draft where
  actor : Option String := none
  permission : Option String := none

/-- One more member of a signer. -/
def Draft.read (draft : Draft) : String × Json → Except Mismatch Draft
  | ("actor", value) => do return { draft with actor := some (← value.asText) }
  | ("permission", value) => do return { draft with permission := some (← value.asText) }
  | _ => .ok draft

/-- A signer once all members are read. -/
def Draft.finish (draft : Draft) : Except Mismatch Authorization :=
  match draft.actor, draft.permission with
  | none, _ => .error (.missing "actor")
  | some _, none => .error (.missing "permission")
  | some actor, some permission => .ok ⟨actor, permission⟩

/-- A signer given by its fields in order. -/
def ofItems? : List Json → Except Mismatch Authorization
  | [] => .error (.tooShort 0 "Authorization" 2)
  | [actor] => do
      let _ ← actor.asText
      .error (.tooShort 1 "Authorization" 2)
  | actor :: permission :: rest => do
      let actor ← actor.asText
      let permission ← permission.asText
      if rest.isEmpty then .ok ⟨actor, permission⟩ else .error (.tooLong (rest.length + 2))

/-- A signer. -/
def ofJson? : Json → Except Mismatch Authorization
  | .object members => do (← members.foldlM Draft.read {}).finish
  | .array items => ofItems? items
  | other => .error (.wrongKind other (.structure "Authorization"))

end Authorization

namespace Action

/-- An action with its fields as far as they are known. -/
structure Draft where
  account : Option String := none
  name : Option String := none
  data : Json := .null
  authorization : List Authorization := []
  extra : Json.Members := []

/-- One more member of an action. -/
def Draft.read (draft : Draft) : String × Json → Except Mismatch Draft
  | ("account", value) => do return { draft with account := some (← value.asText) }
  | ("name", value) => do return { draft with name := some (← value.asText) }
  | ("data", value) => .ok { draft with data := value }
  | ("authorization", value) => do
      return { draft with authorization := ← (← value.asItems).mapM Authorization.ofJson? }
  | (name, value) => .ok { draft with extra := draft.extra.set name value }

/-- An action once all members are read. -/
def Draft.finish (draft : Draft) : Except Mismatch Action :=
  match draft.account, draft.name with
  | none, _ => .error (.missing "account")
  | some _, none => .error (.missing "name")
  | some account, some name => .ok ⟨account, name, draft.data, draft.authorization, draft.extra⟩

/-- An action. -/
def ofJson? : Json → Except Mismatch Action
  | .object members => do (← members.foldlM Draft.read {}).finish
  | other => .error (.wrongKind other (.structure "ActionDescriptor"))

end Action

/-- Why a source is no action record. -/
inductive RecordError where
  | notAnObject
  | mismatch (cause : Mismatch)
  deriving DecidableEq, Repr

/-- What is wrong with the source. -/
def RecordError.detail : RecordError → String
  | .notAnObject => "hit source is not a JSON object"
  | .mismatch cause => cause.message

/-- The wording of the error. -/
def RecordError.message (error : RecordError) : String :=
  "Invalid action record: " ++ error.detail

namespace Record

/-- A record with its fields as far as they are known. -/
structure Draft where
  timestamp : Option String := none
  blockNum : Option UInt64 := none
  trxId : Option String := none
  act : Option Action := none
  notified : List String := []
  globalSequence : Option UInt64 := none
  extra : Json.Members := []

/-- One more member of a record. -/
def Draft.read (draft : Draft) : String × Json → Except Mismatch Draft
  | ("@timestamp", value) => do return { draft with timestamp := some (← value.asText) }
  | ("block_num", value) => do return { draft with blockNum := some (← value.asWord64) }
  | ("trx_id", value) => do return { draft with trxId := some (← value.asText) }
  | ("act", value) => do return { draft with act := some (← Action.ofJson? value) }
  | ("notified", value) => do return { draft with notified := ← value.asTexts }
  | ("global_sequence", value) => do
      return { draft with globalSequence := ← Json.optional Json.asWord64 value }
  | (name, value) => .ok { draft with extra := draft.extra.set name value }

/-- A record once all members are read. -/
def Draft.finish (draft : Draft) : Except Mismatch Record :=
  match draft.timestamp, draft.blockNum, draft.trxId, draft.act with
  | none, _, _, _ => .error (.missing "@timestamp")
  | some _, none, _, _ => .error (.missing "block_num")
  | some _, some _, none, _ => .error (.missing "trx_id")
  | some _, some _, some _, none => .error (.missing "act")
  | some timestamp, some blockNum, some trxId, some act =>
      .ok ⟨timestamp, blockNum, trxId, act, draft.notified, draft.globalSequence, draft.extra⟩

/-- The record in a source. -/
def ofSource? : Json → Except RecordError Record
  | .object members =>
      match (do (← members.foldlM Draft.read {}).finish : Except Mismatch Record) with
      | .ok record => .ok record
      | .error cause => .error (.mismatch cause)
  | _ => .error .notAnObject

end Record

end TransferHistory
