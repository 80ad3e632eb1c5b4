import TransferHistory.Proofs.Ordered
import TransferHistory.Proofs.Result
import TransferHistory.Record.Decode

/-!
# Reading what was written

The members of a record that no field knows stand beside the known ones, at the top and in the action.
A record in which their names are distinct and differ from the names of the fields (`Separate`) is
written as an object without a repeated name, and reading that object gives the record back.

Results:
1. `Record.separate_of_ofSource?`: every record that was read is separate.
2. `Record.distinct_toJson`: a separate record is written without a repeated name.
3. `Record.ofSource?_toJson`: reading a separate record that was written gives it back, with the same
   order of its members.
-/

namespace TransferHistory

open Json (Mismatch Members)
open Ordered (Beside Distinct names)

/-- The names of the fields of an action. -/
def Action.fields : List String :=
  ["account", "name", "data", "authorization"]

/-- The names of the fields of a record. -/
def Record.fields : List String :=
  ["@timestamp", "block_num", "trx_id", "act", "notified", "global_sequence"]

/-- The other members of a record and of its action have names of their own. -/
structure Record.Separate (record : Record) : Prop where
  extra : record.extra.Beside Record.fields
  act : record.act.extra.Beside Action.fields

/-! ## What is read is separate -/

namespace Action

theorem Draft.read_of_not_mem {name : String} (other : name ∉ Action.fields) (draft : Draft)
    (value : Json) :
    draft.read (name, value) = .ok { draft with extra := draft.extra.set name value } := by
  simp only [Action.fields, List.mem_cons, List.not_mem_nil, or_false, not_or] at other
  unfold Draft.read
  split <;> simp_all

theorem Draft.extra_read_of_mem {draft next : Draft} {name : String} {value : Json}
    (known : name ∈ Action.fields) (read : draft.read (name, value) = .ok next) :
    next.extra = draft.extra := by
  simp only [Action.fields, List.mem_cons, List.not_mem_nil, or_false] at known
  rcases known with rfl | rfl | rfl | rfl
  · obtain ⟨account, -, done⟩ := bind_eq_ok_iff.mp read
    cases done
    rfl
  · obtain ⟨name, -, done⟩ := bind_eq_ok_iff.mp read
    cases done
    rfl
  · cases read
    rfl
  · obtain ⟨items, -, read⟩ := bind_eq_ok_iff.mp read
    obtain ⟨signers, -, done⟩ := bind_eq_ok_iff.mp read
    cases done
    rfl

theorem Draft.beside_read {draft next : Draft} {entry : String × Json}
    (beside : draft.extra.Beside Action.fields) (read : draft.read entry = .ok next) :
    next.extra.Beside Action.fields := by
  obtain ⟨name, value⟩ := entry
  by_cases known : name ∈ Action.fields
  · rw [Draft.extra_read_of_mem known read]
    exact beside
  · rw [Draft.read_of_not_mem known] at read
    cases read
    exact beside.set known value

theorem Draft.extra_finish {draft : Draft} {act : Action} (finished : draft.finish = .ok act) :
    act.extra = draft.extra := by
  unfold Draft.finish at finished
  split at finished <;> cases finished
  rfl

theorem beside_of_ofJson? {value : Json} {act : Action} (read : ofJson? value = .ok act) :
    act.extra.Beside Action.fields := by
  cases value with
  | object members =>
      obtain ⟨draft, folded, finished⟩ := bind_eq_ok_iff.mp read
      rw [Draft.extra_finish finished]
      exact foldlM_invariant Draft.beside_read Beside.nil folded
  | _ => cases read

end Action

namespace Record

theorem Draft.read_of_not_mem {name : String} (other : name ∉ Record.fields) (draft : Draft)
    (value : Json) :
    draft.read (name, value) = .ok { draft with extra := draft.extra.set name value } := by
  simp only [Record.fields, List.mem_cons, List.not_mem_nil, or_false, not_or] at other
  unfold Draft.read
  split <;> simp_all

/-- The other members of a draft, and those of its action once it is there, stand beside the
fields. -/
structure Draft.Separate (draft : Draft) : Prop where
  extra : draft.extra.Beside Record.fields
  act : ∀ act, draft.act = some act → act.extra.Beside Action.fields

theorem Draft.separate_read_of_mem {draft next : Draft} {name : String} {value : Json}
    (separate : draft.Separate) (known : name ∈ Record.fields)
    (read : draft.read (name, value) = .ok next) : next.Separate := by
  simp only [Record.fields, List.mem_cons, List.not_mem_nil, or_false] at known
  rcases known with rfl | rfl | rfl | rfl | rfl | rfl
  all_goals
    obtain ⟨field, found, done⟩ := bind_eq_ok_iff.mp read
    cases done
  -- Of the fields only the action brings other members with it.
  case inr.inr.inr.inl =>
    refine ⟨separate.extra, ?_⟩
    intro act same
    cases same
    exact Action.beside_of_ofJson? found
  all_goals exact ⟨separate.extra, separate.act⟩

theorem Draft.separate_read {draft next : Draft} {entry : String × Json}
    (separate : draft.Separate) (read : draft.read entry = .ok next) : next.Separate := by
  obtain ⟨name, value⟩ := entry
  by_cases known : name ∈ Record.fields
  · exact Draft.separate_read_of_mem separate known read
  · rw [Draft.read_of_not_mem known] at read
    cases read
    exact ⟨separate.extra.set known value, separate.act⟩

theorem Draft.separate_finish {draft : Draft} {record : Record} (separate : draft.Separate)
    (finished : draft.finish = .ok record) : record.Separate := by
  unfold Draft.finish at finished
  split at finished <;> cases finished
  rename_i act _ _ _ given
  exact ⟨separate.extra, separate.act act given⟩

/-- A source is read in two steps: its members, and then what is still missing. -/
theorem ofSource?_object_eq_ok_iff {members : Members} {record : Record} :
    ofSource? (.object members) = .ok record ↔
      ∃ draft, members.foldlM Draft.read {} = .ok draft ∧ draft.finish = .ok record := by
  rw [← bind_eq_ok_iff]
  simp only [ofSource?, bind, Except.bind]
  cases members.foldlM Draft.read {} with
  | error cause => simp
  | ok draft =>
      cases finished : draft.finish with
      | error cause => simp [finished]
      | ok record => simp [finished]

/-- Every record that was read is separate. -/
theorem separate_of_ofSource? {source : Json} {record : Record}
    (read : ofSource? source = .ok record) : record.Separate := by
  cases source with
  | object members =>
      obtain ⟨draft, folded, finished⟩ := ofSource?_object_eq_ok_iff.mp read
      have empty : Draft.Separate {} := ⟨Beside.nil, fun act given => by cases given⟩
      exact Draft.separate_finish (foldlM_invariant Draft.separate_read empty folded) finished
  | _ => cases read

end Record

/-! ## What is written repeats no name -/

theorem Action.distinct_toJson {act : Action} (beside : act.extra.Beside Action.fields) :
    ∃ members, act.toJson = .object members ∧ Distinct members := by
  refine ⟨_, rfl, beside.distinct_append ?_ ?_⟩
  · simp [Distinct, names]
  · simp [names, Action.fields]

/-- A separate record is written as an object that repeats no name, with its action in it. -/
theorem Record.distinct_toJson {record : Record} (separate : record.Separate) :
    ∃ members, record.toJson = .object members ∧ Distinct members ∧
      Ordered.get? "act" members = some record.act.toJson := by
  refine ⟨_, rfl, separate.extra.distinct_append ?_ ?_, ?_⟩
  · cases record.globalSequence <;> simp [Distinct, names]
  · cases record.globalSequence <;> simp [names, Record.fields]
  · simp [Ordered.get?]

/-! ## What is written is read back -/

/-- Members that no field knows are kept behind the ones kept before, in order. `whole` is a draft as
a function of its other members. -/
theorem foldlM_read_extra {Draft : Type} {read : Draft → String × Json → Except Mismatch Draft}
    {reserved : List String} (whole : Members → Draft)
    (keeps : ∀ extra name value, name ∉ reserved →
      read (whole extra) (name, value) = .ok (whole (extra.set name value)))
    (kept : Members) {members : Members} (beside : Beside reserved (kept ++ members)) :
    members.foldlM read (whole kept) = .ok (whole (kept ++ members)) := by
  induction members generalizing kept with
  | nil => rw [List.append_nil]; rfl
  | cons entry rest ih =>
      obtain ⟨name, value⟩ := entry
      have free : name ∉ reserved := beside.apart name (by simp [names])
      have new : name ∉ names kept := by
        have distinct := beside.distinct
        simp only [Distinct, names, List.map_append, List.map_cons, List.nodup_append] at distinct
        intro known
        exact distinct.2.2 name known name List.mem_cons_self rfl
      -- Set behind the members kept so far, the next one is the last of those kept.
      have shifted : kept ++ (name, value) :: rest = kept ++ [(name, value)] ++ rest := by simp
      rw [List.foldlM_cons, keeps kept name value free, Ordered.set_of_not_mem new, shifted]
      exact ih _ (shifted ▸ beside)

theorem Authorization.ofJson?_toJson (signer : Authorization) :
    ofJson? signer.toJson = .ok signer :=
  rfl

theorem Json.asTexts_ofStrings (texts : List String) : (Json.ofStrings texts).asTexts = .ok texts :=
  mapM_map_eq_ok fun _ _ => rfl

theorem Json.asBelow_ofNat {bound n : Nat} (below : n < bound) (expected : Json.Expected) :
    Json.asBelow bound expected (Json.ofNat n) = .ok n := by
  have range : (0 : Int) ≤ n ∧ (n : Int) < bound := by omega
  simp [Json.ofNat, Json.asBelow, range]

theorem toNat_lt_values64 (n : UInt64) : n.toNat < values64 :=
  n.toNat_lt

theorem Json.asWord64_ofWord64 (n : UInt64) : (Json.ofWord64 n).asWord64 = .ok n := by
  unfold Json.asWord64 Json.ofWord64
  rw [Json.asBelow_ofNat (toNat_lt_values64 n)]
  exact congrArg Except.ok n.ofNat_toNat

theorem Json.optional_asWord64_ofWord64 (n : UInt64) :
    Json.optional Json.asWord64 (.ofWord64 n) = .ok (some n) := by
  have given : Json.optional Json.asWord64 (.ofWord64 n) =
      (Json.asWord64 (.ofWord64 n)).map some := rfl
  rw [given, Json.asWord64_ofWord64]
  rfl

/-- The draft of an action whose fields have all been read, with some other members. -/
def Action.Draft.holding (act : Action) (extra : Members) : Draft where
  account := some act.account
  name := some act.name
  data := act.data
  authorization := act.authorization
  extra := extra

/-- The fields that every action is written with are read back. -/
theorem Action.Draft.foldlM_read_fields (act : Action) :
    [("account", .string act.account), ("name", .string act.name), ("data", act.data),
      ("authorization", .array (act.authorization.map Authorization.toJson))].foldlM
      Draft.read {} = .ok (Draft.holding act []) := by
  have account (draft : Draft) : draft.read ("account", .string act.account) =
      .ok { draft with account := some act.account } := rfl
  have name (draft : Draft) : draft.read ("name", .string act.name) =
      .ok { draft with name := some act.name } := rfl
  have data (draft : Draft) : draft.read ("data", act.data) =
      .ok { draft with data := act.data } := rfl
  have signers : (act.authorization.map Authorization.toJson).mapM Authorization.ofJson? =
      .ok act.authorization := mapM_map_eq_ok fun signer _ => signer.ofJson?_toJson
  have authorization (draft : Draft) : draft.read ("authorization",
      .array (act.authorization.map Authorization.toJson)) =
      .ok { draft with authorization := act.authorization } := by
    rw [Draft.read, Json.asItems]
    exact bind_eq_ok_iff.mpr ⟨_, rfl, bind_eq_ok_iff.mpr ⟨_, signers, rfl⟩⟩
  rw [foldlM_cons_of_ok (account _), foldlM_cons_of_ok (name _), foldlM_cons_of_ok (data _),
    foldlM_cons_of_ok (authorization _)]
  rfl

/-- An action that was written is read back. -/
theorem Action.ofJson?_toJson {act : Action} (beside : act.extra.Beside Action.fields) :
    ofJson? act.toJson = .ok act := by
  have fields := Draft.foldlM_read_fields act
  have others := foldlM_read_extra (Draft.holding act)
    (fun _ _ value free => Draft.read_of_not_mem free _ value) [] beside
  refine bind_eq_ok_iff.mpr ⟨Draft.holding act act.extra, ?_, rfl⟩
  rw [List.foldlM_append, fields]
  exact others

/-- The draft of a record whose fields have all been read, but perhaps for its sequence number, with
some other members. -/
def Record.Draft.holding (record : Record) (globalSequence : Option UInt64) (extra : Members) :
    Draft where
  timestamp := some record.timestamp
  blockNum := some record.blockNum
  trxId := some record.trxId
  act := some record.act
  notified := record.notified
  globalSequence := globalSequence
  extra := extra

namespace Record

theorem Draft.read_blockNum (draft : Draft) (n : UInt64) :
    draft.read ("block_num", .ofWord64 n) = .ok { draft with blockNum := some n } := by
  rw [Draft.read, Json.asWord64_ofWord64]
  rfl

theorem Draft.read_act (draft : Draft) {act : Action} (beside : act.extra.Beside Action.fields) :
    draft.read ("act", act.toJson) = .ok { draft with act := some act } := by
  rw [Draft.read, Action.ofJson?_toJson beside]
  rfl

theorem Draft.read_notified (draft : Draft) (accounts : List String) :
    draft.read ("notified", .ofStrings accounts) = .ok { draft with notified := accounts } := by
  rw [Draft.read, Json.asTexts_ofStrings]
  rfl

theorem Draft.read_globalSequence (draft : Draft) (n : UInt64) :
    draft.read ("global_sequence", .ofWord64 n) = .ok { draft with globalSequence := some n } := by
  rw [Draft.read, Json.optional_asWord64_ofWord64]
  rfl

/-- The fields that every record is written with are read back. -/
theorem Draft.foldlM_read_fields {record : Record}
    (beside : record.act.extra.Beside Action.fields) :
    [("@timestamp", .string record.timestamp), ("block_num", .ofWord64 record.blockNum),
      ("trx_id", .string record.trxId), ("act", record.act.toJson),
      ("notified", .ofStrings record.notified)].foldlM Draft.read {} =
      .ok (Draft.holding record none []) := by
  have timestamp (draft : Draft) : draft.read ("@timestamp", .string record.timestamp) =
      .ok { draft with timestamp := some record.timestamp } := rfl
  have trxId (draft : Draft) : draft.read ("trx_id", .string record.trxId) =
      .ok { draft with trxId := some record.trxId } := rfl
  rw [foldlM_cons_of_ok (timestamp _), foldlM_cons_of_ok (read_blockNum _ _),
    foldlM_cons_of_ok (trxId _), foldlM_cons_of_ok (read_act _ beside),
    foldlM_cons_of_ok (read_notified _ _)]
  rfl

/-- So is a sequence number. -/
theorem Draft.foldlM_read_sequence (record : Record) :
    (record.globalSequence.map fun n => ("global_sequence", Json.ofWord64 n)).toList.foldlM
      Draft.read (Draft.holding record none []) =
      .ok (Draft.holding record record.globalSequence []) := by
  cases record.globalSequence with
  | none => rfl
  | some n =>
      rw [Option.map_some, Option.toList_some, foldlM_cons_of_ok (read_globalSequence _ n)]
      rfl

/-- A record that was written is read back, with the same order of its members. -/
theorem ofSource?_toJson {record : Record} (separate : record.Separate) :
    ofSource? record.toJson = .ok record := by
  have fields := Draft.foldlM_read_fields separate.act
  have sequence := Draft.foldlM_read_sequence record
  have others := foldlM_read_extra (Draft.holding record record.globalSequence)
    (fun _ _ value free => Draft.read_of_not_mem free _ value) [] separate.extra
  refine ofSource?_object_eq_ok_iff.mpr
    ⟨Draft.holding record record.globalSequence record.extra, ?_, rfl⟩
  rw [List.foldlM_append, List.foldlM_append, fields]
  exact bind_eq_ok_iff.mpr ⟨_, sequence, others⟩

end Record

end TransferHistory
