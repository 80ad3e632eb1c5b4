import TransferHistory.Proofs.Record.Grammar

/-!
# Sources in another order

A source may name its fields in any order, and so may its action. Reading takes the same sources
whatever that order is, and every known field comes out the same.

Results:
1. `Record.kept_members`, `Record.kept_act`: one reordering keeps what is read.
2. `Record.kept_of_reordered`: so do any number of them.
3. `Record.ofSource?_grammar`: the grammar of records and what they hold, in any order.
-/

namespace TransferHistory

open Json (Members)
open Ordered (Distinct get? names)

/-- An action without the members that no field knows. -/
def Action.typed (act : Action) : Action :=
  { act with extra := [] }

/-- A record without the members that no field knows, its own and its action's. -/
def Record.typed (record : Record) : Record :=
  { record with act := record.act.typed, extra := [] }

namespace Action

theorem IsAction.of_perm {members others : Members} (distinct : Distinct members)
    (order : members.Perm others) (isAction : IsAction (.object members)) :
    IsAction (.object others) := by
  obtain ⟨account, name, authorization⟩ := isAction
  simp only [Ordered.get?_perm distinct order] at account name authorization
  exact .object account name authorization

theorem ReadFrom.typed_eq {members others : Members}
    (same : ∀ name, members.get? name = others.get? name) {act other : Action}
    (read : act.ReadFrom members) (again : other.ReadFrom others) : other.typed = act.typed := by
  obtain ⟨account, name, data, ⟨items, given, signers⟩, -⟩ := read
  obtain ⟨otherAccount, otherName, otherData, ⟨otherItems, otherGiven, otherSigners⟩, -⟩ := again
  rw [same] at account name data given
  rw [account] at otherAccount
  rw [name] at otherName
  rw [data] at otherData
  cases given.symm.trans otherGiven
  have sameSigners := Authorization.rightUnique_readFrom.forall₂ signers otherSigners
  obtain ⟨a, n, d, s, e⟩ := act
  obtain ⟨a', n', d', s', e'⟩ := other
  simp_all [typed]

end Action

namespace Record

/-- The members of a source in another order, or those of its action, any number of times. -/
inductive Reordered : Json → Json → Prop
  | members {members others : Members} (order : members.Perm others) :
      Reordered (.object members) (.object others)
  | act {before after inner others : Members} (order : inner.Perm others) :
      Reordered (.object (before ++ ("act", .object inner) :: after))
        (.object (before ++ ("act", .object others) :: after))
  | trans {source middle other : Json} (first : Reordered source middle)
      (second : Reordered middle other) : Reordered source other

theorem IsRecord.of_get? {members others : Members}
    (same : ∀ name, name ≠ "act" → members.get? name = others.get? name)
    (act : ∀ value, members.get? "act" = some value → Action.IsAction value →
      ∃ other, others.get? "act" = some other ∧ Action.IsAction other)
    (isRecord : IsRecord (.object members)) : IsRecord (.object others) := by
  obtain ⟨timestamp, blockNum, trxId, ⟨value, found, isAction⟩, notified, globalSequence⟩ := isRecord
  rw [same _ (by decide)] at timestamp blockNum trxId notified globalSequence
  exact .object timestamp blockNum trxId (act value found isAction) notified globalSequence

theorem ReadFrom.typed_eq {members others : Members}
    (same : ∀ name, name ≠ "act" → members.get? name = others.get? name) {record other : Record}
    (read : record.ReadFrom members) (again : other.ReadFrom others)
    (act : other.act.typed = record.act.typed) : other.typed = record.typed := by
  obtain ⟨timestamp, blockNum, trxId, -, notified, globalSequence, -⟩ := read
  obtain ⟨otherTimestamp, otherBlockNum, otherTrxId, -, otherNotified, otherSequence, -⟩ := again
  rw [same _ (by decide)] at timestamp blockNum trxId notified globalSequence
  have sameTime : other.timestamp = record.timestamp :=
    Json.string.inj (Option.some.inj (otherTimestamp.symm.trans timestamp))
  have sameTrxId : other.trxId = record.trxId :=
    Json.string.inj (Option.some.inj (otherTrxId.symm.trans trxId))
  have sameBlock : other.blockNum = record.blockNum := by
    have written := Option.some.inj (blockNum.symm.trans otherBlockNum)
    exact Except.ok.inj ((Json.asWord64_eq_ok_iff.mpr written).symm.trans
      (Json.asWord64_ofWord64 record.blockNum))
  have sameNotified : other.notified = record.notified :=
    Except.ok.inj ((Json.asTexts_eq_ok_iff.mpr otherNotified).symm.trans
      (Json.asTexts_eq_ok_iff.mpr notified))
  have sameSequence : other.globalSequence = record.globalSequence :=
    Except.ok.inj ((Json.optional_asWord64_eq_ok_iff.mpr otherSequence).symm.trans
      (Json.optional_asWord64_eq_ok_iff.mpr globalSequence))
  simp only [typed, sameTime, sameBlock, sameTrxId, act, sameNotified, sameSequence]

/-- What putting members in another order keeps. -/
structure Kept (source other : Json) : Prop where
  wellFormed : other.WellFormed
  isRecord : IsRecord other ↔ IsRecord source
  typed : ∀ record again, ofSource? source = .ok record → ofSource? other = .ok again →
    again.typed = record.typed

theorem kept_members {members others : Members} (order : members.Perm others)
    (wellFormed : (Json.object members).WellFormed) : Kept (.object members) (.object others) := by
  have wellFormedOther := Json.wellFormed_object_perm order wellFormed
  have same := Ordered.get?_perm wellFormed.1 order
  refine ⟨wellFormedOther, ⟨?_, ?_⟩, ?_⟩
  · exact IsRecord.of_get? (fun name _ => (same name).symm)
      fun value found isAction => ⟨value, by rwa [same], isAction⟩
  · exact IsRecord.of_get? (fun name _ => same name)
      fun value found isAction => ⟨value, by rwa [← same], isAction⟩
  · intro record again read reread
    have readFrom := readFrom_of_ofSource? wellFormed read
    have readAgain := readFrom_of_ofSource? wellFormedOther reread
    obtain ⟨inner, found, act⟩ := readFrom.act
    obtain ⟨otherInner, otherFound, otherAct⟩ := readAgain.act
    rw [← same] at otherFound
    cases found.symm.trans otherFound
    exact readFrom.typed_eq (fun name _ => same name) readAgain (act.typed_eq (fun _ => rfl) otherAct)

theorem kept_act {before after inner others : Members} (order : inner.Perm others)
    (wellFormed : (Json.object (before ++ ("act", .object inner) :: after)).WellFormed) :
    Kept (.object (before ++ ("act", .object inner) :: after))
      (.object (before ++ ("act", .object others) :: after)) := by
  have wellFormedInner : (Json.object inner).WellFormed :=
    Json.wellFormedMembers_iff.mp wellFormed.2 _ (List.mem_append_right _ List.mem_cons_self)
  have wellFormedOthers := Json.wellFormed_object_perm order wellFormedInner
  have wellFormedOther := Json.wellFormed_object_replace wellFormed wellFormedOthers
  have here {act : Json} (distinct : Distinct (before ++ ("act", act) :: after)) :
      Ordered.get? "act" (before ++ ("act", act) :: after) = some act :=
    (Ordered.get?_eq_some_iff distinct).mpr (List.mem_append_right _ List.mem_cons_self)
  have elsewhere (first second : Json) (name : String) (ne : name ≠ "act") :
      Ordered.get? name (before ++ ("act", first) :: after) =
        Ordered.get? name (before ++ ("act", second) :: after) := by
    rw [Ordered.get?_append_cons_of_ne ne, Ordered.get?_append_cons_of_ne ne]
  refine ⟨wellFormedOther, ⟨?_, ?_⟩, ?_⟩
  · refine IsRecord.of_get? (elsewhere _ _) fun value found isAction => ?_
    cases (here wellFormedOther.1).symm.trans found
    exact ⟨_, here wellFormed.1, isAction.of_perm wellFormedOthers.1 order.symm⟩
  · refine IsRecord.of_get? (elsewhere _ _) fun value found isAction => ?_
    cases (here wellFormed.1).symm.trans found
    exact ⟨_, here wellFormedOther.1, isAction.of_perm wellFormedInner.1 order⟩
  · intro record again read reread
    have readFrom := readFrom_of_ofSource? wellFormed read
    have readAgain := readFrom_of_ofSource? wellFormedOther reread
    obtain ⟨_, found, act⟩ := readFrom.act
    obtain ⟨_, otherFound, otherAct⟩ := readAgain.act
    cases (here wellFormed.1).symm.trans found
    cases (here wellFormedOther.1).symm.trans otherFound
    exact readFrom.typed_eq (elsewhere _ _) readAgain
      (act.typed_eq (Ordered.get?_perm wellFormedInner.1 order) otherAct)

theorem kept_of_reordered {source other : Json} (moved : Reordered source other)
    (wellFormed : source.WellFormed) : Kept source other := by
  induction moved with
  | members order => exact kept_members order wellFormed
  | act order => exact kept_act order wellFormed
  | trans _ _ first second =>
      have toMiddle := first wellFormed
      have onward := second toMiddle.wellFormed
      refine ⟨onward.wellFormed, onward.isRecord.trans toMiddle.isRecord, ?_⟩
      intro record again read reread
      have isMiddle := toMiddle.isRecord.mpr ((exists_ofSource?_iff wellFormed).mp ⟨record, read⟩)
      obtain ⟨between, readMiddle⟩ := (exists_ofSource?_iff toMiddle.wellFormed).mpr isMiddle
      rw [onward.typed between again readMiddle reread, toMiddle.typed record between read readMiddle]

/-- Reading takes exactly the values that are records, a record holds what its source says, and the
order of the members of a source and of its action only shows in the members that no field knows. -/
theorem ofSource?_grammar {source : Json} (wellFormed : source.WellFormed) :
    ((∃ record, ofSource? source = .ok record) ↔ IsRecord source) ∧
      (∀ record, ofSource? source = .ok record →
        ∃ members, source = .object members ∧ record.ReadFrom members) ∧
      ∀ other, Reordered source other →
        ((∃ record, ofSource? other = .ok record) ↔ IsRecord source) ∧
          ∀ record again, ofSource? source = .ok record → ofSource? other = .ok again →
            again.typed = record.typed := by
  refine ⟨exists_ofSource?_iff wellFormed, ?_, ?_⟩
  · intro record read
    cases source with
    | object members => exact ⟨members, rfl, readFrom_of_ofSource? wellFormed read⟩
    | _ => cases read
  · intro other moved
    have kept := kept_of_reordered moved wellFormed
    exact ⟨(exists_ofSource?_iff kept.wellFormed).trans kept.isRecord, kept.typed⟩

/-- The members of an action with a signer in each form and a member that no field knows. -/
def signedAct : Members :=
  [("hash", .bool true), ("name", .string "issue"),
    ("authorization", .array [.object [("actor", .string "bob"), ("weight", .number (.int 1)),
      ("permission", .string "active")], .array [.string "eosio", .string "owner"]]),
    ("account", .string "token")]

/-- The members of a source with a given action. -/
def signedMembers (act : Members) : Members :=
  [("node", .null), ("global_sequence", .null), ("block_num", .number (.int 18446744073709551615)),
    ("act", .object act), ("notified", .array [.string "bob"]), ("trx_id", .string "ab"),
    ("@timestamp", .string "2021-01-01T00:00:00")]

/-- The record in that source. -/
def signedRecord : Record where
  timestamp := "2021-01-01T00:00:00"
  blockNum := 18446744073709551615
  trxId := "ab"
  act :=
    { account := "token"
      name := "issue"
      data := .null
      authorization := [⟨"bob", "active"⟩, ⟨"eosio", "owner"⟩]
      extra := [("hash", .bool true)] }
  notified := ["bob"]
  globalSequence := none
  extra := [("node", .null)]

theorem signedRecord_grammar :
    (Json.object (signedMembers signedAct)).WellFormed ∧
      ofSource? (.object (signedMembers signedAct)) = .ok signedRecord ∧
      IsRecord (.object (signedMembers signedAct)) ∧
      signedRecord.ReadFrom (signedMembers signedAct) ∧
      ∃ again, ofSource? (.object (signedMembers signedAct.reverse).reverse) = .ok again ∧
        again.typed = signedRecord.typed := by
  have wellFormed : (Json.object (signedMembers signedAct)).WellFormed := by
    simp [signedMembers, signedAct, Json.WellFormed, Json.WellFormedMembers, Json.WellFormedItems,
      Distinct, names]
  have read : ofSource? (.object (signedMembers signedAct)) = .ok signedRecord := by
    decide +kernel
  obtain ⟨accepted, values, moved⟩ := ofSource?_grammar wellFormed
  have isRecord := accepted.mp ⟨signedRecord, read⟩
  obtain ⟨_, same, readFrom⟩ := values signedRecord read
  cases same
  have reordered : Reordered (.object (signedMembers signedAct))
      (.object (signedMembers signedAct.reverse).reverse) :=
    .trans
      (@Reordered.act ((signedMembers []).take 3) ((signedMembers []).drop 4) _ _
        (List.reverse_perm signedAct).symm)
      (.members (List.reverse_perm _).symm)
  obtain ⟨acceptedAgain, typed⟩ := moved _ reordered
  obtain ⟨again, reread⟩ := acceptedAgain.mpr isRecord
  exact ⟨wellFormed, read, isRecord, readFrom, again, reread, typed signedRecord again read reread⟩

end Record

end TransferHistory
