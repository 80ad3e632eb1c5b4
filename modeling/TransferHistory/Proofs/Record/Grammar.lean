import TransferHistory.Proofs.Json.Kinds
import TransferHistory.Proofs.Json.WellFormed

/-!
# The grammar of action records

Which values are records, said without the reader: the fields that have to be there, the kind of
value that each known field takes, and what a field is when its member is missing. Reading follows
it both ways.

Results:
1. `Authorization.ofJson?_eq_ok_iff`: a signer is read from its two forms, and from nothing else.
2. `Action.exists_ofJson?_iff`, `Action.readFrom_of_ofJson?`: which values are actions, and what an
   action holds of its source.
3. `Record.exists_ofSource?_iff`, `Record.readFrom_of_ofSource?`: the same for records.
-/

namespace TransferHistory

open Json (Mismatch Members)
open Ordered (Distinct get? names)

/-! ## Fields by their names

Reading goes member by member. A field of what is read follows the one member with its name: that
member gives it, and no other one touches it. -/

section Fields

variable {Draft Field : Type} {read : Draft → String × Json → Except Mismatch Draft}

/-- A run goes well exactly if every member has a value that its step takes. -/
theorem exists_foldlM_read_iff {fits : String × Json → Prop}
    (step : ∀ {draft : Draft} {entry : String × Json}, entry.2.WellFormed →
      ((∃ next, read draft entry = .ok next) ↔ fits entry))
    {members : Members} (wellFormed : (Json.object members).WellFormed) (start : Draft) :
    (∃ draft, members.foldlM read start = .ok draft) ↔ ∀ entry ∈ members, fits entry := by
  have each := Json.wellFormedMembers_iff.mp wellFormed.2
  exact exists_foldlM_eq_ok_iff read (fun entry present _ => step (each entry present)) start

/-- A field that is missing at first is in the end what its member says, if that is there. -/
theorem foldlM_read_required {name : String} {field : Draft → Option Field} {write : Field → Json}
    (step : ∀ {before after : Draft} {other : String} {value : Json},
      read before (other, value) = .ok after →
      if other = name then (field after).map write = some value else field after = field before)
    {members : Members} (distinct : Distinct members) {start draft : Draft}
    (missing : field start = none) (wentWell : members.foldlM read start = .ok draft) :
    members.get? name = (field draft).map write := by
  have ⟨present, absent⟩ := Ordered.foldlM_field field
    (fun value given => given.map write = some value) step distinct wentWell
  cases found : members.get? name with
  | none => rw [absent found, missing, Option.map_none]
  | some value => exact (present value found).symm

/-- A field with a value of its own at first keeps that if its member is not there. -/
theorem foldlM_read_optional {name : String} (field : Draft → Field) (write : Field → Json)
    (step : ∀ {before after : Draft} {other : String} {value : Json},
      read before (other, value) = .ok after →
      if other = name then value = write (field after) else field after = field before)
    {members : Members} (distinct : Distinct members) {start draft : Draft}
    (wentWell : members.foldlM read start = .ok draft) :
    (members.get? name).getD (write (field start)) = write (field draft) := by
  have ⟨present, absent⟩ := Ordered.foldlM_field field (fun value given => value = write given) step
    distinct wentWell
  cases found : members.get? name with
  | none => rw [absent found, Option.getD_none]
  | some value => exact present value found

/-- What a run leaves of the members that no field knows: all of them, in their order. -/
theorem foldlM_read_others {fields : List String} {extra : Draft → Members}
    (step : ∀ {before after : Draft} {name : String} {value : Json},
      read before (name, value) = .ok after →
      extra after = if name ∈ fields then extra before else (extra before).set name value)
    {members : Members} {start draft : Draft} (wentWell : members.foldlM read start = .ok draft)
    (distinct : Distinct (extra start ++ members)) :
    extra draft = extra start ++ members.filter fun entry => entry.1 ∉ fields := by
  induction members generalizing start with
  | nil =>
      cases wentWell
      simp
  | cons entry rest ih =>
      obtain ⟨name, value⟩ := entry
      rw [List.foldlM_cons] at wentWell
      obtain ⟨next, head, tail⟩ := bind_eq_ok_iff.mp wentWell
      have first := step head
      by_cases known : name ∈ fields
      · rw [if_pos known] at first
        have fewer : Distinct (extra start ++ rest) := by
          refine List.Nodup.sublist ?_ distinct
          exact ((List.sublist_cons_self _ _).append_left _).map _
        rw [ih tail (first ▸ fewer), first, List.filter_cons_of_neg (by simpa using known)]
      · rw [if_neg known, Ordered.set_of_not_mem ?_] at first
        · have shifted : extra start ++ (name, value) :: rest = extra next ++ rest := by
            rw [first, List.append_assoc, List.singleton_append]
          rw [ih tail (shifted ▸ distinct), first, List.filter_cons_of_pos (by simpa using known),
            List.append_assoc, List.singleton_append]
        · simp only [Distinct, names, List.map_append, List.map_cons, List.nodup_append] at distinct
          exact fun present => distinct.2.2 name present name List.mem_cons_self rfl

end Fields

/-! ## Signers -/

namespace Authorization

/-- How a signer is written: with a member for each field, among others or not, or as its two texts in
order. -/
inductive ReadFrom : Json → Authorization → Prop
  | object {members : Members} {signer : Authorization}
      (actor : members.get? "actor" = some (.string signer.actor))
      (permission : members.get? "permission" = some (.string signer.permission)) :
      ReadFrom (.object members) signer
  | pair (actor permission : String) :
      ReadFrom (.array [.string actor, .string permission]) ⟨actor, permission⟩

/-- What one member does to a signer's fields. -/
structure Draft.Takes (before : Draft) (name : String) (value : Json) (after : Draft) : Prop where
  actor : if name = "actor" then after.actor.map .string = some value else
    after.actor = before.actor
  permission : if name = "permission" then after.permission.map .string = some value else
    after.permission = before.permission

theorem Draft.read_of_not_mem {name : String} (other : name ∉ ["actor", "permission"])
    (draft : Draft) (value : Json) : draft.read (name, value) = .ok draft := by
  simp only [List.mem_cons, List.not_mem_nil, or_false, not_or] at other
  unfold Draft.read
  split <;> simp_all

theorem Draft.takes_of_read {before after : Draft} {name : String} {value : Json}
    (read : before.read (name, value) = .ok after) : before.Takes name value after := by
  by_cases known : name ∈ ["actor", "permission"]
  · simp only [List.mem_cons, List.not_mem_nil, or_false] at known
    rcases known with rfl | rfl
    all_goals
      obtain ⟨text, found, done⟩ := bind_eq_ok_iff.mp read
      cases done
      cases Json.asText_eq_ok_iff.mp found
      constructor <;> simp
  · rw [Draft.read_of_not_mem known] at read
    cases read
    simp only [List.mem_cons, List.not_mem_nil, or_false, not_or] at known
    constructor <;> simp [known]

theorem Draft.exists_read_iff {draft : Draft} {entry : String × Json} :
    (∃ next, draft.read entry = .ok next) ↔
      (entry.1 = "actor" ∨ entry.1 = "permission" → entry.2.IsText) := by
  obtain ⟨name, value⟩ := entry
  by_cases known : name ∈ ["actor", "permission"]
  · simp only [List.mem_cons, List.not_mem_nil, or_false] at known
    rw [← Json.exists_asText_iff]
    rcases known with rfl | rfl
    all_goals exact exists_bind_pure_iff.trans (by simp)
  · rw [Draft.read_of_not_mem known]
    simp only [List.mem_cons, List.not_mem_nil, or_false] at known
    simp [known]

theorem Draft.finish_eq_ok_iff {draft : Draft} {signer : Authorization} :
    draft.finish = .ok signer ↔
      draft.actor = some signer.actor ∧ draft.permission = some signer.permission := by
  obtain ⟨actor, permission⟩ := draft
  obtain ⟨a, p⟩ := signer
  cases actor <;> cases permission <;> simp [finish]

theorem ofItems?_eq_ok_iff {items : List Json} {signer : Authorization} :
    ofItems? items = .ok signer ↔
      items = [.string signer.actor, .string signer.permission] := by
  constructor
  · intro read
    match items with
    | [] => cases read
    | [_] =>
        obtain ⟨_, -, read⟩ := bind_eq_ok_iff.mp read
        cases read
    | first :: second :: rest =>
        obtain ⟨actor, firstRead, read⟩ := bind_eq_ok_iff.mp read
        obtain ⟨permission, secondRead, read⟩ := bind_eq_ok_iff.mp read
        cases Json.asText_eq_ok_iff.mp firstRead
        cases Json.asText_eq_ok_iff.mp secondRead
        cases rest with
        | nil =>
            cases read
            rfl
        | cons third rest => cases read
  · rintro rfl
    rfl

/-- What the members of a signer are read to. -/
theorem foldlM_finish_eq_ok_iff {members : Members} (distinct : Distinct members)
    {signer : Authorization} :
    (do (← members.foldlM Draft.read {}).finish) = .ok signer ↔
      members.get? "actor" = some (.string signer.actor) ∧
        members.get? "permission" = some (.string signer.permission) := by
  have fields {draft : Draft} (wentWell : members.foldlM Draft.read {} = .ok draft) :
      members.get? "actor" = draft.actor.map .string ∧
        members.get? "permission" = draft.permission.map .string :=
    ⟨foldlM_read_required (fun read => (Draft.takes_of_read read).actor) distinct rfl wentWell,
      foldlM_read_required (fun read => (Draft.takes_of_read read).permission) distinct rfl wentWell⟩
  constructor
  · intro read
    obtain ⟨draft, wentWell, finished⟩ := bind_eq_ok_iff.mp read
    obtain ⟨actor, permission⟩ := Draft.finish_eq_ok_iff.mp finished
    obtain ⟨readActor, readPermission⟩ := fields wentWell
    rw [readActor, readPermission, actor, permission]
    exact ⟨rfl, rfl⟩
  · rintro ⟨actor, permission⟩
    have fits : ∀ entry ∈ members, entry.1 = "actor" ∨ entry.1 = "permission" → entry.2.IsText := by
      rintro ⟨name, value⟩ present (rfl | rfl)
      all_goals
        have found := (Ordered.get?_eq_some_iff distinct).mpr present
        simp only [found, Option.some.injEq] at actor permission
        subst_vars
        exact .string _
    obtain ⟨draft, wentWell⟩ :=
      (exists_foldlM_eq_ok_iff Draft.read (fun _ _ _ => Draft.exists_read_iff) {}).mpr fits
    obtain ⟨readActor, readPermission⟩ := fields wentWell
    refine bind_eq_ok_iff.mpr ⟨draft, wentWell, Draft.finish_eq_ok_iff.mpr ?_⟩
    rw [actor] at readActor
    rw [permission] at readPermission
    exact ⟨by simpa using readActor.symm, by simpa using readPermission.symm⟩

/-- A signer is read from its two forms, and from nothing else. -/
theorem ofJson?_eq_ok_iff {value : Json} (wellFormed : value.WellFormed)
    {signer : Authorization} : ofJson? value = .ok signer ↔ ReadFrom value signer := by
  constructor
  · intro read
    cases value with
    | object members =>
        obtain ⟨actor, permission⟩ := (foldlM_finish_eq_ok_iff wellFormed.1).mp read
        exact .object actor permission
    | array items =>
        rw [ofItems?_eq_ok_iff.mp read]
        exact .pair signer.actor signer.permission
    | _ => cases read
  · intro form
    cases form with
    | object actor permission =>
        exact (foldlM_finish_eq_ok_iff wellFormed.1).mpr ⟨actor, permission⟩
    | pair actor permission => rfl

/-- A value writes one signer at most. -/
theorem rightUnique_readFrom : Relator.RightUnique ReadFrom := by
  intro value signer other form again
  cases form with
  | object actor permission =>
      cases again with
      | object otherActor otherPermission =>
          rw [actor] at otherActor
          rw [permission] at otherPermission
          obtain ⟨a, p⟩ := signer
          obtain ⟨b, q⟩ := other
          simp_all
  | pair actor permission =>
      cases again
      rfl

theorem forall₂_readFrom_of_mapM {items : List Json} (wellFormed : (Json.array items).WellFormed)
    {signers : List Authorization} (read : items.mapM ofJson? = .ok signers) :
    List.Forall₂ ReadFrom items signers := by
  have each := Json.wellFormedItems_iff.mp wellFormed
  have both := (List.forall₂_and_left _ _).mpr ⟨each, mapM_eq_ok_iff_forall₂.mp read⟩
  exact both.imp fun _ _ ⟨inner, one⟩ => (ofJson?_eq_ok_iff inner).mp one

end Authorization

/-! ## Actions -/

namespace Action

/-- The values that are actions. -/
inductive IsAction : Json → Prop
  | object {members : Members}
      (account : ∃ text, members.get? "account" = some (.string text))
      (name : ∃ text, members.get? "name" = some (.string text))
      (authorization : ∀ value, members.get? "authorization" = some value →
        value.IsListOf fun item => ∃ signer, Authorization.ReadFrom item signer) :
      IsAction (.object members)

/-- An action holds what its members say: a missing payload is `null`, missing signers are none, and
all members that no field knows are kept in order. -/
structure ReadFrom (act : Action) (members : Members) : Prop where
  account : members.get? "account" = some (.string act.account)
  name : members.get? "name" = some (.string act.name)
  data : (members.get? "data").getD .null = act.data
  authorization : ∃ items, (members.get? "authorization").getD (.array []) = .array items ∧
    List.Forall₂ Authorization.ReadFrom items act.authorization
  extra : act.extra = members.filter fun entry => entry.1 ∉ Action.fields

/-- What one member does to an action's fields. -/
structure Draft.Takes (before : Draft) (key : String) (value : Json) (after : Draft) : Prop where
  account : if key = "account" then after.account.map .string = some value else
    after.account = before.account
  name : if key = "name" then after.name.map .string = some value else after.name = before.name
  data : if key = "data" then value = after.data else after.data = before.data
  authorization :
    if key = "authorization" then
      ∃ items, value = .array items ∧ items.mapM Authorization.ofJson? = .ok after.authorization
    else after.authorization = before.authorization
  extra : after.extra =
    if key ∈ Action.fields then before.extra else before.extra.set key value

theorem Draft.read_authorization (draft : Draft) (value : Json) :
    draft.read ("authorization", value) =
      (do (← value.asItems).mapM Authorization.ofJson?) >>= fun signers =>
        pure { draft with authorization := signers } := by
  rw [bind_assoc]
  rfl

theorem Draft.takes_of_read {before after : Draft} {name : String} {value : Json}
    (read : before.read (name, value) = .ok after) : before.Takes name value after := by
  by_cases known : name ∈ Action.fields
  · simp only [Action.fields, List.mem_cons, List.not_mem_nil, or_false] at known
    rcases known with rfl | rfl | rfl | rfl
    case inr.inr.inl =>
      cases read
      constructor <;> simp [Action.fields]
    case inr.inr.inr =>
      obtain ⟨items, found, read⟩ := bind_eq_ok_iff.mp read
      obtain ⟨signers, each, done⟩ := bind_eq_ok_iff.mp read
      cases done
      cases Json.asItems_eq_ok_iff.mp found
      constructor <;> simp [Action.fields, each]
    all_goals
      obtain ⟨text, found, done⟩ := bind_eq_ok_iff.mp read
      cases done
      cases Json.asText_eq_ok_iff.mp found
      constructor <;> simp [Action.fields]
  · rw [Draft.read_of_not_mem known] at read
    cases read
    simp only [Action.fields, List.mem_cons, List.not_mem_nil, or_false, not_or] at known
    constructor <;> simp [Action.fields, known]

/-- A member has a value of the kind that its name asks for. -/
@[mk_iff]
structure Draft.Fits (entry : String × Json) : Prop where
  text : entry.1 = "account" ∨ entry.1 = "name" → entry.2.IsText
  signers : entry.1 = "authorization" →
    entry.2.IsListOf fun item => ∃ signer, Authorization.ReadFrom item signer

theorem Draft.exists_read_iff {draft : Draft} {entry : String × Json}
    (wellFormed : entry.2.WellFormed) :
    (∃ next, draft.read entry = .ok next) ↔ Draft.Fits entry := by
  obtain ⟨name, value⟩ := entry
  rw [Draft.fits_iff]
  by_cases known : name ∈ Action.fields
  · simp only [Action.fields, List.mem_cons, List.not_mem_nil, or_false] at known
    rcases known with rfl | rfl | rfl | rfl
    case inr.inr.inl => simp [Draft.read]
    case inr.inr.inr =>
      have each : ∀ items, value = .array items → ∀ item ∈ items,
          (∃ signer, Authorization.ofJson? item = .ok signer) ↔
            ∃ signer, Authorization.ReadFrom item signer := by
        rintro items rfl item present
        have inner := Json.wellFormedItems_iff.mp wellFormed item present
        simp only [Authorization.ofJson?_eq_ok_iff inner]
      rw [Draft.read_authorization, exists_bind_pure_iff, Json.exists_mapM_asItems_iff each]
      simp
    all_goals
      rw [← Json.exists_asText_iff]
      exact exists_bind_pure_iff.trans (by simp)
  · rw [Draft.read_of_not_mem known]
    simp only [Action.fields, List.mem_cons, List.not_mem_nil, or_false, not_or] at known
    simp [known]

theorem Draft.finish_eq_ok_iff {draft : Draft} {act : Action} :
    draft.finish = .ok act ↔
      draft.account = some act.account ∧ draft.name = some act.name ∧ draft.data = act.data ∧
        draft.authorization = act.authorization ∧ draft.extra = act.extra := by
  obtain ⟨account, name, data, authorization, extra⟩ := draft
  obtain ⟨a, n, d, s, e⟩ := act
  cases account <;> cases name <;> simp [finish]

/-- What a run over all members leaves in an action's fields. -/
structure Draft.Holds (draft : Draft) (members : Members) : Prop where
  account : members.get? "account" = draft.account.map .string
  name : members.get? "name" = draft.name.map .string
  data : (members.get? "data").getD .null = draft.data
  authorization : ∃ items, (members.get? "authorization").getD (.array []) = .array items ∧
    List.Forall₂ Authorization.ReadFrom items draft.authorization
  extra : draft.extra = members.filter fun entry => entry.1 ∉ Action.fields

theorem Draft.holds_of_foldlM {members : Members} (wellFormed : (Json.object members).WellFormed)
    {draft : Draft} (wentWell : members.foldlM Draft.read {} = .ok draft) : draft.Holds members where
  account := foldlM_read_required (fun read => (Draft.takes_of_read read).account)
    wellFormed.1 rfl wentWell
  name := foldlM_read_required (fun read => (Draft.takes_of_read read).name)
    wellFormed.1 rfl wentWell
  data := foldlM_read_optional Draft.data id
    (fun read => (Draft.takes_of_read read).data) wellFormed.1 wentWell
  authorization := by
    have ⟨present, absent⟩ := Ordered.foldlM_field Draft.authorization
      (fun value signers => ∃ items, value = .array items ∧
        items.mapM Authorization.ofJson? = .ok signers)
      (fun read => (Draft.takes_of_read read).authorization) wellFormed.1 wentWell
    cases found : members.get? "authorization" with
    | none =>
        rw [absent found]
        exact ⟨[], rfl, .nil⟩
    | some value =>
        obtain ⟨items, rfl, read⟩ := present value found
        have inner := Json.wellFormedMembers_iff.mp wellFormed.2 _ (Ordered.mem_of_get? found)
        exact ⟨items, rfl, Authorization.forall₂_readFrom_of_mapM inner read⟩
  extra := foldlM_read_others (fun read => (Draft.takes_of_read read).extra) wentWell wellFormed.1

theorem readFrom_of_ofJson? {value : Json} (wellFormed : value.WellFormed) {act : Action}
    (read : ofJson? value = .ok act) :
    ∃ members, value = .object members ∧ act.ReadFrom members := by
  cases value with
  | object members =>
      obtain ⟨draft, wentWell, finished⟩ := bind_eq_ok_iff.mp read
      obtain ⟨account, name, data, authorization, extra⟩ := Draft.finish_eq_ok_iff.mp finished
      have holds := Draft.holds_of_foldlM wellFormed wentWell
      refine ⟨members, rfl, ?_, ?_, ?_, ?_, ?_⟩
      · rw [holds.account, account, Option.map_some]
      · rw [holds.name, name, Option.map_some]
      · rw [holds.data, data]
      · rw [← authorization]
        exact holds.authorization
      · rw [← extra, holds.extra]
  | _ => cases read

theorem IsAction.fits {members : Members} (distinct : Distinct members)
    (isAction : IsAction (.object members)) : ∀ entry ∈ members, Draft.Fits entry := by
  obtain ⟨⟨account, hasAccount⟩, ⟨name, hasName⟩, authorization⟩ := isAction
  rintro ⟨field, value⟩ present
  have found := (Ordered.get?_eq_some_iff distinct).mpr present
  constructor
  · rintro (rfl | rfl)
    · cases hasAccount.symm.trans found
      exact .string account
    · cases hasName.symm.trans found
      exact .string name
  · rintro rfl
    exact authorization value found

/-- The values that are actions are those that reading takes. -/
theorem exists_ofJson?_iff {value : Json} (wellFormed : value.WellFormed) :
    (∃ act, ofJson? value = .ok act) ↔ IsAction value := by
  constructor
  · rintro ⟨act, read⟩
    obtain ⟨members, rfl, readFrom⟩ := readFrom_of_ofJson? wellFormed read
    obtain ⟨draft, wentWell, -⟩ := bind_eq_ok_iff.mp read
    have each := (exists_foldlM_read_iff Draft.exists_read_iff wellFormed {}).mp ⟨draft, wentWell⟩
    refine .object ⟨_, readFrom.account⟩ ⟨_, readFrom.name⟩ ?_
    exact fun value found => (each _ (Ordered.mem_of_get? found)).signers rfl
  · intro isAction
    cases value with
    | object members =>
        have ⟨⟨account, hasAccount⟩, ⟨name, hasName⟩, _⟩ := isAction
        obtain ⟨draft, wentWell⟩ :=
          (exists_foldlM_read_iff Draft.exists_read_iff wellFormed {}).mpr
            (isAction.fits wellFormed.1)
        have holds := Draft.holds_of_foldlM wellFormed wentWell
        have readAccount := holds.account.symm.trans hasAccount
        have readName := holds.name.symm.trans hasName
        simp only [Option.map_eq_some_iff, Json.string.injEq, exists_eq_right]
          at readAccount readName
        exact ⟨⟨account, name, draft.data, draft.authorization, draft.extra⟩,
          bind_eq_ok_iff.mpr ⟨draft, wentWell, Draft.finish_eq_ok_iff.mpr
            ⟨readAccount, readName, rfl, rfl, rfl⟩⟩⟩
    | _ => cases isAction

end Action

/-! ## Records -/

namespace Record

/-- The values that are records. -/
inductive IsRecord : Json → Prop
  | object {members : Members}
      (timestamp : ∃ text, members.get? "@timestamp" = some (.string text))
      (blockNum : ∃ value, members.get? "block_num" = some value ∧ value.IsWord64)
      (trxId : ∃ text, members.get? "trx_id" = some (.string text))
      (act : ∃ value, members.get? "act" = some value ∧ Action.IsAction value)
      (notified : ∀ value, members.get? "notified" = some value → value.IsListOf Json.IsText)
      (globalSequence : ∀ value, members.get? "global_sequence" = some value →
        value = .null ∨ value.IsWord64) :
      IsRecord (.object members)

/-- A record holds what its members say: a missing list is empty, a missing number is none, and all
members that no field knows are kept in order. -/
structure ReadFrom (record : Record) (members : Members) : Prop where
  timestamp : members.get? "@timestamp" = some (.string record.timestamp)
  blockNum : members.get? "block_num" = some (.ofWord64 record.blockNum)
  trxId : members.get? "trx_id" = some (.string record.trxId)
  act : ∃ inner, members.get? "act" = some (.object inner) ∧ record.act.ReadFrom inner
  notified : (members.get? "notified").getD (.array []) = .ofStrings record.notified
  globalSequence : (members.get? "global_sequence").getD .null =
    (record.globalSequence.map .ofWord64).getD .null
  extra : record.extra = members.filter fun entry => entry.1 ∉ Record.fields

/-- What one member does to a record's fields. -/
structure Draft.Takes (before : Draft) (key : String) (value : Json) (after : Draft) : Prop where
  timestamp : if key = "@timestamp" then after.timestamp.map .string = some value else
    after.timestamp = before.timestamp
  blockNum : if key = "block_num" then after.blockNum.map .ofWord64 = some value else
    after.blockNum = before.blockNum
  trxId : if key = "trx_id" then after.trxId.map .string = some value else
    after.trxId = before.trxId
  act : if key = "act" then ∃ act, Action.ofJson? value = .ok act ∧ after.act = some act else
    after.act = before.act
  notified : if key = "notified" then value = .ofStrings after.notified else
    after.notified = before.notified
  globalSequence :
    if key = "global_sequence" then value = (after.globalSequence.map .ofWord64).getD .null
    else after.globalSequence = before.globalSequence
  extra : after.extra =
    if key ∈ Record.fields then before.extra else before.extra.set key value

theorem Draft.takes_of_read {before after : Draft} {name : String} {value : Json}
    (read : before.read (name, value) = .ok after) : before.Takes name value after := by
  by_cases known : name ∈ Record.fields
  · simp only [Record.fields, List.mem_cons, List.not_mem_nil, or_false] at known
    rcases known with rfl | rfl | rfl | rfl | rfl | rfl
    all_goals
      obtain ⟨field, found, done⟩ := bind_eq_ok_iff.mp read
      cases done
    · cases Json.asText_eq_ok_iff.mp found
      constructor <;> simp [Record.fields]
    · cases Json.asWord64_eq_ok_iff.mp found
      constructor <;> simp [Record.fields]
    · cases Json.asText_eq_ok_iff.mp found
      constructor <;> simp [Record.fields]
    · constructor <;> simp [Record.fields, found]
    · cases Json.asTexts_eq_ok_iff.mp found
      constructor <;> simp [Record.fields]
    · cases Json.optional_asWord64_eq_ok_iff.mp found
      constructor <;> simp [Record.fields]
  · rw [Draft.read_of_not_mem known] at read
    cases read
    simp only [Record.fields, List.mem_cons, List.not_mem_nil, or_false, not_or] at known
    constructor <;> simp [Record.fields, known]

/-- A member has a value of the kind that its name asks for. -/
@[mk_iff]
structure Draft.Fits (entry : String × Json) : Prop where
  text : entry.1 = "@timestamp" ∨ entry.1 = "trx_id" → entry.2.IsText
  blockNum : entry.1 = "block_num" → entry.2.IsWord64
  act : entry.1 = "act" → Action.IsAction entry.2
  notified : entry.1 = "notified" → entry.2.IsListOf Json.IsText
  globalSequence : entry.1 = "global_sequence" → entry.2 = .null ∨ entry.2.IsWord64

theorem Draft.exists_read_iff {draft : Draft} {entry : String × Json}
    (wellFormed : entry.2.WellFormed) :
    (∃ next, draft.read entry = .ok next) ↔ Draft.Fits entry := by
  obtain ⟨name, value⟩ := entry
  rw [Draft.fits_iff, ← Json.exists_asText_iff, ← Json.exists_asWord64_iff,
    ← Action.exists_ofJson?_iff wellFormed, ← Json.exists_asTexts_iff]
  by_cases known : name ∈ Record.fields
  · simp only [Record.fields, List.mem_cons, List.not_mem_nil, or_false] at known
    rcases known with rfl | rfl | rfl | rfl | rfl | rfl
    case inr.inr.inr.inr.inr =>
      rw [Json.exists_asWord64_iff, ← Json.exists_optional_asWord64_iff]
      exact exists_bind_pure_iff.trans (by simp)
    all_goals exact exists_bind_pure_iff.trans (by simp)
  · rw [Draft.read_of_not_mem known]
    simp only [Record.fields, List.mem_cons, List.not_mem_nil, or_false, not_or] at known
    simp [known]

theorem Draft.finish_eq_ok_iff {draft : Draft} {record : Record} :
    draft.finish = .ok record ↔
      (draft.timestamp = some record.timestamp ∧ draft.blockNum = some record.blockNum ∧
        draft.trxId = some record.trxId ∧ draft.act = some record.act) ∧
        draft.notified = record.notified ∧ draft.globalSequence = record.globalSequence ∧
        draft.extra = record.extra := by
  obtain ⟨timestamp, blockNum, trxId, act, notified, globalSequence, extra⟩ := draft
  obtain ⟨t, b, i, a, n, g, e⟩ := record
  cases timestamp <;> cases blockNum <;> cases trxId <;> cases act <;> simp [finish, and_assoc]

/-- What a run over all members leaves in a record's fields. -/
structure Draft.Holds (draft : Draft) (members : Members) : Prop where
  timestamp : members.get? "@timestamp" = draft.timestamp.map .string
  blockNum : members.get? "block_num" = draft.blockNum.map .ofWord64
  trxId : members.get? "trx_id" = draft.trxId.map .string
  act : ∀ value, members.get? "act" = some value →
    ∃ inner act, value = .object inner ∧ act.ReadFrom inner ∧ draft.act = some act
  noAct : members.get? "act" = none → draft.act = none
  notified : (members.get? "notified").getD (.array []) = .ofStrings draft.notified
  globalSequence : (members.get? "global_sequence").getD .null =
    (draft.globalSequence.map .ofWord64).getD .null
  extra : draft.extra = members.filter fun entry => entry.1 ∉ Record.fields

theorem Draft.holds_of_foldlM {members : Members} (wellFormed : (Json.object members).WellFormed)
    {draft : Draft} (wentWell : members.foldlM Draft.read {} = .ok draft) : draft.Holds members where
  timestamp := foldlM_read_required (fun read => (Draft.takes_of_read read).timestamp)
    wellFormed.1 rfl wentWell
  blockNum := foldlM_read_required (fun read => (Draft.takes_of_read read).blockNum)
    wellFormed.1 rfl wentWell
  trxId := foldlM_read_required (fun read => (Draft.takes_of_read read).trxId)
    wellFormed.1 rfl wentWell
  act := by
    intro value found
    have ⟨present, _⟩ := Ordered.foldlM_field Draft.act
      (fun value field => ∃ act, Action.ofJson? value = .ok act ∧ field = some act)
      (fun read => (Draft.takes_of_read read).act) wellFormed.1 wentWell
    obtain ⟨act, read, kept⟩ := present value found
    have inner := Json.wellFormedMembers_iff.mp wellFormed.2 _ (Ordered.mem_of_get? found)
    obtain ⟨members, rfl, readFrom⟩ := Action.readFrom_of_ofJson? inner read
    exact ⟨members, act, rfl, readFrom, kept⟩
  noAct := by
    have ⟨_, absent⟩ := Ordered.foldlM_field Draft.act
      (fun value field => ∃ act, Action.ofJson? value = .ok act ∧ field = some act)
      (fun read => (Draft.takes_of_read read).act) wellFormed.1 wentWell
    exact absent
  notified := foldlM_read_optional Draft.notified .ofStrings
    (fun read => (Draft.takes_of_read read).notified) wellFormed.1 wentWell
  globalSequence := foldlM_read_optional Draft.globalSequence
    (fun number => (number.map .ofWord64).getD .null)
    (fun read => (Draft.takes_of_read read).globalSequence) wellFormed.1 wentWell
  extra := foldlM_read_others (fun read => (Draft.takes_of_read read).extra) wentWell wellFormed.1

theorem readFrom_of_ofSource? {members : Members} (wellFormed : (Json.object members).WellFormed)
    {record : Record} (read : ofSource? (.object members) = .ok record) :
    record.ReadFrom members := by
  obtain ⟨draft, wentWell, finished⟩ := ofSource?_object_eq_ok_iff.mp read
  obtain ⟨⟨timestamp, blockNum, trxId, act⟩, notified, globalSequence, extra⟩ :=
    Draft.finish_eq_ok_iff.mp finished
  have holds := Draft.holds_of_foldlM wellFormed wentWell
  refine ⟨?_, ?_, ?_, ?_, ?_, ?_, ?_⟩
  · rw [holds.timestamp, timestamp, Option.map_some]
  · rw [holds.blockNum, blockNum, Option.map_some]
  · rw [holds.trxId, trxId, Option.map_some]
  · cases found : Ordered.get? "act" members with
    | none => cases act.symm.trans (holds.noAct found)
    | some value =>
        obtain ⟨inner, other, rfl, readFrom, kept⟩ := holds.act value found
        cases act.symm.trans kept
        exact ⟨inner, rfl, readFrom⟩
  · rw [holds.notified, notified]
  · rw [holds.globalSequence, globalSequence]
  · rw [← extra, holds.extra]

theorem IsRecord.fits {members : Members} (distinct : Distinct members)
    (isRecord : IsRecord (.object members)) : ∀ entry ∈ members, Draft.Fits entry := by
  obtain ⟨⟨timestamp, hasTimestamp⟩, ⟨block, hasBlock, isBlock⟩, ⟨trxId, hasTrxId⟩,
    ⟨act, hasAct, isAct⟩, notified, globalSequence⟩ := isRecord
  rintro ⟨field, value⟩ present
  have found := (Ordered.get?_eq_some_iff distinct).mpr present
  constructor
  · rintro (rfl | rfl)
    · cases hasTimestamp.symm.trans found
      exact .string timestamp
    · cases hasTrxId.symm.trans found
      exact .string trxId
  · rintro rfl
    cases hasBlock.symm.trans found
    exact isBlock
  · rintro rfl
    cases hasAct.symm.trans found
    exact isAct
  · rintro rfl
    exact notified value found
  · rintro rfl
    exact globalSequence value found

/-- The values that are records are those that reading takes. -/
theorem exists_ofSource?_iff {source : Json} (wellFormed : source.WellFormed) :
    (∃ record, ofSource? source = .ok record) ↔ IsRecord source := by
  constructor
  · rintro ⟨record, read⟩
    cases source with
    | object members =>
        have readFrom := readFrom_of_ofSource? wellFormed read
        obtain ⟨inner, hasAct, -⟩ := readFrom.act
        obtain ⟨draft, wentWell, -⟩ := ofSource?_object_eq_ok_iff.mp read
        have each := (exists_foldlM_read_iff Draft.exists_read_iff wellFormed {}).mp
          ⟨draft, wentWell⟩
        have fits {name : String} {value : Json} (found : Ordered.get? name members = some value) :
            Draft.Fits (name, value) := each _ (Ordered.mem_of_get? found)
        exact .object ⟨_, readFrom.timestamp⟩
          ⟨_, readFrom.blockNum, (fits readFrom.blockNum).blockNum rfl⟩ ⟨_, readFrom.trxId⟩
          ⟨_, hasAct, (fits hasAct).act rfl⟩ (fun _ found => (fits found).notified rfl)
          (fun _ found => (fits found).globalSequence rfl)
    | _ => cases read
  · intro isRecord
    cases source with
    | object members =>
        have ⟨⟨timestamp, hasTimestamp⟩, ⟨_, hasBlock, _⟩, ⟨trxId, hasTrxId⟩, ⟨act, hasAct, _⟩,
          _, _⟩ := isRecord
        obtain ⟨draft, wentWell⟩ :=
          (exists_foldlM_read_iff Draft.exists_read_iff wellFormed {}).mpr
            (isRecord.fits wellFormed.1)
        have holds := Draft.holds_of_foldlM wellFormed wentWell
        have readTimestamp := holds.timestamp.symm.trans hasTimestamp
        have readBlock := holds.blockNum.symm.trans hasBlock
        have readTrxId := holds.trxId.symm.trans hasTrxId
        obtain ⟨inner, readAct, -, -, actKept⟩ := holds.act act hasAct
        simp only [Option.map_eq_some_iff, Json.string.injEq, exists_eq_right]
          at readTimestamp readBlock readTrxId
        obtain ⟨blockNum, blockKept, -⟩ := readBlock
        exact ⟨⟨timestamp, blockNum, trxId, readAct, draft.notified, draft.globalSequence,
          draft.extra⟩, ofSource?_object_eq_ok_iff.mpr ⟨draft, wentWell,
            Draft.finish_eq_ok_iff.mpr
              ⟨⟨readTimestamp, blockKept, readTrxId, actKept⟩, rfl, rfl, rfl⟩⟩⟩
    | _ => cases isRecord

end Record

end TransferHistory
