import TransferHistory.Proofs.Record.Steps
import TransferHistory.Proofs.Result
import TransferHistory.Record.Projection
import TransferHistory.ResultEq
import TransferHistory.Search.Hits

/-!
# Pages of hits

A page is read completely or not at all. Its only faults are a list of hits that is none and a bad hit
(`Faulty`), and of several bad hits the first one is reported (`FirstFault`). A page that was read is
projected record by record: what is answered for one hit does not depend on the others.

Results:
1. `SearchHits.readHit_eq_error_iff`, `SearchHits.readHit_eq_ok_iff`: how one hit is read.
2. `SearchHits.ofResponse_eq_error_iff`, `SearchHits.exists_firstFault_iff`: when a page is refused.
3. `ProjectionOptions.only_project`, `ProjectionOptions.exists_row_project`: projecting record by
   record.
4. `SearchHits.page_whole`: a page is refused for its first fault, or answered whole.
-/

namespace TransferHistory

open Json (Members)

theorem Json.get?_eq_some_iff {name : String} {value found : Json} :
    value.get? name = some found ↔
      ∃ members : Members, value = .object members ∧ members.get? name = some found := by
  cases value with
  | object members => simp [Json.get?]
  | _ => simp [Json.get?]

theorem Json.get?_eq_none_iff {name : String} {value : Json} :
    value.get? name = none ↔
      ∀ members : Members, value = .object members → members.get? name = none := by
  cases value with
  | object members => simp [Json.get?]
  | _ => simp [Json.get?]

namespace SearchHits

/-! ## One hit -/

/-- What is wrong with a hit: it has no source, as when it is no object, or its source is no
record. -/
inductive Faulty (hit : Json) : Defect → Prop
  | noSource (missing : ∀ members : Members, hit = .object members →
      members.get? "_source" = none) : Faulty hit .noSource
  | record {members : Members} {source : Json} {error : RecordError}
      (whole : hit = .object members) (given : members.get? "_source" = some source)
      (refused : Record.ofSource? source = .error error) : Faulty hit (.record error)

theorem readHit_eq_ok_iff {hit : Json} {record : Record} :
    readHit hit = .ok record ↔
      ∃ source, hit.get? "_source" = some source ∧ Record.ofSource? source = .ok record := by
  unfold readHit
  cases given : hit.get? "_source" with
  | none => simp
  | some source => cases read : Record.ofSource? source <;> simp [read]

theorem readHit_eq_error_iff {hit : Json} {failure : Failure} :
    readHit hit = .error failure ↔ ∃ defect, Faulty hit defect ∧ failure = .malformed defect := by
  constructor
  · intro failed
    unfold readHit at failed
    cases given : hit.get? "_source" with
    | none =>
        simp only [given, Except.error.injEq] at failed
        exact ⟨.noSource, .noSource (Json.get?_eq_none_iff.mp given), failed.symm⟩
    | some source =>
        obtain ⟨members, whole, found⟩ := Json.get?_eq_some_iff.mp given
        cases read : Record.ofSource? source with
        | ok record => simp [given, read] at failed
        | error error =>
            simp only [given, read, Except.error.injEq] at failed
            exact ⟨.record error, .record whole found read, failed.symm⟩
  · rintro ⟨defect, faulty, same⟩
    subst same
    unfold readHit
    cases faulty with
    | noSource missing => rw [Json.get?_eq_none_iff.mpr missing]
    | record whole given refused =>
        rw [Json.get?_eq_some_iff.mpr ⟨_, whole, given⟩]
        simp only [refused]

/-- A hit is read or has a defect. -/
theorem exists_faulty_iff {hit : Json} :
    (∃ defect, Faulty hit defect) ↔ ¬ ∃ record, readHit hit = .ok record := by
  cases read : readHit hit with
  | ok record =>
      simp only [Except.ok.injEq, exists_eq', not_true, iff_false]
      rintro ⟨defect, faulty⟩
      have failed := readHit_eq_error_iff.mpr ⟨defect, faulty, rfl⟩
      rw [read] at failed
      cases failed
  | error failure =>
      obtain ⟨defect, faulty, -⟩ := readHit_eq_error_iff.mp read
      simp only [reduceCtorEq, exists_false, not_false_eq_true, iff_true]
      exact ⟨defect, faulty⟩

/-! ## A page -/

/-- The first thing that is wrong with the object that holds the hits: its list of hits is none, or
the first bad hit of the list. -/
inductive FirstFault (holder : Members) : Defect → Prop
  | hitsNotAList {other : Json} (given : holder.get? "hits" = some other)
      (noList : ∀ hits, other ≠ .array hits) : FirstFault holder .hitsNotAList
  | hit {before : List Json} {hit : Json} {after : List Json} {defect : Defect}
      (given : holder.get? "hits" = some (.array (before ++ hit :: after)))
      (sound : ∀ earlier ∈ before, ¬ ∃ defect, Faulty earlier defect) (faulty : Faulty hit defect) :
      FirstFault holder defect

theorem readList_eq_ok_iff {holder : Members} {hits : List Json} :
    readList (.object holder) = .ok hits ↔
      (holder.get? "hits").getD (.array []) = .array hits := by
  unfold readList Json.get?
  cases given : holder.get? "hits" with
  | none => simp [given, eq_comm]
  | some other => cases other <;> simp [given]

theorem readList_eq_error_iff {holder : Members} {failure : Failure} :
    readList (.object holder) = .error failure ↔
      (∃ other, holder.get? "hits" = some other ∧ ∀ hits, other ≠ .array hits) ∧
        failure = .malformed .hitsNotAList := by
  unfold readList Json.get?
  cases given : holder.get? "hits" with
  | none => simp [given]
  | some other => cases other <;> simp [given, eq_comm]

/-- A list with a hit in it is not missing. -/
theorem given_of_mem {holder : Members} {hits : List Json} {hit : Json}
    (list : (holder.get? "hits").getD (.array []) = .array hits) (present : hit ∈ hits) :
    holder.get? "hits" = some (.array hits) := by
  cases given : holder.get? "hits" with
  | none =>
      rw [given, Option.getD_none, Json.array.injEq] at list
      subst list
      exact absurd present List.not_mem_nil
  | some other =>
      rw [given, Option.getD_some] at list
      rw [list]

variable {body : Json} {holder : Members}

/-- The steps in which a page is read. -/
theorem ofResponse_of_get? (found : body.get? "hits" = some (.object holder)) :
    ofResponse body = readList (.object holder) >>= fun hits => hits.mapM readHit >>= fun records =>
      .ok ⟨(holder.get? "total").getD .null, records⟩ := by
  unfold ofResponse
  rw [found]
  rfl

/-- A page is read from its list of hits, hit by hit, with the total as it was found. -/
theorem ofResponse_eq_ok_iff (found : body.get? "hits" = some (.object holder))
    {page : SearchHits} :
    ofResponse body = .ok page ↔
      ∃ hits, (holder.get? "hits").getD (.array []) = .array hits ∧
        hits.mapM readHit = .ok page.records ∧ page.total = (holder.get? "total").getD .null := by
  simp only [ofResponse_of_get? found, bind_eq_ok_iff, readList_eq_ok_iff]
  constructor
  · rintro ⟨hits, list, records, read, done⟩
    cases done
    exact ⟨hits, list, read, rfl⟩
  · rintro ⟨hits, list, read, total⟩
    exact ⟨hits, list, page.records, read, by rw [← total]⟩

/-- A page is refused for its first fault. -/
theorem ofResponse_eq_error_iff (found : body.get? "hits" = some (.object holder))
    {failure : Failure} :
    ofResponse body = .error failure ↔
      ∃ defect, FirstFault holder defect ∧ failure = .malformed defect := by
  simp only [ofResponse_of_get? found, bind_eq_error_iff, readList_eq_ok_iff,
    readList_eq_error_iff, mapM_eq_error_iff, readHit_eq_error_iff, reduceCtorEq, and_false,
    exists_false, or_false]
  constructor
  · rintro (⟨⟨other, given, noList⟩, same⟩ | ⟨hits, list, before, hit, after, split, read, faulty⟩)
    · exact ⟨.hitsNotAList, .hitsNotAList given noList, same⟩
    · obtain ⟨defect, faulty, same⟩ := faulty
      subst split
      have sound : ∀ earlier ∈ before, ¬ ∃ defect, Faulty earlier defect := by
        intro earlier present
        rw [exists_faulty_iff, not_not]
        exact read earlier present
      have present : hit ∈ before ++ hit :: after := List.mem_append_right before List.mem_cons_self
      exact ⟨defect, .hit (given_of_mem list present) sound faulty, same⟩
  · rintro ⟨defect, fault, same⟩
    cases fault with
    | hitsNotAList given noList => exact Or.inl ⟨⟨_, given, noList⟩, same⟩
    | hit given sound faulty =>
        refine Or.inr ⟨_, by rw [given, Option.getD_some], _, _, _, rfl, ?_, _, faulty, same⟩
        intro earlier present
        have read := sound earlier present
        rwa [exists_faulty_iff, not_not] at read

/-- A page has a first fault if it has any. -/
theorem exists_firstFault_iff :
    (∃ defect, FirstFault holder defect) ↔
      (∃ other, holder.get? "hits" = some other ∧ ∀ hits, other ≠ .array hits) ∨
        ∃ hits, holder.get? "hits" = some (.array hits) ∧
          ∃ hit ∈ hits, ∃ defect, Faulty hit defect := by
  constructor
  · rintro ⟨defect, fault⟩
    cases fault with
    | hitsNotAList given noList => exact Or.inl ⟨_, given, noList⟩
    | hit given sound faulty =>
        exact Or.inr ⟨_, given, _, List.mem_append_right _ List.mem_cons_self, _, faulty⟩
  · rintro (⟨other, given, noList⟩ | ⟨hits, given, hit, present, faulty⟩)
    · exact ⟨.hitsNotAList, .hitsNotAList given noList⟩
    · -- Reading the hits stops at the first bad one, so it is enough that it stops.
      have page : Json.get? "hits" (.object [("hits", .object holder)]) = some (.object holder) := rfl
      cases read : ofResponse (.object [("hits", .object holder)]) with
      | error failure =>
          obtain ⟨defect, fault, -⟩ := (ofResponse_eq_error_iff page).mp read
          exact ⟨defect, fault⟩
      | ok found =>
          obtain ⟨listed, list, readAll, -⟩ := (ofResponse_eq_ok_iff page).mp read
          rw [given, Option.getD_some, Json.array.injEq] at list
          subst list
          have known := List.mem_map_of_mem (f := readHit) present
          rw [mapM_eq_ok_iff.mp readAll] at known
          obtain ⟨record, -, done⟩ := List.mem_map.mp known
          exact absurd ⟨record, done.symm⟩ (exists_faulty_iff.mp faulty)

end SearchHits

/-! ## Projecting record by record -/

/-- The part of an answer that holds only the record at a place. -/
def Projection.only (place : Nat) : Projection → Projection
  | .simple rows => .simple rows[place]?.toList
  | .full records => .full records[place]?.toList

/-- A row says whether it is irreversible in the member of that name, or has no such member. -/
theorem Row.get?_irreversible (row : Row) :
    row.toJson.get? "irreversible" = row.irreversible.map Json.bool := by
  cases known : row.irreversible <;> simp [toJson, known, Json.get?, Ordered.get?]

theorem Record.blockNum_enrich (record : Record) : record.enrich.blockNum = record.blockNum := by
  unfold enrich foldDecoded
  split <;> rfl

namespace ProjectionOptions

theorem blockNum_prepare (options : ProjectionOptions) (record : Record) :
    (options.prepare record).blockNum = record.blockNum := by
  have enriched := record.blockNum_enrich
  unfold prepare
  split
  · exact enriched
  · exact enriched

/-- What is answered for a record does not depend on the other records of its page. -/
theorem only_project (options : ProjectionOptions) {records : List Record} {place : Nat}
    {record : Record} (given : records[place]? = some record) :
    (options.project records).only place = options.project [record] := by
  cases simple : options.simple <;> simp [project, simple, Projection.only, given]

/-- A row is marked against the last irreversible block exactly if that is known. -/
theorem exists_row_project {options : ProjectionOptions} (simple : options.simple = true)
    (record : Record) :
    ∃ row, options.project [record] = .simple [row] ∧
      row.toJson.get? "irreversible" =
        options.lib.map fun last => Json.bool (decide (record.blockNum < last)) := by
  refine ⟨(options.prepare record).toRow options.lib, by simp [project, simple], ?_⟩
  rw [Row.get?_irreversible, Record.toRow, blockNum_prepare, Option.map_map]
  rfl

end ProjectionOptions

namespace SearchHits

variable {body : Json} {holder : Members}

/-- An answer of the search service whose `hits` is an object is refused exactly if its list of hits is
there and is none, or if one of the hits has no source or a source that is no record; what is reported
is the first fault, as a malformed answer. Any other answer gives a page with the total as it was
found. However the page is projected, it has one record for every hit, in the order of the hits, and
each is what a page with nothing but its source is projected to. In the compact form every record says
whether its block is below the last irreversible one if that is known, and none says so if it is
not. -/
theorem page_whole (found : body.get? "hits" = some (.object holder)) :
    ((∃ failure, ofResponse body = .error failure) ↔
      (∃ other, holder.get? "hits" = some other ∧ ∀ hits, other ≠ .array hits) ∨
        ∃ hits, holder.get? "hits" = some (.array hits) ∧
          ∃ hit ∈ hits, ∃ defect, Faulty hit defect) ∧
    (∀ failure, ofResponse body = .error failure ↔
      ∃ defect, FirstFault holder defect ∧ failure = .malformed defect) ∧
    ((∀ defect, ¬ FirstFault holder defect) →
      ∃ page hits, ofResponse body = .ok page ∧
        (holder.get? "hits").getD (.array []) = .array hits ∧
        page.total = (holder.get? "total").getD .null ∧
        ∀ options : ProjectionOptions,
          (options.project page.records).size = hits.length ∧
          ∀ place hit, hits[place]? = some hit →
            ∃ source record, hit.get? "_source" = some source ∧
              Record.ofSource? source = .ok record ∧
              (options.project page.records).only place = options.project [record] ∧
              (options.simple = true → ∃ row, options.project [record] = .simple [row] ∧
                row.toJson.get? "irreversible" =
                  options.lib.map fun last => Json.bool (decide (record.blockNum < last)))) := by
  refine ⟨?_, fun failure => ofResponse_eq_error_iff found, ?_⟩
  · simp only [← exists_firstFault_iff, ofResponse_eq_error_iff found]
    constructor
    · rintro ⟨failure, defect, fault, -⟩
      exact ⟨defect, fault⟩
    · rintro ⟨defect, fault⟩
      exact ⟨.malformed defect, defect, fault, rfl⟩
  · intro faultless
    cases read : ofResponse body with
    | error failure =>
        obtain ⟨defect, fault, -⟩ := (ofResponse_eq_error_iff found).mp read
        exact absurd fault (faultless defect)
    | ok page =>
        obtain ⟨hits, list, readAll, total⟩ := (ofResponse_eq_ok_iff found).mp read
        have same := mapM_eq_ok_iff.mp readAll
        refine ⟨page, hits, rfl, list, total, fun options => ⟨?_, fun place hit given => ?_⟩⟩
        · rw [options.size_project]
          simpa using (congrArg List.length same).symm
        · -- The record at a place is the one that the hit at that place was read as.
          have there := congrArg (fun results => results[place]?) same
          simp only [List.getElem?_map, given, Option.map_some] at there
          obtain ⟨record, known, done⟩ := Option.map_eq_some_iff.mp there.symm
          obtain ⟨source, sourced, accepted⟩ := readHit_eq_ok_iff.mp done.symm
          exact ⟨source, record, sourced, accepted, options.only_project known,
            fun simple => ProjectionOptions.exists_row_project simple record⟩

/-- An object that holds some hits of seven. -/
def holderOf (hits : List Json) : Members :=
  [("total", .number (.int 7)), ("hits", .array hits)]

/-- An answer of the search service with that object. -/
def answerWith (hits : List Json) : Json :=
  .object [("took", .number (.int 3)), ("hits", .object (holderOf hits))]

/-- A source in block 9 with nothing but what a record needs. -/
def laterSource : Json :=
  .object [("@timestamp", .string "2021-01-02T00:00:00"), ("block_num", .number (.int 9)),
    ("trx_id", .string "cd"),
    ("act", .object [("account", .string "eosio"), ("name", .string "onblock")])]

/-- A hit with that source. -/
def laterHit : Json :=
  .object [("_source", laterSource)]

/-- A hit with the source of a transfer in block 7. -/
def transferHit : Json :=
  .object [("_index", .string "eos-action-1"), ("_source", Record.transferSource)]

/-- An answer with two good hits. -/
def goodAnswer : Json :=
  answerWith [transferHit, laterHit]

/-- A hit whose source is no record, and one that has no source. -/
def badHits : List Json :=
  [.object [("_source", .null)], .string "hit"]

/-- An answer with these behind a good hit. -/
def badAnswer : Json :=
  answerWith ([transferHit] ++ badHits)

/-- Of two good hits both are answered, and the second one is not irreversible at block 8. Of two bad
hits the first one is reported, and the good one before it is not answered. -/
theorem goodAnswer_whole :
    (∃ page, ofResponse goodAnswer = .ok page ∧ page.total = .number (.int 7) ∧
      (ProjectionOptions.project { lib := some 8 } page.records).size = 2 ∧
      ∃ row, (ProjectionOptions.project { lib := some 8 } page.records).only 1 = .simple [row] ∧
        row.toJson.get? "irreversible" = some (.bool false)) ∧
    ofResponse badAnswer = .error (.malformed (.record .notAnObject)) := by
  constructor
  · have found : goodAnswer.get? "hits" = some (.object (holderOf [transferHit, laterHit])) := rfl
    obtain ⟨-, refused, whole⟩ := page_whole found
    have read : (ofResponse goodAnswer).isOk = true := by decide +kernel
    have faultless : ∀ defect, ¬ FirstFault (holderOf [transferHit, laterHit]) defect := by
      intro defect fault
      rw [(refused (.malformed defect)).mpr ⟨defect, fault, rfl⟩] at read
      cases read
    obtain ⟨page, hits, answered, list, total, projected⟩ := whole faultless
    cases list
    obtain ⟨size, each⟩ := projected { lib := some 8 }
    obtain ⟨source, record, sourced, accepted, only, marked⟩ := each 1 laterHit rfl
    obtain ⟨row, alone, mark⟩ := marked rfl
    refine ⟨page, answered, total, size, row, only.trans alone, ?_⟩
    cases sourced
    have block : (Record.ofSource? laterSource).map Record.blockNum = .ok 9 := by decide +kernel
    rw [accepted] at block
    rw [mark, Except.ok.inj block]
    rfl
  · have found : badAnswer.get? "hits" = some (.object (holderOf ([transferHit] ++ badHits))) := rfl
    obtain ⟨-, refused, -⟩ := page_whole found
    refine (refused _).mpr ⟨_, .hit rfl ?_ ?_, rfl⟩
    · have sound : readHit transferHit = .ok Record.transferRecord := by decide +kernel
      rw [List.forall_mem_singleton, exists_faulty_iff, not_not]
      exact ⟨Record.transferRecord, sound⟩
    · exact .record rfl rfl rfl

end SearchHits

end TransferHistory
