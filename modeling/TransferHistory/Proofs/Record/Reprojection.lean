import TransferHistory.Proofs.Record.Steps

/-!
# Projecting an answer again

A page that was answered in full can be read and projected again. Enriching a record leaves nothing
for a second enrichment to do (`Enriched`), shortening keeps that, and a text that was cut is short.
So what counts is only whether long texts were cut the first time or the second time.

Results:
1. `Payload.shorten_shorten`: a shortened payload has no long text.
2. `Record.enriched_enrich`, `Record.enrich_eq_of_enriched`: what the first enrichment reaches and
   what a second one does to it.
3. `ProjectionOptions.prepare_prepare`: preparing twice is preparing once.
4. `ProjectionOptions.project_again`: the law of projecting a full answer again.
-/

namespace TransferHistory

open Ordered (Distinct names)

/-! ## Shortening twice -/

namespace Payload

/-- A cut text is short. -/
theorem length_shortenText_le (text : String) : (shortenText text).length ≤ threshold := by
  unfold shortenText
  split
  · have front : (String.ofList (text.toList.take kept)).length ≤ kept := by
      rw [String.length_ofList]
      exact List.length_take_le kept text.toList
    have whole : (String.ofList (text.toList.take kept) ++ ellipsis).length ≤ kept + 3 := by
      rw [String.length_append]
      exact Nat.add_le_add_right front 3
    exact Nat.le_trans whole (by decide)
  · exact Nat.le_of_not_lt ‹_›

theorem shortenText_of_le {text : String} (short : text.length ≤ threshold) :
    shortenText text = text :=
  if_neg (Nat.not_lt.mpr short)

theorem shortenMember_shortenMember (value : Json) :
    shortenMember (shortenMember value) = shortenMember value := by
  cases value with
  | string text => exact congrArg Json.string (shortenText_of_le (length_shortenText_le text))
  | _ => rfl

theorem shorten_shorten (data : Json) : shorten (shorten data) = shorten data := by
  cases data with
  | object members =>
      simp only [shorten, List.map_map]
      congr 2
      funext entry
      exact Prod.ext rfl (shortenMember_shortenMember entry.2)
  | _ => rfl

end Payload

namespace Record

theorem shorten_shorten (record : Record) : record.shorten.shorten = record.shorten := by
  unfold shorten
  rw [Payload.shorten_shorten]

/-! ## Enriching twice -/

/-- A record with nothing left to fold in, and with its time stamped on it. -/
structure Enriched (record : Record) : Prop where
  folded : ∀ decoded, record.extra.get? record.decodedName ≠ some (.object decoded)
  stamped : record.extra.get? "timestamp" = some (.string record.timestamp)

theorem foldDecoded_of_folded {record : Record}
    (folded : ∀ decoded, record.extra.get? record.decodedName ≠ some (.object decoded)) :
    record.foldDecoded = record := by
  unfold foldDecoded
  split
  · exact absurd ‹_› (folded _)
  · rfl

/-- Folding keeps the name of the action, so no object is left under the name it looks at. -/
theorem folded_foldDecoded {record : Record} (distinct : Distinct record.extra)
    (decoded : Json.Members) :
    record.foldDecoded.extra.get? record.decodedName ≠ some (.object decoded) := by
  unfold foldDecoded
  split
  · -- Names are distinct, so no second entry comes up behind the one taken out.
    have absent : record.decodedName ∉ names (record.extra.takeOut record.decodedName) :=
      Ordered.not_mem_names_takeOut distinct
    simp [Ordered.get?_eq_none_iff.mpr absent]
  · intro found
    rename_i other
    exact other decoded found

theorem decodedName_foldDecoded (record : Record) :
    record.foldDecoded.decodedName = record.decodedName := by
  unfold foldDecoded
  split <;> rfl

theorem timestamp_foldDecoded (record : Record) :
    record.foldDecoded.timestamp = record.timestamp := by
  unfold foldDecoded
  split <;> rfl

/-- The stamp is not under the name of the decoded fields, whatever the action is called. -/
theorem decodedName_ne_timestamp (record : Record) : record.decodedName ≠ "timestamp" := by
  intro same
  have first := congrArg (fun name => name.toList.head?) same
  simp [decodedName] at first

theorem enriched_enrich {record : Record} (distinct : Distinct record.extra) :
    record.enrich.Enriched := by
  have name : record.enrich.decodedName = record.decodedName := decodedName_foldDecoded record
  have time : record.enrich.timestamp = record.timestamp := timestamp_foldDecoded record
  constructor
  · intro decoded
    rw [name]
    unfold enrich
    rw [Ordered.get?_set_of_ne (decodedName_ne_timestamp record)]
    exact folded_foldDecoded distinct decoded
  · rw [time]
    exact Ordered.get?_set_self _ _ _

theorem enrich_eq_of_enriched {record : Record} (enriched : record.Enriched) :
    record.enrich = record := by
  unfold enrich
  simp only [foldDecoded_of_folded enriched.folded, Ordered.set_of_get? enriched.stamped]

theorem Enriched.shorten {record : Record} (enriched : record.Enriched) :
    record.shorten.Enriched :=
  ⟨enriched.folded, enriched.stamped⟩

end Record

/-! ## Preparing twice -/

namespace ProjectionOptions

theorem enriched_prepare (options : ProjectionOptions) {record : Record}
    (distinct : Distinct record.extra) : (options.prepare record).Enriched := by
  have enriched := Record.enriched_enrich distinct
  unfold prepare
  split
  · exact enriched.shorten
  · exact enriched

theorem separate_prepare (options : ProjectionOptions) {record : Record}
    (separate : record.Separate) : (options.prepare record).Separate := by
  have enriched := Record.separate_enrich separate
  unfold prepare
  split
  · exact Record.separate_shorten enriched
  · exact enriched

/-- The second options, with long texts cut if the first ones cut them. -/
def behind (second first : ProjectionOptions) : ProjectionOptions :=
  { second with noBinary := first.noBinary || second.noBinary }

/-- Preparing a prepared record is preparing it once, with long texts cut if either cuts them. -/
theorem prepare_prepare (first second : ProjectionOptions) {record : Record}
    (distinct : Distinct record.extra) :
    second.prepare (first.prepare record) = (second.behind first).prepare record := by
  -- The second enrichment changes nothing, so only the two ways of shortening are left.
  have again := Record.enrich_eq_of_enriched (first.enriched_prepare distinct)
  have step : second.prepare (first.prepare record) =
      if second.noBinary then (first.prepare record).shorten else first.prepare record := by
    rw [prepare, again]
  rw [step]
  cases cutFirst : first.noBinary <;> cases cutSecond : second.noBinary
  all_goals simp [prepare, behind, cutFirst, cutSecond, Record.shorten_shorten]

/-- The records of a full answer, each as a value. -/
theorem items_project_of_full {options : ProjectionOptions} (full : options.simple = false)
    (records : List Record) :
    (options.project records).items = (records.map options.prepare).map Record.toJson := by
  simp [project, full, Projection.items]

/-- A full answer is read back as the prepared records. -/
theorem reread_project {options : ProjectionOptions} (full : options.simple = false)
    {records : List Record} (separate : ∀ record ∈ records, record.Separate) :
    (options.project records).items.mapM Record.ofSource? = .ok (records.map options.prepare) := by
  rw [items_project_of_full full]
  apply mapM_map_eq_ok
  intro prepared present
  obtain ⟨record, known, same⟩ := List.mem_map.mp present
  subst same
  exact Record.ofSource?_toJson (options.separate_prepare (separate record known))

theorem project_prepare (first second : ProjectionOptions) {records : List Record}
    (separate : ∀ record ∈ records, record.Separate) :
    second.project (records.map first.prepare) = (second.behind first).project records := by
  have prepared : (records.map first.prepare).map second.prepare =
      records.map (second.behind first).prepare := by
    rw [List.map_map]
    apply List.map_congr_left
    intro record known
    exact prepare_prepare first second (separate record known).extra.distinct
  unfold project
  rw [prepared]
  rfl

theorem behind_self (options : ProjectionOptions) : options.behind options = options := by
  simp [behind]

/-- Records that were answered in full are read back, and projecting them again is projecting the
sources with long texts cut if either projection cuts them. With the same options nothing changes, and
any view that cuts as the full answer did, the compact one too, is the view of the sources. -/
theorem project_again {sources : List Json} {records : List Record}
    (read : sources.mapM Record.ofSource? = .ok records) {first : ProjectionOptions}
    (full : first.simple = false) :
    ∃ again, (first.project records).items.mapM Record.ofSource? = .ok again ∧
      (∀ second : ProjectionOptions, second.project again =
        { second with noBinary := first.noBinary || second.noBinary }.project records) ∧
      first.project again = first.project records ∧
      ∀ second : ProjectionOptions, second.noBinary = first.noBinary →
        second.project again = second.project records := by
  have separate : ∀ record ∈ records, record.Separate := by
    intro record present
    obtain ⟨source, -, accepted⟩ := exists_of_mem_mapM read present
    exact Record.separate_of_ofSource? accepted
  have law (second : ProjectionOptions) := project_prepare first second separate
  refine ⟨records.map first.prepare, reread_project full separate, law, ?_, ?_⟩
  · rw [law, behind_self]
  · intro second same
    rw [law, behind, ← same, Bool.or_self]

theorem project_transfer_again :
    [Record.transferSource].mapM Record.ofSource? = .ok [Record.transferRecord] ∧
      ∃ again, (project { simple := false } [Record.transferRecord]).items.mapM Record.ofSource? =
        .ok again ∧ project {} again = project {} [Record.transferRecord] := by
  have read : [Record.transferSource].mapM Record.ofSource? = .ok [Record.transferRecord] := by
    decide +kernel
  have full : ({ simple := false } : ProjectionOptions).simple = false := rfl
  obtain ⟨again, reread, -, -, view⟩ := project_again read full
  exact ⟨read, again, reread, view {} rfl⟩

end ProjectionOptions

end TransferHistory
