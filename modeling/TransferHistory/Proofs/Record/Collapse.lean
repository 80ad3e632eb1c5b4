import TransferHistory.Proofs.Record.Reprojection
import TransferHistory.Proofs.Text.Split

/-!
# Runs of steps

Enriching and shortening a record in any order and any number of times does what one of five short
runs does. The first enrichment leaves nothing for a later one to do, and shortening leaves nothing for
a later shortening. What is left is whether the decoded fields were folded in before the last
shortening: only then are they cut as well.

Results:
1. `Record.shorten_enrich_shorten`: a shortening before an enrichment is overtaken by one behind it.
2. `Record.after_of_not_mem`, `Record.Enriched.after_eq`: runs without an enrichment, and runs of an
   enriched record.
3. `Record.after_collapse`: every run is one of five.
-/

namespace TransferHistory

open Ordered (Distinct)

/-! ## A shortening on both sides of an enrichment -/

namespace Ordered

variable {α : Type} {change : String × α → String × α} {entries others : Ordered α}

theorem names_map (named : ∀ entry, (change entry).1 = entry.1) (entries : Ordered α) :
    names (entries.map change) = names entries := by
  unfold names
  rw [List.map_map]
  exact List.map_congr_left fun entry _ => named entry

theorem isSome_get?_congr (same : names entries = names others) (name : String) :
    (get? name entries).isSome = (get? name others).isSome := by
  rw [Bool.eq_iff_iff, Option.isSome_iff_ne_none, Option.isSome_iff_ne_none, ne_eq, ne_eq,
    get?_eq_none_iff, get?_eq_none_iff, same]

/-- Which entries are filled in does not depend on the values that are there. -/
theorem map_fill_congr (named : ∀ entry, (change entry).1 = entry.1)
    (same : entries.map change = others.map change) (more : Ordered α) :
    (fill entries more).map change = (fill others more).map change := by
  unfold fill
  induction more generalizing entries others with
  | nil => exact same
  | cons pair rest ih =>
      have known : names entries = names others := by
        rw [← names_map named entries, ← names_map named others, same]
      rw [List.foldl_cons, List.foldl_cons]
      apply ih
      rw [isSome_get?_congr known pair.1]
      split
      · exact same
      · rw [List.map_append, List.map_append, same]

end Ordered

namespace Payload

/-- A member of a payload, cut if it is a long text. -/
def shortenEntry (entry : String × Json) : String × Json :=
  (entry.1, shortenMember entry.2)

theorem shorten_object (members : Json.Members) :
    shorten (.object members) = .object (members.map shortenEntry) :=
  rfl

theorem map_shortenEntry_twice (members : Json.Members) :
    (members.map shortenEntry).map shortenEntry = members.map shortenEntry := by
  have again := shorten_shorten (.object members)
  rwa [shorten_object, shorten_object, Json.object.injEq] at again

/-- What is cut before decoded fields are folded in would be cut behind that as well. -/
theorem shorten_withDecoded_shorten (data : Json) (decoded : Json.Members) :
    shorten ((shorten data).withDecoded decoded) = shorten (data.withDecoded decoded) := by
  cases data with
  | object members =>
      have named : ∀ entry, (shortenEntry entry).1 = entry.1 := fun _ => rfl
      have filled := Ordered.map_fill_congr named (map_shortenEntry_twice members) decoded
      rw [shorten_object, Json.withDecoded, Json.withDecoded, shorten_object, shorten_object, filled]
  | null | bool | number | string | array => rfl

end Payload

namespace Record

theorem shorten_foldDecoded_shorten (record : Record) :
    record.shorten.foldDecoded.shorten = record.foldDecoded.shorten := by
  have extra : record.shorten.extra = record.extra := rfl
  have name : record.shorten.decodedName = record.decodedName := rfl
  unfold foldDecoded
  rw [extra, name]
  split
  · simp only [shorten, Payload.shorten_withDecoded_shorten]
  · exact shorten_shorten record

/-- A shortening before an enrichment makes no difference if there is another one behind it. -/
theorem shorten_enrich_shorten (record : Record) :
    record.shorten.enrich.shorten = record.enrich.shorten := by
  have stamped (record : Record) : record.enrich.shorten =
      { record.foldDecoded.shorten with
        extra := record.foldDecoded.shorten.extra.set "timestamp" (.string record.timestamp) } := rfl
  have time : record.shorten.timestamp = record.timestamp := rfl
  rw [stamped, stamped, shorten_foldDecoded_shorten, time]

/-! ## Runs -/

/-- The short run that does what a run does. It matters only whether a shortening comes behind the
first enrichment and, if none does, whether one comes before it. -/
def Step.collapse (steps : List Step) : List Step :=
  match Text.cut .enrich steps with
  | (before, none) => if .shorten ∈ before then [.shorten] else []
  | (before, some behind) =>
      if .shorten ∈ behind then [.enrich, .shorten]
      else if .shorten ∈ before then [.shorten, .enrich]
      else [.enrich]

theorem Step.collapse_mem (steps : List Step) :
    Step.collapse steps ∈
      [[], [.shorten], [.enrich], [.shorten, .enrich], [.enrich, .shorten]] := by
  unfold collapse
  split
  · split
    · decide
    · decide
  · split
    · decide
    · split
      · decide
      · decide

example : Step.collapse [.shorten, .enrich, .enrich, .shorten] = [.enrich, .shorten] := by decide

variable {record : Record} {steps : List Step}

theorem after_cons (record : Record) (step : Step) (rest : List Step) :
    record.after (step :: rest) = (record.apply step).after rest :=
  rfl

theorem after_append (record : Record) (first second : List Step) :
    record.after (first ++ second) = (record.after first).after second :=
  List.foldl_append

/-- A run without an enrichment shortens the record or does nothing. -/
theorem after_of_not_mem (plain : .enrich ∉ steps) :
    record.after steps = if .shorten ∈ steps then record.shorten else record := by
  induction steps generalizing record with
  | nil => rfl
  | cons step rest ih =>
      rw [List.mem_cons, not_or] at plain
      cases step with
      | enrich => exact absurd rfl plain.1
      | shorten =>
          have cut : record.apply .shorten = record.shorten := rfl
          rw [after_cons, cut, ih plain.2, shorten_shorten, ite_self, if_pos List.mem_cons_self]

/-- A run of an enriched record shortens it or does nothing. -/
theorem Enriched.after_eq (enriched : record.Enriched) (steps : List Step) :
    record.after steps = if .shorten ∈ steps then record.shorten else record := by
  induction steps generalizing record with
  | nil => rfl
  | cons step rest ih =>
      cases step with
      | enrich =>
          have still : record.apply .enrich = record := enrich_eq_of_enriched enriched
          rw [after_cons, still, ih enriched]
          simp
      | shorten =>
          have cut : record.apply .shorten = record.shorten := rfl
          rw [after_cons, cut, ih enriched.shorten, shorten_shorten, ite_self,
            if_pos List.mem_cons_self]

/-- Behind the first enrichment only a shortening has an effect, and it makes one before that
enrichment needless. -/
theorem after_enrich (distinct : Distinct record.extra) {before : List Step}
    (plain : .enrich ∉ before) (behind : List Step) :
    record.after (before ++ .enrich :: behind) =
      if .shorten ∈ behind then record.enrich.shorten
      else if .shorten ∈ before then record.shorten.enrich
      else record.enrich := by
  have enriched : (record.after before).enrich.Enriched := by
    rw [after_of_not_mem plain]
    split
    · exact enriched_enrich distinct
    · exact enriched_enrich distinct
  have first : (record.after before).apply .enrich = (record.after before).enrich := rfl
  rw [after_append, after_cons, first, enriched.after_eq, after_of_not_mem plain]
  by_cases cutBehind : .shorten ∈ behind
  · rw [if_pos cutBehind, if_pos cutBehind]
    split
    · exact shorten_enrich_shorten record
    · rfl
  · rw [if_neg cutBehind, if_neg cutBehind]
    split
    · rfl
    · rfl

theorem after_eq_after_collapse (distinct : Distinct record.extra) (steps : List Step) :
    record.after steps = record.after (Step.collapse steps) := by
  unfold Step.collapse
  split
  case h_1 before uncut =>
    obtain ⟨rfl, plain⟩ := Text.cut_none uncut
    rw [after_of_not_mem plain]
    split
    · rfl
    · rfl
  case h_2 before behind found =>
    obtain ⟨rfl, plain⟩ := Text.cut_some found
    rw [after_enrich distinct plain]
    split
    · rfl
    · split
      · rfl
      · rfl

/-- An enrichment and a shortening somewhere behind it leave nothing for a further run to do. -/
theorem after_settled (separate : record.Separate) (before : List Step) {behind : List Step}
    (cut : .shorten ∈ behind) (more : List Step) :
    (record.after (before ++ .enrich :: behind)).after more =
      record.after (before ++ .enrich :: behind) := by
  have enriched : (record.after before).enrich.Enriched :=
    enriched_enrich (separate_after separate before).extra.distinct
  have reached : record.after (before ++ .enrich :: behind) =
      (record.after before).enrich.shorten := by
    have first : (record.after before).apply .enrich = (record.after before).enrich := rfl
    rw [after_append, after_cons, first, enriched.after_eq, if_pos cut]
  rw [reached, enriched.shorten.after_eq, shorten_shorten, ite_self]

/-- A run of steps on a record that was read does what its short run does, and that is one of five.
Both steps do nothing when they are repeated at once, and nothing at all is done to a record that was
enriched and later shortened. -/
theorem after_collapse {source : Json} (read : ofSource? source = .ok record)
    (steps : List Step) :
    record.after steps = record.after (Step.collapse steps) ∧
      Step.collapse steps ∈
        [[], [.shorten], [.enrich], [.shorten, .enrich], [.enrich, .shorten]] ∧
      (record.after steps).enrich.enrich = (record.after steps).enrich ∧
      (record.after steps).shorten.shorten = (record.after steps).shorten ∧
      ∀ before behind, steps = before ++ .enrich :: behind → .shorten ∈ behind →
        ∀ more, (record.after steps).after more = record.after steps := by
  have separate := separate_of_ofSource? read
  have distinct := (separate_after separate steps).extra.distinct
  refine ⟨after_eq_after_collapse separate.extra.distinct steps, Step.collapse_mem steps, ?_, ?_, ?_⟩
  · exact enrich_eq_of_enriched (enriched_enrich distinct)
  · exact shorten_shorten (record.after steps)
  · rintro before behind rfl cut more
    exact after_settled separate before cut more

/-- A run of four steps on a transfer is a run of two, and behind it nothing more is done. -/
theorem transferRecord_collapse :
    ofSource? transferSource = .ok transferRecord ∧
      transferRecord.after [.shorten, .enrich, .shorten, .enrich] =
        transferRecord.after [.enrich, .shorten] ∧
      transferRecord.after [.shorten, .shorten, .enrich, .enrich] =
        transferRecord.after [.shorten, .enrich] ∧
      (transferRecord.after [.enrich, .shorten]).after [.shorten, .enrich, .enrich] =
        transferRecord.after [.enrich, .shorten] := by
  have read : ofSource? transferSource = .ok transferRecord := by decide +kernel
  obtain ⟨cut, -⟩ := after_collapse read [.shorten, .enrich, .shorten, .enrich]
  obtain ⟨whole, -⟩ := after_collapse read [.shorten, .shorten, .enrich, .enrich]
  obtain ⟨-, -, -, -, settled⟩ := after_collapse read [.enrich, .shorten]
  exact ⟨read, cut, whole, settled [] [.shorten] rfl (by simp) [.shorten, .enrich, .enrich]⟩

end Record

end TransferHistory
