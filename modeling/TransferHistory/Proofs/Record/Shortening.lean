import Mathlib.Data.List.Forall2
import TransferHistory.Proofs.Record.Reprojection

/-!
# What cutting long texts changes

The same page is answered whole and with long texts cut. The two answers have the same records in the
same order, and a record differs in its payload only: there a text directly under an object is cut if
it is long, and everything else is the same (`Payload.Cut`). Payloads are cut behind their enrichment,
so decoded fields are cut with the rest.

Results:
1. `Payload.cut_shorten`: how a payload is cut.
2. `Payload.Cut.length_le`: no text directly under a payload that was cut is long.
3. `Projection.CutFrom.payloads`: answers that differ in their payloads, payload by payload.
4. `ProjectionOptions.noBinary_cuts`: a page answered whole and with long texts cut.
-/

namespace TransferHistory

open Json (Members)

/-- What is in the second of two lists is related to something in the first one. -/
theorem exists_of_mem_right {α β : Type} {R : α → β → Prop} {first : List α} {second : List β}
    (related : List.Forall₂ R first second) {b : β} (present : b ∈ second) :
    ∃ a ∈ first, R a b := by
  induction related with
  | nil => exact absurd present List.not_mem_nil
  | cons here _ ih =>
      rcases List.mem_cons.mp present with rfl | later
      · exact ⟨_, List.mem_cons_self, here⟩
      · obtain ⟨a, known, there⟩ := ih later
        exact ⟨a, List.mem_cons_of_mem _ known, there⟩

/-! ## Payloads -/

namespace Payload

/-- A text, and what it is cut to: one of at most 256 characters stays, and of a longer one the first
32 characters are kept. -/
inductive CutText : String → String → Prop
  | short {text : String} (fits : text.length ≤ 256) : CutText text text
  | long {text : String} (exceeds : 256 < text.length) :
      CutText text (String.ofList (text.toList.take 32) ++ "...")

/-- A member of a payload before and after: its name stays, and so does a value that is no text, with
all that is in it. -/
inductive CutMember : String × Json → String × Json → Prop
  | text {name text cut : String} (cuts : CutText text cut) :
      CutMember (name, .string text) (name, .string cut)
  | other {name : String} {value : Json} (noText : ∀ text, value ≠ .string text) :
      CutMember (name, value) (name, value)

/-- A payload before and after: an object member by member, in order, and nothing of any other one. -/
inductive Cut : Json → Json → Prop
  | object {members cut : Members} (each : List.Forall₂ CutMember members cut) :
      Cut (.object members) (.object cut)
  | other {data : Json} (noObject : ∀ members, data ≠ .object members) : Cut data data

theorem cutText_shortenText (text : String) : CutText text (shortenText text) := by
  unfold shortenText
  split
  · exact .long ‹_›
  · exact .short (Nat.le_of_not_lt ‹_›)

theorem cutMember_shortenMember (entry : String × Json) :
    CutMember entry (entry.1, shortenMember entry.2) := by
  obtain ⟨name, value⟩ := entry
  cases value with
  | string text => exact .text (cutText_shortenText text)
  | _ => exact .other (by simp)

theorem cut_shorten (data : Json) : Cut data (shorten data) := by
  cases data with
  | object members =>
      apply Cut.object
      rw [List.forall₂_map_right_iff, List.forall₂_same]
      intro entry _
      exact cutMember_shortenMember entry
  | _ => exact .other (by simp)

theorem CutText.length_le {text cut : String} (cuts : CutText text cut) : cut.length ≤ 256 := by
  cases cuts with
  | short fits => exact fits
  | long exceeds =>
      have front : (text.toList.take 32).length ≤ 32 := List.length_take_le 32 text.toList
      have dots : ("..." : String).length = 3 := by decide
      rw [String.length_append, String.length_ofList, dots]
      omega

/-- No text directly under a payload that was cut is long. -/
theorem Cut.length_le {data : Json} {members : Members} (cut : Cut data (.object members))
    {name text : String} (present : (name, .string text) ∈ members) : text.length ≤ 256 := by
  cases cut with
  | object each =>
      obtain ⟨entry, -, cuts⟩ := exists_of_mem_right each present
      cases cuts with
      | text cuts => exact cuts.length_le
      | other noText => exact absurd rfl (noText text)
  | other noObject => exact absurd rfl (noObject members)

end Payload

/-! ## Answers -/

/-- A row, and the same row with its payload cut. -/
structure Row.CutFrom (whole cut : Row) : Prop where
  payload : Payload.Cut whole.data cut.data
  frame : cut = { whole with data := cut.data }

/-- A record, and the same record with its payload cut. -/
structure Record.CutFrom (whole cut : Record) : Prop where
  payload : Payload.Cut whole.act.data cut.act.data
  frame : cut = { whole with act := { whole.act with data := cut.act.data } }

theorem Record.cutFrom_shorten (record : Record) : record.CutFrom record.shorten :=
  ⟨Payload.cut_shorten record.act.data, rfl⟩

theorem Record.CutFrom.toRow {whole cut : Record} (cutFrom : whole.CutFrom cut)
    (lib : Option UInt64) : (whole.toRow lib).CutFrom (cut.toRow lib) := by
  refine ⟨cutFrom.payload, ?_⟩
  rw [cutFrom.frame]
  rfl

/-- An answer, and the same answer with its payloads cut: record by record, in order and in the same
form. -/
inductive Projection.CutFrom : Projection → Projection → Prop
  | simple {rows cut : List Row} (each : List.Forall₂ Row.CutFrom rows cut) :
      CutFrom (.simple rows) (.simple cut)
  | full {records cut : List Record} (each : List.Forall₂ Record.CutFrom records cut) :
      CutFrom (.full records) (.full cut)

/-- The payloads that are answered. -/
def Projection.payloads : Projection → List Json
  | .simple rows => rows.map Row.data
  | .full records => records.map fun record => record.act.data

namespace Projection.CutFrom

variable {whole cut : Projection}

theorem size_eq (cutFrom : whole.CutFrom cut) : cut.size = whole.size := by
  cases cutFrom with
  | simple each => exact each.length_eq.symm
  | full each => exact each.length_eq.symm

theorem payloads (cutFrom : whole.CutFrom cut) :
    List.Forall₂ Payload.Cut whole.payloads cut.payloads := by
  cases cutFrom with
  | simple each =>
      rw [Projection.payloads, Projection.payloads, List.forall₂_map_left_iff,
        List.forall₂_map_right_iff]
      exact each.imp fun _ _ row => row.payload
  | full each =>
      rw [Projection.payloads, Projection.payloads, List.forall₂_map_left_iff,
        List.forall₂_map_right_iff]
      exact each.imp fun _ _ record => record.payload

/-- No text directly under an object that is answered cut is long. -/
theorem length_le (cutFrom : whole.CutFrom cut) {members : Members}
    (answered : .object members ∈ cut.payloads) {name text : String}
    (present : (name, .string text) ∈ members) : text.length ≤ 256 := by
  obtain ⟨data, -, cuts⟩ := exists_of_mem_right cutFrom.payloads answered
  exact cuts.length_le present

end Projection.CutFrom

namespace ProjectionOptions

/-- The same options, with long texts cut or not. -/
def cutting (options : ProjectionOptions) (cut : Bool) : ProjectionOptions :=
  { options with noBinary := cut }

theorem cutFrom_prepare (options : ProjectionOptions) (record : Record) :
    ((options.cutting false).prepare record).CutFrom ((options.cutting true).prepare record) :=
  record.enrich.cutFrom_shorten

theorem cutFrom_project (options : ProjectionOptions) (records : List Record) :
    ((options.cutting false).project records).CutFrom ((options.cutting true).project records) := by
  have each : List.Forall₂ Record.CutFrom (records.map (options.cutting false).prepare)
      (records.map (options.cutting true).prepare) := by
    rw [List.forall₂_map_left_iff, List.forall₂_map_right_iff, List.forall₂_same]
    intro record _
    exact options.cutFrom_prepare record
  cases simple : options.simple with
  | true =>
      simp only [project, cutting, simple, if_true]
      apply Projection.CutFrom.simple
      rw [List.forall₂_map_left_iff, List.forall₂_map_right_iff]
      exact each.imp fun _ _ record => record.toRow options.lib
  | false =>
      simp only [project, cutting, simple]
      exact .full each

/-- The payloads of an answer that is not cut are those of the enriched records. -/
theorem payloads_project (options : ProjectionOptions) (records : List Record) :
    ((options.cutting false).project records).payloads =
      records.map fun record => record.enrich.act.data := by
  cases simple : options.simple <;>
    simp [project, cutting, simple, Projection.payloads, prepare, Record.toRow, Function.comp_def]

/-- A page answered whole and with long texts cut, however else it is answered. Both answers have as
many records, and those at the same place are the same but for their payload: of an object payload
every text of more than 256 characters is cut to its first 32 and three dots, and the names, their
order and all other values are the same; any other payload is the same. So no text directly under an
object that is answered cut is longer than that, and this goes for the decoded fields as well, because
what is cut is the payload of the enriched record. -/
theorem noBinary_cuts (options : ProjectionOptions) (records : List Record) :
    ((options.cutting true).project records).size =
        ((options.cutting false).project records).size ∧
      ((options.cutting false).project records).CutFrom
        ((options.cutting true).project records) ∧
      ((options.cutting false).project records).payloads =
        records.map (fun record => record.enrich.act.data) ∧
      ∀ members, .object members ∈ ((options.cutting true).project records).payloads →
        ∀ name text, (name, .string text) ∈ members → text.length ≤ 256 := by
  have cutFrom := options.cutFrom_project records
  refine ⟨cutFrom.size_eq, cutFrom, options.payloads_project records, ?_⟩
  intro members answered name text present
  exact cutFrom.length_le answered present

end ProjectionOptions

end TransferHistory
