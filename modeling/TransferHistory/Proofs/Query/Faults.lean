import TransferHistory.Proofs.Query.LeadingInt
import TransferHistory.Proofs.Result
import TransferHistory.Query.Compiled

/-!
# Parameters at fault

For every validation error, which texts of its parameter it is about, and for every check of a
request, which of the errors it reports. A check reports the first of the errors that apply, in an
order of its own (`Reports`); checks in sequence report in the order of the first, then of the second.

Results:
1. `Reports.bind`: the errors of two checks in sequence.
2. `Page.reports_ofParams`, `Direction.reports_ofParams`, `Track.reports_ofParams`,
   `Params.reports_flag`: the errors of each check.
3. `CompiledQuery.reports_ofParams`, `ResponseFlags.reports_ofParams`: the errors of a request.
-/

namespace TransferHistory

open LeadingInt (Begins)

namespace QueryError

/-- The texts of its parameter that an error is about. -/
def Rejects (text : String) : QueryError → Prop
  | .invalidSkip => ∃ number, Begins text.toList number ∧ number < 0
  | .invalidLimit => ∃ number, Begins text.toList number ∧ number < 1
  | .invalidSortDirection => text ∉ ["asc", "1", "desc", "-1"]
  | .invalidTrack =>
      text ∉ ["true", "false"] ∧ ∀ number, Begins text.toList number → number ≤ 0
  | .invalidFlag _ => text ∉ ["true", "false", "1", "0"]

/-- An error applies to a request: its parameter has a text that it is about. -/
def Applies (params : Params) (error : QueryError) : Prop :=
  ∃ text, params.get? error.parameter = some text ∧ error.Rejects text

/-- The first of some errors that applies to a request. -/
def First (params : Params) (errors : List QueryError) (error : QueryError) : Prop :=
  ∃ before after, errors = before ++ error :: after ∧ error.Applies params ∧
    ∀ earlier ∈ before, ¬ earlier.Applies params

/-- All errors of a request, in the order in which they are looked for. -/
def order : List QueryError :=
  [.invalidSkip, .invalidLimit, .invalidSortDirection, .invalidTrack, .invalidFlag "simple",
    .invalidFlag "checkLib", .invalidFlag "noBinary"]

variable {params : Params} {errors others : List QueryError} {error : QueryError}

theorem not_first_nil : ¬ First params [] error := by
  rintro ⟨before, after, split, -⟩
  simp at split

theorem first_cons {head : QueryError} :
    First params (head :: errors) error ↔
      error = head ∧ head.Applies params ∨ ¬ head.Applies params ∧ First params errors error := by
  constructor
  · rintro ⟨before, after, split, applies, earlier⟩
    cases before with
    | nil =>
        cases split
        exact Or.inl ⟨rfl, applies⟩
    | cons skipped before =>
        cases split
        rw [List.forall_mem_cons] at earlier
        exact Or.inr ⟨earlier.1, before, after, rfl, applies, earlier.2⟩
  · rintro (⟨same, applies⟩ | ⟨passed, before, after, split, applies, earlier⟩)
    · subst same
      exact ⟨[], errors, rfl, applies, by simp⟩
    · subst split
      exact ⟨head :: before, after, rfl, applies, List.forall_mem_cons.mpr ⟨passed, earlier⟩⟩

theorem exists_first_iff : (∃ error, First params errors error) ↔
    ∃ error ∈ errors, error.Applies params := by
  induction errors with
  | nil => simp [not_first_nil]
  | cons head rest ih =>
      by_cases applies : head.Applies params
      · simp [first_cons, applies]
      · simp [first_cons, applies, ih]

theorem first_append : First params (errors ++ others) error ↔
    First params errors error ∨
      (¬ ∃ error ∈ errors, error.Applies params) ∧ First params others error := by
  induction errors with
  | nil => simp [not_first_nil]
  | cons head rest ih =>
      by_cases applies : head.Applies params
      · simp [first_cons, applies]
      · simp [first_cons, applies, ih]

/-- Only the texts of their own parameters decide which of some errors apply. -/
theorem first_congr {other : Params}
    (same : ∀ error ∈ errors, params.get? error.parameter = other.get? error.parameter) :
    First params errors error ↔ First other errors error := by
  have applies : ∀ error ∈ errors, (error.Applies params ↔ error.Applies other) := by
    intro error present
    unfold Applies
    rw [same error present]
  induction errors with
  | nil => simp [not_first_nil]
  | cons head rest ih =>
      rw [List.forall_mem_cons] at same applies
      simp only [first_cons, applies.1, ih same.2 applies.2]

end QueryError

open QueryError (Applies First)

/-! ## Checks -/

variable {α β : Type} {params : Params} {errors others : List QueryError}

/-- A check fails with the first of some errors that applies, and goes well if none of them does. -/
def Reports (params : Params) (errors : List QueryError) (check : Except QueryError α) : Prop :=
  ∀ error, check = .error error ↔ First params errors error

namespace Reports

theorem ok (value : α) : Reports params [] (.ok value : Except QueryError α) := by
  intro error
  simp [QueryError.not_first_nil]

/-- The check of one parameter goes well if it is missing, and else by what the text of it is. -/
theorem ofText (name : String) {check : Except QueryError α} {only : QueryError}
    (named : only.parameter = name) (missing : params.get? name = none → ∃ value, check = .ok value)
    (fails : ∀ text, params.get? name = some text → only.Rejects text → check = .error only)
    (passes : ∀ text, params.get? name = some text → ¬ only.Rejects text →
      ∃ value, check = .ok value) :
    Reports params [only] check := by
  intro error
  subst named
  rw [QueryError.first_cons]
  by_cases applies : only.Applies params
  · obtain ⟨text, given, rejected⟩ := id applies
    simp [fails text given rejected, applies, eq_comm]
  · have passed : ∃ value, check = .ok value := by
      cases given : params.get? only.parameter with
      | none => exact missing given
      | some text => exact passes text given fun rejected => applies ⟨text, given, rejected⟩
    obtain ⟨value, passed⟩ := passed
    simp [passed, applies, QueryError.not_first_nil]

theorem passes_iff {check : Except QueryError α} (reports : Reports params errors check) :
    (∃ value, check = .ok value) ↔ ¬ ∃ error ∈ errors, error.Applies params := by
  rw [← QueryError.exists_first_iff]
  cases check with
  | ok value => simp [← reports _]
  | error error =>
      have first := (reports error).mp rfl
      constructor
      · rintro ⟨value, went⟩
        cases went
      · intro none
        exact absurd ⟨error, first⟩ none

/-- Of two checks in sequence the second is made only if the first goes well. -/
theorem bind {check : Except QueryError α} {next : α → Except QueryError β}
    (reports : Reports params errors check) (later : ∀ value, Reports params others (next value)) :
    Reports params (errors ++ others) (check >>= next) := by
  intro error
  -- The first check goes well exactly if none of its errors applies.
  rw [bind_eq_error_iff, QueryError.first_append, ← reports.passes_iff, reports]
  simp only [later _ error, exists_and_right]

end Reports

/-! ## Single parameters -/

namespace QueryError

theorem rejects_skip_iff {text : String} :
    invalidSkip.Rejects text ↔ ∃ skip, LeadingInt.ofText? text.toList = some skip ∧ skip < 0 :=
  (LeadingInt.exists_read_iff LeadingInt.clamp_neg_iff).symm

theorem rejects_limit_iff {text : String} :
    invalidLimit.Rejects text ↔ ∃ limit, LeadingInt.ofText? text.toList = some limit ∧ limit < 1 :=
  (LeadingInt.exists_read_iff LeadingInt.clamp_lt_one_iff).symm

theorem rejects_track_iff {text : String} :
    invalidTrack.Rejects text ↔ text ∉ ["true", "false"] ∧
      ¬ ∃ count, LeadingInt.ofText? text.toList = some count ∧ 0 < count := by
  rw [LeadingInt.exists_read_iff LeadingInt.clamp_pos_iff]
  simp [Rejects]

end QueryError

theorem Params.int?_of_get? {name text : String} (given : params.get? name = some text) :
    params.int? name = LeadingInt.ofText? text.toList := by
  simp [int?, given]

theorem Params.int?_of_missing {name : String} (missing : params.get? name = none) :
    params.int? name = none := by
  simp [int?, missing]

theorem Page.reports_readSkip (params : Params) :
    Reports params [.invalidSkip] (readSkip params) := by
  refine .ofText "skip" rfl (fun missing => ⟨0, ?_⟩) (fun text given rejected => ?_)
    fun text given accepted => ?_
  · rw [readSkip, Params.int?_of_missing missing]
  · rw [readSkip, Params.int?_of_get? given]
    obtain ⟨skip, read, negative⟩ := QueryError.rejects_skip_iff.mp rejected
    simp [read, negative]
  · rw [readSkip, Params.int?_of_get? given]
    rw [QueryError.rejects_skip_iff] at accepted
    cases read : LeadingInt.ofText? text.toList with
    | none => exact ⟨0, rfl⟩
    | some skip =>
        have natural : ¬ skip < 0 := fun negative => accepted ⟨skip, read, negative⟩
        exact ⟨skip.toNat, if_neg natural⟩

theorem Page.reports_readLimit (params : Params) :
    Reports params [.invalidLimit] (readLimit params) := by
  refine .ofText "limit" rfl (fun missing => ⟨10, ?_⟩) (fun text given rejected => ?_)
    fun text given accepted => ?_
  · rw [readLimit, Params.int?_of_missing missing]
  · rw [readLimit, Params.int?_of_get? given]
    obtain ⟨limit, read, small⟩ := QueryError.rejects_limit_iff.mp rejected
    simp [read, small]
  · rw [readLimit, Params.int?_of_get? given]
    rw [QueryError.rejects_limit_iff] at accepted
    cases read : LeadingInt.ofText? text.toList with
    | none => exact ⟨10, rfl⟩
    | some limit =>
        have large : ¬ limit < 1 := fun small => accepted ⟨limit, read, small⟩
        exact ⟨limit.toNat, if_neg large⟩

theorem Page.reports_ofParams (params : Params) :
    Reports params [.invalidSkip, .invalidLimit] (ofParams params) :=
  (reports_readSkip params).bind fun _ => (reports_readLimit params).bind fun _ => Reports.ok _

theorem Direction.reports_ofParams (params : Params) :
    Reports params [.invalidSortDirection] (ofParams params) := by
  refine .ofText "sort" rfl (fun missing => ⟨.desc, ?_⟩) (fun text given rejected => ?_)
    fun text given accepted => ?_
  · rw [ofParams, missing]
  · rw [ofParams, given]
    rw [QueryError.Rejects] at rejected
    split <;> simp_all
  · rw [ofParams, given]
    rw [QueryError.Rejects] at accepted
    split <;> simp_all

/-- Only a text that is neither `true` nor `false` is read as a number. -/
theorem Track.ofParams_of_get? {text : String} (given : params.get? "track" = some text)
    (other : text ∉ ["true", "false"]) :
    ofParams params =
      match LeadingInt.ofText? text.toList with
      | some count => if 0 < count then .ok (.upTo count.toNat) else .error .invalidTrack
      | none => .error .invalidTrack := by
  simp only [List.mem_cons, List.not_mem_nil, or_false, not_or] at other
  unfold ofParams
  rw [given, Params.int?_of_get? given]
  split
  case h_4 => cases LeadingInt.ofText? text.toList <;> rfl
  all_goals simp_all

theorem Track.reports_ofParams (params : Params) :
    Reports params [.invalidTrack] (ofParams params) := by
  refine .ofText "track" rfl (fun missing => ⟨.upTo defaultCount, ?_⟩) (fun text given rejected => ?_)
    fun text given accepted => ?_
  · rw [ofParams, missing]
  · obtain ⟨other, unreadable⟩ := QueryError.rejects_track_iff.mp rejected
    rw [Track.ofParams_of_get? given other]
    cases read : LeadingInt.ofText? text.toList with
    | none => rfl
    | some count => exact if_neg fun pos => unreadable ⟨count, read, pos⟩
  · rw [QueryError.rejects_track_iff] at accepted
    by_cases other : text ∉ ["true", "false"]
    · rw [Track.ofParams_of_get? given other]
      obtain ⟨count, read, pos⟩ := Classical.not_not.mp fun none => accepted ⟨other, none⟩
      exact ⟨.upTo count.toNat, by simp [read, pos]⟩
    · simp only [List.mem_cons, List.not_mem_nil, or_false, Classical.not_not] at other
      rcases other with rfl | rfl
      · exact ⟨.exact true, by simp [ofParams, given]⟩
      · exact ⟨.exact false, by simp [ofParams, given]⟩

theorem Params.reports_flag (params : Params) (name : String) (default : Bool) :
    Reports params [.invalidFlag name] (params.flag name default) := by
  refine .ofText name rfl (fun missing => ⟨default, ?_⟩) (fun text given rejected => ?_)
    fun text given accepted => ?_
  · rw [flag, missing]
  · rw [flag, given]
    rw [QueryError.Rejects] at rejected
    split <;> simp_all
  · rw [flag, given]
    rw [QueryError.Rejects] at accepted
    split <;> simp_all

/-! ## Whole requests -/

theorem CompiledQuery.reports_ofParams (params : Params) :
    Reports params [.invalidSkip, .invalidLimit, .invalidSortDirection, .invalidTrack]
      (ofParams params) :=
  (Page.reports_ofParams params).bind fun _ => (Direction.reports_ofParams params).bind fun _ =>
    (Track.reports_ofParams params).bind fun _ => Reports.ok _

theorem ResponseFlags.reports_ofParams (params : Params) :
    Reports params [.invalidFlag "simple", .invalidFlag "checkLib", .invalidFlag "noBinary"]
      (ofParams params) :=
  (params.reports_flag "simple" true).bind fun _ =>
    (params.reports_flag "checkLib" false).bind fun _ =>
      (params.reports_flag "noBinary" false).bind fun _ => Reports.ok _

end TransferHistory
