import TransferHistory.Proofs.Query.Faults
import TransferHistory.Search.Engine

/-!
# Validation

A request is refused before anybody is asked, and only for what stands in one of seven parameters.

Results:
1. `Engine.reports_plan`: the errors of a request, in the order in which they are looked for.
2. `Engine.refused_iff_plan`: an answer is a validation error exactly if the request has no plan.
3. `Engine.refuses_exactly`: which requests are refused, with which error, and that nobody is asked.
-/

namespace TransferHistory.Engine

theorem reports_plan (config : SearchConfig) (params : Params) :
    Reports params QueryError.order (plan config params) :=
  (CompiledQuery.reports_ofParams params).bind fun _ =>
    (ResponseFlags.reports_ofParams params).bind fun _ => Reports.ok _

/-- Nothing is asked and nothing is logged for a request without a plan. -/
theorem answer_of_plan_error {config : SearchConfig} {params : Params} {error : QueryError}
    (refused : plan config params = .error error) (collaborators : Collaborators) :
    answer config collaborators params = { result := .error (.validation error) } := by
  unfold answer
  rw [refused]

/-- A collaborator's failure is no validation error. -/
theorem refused_iff_plan {config : SearchConfig} {collaborators : Collaborators} {params : Params}
    {error : QueryError} :
    (answer config collaborators params).result = .error (.validation error) ↔
      plan config params = .error error := by
  constructor
  · intro refused
    cases planned : plan config params with
    | error cause =>
        rw [answer_of_plan_error planned] at refused
        cases refused
        rfl
    | ok asked =>
        obtain ⟨request, flags⟩ := asked
        simp only [answer, planned] at refused
        split at refused <;> cases refused
  · intro refused
    rw [answer_of_plan_error refused]

theorem refused_iff_first {config : SearchConfig} {collaborators : Collaborators} {params : Params}
    {error : QueryError} :
    (answer config collaborators params).result = .error (.validation error) ↔
      QueryError.First params QueryError.order error :=
  refused_iff_plan.trans (reports_plan config params error)

/-- A request is refused exactly if one of the errors applies to it, and then with the first one in
order. That error names a parameter whose text it is about, and neither the search service nor the
chain node is asked. A request in which the seven parameters have the same texts is refused with the
same error, whatever its other parameters and its filters are and whoever is asked. -/
theorem refuses_exactly (config : SearchConfig) (collaborators : Collaborators) (params : Params) :
    ((∃ error, (answer config collaborators params).result = .error (.validation error)) ↔
      ∃ error ∈ QueryError.order, error.Applies params) ∧
    (∀ error, (answer config collaborators params).result = .error (.validation error) ↔
      QueryError.First params QueryError.order error) ∧
    (∀ error, (answer config collaborators params).result = .error (.validation error) →
      (∃ name text, (EngineError.validation error).parameter? = some name ∧
        params.get? name = some text ∧ error.Rejects text) ∧
      (answer config collaborators params).searches = [] ∧
      (answer config collaborators params).nodeCalls = 0) ∧
    ∀ (other : Params) (otherConfig : SearchConfig) (others : Collaborators),
      (∀ name ∈ QueryError.order.map QueryError.parameter, params.get? name = other.get? name) →
      ∀ error, (answer config collaborators params).result = .error (.validation error) ↔
        (answer otherConfig others other).result = .error (.validation error) := by
  refine ⟨?_, fun error => refused_iff_first, ?_, ?_⟩
  · simp only [refused_iff_first, QueryError.exists_first_iff]
  · intro error refused
    obtain ⟨_, _, _, ⟨text, given, rejects⟩, _⟩ := refused_iff_first.mp refused
    rw [answer_of_plan_error (refused_iff_plan.mp refused)]
    exact ⟨⟨error.parameter, text, rfl, given, rejects⟩, rfl, rfl⟩
  · intro other otherConfig others same error
    rw [refused_iff_first, refused_iff_first]
    apply QueryError.first_congr
    intro error present
    exact same error.parameter (List.mem_map_of_mem present)

/-- Collaborators that cannot be reached. -/
def unreachable : Collaborators where
  backendName := "none"
  search _ := .error (.connection "refused")
  node := .error (.connection "refused")

/-- A request whose counting and limit are both bad. -/
def twiceAtFault : Params :=
  .ofPairs [("track", "lots"), ("limit", " 0x10")]

/-- Its limit is reported, and no filter changes that. -/
theorem twiceAtFault_refused :
    (answer {} unreachable twiceAtFault).result = .error (.validation .invalidLimit) ∧
      (answer {} unreachable twiceAtFault).searches = [] ∧
      (answer {} unreachable (twiceAtFault.set "act.name" "-,!")).result =
        .error (.validation .invalidLimit) := by
  obtain ⟨-, first, silent, alike⟩ := refuses_exactly {} unreachable twiceAtFault
  have refused : (answer {} unreachable twiceAtFault).result =
      .error (.validation .invalidLimit) := by
    have skip : ¬ QueryError.invalidSkip.Applies twiceAtFault := by
      have missing : twiceAtFault.get? "skip" = none := by decide +kernel
      rintro ⟨text, given, -⟩
      exact absurd (given.symm.trans missing) (by simp)
    have limit : QueryError.invalidLimit.Rejects " 0x10" :=
      QueryError.rejects_limit_iff.mpr ⟨0, by decide +kernel, by decide⟩
    refine (first .invalidLimit).mpr ⟨[.invalidSkip], _, rfl, ⟨" 0x10", by decide +kernel, limit⟩, ?_⟩
    simpa using skip
  refine ⟨refused, (silent .invalidLimit refused).2.1, ?_⟩
  have same : ∀ name ∈ QueryError.order.map QueryError.parameter,
      twiceAtFault.get? name = (twiceAtFault.set "act.name" "-,!").get? name := by decide +kernel
  exact (alike (twiceAtFault.set "act.name" "-,!") {} unreachable same .invalidLimit).mp refused

end TransferHistory.Engine
