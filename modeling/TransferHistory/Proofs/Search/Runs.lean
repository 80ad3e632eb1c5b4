import TransferHistory.Proofs.Search.Validation
import TransferHistory.ResultEq

/-!
# Runs of the engine

One engine answers requests one after another, and nothing of a request is left for the next. What the
search service and the chain node are asked is therefore decided by each request alone: a refused one
asks nobody, any other one searches once, and the node is asked beside a search that went well and
wanted it. Both collaborators are taken to answer at once, so the search is looked at first.

Results:
1. `Engine.gathered_gather`: how the two collaborators answer together.
2. `Engine.served_of_plan`, `Engine.dealt_answer`: how one request is dealt with.
3. `Engine.getElem?_run`: each answer of a run, and the calls of the node up to there.
4. `Engine.run_exact`: all of it for every request of a run.
-/

namespace TransferHistory.Engine

/-! ## Both collaborators -/

/-- How a search and the node answer at once, and how often the node was asked: a search that fails
leaves it unasked, as do switches that do not want it. -/
inductive Gathered (flags : ResponseFlags) (search : Except Failure SearchHits)
    (node : Except Failure UInt64) : Except Failure (SearchHits × Option UInt64) → Nat → Prop
  | searchFailed {failure : Failure} (failed : search = .error failure) :
      Gathered flags search node (.error failure) 0
  | unasked {hits : SearchHits} (found : search = .ok hits) (off : flags.checkLib = false) :
      Gathered flags search node (.ok (hits, none)) 0
  | nodeFailed {hits : SearchHits} {failure : Failure} (found : search = .ok hits)
      (on : flags.checkLib = true) (failed : node = .error failure) :
      Gathered flags search node (.error failure) 1
  | both {hits : SearchHits} {lib : UInt64} (found : search = .ok hits)
      (on : flags.checkLib = true) (told : node = .ok lib) :
      Gathered flags search node (.ok (hits, some lib)) 1

theorem gathered_gather {collaborators : Collaborators} (atOnce : collaborators.arrival = .atOnce)
    (flags : ResponseFlags) (request : SearchRequest) :
    Gathered flags (collaborators.search request) collaborators.node
      (gather flags collaborators request).1 (gather flags collaborators request).2 := by
  unfold gather
  rw [atOnce]
  cases found : collaborators.search request with
  | error failure =>
      -- A failure that is there at once is noticed before the node is asked, whatever it would say.
      cases flags.checkLib with
      | false => exact .searchFailed rfl
      | true => cases collaborators.node <;> exact .searchFailed rfl
  | ok hits =>
      cases on : flags.checkLib with
      | false => exact .unasked rfl on
      | true =>
          cases told : collaborators.node with
          | error failure => exact .nodeFailed rfl on rfl
          | ok lib => exact .both rfl on rfl

/-- The page of what was gathered, or why there is none. -/
def resultOf (flags : ResponseFlags) :
    Except Failure (SearchHits × Option UInt64) → Except EngineError TransferPage
  | .ok (hits, lib) => .ok (page flags hits lib)
  | .error failure => .error (.storage failure)

namespace Gathered

variable {flags : ResponseFlags} {search : Except Failure SearchHits} {node : Except Failure UInt64}
  {result : Except Failure (SearchHits × Option UInt64)} {calls : Nat}

/-- The node is asked once where it is wanted and the search went well, and else not at all. -/
theorem calls_eq (gathered : Gathered flags search node result calls) :
    calls = if flags.checkLib && search.isOk then 1 else 0 := by
  cases gathered with
  | searchFailed failed => simp [failed, Except.isOk, Except.toBool]
  | unasked found off => simp [off]
  | nodeFailed found on failed => simp [found, on, Except.isOk, Except.toBool]
  | both found on told => simp [found, on, Except.isOk, Except.toBool]

theorem succeeds_iff (gathered : Gathered flags search node result calls) :
    (∃ page, resultOf flags result = .ok page) ↔
      (∃ hits, search = .ok hits) ∧ (flags.checkLib = false ∨ ∃ lib, node = .ok lib) := by
  cases gathered with
  | searchFailed failed => simp [resultOf, failed]
  | unasked found off => simp [resultOf, found, off]
  | nodeFailed found on failed => simp [resultOf, on, failed]
  | both found on told => simp [resultOf, found, told]

theorem fails_iff (gathered : Gathered flags search node result calls) (error : EngineError) :
    resultOf flags result = .error error ↔ ∃ failure, error = .storage failure ∧
      (search = .error failure ∨
        (∃ hits, search = .ok hits) ∧ flags.checkLib = true ∧ node = .error failure) := by
  cases gathered with
  | searchFailed failed =>
      rw [resultOf, Except.error.injEq, eq_comm]
      simp [failed]
  | unasked found off => simp [resultOf, found, off]
  | nodeFailed found on failed =>
      rw [resultOf, Except.error.injEq, eq_comm]
      simp [found, on, failed]
  | both found on told => simp [resultOf, found, told]

theorem page_eq (gathered : Gathered flags search node result calls) {page : TransferPage}
    (answered : resultOf flags result = .ok page) :
    (∃ hits, search = .ok hits ∧ page.total = hits.total ∧
      page.projection.size = hits.records.length) ∧
      if flags.checkLib then node = .ok page.lib else page.lib = 0 := by
  cases gathered with
  | searchFailed failed => cases answered
  | unasked found off =>
      cases answered
      exact ⟨⟨_, found, rfl, ProjectionOptions.size_project _ _⟩, by simp [off, Engine.page]⟩
  | nodeFailed found on failed => cases answered
  | both found on told =>
      cases answered
      exact ⟨⟨_, found, rfl, ProjectionOptions.size_project _ _⟩, by simp [on, told, Engine.page]⟩

end Gathered

/-! ## One request -/

/-- A request for which the node is asked: it is good, it wants the last irreversible block, and its
search goes well. -/
def wantsNode (config : SearchConfig) (step : Collaborators × Params) : Bool :=
  match plan config step.2 with
  | .ok (request, flags) => flags.checkLib && (step.1.search request).isOk
  | .error _ => false

/-- How a refused request is dealt with. -/
structure Refused (outcome : Outcome) : Prop where
  result : ∃ error, outcome.result = .error (.validation error)
  searches : outcome.searches = []
  nodeCalls : outcome.nodeCalls = 0

/-- How a request is dealt with that is compiled to `compiled` and has the switches `flags`, given
what the collaborators do. -/
structure Served (config : SearchConfig) (collaborators : Collaborators) (compiled : CompiledQuery)
    (flags : ResponseFlags) (request : SearchRequest) (outcome : Outcome) : Prop where
  /-- What is searched are the action indices of the chain. -/
  index : request.index = config.chain ++ "-action-*"
  body : request.body = compiled.body
  /-- There is one search. -/
  searches : outcome.searches = [request]
  /-- The node is asked once where it is wanted and the search went well, and else not at all. -/
  nodeCalls : outcome.nodeCalls =
    if flags.checkLib && (collaborators.search request).isOk then 1 else 0
  succeeds : (∃ page, outcome.result = .ok page) ↔
    (∃ hits, collaborators.search request = .ok hits) ∧
      (flags.checkLib = false ∨ ∃ lib, collaborators.node = .ok lib)
  /-- A failure of the search counts before one of the node. -/
  fails : ∀ error, outcome.result = .error error ↔ ∃ failure, error = .storage failure ∧
    (collaborators.search request = .error failure ∨
      (∃ hits, collaborators.search request = .ok hits) ∧ flags.checkLib = true ∧
        collaborators.node = .error failure)
  /-- A page has all hits of the search, and the block of the node where it was asked. -/
  page : ∀ page, outcome.result = .ok page →
    (∃ hits, collaborators.search request = .ok hits ∧ page.total = hits.total ∧
      page.projection.size = hits.records.length) ∧
    if flags.checkLib then collaborators.node = .ok page.lib else page.lib = 0

/-- How a request is dealt with: it is refused if an error applies to it, and else served. -/
structure Dealt (config : SearchConfig) (collaborators : Collaborators) (params : Params)
    (outcome : Outcome) : Prop where
  refused : (∃ error ∈ QueryError.order, error.Applies params) →
    Refused outcome ∧ wantsNode config (collaborators, params) = false
  served : (¬ ∃ error ∈ QueryError.order, error.Applies params) →
    ∃ compiled flags request, CompiledQuery.ofParams params = .ok compiled ∧
      ResponseFlags.ofParams params = .ok flags ∧
      Served config collaborators compiled flags request outcome ∧
      wantsNode config (collaborators, params) =
        (flags.checkLib && (collaborators.search request).isOk)

variable {config : SearchConfig} {collaborators : Collaborators} {params : Params}
  {request : SearchRequest} {flags : ResponseFlags}

theorem answer_of_plan (planned : plan config params = .ok (request, flags))
    (collaborators : Collaborators) :
    (answer config collaborators params).result =
        resultOf flags (gather flags collaborators request).1 ∧
      (answer config collaborators params).searches = [request] ∧
      (answer config collaborators params).nodeCalls = (gather flags collaborators request).2 := by
  unfold answer
  rw [planned]
  exact ⟨rfl, rfl, rfl⟩

/-- Every search that is sent was planned. -/
theorem exists_plan_of_mem_searches
    (sent : request ∈ (answer config collaborators params).searches) :
    ∃ flags, plan config params = .ok (request, flags) := by
  cases planned : plan config params with
  | error error =>
      rw [answer_of_plan_error planned] at sent
      exact absurd sent List.not_mem_nil
  | ok asked =>
      obtain ⟨-, searches, -⟩ := answer_of_plan planned collaborators
      rw [searches, List.mem_singleton] at sent
      exact ⟨asked.2, by rw [sent]⟩

/-- What is searched are the indices of the chain. -/
theorem index_of_mem_searches (sent : request ∈ (answer config collaborators params).searches) :
    request.index = config.actionIndex := by
  obtain ⟨_, planned⟩ := exists_plan_of_mem_searches sent
  obtain ⟨_, -, planned⟩ := bind_eq_ok_iff.mp planned
  obtain ⟨_, -, planned⟩ := bind_eq_ok_iff.mp planned
  cases planned
  rfl

/-- A good request searches once, and the rest follows from what the collaborators answer. -/
theorem served_of_plan (atOnce : collaborators.arrival = .atOnce)
    (planned : plan config params = .ok (request, flags)) :
    ∃ compiled, CompiledQuery.ofParams params = .ok compiled ∧
      ResponseFlags.ofParams params = .ok flags ∧
      Served config collaborators compiled flags request (answer config collaborators params) := by
  obtain ⟨result, searches, nodeCalls⟩ := answer_of_plan planned collaborators
  have gathered := gathered_gather atOnce flags request
  obtain ⟨compiled, accepted, planned⟩ := bind_eq_ok_iff.mp planned
  obtain ⟨others, switched, done⟩ := bind_eq_ok_iff.mp planned
  cases done
  refine ⟨compiled, accepted, switched, ?_⟩
  exact {
    index := rfl
    body := rfl
    searches := searches
    nodeCalls := nodeCalls ▸ gathered.calls_eq
    succeeds := result ▸ gathered.succeeds_iff
    fails := result ▸ gathered.fails_iff
    page := fun page answered => gathered.page_eq (result ▸ answered) }

theorem wantsNode_of_plan (planned : plan config params = .ok (request, flags)) :
    wantsNode config (collaborators, params) =
      (flags.checkLib && (collaborators.search request).isOk) := by
  unfold wantsNode
  rw [planned]

theorem wantsNode_of_plan_error {error : QueryError}
    (refused : plan config params = .error error) :
    wantsNode config (collaborators, params) = false := by
  unfold wantsNode
  rw [refused]

theorem dealt_answer (atOnce : collaborators.arrival = .atOnce) :
    Dealt config collaborators params (answer config collaborators params) := by
  have passes := (reports_plan config params).passes_iff
  cases planned : plan config params with
  | error error =>
      rw [planned] at passes
      refine ⟨fun _ => ⟨?_, wantsNode_of_plan_error planned⟩, fun good => ?_⟩
      · rw [answer_of_plan_error planned]
        exact ⟨⟨error, rfl⟩, rfl, rfl⟩
      · obtain ⟨_, impossible⟩ := passes.mpr good
        cases impossible
  | ok asked =>
      obtain ⟨request, flags⟩ := asked
      refine ⟨fun bad => absurd bad (passes.mp ⟨_, planned⟩), fun _ => ?_⟩
      obtain ⟨compiled, accepted, switched, served⟩ := served_of_plan atOnce planned
      exact ⟨compiled, flags, request, accepted, switched, served, wantsNode_of_plan planned⟩

theorem nodeCalls_answer (atOnce : collaborators.arrival = .atOnce) :
    (answer config collaborators params).nodeCalls =
      if wantsNode config (collaborators, params) then 1 else 0 := by
  cases planned : plan config params with
  | error error =>
      rw [answer_of_plan_error planned, wantsNode_of_plan_error planned]
      rfl
  | ok asked =>
      obtain ⟨request, flags⟩ := asked
      obtain ⟨-, -, nodeCalls⟩ := answer_of_plan planned collaborators
      rw [nodeCalls, wantsNode_of_plan planned]
      exact (gathered_gather atOnce flags request).calls_eq

/-! ## Runs -/

theorem length_run (config : SearchConfig) (calls : Nat) (steps : List (Collaborators × Params)) :
    (run config calls steps).length = steps.length := by
  induction steps generalizing calls with
  | nil => rfl
  | cons step rest ih => simp [run, ih]

/-- Each request of a run is answered as it is alone, and up to it the node was asked as often as it
was wanted. -/
theorem getElem?_run (config : SearchConfig) (calls : Nat) {steps : List (Collaborators × Params)}
    (atOnce : ∀ step ∈ steps, step.1.arrival = .atOnce) (place : Nat) :
    (run config calls steps)[place]? = steps[place]?.map fun step =>
      (answer config step.1 step.2, calls + (steps.take (place + 1)).countP (wantsNode config)) := by
  -- The calls so far are carried along the run, so the induction is for any number of them.
  induction steps generalizing calls place with
  | nil => simp [run]
  | cons step rest ih =>
      rw [List.forall_mem_cons] at atOnce
      have counted (place : Nat) : ((step :: rest).take (place + 1)).countP (wantsNode config) =
          (answer config step.1 step.2).nodeCalls +
            (rest.take place).countP (wantsNode config) := by
        rw [List.take_succ_cons, List.countP_cons, nodeCalls_answer atOnce.1, Nat.add_comm]
      cases place with
      | zero =>
          rw [counted]
          simp [run]
      | succ place =>
          rw [counted, run, List.getElem?_cons_succ, List.getElem?_cons_succ, ih _ atOnce.2]
          simp only [Nat.add_assoc]

/-- Every request of a run is dealt with as it is alone: a bad one asks nobody, any other one searches
once and is answered by what the collaborators do for it. Up to each place of the run the node was
asked exactly as often as it was wanted. -/
theorem run_exact (config : SearchConfig) {steps : List (Collaborators × Params)}
    (atOnce : ∀ step ∈ steps, step.1.arrival = .atOnce) :
    (run config 0 steps).length = steps.length ∧
    ∀ place collaborators params, steps[place]? = some (collaborators, params) →
      ∃ outcome, Dealt config collaborators params outcome ∧
        (run config 0 steps)[place]? =
          some (outcome, (steps.take (place + 1)).countP (wantsNode config)) ∧
        run config 0 [(collaborators, params)] = [(outcome, outcome.nodeCalls)] := by
  refine ⟨length_run config 0 steps, ?_⟩
  intro place collaborators params standing
  have present : (collaborators, params) ∈ steps := List.mem_of_getElem? standing
  refine ⟨answer config collaborators params, dealt_answer (atOnce _ present), ?_, ?_⟩
  · rw [getElem?_run config 0 atOnce, standing, Option.map_some, Nat.zero_add]
  · simp [run]

/-- Collaborators that are well: nothing is found, and the node is at block 100. -/
def steady : Collaborators where
  backendName := "steady"
  search _ := .ok .empty
  node := .ok 100

/-- A bad request, one that wants the node, and one that wants it beside a search that fails. -/
def threeRequests : List (Collaborators × Params) :=
  [(steady, twiceAtFault), (steady, .ofPairs [("checkLib", "true")]),
    (unreachable, .ofPairs [("checkLib", "1")])]

/-- The second request is answered with the block of the node, and it is the only one for which the
node is asked. -/
theorem threeRequests_exact :
    (∃ outcome page, (run {} 0 threeRequests)[1]? = some (outcome, 1) ∧
      outcome.result = .ok page ∧ page.lib = 100) ∧
    ∃ outcome, (run {} 0 threeRequests)[2]? = some (outcome, 1) ∧
      outcome.result = .error (.storage (.connection "refused")) := by
  have atOnce : ∀ step ∈ threeRequests, step.1.arrival = .atOnce := by
    simp [threeRequests, steady, unreachable]
  have good (params : Params) (planned : (plan {} params).isOk = true) :
      ¬ ∃ error ∈ QueryError.order, error.Applies params := by
    apply (reports_plan {} params).passes_iff.mp
    cases reached : plan {} params with
    | error error => simp [reached, Except.isOk, Except.toBool] at planned
    | ok asked => exact ⟨asked, rfl⟩
  obtain ⟨-, each⟩ := run_exact {} atOnce
  constructor
  · obtain ⟨outcome, dealt, standing, -⟩ := each 1 _ _ rfl
    have count : (threeRequests.take (1 + 1)).countP (wantsNode {}) = 1 := by decide +kernel
    obtain ⟨compiled, flags, request, -, switched, served, -⟩ :=
      dealt.served (good _ (by decide +kernel))
    have on : flags.checkLib = true := by
      have known : ResponseFlags.ofParams (.ofPairs [("checkLib", "true")]) =
        .ok { checkLib := true } := by decide +kernel
      cases known.symm.trans switched
      rfl
    obtain ⟨page, answered⟩ := served.succeeds.mpr ⟨⟨_, rfl⟩, .inr ⟨100, rfl⟩⟩
    obtain ⟨-, lib⟩ := served.page page answered
    rw [if_pos on] at lib
    exact ⟨outcome, page, count ▸ standing, answered, (Except.ok.inj lib).symm⟩
  · obtain ⟨outcome, dealt, standing, -⟩ := each 2 _ _ rfl
    have count : (threeRequests.take (2 + 1)).countP (wantsNode {}) = 1 := by decide +kernel
    obtain ⟨compiled, flags, request, -, -, served, -⟩ :=
      dealt.served (good _ (by decide +kernel))
    exact ⟨outcome, count ▸ standing, (served.fails _).mpr ⟨_, rfl, .inl rfl⟩⟩

end TransferHistory.Engine
