import TransferHistory.Api.Router
import TransferHistory.Proofs.Search.Runs
import TransferHistory.Proofs.Text.Split

/-!
# Outcomes

What the caller of the service gets to see of the engine, for every request of a run: which status
stands for which result, what the body says, and who is asked for it. A result is shown where the
request is a GET of the transfers; a HEAD there is such a GET whose body is left out, and every
other request asks nobody.

Results:
1. `HttpRequest.pathAndQuery_of_origin`: a target may say where the service is.
2. `Router.shows_transfersResponse`: how a result of the engine is shown.
3. `Router.dispatched_dispatch`: the ways that a request may go.
4. `Router.Dispatched.silent`, `Router.Dispatched.told`, `Router.Dispatched.not_found`: what they
   have in common.
5. `Router.handled_answer`: how one request is dealt with.
6. `Router.getElem?_run`, `Router.run_handled`: every request of a run is dealt with as it is alone.
-/

namespace TransferHistory

/-! ## Targets -/

namespace HttpRequest

variable {request other : HttpRequest}

/-- A scheme and an authority are cut off where the path begins. -/
theorem cutOrigin_join {scheme authority place : List Char} (named : scheme ≠ [])
    (chars : scheme.all Url.isSchemeChar = true) (free : authority.all isAuthorityChar = true)
    (rooted : place.head? = some '/') :
    cutOrigin (scheme ++ ':' :: '/' :: '/' :: (authority ++ place)) =
      (some (scheme, authority), place) := by
  obtain ⟨rest, rfl⟩ := List.head?_eq_some_iff.mp rooted
  have colon : ':' ∉ scheme := by
    intro present
    have char := List.all_eq_true.mp chars ':' present
    exact absurd char (by decide)
  have within : ∀ c ∈ authority, isAuthorityChar c = true := List.all_eq_true.mp free
  unfold cutOrigin
  rw [Text.cut_join colon]
  simp only [ne_eq, named, not_false_eq_true, chars, and_self, if_true]
  rw [List.takeWhile_append_of_pos within, List.dropWhile_append_of_pos within,
    List.takeWhile_cons_of_neg (by decide), List.dropWhile_cons_of_neg (by decide), List.append_nil]

theorem cutOrigin_of_rooted {resource : List Char} (rooted : resource.head? = some '/') :
    cutOrigin resource = (none, resource) := by
  obtain ⟨rest, rfl⟩ := List.head?_eq_some_iff.mp rooted
  unfold cutOrigin
  split
  case h_1 scheme _ cut =>
    obtain ⟨whole, -⟩ := Text.cut_some cut
    have slash : ¬ (scheme ≠ [] ∧ scheme.all Url.isSchemeChar = true) := by
      rintro ⟨named, chars⟩
      obtain ⟨c, others, rfl⟩ := List.exists_cons_of_ne_nil named
      cases whole
      exact absurd (List.all_eq_true.mp chars '/' List.mem_cons_self) (by decide)
    exact if_neg slash
  case h_2 => rfl

/-- Where a target says that the service is does not change what is asked for there. -/
theorem pathAndQuery_of_origin {scheme authority : List Char} (named : scheme ≠ [])
    (chars : scheme.all Url.isSchemeChar = true) (free : authority.all isAuthorityChar = true)
    (rooted : other.resource.head? = some '/')
    (whole : request.resource = scheme ++ ':' :: '/' :: '/' :: (authority ++ other.resource)) :
    request.pathAndQuery = other.pathAndQuery := by
  unfold pathAndQuery
  rw [whole, cutOrigin_join named chars free rooted, cutOrigin_of_rooted rooted]

example : pathAndQuery { target := "http://localhost:7000/healthz?a" } =
    pathAndQuery { target := "/healthz?a" } := by decide +kernel

end HttpRequest

/-! ## Replies -/

/-- A member of the body of a response. -/
def Response.member? (name : String) (response : Response) : Option Json :=
  response.body.bind (Json.get? name)

namespace Reply

/-- A reply without the body of its response. -/
def withoutBody (reply : Reply) : Reply :=
  { reply with response := reply.response.withoutBody }

/-- A reply tells the same as another, but for the body, and nobody else is asked for it. -/
structure HeadOf (reply asked : Reply) : Prop where
  status : reply.response.status = asked.response.status
  contentType : reply.response.contentType = asked.response.contentType
  body : reply.response.body = none
  searches : reply.searches = asked.searches
  nodeCalls : reply.nodeCalls = asked.nodeCalls

theorem headOf_withoutBody (reply : Reply) : reply.withoutBody.HeadOf reply :=
  ⟨rfl, rfl, rfl, rfl, rfl⟩

/-- Replies agree in all but what is logged. -/
structure Agrees (reply other : Reply) : Prop where
  response : reply.response = other.response
  searches : reply.searches = other.searches
  nodeCalls : reply.nodeCalls = other.nodeCalls

theorem HeadOf.congr {reply asked other source : Reply} (head : reply.HeadOf asked)
    (agrees : other.Agrees reply) (also : source.Agrees asked) : other.HeadOf source := by
  constructor
  · rw [agrees.response, also.response, head.status]
  · rw [agrees.response, also.response, head.contentType]
  · rw [agrees.response, head.body]
  · rw [agrees.searches, also.searches, head.searches]
  · rw [agrees.nodeCalls, also.nodeCalls, head.nodeCalls]

end Reply

/-! ## Results -/

namespace Router

/-- The status that stands for a result of the engine. -/
def statusOf : Except EngineError TransferPage → Nat
  | .error (.validation _) => 400
  | .error (.storage (.internal _)) => 500
  | .error (.storage _) => 502
  | .ok _ => 200

theorem status_transfersResponse (elapsed : Binary64) (result : Except EngineError TransferPage) :
    (transfersResponse elapsed result).status = statusOf result := by
  cases result with
  | ok page => rfl
  | error error =>
      cases error with
      | validation cause => rfl
      | storage failure => cases failure <;> rfl

/-- Each status stands for one kind of result. -/
theorem statusOf_iff (result : Except EngineError TransferPage) :
    (statusOf result = 400 ↔ ∃ error, result = .error (.validation error)) ∧
      (statusOf result = 500 ↔ ∃ reason, result = .error (.storage (.internal reason))) ∧
      (statusOf result = 502 ↔
        ∃ failure, result = .error (.storage failure) ∧ ∀ reason, failure ≠ .internal reason) ∧
      (statusOf result = 200 ↔ ∃ page, result = .ok page) := by
  cases result with
  | ok page => simp [statusOf]
  | error error =>
      cases error with
      | validation cause => simp [statusOf]
      | storage failure => cases failure <;> simp [statusOf]

end Router

/-- The words of an error are passed on as they are. -/
theorem ApiError.message_ofEngine_storage (failure : Failure) :
    (ofEngine (.storage failure)).message = failure.message := by
  cases failure <;> rfl

/-- The records are answered as compact rows. -/
def Projection.isSimple : Projection → Bool
  | .simple _ => true
  | .full _ => false

/-- The records of a page stand under one of two names. -/
theorem TransferPage.get?_envelope (page : TransferPage) (elapsed : Binary64) :
    (page.envelope elapsed).get? "lib" = some (.ofWord64 page.lib) ∧
      (page.envelope elapsed).get? "total" = some page.total ∧
      (page.envelope elapsed).get?
          (if page.projection.isSimple then "simple_actions" else "actions") =
        some (.array page.projection.items) ∧
      (page.envelope elapsed).get?
          (if page.projection.isSimple then "actions" else "simple_actions") = none := by
  obtain ⟨lib, total, projection⟩ := page
  cases projection with
  | simple rows =>
      simp [envelope, Projection.toMembers, Projection.label, Projection.isSimple, Json.get?,
        Ordered.get?]
  | full records =>
      simp [envelope, Projection.toMembers, Projection.label, Projection.isSimple, Json.get?,
        Ordered.get?]

/-- The switch `simple` decides how the records are answered. -/
theorem Engine.isSimple_of_answer {config : SearchConfig} {collaborators : Collaborators}
    {params : Params} {page : TransferPage}
    (answered : (answer config collaborators params).result = .ok page) :
    ∃ flags, ResponseFlags.ofParams params = .ok flags ∧
      page.projection.isSimple = flags.simple := by
  cases planned : plan config params with
  | error error =>
      rw [answer_of_plan_error planned] at answered
      cases answered
  | ok asked =>
      obtain ⟨request, flags⟩ := asked
      obtain ⟨result, -, -⟩ := answer_of_plan planned collaborators
      obtain ⟨compiled, -, planned⟩ := bind_eq_ok_iff.mp planned
      obtain ⟨others, switched, planned⟩ := bind_eq_ok_iff.mp planned
      cases planned
      refine ⟨flags, switched, ?_⟩
      rw [result] at answered
      unfold resultOf at answered
      split at answered
      · cases answered
        unfold Engine.page ProjectionOptions.project
        cases on : flags.simple with
        | true => rfl
        | false => rfl
      · cases answered

namespace Router

variable {config : SearchConfig} {collaborators : Collaborators} {elapsed : Binary64}
  {request : HttpRequest}

/-- How a response shows a result of the engine. -/
structure Shows (params : Params) (result : Except EngineError TransferPage) (response : Response) :
    Prop where
  contentType : response.contentType = some "application/json"
  badRequest : response.status = 400 ↔ ∃ error, result = .error (.validation error)
  internal : response.status = 500 ↔ ∃ reason, result = .error (.storage (.internal reason))
  badGateway : response.status = 502 ↔
    ∃ failure, result = .error (.storage failure) ∧ ∀ reason, failure ≠ .internal reason
  success : response.status = 200 ↔ ∃ page, result = .ok page
  validationMessage : ∀ error, result = .error (.validation error) →
    response.member? "message" = some (.string error.message)
  storageMessage : ∀ failure, result = .error (.storage failure) →
    response.member? "message" = some (.string failure.message)
  page : ∀ page, result = .ok page →
    response.member? "lib" = some (.ofWord64 page.lib) ∧
    response.member? "total" = some page.total ∧
    ∃ flags, ResponseFlags.ofParams params = .ok flags ∧
      response.member? (if flags.simple then "simple_actions" else "actions") =
        some (.array page.projection.items) ∧
      response.member? (if flags.simple then "actions" else "simple_actions") = none

theorem shows_transfersResponse {params : Params} {result : Except EngineError TransferPage}
    (answered : (Engine.answer config collaborators params).result = result) :
    Shows params result (transfersResponse elapsed result) := by
  obtain ⟨badRequest, internal, badGateway, success⟩ := statusOf_iff result
  rw [← status_transfersResponse elapsed] at badRequest internal badGateway success
  refine ⟨?_, badRequest, internal, badGateway, success, ?_, ?_, ?_⟩
  · cases result <;> rfl
  · rintro error rfl
    rfl
  · rintro failure rfl
    rw [← ApiError.message_ofEngine_storage]
    rfl
  · rintro page rfl
    obtain ⟨lib, total, records, other⟩ := page.get?_envelope elapsed
    obtain ⟨flags, switched, same⟩ := Engine.isSimple_of_answer answered
    rw [same] at records other
    exact ⟨lib, total, flags, switched, records, other⟩

/-! ## Single requests -/

/-- How a request is dealt with. -/
structure Handled (config : SearchConfig) (collaborators : Collaborators) (elapsed : Binary64)
    (request : HttpRequest) (reply : Reply) : Prop where
  /-- A GET of the transfers shows what the engine makes of the query string. -/
  transfers : request.method = "GET" → request.path = "/v2/history/get_transfers" →
    let outcome := Engine.answer config collaborators request.params
    Shows request.params outcome.result reply.response ∧
      reply.searches = outcome.searches ∧ reply.nodeCalls = outcome.nodeCalls
  /-- A HEAD is the same GET without its body. -/
  head : request.method = "HEAD" →
    reply.HeadOf (answer config collaborators elapsed { request with method := "GET" })
  /-- Nobody is asked for anything else. -/
  silent : request.method ∉ ["GET", "HEAD"] ∨ request.path ≠ "/v2/history/get_transfers" →
    reply.searches = [] ∧ reply.nodeCalls = 0
  /-- A path without a route is not found. -/
  unknown : request.method ≠ "OPTIONS" → request.path ∉ ["/healthz", "/v2/history/get_transfers"] →
    reply.response.status = 404 ∧
      (request.method ≠ "HEAD" →
        reply.response.member? "message" = some (.string "route not found"))
  /-- An error that has a body names its own status there. -/
  told : ∀ body, reply.response.body = some body → reply.response.status ≠ 200 →
    body.get? "statusCode" = some (.ofNat reply.response.status)

/-- How a request is dispatched. -/
inductive Dispatched (config : SearchConfig) (collaborators : Collaborators) (elapsed : Binary64) :
    HttpRequest → Reply → Prop where
  | preflight {request : HttpRequest} (method : request.method = "OPTIONS") :
      Dispatched config collaborators elapsed request { response := { status := 200 } }
  | health {request : HttpRequest} (method : request.method = "GET")
      (path : request.path = "/healthz") :
      Dispatched config collaborators elapsed request
        { response := .json 200 (.object [("status", .string "ok")]) }
  | transfers {request : HttpRequest} (method : request.method = "GET")
      (path : request.path = "/v2/history/get_transfers") :
      Dispatched config collaborators elapsed request
        (serveTransfers config collaborators elapsed request.params)
  | head {request : HttpRequest} {asked : Reply} (method : request.method = "HEAD")
      (get : Dispatched config collaborators elapsed { request with method := "GET" } asked) :
      Dispatched config collaborators elapsed request asked.withoutBody
  | refused {request : HttpRequest} (method : request.method ∉ ["OPTIONS", "HEAD", "GET"])
      (path : request.path ∈ ["/healthz", "/v2/history/get_transfers"]) :
      Dispatched config collaborators elapsed request
        { response := { status := 405, allow := some "GET,HEAD" } }
  | unknown {request : HttpRequest} (method : request.method ∉ ["OPTIONS", "HEAD"])
      (path : request.path ∉ ["/healthz", "/v2/history/get_transfers"]) :
      Dispatched config collaborators elapsed request
        { response := (ApiError.notFound "route not found").toResponse }

/-- The path of a route. -/
def Route.path : Route → String
  | .health => "/healthz"
  | .transfers => "/v2/history/get_transfers"

theorem route?_eq_some_iff {path : String} {route : Route} :
    route? path = some route ↔ path = route.path := by
  unfold route?
  constructor
  · intro found
    split at found
    case isTrue health =>
      cases found
      exact health
    case isFalse =>
      split at found
      case isTrue transfers =>
        cases found
        exact transfers
      case isFalse => cases found
  · rintro rfl
    cases route with
    | health => rfl
    | transfers => rfl

theorem route?_eq_none_iff {path : String} :
    route? path = none ↔ path ∉ ["/healthz", "/v2/history/get_transfers"] := by
  unfold route?
  split
  case isTrue same => simp [same]
  case isFalse other => simp [other]

/-- A request that is neither a preflight nor a HEAD goes to the route of its path. -/
theorem dispatched_of_route (method : request.method ∉ ["OPTIONS", "HEAD"]) :
    Dispatched config collaborators elapsed request
      (dispatch config collaborators elapsed request) := by
  have apart : request.method ≠ "OPTIONS" ∧ request.method ≠ "HEAD" := by simpa using method
  unfold dispatch
  simp only [if_neg apart.1, if_neg apart.2]
  cases found : route? request.path with
  | none => exact .unknown method (route?_eq_none_iff.mp found)
  | some route =>
      have path := route?_eq_some_iff.mp found
      by_cases get : request.method = "GET"
      · simp only [get, true_or, if_true]
        cases route with
        | health => exact .health get path
        | transfers => exact .transfers get path
      · simp only [get, apart.2, or_self, if_false]
        refine .refused (by simp [get, apart]) ?_
        rw [path]
        cases route <;> simp [Route.path]

theorem dispatch_of_head (config : SearchConfig) (collaborators : Collaborators)
    (elapsed : Binary64) (method : request.method = "HEAD") :
    dispatch config collaborators elapsed request =
      (dispatch config collaborators elapsed { request with method := "GET" }).withoutBody := by
  unfold dispatch
  simp only [method, String.reduceEq, if_true, if_false, true_or, or_true]
  -- The path and the query string are those of the target, whatever the method is.
  have path : ({ request with method := "GET" } : HttpRequest).path = request.path := rfl
  rw [path]
  cases route? request.path with
  | none => rfl
  | some route => cases route <;> rfl

theorem dispatched_dispatch (config : SearchConfig) (collaborators : Collaborators)
    (elapsed : Binary64) (request : HttpRequest) :
    Dispatched config collaborators elapsed request
      (dispatch config collaborators elapsed request) := by
  by_cases head : request.method = "HEAD"
  · rw [dispatch_of_head config collaborators elapsed head]
    exact .head head (dispatched_of_route (by simp))
  · by_cases preflight : request.method = "OPTIONS"
    · unfold dispatch
      rw [if_pos preflight]
      exact .preflight preflight
    · exact dispatched_of_route (by simp [head, preflight])

namespace Dispatched

variable {reply : Reply}

theorem silent (dispatched : Dispatched config collaborators elapsed request reply)
    (elsewhere : request.method ∉ ["GET", "HEAD"] ∨ request.path ≠ "/v2/history/get_transfers") :
    reply.searches = [] ∧ reply.nodeCalls = 0 := by
  induction dispatched with
  | transfers method path => simp [method, path] at elsewhere
  | head method get ih =>
      -- Only the method differs from the GET, so it is the path that leads elsewhere.
      rcases elsewhere with other | path
      · simp [method] at other
      · exact ih (Or.inr path)
  | preflight | health | refused | unknown => exact ⟨rfl, rfl⟩

theorem told (dispatched : Dispatched config collaborators elapsed request reply) {body : Json}
    (present : reply.response.body = some body) (failed : reply.response.status ≠ 200) :
    body.get? "statusCode" = some (.ofNat reply.response.status) := by
  cases dispatched with
  | health method path => exact absurd rfl failed
  | transfers method path =>
      unfold serveTransfers at present failed ⊢
      cases result : (Engine.answer config collaborators request.params).result with
      | ok page => simp [result, transfersResponse, Response.json] at failed
      | error error =>
          simp only [result] at present ⊢
          cases present
          rfl
  | unknown method path =>
      cases present
      rfl
  | preflight | head | refused => cases present

theorem not_found (dispatched : Dispatched config collaborators elapsed request reply)
    (method : request.method ≠ "OPTIONS")
    (path : request.path ∉ ["/healthz", "/v2/history/get_transfers"]) :
    reply.response.status = 404 ∧
      (request.method ≠ "HEAD" →
        reply.response.member? "message" = some (.string "route not found")) := by
  induction dispatched with
  | preflight preflight => exact absurd preflight method
  | health _ health => simp [health] at path
  | transfers _ transfers => simp [transfers] at path
  | refused _ known => exact absurd known path
  | unknown => exact ⟨rfl, fun _ => rfl⟩
  | head head get ih =>
      obtain ⟨status, -⟩ := ih (by simp) path
      exact ⟨status, fun other => absurd head other⟩

theorem eq_serveTransfers (dispatched : Dispatched config collaborators elapsed request reply)
    (method : request.method = "GET") (path : request.path = "/v2/history/get_transfers") :
    reply = serveTransfers config collaborators elapsed request.params := by
  cases dispatched with
  | transfers => rfl
  | preflight other => simp [method] at other
  | health _ other => simp [path] at other
  | head other => simp [method] at other
  | refused other => simp [method] at other
  | unknown _ other => simp [path] at other

end Dispatched

/-- An answer is what is dispatched, but for what is logged about it. -/
theorem answer_agrees (config : SearchConfig) (collaborators : Collaborators) (elapsed : Binary64)
    (request : HttpRequest) :
    (answer config collaborators elapsed request).Agrees
      (dispatch config collaborators elapsed request) :=
  ⟨rfl, rfl, rfl⟩

theorem shows_serveTransfers (config : SearchConfig) (collaborators : Collaborators)
    (elapsed : Binary64) (params : Params) :
    let outcome := Engine.answer config collaborators params
    let reply := serveTransfers config collaborators elapsed params
    Shows params outcome.result reply.response ∧ reply.searches = outcome.searches ∧
      reply.nodeCalls = outcome.nodeCalls :=
  ⟨shows_transfersResponse rfl, rfl, rfl⟩

theorem handled_answer (config : SearchConfig) (collaborators : Collaborators) (elapsed : Binary64)
    (request : HttpRequest) :
    Handled config collaborators elapsed request
      (answer config collaborators elapsed request) := by
  have dispatched := dispatched_dispatch config collaborators elapsed request
  have agrees := answer_agrees config collaborators elapsed request
  constructor
  case transfers =>
    intro method path
    rw [agrees.response, agrees.searches, agrees.nodeCalls,
      dispatched.eq_serveTransfers method path]
    exact shows_serveTransfers config collaborators elapsed request.params
  case head =>
    intro method
    have head := Reply.headOf_withoutBody
      (dispatch config collaborators elapsed { request with method := "GET" })
    rw [← dispatch_of_head config collaborators elapsed method] at head
    exact head.congr agrees (answer_agrees config collaborators elapsed _)
  case silent =>
    rw [agrees.searches, agrees.nodeCalls]
    exact dispatched.silent
  case unknown =>
    rw [agrees.response]
    exact dispatched.not_found
  case told =>
    rw [agrees.response]
    exact fun body => dispatched.told

/-! ## Runs -/

theorem length_run (config : SearchConfig) (calls : Nat) (steps : List Step) :
    (run config calls steps).length = steps.length := by
  induction steps generalizing calls with
  | nil => rfl
  | cons step rest ih => simp [run, ih]

/-- The calls of the node that some requests make, each of them asked alone. -/
def callsOf (config : SearchConfig) : List Step → Nat
  | [] => 0
  | step :: rest => (step.reply config).nodeCalls + callsOf config rest

/-- Each request of a run is answered as it is alone, and the calls of the node add up. -/
theorem getElem?_run (config : SearchConfig) (calls : Nat) (steps : List Step) (place : Nat) :
    (run config calls steps)[place]? = steps[place]?.map fun step =>
      (step.reply config, calls + callsOf config (steps.take (place + 1))) := by
  -- The calls so far are carried along the run, so the induction is for any number of them.
  induction steps generalizing calls place with
  | nil => simp [run]
  | cons step rest ih =>
      have counted (place : Nat) : callsOf config ((step :: rest).take (place + 1)) =
          (step.reply config).nodeCalls + callsOf config (rest.take place) := rfl
      rw [counted, run]
      cases place with
      | zero => rfl
      | succ place =>
          rw [List.getElem?_cons_succ, List.getElem?_cons_succ, ih]
          simp only [Nat.add_assoc]

/-- Every request of a run is dealt with as it is alone, whatever the collaborators do for it and
however long it takes: results of the engine are shown to a GET of the transfers, a HEAD is such a GET
without its body, and nobody is asked for anything else. -/
theorem run_handled (config : SearchConfig) (steps : List Step) :
    (run config 0 steps).length = steps.length ∧
    ∀ place step, steps[place]? = some step →
      ∃ reply, Handled config step.collaborators step.elapsed step.request reply ∧
        (run config 0 steps)[place]? =
          some (reply, callsOf config (steps.take (place + 1))) ∧
        run config 0 [step] = [(reply, reply.nodeCalls)] := by
  refine ⟨length_run config 0 steps, ?_⟩
  intro place step standing
  refine ⟨step.reply config, handled_answer _ _ _ _, ?_, ?_⟩
  · rw [getElem?_run, standing, Option.map_some, Nat.zero_add]
  · simp [run]

/-- Collaborators of which one breaks down within the service. -/
def broken : Collaborators where
  backendName := "broken"
  search _ := .error (.internal "no client")
  node := .ok 100

/-- A bad limit, a page that nobody wants to read, and a search that breaks down. -/
def threeTargets : List Step :=
  [⟨Engine.steady, .zero false, { target := "/v2/history/get_transfers?limit=0" }⟩,
    ⟨Engine.steady, .one,
      { method := "HEAD", target := "/v2/history/get_transfers?checkLib=1" }⟩,
    ⟨broken, .one, { target := "http://localhost:7000/v2/history/get_transfers?checkLib=1" }⟩]

/-- The caller is to blame for the first, the service for the last; the node is asked once. -/
theorem threeTargets_handled :
    (∃ reply, (run {} 0 threeTargets)[0]? = some (reply, 0) ∧ reply.response.status = 400 ∧
      reply.response.member? "message" = some (.string "invalid limit parameter")) ∧
    (∃ reply, (run {} 0 threeTargets)[1]? = some (reply, 1) ∧ reply.response.body = none) ∧
    ∃ reply, (run {} 0 threeTargets)[2]? = some (reply, 1) ∧ reply.response.status = 500 ∧
      reply.response.member? "message" = some (.string "Internal error: no client") := by
  obtain ⟨-, each⟩ := run_handled {} threeTargets
  refine ⟨?_, ?_, ?_⟩
  · obtain ⟨reply, handled, standing, -⟩ := each 0 _ rfl
    have calls : callsOf {} (threeTargets.take (0 + 1)) = 0 := by decide +kernel
    obtain ⟨shows, -, -⟩ := handled.transfers rfl (by decide +kernel)
    have refused : (Engine.answer {} Engine.steady
        (HttpRequest.params { target := "/v2/history/get_transfers?limit=0" })).result =
          .error (.validation .invalidLimit) := by decide +kernel
    rw [calls] at standing
    exact ⟨reply, standing, shows.badRequest.mpr ⟨_, refused⟩,
      shows.validationMessage _ refused⟩
  · obtain ⟨reply, handled, standing, -⟩ := each 1 _ rfl
    have calls : callsOf {} (threeTargets.take (1 + 1)) = 1 := by decide +kernel
    have head := handled.head rfl
    rw [calls] at standing
    exact ⟨reply, standing, head.body⟩
  · obtain ⟨reply, handled, standing, -⟩ := each 2 _ rfl
    have calls : callsOf {} (threeTargets.take (2 + 1)) = 1 := by decide +kernel
    obtain ⟨shows, -, -⟩ := handled.transfers rfl (by decide +kernel)
    have failed : (Engine.answer {} broken
        (HttpRequest.params
          { target := "http://localhost:7000/v2/history/get_transfers?checkLib=1" })).result =
            .error (.storage (.internal "no client")) := by decide +kernel
    rw [calls] at standing
    exact ⟨reply, standing, shows.internal.mpr ⟨_, failed⟩, shows.storageMessage _ failed⟩

end Router

end TransferHistory
