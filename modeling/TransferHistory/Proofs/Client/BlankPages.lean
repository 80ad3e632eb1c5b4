import TransferHistory.Proofs.Client.Replies

/-!
# Pages without records

When the caller of the service sees no records. An answer of the search service that has no `hits` is
refused, and so is one whose list of hits is none. But a `hits` that is no object has no members, and is
taken for one without a list: then the page is as empty as where nothing was found (`Blank.noObject`).

Results:
1. `SearchHits.exists_blank_iff`: the answers that are read as a page without records.
2. `SearchHits.null_hits_accepted`: that `hits` is an object is not checked.
3. `Engine.search_of_gather`: a page has the records of the search, whenever the replies arrive.
4. `Router.no_records_iff`: the requests that are answered without records.
-/

namespace TransferHistory

open Json (Members)

/-! ## Answers of the search service -/

namespace SearchHits

/-- An answer that is read as a page without records. -/
inductive Blank (body : Json) : Prop
  /-- Its `hits` has no members, because it is no object. -/
  | noObject {other : Json} (given : body.get? "hits" = some other)
      (memberless : other.isObject = false) : Blank body
  /-- Its `hits` is an object without a list. -/
  | noList {holder : Members} (given : body.get? "hits" = some (.object holder))
      (missing : holder.get? "hits" = none) : Blank body
  /-- Its list of hits is empty. -/
  | emptyList {holder : Members} (given : body.get? "hits" = some (.object holder))
      (empty : holder.get? "hits" = some (.array [])) : Blank body

variable {body : Json}

theorem ofResponse_of_missing (missing : body.get? "hits" = none) :
    ofResponse body = .error (.malformed .noHits) := by
  unfold ofResponse
  rw [missing]

/-- Where `hits` is no object there is nothing to be found in it, and nothing to be refused. -/
theorem ofResponse_of_memberless {other : Json} (given : body.get? "hits" = some other)
    (memberless : other.isObject = false) : ofResponse body = .ok .empty := by
  unfold ofResponse
  rw [given]
  cases other with
  | object members => cases memberless
  | null | bool | number | string | array => rfl

theorem mapM_readHit_eq_nil_iff {hits : List Json} : hits.mapM readHit = .ok [] ↔ hits = [] := by
  rw [mapM_eq_ok_iff, List.map_nil, List.map_eq_nil_iff]

/-- A list of hits is empty where there is none, or none in it. -/
theorem getD_eq_nil_iff {holder : Members} :
    (holder.get? "hits").getD (.array []) = .array [] ↔
      holder.get? "hits" = none ∨ holder.get? "hits" = some (.array []) := by
  cases holder.get? "hits" with
  | none => simp
  | some other => simp

/-- An object that holds no hits is a page without records. -/
theorem ofResponse_of_nil {holder : Members} (given : body.get? "hits" = some (.object holder))
    (nothing : (holder.get? "hits").getD (.array []) = .array []) :
    ofResponse body = .ok ⟨(holder.get? "total").getD .null, []⟩ :=
  (ofResponse_eq_ok_iff given).mpr ⟨[], nothing, rfl, rfl⟩

theorem exists_blank_iff :
    (∃ page, ofResponse body = .ok page ∧ page.records = []) ↔ Blank body := by
  constructor
  · rintro ⟨page, read, nothing⟩
    cases given : body.get? "hits" with
    | none =>
        rw [ofResponse_of_missing given] at read
        cases read
    | some other =>
        cases other with
        | object holder =>
            obtain ⟨hits, list, records, -⟩ := (ofResponse_eq_ok_iff given).mp read
            rw [nothing, mapM_readHit_eq_nil_iff] at records
            subst records
            rcases getD_eq_nil_iff.mp list with missing | empty
            · exact .noList given missing
            · exact .emptyList given empty
        | null | bool | number | string | array => exact .noObject given rfl
  · intro blank
    cases blank with
    | noObject given memberless => exact ⟨.empty, ofResponse_of_memberless given memberless, rfl⟩
    | noList given missing =>
        exact ⟨_, ofResponse_of_nil given (getD_eq_nil_iff.mpr (Or.inl missing)), rfl⟩
    | emptyList given empty =>
        exact ⟨_, ofResponse_of_nil given (getD_eq_nil_iff.mpr (Or.inr empty)), rfl⟩

/-- That `hits` is an object is not checked: `null` gives a page, not a malformed answer. -/
theorem null_hits_accepted :
    ¬ ∀ body : Json, (∀ holder, body.get? "hits" ≠ some (.object holder)) →
      ∃ defect, ofResponse body = .error (.malformed defect) := by
  intro refused
  have given : Json.get? "hits" (.object [("hits", .null)]) = some .null := rfl
  obtain ⟨defect, failed⟩ := refused (.object [("hits", .null)]) (by simp [given])
  rw [ofResponse_of_memberless given rfl] at failed
  cases failed

end SearchHits

/-! ## Pages -/

theorem ProjectionOptions.items_project_eq_nil_iff {options : ProjectionOptions}
    {records : List Record} : (options.project records).items = [] ↔ records = [] := by
  cases simple : options.simple <;> simp [project, simple, Projection.items]

namespace Engine

variable {flags : ResponseFlags} {collaborators : Collaborators} {request : SearchRequest}

/-- What is gathered has the hits of the search, in whatever order the replies arrive. -/
theorem search_of_gather {hits : SearchHits} {lib : Option UInt64}
    (gathered : (gather flags collaborators request).1 = .ok (hits, lib)) :
    collaborators.search request = .ok hits := by
  cases on : flags.checkLib with
  | false =>
      simp only [gather, on] at gathered
      cases found : collaborators.search request with
      | error failure =>
          rw [found] at gathered
          cases gathered
      | ok hits =>
          rw [found] at gathered
          cases gathered
          rfl
  | true =>
      simp only [gather, on, if_true] at gathered
      cases joined : join collaborators.arrival (collaborators.search request)
          collaborators.node with
      | error failure =>
          rw [joined] at gathered
          cases gathered
      | ok both =>
          rw [joined] at gathered
          cases gathered
          exact (join_eq_ok_iff.mp joined).1

/-- A page has no records where the search found none, and the node told its block if it was asked. -/
theorem exists_unrecorded_iff :
    (∃ page, resultOf flags (gather flags collaborators request).1 = .ok page ∧
        page.projection.items = []) ↔
      (∃ hits, collaborators.search request = .ok hits ∧ hits.records = []) ∧
        (flags.checkLib = false ∨ ∃ lib, collaborators.node = .ok lib) := by
  constructor
  · rintro ⟨page, answered, nothing⟩
    cases gathered : (gather flags collaborators request).1 with
    | error failure =>
        rw [gathered] at answered
        cases answered
    | ok both =>
        obtain ⟨hits, lib⟩ := both
        rw [gathered] at answered
        cases answered
        have told := (exists_gather_iff.mp ⟨_, gathered⟩).2
        exact ⟨⟨hits, search_of_gather gathered,
          ProjectionOptions.items_project_eq_nil_iff.mp nothing⟩, told⟩
  · rintro ⟨⟨hits, found, nothing⟩, told⟩
    obtain ⟨⟨others, lib⟩, gathered⟩ := exists_gather_iff.mpr ⟨⟨hits, found⟩, told⟩
    have same := (search_of_gather gathered).symm.trans found
    cases same
    rw [gathered]
    exact ⟨_, rfl, ProjectionOptions.items_project_eq_nil_iff.mpr nothing⟩

end Engine

/-- Only one body comes back from a call. -/
theorem Client.exists_page_of_replied {network : Network} {call? : Option Call} {body : Json}
    (replied : Replied network call? fun answer => answer.json? = some body)
    (good : Replied network call? SearchService.HasPage) :
    ∃ page, SearchHits.ofResponse body = .ok page := by
  obtain ⟨called, arrived, -, json⟩ := replied
  obtain ⟨calledToo, arrivedToo, -, other, jsonToo, page, read⟩ := good
  cases called.symm.trans calledToo
  cases arrived.symm.trans arrivedToo
  cases json.symm.trans jsonToo
  exact ⟨page, read⟩

/-- A search that was replied to with some body finds what is read from that body. -/
theorem Client.search_of_replied {config : Config} {network : Network} {request : SearchRequest}
    {body : Json} (replied : Replied network ((SearchService.ofSettings config.elastic).call? request)
      fun answer => answer.json? = some body) (arrival : Arrival) :
    (collaborators config network arrival).search request = SearchHits.ofResponse body := by
  obtain ⟨called, arrived, success, json⟩ := replied
  rw [search_collaborators]
  simp only [exchange, called, arrived]
  exact SearchService.readsBy.decoded (Answer.isSuccess_iff.mpr success) json

namespace Router

/-- The records of a response. -/
def records? (flags : ResponseFlags) (response : Response) : Option Json :=
  response.member? (if flags.simple then "simple_actions" else "actions")

theorem Shows.unrecorded_iff {params : Params} {result : Except EngineError TransferPage}
    {response : Response} (shown : Shows params result response) {flags : ResponseFlags}
    (switched : ResponseFlags.ofParams params = .ok flags) :
    response.status = 200 ∧ records? flags response = some (.array []) ↔
      ∃ page, result = .ok page ∧ page.projection.items = [] := by
  constructor
  · rintro ⟨success, nothing⟩
    obtain ⟨page, answered⟩ := shown.success.mp success
    obtain ⟨-, -, others, known, records, -⟩ := shown.page page answered
    cases switched.symm.trans known
    rw [records?, records] at nothing
    exact ⟨page, answered, Json.array.inj (Option.some.inj nothing)⟩
  · rintro ⟨page, answered, nothing⟩
    obtain ⟨-, -, others, known, records, -⟩ := shown.page page answered
    cases switched.symm.trans known
    refine ⟨shown.success.mpr ⟨page, answered⟩, ?_⟩
    rw [records?, records, nothing]

open Client in
/-- A good request for transfers whose search was replied to with a JSON body is answered with 502 where
that body has no `hits`. A GET is answered with a page without records exactly if the body is blank and
the node, where it was asked, told the last irreversible block. A blank body has a `hits` that is an
object with a missing or an empty list, or a `hits` that is anything but an object. -/
theorem no_records_iff (config : Config) (network : Network) (arrival : Arrival)
    (elapsed : Binary64) {request : HttpRequest}
    (method : request.method = "GET" ∨ request.method = "HEAD")
    (path : request.path = "/v2/history/get_transfers")
    (good : ¬ ∃ error ∈ QueryError.order, error.Applies request.params) :
    ∃ compiled flags, CompiledQuery.ofParams request.params = .ok compiled ∧
      ResponseFlags.ofParams request.params = .ok flags ∧
      let search := compiled.toRequest config.searchConfig.actionIndex
        config.searchConfig.maxResults.toNat
      let response := (answer config.searchConfig (Client.collaborators config network arrival)
        elapsed request).response
      ∀ body, Replied network ((SearchService.ofSettings config.elastic).call? search)
          (fun answer => answer.json? = some body) →
        (body.get? "hits" = none →
          SearchHits.ofResponse body = .error (.malformed .noHits) ∧ response.status = 502) ∧
        (request.method = "GET" →
          (response.status = 200 ∧ records? flags response = some (.array []) ↔
            SearchHits.Blank body ∧ (flags.checkLib = false ∨
              Replied network (ChainNode.ofSettings config.node).call? ChainNode.HasLib))) := by
  obtain ⟨compiled, flags, accepted, switched, success, either⟩ :=
    page_or_badGateway config network arrival elapsed method path good
  refine ⟨compiled, flags, accepted, switched, fun body replied => ⟨fun missing => ?_, ?_⟩⟩
  · have refused := SearchHits.ofResponse_of_missing missing
    -- It is 200 or 502, and a 200 would have read a page from the body.
    refine ⟨refused, either.resolve_left fun done => ?_⟩
    obtain ⟨page, read⟩ := exists_page_of_replied replied (success.mp done).1
    cases refused.symm.trans read
  · intro get
    have planned : Engine.plan config.searchConfig request.params = .ok (_, flags) :=
      bind_eq_ok_iff.mpr ⟨compiled, accepted, bind_eq_ok_iff.mpr ⟨flags, switched, rfl⟩⟩
    obtain ⟨result, -, -⟩ :=
      Engine.answer_of_plan planned (Client.collaborators config network arrival)
    obtain ⟨shown, -, -⟩ := (handled_answer config.searchConfig
      (Client.collaborators config network arrival) elapsed request).transfers get path
    rw [shown.unrecorded_iff switched, result, Engine.exists_unrecorded_iff,
      search_of_replied replied arrival, SearchHits.exists_blank_iff, node_collaborators,
      exists_exchange_iff ChainNode.takes_readAnswer]

/-- A success with a text. -/
def textAnswer (text : String) : Client.Answer where
  status := 200
  body := Text.Utf8.encode text.toList

/-- A request for transfers without parameters. -/
def bareRequest : HttpRequest where
  target := "/v2/history/get_transfers"

/-- The response to that request where every call is replied to with a text. -/
def bareResponse (text : String) : Response :=
  (answer ({} : Config).searchConfig
    (Client.collaborators {} (fun _ => .ok (textAnswer text)) .atOnce) (.zero false)
    bareRequest).response

open Client in
/-- A reply without `hits` is a 502, and a reply whose `hits` is null a page without records. -/
theorem nullReply_unrecorded :
    (bareResponse "\x7b\"took\":3\x7d").status = 502 ∧
      (bareResponse "\x7b\"hits\":null\x7d").status = 200 ∧
      records? {} (bareResponse "\x7b\"hits\":null\x7d") = some (.array []) := by
  have good : ¬ ∃ error ∈ QueryError.order, error.Applies bareRequest.params := by
    apply (Engine.reports_plan ({} : Config).searchConfig bareRequest.params).passes_iff.mp
    have planned : (Engine.plan ({} : Config).searchConfig bareRequest.params).isOk = true := by
      decide +kernel
    cases reached : Engine.plan ({} : Config).searchConfig bareRequest.params with
    | error error => simp [reached, Except.isOk, Except.toBool] at planned
    | ok asked => exact ⟨asked, rfl⟩
  have path : bareRequest.path = "/v2/history/get_transfers" := by decide +kernel
  have plain : ResponseFlags.ofParams bareRequest.params = .ok {} := by decide +kernel
  have called : (address? ({} : Config).elastic.url (SearchService.resource
      ({} : Config).searchConfig.actionIndex)).isSome = true := by decide +kernel
  obtain ⟨url, called⟩ := Option.isSome_iff_exists.mp called
  have each (text : String) := no_records_iff {} (fun _ => .ok (textAnswer text)) .atOnce
    (.zero false) (Or.inl rfl) path good
  have inRange (text : String) : 200 ≤ (textAnswer text).status ∧ (textAnswer text).status < 300 := by
    show 200 ≤ 200 ∧ 200 < 300
    decide
  constructor
  · have json : (textAnswer "\x7b\"took\":3\x7d").json? =
        some (.object [("took", .number (.int 3))]) := by decide +kernel
    obtain ⟨compiled, flags, -, -, told⟩ := each "\x7b\"took\":3\x7d"
    obtain ⟨missing, -⟩ := told _
      (.intro (Option.map_eq_some_iff.mpr ⟨url, called, rfl⟩) rfl (inRange _) json)
    exact (missing rfl).2
  · have json : (textAnswer "\x7b\"hits\":null\x7d").json? = some (.object [("hits", .null)]) := by
      decide +kernel
    obtain ⟨compiled, flags, -, switched, told⟩ := each "\x7b\"hits\":null\x7d"
    obtain ⟨-, blank⟩ := told _
      (.intro (Option.map_eq_some_iff.mpr ⟨url, called, rfl⟩) rfl (inRange _) json)
    cases plain.symm.trans switched
    exact (blank rfl).mpr ⟨.noObject rfl rfl, Or.inl rfl⟩

end Router

end TransferHistory
