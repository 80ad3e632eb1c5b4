import TransferHistory.Client.ChainNode
import TransferHistory.Proofs.Api.Outcomes
import TransferHistory.Proofs.Search.Hits

/-!
# Replies of the collaborators

Whatever the two collaborators reply, or if nothing comes back from them at all, the caller of the
service gets a page or a 502. Which of the two it is depends on each reply alone, and not on the order
in which the replies arrive.

Results:
1. `Client.exists_exchange_iff`, `Client.foreign_of_exchange`: when a call of a collaborator goes well,
   and who is to blame when it does not.
2. `Client.ReadsBy.takes`, `Client.ChainNode.lib?_eq_some_iff`: the answers that are good.
3. `Engine.exists_gather_iff`, `Engine.failed_of_gather`: both replies together, in any order.
4. `Router.page_or_badGateway`: the status of every request that is good.
-/

namespace TransferHistory

/-- A failure that is not the service's own. -/
def Failure.Foreign (failure : Failure) : Prop :=
  ∀ reason, failure ≠ .internal reason

theorem Failure.foreign_malformed (defect : Defect) : (Failure.malformed defect).Foreign :=
  nofun

/-- A page is only refused for what the search service sent. -/
theorem SearchHits.foreign_of_ofResponse {body : Json} {failure : Failure}
    (failed : ofResponse body = .error failure) : failure.Foreign := by
  unfold ofResponse at failed
  split at failed
  case h_1 =>
    cases failed
    exact Failure.foreign_malformed _
  case h_2 hits found =>
    rcases bind_eq_error_iff.mp failed with noList | ⟨items, -, failed⟩
    · unfold readList at noList
      split at noList <;> cases noList
      exact Failure.foreign_malformed _
    · rcases bind_eq_error_iff.mp failed with badHit | ⟨records, -, done⟩
      · obtain ⟨_, hit, _, -, -, refused⟩ := mapM_eq_error_iff.mp badHit
        obtain ⟨defect, -, rfl⟩ := readHit_eq_error_iff.mp refused
        exact Failure.foreign_malformed defect
      · cases done

namespace Client

/-! ## One call -/

/-- A collaborator was called, and its reply has a success status and is good. -/
inductive Replied (network : Network) (call? : Option Call) (good : Answer → Prop) : Prop
  | intro {call : Call} {answer : Answer} (called : call? = some call)
      (arrived : network call = .ok answer) (success : 200 ≤ answer.status ∧ answer.status < 300)
      (accepted : good answer) : Replied network call? good

theorem Answer.isSuccess_iff {answer : Answer} :
    answer.isSuccess = true ↔ 200 ≤ answer.status ∧ answer.status < 300 := by
  simp [isSuccess]

/-- The answers that a reader takes. -/
def Takes {α : Type} (read : Answer → Except Failure α) (good : Answer → Prop) : Prop :=
  ∀ answer, (∃ value, read answer = .ok value) ↔
    (200 ≤ answer.status ∧ answer.status < 300) ∧ good answer

/-- How an answer is read: one without success is refused, and the body of any other one is decoded
and then accepted or not. -/
structure ReadsBy {α β : Type} (read : Answer → Except Failure α) (decode : Answer → Option β)
    (accept : β → Except Failure α) : Prop where
  refused : ∀ {answer}, answer.isSuccess = false → read answer = .error answer.failure
  undecodable : ∀ {answer}, answer.isSuccess = true → decode answer = none →
    read answer = .error (.malformed .undecodable)
  decoded : ∀ {answer found}, answer.isSuccess = true → decode answer = some found →
    read answer = accept found

namespace ReadsBy

variable {α β : Type} {read : Answer → Except Failure α} {decode : Answer → Option β}
  {accept : β → Except Failure α}

theorem takes (reads : ReadsBy read decode accept) : Takes read fun answer =>
    ∃ found, decode answer = some found ∧ ∃ value, accept found = .ok value := by
  intro answer
  rw [← Answer.isSuccess_iff]
  constructor
  · rintro ⟨value, taken⟩
    cases success : answer.isSuccess with
    | false => cases (reads.refused success).symm.trans taken
    | true =>
        cases meant : decode answer with
        | none => cases (reads.undecodable success meant).symm.trans taken
        | some found =>
            exact ⟨rfl, found, meant, value, (reads.decoded success meant).symm.trans taken⟩
  · rintro ⟨success, found, meant, value, accepted⟩
    exact ⟨value, (reads.decoded success meant).trans accepted⟩

theorem foreign (reads : ReadsBy read decode accept)
    (accepts : ∀ {found failure}, accept found = .error failure → failure.Foreign)
    {answer : Answer} {failure : Failure} (failed : read answer = .error failure) :
    failure.Foreign := by
  cases success : answer.isSuccess with
  | false =>
      cases (reads.refused success).symm.trans failed
      exact nofun
  | true =>
      cases meant : decode answer with
      | none =>
          cases (reads.undecodable success meant).symm.trans failed
          exact Failure.foreign_malformed _
      | some found => exact accepts ((reads.decoded success meant).symm.trans failed)

end ReadsBy

section Exchange

variable {α : Type} {network : Network} {call? : Option Call} {read : Answer → Except Failure α}
  {log : Answer → List Log.Entry} {good : Answer → Prop}

theorem exists_exchange_iff (takes : Takes read good) :
    (∃ value, (exchange network call? read log).result = .ok value) ↔
      Replied network call? good := by
  constructor
  · rintro ⟨value, result⟩
    unfold exchange at result
    split at result
    case h_1 => cases result
    case h_2 call =>
      split at result
      case h_1 => cases result
      case h_2 answer arrived =>
        obtain ⟨success, accepted⟩ := (takes answer).mp ⟨value, result⟩
        exact .intro rfl arrived success accepted
  · rintro ⟨called, arrived, success, accepted⟩
    obtain ⟨value, result⟩ := (takes _).mpr ⟨success, accepted⟩
    refine ⟨value, ?_⟩
    simp only [exchange, called, arrived]
    exact result

/-- A call that does not go well is never the service's own fault. -/
theorem foreign_of_exchange (foreign : ∀ {answer failure}, read answer = .error failure →
      failure.Foreign) {failure : Failure}
    (failed : (exchange network call? read log).result = .error failure) : failure.Foreign := by
  unfold exchange at failed
  split at failed
  case h_1 =>
    cases failed
    exact nofun
  case h_2 call =>
    split at failed
    case h_1 =>
      cases failed
      exact nofun
    case h_2 answer arrived => exact foreign failed

end Exchange

/-! ## The search service -/

namespace SearchService

/-- An answer with a JSON body that has a page of hits in it. -/
def HasPage (answer : Answer) : Prop :=
  ∃ body, answer.json? = some body ∧ ∃ page, SearchHits.ofResponse body = .ok page

theorem readsBy : ReadsBy readAnswer Answer.json? SearchHits.ofResponse where
  refused success := by simp [readAnswer, success]
  undecodable success meant := by simp [readAnswer, success, meant]
  decoded success meant := by simp [readAnswer, success, meant]

theorem takes_readAnswer : Takes readAnswer HasPage :=
  readsBy.takes

end SearchService

/-! ## The chain node -/

namespace ChainNode

/-- A written number that is an unsigned integer of 64 bits. -/
inductive Writes (lib : UInt64) : Json.Written → Prop
  | number {text : Json.NumberText} (meant : text.number? = some (.int lib.toNat)) :
      Writes lib (.number text)

/-- A body that tells the last irreversible block: an object in which one member, and no other one, has
the name of that number, or a list of the number alone. -/
inductive Tells (lib : UInt64) : Json.Written → Prop
  | member {before after : List (List Json.TextItem × Json.Written)} {name : List Json.TextItem}
      {value : Json.Written} (named : name? name = some member)
      (others : ∀ entry ∈ before ++ after, ∃ text, name? entry.1 = some text ∧ text ≠ member)
      (writes : Writes lib value) : Tells lib (.object (before ++ (name, value) :: after))
  | list {value : Json.Written} (writes : Writes lib value) : Tells lib (.array [value])

theorem lt_of_number? {text : Json.NumberText} {value : Int}
    (meant : text.number? = some (.int value)) : value < values64 := by
  unfold Json.NumberText.number? at meant
  dsimp only at meant
  split at meant
  case isTrue small =>
    simp only [Bool.and_eq_true, decide_eq_true_eq] at small
    cases meant
    omega
  case isFalse =>
    split at meant
    case isTrue =>
      cases meant
      have positive : (0 : Int) < values64 := by decide
      omega
    case isFalse =>
      obtain ⟨_, -, same⟩ := Option.map_eq_some_iff.mp meant
      cases same

theorem word64?_eq_some_iff {written : Json.Written} {lib : UInt64} :
    word64? written = some lib ↔ Writes lib written := by
  constructor
  · intro read
    unfold word64? at read
    split at read
    case h_2 => cases read
    case h_1 text =>
      split at read
      case h_2 => cases read
      case h_1 value meant =>
        rw [Option.ite_none_right_eq_some] at read
        obtain ⟨natural, done⟩ := read
        cases done
        have below : value.toNat < values64 := (Int.toNat_lt natural).mpr (lt_of_number? meant)
        refine .number ?_
        rw [meant, UInt64.toNat_ofNat_of_lt' below, Int.toNat_of_nonneg natural]
  · rintro ⟨meant⟩
    simp [word64?, meant]

/-- A member with the text of its name. -/
def named? (entry : List Json.TextItem × Json.Written) : Option (String × Json.Written) :=
  (name? entry.1).map fun name => (name, entry.2)

theorem named?_eq_some_iff {entry : List Json.TextItem × Json.Written} {name : String}
    {value : Json.Written} :
    named? entry = some (name, value) ↔ name? entry.1 = some name ∧ entry.2 = value := by
  simp [named?, Option.map_eq_some_iff]

theorem lib?_object_eq_some_iff {members : List (List Json.TextItem × Json.Written)} {lib : UInt64} :
    lib? (.object members) = some lib ↔ ∃ (named : List (String × Json.Written)) (name : String)
      (value : Json.Written), members.map named? = named.map some ∧
        (named.filter fun entry => entry.1 = member) = [(name, value)] ∧ Writes lib value := by
  constructor
  · intro read
    obtain ⟨named, names, read⟩ := Option.bind_eq_some_iff.mp read
    split at read
    case h_1 name value alone =>
      exact ⟨named, name, value, mapM_eq_some_iff.mp names, alone, word64?_eq_some_iff.mp read⟩
    case h_2 => cases read
  · rintro ⟨named, name, value, names, alone, writes⟩
    refine Option.bind_eq_some_iff.mpr ⟨named, mapM_eq_some_iff.mpr names, ?_⟩
    rw [alone]
    exact word64?_eq_some_iff.mpr writes

/-- Members with a name each, and none of them the one that is asked for. -/
theorem map_named?_of_others {members : List (List Json.TextItem × Json.Written)}
    (others : ∀ entry ∈ members, ∃ text, name? entry.1 = some text ∧ text ≠ member) :
    ∃ named : List (String × Json.Written), members.map named? = named.map some ∧
      ∀ entry ∈ named, entry.1 ≠ member := by
  induction members with
  | nil => exact ⟨[], rfl, by simp⟩
  | cons entry rest ih =>
      rw [List.forall_mem_cons] at others
      obtain ⟨⟨text, found, ne⟩, later⟩ := others
      obtain ⟨named, names, none⟩ := ih later
      refine ⟨(text, entry.2) :: named, ?_, List.forall_mem_cons.mpr ⟨ne, none⟩⟩
      rw [List.map_cons, List.map_cons, names, named?_eq_some_iff.mpr ⟨found, rfl⟩]

theorem others_of_map_named? {members : List (List Json.TextItem × Json.Written)}
    {named : List (String × Json.Written)} (names : members.map named? = named.map some)
    (none : ∀ entry ∈ named, ¬ entry.1 = member) :
    ∀ entry ∈ members, ∃ text, name? entry.1 = some text ∧ text ≠ member := by
  intro entry present
  have known : named? entry ∈ named.map some := names ▸ List.mem_map_of_mem present
  obtain ⟨⟨text, value⟩, inNamed, same⟩ := List.mem_map.mp known
  exact ⟨text, (named?_eq_some_iff.mp same.symm).1, none _ inNamed⟩

theorem lib?_eq_some_iff {written : Json.Written} {lib : UInt64} :
    lib? written = some lib ↔ Tells lib written := by
  constructor
  · intro read
    cases written with
    | object members =>
        obtain ⟨named, name, value, names, alone, writes⟩ := lib?_object_eq_some_iff.mp read
        simp only [List.filter_eq_cons_iff, List.filter_eq_nil_iff, decide_eq_true_eq] at alone
        obtain ⟨before, after, rfl, noneBefore, rfl, noneAfter⟩ := alone
        rw [List.map_append, List.map_cons, List.map_eq_append_iff] at names
        obtain ⟨front, rest, rfl, namesBefore, names⟩ := names
        obtain ⟨entry, back, rfl, here, namesAfter⟩ := List.map_eq_cons_iff.mp names
        obtain ⟨found, rfl⟩ := named?_eq_some_iff.mp here
        refine .member found ?_ writes
        rw [List.forall_mem_append]
        exact ⟨others_of_map_named? namesBefore noneBefore,
          others_of_map_named? namesAfter noneAfter⟩
    | array items =>
        match items with
        | [value] => exact .list (word64?_eq_some_iff.mp read)
        | [] => cases read
        | _ :: _ :: _ => cases read
    | _ => cases read
  · intro tells
    cases tells with
    | @member _ _ _ value named others writes =>
        rw [List.forall_mem_append] at others
        obtain ⟨front, namesBefore, noneBefore⟩ := map_named?_of_others others.1
        obtain ⟨back, namesAfter, noneAfter⟩ := map_named?_of_others others.2
        refine lib?_object_eq_some_iff.mpr
          ⟨front ++ (member, value) :: back, member, value, ?_, ?_, writes⟩
        · rw [List.map_append, List.map_cons, namesBefore, namesAfter,
            named?_eq_some_iff.mpr ⟨named, rfl⟩, List.map_append, List.map_cons]
        · simp only [List.filter_eq_cons_iff, List.filter_eq_nil_iff, decide_eq_true_eq]
          exact ⟨front, back, rfl, noneBefore, trivial, noneAfter⟩
    | list writes => exact word64?_eq_some_iff.mpr writes

/-- An answer with a JSON body that tells the last irreversible block. -/
def HasLib (answer : Answer) : Prop :=
  ∃ written, answer.bytewise? = some written ∧ ∃ lib, Tells lib written

theorem readsBy : ReadsBy readAnswer (fun answer => answer.bytewise?.bind lib?) .ok where
  refused success := by simp [readAnswer, success]
  undecodable success meant := by simp [readAnswer, success, meant]
  decoded success meant := by simp [readAnswer, success, meant]

theorem takes_readAnswer : Takes readAnswer HasLib := by
  intro answer
  rw [readsBy.takes answer]
  simp only [Option.bind_eq_some_iff, lib?_eq_some_iff, Except.ok.injEq, exists_eq', and_true]
  refine and_congr_right fun _ => ?_
  constructor
  · rintro ⟨lib, written, json, tells⟩
    exact ⟨written, json, lib, tells⟩
  · rintro ⟨written, json, lib, tells⟩
    exact ⟨lib, written, json, tells⟩

end ChainNode

theorem search_collaborators (config : Config) (network : Network) (arrival : Arrival)
    (request : SearchRequest) :
    (collaborators config network arrival).search request =
      (exchange network ((SearchService.ofSettings config.elastic).call? request)
        SearchService.readAnswer (SearchService.entries request)).result := by
  simp only [collaborators, SearchService.search]

theorem node_collaborators (config : Config) (network : Network) (arrival : Arrival) :
    (collaborators config network arrival).node =
      (exchange network (ChainNode.ofSettings config.node).call? ChainNode.readAnswer
        fun _ => []).result := by
  simp only [collaborators, ChainNode.lastIrreversible]

end Client

/-! ## Both replies -/

namespace Engine

variable {flags : ResponseFlags} {collaborators : Collaborators} {request : SearchRequest}

theorem join_eq_ok_iff {arrival : Arrival} {search : Except Failure SearchHits}
    {node : Except Failure UInt64} {hits : SearchHits} {lib : UInt64} :
    join arrival search node = .ok (hits, lib) ↔ search = .ok hits ∧ node = .ok lib := by
  cases search with
  | ok found => cases node <;> simp [join]
  | error failure => cases node <;> cases arrival <;> simp [join]

/-- The failure that is noticed is one of the two. -/
theorem failed_of_join {arrival : Arrival} {search : Except Failure SearchHits}
    {node : Except Failure UInt64} {failure : Failure}
    (failed : join arrival search node = .error failure) :
    search = .error failure ∨ node = .error failure := by
  unfold join at failed
  split at failed <;> cases failed
  · exact Or.inr rfl
  · exact Or.inl rfl
  · exact Or.inr rfl

/-- In whatever order the replies arrive, a page needs the search, and the node where it is wanted. -/
theorem exists_gather_iff :
    (∃ gathered, (gather flags collaborators request).1 = .ok gathered) ↔
      (∃ hits, collaborators.search request = .ok hits) ∧
        (flags.checkLib = false ∨ ∃ lib, collaborators.node = .ok lib) := by
  cases on : flags.checkLib with
  | false =>
      simp only [gather, on]
      cases collaborators.search request <;> simp [Except.map]
  | true =>
      simp only [gather, on, if_true, reduceCtorEq, false_or]
      constructor
      · rintro ⟨gathered, result⟩
        cases joined : join collaborators.arrival (collaborators.search request)
            collaborators.node with
        | error failure =>
            rw [joined] at result
            cases result
        | ok both =>
            obtain ⟨found, told⟩ := join_eq_ok_iff.mp joined
            exact ⟨⟨_, found⟩, _, told⟩
      · rintro ⟨⟨hits, found⟩, lib, told⟩
        rw [join_eq_ok_iff.mpr ⟨found, told⟩]
        exact ⟨_, rfl⟩

theorem failed_of_gather {failure : Failure}
    (failed : (gather flags collaborators request).1 = .error failure) :
    collaborators.search request = .error failure ∨ collaborators.node = .error failure := by
  cases on : flags.checkLib with
  | false =>
      simp only [gather, on] at failed
      cases found : collaborators.search request with
      | error cause =>
          rw [found] at failed
          cases failed
          exact Or.inl rfl
      | ok hits =>
          rw [found] at failed
          cases failed
  | true =>
      simp only [gather, on, if_true] at failed
      apply failed_of_join
      cases joined : join collaborators.arrival (collaborators.search request)
          collaborators.node with
      | error cause =>
          rw [joined] at failed
          cases failed
          rfl
      | ok both =>
          rw [joined] at failed
          cases failed

end Engine

/-! ## The status of a request -/

namespace Router

variable {config : SearchConfig} {collaborators : Collaborators} {elapsed : Binary64}
  {request : HttpRequest}

theorem status_serveTransfers (params : Params) :
    (serveTransfers config collaborators elapsed params).response.status =
      statusOf (Engine.answer config collaborators params).result :=
  status_transfersResponse elapsed _

theorem status_dispatch (method : request.method = "GET")
    (path : request.path = "/v2/history/get_transfers") :
    (dispatch config collaborators elapsed request).response.status =
      statusOf (Engine.answer config collaborators request.params).result := by
  have dispatched := dispatched_dispatch config collaborators elapsed request
  rw [dispatched.eq_serveTransfers method path, status_serveTransfers]

/-- A GET or a HEAD of the transfers has the status of what the engine makes of the query string. -/
theorem status_answer (method : request.method = "GET" ∨ request.method = "HEAD")
    (path : request.path = "/v2/history/get_transfers") :
    (answer config collaborators elapsed request).response.status =
      statusOf (Engine.answer config collaborators request.params).result := by
  rw [(answer_agrees config collaborators elapsed request).response]
  rcases method with get | head
  · exact status_dispatch get path
  · have status := @status_dispatch config collaborators elapsed { request with method := "GET" }
      rfl path
    rw [dispatch_of_head config collaborators elapsed head, (Reply.headOf_withoutBody _).status]
    exact status

/-- What is gathered decides the status: a page is a 200, and a failure of a collaborator a 502. -/
theorem status_of_gather {flags : ResponseFlags} {search : SearchRequest}
    (foreign : ∀ failure, (Engine.gather flags collaborators search).1 = .error failure →
      failure.Foreign) :
    let status := statusOf (Engine.resultOf flags (Engine.gather flags collaborators search).1)
    (status = 200 ↔ ∃ gathered, (Engine.gather flags collaborators search).1 = .ok gathered) ∧
      (status = 200 ∨ status = 502) := by
  cases result : (Engine.gather flags collaborators search).1 with
  | ok gathered => simp [Engine.resultOf, statusOf]
  | error failure =>
      have outside := foreign failure result
      cases failure with
      | internal reason => exact absurd rfl (outside reason)
      | connection | backend | malformed => simp [Engine.resultOf, statusOf]

open Client in
/-- Every good request for transfers is answered with 200 or with 502, whatever the collaborators reply
and in whatever order. It is a 200 exactly if the search was replied to with a page of hits and the
node, where it was asked, with the last irreversible block. -/
theorem page_or_badGateway (config : Config) (network : Network) (arrival : Arrival)
    (elapsed : Binary64) {request : HttpRequest}
    (method : request.method = "GET" ∨ request.method = "HEAD")
    (path : request.path = "/v2/history/get_transfers")
    (good : ¬ ∃ error ∈ QueryError.order, error.Applies request.params) :
    ∃ compiled flags, CompiledQuery.ofParams request.params = .ok compiled ∧
      ResponseFlags.ofParams request.params = .ok flags ∧
      let search := compiled.toRequest config.searchConfig.actionIndex
        config.searchConfig.maxResults.toNat
      let status := (answer config.searchConfig (Client.collaborators config network arrival) elapsed
        request).response.status
      (status = 200 ↔
        Replied network ((SearchService.ofSettings config.elastic).call? search)
          SearchService.HasPage ∧
        (flags.checkLib = false ∨
          Replied network (ChainNode.ofSettings config.node).call? ChainNode.HasLib)) ∧
      (status = 200 ∨ status = 502) := by
  obtain ⟨⟨search, flags⟩, planned⟩ :=
    (Engine.reports_plan config.searchConfig request.params).passes_iff.mpr good
  obtain ⟨compiled, accepted, rest⟩ := bind_eq_ok_iff.mp planned
  obtain ⟨others, switched, done⟩ := bind_eq_ok_iff.mp rest
  cases done
  refine ⟨compiled, flags, accepted, switched, ?_⟩
  obtain ⟨result, -, -⟩ :=
    Engine.answer_of_plan planned (Client.collaborators config network arrival)
  rw [status_answer method path, result]
  have foreign {search : SearchRequest} (failure : Failure) (failed : (Engine.gather flags
      (Client.collaborators config network arrival) search).1 = .error failure) :
      failure.Foreign := by
    rcases Engine.failed_of_gather failed with searched | told
    · rw [search_collaborators] at searched
      exact foreign_of_exchange (SearchService.readsBy.foreign SearchHits.foreign_of_ofResponse)
        searched
    · rw [node_collaborators] at told
      exact foreign_of_exchange (ChainNode.readsBy.foreign nofun) told
  obtain ⟨success, either⟩ := status_of_gather foreign
  refine ⟨success.trans ?_, either⟩
  rw [Engine.exists_gather_iff, search_collaborators, node_collaborators,
    exists_exchange_iff SearchService.takes_readAnswer,
    exists_exchange_iff ChainNode.takes_readAnswer]

/-- The answer to a search that finds nothing. -/
def noHits : Client.Answer where
  status := 200
  body := Text.Utf8.encode "\x7b\"hits\":\x7b\x7d\x7d".toList

/-- A network in which nothing is ever found and the node gives one answer. -/
def quietNetwork (node : Client.Answer) : Client.Network := fun call =>
  .ok (if call.body.isSome then noHits else node)

/-- The state of a node at block 7, with a status. -/
def nodeAnswer (status : Nat) : Client.Answer where
  status := status
  body := Text.Utf8.encode "\x7b\"last_irreversible_block_num\":7\x7d".toList

/-- A request that asks for the last irreversible block. -/
def libRequest : HttpRequest where
  target := "/v2/history/get_transfers?checkLib=1"

/-- The answer to that request, where the node answers with a status. -/
def libReply (status : Nat) : Reply :=
  answer ({} : Config).searchConfig
    (Client.collaborators {} (quietNetwork (nodeAnswer status)) .nodeFirst) (.zero false) libRequest

open Client in
/-- A node that is well gives a page, and one that does not know the route gives no 404. -/
theorem libReply_badGateway :
    (libReply 200).response.status = 200 ∧ (libReply 404).response.status = 502 := by
  have planned : (Engine.plan ({} : Config).searchConfig libRequest.params).isOk = true := by
    decide +kernel
  have good : ¬ ∃ error ∈ QueryError.order, error.Applies libRequest.params := by
    apply (Engine.reports_plan ({} : Config).searchConfig libRequest.params).passes_iff.mp
    cases reached : Engine.plan ({} : Config).searchConfig libRequest.params with
    | error error => simp [reached, Except.isOk, Except.toBool] at planned
    | ok asked => exact ⟨asked, rfl⟩
  have path : libRequest.path = "/v2/history/get_transfers" := by decide +kernel
  have each (status : Nat) := page_or_badGateway {} (quietNetwork (nodeAnswer status)) .nodeFirst
    (.zero false) (Or.inl rfl) path good
  have known : ResponseFlags.ofParams libRequest.params = .ok { checkLib := true } := by
    decide +kernel
  constructor
  · obtain ⟨compiled, flags, -, -, success, -⟩ := each 200
    refine success.mpr ⟨?_, Or.inr ?_⟩
    · have called : (address? ({} : Config).elastic.url (SearchService.resource
          ({} : Config).searchConfig.actionIndex)).isSome = true := by decide +kernel
      obtain ⟨url, called⟩ := Option.isSome_iff_exists.mp called
      have json : noHits.json? = some (.object [("hits", .object [])]) := by decide +kernel
      have inRange : 200 ≤ noHits.status ∧ noHits.status < 300 := by decide
      exact .intro (Option.map_eq_some_iff.mpr ⟨url, called, rfl⟩) rfl inRange
        ⟨_, json, .empty, rfl⟩
    · have called : (address? ({} : Config).node.url ChainNode.resource).isSome = true := by
        decide +kernel
      obtain ⟨url, called⟩ := Option.isSome_iff_exists.mp called
      have replied : (nodeAnswer 200).bytewise?.bind ChainNode.lib? = some 7 := by decide +kernel
      obtain ⟨written, json, told⟩ := Option.bind_eq_some_iff.mp replied
      have inRange : 200 ≤ (nodeAnswer 200).status ∧ (nodeAnswer 200).status < 300 := by decide
      exact .intro (Option.map_eq_some_iff.mpr ⟨url, called, rfl⟩) rfl inRange
        ⟨written, json, 7, ChainNode.lib?_eq_some_iff.mp told⟩
  · obtain ⟨compiled, flags, -, switched, success, either⟩ := each 404
    refine either.resolve_left ?_
    intro done
    rcases (success.mp done).2 with off | ⟨called, arrived, inRange, -⟩
    · cases known.symm.trans switched
      cases off
    · obtain ⟨url, -, rfl⟩ := Option.map_eq_some_iff.mp called
      cases arrived
      have refused : ¬ (nodeAnswer 404).status < 300 := by decide
      exact absurd inRange.2 refused

end Router

end TransferHistory
