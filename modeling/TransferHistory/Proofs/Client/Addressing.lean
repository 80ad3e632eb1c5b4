import TransferHistory.Client.SearchService
import TransferHistory.Proofs.Config.Validation
import TransferHistory.Proofs.Net.Extension
import TransferHistory.Proofs.Search.Runs

/-!
# What a search addresses

A search is posted to the base address with two segments written behind it, the index and `_search`.
Both texts are put together as they are and then read as one address. Slashes at the end of the base
address never matter, and an address that is not one of the web is never called. Otherwise the call
goes to the index if the base address ends with its path and the name of the chain can be a part of one
segment; valid settings need not be so. A user in the base address is named in the head of the call.

Results:
1. `Client.search_append_slashes`: slashes at the end of the base address change nothing.
2. `Client.address?_of_other_scheme`: an address that is not one of the web is never called.
3. `Client.exists_call`: the call for a search where the base address and the chain fit.
4. `Config.addresses_of_validate`: all of this for settings that are valid.
5. `Config.strayConfigs_miss`: valid settings whose searches go elsewhere.
-/

namespace TransferHistory

open Url (Extensible IsSegment EndsVisibly decodeSegment hasTriplet isWithin)

/-! ## The text of an address -/

namespace Client

/-- A base address is what is left of it without the slashes at its end, and these slashes. -/
theorem exists_trimSlashes (base : String) :
    ∃ count, base.toList = (trimSlashes base).toList ++ List.replicate count '/' := by
  have split : base.toList.reverse.takeWhile (· == '/') ++ base.toList.reverse.dropWhile (· == '/') =
      base.toList.reverse := List.takeWhile_append_dropWhile
  have slashes : base.toList.reverse.takeWhile (· == '/') =
      List.replicate (base.toList.reverse.takeWhile (· == '/')).length '/' := by
    rw [List.eq_replicate_iff]
    exact ⟨rfl, fun c present => beq_iff_eq.mp (List.mem_takeWhile_imp (p := (· == '/')) present)⟩
  refine ⟨(base.toList.reverse.takeWhile (· == '/')).length, ?_⟩
  rw [trimSlashes, String.toList_ofList, ← List.reverse_replicate, ← slashes, ← List.reverse_append,
    split, List.reverse_reverse]

/-- Slashes at the end of a base address do not matter. -/
theorem trimSlashes_append (base : String) (count : Nat) :
    trimSlashes (base ++ String.ofList (List.replicate count '/')) = trimSlashes base := by
  have slashes : ∀ c ∈ List.replicate count '/', (c == '/') = true := by
    intro c present
    rw [List.eq_of_mem_replicate present]
    rfl
  rw [trimSlashes, String.toList_append, String.toList_ofList, List.reverse_append,
    List.reverse_replicate, List.dropWhile_append_of_pos slashes]
  rfl

theorem toList_resource (index : String) :
    (SearchService.resource index).toList = '/' :: (index.toList ++ '/' :: "_search".toList) := by
  simp [SearchService.resource]

theorem endsVisibly_resource (index : String) :
    EndsVisibly (SearchService.resource index).toList := by
  rw [toList_resource]
  have ends : EndsVisibly "_search".toList := ⟨'h', by decide, by decide⟩
  have whole := Url.endsVisibly_append ends ('/' :: (index.toList ++ ['/']))
  simpa using whole

theorem address?_append (base : String) (count : Nat) (resource : String) :
    address? (base ++ String.ofList (List.replicate count '/')) resource = address? base resource := by
  unfold address?
  rw [trimSlashes_append]

/-- An address that is not one of the web is never called, whatever is asked for below it. -/
theorem address?_of_other_scheme {base resource : String} {whole : Url}
    (read : Url.parse? base = .ok whole) (other : whole.scheme ≠ "http" ∧ whole.scheme ≠ "https")
    (visible : EndsVisibly resource.toList) : address? base resource = none := by
  obtain ⟨count, split⟩ := exists_trimSlashes base
  rw [← String.ofList_toList (s := base), split] at read
  unfold address?
  cases extended : Url.parse? (trimSlashes base ++ resource) with
  | error error => rfl
  | ok url =>
      have same : url.scheme = whole.scheme := by
        refine Url.scheme_of_extended read visible ?_
        rw [← String.toList_append, String.ofList_toList, extended]
      exact if_neg (by rw [same, not_or]; exact other)

end Client

/-! ## Segments -/

/-- A text with an asterisk has no meaning of its own as a segment. -/
theorem Url.isPlain_of_asterisk {segment : List Char} (present : '*' ∈ segment) :
    Url.isPlain segment = true := by
  have lower : '*' ∈ (String.ofList (segment.map Char.toLower)).toList := by
    rw [String.toList_ofList]
    exact List.mem_map.mpr ⟨'*', present, by decide⟩
  have apart {words : List String} (without : ∀ word ∈ words, '*' ∉ word.toList) :
      words.contains (String.ofList (segment.map Char.toLower)) = false := by
    rw [List.contains_eq_mem, decide_eq_false_iff_not]
    exact fun known => without _ known lower
  rw [Url.isPlain, Url.isAbove, Url.isHere, apart (by decide +kernel), apart (by decide +kernel)]
  rfl

/-- The name of a chain can be a part of one segment. -/
structure ChainFits (chain : String) : Prop where
  within : chain.toList.all isWithin = true
  noTriplet : hasTriplet chain.toList = false

theorem SearchConfig.toList_actionIndex (config : SearchConfig) :
    config.actionIndex.toList = config.chain.toList ++ "-action-*".toList := by
  simp [SearchConfig.actionIndex]

theorem ChainFits.isSegment {config : SearchConfig} (fits : ChainFits config.chain) :
    IsSegment config.actionIndex.toList where
  within := by
    rw [SearchConfig.toList_actionIndex, List.all_append, fits.within]
    decide +kernel
  plain := by
    rw [SearchConfig.toList_actionIndex]
    exact Url.isPlain_of_asterisk (List.mem_append_right _ (by decide))

theorem ChainFits.decodes {config : SearchConfig} (fits : ChainFits config.chain) :
    decodeSegment (Url.encoded config.actionIndex.toList) = config.actionIndex := by
  have free : hasTriplet config.actionIndex.toList = false := by
    rw [SearchConfig.toList_actionIndex]
    exact Url.hasTriplet_append (by decide) fits.noTriplet (by decide +kernel)
  rw [Url.decodeSegment_encoded free, String.ofList_toList]

theorem isSegment_search : IsSegment "_search".toList where
  within := by decide +kernel
  plain := by decide +kernel

/-! ## Calls -/

namespace Client.Call

variable {url : Url}

theorem ofUrl_of_named {user : String} {password : Option String}
    (named : namedIn? url = some (user, password)) :
    (ofUrl url).url.user = none ∧
      (ofUrl url).authorizations = [basicAuthorization user password] := by
  simp [ofUrl, named]

theorem user_ofUrl_of_nobody (nobody : namedIn? url = none) : (ofUrl url).url.user = url.user := by
  simp [ofUrl, nobody]

end Client.Call

/-- A call posts a search to an index below a base address, and names the window in its query. -/
structure Client.Addressed (whole : Url) (index : String) (request : SearchRequest) (call : Call) :
    Prop where
  method : call.method = "POST"
  scheme : call.url.scheme = whole.scheme
  /-- A user whom the base address names is not sent with it: the call is authorized in that name, before
  any other. -/
  named : ∀ user password, Client.Call.namedIn? whole = some (user, password) →
    call.url.user = none ∧
    call.authorizations.head? = some (Client.Call.basicAuthorization user password)
  nobody : Client.Call.namedIn? whole = none → call.url.user = whole.user
  host : call.url.host = whole.host
  port : call.url.port = whole.port
  path : ∃ segment last, call.url.path = .segments (whole.path.withoutEnd ++ [segment, last]) ∧
    decodeSegment segment = index ∧ decodeSegment last = "_search"
  query : call.url.query =
    some ("from=" ++ Json.renderInt request.skip ++ "&size=" ++ Json.renderInt request.size)

/-- A base address that ends with its path, with nothing but tabs and line breaks to be dropped there. In
front of a single slash at its end there is no empty segment. -/
structure BaseFits (base : String) : Prop where
  noQuery : '?' ∉ base.toList
  noFragment : '#' ∉ base.toList
  shown : Url.kept base.toList = Url.inner base.toList
  ends : ∀ url, Url.parse? (Client.trimSlashes base ++ "/") = .ok url →
    url.path.stem.getLast? ≠ some ""

theorem Client.search_call (service : SearchService) (network : Network) (request : SearchRequest) :
    (service.search network request).call = service.call? request := by
  unfold SearchService.search exchange
  cases service.call? request with
  | none => rfl
  | some call =>
      dsimp only
      cases network call with
      | error reason => rfl
      | ok answer => rfl

namespace Client

/-- Slashes at the end of the base address change nothing about a search. -/
theorem search_append_slashes (service : SearchService) (count : Nat) (network : Network)
    (request : SearchRequest) :
    ({ service with base := service.base ++ String.ofList (List.replicate count '/') }).search network
      request = service.search network request := by
  have same : ({ service with
      base := service.base ++ String.ofList (List.replicate count '/') }).call? request =
      service.call? request := by
    unfold SearchService.call?
    dsimp only
    rw [address?_append]
  unfold SearchService.search
  rw [same]

theorem call?_eq_none {service : SearchService} {request : SearchRequest}
    (nowhere : address? service.base (SearchService.resource request.index) = none) :
    service.call? request = none := by
  unfold SearchService.call?
  rw [nowhere]
  rfl

/-- The window of a search makes up the query of an address that has none. -/
theorem query_window {url : Url} (none : url.query = none) (skip size : String) :
    ((url.withPair "from" skip).withPair "size" size).query =
      some ("from=" ++ skip ++ "&size=" ++ size) := by
  have first : (url.withPair "from" skip).query = some ("from=" ++ skip) := by
    unfold Url.withPair
    rw [none]
    rfl
  have some_char : "from=" ++ skip ≠ "" := by
    intro empty
    have chars := congrArg String.toList empty
    simp at chars
  generalize url.withPair "from" skip = before at first
  unfold Url.withPair
  rw [first]
  dsimp only
  split
  · rename_i impossible
    cases impossible
  · rename_i empty
    exact absurd (Option.some.inj empty) some_char
  · rename_i query _ same
    cases same
    have joint : "&" ++ "size" ++ "=" = "&size=" := by decide +kernel
    rw [← joint]
    simp only [String.append_assoc]

/-- Where the base address fits, the address of an index is that of the base with two segments more. -/
theorem address?_of_fits {base index : String} {whole : Url} (read : Url.parse? base = .ok whole)
    (web : whole.scheme = "http" ∨ whole.scheme = "https") (fits : BaseFits base)
    (isSegment : IsSegment index.toList) :
    whole.query = none ∧ address? base (SearchService.resource index) =
      some { whole with path := .segments (whole.path.withoutEnd ++
        [Url.encoded index.toList, Url.encoded "_search".toList]) } := by
  obtain ⟨count, split⟩ := exists_trimSlashes base
  have within {c : Char} (present : c ∈ (trimSlashes base).toList) : c ∈ base.toList := by
    rw [split]
    exact List.mem_append_left _ present
  have extensible : Extensible (trimSlashes base).toList count :=
    ⟨fun present => fits.noQuery (within present), fun present => fits.noFragment (within present),
      split ▸ fits.shown⟩
  rw [← String.ofList_toList (s := base), split] at read
  obtain ⟨slashed, readSlashed, noQuery, ⟨empty, path⟩, extended⟩ :=
    Url.exists_extended extensible read web
  rw [String.ofList_append, String.ofList_toList] at readSlashed
  have trimmed : whole.path.withoutEnd = slashed.path.stem := by
    rw [path]
    exact UrlPath.withoutEnd_append_replicate (fits.ends slashed readSlashed) empty
  have segments := extended _ _ isSegment isSegment_search ⟨'h', by decide, by decide⟩
  rw [← toList_resource, String.ofList_append, String.ofList_toList, String.ofList_toList] at segments
  refine ⟨noQuery, ?_⟩
  rw [trimmed]
  unfold address?
  rw [segments]
  exact if_pos web

/-- The call for a search where the base address and the chain fit. -/
theorem exists_call {config : Config} {whole : Url} (read : Url.parse? config.elastic.url = .ok whole)
    (web : whole.scheme = "http" ∨ whole.scheme = "https") (baseFits : BaseFits config.elastic.url)
    (chainFits : ChainFits config.search.chain) {request : SearchRequest}
    (index : request.index = config.searchConfig.actionIndex) :
    ∃ call, (SearchService.ofSettings config.elastic).call? request = some call ∧
      Addressed whole config.searchConfig.actionIndex request call := by
  have isSegment : IsSegment config.searchConfig.actionIndex.toList := chainFits.isSegment
  have decodes : decodeSegment (Url.encoded config.searchConfig.actionIndex.toList) =
      config.searchConfig.actionIndex := chainFits.decodes
  rw [← index] at isSegment decodes
  obtain ⟨noQuery, address⟩ := address?_of_fits read web baseFits isSegment
  rw [← index]
  refine ⟨_, congrArg (Option.map _) address, ?_⟩
  -- Only the path of the address is another one, so the user there is that of the base address.
  constructor
  case method => rfl
  case scheme => rfl
  case named =>
    intro user password named
    obtain ⟨taken, authorized⟩ := Call.ofUrl_of_named named
    refine ⟨taken, ?_⟩
    have first : (Call.ofUrl whole).authorizations.head? =
        some (Call.basicAuthorization user password) := by rw [authorized]; rfl
    exact List.head?_append.trans (congrArg (Option.or · _) first)
  case nobody =>
    intro nobody
    exact Call.user_ofUrl_of_nobody nobody
  case host => rfl
  case port => rfl
  case path => exact ⟨_, _, rfl, decodes, by decide +kernel⟩
  case query => exact query_window noQuery _ _

end Client

namespace Config

open Client (Addressed Network SearchService trimSlashes)

/-- The searches under some settings go to the index of the chain below the base address, which is read
as the given one. -/
def Addresses (config : Config) (whole : Url) : Prop :=
  ∀ (network : Network) (collaborators : Collaborators) (params : Params),
    ∀ request ∈ (Engine.answer config.searchConfig collaborators params).searches,
      ∃ call, ((SearchService.ofSettings config.elastic).search network request).call = some call ∧
        Addressed whole config.searchConfig.actionIndex request call

/-- Settings whose base address has more slashes at its end. -/
def withSlashes (config : Config) (count : Nat) : Config :=
  { config with
    elastic.url := config.elastic.url ++ String.ofList (List.replicate count '/') }

/-- Slashes at the end of the base address change nothing about a search. Under valid settings with a
base address that is not one of the web no call is made at all. Under valid settings with any other
base address every search goes to the index of the chain, below the path of that address, if the
address ends with its path and the chain can be a part of one segment. -/
theorem addresses_of_validate {config : Config} (valid : config.validate = .ok ()) :
    (∀ count network request,
      (SearchService.ofSettings (config.withSlashes count).elastic).search network request =
        (SearchService.ofSettings config.elastic).search network request) ∧
    ∃ whole, Url.parse? config.elastic.url = .ok whole ∧
      (whole.scheme ≠ "http" ∧ whole.scheme ≠ "https" → ∀ network request,
        ((SearchService.ofSettings config.elastic).search network request).call = none) ∧
      (whole.scheme = "http" ∨ whole.scheme = "https" → BaseFits config.elastic.url →
        ChainFits config.search.chain → config.Addresses whole) := by
  obtain ⟨whole, read⟩ := (validate_eq_ok_iff.mp valid).elasticUrl
  refine ⟨fun count network request => ?_, whole, read, fun other network request => ?_, ?_⟩
  · exact Client.search_append_slashes (SearchService.ofSettings config.elastic) count network request
  · rw [Client.search_call]
    exact Client.call?_eq_none
      (Client.address?_of_other_scheme read other (Client.endsVisibly_resource request.index))
  · intro web baseFits chainFits network collaborators params request sent
    rw [Client.search_call]
    exact Client.exists_call read web baseFits chainFits (Engine.index_of_mem_searches sent)

/-- Settings that need care: the chain is shown with triplets, and a percent sign in it stands for itself;
the base address has capitals, a user, steps to be carried out, and slashes at its end. -/
def spacedConfig : Config where
  search := { chain := "wax 50%" }
  elastic := { url := "HTTPS://me@Search/a/../proxy/.//" }

theorem spacedConfig_addresses :
    spacedConfig.validate = .ok () ∧ BaseFits spacedConfig.elastic.url ∧
      ChainFits spacedConfig.search.chain ∧
      ∃ whole, Url.parse? spacedConfig.elastic.url = .ok whole ∧ whole.scheme = "https" ∧
        whole.path.withoutEnd = ["proxy"] ∧ spacedConfig.Addresses whole := by
  have valid : spacedConfig.validate = .ok () := by decide +kernel
  have baseFits : BaseFits spacedConfig.elastic.url := by
    refine ⟨by decide +kernel, by decide +kernel, by decide +kernel, fun url read => ?_⟩
    have stem : (Url.parse? (trimSlashes spacedConfig.elastic.url ++ "/")).map
        (fun url => url.path.stem) = .ok ["proxy"] := by decide +kernel
    rw [read] at stem
    rw [show url.path.stem = ["proxy"] from Except.ok.inj stem]
    decide
  have chainFits : ChainFits spacedConfig.search.chain :=
    ⟨by decide +kernel, by decide +kernel⟩
  obtain ⟨-, whole, read, -, addresses⟩ := addresses_of_validate valid
  have parts : (Url.parse? spacedConfig.elastic.url).map
      (fun url => (url.scheme, url.path.withoutEnd)) = .ok ("https", ["proxy"]) := by decide +kernel
  rw [read] at parts
  obtain ⟨scheme, path⟩ := Prod.mk.inj (Except.ok.inj parts)
  exact ⟨valid, baseFits, chainFits, whole, read, scheme, path,
    addresses (Or.inr scheme) baseFits chainFits⟩

/-! ## Settings that miss -/

/-- The texts of the segments of a path. -/
def pathTexts : UrlPath → List String
  | .segments texts => texts.map decodeSegment
  | .flat _ => []

/-- The request without parameters, compiled. -/
def plainQuery : CompiledQuery where
  page := { skip := 0, limit := 10 }
  track := .upTo 10000
  query := {}
  sort := ⟨"global_sequence", "desc"⟩

/-- The search for it. -/
def plainSearch (config : Config) : SearchRequest :=
  plainQuery.toRequest config.searchConfig.actionIndex config.searchConfig.maxResults.toNat

theorem plainSearch_mem (config : Config) :
    config.plainSearch ∈
      (Engine.answer config.searchConfig Engine.steady (.ofPairs [])).searches := by
  have accepted : CompiledQuery.ofParams (.ofPairs []) = .ok plainQuery := by decide +kernel
  have switched : ResponseFlags.ofParams (.ofPairs []) = .ok {} := by decide +kernel
  have planned : Engine.plan config.searchConfig (.ofPairs []) = .ok (config.plainSearch, {}) := by
    unfold Engine.plan
    rw [accepted, switched]
    rfl
  rw [(Engine.answer_of_plan planned Engine.steady).2.1]
  exact List.mem_singleton_self _

/-- The search for the request without parameters reaches the index below the base address, as far as the
path goes. -/
def reaches (config : Config) : Bool :=
  match Url.parse? config.elastic.url,
      (SearchService.ofSettings config.elastic).call? config.plainSearch with
  | .ok whole, some call =>
      pathTexts call.url.path ==
        whole.path.withoutEnd.map decodeSegment ++ [config.searchConfig.actionIndex, "_search"]
  | _, _ => false

theorem reaches_of_addresses {config : Config} {whole : Url}
    (read : Url.parse? config.elastic.url = .ok whole) (addresses : config.Addresses whole) :
    config.reaches = true := by
  obtain ⟨call, made, addressed⟩ :=
    addresses (fun _ => .error "") Engine.steady _ _ config.plainSearch_mem
  obtain ⟨segment, last, path, index, final⟩ := addressed.path
  rw [Client.search_call] at made
  unfold reaches
  rw [read, made]
  dsimp only
  rw [path, pathTexts, List.map_append, List.map_cons, List.map_cons, List.map_nil, index, final]
  exact beq_self_eq_true _

/-- Chains that are more or less than a part of one segment, and base addresses that go on after their
path, end in a blank that is dropped, keep an empty segment in front of a slash at their end, or are none
of the web. -/
def strayConfigs : List Config :=
  (["a/b", "a\\b", "a?b", "a#b", "a\tb", "%41"].map fun chain => { search := { chain } }) ++
    ["http://h/?q", "http://h/#f", "http://h/a ", "http://h/a\\", "http://h/a//.", "ftp://h"].map
      fun url => { elastic := { url } }

/-- Settings that are valid, and under which searches do not go to the index of the chain. -/
def Strays (config : Config) : Prop :=
  config.validate = .ok () ∧
    ∀ whole, Url.parse? config.elastic.url = .ok whole → ¬ config.Addresses whole

theorem strayConfigs_miss : strayConfigs.Forall Strays := by
  have checked : ∀ config ∈ strayConfigs,
      config.validate = .ok () ∧ config.reaches = false := by decide +kernel
  refine List.forall_iff_forall_mem.mpr fun config present => ?_
  obtain ⟨valid, misses⟩ := checked config present
  refine ⟨valid, fun whole read addresses => ?_⟩
  rw [reaches_of_addresses read addresses] at misses
  cases misses

end Config

end TransferHistory
