import TransferHistory.Proofs.Config.Validation
import TransferHistory.Proofs.Query.Clauses
import TransferHistory.Proofs.Search.Runs

/-!
# The window of a search

Which hits a search asks for. The numbers come from unbounded texts, are read with a sign and are
sent without one, and the size is cut at a limit of the service that only valid settings keep above
zero. None of this changes what is asked for, other than by the two limits.

Results:
1. `Params.Asks.unique`: a numeric parameter asks for one number.
2. `Params.settles_of_int?`, `Params.settles_default`: the number that a parameter is read as is the
   one that it asks for, and its bits denote the same number with and without a sign.
3. `CompiledQuery.paged_of_validate`, `Engine.paged_of_mem_searches`: the window of the request that
   a query becomes, and of every search that is sent.
-/

namespace TransferHistory

open LeadingInt (Begins clamp greatest)

/-! ## What a parameter asks for -/

namespace Params

/-- What a numeric parameter asks for: the integer at its front, at most the greatest one, and a
default where no integer stands there. -/
inductive Asks (params : Params) (name : String) (default : Nat) : Int → Prop where
  | given {text : String} {number : Int} (present : params.get? name = some text)
      (begins : Begins text.toList number) : Asks params name default (min (greatest : Int) number)
  | missing (nothing : ∀ text number, params.get? name = some text → ¬ Begins text.toList number) :
      Asks params name default default

/-- The 64 bits of a signed integer denote the same number when they are read without a sign. -/
def SameBits (number : Int) (n : Nat) : Prop :=
  (Int64.ofInt number).toUInt64.toNat = n ∧ number = n

/-- A number is all that a parameter asks for: 63 bits hold it, and an integer that is read has the
same bits. -/
structure Settles (params : Params) (name : String) (default n : Nat) : Prop where
  asks : ∀ number, params.Asks name default number ↔ number = n
  lt_values63 : n < values63
  sameBits : ∀ number, params.int? name = some number → SameBits number n

variable {params : Params} {name : String} {default n : Nat}

theorem Asks.unique {number other : Int} (asks : params.Asks name default number)
    (also : params.Asks name default other) : number = other := by
  cases asks with
  | given present begins =>
      cases also with
      | given again beginsToo =>
          cases present.symm.trans again
          rw [begins.unique beginsToo]
      | missing nothing => exact absurd begins (nothing _ _ present)
  | missing nothing =>
      cases also with
      | given present begins => exact absurd begins (nothing _ _ present)
      | missing _ => rfl

theorem sameBits_of_lt (small : n < values63) : SameBits n n := by
  have bits : (Int64.ofInt n).toUInt64.toNat = ((n : Int) % values64).toNat :=
    BitVec.toNat_ofInt (n : Int)
  refine ⟨?_, rfl⟩
  rw [bits]
  unfold values63 at small
  unfold values64
  omega

/-- An integer that is read without being negative is what its parameter asks for, and 63 bits hold
it. -/
theorem asks_of_int? (default : Nat) (read : params.int? name = some (n : Int)) :
    params.Asks name default n ∧ n < values63 := by
  obtain ⟨text, present, read⟩ := Option.bind_eq_some_iff.mp read
  obtain ⟨number, begins, same⟩ := LeadingInt.ofText?_eq_some_iff.mp read
  have limit : (greatest : Int) = values63 - 1 := rfl
  have nonneg : (n : Int) = min (greatest : Int) number := by
    have sign := LeadingInt.clamp_neg_iff number
    unfold clamp at same sign
    omega
  refine ⟨?_, by omega⟩
  rw [nonneg]
  exact .given present begins

/-- A parameter that is read as a number asks for just that. -/
theorem settles_of_int? (read : params.int? name = some (n : Int)) :
    params.Settles name default n := by
  obtain ⟨asks, bounded⟩ := asks_of_int? default read
  refine ⟨fun number => ⟨fun also => also.unique asks, ?_⟩, bounded, fun number again => ?_⟩
  · rintro rfl
    exact asks
  · cases read.symm.trans again
    exact sameBits_of_lt bounded

/-- A parameter that is not read as a number asks for the default. -/
theorem settles_default (nothing : params.int? name = none) (small : default < values63) :
    params.Settles name default default := by
  have asks : params.Asks name default default := by
    refine .missing fun text number present begins => ?_
    rw [int?_of_get? present, LeadingInt.ofText?_of_begins begins] at nothing
    cases nothing
  refine ⟨fun number => ⟨fun also => also.unique asks, ?_⟩, small, fun number given => ?_⟩
  · rintro rfl
    exact asks
  · rw [nothing] at given
    cases given

end Params

/-! ## What a request is read as -/

namespace Page

variable {params : Params}

theorem settles_readSkip {skip : Nat} (accepted : readSkip params = .ok skip) :
    params.Settles "skip" 0 skip := by
  unfold readSkip at accepted
  cases read : params.int? "skip" with
  | none =>
      rw [read] at accepted
      cases accepted
      exact Params.settles_default read (by decide)
  | some number =>
      simp only [read] at accepted
      split at accepted
      case isTrue => cases accepted
      case isFalse natural =>
        cases accepted
        apply Params.settles_of_int?
        rw [read, Int.toNat_of_nonneg (Int.not_lt.mp natural)]

theorem settles_readLimit {limit : Nat} (accepted : readLimit params = .ok limit) :
    params.Settles "limit" 10 limit ∧ 1 ≤ limit := by
  unfold readLimit at accepted
  cases read : params.int? "limit" with
  | none =>
      rw [read] at accepted
      cases accepted
      exact ⟨Params.settles_default read (by decide), by decide⟩
  | some number =>
      simp only [read] at accepted
      split at accepted
      case isTrue => cases accepted
      case isFalse positive =>
        cases accepted
        refine ⟨Params.settles_of_int? ?_, by omega⟩
        rw [read, Int.toNat_of_nonneg (by omega)]

theorem settles_ofParams {page : Page} (accepted : ofParams params = .ok page) :
    params.Settles "skip" 0 page.skip ∧ params.Settles "limit" 10 page.limit ∧ 1 ≤ page.limit := by
  obtain ⟨skip, skipped, accepted⟩ := bind_eq_ok_iff.mp accepted
  obtain ⟨limit, limited, accepted⟩ := bind_eq_ok_iff.mp accepted
  cases accepted
  exact ⟨settles_readSkip skipped, settles_readLimit limited⟩

end Page

/-- Hits are counted up to a number that the request asks for and that is not zero. -/
theorem Track.settles_ofParams {params : Params} {count : Nat}
    (accepted : ofParams params = .ok (.upTo count)) :
    params.Settles "track" defaultCount count ∧ 1 ≤ count := by
  unfold ofParams at accepted
  split at accepted
  case h_1 missing =>
    cases accepted
    exact ⟨Params.settles_default (Params.int?_of_missing missing) (by decide), by decide⟩
  case h_2 => cases accepted
  case h_3 => cases accepted
  case h_4 =>
    cases read : params.int? "track" with
    | none =>
        rw [read] at accepted
        cases accepted
    | some number =>
        simp only [read] at accepted
        split at accepted
        case isFalse => cases accepted
        case isTrue positive =>
          cases accepted
          refine ⟨Params.settles_of_int? ?_, by omega⟩
          rw [read, Int.toNat_of_nonneg (Int.le_of_lt positive)]

/-! ## Searches -/

/-- A search asks for the window of a request under the greatest size that the service allows. It
skips what the request asks it to skip and returns the least of what is asked for and what is
allowed, never nothing; behind the window there is still a number of 64 bits. Where it counts hits
up to a number, that is the one asked for. -/
structure SearchRequest.Paged (params : Params) (allowed : Nat) (request : SearchRequest) :
    Prop where
  skip : params.Settles "skip" 0 request.skip
  size : ∃ limit, params.Settles "limit" 10 limit ∧ request.size = min limit allowed
  pos : 1 ≤ request.size
  le : request.size ≤ allowed
  lt_values64 : request.skip + request.size < values64
  track : ∀ count : Int, request.body.get? "track_total_hits" = some (.number (.int count)) →
    ∃ n : Nat, count = n ∧ 1 ≤ n ∧ params.Settles "track" 10000 n

theorem CompiledQuery.paged {params : Params} {compiled : CompiledQuery} {index : String}
    {allowed : Nat} (accepted : ofParams params = .ok compiled) (allows : 0 < allowed) :
    (compiled.toRequest index allowed).Paged params allowed := by
  obtain ⟨readPage, readTrack, -⟩ := parts_of_ofParams accepted
  obtain ⟨skip, limit, positive⟩ := Page.settles_ofParams readPage
  have size : (compiled.toRequest index allowed).size = min compiled.page.limit allowed := rfl
  refine ⟨skip, ⟨_, limit, size⟩, by omega, by omega, ?_, fun count sent => ?_⟩
  · have skipped : (compiled.toRequest index allowed).skip < values63 := skip.lt_values63
    have limited := limit.lt_values63
    -- Both are below 2^63, so their sum is below 2^64.
    have double : values63 + values63 = values64 := rfl
    omega
  · have sent : compiled.track.toJson = .number (.int count) := Option.some.inj sent
    cases counting : compiled.track with
    | exact counted =>
        rw [counting] at sent
        cases sent
    | upTo n =>
        rw [counting] at sent readTrack
        cases sent
        obtain ⟨settles, positive⟩ := Track.settles_ofParams readTrack
        exact ⟨n, rfl, positive, settles⟩

/-- Every search that is sent under valid settings asks for the window of its request. -/
theorem Engine.paged_of_mem_searches {config : Config} (valid : config.validate = .ok ())
    {collaborators : Collaborators} {params : Params} {request : SearchRequest}
    (sent : request ∈ (answer config.searchConfig collaborators params).searches) :
    request.Paged params config.search.maxResults.toNat := by
  obtain ⟨_, planned⟩ := exists_plan_of_mem_searches sent
  obtain ⟨compiled, accepted, planned⟩ := bind_eq_ok_iff.mp planned
  obtain ⟨_, -, planned⟩ := bind_eq_ok_iff.mp planned
  cases planned
  exact CompiledQuery.paged accepted (Config.maxResults_pos_of_validate valid)

namespace CompiledQuery

/-- Under valid settings the request of a query asks for the window that its parameters ask for, and
the casts between signed and unsigned numbers change none of them. -/
theorem paged_of_validate {config : Config} {params : Params} {compiled : CompiledQuery}
    (valid : config.validate = .ok ()) (accepted : ofParams params = .ok compiled) :
    (compiled.toRequest config.searchConfig.actionIndex
      config.searchConfig.maxResults.toNat).Paged params config.search.maxResults.toNat :=
  paged accepted (Config.maxResults_pos_of_validate valid)

/-- A request for everything: its numbers have more digits than 64 bits hold. -/
def greedyRequest : Params :=
  .ofPairs [("skip", " 99999999999999999999"), ("limit", "+18446744073709551616 or more"),
    ("track", "9223372036854775808")]

/-- What it is compiled to. -/
def greedyQuery : CompiledQuery where
  page := { skip := greatest, limit := greatest }
  track := .upTo greatest
  query := {}
  sort := ⟨"global_sequence", "desc"⟩

/-- Settings that allow a search to return more than any request can ask for. -/
def generousConfig : Config where
  search := { maxResults := 18446744073709551615 }

/-- Even so the end of its window is a number of 64 bits, and it skips all that can be asked for. -/
theorem greedyRequest_paged :
    generousConfig.validate = .ok () ∧ ofParams greedyRequest = .ok greedyQuery ∧
      greatest + (greedyQuery.page.size generousConfig.search.maxResults.toNat) < values64 ∧
      ∀ number, greedyRequest.Asks "skip" 0 number ↔ number = 9223372036854775807 := by
  have valid : generousConfig.validate = .ok () := by decide +kernel
  have accepted : ofParams greedyRequest = .ok greedyQuery := by decide +kernel
  have paged := paged_of_validate valid accepted
  exact ⟨valid, accepted, paged.lt_values64, paged.skip.asks⟩

end CompiledQuery

end TransferHistory
