import TransferHistory.Config.Validation
import TransferHistory.Proofs.Result

/-!
# What validation makes sure of

Settings pass validation exactly if every check holds, in whatever order they are made.

Results:
1. `Config.validate_eq_ok_iff`: which settings are valid.
2. `Config.valid_default`: the defaults are.
3. `Config.maxResults_pos_of_validate`: valid settings let a search return something.
-/

namespace TransferHistory.Config

/-- Settings that the service can start with. -/
structure Valid (config : Config) : Prop where
  port : config.server.port ≠ 0
  chain : Text.trim config.search.chain ≠ ""
  maxResults : config.search.maxResults ≠ 0
  elasticUrl : ∃ url, Url.parse? config.elastic.url = .ok url
  elasticTimeout : config.elastic.timeout ≠ 0
  credentials : config.elastic.user.isSome = config.elastic.password.isSome
  nodeUrl : ∃ url, Url.parse? config.node.url = .ok url
  nodeTimeout : config.node.timeout ≠ 0
  level : Text.lowerAscii config.logging.level ∈ levels

theorem check_eq_ok_iff {holds : Bool} {defect : ConfigDefect} :
    check holds defect = .ok () ↔ holds = true := by
  cases holds with
  | true => simp [check]
  | false => simp [check]

theorem checkUrl_eq_ok_iff {text : String} {defect : UrlError → ConfigDefect} :
    checkUrl text defect = .ok () ↔ ∃ url, Url.parse? text = .ok url := by
  unfold checkUrl
  cases Url.parse? text with
  | ok url => simp
  | error error => simp

theorem bind_unit_eq_ok_iff {ε : Type} {step next : Except ε Unit} :
    (step >>= fun _ => next) = .ok () ↔ step = .ok () ∧ next = .ok () := by
  rw [bind_eq_ok_iff]
  exact ⟨fun ⟨_, first, second⟩ => ⟨first, second⟩, fun ⟨first, second⟩ => ⟨(), first, second⟩⟩

/-- Validation goes well exactly for valid settings. -/
theorem validate_eq_ok_iff {config : Config} : config.validate = .ok () ↔ config.Valid := by
  simp only [validate, bind_unit_eq_ok_iff, check_eq_ok_iff, checkUrl_eq_ok_iff, bne_iff_ne, ne_eq,
    beq_iff_eq, List.contains_iff_mem]
  constructor
  · rintro ⟨port, chain, maxResults, elasticUrl, elasticTimeout, credentials, nodeUrl, nodeTimeout,
      level⟩
    exact ⟨port, chain, maxResults, elasticUrl, elasticTimeout, credentials, nodeUrl, nodeTimeout,
      level⟩
  · rintro ⟨port, chain, maxResults, elasticUrl, elasticTimeout, credentials, nodeUrl, nodeTimeout,
      level⟩
    exact ⟨port, chain, maxResults, elasticUrl, elasticTimeout, credentials, nodeUrl, nodeTimeout,
      level⟩

/-- The service can start without any setting. -/
theorem valid_default : Valid .default := by
  have validated : Config.default.validate = .ok () := by decide +kernel
  exact validate_eq_ok_iff.mp validated

/-- Valid settings let a search return at least one hit. -/
theorem maxResults_pos_of_validate {config : Config} (valid : config.validate = .ok ()) :
    0 < config.search.maxResults.toNat := by
  rw [Nat.pos_iff_ne_zero]
  intro zero
  exact (validate_eq_ok_iff.mp valid).maxResults (UInt64.toNat_inj.mp zero)

end TransferHistory.Config
