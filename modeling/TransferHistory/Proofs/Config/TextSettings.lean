import TransferHistory.Proofs.Config.Layers

/-!
# Settings that are texts

The settings that hold a text, or may hold one, and what they are read from: each from the value that
stands for it in its section, whatever else the tree holds.

Results:
1. `Reading.SetsField.of_readSection`: what a section's entry of some name leaves in a field.
2. `TextSetting.givesText`: what a setting is read from.
-/

namespace TransferHistory

open Ordered (Distinct get?)

/-! ## Fields of sections -/

namespace Reading

variable {σ ε α β γ : Type} {setters : List (Setter σ ε α)} {name : String} {field : α → β}
  {gives : σ → β → Prop}

/-- A setter of the given name sets a field, and one of another name leaves it as it is. -/
def Touches (name : String) (field : α → β) (gives : σ → β → Prop) (setter : Setter σ ε α) : Prop :=
  ∀ (value : σ) (before after : α), setter.2 value before = .ok after →
    if setter.1 = name then gives value (field after) else field after = field before

theorem touches_own {read : σ → Except ε γ} {place : α → γ → α}
    (given : ∀ {value : σ} {found : γ} (before : α), read value = .ok found →
      gives value (field (place before found))) :
    Touches name field gives (name, fun value known => do return place known (← read value)) := by
  intro value before after wentWell
  obtain ⟨found, read, done⟩ := bind_eq_ok_iff.mp wentWell
  cases done
  rw [if_pos rfl]
  exact given before read

theorem touches_other {other : String} {read : σ → Except ε γ} {place : α → γ → α} (ne : other ≠ name)
    (kept : ∀ (before : α) (found : γ), field (place before found) = field before) :
    Touches name field gives (other, fun value known => do return place known (← read value)) := by
  intro value before after wentWell
  obtain ⟨found, -, done⟩ := bind_eq_ok_iff.mp wentWell
  cases done
  rw [if_neg ne]
  exact kept before found

/-- Of the setters of a section, the one of a given name sets a field, and no other one touches it. -/
structure SetsField (setters : List (Setter σ ε α)) (name : String) (field : α → β)
    (gives : σ → β → Prop) : Prop where
  known : name ∈ setters.map Prod.fst
  each : ∀ setter ∈ setters, Touches name field gives setter

theorem SetsField.of_putEntry (sets : SetsField setters name field gives) {before after : α}
    {other : String} {value : σ} (read : putEntry setters before (other, value) = .ok after) :
    if other = name then gives value (field after) else field after = field before := by
  unfold putEntry at read
  cases found : setters.lookup other with
  | some setter =>
      obtain ⟨front, rest, split, -⟩ := List.lookup_eq_some_iff.mp found
      have present : (other, setter) ∈ setters := by simp [split]
      rw [found] at read
      exact sets.each _ present _ _ _ read
  | none =>
      have ne : other ≠ name := by
        rintro rfl
        obtain ⟨setter, present, same⟩ := List.mem_map.mp sets.known
        have apart := List.lookup_eq_none_iff.mp found setter present
        simp [same] at apart
      rw [found] at read
      cases read
      rw [if_neg ne]

/-- What stands under a name in a table is what its field is read from. -/
theorem SetsField.of_readSection (sets : SetsField setters name field gives) {reading : Reading σ ε}
    {title : String} {default result : α} {whole value : σ} {entries : Ordered σ}
    (shape : reading.shape whole = .table entries) (distinct : Distinct entries)
    (read : reading.readSection title setters default whole = .ok result)
    (found : get? name entries = some value) : gives value (field result) := by
  rw [readSection, shape] at read
  exact (Ordered.foldlM_field field gives sets.of_putEntry distinct read).1 value found

end Reading

/-! ## Setters -/

namespace Setting

open Reading

/-- What a value gives to a setting: its text, or nothing if it stands for nothing. -/
def GivesText (value : Setting) (given : Option String) : Prop :=
  lenient.isNull value = true ∨ ∃ text, value.toText = .ok text ∧ given = some text

theorem givesText_of_text {value : Setting} {text : String} (read : lenient.text value = .ok text) :
    value.GivesText (some text) :=
  Or.inr ⟨text, read, rfl⟩

theorem givesText_of_optionalText {value : Setting} {given : Option String}
    (read : lenient.optionalText value = .ok given) : value.GivesText given := by
  unfold Reading.optionalText at read
  split at read
  · rename_i null
    exact Or.inl null
  · cases text : lenient.text value with
    | error misfit =>
        rw [text] at read
        cases read
    | ok found =>
        rw [text] at read
        cases read
        exact givesText_of_text text

theorem setsField_server : SetsField lenient.configSetters "server" Config.server fun value part =>
    lenient.readSection "ServerConfig" lenient.serverSetters {} value = .ok part where
  known := by simp [configSetters]
  each := by
    simp only [configSetters, List.forall_mem_cons]
    exact ⟨touches_own fun _ => id, touches_other (by decide) fun _ _ => rfl,
      touches_other (by decide) fun _ _ => rfl, touches_other (by decide) fun _ _ => rfl,
      touches_other (by decide) fun _ _ => rfl, List.forall_mem_nil _⟩

theorem setsField_search : SetsField lenient.configSetters "search" Config.search fun value part =>
    lenient.readSection "SearchSettings" lenient.searchSetters {} value = .ok part where
  known := by simp [configSetters]
  each := by
    simp only [configSetters, List.forall_mem_cons]
    exact ⟨touches_other (by decide) fun _ _ => rfl, touches_own fun _ => id,
      touches_other (by decide) fun _ _ => rfl, touches_other (by decide) fun _ _ => rfl,
      touches_other (by decide) fun _ _ => rfl, List.forall_mem_nil _⟩

theorem setsField_elastic : SetsField lenient.configSetters "elastic" Config.elastic fun value part =>
    lenient.readSection "ElasticConfig" lenient.elasticSetters {} value = .ok part where
  known := by simp [configSetters]
  each := by
    simp only [configSetters, List.forall_mem_cons]
    exact ⟨touches_other (by decide) fun _ _ => rfl, touches_other (by decide) fun _ _ => rfl,
      touches_own fun _ => id, touches_other (by decide) fun _ _ => rfl,
      touches_other (by decide) fun _ _ => rfl, List.forall_mem_nil _⟩

theorem setsField_node : SetsField lenient.configSetters "chain_rpc" Config.node fun value part =>
    lenient.readSection "ChainRpcConfig" lenient.nodeSetters {} value = .ok part where
  known := by simp [configSetters]
  each := by
    simp only [configSetters, List.forall_mem_cons]
    exact ⟨touches_other (by decide) fun _ _ => rfl, touches_other (by decide) fun _ _ => rfl,
      touches_other (by decide) fun _ _ => rfl, touches_own fun _ => id,
      touches_other (by decide) fun _ _ => rfl, List.forall_mem_nil _⟩

theorem setsField_logging : SetsField lenient.configSetters "logging" Config.logging fun value part =>
    lenient.readSection "LoggingConfig" lenient.loggingSetters {} value = .ok part where
  known := by simp [configSetters]
  each := by
    simp only [configSetters, List.forall_mem_cons]
    exact ⟨touches_other (by decide) fun _ _ => rfl, touches_other (by decide) fun _ _ => rfl,
      touches_other (by decide) fun _ _ => rfl, touches_other (by decide) fun _ _ => rfl,
      touches_own fun _ => id, List.forall_mem_nil _⟩

theorem setsField_host :
    SetsField lenient.serverSetters "host" (fun part => some part.host) GivesText where
  known := by simp [serverSetters]
  each := by
    simp only [serverSetters, List.forall_mem_cons]
    exact ⟨touches_own fun _ => givesText_of_text, touches_other (by decide) fun _ _ => rfl,
      touches_other (by decide) fun _ _ => rfl, List.forall_mem_nil _⟩

theorem setsField_chain :
    SetsField lenient.searchSetters "chain" (fun part => some part.chain) GivesText where
  known := by simp [searchSetters]
  each := by
    simp only [searchSetters, List.forall_mem_cons]
    exact ⟨touches_own fun _ => givesText_of_text, touches_other (by decide) fun _ _ => rfl,
      List.forall_mem_nil _⟩

theorem setsField_elasticUrl :
    SetsField lenient.elasticSetters "url" (fun part => some part.url) GivesText where
  known := by simp [elasticSetters]
  each := by
    simp only [elasticSetters, List.forall_mem_cons]
    exact ⟨touches_own fun _ => givesText_of_text, touches_other (by decide) fun _ _ => rfl,
      touches_other (by decide) fun _ _ => rfl, touches_other (by decide) fun _ _ => rfl,
      List.forall_mem_nil _⟩

theorem setsField_user :
    SetsField lenient.elasticSetters "user" ElasticSettings.user GivesText where
  known := by simp [elasticSetters]
  each := by
    simp only [elasticSetters, List.forall_mem_cons]
    exact ⟨touches_other (by decide) fun _ _ => rfl,
      touches_own fun _ => givesText_of_optionalText, touches_other (by decide) fun _ _ => rfl,
      touches_other (by decide) fun _ _ => rfl, List.forall_mem_nil _⟩

theorem setsField_password :
    SetsField lenient.elasticSetters "password" ElasticSettings.password GivesText where
  known := by simp [elasticSetters]
  each := by
    simp only [elasticSetters, List.forall_mem_cons]
    exact ⟨touches_other (by decide) fun _ _ => rfl, touches_other (by decide) fun _ _ => rfl,
      touches_own fun _ => givesText_of_optionalText, touches_other (by decide) fun _ _ => rfl,
      List.forall_mem_nil _⟩

theorem setsField_nodeUrl :
    SetsField lenient.nodeSetters "url" (fun part => some part.url) GivesText where
  known := by simp [nodeSetters]
  each := by
    simp only [nodeSetters, List.forall_mem_cons]
    exact ⟨touches_own fun _ => givesText_of_text, touches_other (by decide) fun _ _ => rfl,
      List.forall_mem_nil _⟩

theorem setsField_level :
    SetsField lenient.loggingSetters "level" (fun part => some part.level) GivesText where
  known := by simp [loggingSetters]
  each := by
    simp only [loggingSetters, List.forall_mem_cons]
    exact ⟨touches_own fun _ => givesText_of_text, List.forall_mem_nil _⟩

/-- A setting is read from what the tree holds for it. -/
theorem givesText_of_config {α : Type} {setters : List (Setter Setting Misfit α)}
    {title group key : String} {default : α} {part : Config → α} {field : α → Option String}
    (outer : SetsField lenient.configSetters group part fun value given =>
      lenient.readSection title setters default value = .ok given)
    (inner : SetsField setters key field GivesText) {entries : Ordered Setting} {config : Config}
    (regular : Regular entries) (read : lenient.config (.table entries) = .ok config)
    {found : Setting} (held : held? group key entries = some found) :
    found.GivesText (field (part config)) := by
  have distinct := regular.settings group
  unfold held? at held
  cases present : get? group entries with
  | none =>
      rw [present] at held
      cases held
  | some whole =>
      rw [present] at held distinct
      have readWhole := outer.of_readSection rfl regular.groups read present
      cases whole with
      | table members => exact inner.of_readSection rfl distinct readWhole held
      | _ => cases held

end Setting

/-! ## The settings -/

/-- A setting that is a text. The user and the password may be missing. -/
inductive TextSetting where
  | host
  | chain
  | elasticUrl
  | user
  | password
  | nodeUrl
  | level
  deriving DecidableEq, Repr

namespace TextSetting

open Reading Setting

/-- The name of the section. -/
def group : TextSetting → String
  | .host => "server"
  | .chain => "search"
  | .elasticUrl | .user | .password => "elastic"
  | .nodeUrl => "chain_rpc"
  | .level => "logging"

/-- The name in the section. -/
def key : TextSetting → String
  | .host => "host"
  | .chain => "chain"
  | .elasticUrl | .nodeUrl => "url"
  | .user => "user"
  | .password => "password"
  | .level => "level"

/-- What the setting is in a configuration. -/
def value (config : Config) : TextSetting → Option String
  | .host => some config.server.host
  | .chain => some config.search.chain
  | .elasticUrl => some config.elastic.url
  | .user => config.elastic.user
  | .password => config.elastic.password
  | .nodeUrl => some config.node.url
  | .level => some config.logging.level

/-- Every text is read from what the tree holds for it. -/
theorem givesText (setting : TextSetting) {entries : Ordered Setting} {config : Config}
    (regular : Regular entries) (read : lenient.config (.table entries) = .ok config)
    {found : Setting} (held : held? setting.group setting.key entries = some found) :
    found.GivesText (setting.value config) := by
  cases setting with
  | host => exact givesText_of_config setsField_server setsField_host regular read held
  | chain => exact givesText_of_config setsField_search setsField_chain regular read held
  | elasticUrl => exact givesText_of_config setsField_elastic setsField_elasticUrl regular read held
  | user => exact givesText_of_config setsField_elastic setsField_user regular read held
  | password => exact givesText_of_config setsField_elastic setsField_password regular read held
  | nodeUrl => exact givesText_of_config setsField_node setsField_nodeUrl regular read held
  | level => exact givesText_of_config setsField_logging setsField_level regular read held

end TextSetting

end TransferHistory
