import TransferHistory.Config.Reading
import TransferHistory.Proofs.Json.Kinds

/-!
# Settings that are left out

Settings are written as a value with a member for each section, and a section as a value with a member
for each setting. Reading that value gives the settings back. Where sections or single settings were
left out of it, these come back with their defaults and all others as they were; members that are no
settings change nothing, wherever they stand.

Results:
1. `Reading.Rereads.foldlM_putEntry`: what an edited object is read as, for any section whose settings
   are read back one by one.
2. `rereads_server`, `rereads_search`, `rereads_elastic`, `rereads_node`, `rereads_logging`: the
   settings of each section are.
3. `Config.rereads`: so are the sections.
4. `Config.ofJson?_edited`: what edited settings are read as.
-/

namespace TransferHistory

open Json (Mismatch)
open Ordered (names)
open Reading (putEntry)

/-! ## Settings and their defaults -/

/-- The settings of the server that are kept; the others have their defaults. -/
def ServerSettings.keep (kept : String → Bool) (settings : ServerSettings) : ServerSettings where
  host := if kept "host" then settings.host else ServerSettings.default.host
  port := if kept "port" then settings.port else ServerSettings.default.port
  bodyLimit := if kept "body_limit_bytes" then settings.bodyLimit else ServerSettings.default.bodyLimit

/-- The settings of the search that are kept; the others have their defaults. -/
def SearchSettings.keep (kept : String → Bool) (settings : SearchSettings) : SearchSettings where
  chain := if kept "chain" then settings.chain else SearchSettings.default.chain
  maxResults := if kept "max_results" then settings.maxResults else SearchSettings.default.maxResults

/-- The settings of the search service that are kept; the others have their defaults. -/
def ElasticSettings.keep (kept : String → Bool) (settings : ElasticSettings) : ElasticSettings where
  url := if kept "url" then settings.url else ElasticSettings.default.url
  user := if kept "user" then settings.user else ElasticSettings.default.user
  password := if kept "password" then settings.password else ElasticSettings.default.password
  timeout := if kept "timeout_ms" then settings.timeout else ElasticSettings.default.timeout

/-- The settings of the chain node that are kept; the others have their defaults. -/
def NodeSettings.keep (kept : String → Bool) (settings : NodeSettings) : NodeSettings where
  url := if kept "url" then settings.url else NodeSettings.default.url
  timeout := if kept "timeout_ms" then settings.timeout else NodeSettings.default.timeout

/-- The settings of the log that are kept; the others have their defaults. -/
def LoggingSettings.keep (kept : String → Bool) (settings : LoggingSettings) : LoggingSettings where
  level := if kept "level" then settings.level else LoggingSettings.default.level

/-- The settings that are kept, by the names of their sections and their own; the others have their
defaults. -/
def Config.keep (kept : String → String → Bool) (config : Config) : Config where
  server := config.server.keep (kept "server")
  search := config.search.keep (kept "search")
  elastic := config.elastic.keep (kept "elastic")
  node := config.node.keep (kept "chain_rpc")
  logging := config.logging.keep (kept "logging")

/-! ## Edited objects -/

/-- The members of an object that was written and then edited. Some names were left out, and others may
have come, in any places. Under a name that was written and kept stands what is `like` the value that
was written there. -/
structure Edited (kept : String → Bool) (like : String → Json → Json → Prop)
    (written members : Ordered Json) : Prop where
  stays : ∀ name ∈ names written, kept name = true → name ∈ names members
  known : ∀ entry ∈ members, ∀ source ∈ written, source.1 = entry.1 →
    kept entry.1 = true ∧ like entry.1 source.2 entry.2

/-- A section is read back setting by setting, beginning with its defaults. `restore seen` is the
section in which the settings in `seen` are as they were and the others have their defaults. -/
structure Reading.Rereads {α : Type} (setters : List (Setter Json Mismatch α))
    (like : String → Json → Json → Prop) (written : Ordered Json) (default : α)
    (restore : (String → Bool) → α) : Prop where
  start : restore (fun _ => false) = default
  names_eq : setters.map Prod.fst = names written
  known : ∀ {name : String} {value other : Json}, (name, value) ∈ written → like name value other →
    ∀ seen, putEntry setters (restore seen) (name, other) =
      .ok (restore fun setting => setting == name || seen setting)
  congr : ∀ {seen kept : String → Bool}, (∀ name ∈ names written, seen name = kept name) →
    restore seen = restore kept

namespace Reading.Rereads

variable {α : Type} {setters : List (Setter Json Mismatch α)} {like : String → Json → Json → Prop}
  {written : Ordered Json} {default : α} {restore : (String → Bool) → α}

/-- A member that is no setting changes nothing. -/
theorem putEntry_of_not_mem (rereads : Rereads setters like written default restore) {entry : String × Json}
    (unknown : entry.1 ∉ names written) (known : α) : putEntry setters known entry = .ok known := by
  have missing : setters.lookup entry.1 = none := by
    rw [List.lookup_eq_none_iff]
    intro setter present
    have named : setter.1 ∈ names written := rereads.names_eq ▸ List.mem_map_of_mem present
    have ne : entry.1 ≠ setter.1 := fun same => unknown (same ▸ named)
    simpa using ne
  unfold putEntry
  rw [missing]

theorem putEntry_restore (rereads : Rereads setters like written default restore) {entry : String × Json}
    (fits : ∀ source ∈ written, source.1 = entry.1 → like entry.1 source.2 entry.2)
    (seen : String → Bool) :
    putEntry setters (restore seen) entry =
      .ok (restore fun name => name == entry.1 || seen name) := by
  by_cases known : entry.1 ∈ names written
  · obtain ⟨source, present, same⟩ := List.mem_map.mp known
    exact rereads.known (same ▸ present) (fits source present same) seen
  · rw [rereads.putEntry_of_not_mem known]
    refine congrArg Except.ok (rereads.congr fun name present => ?_)
    have ne : name ≠ entry.1 := fun same => known (same ▸ present)
    rw [beq_eq_false_iff_ne.mpr ne, Bool.false_or]

/-- The members of an object are read one after the other, in whatever order they stand. -/
theorem foldlM_putEntry_restore (rereads : Rereads setters like written default restore)
    {members : Ordered Json}
    (fits : ∀ entry ∈ members, ∀ source ∈ written, source.1 = entry.1 →
      like entry.1 source.2 entry.2) (seen : String → Bool) :
    members.foldlM (putEntry setters) (restore seen) =
      .ok (restore fun name => (names members).contains name || seen name) := by
  induction members generalizing seen with
  | nil => rfl
  | cons entry rest ih =>
      obtain ⟨first, others⟩ := List.forall_mem_cons.mp fits
      rw [foldlM_cons_of_ok (rereads.putEntry_restore first seen), ih others]
      refine congrArg Except.ok (rereads.congr fun name _ => ?_)
      simp only [names, List.map_cons, List.contains_cons, ← Bool.or_assoc]
      rw [Bool.or_comm (name == entry.1)]

/-- An edited section has the settings that were kept and the defaults of those that were left out. -/
theorem foldlM_putEntry (rereads : Rereads setters like written default restore) {kept : String → Bool}
    {members : Ordered Json} (edited : Edited kept like written members) :
    members.foldlM (putEntry setters) default = .ok (restore kept) := by
  have fits : ∀ entry ∈ members, ∀ source ∈ written, source.1 = entry.1 →
      like entry.1 source.2 entry.2 :=
    fun entry present source known same => (edited.known entry present source known same).2
  rw [← rereads.start, rereads.foldlM_putEntry_restore fits]
  refine congrArg Except.ok (rereads.congr fun name known => ?_)
  rw [Bool.or_false, Bool.eq_iff_iff, List.contains_iff_mem]
  constructor
  · intro present
    obtain ⟨entry, inMembers, rfl⟩ := List.mem_map.mp present
    obtain ⟨source, inWritten, same⟩ := List.mem_map.mp known
    exact (edited.known entry inMembers source inWritten same).1
  · exact edited.stays name known

end Reading.Rereads

/-! ## The sections -/

namespace Json

theorem word16_strict : strict.word16 = asWord16 :=
  rfl

theorem word64_strict : strict.word64 = asWord64 :=
  rfl

theorem size_strict : strict.size = asSize :=
  rfl

theorem text_strict (text : String) : strict.text (.string text) = .ok text :=
  rfl

theorem toNat_lt_values16 (n : UInt16) : n.toNat < values16 :=
  n.toNat_lt

theorem asWord16_ofNat (n : UInt16) : (ofNat n.toNat).asWord16 = .ok n := by
  unfold asWord16
  rw [asBelow_ofNat (toNat_lt_values16 n)]
  exact congrArg Except.ok n.ofNat_toNat

theorem asSize_ofWord64 (n : UInt64) : (ofWord64 n).asSize = .ok n := by
  unfold asSize ofWord64
  rw [asBelow_ofNat (toNat_lt_values64 n)]
  exact congrArg Except.ok n.ofNat_toNat

theorem optionalText_ofText? (text : Option String) :
    strict.optionalText (ofText? text) = .ok text := by
  cases text with
  | none => rfl
  | some text => rfl

end Json

/-- The members that the settings of the server are written as. -/
def ServerSettings.members (settings : ServerSettings) : Ordered Json :=
  [("host", .string settings.host), ("port", .ofNat settings.port.toNat),
    ("body_limit_bytes", .ofWord64 settings.bodyLimit)]

/-- The members that the settings of the search are written as. -/
def SearchSettings.members (settings : SearchSettings) : Ordered Json :=
  [("chain", .string settings.chain), ("max_results", .ofWord64 settings.maxResults)]

/-- The members that the settings of the search service are written as. -/
def ElasticSettings.members (settings : ElasticSettings) : Ordered Json :=
  [("url", .string settings.url), ("user", .ofText? settings.user),
    ("password", .ofText? settings.password), ("timeout_ms", .ofWord64 settings.timeout)]

/-- The members that the settings of the chain node are written as. -/
def NodeSettings.members (settings : NodeSettings) : Ordered Json :=
  [("url", .string settings.url), ("timeout_ms", .ofWord64 settings.timeout)]

/-- The members that the settings of the log are written as. -/
def LoggingSettings.members (settings : LoggingSettings) : Ordered Json :=
  [("level", .string settings.level)]

/-- A value that is just what was written under its name. -/
def Unchanged (_name : String) (value other : Json) : Prop :=
  other = value

instance (name : String) (value other : Json) : Decidable (Unchanged name value other) :=
  inferInstanceAs (Decidable (other = value))

/-- The settings of a section are read back one by one. -/
theorem rereads_server (settings : ServerSettings) :
    Reading.Rereads Json.strict.serverSetters Unchanged settings.members {}
      fun seen => settings.keep seen where
  start := ServerSettings.default_eq
  names_eq := rfl
  known := by
    rintro name value other present rfl seen
    simp only [ServerSettings.members, List.mem_cons, Prod.mk.injEq, List.not_mem_nil, or_false]
      at present
    rcases present with ⟨rfl, rfl⟩ | ⟨rfl, rfl⟩ | ⟨rfl, rfl⟩
    · simp [putEntry, Reading.serverSetters, Json.text_strict, ServerSettings.keep]
    · simp [putEntry, Reading.serverSetters, List.lookup_cons, Json.word16_strict, Json.asWord16_ofNat,
        ServerSettings.keep]
    · simp [putEntry, Reading.serverSetters, List.lookup_cons, Json.size_strict, Json.asSize_ofWord64,
        ServerSettings.keep]
  congr same := by simp_all [ServerSettings.keep, names, ServerSettings.members]

theorem rereads_search (settings : SearchSettings) :
    Reading.Rereads Json.strict.searchSetters Unchanged settings.members {}
      fun seen => settings.keep seen where
  start := SearchSettings.default_eq
  names_eq := rfl
  known := by
    rintro name value other present rfl seen
    simp only [SearchSettings.members, List.mem_cons, Prod.mk.injEq, List.not_mem_nil, or_false]
      at present
    rcases present with ⟨rfl, rfl⟩ | ⟨rfl, rfl⟩
    · simp [putEntry, Reading.searchSetters, Json.text_strict, SearchSettings.keep]
    · simp [putEntry, Reading.searchSetters, List.lookup_cons, Json.word64_strict, Json.asWord64_ofWord64,
        SearchSettings.keep]
  congr same := by simp_all [SearchSettings.keep, names, SearchSettings.members]

theorem rereads_elastic (settings : ElasticSettings) :
    Reading.Rereads Json.strict.elasticSetters Unchanged settings.members {}
      fun seen => settings.keep seen where
  start := ElasticSettings.default_eq
  names_eq := rfl
  known := by
    rintro name value other present rfl seen
    simp only [ElasticSettings.members, List.mem_cons, Prod.mk.injEq, List.not_mem_nil, or_false]
      at present
    rcases present with ⟨rfl, rfl⟩ | ⟨rfl, rfl⟩ | ⟨rfl, rfl⟩ | ⟨rfl, rfl⟩
    · simp [putEntry, Reading.elasticSetters, Json.text_strict, ElasticSettings.keep]
    · simp [putEntry, Reading.elasticSetters, List.lookup_cons, Json.optionalText_ofText?,
        ElasticSettings.keep]
    · simp [putEntry, Reading.elasticSetters, List.lookup_cons, Json.optionalText_ofText?,
        ElasticSettings.keep]
    · simp [putEntry, Reading.elasticSetters, List.lookup_cons, Json.word64_strict,
        Json.asWord64_ofWord64, ElasticSettings.keep]
  congr same := by simp_all [ElasticSettings.keep, names, ElasticSettings.members]

theorem rereads_node (settings : NodeSettings) :
    Reading.Rereads Json.strict.nodeSetters Unchanged settings.members {}
      fun seen => settings.keep seen where
  start := NodeSettings.default_eq
  names_eq := rfl
  known := by
    rintro name value other present rfl seen
    simp only [NodeSettings.members, List.mem_cons, Prod.mk.injEq, List.not_mem_nil, or_false]
      at present
    rcases present with ⟨rfl, rfl⟩ | ⟨rfl, rfl⟩
    · simp [putEntry, Reading.nodeSetters, Json.text_strict, NodeSettings.keep]
    · simp [putEntry, Reading.nodeSetters, List.lookup_cons, Json.word64_strict, Json.asWord64_ofWord64,
        NodeSettings.keep]
  congr same := by simp_all [NodeSettings.keep, names, NodeSettings.members]

theorem rereads_logging (settings : LoggingSettings) :
    Reading.Rereads Json.strict.loggingSetters Unchanged settings.members {}
      fun seen => settings.keep seen where
  start := LoggingSettings.default_eq
  names_eq := rfl
  known := by
    rintro name value other present rfl seen
    obtain ⟨rfl, rfl⟩ := Prod.mk.inj (List.mem_singleton.mp present)
    simp [putEntry, Reading.loggingSetters, Json.text_strict, LoggingSettings.keep]
  congr same := by simp_all [LoggingSettings.keep, names, LoggingSettings.members]

/-! ## All settings -/

/-- What is left out of written settings: whole sections, and single settings of sections. -/
structure Omission where
  groups : List String := []
  settings : List (String × String) := []

namespace Omission

/-- A setting is not left out of its section. -/
def keepsIn (omitted : Omission) (group name : String) : Bool :=
  !omitted.settings.contains (group, name)

/-- A setting is left out neither alone nor with its section. -/
def keeps (omitted : Omission) (group name : String) : Bool :=
  !omitted.groups.contains group && omitted.keepsIn group name

/-- A section of which settings may have been left out. -/
def EditsSection (omitted : Omission) (group : String) (value other : Json) : Prop :=
  ∃ written members, value = .object written ∧ other = .object members ∧
    Edited (omitted.keepsIn group) Unchanged written members

/-- Settings that were written, and of which sections and single settings were left out. Members that
are no settings may have come at the top or into a section. -/
def Edits (omitted : Omission) (value other : Json) : Prop :=
  ∃ written members, value = .object written ∧ other = .object members ∧
    Edited (fun group => !omitted.groups.contains group) omitted.EditsSection written members

end Omission

/-- A section with only its settings left out is read as one with their defaults. -/
theorem readSection_of_editsSection {α : Type} {setters : List (Setter Json Mismatch α)}
    {written : Ordered Json} {default : α} {restore : (String → Bool) → α}
    (rereads : Reading.Rereads setters Unchanged written default restore) {omitted : Omission}
    {group name : String} {other : Json}
    (edits : omitted.EditsSection group (.object written) other) :
    Json.strict.readSection name setters default other = .ok (restore (omitted.keepsIn group)) := by
  obtain ⟨_, members, same, rfl, edited⟩ := edits
  cases same
  exact rereads.foldlM_putEntry edited

/-- The members that all settings are written as. -/
def Config.members (config : Config) : Ordered Json :=
  [("server", .object config.server.members), ("search", .object config.search.members),
    ("elastic", .object config.elastic.members), ("chain_rpc", .object config.node.members),
    ("logging", .object config.logging.members)]

theorem Config.rereads (config : Config) (omitted : Omission) :
    Reading.Rereads Json.strict.configSetters omitted.EditsSection config.members {}
      fun seen => config.keep fun group name => seen group && omitted.keepsIn group name where
  start := Config.default_eq
  names_eq := rfl
  known := by
    intro group value other present edits seen
    simp only [Config.members, List.mem_cons, Prod.mk.injEq, List.not_mem_nil, or_false]
      at present
    rcases present with ⟨rfl, rfl⟩ | ⟨rfl, rfl⟩ | ⟨rfl, rfl⟩ | ⟨rfl, rfl⟩ | ⟨rfl, rfl⟩
    · simp [putEntry, Reading.configSetters, Config.keep,
        readSection_of_editsSection (rereads_server config.server) edits]
    · simp [putEntry, Reading.configSetters, List.lookup_cons, Config.keep,
        readSection_of_editsSection (rereads_search config.search) edits]
    · simp [putEntry, Reading.configSetters, List.lookup_cons, Config.keep,
        readSection_of_editsSection (rereads_elastic config.elastic) edits]
    · simp [putEntry, Reading.configSetters, List.lookup_cons, Config.keep,
        readSection_of_editsSection (rereads_node config.node) edits]
    · simp [putEntry, Reading.configSetters, List.lookup_cons, Config.keep,
        readSection_of_editsSection (rereads_logging config.logging) edits]
  congr same := by simp_all [Config.keep, names, Config.members]

/-- An object in which nothing was changed. -/
theorem Edited.refl {like : String → Json → Json → Prop} {written : Ordered Json}
    (distinct : Ordered.Distinct written)
    (alike : ∀ entry ∈ written, like entry.1 entry.2 entry.2) :
    Edited (fun _ => true) like written written where
  stays _ present _ := present
  known entry present source again same := by
    cases List.inj_on_of_nodup_map distinct again present same
    exact ⟨rfl, alike entry present⟩

theorem Config.distinct_members (config : Config) : Ordered.Distinct config.members := by
  simp [Ordered.Distinct, names, Config.members]

/-- Nothing is left out of settings that were written. -/
theorem Config.edits_self (config : Config) : ({} : Omission).Edits config.toJson config.toJson := by
  have section_refl (group : String) {written : Ordered Json} (distinct : Ordered.Distinct written) :
      ({} : Omission).EditsSection group (.object written) (.object written) :=
    ⟨written, written, rfl, rfl, .refl distinct fun _ _ => rfl⟩
  refine ⟨config.members, config.members, rfl, rfl, .refl config.distinct_members ?_⟩
  simp only [Config.members, List.forall_mem_cons]
  refine ⟨section_refl _ ?_, section_refl _ ?_, section_refl _ ?_, section_refl _ ?_,
    section_refl _ ?_, List.forall_mem_nil _⟩
  · simp [Ordered.Distinct, names, ServerSettings.members]
  · simp [Ordered.Distinct, names, SearchSettings.members]
  · simp [Ordered.Distinct, names, ElasticSettings.members]
  · simp [Ordered.Distinct, names, NodeSettings.members]
  · simp [Ordered.Distinct, names, LoggingSettings.members]

namespace Config

theorem ofJson?_of_edits {config : Config} {omitted : Omission} {value : Json}
    (edits : omitted.Edits config.toJson value) : ofJson? value = .ok (config.keep omitted.keeps) := by
  obtain ⟨_, members, same, rfl, edited⟩ := edits
  cases same
  exact (config.rereads omitted).foldlM_putEntry edited

/-- Settings that are written are read back as they were. Where sections or single settings were left
out of what was written, and others that are none were put in, reading goes well all the same: what was
left out has its default, and everything else is as it was. -/
theorem ofJson?_edited (config : Config) :
    ofJson? config.toJson = .ok config ∧
      ∀ (omitted : Omission) (value : Json), omitted.Edits config.toJson value →
        ofJson? value = .ok (config.keep omitted.keeps) :=
  ⟨ofJson?_of_edits config.edits_self, fun _ _ edits => ofJson?_of_edits edits⟩

/-- Settings that all differ from their defaults. -/
def ownConfig : Config where
  server := { host := "10.0.0.1", port := 7100, bodyLimit := 18446744073709551615 }
  search := { chain := "wax", maxResults := 250 }
  elastic := { url := "https://es:9200", user := some "reader", password := some "secret", timeout := 1 }
  node := { url := "http://node:8888", timeout := 2 }
  logging := { level := "warn" }

/-- One section is left out, and a setting of each of two others. -/
def ownOmission : Omission where
  groups := ["elastic"]
  settings := [("server", "port"), ("chain_rpc", "timeout_ms")]

/-- What is left of the settings, in another order and with members that are none. -/
def ownJson : Json :=
  .object [("logging", .object [("level", .string "warn"), ("port", .null)]), ("elastics", .bool true),
    ("chain_rpc", .object [("url", .string "http://node:8888")]),
    ("server", .object [("body_limit_bytes", .ofNat 18446744073709551615), ("host", .string "10.0.0.1")]),
    ("search", .object [("max_results", .ofNat 250), ("level", .array []), ("chain", .string "wax")])]

theorem ownJson_read :
    ownOmission.Edits ownConfig.toJson ownJson ∧
      ofJson? ownJson = .ok
        { ownConfig with
          server := { host := "10.0.0.1", port := 7000, bodyLimit := 18446744073709551615 }
          elastic := { url := "http://127.0.0.1:9200", user := none, password := none, timeout := 10000 }
          node := { url := "http://node:8888", timeout := 10000 } } := by
  have edits : ownOmission.Edits ownConfig.toJson ownJson := by
    refine ⟨_, _, rfl, rfl, by decide +kernel, ?_⟩
    rintro entry present ⟨group, value⟩ source same
    cases same
    simp only [List.mem_cons, List.not_mem_nil, or_false] at present
    have found := (Ordered.get?_eq_some_iff ownConfig.distinct_members).mpr source
    rcases present with rfl | rfl | rfl | rfl | rfl
    · cases found
      exact ⟨rfl, _, _, rfl, rfl, by decide +kernel, by decide +kernel⟩
    · cases found
    · cases found
      exact ⟨rfl, _, _, rfl, rfl, by decide +kernel, by decide +kernel⟩
    · cases found
      exact ⟨rfl, _, _, rfl, rfl, by decide +kernel, by decide +kernel⟩
    · cases found
      exact ⟨rfl, _, _, rfl, rfl, by decide +kernel, by decide +kernel⟩
  exact ⟨edits, (ofJson?_edited ownConfig).2 ownOmission ownJson edits⟩

end Config

end TransferHistory
