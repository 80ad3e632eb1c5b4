import TransferHistory.Config.Load
import TransferHistory.Proofs.Config.PrintedValues
import TransferHistory.Proofs.Config.TextSettings
import TransferHistory.Proofs.Config.Validation

/-!
# Texts from the environment

What a text setting is when its variable is set. The environment is the last layer, so it wins over any
settings file; only other variables for the same setting, or for its section as a whole, could stand in
the way. The setting is then the printed value of the variable, which is the value itself for a web
address and for a level, and otherwise exactly if it is written as it would be printed.

Results:
1. `Environment.layer_sets`: the layer of the environment sets what a variable stands for.
2. `Config.exists_tree_of_load`: the tree from which a configuration is loaded.
3. `Config.value_of_override`: what a text setting is whose variable is set.
4. `Config.leadingZeros_lost`: a chain name of digits does not keep its zeros.
-/

namespace TransferHistory

open Setting (Regular)

namespace TextSetting

/-- The variable for a setting. -/
def variableName : TextSetting → String
  | .host => "XFERHIST__SERVER__HOST"
  | .chain => "XFERHIST__SEARCH__CHAIN"
  | .elasticUrl => "XFERHIST__ELASTIC__URL"
  | .user => "XFERHIST__ELASTIC__USER"
  | .password => "XFERHIST__ELASTIC__PASSWORD"
  | .nodeUrl => "XFERHIST__CHAIN_RPC__URL"
  | .level => "XFERHIST__LOGGING__LEVEL"

/-- The place in the tree. -/
def place (setting : TextSetting) : Place :=
  ⟨setting.group, [.entry setting.key]⟩

/-- A variable that decides on a setting, be it through its section. -/
def decidedBy (setting : TextSetting) (name : String) : Bool :=
  (Environment.key? name).any fun key => (Place.ofKey key).decides setting.group setting.key

/-- The variable for a setting leads to its place. -/
theorem ofKey_variableName (setting : TextSetting) :
    (Environment.key? setting.variableName).map Place.ofKey = some setting.place := by
  cases setting <;> decide +kernel

end TextSetting

namespace Environment

/-- The environment gives a setting a value: its variable has that value, and no other variable decides
on the setting. -/
structure Gives (environment : Environment) (setting : TextSetting) (value : String) : Prop where
  present : (setting.variableName, value) ∈ environment
  alone : ∀ entry ∈ environment, setting.decidedBy entry.1 = true →
    entry = (setting.variableName, value)

theorem mem_layer_iff {environment : Environment} {entry : String × Setting} :
    entry ∈ environment.layer ↔
      ∃ name value, (name, value) ∈ environment ∧ key? name = some entry.1 ∧ setting value = entry.2 := by
  simp only [layer, List.mem_filterMap, Prod.exists, Option.map_eq_some_iff, Prod.ext_iff]
  constructor
  · rintro ⟨name, value, present, key, named, same, given⟩
    exact ⟨name, value, present, same ▸ named, given⟩
  · rintro ⟨name, value, present, named, given⟩
    exact ⟨name, value, present, entry.1, named, rfl, given⟩

theorem layer_sets {environment : Environment} {textSetting : TextSetting} {value : String}
    (gives : environment.Gives textSetting value) :
    environment.layer.Sets textSetting.group textSetting.key (setting value) := by
  obtain ⟨key, named, place⟩ := Option.map_eq_some_iff.mp textSetting.ofKey_variableName
  constructor
  · exact ⟨(key, setting value), mem_layer_iff.mpr ⟨_, _, gives.present, named, rfl⟩, place⟩
  · intro entry present decides
    obtain ⟨name, other, known, otherNamed, given⟩ := mem_layer_iff.mp present
    have decided : textSetting.decidedBy name = true := by
      rw [TextSetting.decidedBy, otherNamed]
      exact decides
    cases gives.alone _ known decided
    cases named.symm.trans otherNamed
    exact ⟨place, given.symm⟩

theorem Reads.isCompound {value text : String} {setting : Setting} (reads : Reads value setting text) :
    setting.isCompound = false := by
  cases reads <;> rfl

theorem Reads.isNull {value text : String} {setting : Setting} (reads : Reads value setting text) :
    Setting.lenient.isNull setting = false := by
  cases reads <;> rfl

end Environment

/-- A table or a list gives nothing to a text. -/
theorem Setting.isCompound_of_givesText {value : Setting} {given : Option String}
    (gives : value.GivesText given) : value.isCompound = false := by
  cases value with
  | table entries =>
      rcases gives with null | ⟨text, read, -⟩
      · cases null
      · cases read
  | list items =>
      rcases gives with null | ⟨text, read, -⟩
      · cases null
      · cases read
  | _ => rfl

namespace Config

/-- A configuration is loaded from a tree over which the environment was laid last. -/
theorem exists_tree_of_load {file : Option ConfigFile} {environment : Environment} {config : Config}
    (loaded : load file environment = .ok config) :
    ∃ entries, Regular entries ∧
      Setting.lenient.config (.table (Setting.layOver entries environment.layer)) = .ok config ∧
      config.Valid := by
  obtain ⟨whole, built, loaded⟩ := bind_eq_ok_iff.mp loaded
  obtain ⟨read, taken, checks⟩ := bind_eq_ok_iff.mp loaded
  have layers : ∃ entries, Regular entries ∧
      whole = .table (Setting.layOver entries environment.layer) := by
    unfold tree at built
    split at built
    · cases built
      exact ⟨[], Regular.nil, rfl⟩
    · split at built
      · rename_i layer _
        cases built
        exact ⟨Setting.layOver [] layer, Regular.nil.layOver layer, rfl⟩
      · cases built
  obtain ⟨entries, regular, rfl⟩ := layers
  unfold ofTree at taken
  split at taken
  · rename_i found
    cases taken
    unfold checked at checks
    split at checks
    · rename_i valid
      cases checks
      exact ⟨entries, regular, found, validate_eq_ok_iff.mp valid⟩
    · cases checks
  · cases taken

/-- A text setting is the printed value of its variable, whatever is in the file and whatever else is in
the environment. -/
theorem value_of_load {file : Option ConfigFile} {environment : Environment} {config : Config}
    (loaded : load file environment = .ok config) {setting : TextSetting} {value : String}
    (gives : environment.Gives setting value) :
    setting.value config = some (Environment.printed value) := by
  obtain ⟨entries, regular, read, -⟩ := exists_tree_of_load loaded
  have reads := Environment.reads_setting value
  obtain ⟨found, held, kind⟩ :=
    Setting.stands_layOver reads.isCompound (Environment.layer_sets gives) entries
  have given := setting.givesText (regular.layOver _) read held
  -- no variable stands for nothing, and no table or list gives a text
  rcases kind with rfl | compound
  · rcases given with null | ⟨text, printed, same⟩
    · rw [reads.isNull] at null
      cases null
    · cases reads.toText.symm.trans printed
      exact same
  · rw [Setting.isCompound_of_givesText given] at compound
    cases compound

/-- The settings that validation takes only if no number or truth value is printed like them. -/
def plainTexts : List TextSetting :=
  [.elasticUrl, .nodeUrl, .level]

theorem printed_eq_of_mem_plainTexts {config : Config} (valid : config.Valid) {setting : TextSetting}
    (plain : setting ∈ plainTexts) {value : String}
    (given : setting.value config = some (Environment.printed value)) :
    Environment.printed value = value := by
  simp only [plainTexts, List.mem_cons, List.not_mem_nil, or_false] at plain
  rcases plain with rfl | rfl | rfl
  · obtain ⟨url, read⟩ := valid.elasticUrl
    rw [Option.some.inj given] at read
    exact Environment.printed_eq_of_url read
  · obtain ⟨url, read⟩ := valid.nodeUrl
    rw [Option.some.inj given] at read
    exact Environment.printed_eq_of_url read
  · have level := valid.level
    rw [Option.some.inj given] at level
    exact Environment.printed_eq_of_level level

/-- Where loading goes well, a text setting whose variable is set is the printed value of the variable,
whatever is in the file and whatever else is in the environment. It is the value as it was written
exactly if that is how it would be printed; for web addresses and for the level it always is. -/
theorem value_of_override {file : Option ConfigFile} {environment : Environment} {config : Config}
    (loaded : load file environment = .ok config) {setting : TextSetting} {value : String}
    (gives : environment.Gives setting value) :
    setting.value config = some (Environment.printed value) ∧
      (setting.value config = some value ↔ Environment.Verbatim value) ∧
      (setting ∈ plainTexts → setting.value config = some value) := by
  obtain ⟨-, -, -, valid⟩ := exists_tree_of_load loaded
  have given := value_of_load loaded gives
  refine ⟨given, ?_, fun plain => ?_⟩
  · rw [given, Option.some.injEq]
    exact Environment.printed_eq_iff
  · rw [given, printed_eq_of_mem_plainTexts valid plain given]

/-- A settings file that names a chain. -/
def waxFile : ConfigFile :=
  ⟨"xferhist.toml", some "[search]\nchain = \"wax\"\nmax_results = 250\n"⟩

/-- An environment with a chain name that reads as a number. -/
def numeralEnvironment : Environment :=
  [("HOME", "/root"), ("XFERHIST__SEARCH__CHAIN", "1e3"), ("XFERHIST__SEARCH__MAX_RESULTS", "40")]

theorem waxFile_overridden :
    load (some waxFile) numeralEnvironment =
        .ok { search := { chain := "1000", maxResults := 40 } } ∧
      numeralEnvironment.Gives .chain "1e3" ∧ Environment.printed "1e3" = "1000" ∧
      ¬ Environment.Verbatim "1e3" := by
  have loaded : load (some waxFile) numeralEnvironment =
      .ok { search := { chain := "1000", maxResults := 40 } } := by decide +kernel
  have gives : numeralEnvironment.Gives .chain "1e3" :=
    ⟨by decide +kernel, by decide +kernel⟩
  obtain ⟨given, verbatim, -⟩ := value_of_override loaded gives
  refine ⟨loaded, gives, (Option.some.inj given).symm, fun written => ?_⟩
  exact absurd (verbatim.mpr written) (by decide +kernel)

/-- An environment with a chain name of digits. -/
def digitEnvironment : Environment :=
  [("XFERHIST__SEARCH__CHAIN", "007")]

/-- A chain name of digits loses the zeros in front, so another chain is searched. -/
theorem leadingZeros_lost :
    digitEnvironment.Gives .chain "007" ∧
      load none digitEnvironment = .ok { search := { chain := "7" } } ∧
      ¬ ∀ config, load none digitEnvironment = .ok config → TextSetting.value config .chain = some "007" := by
  have loaded : load none digitEnvironment = .ok { search := { chain := "7" } } := by decide +kernel
  refine ⟨⟨by decide +kernel, by decide +kernel⟩, loaded, fun verbatim => ?_⟩
  exact absurd (verbatim _ loaded) (by decide +kernel)

end Config

end TransferHistory
