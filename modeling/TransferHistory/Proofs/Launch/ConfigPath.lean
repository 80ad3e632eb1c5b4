import TransferHistory.Launch.ConfigPath
import Mathlib.Data.List.Basic

/-!
# The choice of the settings file

Three are asked for the path of the settings file, in turn: the arguments, the variable and the default
path. Of the arguments the first `--config` decides alone. What stands right behind it is the path, also
where that is another `--config` or the empty text; where nothing stands behind it, the arguments say
nothing.

Results:
1. `ConfigPath.ofArguments?_append`: arguments other than `--config` are passed over.
2. `ConfigPath.ofArguments?_eq_none_iff`, `ConfigPath.ofArguments?_eq_some_iff`: the arguments that give
   no path, and those that give one.
3. `ConfigPath.resolve_of_chosen`, `ConfigPath.chosen_resolve`: one way to the path for each source.
4. `ConfigPath.resolve_eq_iff_chosen`: what decides about the path, and what does not.
-/

namespace TransferHistory.ConfigPath

variable {arguments : List String} {environment : Environment} {path : String}

/-! ## The arguments -/

/-- Arguments that give a path, right behind the first `--config` of theirs. -/
def Given (arguments : List String) (path : String) : Prop :=
  ∃ before rest, arguments = before ++ "--config" :: path :: rest ∧ "--config" ∉ before

/-- What stands behind `--config` is the path, whatever it is and whatever follows. -/
theorem ofArguments?_cons_cons (path : String) (rest : List String) :
    ofArguments? ("--config" :: path :: rest) = some path := by
  rw [ofArguments?, if_pos rfl]

/-- The last argument gives nothing, also where it is `--config`. -/
theorem ofArguments?_singleton (last : String) : ofArguments? [last] = none := rfl

theorem ofArguments?_cons_of_ne {argument : String} (other : argument ≠ "--config")
    (rest : List String) : ofArguments? (argument :: rest) = ofArguments? rest := by
  cases rest with
  | nil => rfl
  | cons next rest => rw [ofArguments?, if_neg other]

/-- Arguments before the first `--config` are passed over. -/
theorem ofArguments?_append {before : List String} (clear : "--config" ∉ before)
    (rest : List String) : ofArguments? (before ++ rest) = ofArguments? rest := by
  induction before with
  | nil => rfl
  | cons argument before ih =>
      obtain ⟨other, clear⟩ := List.ne_and_not_mem_of_not_mem_cons clear
      rw [List.cons_append, ofArguments?_cons_of_ne other.symm, ih clear]

theorem ofArguments?_of_given (given : Given arguments path) :
    ofArguments? arguments = some path := by
  obtain ⟨before, rest, rfl, first⟩ := given
  rw [ofArguments?_append first, ofArguments?_cons_cons]

/-- Arguments of which only the last may be `--config` give no path. -/
theorem ofArguments?_of_notMem_dropLast (silent : "--config" ∉ arguments.dropLast) :
    ofArguments? arguments = none := by
  obtain rfl | ⟨before, last, rfl⟩ := List.eq_nil_or_concat' arguments
  · rfl
  · rw [List.dropLast_concat] at silent
    rw [ofArguments?_append silent, ofArguments?_singleton]

/-- A `--config` that is not the last argument has a path behind it, and so has the first one. -/
theorem exists_given_of_mem_dropLast (asked : "--config" ∈ arguments.dropLast) :
    ∃ path, Given arguments path := by
  obtain rfl | ⟨front, last, rfl⟩ := List.eq_nil_or_concat' arguments
  · cases asked
  · rw [List.dropLast_concat] at asked
    obtain ⟨before, after, rfl, first⟩ := List.eq_append_cons_of_mem asked
    -- the last argument is the path itself where the first `--config` ends the front
    obtain ⟨path, rest, behind⟩ : ∃ path rest, after ++ [last] = path :: rest :=
      List.exists_cons_of_ne_nil (List.append_ne_nil_of_right_ne_nil after (List.cons_ne_nil last []))
    refine ⟨path, before, rest, ?_, first⟩
    rw [List.append_assoc, List.cons_append, behind]

/-- The arguments give no path exactly if none but the last of them is `--config`. -/
theorem ofArguments?_eq_none_iff :
    ofArguments? arguments = none ↔ "--config" ∉ arguments.dropLast := by
  refine ⟨fun missing asked => ?_, ofArguments?_of_notMem_dropLast⟩
  obtain ⟨path, given⟩ := exists_given_of_mem_dropLast asked
  rw [ofArguments?_of_given given] at missing
  cases missing

/-- The path of the arguments is the one that they give. -/
theorem ofArguments?_eq_some_iff : ofArguments? arguments = some path ↔ Given arguments path := by
  refine ⟨fun found => ?_, ofArguments?_of_given⟩
  by_cases asked : "--config" ∈ arguments.dropLast
  · obtain ⟨other, given⟩ := exists_given_of_mem_dropLast asked
    rw [ofArguments?_of_given given, Option.some_inj] at found
    exact found ▸ given
  · rw [ofArguments?_of_notMem_dropLast asked] at found
    cases found

/-! ## The variable -/

theorem ofEnvironment?_eq_some_iff :
    ofEnvironment? environment = some path ↔
      Ordered.get? "XFERHIST_CONFIG" environment = some path ∧ path ≠ "" := by
  rw [ofEnvironment?, Option.filter_eq_some_iff, decide_eq_true_iff]

theorem ofEnvironment?_eq_none_iff :
    ofEnvironment? environment = none ↔
      ∀ path, Ordered.get? "XFERHIST_CONFIG" environment = some path → path = "" := by
  simp only [ofEnvironment?, Option.filter_eq_none_iff, decide_eq_true_iff, ne_eq, not_not]

/-! ## The choice -/

/-- A path that is rightly chosen, with its source: there is one way for each of them. -/
inductive Chosen (arguments : List String) (environment : Environment) : ConfigPath → Prop
  /-- The arguments give it. -/
  | argument {path : String} (given : Given arguments path) :
      Chosen arguments environment ⟨path, .argument⟩
  /-- No argument but the last is `--config`, and the variable holds it. -/
  | environment {path : String} (silent : "--config" ∉ arguments.dropLast)
      (held : Ordered.get? "XFERHIST_CONFIG" environment = some path) (filled : path ≠ "") :
      Chosen arguments environment ⟨path, .environment⟩
  /-- No argument but the last is `--config`, and the variable is not there or empty. -/
  | standard (silent : "--config" ∉ arguments.dropLast)
      (blank : ∀ path, Ordered.get? "XFERHIST_CONFIG" environment = some path → path = "") :
      Chosen arguments environment ⟨"xferhist.toml", .standard⟩

/-- What the arguments give comes before all else. -/
theorem resolve_of_given (given : Given arguments path) :
    resolve arguments environment = ⟨path, .argument⟩ := by
  rw [resolve, ofArguments?_eq_some_iff.mpr given]

/-- Arguments that give no path are as good as none. -/
theorem resolve_of_notMem_dropLast (silent : "--config" ∉ arguments.dropLast) :
    resolve arguments environment = resolve [] environment := by
  rw [resolve, ofArguments?_eq_none_iff.mpr silent]
  rfl

theorem resolve_of_chosen {choice : ConfigPath} (chosen : Chosen arguments environment choice) :
    resolve arguments environment = choice := by
  cases chosen with
  | argument given => exact resolve_of_given given
  | environment silent held filled =>
      rw [resolve, ofArguments?_eq_none_iff.mpr silent,
        ofEnvironment?_eq_some_iff.mpr ⟨held, filled⟩]
  | standard silent blank =>
      rw [resolve, ofArguments?_eq_none_iff.mpr silent, ofEnvironment?_eq_none_iff.mpr blank]
      rfl

/-- There is always a path to choose, and the start chooses it. -/
theorem chosen_resolve (arguments : List String) (environment : Environment) :
    Chosen arguments environment (resolve arguments environment) := by
  suffices ∃ choice, Chosen arguments environment choice by
    obtain ⟨choice, chosen⟩ := this
    rwa [resolve_of_chosen chosen]
  cases found : ofArguments? arguments with
  | some path => exact ⟨_, .argument (ofArguments?_eq_some_iff.mp found)⟩
  | none =>
      have silent := ofArguments?_eq_none_iff.mp found
      cases held : ofEnvironment? environment with
      | some path =>
          obtain ⟨held, filled⟩ := ofEnvironment?_eq_some_iff.mp held
          exact ⟨_, .environment silent held filled⟩
      | none => exact ⟨_, .standard silent (ofEnvironment?_eq_none_iff.mp held)⟩

/-- The path is what stands right behind the first `--config` of the arguments, if anything does, else
what the variable holds unless that is the empty text, else the default path, and its source is the one
of the three that it comes from. No other argument has a say: neither what stands before the first
`--config`, nor what follows its path, nor, where nothing stands behind it, any argument at all. And
where the arguments give a path, the variable has no say. -/
theorem resolve_eq_iff_chosen (arguments : List String) (environment : Environment) :
    (∀ choice, resolve arguments environment = choice ↔ Chosen arguments environment choice) ∧
    (∀ before path rest, "--config" ∉ before →
      resolve (before ++ "--config" :: path :: rest) environment = resolve ["--config", path] []) ∧
    ("--config" ∉ arguments.dropLast →
      resolve arguments environment = resolve [] environment) := by
  refine ⟨fun choice => ⟨?_, resolve_of_chosen⟩, ?_, resolve_of_notMem_dropLast⟩
  · rintro rfl
    exact chosen_resolve arguments environment
  · intro before path rest first
    have crowded : Given (before ++ "--config" :: path :: rest) path := ⟨before, rest, rfl, first⟩
    have alone : Given ["--config", path] path := ⟨[], [], rfl, List.not_mem_nil⟩
    rw [resolve_of_given crowded, resolve_of_given alone]

/-- A variable that holds a path. -/
def variableSet : Environment :=
  [("XFERHIST_CONFIG", "etc/history.toml")]

/-- The path of a first `--config` is a second one, whatever stands around the two, or the empty text. A
`--config` at the end leaves the path to the variable, and an empty variable to the default. -/
theorem doubledOption_resolved :
    resolve (["-v"] ++ "--config" :: "--config" :: ["a.toml", "--config"]) variableSet =
      resolve ["--config", "--config"] [] ∧
    Chosen ["--config", "--config"] [] ⟨"--config", .argument⟩ ∧
    Chosen ["--config", "", "--config", "a.toml"] variableSet ⟨"", .argument⟩ ∧
    resolve ["-v", "--config"] variableSet = resolve [] variableSet ∧
    Chosen ["-v", "--config"] variableSet ⟨"etc/history.toml", .environment⟩ ∧
    Chosen ["-v", "--config"] [("XFERHIST_CONFIG", "")] ⟨"xferhist.toml", .standard⟩ := by
  have first : "--config" ∉ ["-v"] := by decide +kernel
  have silent : "--config" ∉ ["-v", "--config"].dropLast := by decide +kernel
  have chosen (arguments : List String) (environment : Environment) (choice : ConfigPath)
      (same : resolve arguments environment = choice) : Chosen arguments environment choice :=
    ((resolve_eq_iff_chosen arguments environment).1 choice).mp same
  obtain ⟨-, noSay, unheard⟩ := resolve_eq_iff_chosen ["-v", "--config"] variableSet
  refine ⟨noSay ["-v"] "--config" ["a.toml", "--config"] first, chosen _ _ _ ?_, chosen _ _ _ ?_,
    unheard silent, chosen _ _ _ ?_, chosen _ _ _ ?_⟩
  all_goals decide +kernel

end TransferHistory.ConfigPath
