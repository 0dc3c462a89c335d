import Mathlib.Logic.Basic
import TopicTables.Config.Environment
import TopicTables.Config.Options
import TopicTables.Proofs.Results

/-! # The routes to a configuration

A configuration is asked for by naming its settings, with the variables of the environment behind
what is given, or by the options that a host passes. Each route comes down to the same request, which
is granted when the route admits what it was handed and nothing in the request is empty.
-/

namespace TopicTables

/-- What a configuration is to be made from. -/
structure ConfigRequest where
  catalogName : String
  bootstrapServers : String
  registryUrl : String
  defaultDatabase : String
  adminTimeout : Float

namespace ConfigRequest

structure Filled (request : ConfigRequest) : Prop where
  catalogName : request.catalogName ≠ ""
  bootstrapServers : request.bootstrapServers ≠ ""
  registryUrl : request.registryUrl ≠ ""
  defaultDatabase : request.defaultDatabase ≠ ""

def config (request : ConfigRequest) : Config where
  catalogName := request.catalogName
  bootstrapServers := request.bootstrapServers
  registryUrl := Config.sanitizeUrl request.registryUrl
  defaultDatabase := request.defaultDatabase
  adminTimeout := request.adminTimeout

end ConfigRequest

/-- A way in which a configuration is asked for. -/
inductive ConfigRoute where
  | settings (given : List (String × Option String)) (adminTimeout : Option Float)
  | environment (catalogName : String) (given : GivenSettings) (env : Environment)
  | options (catalogName : String) (options : Options)

namespace ConfigRoute

def result : ConfigRoute → Except ConfigError Config
  | settings given adminTimeout => Config.ofSettings given adminTimeout
  | environment catalogName given env => Config.fromEnvironment catalogName given env
  | options catalogName given => Config.fromOptions catalogName given

/-- The settings that have no default. -/
def requiredSettings : List String :=
  ["catalog_name", "bootstrap_servers", "schema_registry_url"]

/-- The settings are such as there are, and none that has no default is left out. -/
structure SettingsFit (given : List (String × Option String)) : Prop where
  required : ∀ key ∈ requiredSettings, (given.lookup key).isSome
  known : ∀ setting ∈ given, setting.1 ∈ "default_database" :: requiredSettings

/-- The options are such as there are, and the type of the catalog, where it is given, is this one. -/
structure OptionsFit (given : Options) : Prop where
  known : ∀ option ∈ given, option.1 ∈ Options.knownKeys
  type : ∀ type, given.value? Options.typeKey = some type → type = catalogType

/-- The route can be called with what it is handed. -/
def Callable : ConfigRoute → Prop
  | settings given _ => SettingsFit given
  | environment _ _ _ => True
  | options _ _ => True

/-- The route takes what it is handed for a request. -/
def Admits : ConfigRoute → Prop
  | settings given _ => SettingsFit given
  | environment _ _ _ => True
  | options _ given => OptionsFit given

/-- The text of a named setting, empty when it has none. -/
def settingText (given : List (String × Option String)) (key : String) : String :=
  (given.lookup key).join.getD ""

/-- What the route asks for. -/
def request : ConfigRoute → ConfigRequest
  | settings given adminTimeout =>
    { catalogName := settingText given "catalog_name"
      bootstrapServers := settingText given "bootstrap_servers"
      registryUrl := settingText given "schema_registry_url"
      defaultDatabase :=
        if (given.lookup "default_database").isSome then settingText given "default_database"
        else defaultDatabaseName
      adminTimeout := adminTimeout.getD defaultTimeout }
  | environment catalogName given env =>
    { catalogName
      bootstrapServers := Config.orElse given.bootstrapServers (env.bootstrapServers.getD "")
      registryUrl := Config.orElse given.registryUrl (env.registryUrl.getD "")
      defaultDatabase :=
        Config.orElse given.defaultDatabase (env.defaultDatabase.getD defaultDatabaseName)
      adminTimeout := Config.parseTimeout env.adminTimeout }
  | options catalogName given =>
    { catalogName
      bootstrapServers := given.text Options.bootstrapKey
      registryUrl := given.text Options.registryKey
      defaultDatabase := Config.orElse (given.text Options.databaseKey) defaultDatabaseName
      adminTimeout := defaultTimeout }

end ConfigRoute

/-! ## Falling back -/

namespace Config

theorem orElse_empty (text : String) : orElse text "" = text := by
  by_cases empty : text = ""
  · rw [empty]
    rfl
  · simp [orElse, empty]

theorem empty_orElse (fallback : String) : orElse "" fallback = fallback := rfl

theorem orElse_of_ne_empty {text : String} (nonempty : text ≠ "") (fallback : String) :
    orElse text fallback = text := by
  simp [orElse, nonempty]

theorem orElse_default_ne_empty (text : String) : orElse text defaultDatabaseName ≠ "" := by
  by_cases empty : text = ""
  · rw [empty, empty_orElse]
    decide
  · rwa [orElse_of_ne_empty empty]

end Config

/-! ## Granting a request -/

variable {config : Config}

namespace ConfigRequest

def result (request : ConfigRequest) : Except ConfigError Config :=
  Config.make request.catalogName request.bootstrapServers request.registryUrl
    request.defaultDatabase request.adminTimeout

theorem result_eq_ok_iff {request : ConfigRequest} :
    request.result = .ok config ↔ request.Filled ∧ request.config = config := by
  unfold result Config.make
  dsimp only
  split
  · rename_i absent
    simp only [reduceCtorEq, false_iff, not_and]
    rintro ⟨name, servers, url, -⟩
    simp [name, servers, url] at absent
  · rename_i present
    split
    · rename_i empty
      simp only [reduceCtorEq, false_iff, not_and]
      rintro ⟨-, -, -, database⟩
      simp [database] at empty
    · rename_i database
      simp only [Bool.not_eq_true', Bool.not_eq_false, List.isEmpty_iff, List.filter_eq_nil_iff,
        List.forall_mem_cons] at present
      have filled : request.Filled := by
        refine ⟨?_, ?_, ?_, ?_⟩
        all_goals simp_all
      simp only [filled, true_and, Except.ok.injEq]
      rfl

theorem result_ne_badSettings {request : ConfigRequest} :
    request.result ≠ .error .badSettings := by
  unfold result Config.make
  dsimp only
  split
  · exact fun same => nomatch same
  · split <;> exact fun same => nomatch same

/-- The name of the catalog is all that is found missing where the rest of what is required is there. -/
theorem result_of_nameless {request : ConfigRequest} (name : request.catalogName = "")
    (servers : request.bootstrapServers ≠ "") (url : request.registryUrl ≠ "") :
    request.result = .error (.missing ["catalog_name"]) := by
  simp [result, Config.make, name, servers, url]

theorem result_of_emptyDatabase {request : ConfigRequest} (name : request.catalogName ≠ "")
    (servers : request.bootstrapServers ≠ "") (url : request.registryUrl ≠ "")
    (database : request.defaultDatabase = "") : request.result = .error .emptyDatabase := by
  simp [result, Config.make, name, servers, url, database]

end ConfigRequest

/-! ## From the route to the request -/

namespace ConfigRoute

theorem settingsFit_iff {given : List (String × Option String)} :
    SettingsFit given ↔
      (requiredSettings.all fun key => (given.lookup key).isSome) = true ∧
        (given.all fun setting =>
          ("default_database" :: requiredSettings).contains setting.1) = true := by
  simp only [List.all_eq_true, List.contains_iff_mem]
  exact ⟨fun fit => ⟨fit.required, fit.known⟩, fun fit => ⟨fit.1, fit.2⟩⟩

theorem result_settings_of_fit {given : List (String × Option String)} {timeout : Option Float}
    (fit : SettingsFit given) :
    (settings given timeout).result = (settings given timeout).request.result := by
  obtain ⟨required, known⟩ := settingsFit_iff.mp fit
  unfold requiredSettings at required known
  simp only [result, Config.ofSettings, required, known]
  rfl

theorem result_settings_of_not_fit {given : List (String × Option String)} {timeout : Option Float}
    (misfit : ¬ SettingsFit given) :
    (settings given timeout).result = .error .badSettings := by
  rw [settingsFit_iff, not_and_or, Bool.not_eq_true, Bool.not_eq_true] at misfit
  unfold requiredSettings at misfit
  simp only [result, Config.ofSettings]
  rw [if_pos]
  rcases misfit with required | known
  · simp only [required, Bool.not_false, Bool.true_or]
  · simp only [known, Bool.not_false, Bool.or_true]

theorem result_environment (catalogName : String) (given : GivenSettings) (env : Environment) :
    (environment catalogName given env).result = (environment catalogName given env).request.result :=
  rfl

theorem unknownKeys_eq_nil_iff {given : Options} :
    given.unknownKeys = [] ↔ ∀ option ∈ given, option.1 ∈ Options.knownKeys := by
  rw [Options.unknownKeys, Options.sorted, ← List.length_eq_zero_iff, List.length_mergeSort,
    List.length_eq_zero_iff, List.filter_eq_nil_iff]
  simp

theorem missingKeys_eq_nil_iff {given : Options} :
    given.missingKeys = [] ↔
      given.text Options.bootstrapKey ≠ "" ∧ given.text Options.registryKey ≠ "" := by
  simp [Options.missingKeys, Options.requiredKeys, List.filter_eq_nil_iff]

theorem optionsFit_iff {given : Options} :
    OptionsFit given ↔ given.unknownKeys = [] ∧
      (given.value? Options.typeKey).filter (· != catalogType) = none := by
  rw [unknownKeys_eq_nil_iff, Option.filter_eq_none_iff]
  simp only [bne_iff_ne, ne_eq, not_not]
  exact ⟨fun fit => ⟨fit.known, fit.type⟩, fun fit => ⟨fit.1, fit.2⟩⟩

theorem result_options_eq_ok_iff {catalogName : String} {given : Options} :
    (options catalogName given).result = .ok config ↔
      OptionsFit given ∧ (options catalogName given).request.result = .ok config := by
  have database : (if (given.text Options.databaseKey).isEmpty then defaultDatabaseName
      else given.text Options.databaseKey) =
        Config.orElse (given.text Options.databaseKey) defaultDatabaseName := rfl
  simp only [result, Config.fromOptions, database]
  split
  · rename_i missing
    simp only [reduceCtorEq, false_iff, not_and, ConfigRequest.result_eq_ok_iff]
    rintro - ⟨-, servers, url, -⟩
    simp [missingKeys_eq_nil_iff.mpr ⟨servers, url⟩] at missing
  · rw [optionsFit_iff]
    split
    · rename_i unknown
      have unknown : given.unknownKeys ≠ [] := by simpa using unknown
      simp [unknown]
    · rename_i known
      have known : given.unknownKeys = [] := by simpa using known
      cases other : (given.value? Options.typeKey).filter (· != catalogType) with
      | some type => simp
      | none => simp only [known, true_and]; rfl

theorem result_options_ne_badSettings {catalogName : String} {given : Options} :
    (options catalogName given).result ≠ .error .badSettings := by
  simp only [result, Config.fromOptions]
  split
  · exact fun same => nomatch same
  · split
    · exact fun same => nomatch same
    · split
      · exact fun same => nomatch same
      · change (options catalogName given).request.result ≠ _
        exact ConfigRequest.result_ne_badSettings

/-! ## All routes -/

/-- A configuration is had just where the route admits what it was handed and the request is filled,
and then it is the one that is asked for. -/
theorem result_eq_ok_iff {route : ConfigRoute} :
    route.result = .ok config ↔
      route.Admits ∧ route.request.Filled ∧ route.request.config = config := by
  rw [← ConfigRequest.result_eq_ok_iff]
  cases route with
  | settings given timeout =>
    by_cases fit : SettingsFit given
    · rw [result_settings_of_fit fit]
      simp [Admits, fit]
    · rw [result_settings_of_not_fit fit]
      simp [Admits, fit]
  | environment catalogName given env => simp [Admits]; rfl
  | options catalogName given => exact result_options_eq_ok_iff

theorem result_eq_badSettings_iff {route : ConfigRoute} :
    route.result = .error .badSettings ↔ ¬ route.Callable := by
  cases route with
  | settings given timeout =>
    by_cases fit : SettingsFit given
    · rw [result_settings_of_fit fit]
      simp [Callable, fit, ConfigRequest.result_ne_badSettings]
    · rw [result_settings_of_not_fit fit]
      simp [Callable, fit]
  | environment catalogName given env =>
    simp [Callable, result_environment, ConfigRequest.result_ne_badSettings]
  | options catalogName given => simp [Callable, result_options_ne_badSettings]

end ConfigRoute

end TopicTables
