import TopicTables.Proofs.Config.Routes

/-! # Where the routes agree

The same texts may be given, stand in the variables of the environment or be handed over as options.
What is given and the options come down to the same request, in which an empty database is the one
that there is by default. The variables come down to it too unless the database is empty: a variable
that is set and empty does not count as unset. What is given and not empty decides its setting,
whatever the variables are.
-/

namespace TopicTables
open Results

/-! ## The same texts on three routes -/

namespace GivenSettings

/-- The variables that hold the texts; no other variable is set. -/
def asVariables (texts : GivenSettings) : Environment :=
  .ofLookup fun name =>
    [(Environment.bootstrapVariable, texts.bootstrapServers),
      (Environment.registryVariable, texts.registryUrl),
      (Environment.databaseVariable, texts.defaultDatabase)].lookup name

/-- The options that hold the texts; there is no other option. -/
def asOptions (texts : GivenSettings) : Options :=
  [(Options.bootstrapKey, some texts.bootstrapServers),
    (Options.registryKey, some texts.registryUrl),
    (Options.databaseKey, some texts.defaultDatabase)]

/-- What the texts ask for, with a database that takes the place of an empty one. -/
def request (texts : GivenSettings) (catalogName fallback : String) : ConfigRequest where
  catalogName := catalogName
  bootstrapServers := texts.bootstrapServers
  registryUrl := texts.registryUrl
  defaultDatabase := Config.orElse texts.defaultDatabase fallback
  adminTimeout := defaultTimeout

/-- Of a name and the texts, the database alone is empty. -/
structure OnlyDatabaseEmpty (texts : GivenSettings) (catalogName : String) : Prop where
  catalogName : catalogName ≠ ""
  bootstrapServers : texts.bootstrapServers ≠ ""
  registryUrl : texts.registryUrl ≠ ""
  defaultDatabase : texts.defaultDatabase = ""

end GivenSettings

namespace ConfigRoute

variable {catalogName : String} {texts : GivenSettings} {config : Config}

def byArguments (catalogName : String) (texts : GivenSettings) : ConfigRoute :=
  environment catalogName texts {}

def byVariables (catalogName : String) (texts : GivenSettings) : ConfigRoute :=
  environment catalogName {} texts.asVariables

def byOptions (catalogName : String) (texts : GivenSettings) : ConfigRoute :=
  options catalogName texts.asOptions

theorem request_byArguments :
    (byArguments catalogName texts).request = texts.request catalogName defaultDatabaseName := by
  simp [byArguments, request, GivenSettings.request, Config.orElse_empty, Config.parseTimeout]

theorem request_byOptions :
    (byOptions catalogName texts).request = texts.request catalogName defaultDatabaseName := rfl

theorem asVariables_eq (texts : GivenSettings) :
    texts.asVariables =
      { bootstrapServers := some texts.bootstrapServers, registryUrl := some texts.registryUrl,
        defaultDatabase := some texts.defaultDatabase } := rfl

theorem request_byVariables :
    (byVariables catalogName texts).request = texts.request catalogName "" := by
  rw [byVariables, asVariables_eq]
  simp [request, GivenSettings.request, Config.empty_orElse, Config.orElse_empty, Config.parseTimeout]

theorem admits_byOptions : (byOptions catalogName texts).Admits := by
  refine ⟨?_, ?_⟩
  · simp [GivenSettings.asOptions, Options.knownKeys]
  · intro type given
    cases given

/-! ## Agreement -/

/-- Routes that take what they are handed for the same request lead to the same configuration. -/
theorem agree_of_request {route route' : ConfigRoute} (admits : route.Admits)
    (admits' : route'.Admits) (same : route.request = route'.request) :
    Agree route.result route'.result := by
  intro config
  rw [result_eq_ok_iff, result_eq_ok_iff, same]
  simp only [admits, admits', true_and]

theorem agree_byOptions : Agree (byArguments catalogName texts).result
    (byOptions catalogName texts).result :=
  agree_of_request trivial admits_byOptions (request_byArguments.trans request_byOptions.symm)

theorem result_byVariables_of_onlyDatabaseEmpty (only : texts.OnlyDatabaseEmpty catalogName) :
    (byVariables catalogName texts).result = .error .emptyDatabase := by
  rw [byVariables, result_environment, ← byVariables, request_byVariables, GivenSettings.request,
    only.defaultDatabase]
  exact ConfigRequest.result_of_emptyDatabase only.catalogName only.bootstrapServers
    only.registryUrl rfl

theorem result_byArguments_of_onlyDatabaseEmpty (only : texts.OnlyDatabaseEmpty catalogName) :
    (byArguments catalogName texts).result =
      .ok { catalogName, bootstrapServers := texts.bootstrapServers,
            registryUrl := Config.sanitizeUrl texts.registryUrl } := by
  rw [result_eq_ok_iff, request_byArguments, GivenSettings.request, only.defaultDatabase,
    Config.empty_orElse]
  exact ⟨trivial, ⟨only.catalogName, only.bootstrapServers, only.registryUrl,
    by simp [defaultDatabaseName]⟩, rfl⟩

/-- Where something else is empty too, neither route leads to a configuration. -/
theorem agree_byVariables (other : ¬ texts.OnlyDatabaseEmpty catalogName) :
    Agree (byArguments catalogName texts).result (byVariables catalogName texts).result := by
  by_cases database : texts.defaultDatabase = ""
  · intro config
    rw [result_eq_ok_iff, result_eq_ok_iff, request_byArguments, request_byVariables]
    constructor
    · rintro ⟨-, filled, -⟩
      exact absurd ⟨filled.catalogName, filled.bootstrapServers, filled.registryUrl, database⟩ other
    · rintro ⟨-, filled, -⟩
      exact absurd ⟨filled.catalogName, filled.bootstrapServers, filled.registryUrl, database⟩ other
  · refine agree_of_request trivial trivial ?_
    simp only [request_byArguments, request_byVariables, GivenSettings.request,
      Config.orElse_of_ne_empty database]

end ConfigRoute

/-! ## What is given -/

/-- A setting that may be given or stand in a variable. -/
inductive Setting where
  | bootstrapServers
  | registryUrl
  | defaultDatabase

namespace Setting

def given : Setting → GivenSettings → String
  | bootstrapServers => (·.bootstrapServers)
  | registryUrl => (·.registryUrl)
  | defaultDatabase => (·.defaultDatabase)

def setVariable (value : Option String) (env : Environment) : Setting → Environment
  | bootstrapServers => { env with bootstrapServers := value }
  | registryUrl => { env with registryUrl := value }
  | defaultDatabase => { env with defaultDatabase := value }

def ofConfig : Setting → Config → String
  | bootstrapServers => (·.bootstrapServers)
  | registryUrl => (·.registryUrl)
  | defaultDatabase => (·.defaultDatabase)

/-- How a configuration has the text of the setting. -/
def kept : Setting → String → String
  | registryUrl => Config.sanitizeUrl
  | _ => id

variable {setting : Setting} {given : GivenSettings}

theorem request_setVariable (nonempty : setting.given given ≠ "") (catalogName : String)
    (env : Environment) (value : Option String) :
    (ConfigRoute.environment catalogName given (setting.setVariable value env)).request =
      (ConfigRoute.environment catalogName given env).request := by
  cases setting <;>
    simp only [Setting.given] at nonempty <;>
      simp only [ConfigRoute.request, setVariable, Config.orElse_of_ne_empty nonempty]

theorem ofConfig_request (nonempty : setting.given given ≠ "") (catalogName : String)
    (env : Environment) :
    setting.ofConfig (ConfigRoute.environment catalogName given env).request.config =
      setting.kept (setting.given given) := by
  cases setting <;>
    simp only [Setting.given] at nonempty <;>
      simp only [ConfigRoute.request, ConfigRequest.config, ofConfig, kept, Setting.given, id,
        Config.orElse_of_ne_empty nonempty]

/-- What is given and not empty decides its setting, whatever its variable is. -/
theorem given_decides (nonempty : setting.given given ≠ "") (catalogName : String)
    (env : Environment) :
    (∀ value, (ConfigRoute.environment catalogName given (setting.setVariable value env)).result =
      (ConfigRoute.environment catalogName given env).result) ∧
    ∀ config, (ConfigRoute.environment catalogName given env).result = .ok config →
      setting.ofConfig config = setting.kept (setting.given given) := by
  constructor
  · intro value
    rw [ConfigRoute.result_environment, request_setVariable nonempty,
      ConfigRoute.result_environment]
  · intro config granted
    obtain ⟨-, -, rfl⟩ := ConfigRoute.result_eq_ok_iff.mp granted
    exact ofConfig_request nonempty catalogName env

end Setting

namespace ConfigRoute

/-- The same texts lead to the same configuration, or to none, whether they are given, stand in the
variables or are options, but for one case: where the database alone is empty, what is given and the
options lead to a configuration with the default database, and the variables to none. No call is
wrong. What is given and not empty decides its setting, whatever its variable is. -/
theorem routes_agree_iff (catalogName : String) (texts : GivenSettings) :
    (∀ route ∈ [byArguments catalogName texts, byVariables catalogName texts,
      byOptions catalogName texts], route.result ≠ .error .badSettings) ∧
    Agree (byArguments catalogName texts).result (byOptions catalogName texts).result ∧
    (Agree (byArguments catalogName texts).result (byVariables catalogName texts).result ↔
      ¬ texts.OnlyDatabaseEmpty catalogName) ∧
    (texts.OnlyDatabaseEmpty catalogName →
      (byVariables catalogName texts).result = .error .emptyDatabase ∧
      (byArguments catalogName texts).result =
        .ok { catalogName, bootstrapServers := texts.bootstrapServers,
              registryUrl := Config.sanitizeUrl texts.registryUrl }) ∧
    ∀ (given : GivenSettings) (env : Environment) (setting : Setting),
      setting.given given ≠ "" →
        (∀ value, (environment catalogName given (setting.setVariable value env)).result =
          (environment catalogName given env).result) ∧
        ∀ config, (environment catalogName given env).result = .ok config →
          setting.ofConfig config = setting.kept (setting.given given) := by
  refine ⟨?_, agree_byOptions, ⟨?_, agree_byVariables⟩, ?_, ?_⟩
  · intro route listed
    rw [ne_eq, result_eq_badSettings_iff, not_not]
    simp only [List.mem_cons, List.not_mem_nil, or_false] at listed
    obtain rfl | rfl | rfl := listed <;> trivial
  · intro agree only
    have granted := (agree _).mp (result_byArguments_of_onlyDatabaseEmpty only)
    rw [result_byVariables_of_onlyDatabaseEmpty only] at granted
    cases granted
  · intro only
    exact ⟨result_byVariables_of_onlyDatabaseEmpty only,
      result_byArguments_of_onlyDatabaseEmpty only⟩
  · intro given env setting nonempty
    exact Setting.given_decides nonempty catalogName env

/-- An empty database is the default one where it is given or is an option, and is refused where it
stands in its variable. -/
theorem routes_disagree_on_empty_database :
    let texts : GivenSettings := { bootstrapServers := "b:9092", registryUrl := "http://r:8081" }
    let config : Config :=
      { catalogName := "kafka", bootstrapServers := "b:9092", registryUrl := "http://r:8081" }
    (byArguments "kafka" texts).result = .ok config ∧ (byOptions "kafka" texts).result = .ok config ∧
      (byVariables "kafka" texts).result = .error .emptyDatabase :=
  ⟨rfl, (agree_byOptions _).mp rfl, rfl⟩

end ConfigRoute

end TopicTables
