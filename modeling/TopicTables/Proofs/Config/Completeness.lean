import TopicTables.Proofs.Config.Routes
import TopicTables.Proofs.Text.Stripping

/-! # Configurations that lack something

What is empty is found missing before the address of the registry is sanitized. So a configuration
lacks nothing but, at most, that address, and it does just where the address consists of slashes
between blanks: such an address is not empty when it is checked and is when it has been sanitized.
-/

namespace TopicTables

/-- Nothing that a catalog needs is empty. -/
structure Config.Complete (config : Config) : Prop where
  catalogName : config.catalogName ≠ ""
  bootstrapServers : config.bootstrapServers ≠ ""
  registryUrl : config.registryUrl ≠ ""
  defaultDatabase : config.defaultDatabase ≠ ""

/-- The text is nothing but slashes with blanks around them. -/
def IsBlankedSlashes (url : String) : Prop :=
  ∃ before slashes after : List Char, url.toList = before ++ (slashes ++ after) ∧
    (∀ c ∈ before, Text.isBlank c = true) ∧ (∀ c ∈ slashes, c = '/') ∧
      ∀ c ∈ after, Text.isBlank c = true

theorem sanitizeUrl_eq_empty_iff {url : String} :
    Config.sanitizeUrl url = "" ↔ IsBlankedSlashes url := by
  have left : Config.sanitizeUrl url = "" ↔ ∀ c ∈ Text.stripBlanks url.toList, c = '/' := by
    rw [Config.sanitizeUrl, String.ofList_eq_empty_iff, Text.dropEnd_eq_rdropWhile,
      List.rdropWhile_eq_nil_iff]
    simp only [beq_iff_eq]
  rw [left]
  constructor
  · intro slashes
    obtain ⟨before, after, split, ahead, behind⟩ := Text.exists_around_stripBlanks url.toList
    exact ⟨before, _, after, split, ahead, slashes, behind⟩
  · rintro ⟨before, slashes, after, split, ahead, only, behind⟩ c member
    rw [split, Text.stripBlanks_around ahead behind] at member
    exact only c (Text.mem_of_mem_stripBlanks member)

namespace ConfigRoute

variable {route : ConfigRoute} {config : Config}

theorem complete_iff_of_result (granted : route.result = .ok config) :
    config.Complete ↔ ¬ IsBlankedSlashes route.request.registryUrl := by
  obtain ⟨-, filled, rfl⟩ := result_eq_ok_iff.mp granted
  rw [← sanitizeUrl_eq_empty_iff]
  constructor
  · exact fun complete => complete.registryUrl
  · exact fun url => ⟨filled.catalogName, filled.bootstrapServers, url, filled.defaultDatabase⟩

/-- On every route a configuration has a name, brokers and a database, and it lacks the address of
the registry just where slashes between blanks were given for it. A route that can be called refuses
by what is wrong with the settings or the options. -/
theorem lacks_url_iff (route : ConfigRoute) :
    (∀ config, route.result = .ok config → config.catalogName ≠ "" ∧
      config.bootstrapServers ≠ "" ∧ config.defaultDatabase ≠ "" ∧
        (config.registryUrl = "" ↔ IsBlankedSlashes route.request.registryUrl)) ∧
    ((∃ config, route.result = .ok config ∧ ¬ config.Complete) ↔
      route.Admits ∧ route.request.Filled ∧ IsBlankedSlashes route.request.registryUrl) ∧
    (route.result = .error .badSettings ↔ ¬ route.Callable) := by
  refine ⟨?_, ?_, result_eq_badSettings_iff⟩
  · intro config granted
    obtain ⟨-, filled, rfl⟩ := result_eq_ok_iff.mp granted
    exact ⟨filled.catalogName, filled.bootstrapServers, filled.defaultDatabase,
      sanitizeUrl_eq_empty_iff⟩
  · constructor
    · rintro ⟨config, granted, incomplete⟩
      obtain ⟨admits, filled, -⟩ := result_eq_ok_iff.mp granted
      rw [complete_iff_of_result granted, not_not] at incomplete
      exact ⟨admits, filled, incomplete⟩
    · rintro ⟨admits, filled, slashes⟩
      have granted := result_eq_ok_iff.mpr ⟨admits, filled, rfl⟩
      refine ⟨route.request.config, granted, ?_⟩
      rw [complete_iff_of_result granted, not_not]
      exact slashes

/-- A lone slash passes for an address on every route, and none is left of it. -/
theorem lacks_url_of_slash :
    let lacking : Config := { catalogName := "kafka", bootstrapServers := "b:9092", registryUrl := "" }
    (settings [("catalog_name", some "kafka"), ("bootstrap_servers", some "b:9092"),
      ("schema_registry_url", some "/")] none).result = .ok lacking ∧
    (environment "kafka" { bootstrapServers := "b:9092", registryUrl := "/" } {}).result =
      .ok lacking ∧
    (options "kafka" [(Options.bootstrapKey, some "b:9092"),
      (Options.registryKey, some "/")]).result = .ok lacking ∧
    ¬ lacking.Complete :=
  ⟨by decide +kernel, by decide +kernel, by decide +kernel, fun complete => complete.registryUrl rfl⟩

end ConfigRoute

end TopicTables
