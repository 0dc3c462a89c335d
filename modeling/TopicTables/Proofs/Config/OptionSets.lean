import Mathlib.Data.List.Sort
import TopicTables.Proofs.Config.Routes
import TopicTables.Proofs.Text.Ordered

/-! # Which options make a configuration

Options are told here by what they hold under their keys, whatever order they stand in. They make a
configuration just where they hold what is required, hold nothing that does not exist and no other
type of catalog, and the name is not empty. Otherwise the first of these checks that fails is
reported, with the sorted keys at fault.
-/

namespace TopicTables
open Text

/-- Options with their texts, no key twice. -/
structure OptionMap where
  entries : List (String × String)
  nodup : (entries.map Prod.fst).Nodup

namespace OptionMap

def options (given : OptionMap) : Options :=
  given.entries.map fun entry => (entry.1, some entry.2)

def Holds (given : OptionMap) (key text : String) : Prop :=
  (key, text) ∈ given.entries

end OptionMap

/-! ## What options have to hold -/

namespace Options

/-- A text that is not empty is held under the key. -/
def Fills (holds : String → String → Prop) (key : String) : Prop :=
  ∃ text, holds key text ∧ text ≠ ""

/-- The options hold what is required and nothing that may not be held. -/
structure Fit (holds : String → String → Prop) : Prop where
  required : ∀ key ∈ requiredKeys, Fills holds key
  known : ∀ key text, holds key text → key ∈ knownKeys
  type : ∀ type, holds typeKey type → type = catalogType

/-- The configuration has the name and what the options hold. -/
structure Give (holds : String → String → Prop) (catalogName : String) (config : Config) :
    Prop where
  catalogName : config.catalogName = catalogName
  bootstrapServers : holds bootstrapKey config.bootstrapServers
  registryUrl : ∃ url, holds registryKey url ∧ config.registryUrl = Config.sanitizeUrl url
  /-- An empty database counts as none. -/
  defaultDatabase : (holds databaseKey config.defaultDatabase ∧ config.defaultDatabase ≠ "") ∨
    (¬ Fills holds databaseKey ∧ config.defaultDatabase = defaultDatabaseName)
  adminTimeout : config.adminTimeout = defaultTimeout

/-- The error reports the first check that fails. -/
inductive FirstFault (holds : String → String → Prop) (catalogName : String) : ConfigError → Prop
  | missing {keys : List String} :
    Lists (fun key => key ∈ requiredKeys ∧ ¬ Fills holds key) keys →
      FirstFault holds catalogName (.missingOptions keys)
  | unknown {keys : List String} (required : ∀ key ∈ requiredKeys, Fills holds key) :
    Lists (fun key => (∃ text, holds key text) ∧ key ∉ knownKeys) keys →
      FirstFault holds catalogName (.unsupportedOptions keys)
  | type {type : String} (required : ∀ key ∈ requiredKeys, Fills holds key)
      (known : ∀ key text, holds key text → key ∈ knownKeys) :
    holds typeKey type → type ≠ catalogType →
      FirstFault holds catalogName (.otherCatalogType type)
  | name (fit : Fit holds) : catalogName = "" →
      FirstFault holds catalogName (.missing ["catalog_name"])

end Options

/-! ## Reading the options -/

namespace OptionMap

variable {given : OptionMap} {key text : String}

theorem lookup_eq_some_iff_mem {entries : List (String × String)}
    (nodup : (entries.map Prod.fst).Nodup) :
    entries.lookup key = some text ↔ (key, text) ∈ entries := by
  constructor
  · intro found
    obtain ⟨before, after, split, -⟩ := List.lookup_eq_some_iff.mp found
    simp [split]
  · intro member
    cases found : entries.lookup key with
    | none => simpa using List.lookup_eq_none_iff.mp found _ member
    | some other =>
      obtain ⟨before, after, split, -⟩ := List.lookup_eq_some_iff.mp found
      have there : (key, other) ∈ entries := by simp [split]
      cases List.inj_on_of_nodup_map nodup member there rfl
      rfl

theorem value?_options (given : OptionMap) (key : String) :
    given.options.value? key = given.entries.lookup key := by
  rw [Options.value?, options]
  induction given.entries with
  | nil => rfl
  | cons entry rest ih =>
    rw [List.map_cons, List.lookup_cons, List.lookup_cons]
    split
    · rfl
    · exact ih

theorem value?_eq_some_iff : given.options.value? key = some text ↔ given.Holds key text := by
  rw [value?_options, lookup_eq_some_iff_mem given.nodup, Holds]

theorem text_ne_empty_iff :
    given.options.text key ≠ "" ↔ Options.Fills given.Holds key := by
  simp only [Options.Fills, ← value?_eq_some_iff, Options.text]
  cases given.options.value? key <;> simp

theorem holds_text (filled : Options.Fills given.Holds key) :
    given.Holds key (given.options.text key) := by
  obtain ⟨text, holds, -⟩ := filled
  rw [Options.text, value?_eq_some_iff.mpr holds]
  exact holds

theorem mem_missingKeys_iff : key ∈ given.options.missingKeys ↔
    key ∈ Options.requiredKeys ∧ ¬ Options.Fills given.Holds key := by
  rw [Options.missingKeys, List.mem_filter, ← text_ne_empty_iff]
  simp

theorem sorted_missingKeys : given.options.missingKeys.Pairwise (· < ·) :=
  List.Pairwise.filter _ (by decide)

theorem mem_unknownKeys_iff : key ∈ given.options.unknownKeys ↔
    (∃ text, given.Holds key text) ∧ key ∉ Options.knownKeys := by
  simp [Options.unknownKeys, Options.sorted, options, Holds]

theorem sorted_unknownKeys : given.options.unknownKeys.Pairwise (· < ·) := by
  have nodup : given.options.unknownKeys.Nodup := by
    rw [Options.unknownKeys, Options.sorted, (List.mergeSort_perm ..).nodup_iff]
    refine List.Nodup.filter _ ?_
    rw [options, List.map_map]
    exact given.nodup
  have sorted : given.options.unknownKeys.Pairwise (· ≤ ·) := List.pairwise_mergeSort' (· ≤ ·) _
  exact (sorted.and nodup).imp fun both => Std.lt_of_le_of_ne both.1 both.2

/-! ## What comes of the options -/

open Options

variable {catalogName : String} {config : Config} {error : ConfigError} {keys : List String}

theorem missingKeys_eq_nil_iff :
    given.options.missingKeys = [] ↔ ∀ key ∈ requiredKeys, Fills given.Holds key := by
  simp only [List.eq_nil_iff_forall_not_mem, mem_missingKeys_iff, not_and, not_not]

theorem unknownKeys_eq_nil_iff :
    given.options.unknownKeys = [] ↔ ∀ key text, given.Holds key text → key ∈ knownKeys := by
  simp only [List.eq_nil_iff_forall_not_mem, mem_unknownKeys_iff, not_and, not_not,
    forall_exists_index]

theorem missingKeys_eq_iff (some : keys ≠ []) :
    given.options.missingKeys = keys ↔
      Lists (fun key => key ∈ requiredKeys ∧ ¬ Fills given.Holds key) keys :=
  eq_iff_lists sorted_missingKeys (fun _ => mem_missingKeys_iff) some

theorem unknownKeys_eq_iff (some : keys ≠ []) :
    given.options.unknownKeys = keys ↔
      Lists (fun key => (∃ text, given.Holds key text) ∧ key ∉ knownKeys) keys :=
  eq_iff_lists sorted_unknownKeys (fun _ => mem_unknownKeys_iff) some

/-- Options that fit come down to their request. -/
theorem fromOptions_of_fit (fit : Fit given.Holds) :
    Config.fromOptions catalogName given.options =
      (ConfigRoute.options catalogName given.options).request.result := by
  have type : (given.options.value? typeKey).filter (· != catalogType) = none := by
    rw [Option.filter_eq_none_iff]
    intro type given
    simpa using fit.type type (value?_eq_some_iff.mp given)
  rw [Config.fromOptions, missingKeys_eq_nil_iff.mpr fit.required,
    unknownKeys_eq_nil_iff.mpr fit.known, type]
  rfl

theorem holds_iff_text (filled : Fills given.Holds key) :
    given.Holds key text ↔ given.options.text key = text := by
  constructor
  · intro holds
    rw [Options.text, value?_eq_some_iff.mpr holds]
    rfl
  · rintro rfl
    exact holds_text filled

theorem database_iff {database : String} :
    (given.Holds databaseKey database ∧ database ≠ "") ∨
        (¬ Fills given.Holds databaseKey ∧ database = defaultDatabaseName) ↔
      Config.orElse (given.options.text databaseKey) defaultDatabaseName = database := by
  by_cases filled : Fills given.Holds databaseKey
  · have nonempty := text_ne_empty_iff.mpr filled
    rw [Config.orElse_of_ne_empty nonempty, ← holds_iff_text filled]
    constructor
    · rintro (⟨holds, -⟩ | ⟨unfilled, -⟩)
      · exact holds
      · exact absurd filled unfilled
    · intro holds
      refine .inl ⟨holds, ?_⟩
      rwa [← (holds_iff_text filled).mp holds]
  · have empty : given.options.text databaseKey = "" := by
      rwa [← text_ne_empty_iff, not_not] at filled
    rw [empty, Config.empty_orElse]
    constructor
    · rintro (⟨holds, nonempty⟩ | ⟨-, same⟩)
      · exact absurd ⟨_, holds, nonempty⟩ filled
      · exact same.symm
    · exact fun same => .inr ⟨filled, same.symm⟩

/-- A configuration that the options give is the one that they ask for. -/
theorem give_iff (required : ∀ key ∈ requiredKeys, Fills given.Holds key) :
    Give given.Holds catalogName config ↔
      (ConfigRoute.options catalogName given.options).request.config = config := by
  have servers : Fills given.Holds bootstrapKey := required _ (by decide)
  have url : Fills given.Holds registryKey := required _ (by decide)
  obtain ⟨name, brokers, address, database, timeout⟩ := config
  simp only [ConfigRoute.request, ConfigRequest.config, Config.mk.injEq]
  constructor
  · rintro ⟨named, holds, ⟨given, held, sanitized⟩, base, seconds⟩
    refine ⟨named.symm, (holds_iff_text servers).mp holds, ?_, database_iff.mp base, seconds.symm⟩
    rw [(holds_iff_text url).mp held]
    exact sanitized.symm
  · rintro ⟨named, holds, sanitized, base, seconds⟩
    exact ⟨named.symm, (holds_iff_text servers).mpr holds, ⟨_, holds_text url, sanitized.symm⟩,
      database_iff.mpr base, seconds.symm⟩

theorem fromOptions_of_named (fit : Fit given.Holds) (named : catalogName ≠ "") :
    Config.fromOptions catalogName given.options =
      .ok (ConfigRoute.options catalogName given.options).request.config := by
  rw [fromOptions_of_fit fit, ConfigRequest.result_eq_ok_iff]
  exact ⟨⟨named, text_ne_empty_iff.mpr (fit.required _ (by decide)),
    text_ne_empty_iff.mpr (fit.required _ (by decide)), Config.orElse_default_ne_empty _⟩, rfl⟩

theorem fromOptions_of_firstFault (fault : FirstFault given.Holds catalogName error) :
    Config.fromOptions catalogName given.options = .error error := by
  cases fault with
  | missing fault =>
    rw [Config.fromOptions, (missingKeys_eq_iff fault.some).mpr fault]
    simp [fault.some]
  | unknown required fault =>
    rw [Config.fromOptions, missingKeys_eq_nil_iff.mpr required,
      (unknownKeys_eq_iff fault.some).mpr fault]
    simp [fault.some]
  | type required known holds other =>
    rename_i type
    have kept : (some type).filter (· != catalogType) = some type := by simp [Option.filter, other]
    rw [Config.fromOptions, missingKeys_eq_nil_iff.mpr required,
      unknownKeys_eq_nil_iff.mpr known, value?_eq_some_iff.mpr holds, kept]
    rfl
  | name fit nameless =>
    rw [fromOptions_of_fit fit]
    exact ConfigRequest.result_of_nameless nameless
      (text_ne_empty_iff.mpr (fit.required _ (by decide)))
      (text_ne_empty_iff.mpr (fit.required _ (by decide)))

theorem firstFault_or_fit (given : OptionMap) (catalogName : String) :
    (∃ error, FirstFault given.Holds catalogName error) ∨ (Fit given.Holds ∧ catalogName ≠ "") := by
  by_cases missing : given.options.missingKeys = []
  · rw [missingKeys_eq_nil_iff] at missing
    by_cases unknown : given.options.unknownKeys = []
    · rw [unknownKeys_eq_nil_iff] at unknown
      by_cases type : ∀ type, given.Holds typeKey type → type = catalogType
      · by_cases named : catalogName = ""
        · exact .inl ⟨_, .name ⟨missing, unknown, type⟩ named⟩
        · exact .inr ⟨⟨missing, unknown, type⟩, named⟩
      · push Not at type
        obtain ⟨type, holds, other⟩ := type
        exact .inl ⟨_, .type missing unknown holds other⟩
    · exact .inl ⟨_, .unknown missing ((unknownKeys_eq_iff unknown).mp rfl)⟩
  · exact .inl ⟨_, .missing ((missingKeys_eq_iff missing).mp rfl)⟩

theorem fromOptions_eq_error_iff :
    Config.fromOptions catalogName given.options = .error error ↔
      FirstFault given.Holds catalogName error := by
  constructor
  · intro failed
    obtain ⟨first, fault⟩ | ⟨fit, named⟩ := firstFault_or_fit given catalogName
    · rw [fromOptions_of_firstFault fault] at failed
      cases failed
      exact fault
    · rw [fromOptions_of_named fit named] at failed
      cases failed
  · exact fromOptions_of_firstFault

theorem fromOptions_eq_ok_iff :
    Config.fromOptions catalogName given.options = .ok config ↔
      (Fit given.Holds ∧ catalogName ≠ "") ∧ Give given.Holds catalogName config := by
  constructor
  · intro made
    obtain ⟨error, fault⟩ | ⟨fit, named⟩ := firstFault_or_fit given catalogName
    · rw [fromOptions_of_firstFault fault] at made
      cases made
    · rw [fromOptions_of_named fit named] at made
      exact ⟨⟨fit, named⟩, (give_iff fit.required).mpr (Except.ok.inj made)⟩
  · rintro ⟨⟨fit, named⟩, gives⟩
    rw [fromOptions_of_named fit named, (give_iff fit.required).mp gives]

/-- What comes of options does not depend on more than what they hold. -/
theorem fromOptions_congr {other : OptionMap} (same : other.Holds = given.Holds)
    (catalogName : String) :
    Config.fromOptions catalogName other.options =
      Config.fromOptions catalogName given.options := by
  cases made : Config.fromOptions catalogName given.options with
  | error error => rwa [fromOptions_eq_error_iff, same, ← fromOptions_eq_error_iff]
  | ok config => rwa [fromOptions_eq_ok_iff, same, ← fromOptions_eq_ok_iff]

theorem holds_of_perm {other : OptionMap} (perm : other.entries.Perm given.entries) :
    other.Holds = given.Holds := by
  funext key text
  exact propext perm.mem_iff

/-- Whatever order they stand in, options make a configuration just where they hold what is required
and nothing that may not be held and the name is not empty, and it has what they hold. Otherwise the
error reports the first check that fails, with all keys at fault in order. -/
theorem fromOptions_verdict (given : OptionMap) (catalogName : String) :
    (∀ config, Config.fromOptions catalogName given.options = .ok config ↔
      (Fit given.Holds ∧ catalogName ≠ "") ∧ Give given.Holds catalogName config) ∧
    ((∃ config, Config.fromOptions catalogName given.options = .ok config) ↔
      Fit given.Holds ∧ catalogName ≠ "") ∧
    (∀ error, Config.fromOptions catalogName given.options = .error error ↔
      FirstFault given.Holds catalogName error) ∧
    ∀ other : OptionMap, other.entries.Perm given.entries →
      Config.fromOptions catalogName other.options =
        Config.fromOptions catalogName given.options := by
  refine ⟨fun config => fromOptions_eq_ok_iff, ⟨?_, ?_⟩, fun error => fromOptions_eq_error_iff, ?_⟩
  · rintro ⟨config, made⟩
    exact (fromOptions_eq_ok_iff.mp made).1
  · rintro ⟨fit, named⟩
    exact ⟨_, fromOptions_of_named fit named⟩
  · intro other perm
    exact fromOptions_congr (holds_of_perm perm) catalogName

/-- A required option is missing and two do not exist: what is missing is reported. -/
example :
    Config.fromOptions "" [("user", some "u"), ("schema-registry.url", some "http://r:8081"),
      ("password", some "p")] = .error (.missingOptions ["bootstrap.servers"]) := rfl

end OptionMap

end TopicTables
