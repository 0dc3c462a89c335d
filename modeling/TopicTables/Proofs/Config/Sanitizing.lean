import TopicTables.Proofs.Config.Routes
import TopicTables.Proofs.Text.Stripping

/-! # What sanitizing an address comes to

Sanitizing strips the blanks at both ends and then, once, the slashes at the end. What is left never
begins with a blank nor ends with a slash, but a blank in front of the slashes is then at the end and
stays. Where there is none, sanitizing has come to a normal form, which it leaves as it is.
-/

namespace TopicTables
open Text

/-- The text has no blank at an end and no slash at its end. -/
structure IsNormalUrl (url : String) : Prop where
  ahead : ∀ c ∈ url.toList.head?, isBlank c = false
  behind : ∀ c ∈ url.toList.getLast?, isBlank c = false
  slash : ∀ c ∈ url.toList.getLast?, c ≠ '/'

/-- Blanks apart, the text begins with something else and ends with slashes behind a blank. -/
def EndsBehindBlank (url : String) : Prop :=
  ∃ (kept slashes after : List Char) (blank : Char),
    url.toList = kept ++ (blank :: slashes ++ after) ∧ (∃ c ∈ kept, isBlank c = false) ∧
      isBlank blank = true ∧ slashes ≠ [] ∧ (∀ c ∈ slashes, c = '/') ∧
        ∀ c ∈ after, isBlank c = true

/-! ## What is deleted and what is left -/

variable {url : String}

theorem toList_sanitizeUrl (url : String) :
    (Config.sanitizeUrl url).toList = dropEnd (· == '/') (stripBlanks url.toList) := by
  rw [Config.sanitizeUrl, String.toList_ofList]

/-- Slashes are all that is deleted of what the stripping of blanks leaves. -/
theorem exists_slashes_behind (url : String) :
    ∃ slashes : List Char, stripBlanks url.toList = (Config.sanitizeUrl url).toList ++ slashes ∧
      ∀ c ∈ slashes, c = '/' := by
  obtain ⟨slashes, cut, only⟩ := exists_behind_dropEnd (· == '/') (stripBlanks url.toList)
  refine ⟨slashes, ?_, fun c member => by simpa using only c member⟩
  rw [toList_sanitizeUrl]
  exact cut

/-- Blanks are deleted in front, and slashes with blanks behind them at the end. -/
theorem exists_around_sanitizeUrl (url : String) :
    ∃ before slashes after : List Char,
      url.toList = before ++ ((Config.sanitizeUrl url).toList ++ slashes ++ after) ∧
        (∀ c ∈ before, isBlank c = true) ∧ (∀ c ∈ slashes, c = '/') ∧
          ∀ c ∈ after, isBlank c = true := by
  obtain ⟨before, after, split, ahead, behind⟩ := exists_around_stripBlanks url.toList
  obtain ⟨slashes, cut, only⟩ := exists_slashes_behind url
  refine ⟨before, slashes, after, ?_, ahead, only, behind⟩
  rw [← cut]
  exact split

theorem head?_sanitizeUrl : ∀ c ∈ (Config.sanitizeUrl url).toList.head?, isBlank c = false := by
  intro c first
  rw [toList_sanitizeUrl] at first
  exact head?_stripBlanks c (head?_dropEnd first)

theorem getLast?_sanitizeUrl : ∀ c ∈ (Config.sanitizeUrl url).toList.getLast?, c ≠ '/' := by
  intro c last
  rw [toList_sanitizeUrl] at last
  simpa using getLast?_dropEnd c last

/-! ## The normal form -/

/-- Sanitizing leaves just those addresses as they are that are in normal form. -/
theorem sanitizeUrl_eq_self_iff : Config.sanitizeUrl url = url ↔ IsNormalUrl url := by
  constructor
  · intro same
    have whole : dropEnd (· == '/') (stripBlanks url.toList) = url.toList := by
      rw [← toList_sanitizeUrl, same]
    have undeleted : stripBlanks url.toList = url.toList := by
      refine (sublist_stripBlanks _).antisymm ?_
      conv_lhs => rw [← whole]
      exact (List.rdropWhile_prefix _ _).sublist
    refine ⟨?_, (stripBlanks_eq_self_iff.mp undeleted).2, ?_⟩
    · rw [← same]
      exact head?_sanitizeUrl
    · rw [← same]
      exact getLast?_sanitizeUrl
  · rintro ⟨ahead, behind, slash⟩
    rw [← String.toList_inj, toList_sanitizeUrl, stripBlanks_eq_self_iff.mpr ⟨ahead, behind⟩]
    exact dropEnd_eq_self_iff.mpr fun c last => by simpa using slash c last

theorem endsBehindBlank_of_getLast? {blank : Char}
    (last : blank ∈ (Config.sanitizeUrl url).toList.getLast?) (spaced : isBlank blank = true) :
    EndsBehindBlank url := by
  obtain ⟨before, after, split, -, behind⟩ := exists_around_stripBlanks url.toList
  obtain ⟨slashes, cut, only⟩ := exists_slashes_behind url
  obtain ⟨kept, left⟩ := List.getLast?_eq_some_iff.mp last
  rw [left, List.append_assoc, List.singleton_append] at cut
  have unblankHead := @head?_stripBlanks url.toList
  have unblankLast := @getLast?_stripBlanks url.toList
  rw [cut] at unblankHead unblankLast split
  refine ⟨before ++ kept, slashes, after, blank, ?_, ?_, spaced, ?_, only, behind⟩
  · simpa using split
  · cases kept with
    | nil => simp [spaced] at unblankHead
    | cons first rest => exact ⟨first, by simp, unblankHead first rfl⟩
  · rintro rfl
    simp [spaced] at unblankLast

theorem getLast?_of_endsBehindBlank (ends : EndsBehindBlank url) :
    ∃ blank ∈ (Config.sanitizeUrl url).toList.getLast?, isBlank blank = true := by
  obtain ⟨kept, slashes, after, blank, split, unblank, spaced, some, only, behind⟩ := ends
  have slashed : ∀ c ∈ (kept.dropWhile isBlank ++ [blank] ++ slashes).getLast?,
      isBlank c = false := by
    intro c last
    rw [List.getLast?_append_of_ne_nil _ some] at last
    rw [only c (List.mem_of_getLast? last)]
    rfl
  have unslashed : ¬ (blank == '/') = true := by
    rw [beq_iff_eq]
    rintro rfl
    cases spaced
  have left : (Config.sanitizeUrl url).toList = kept.dropWhile isBlank ++ [blank] :=
    calc (Config.sanitizeUrl url).toList
      _ = dropEnd (· == '/') (dropEnd isBlank
            (kept.dropWhile isBlank ++ [blank] ++ slashes ++ after)) := by
        rw [toList_sanitizeUrl, split, stripBlanks_append_of_unblank unblank]
        simp
      _ = dropEnd (· == '/') (kept.dropWhile isBlank ++ [blank] ++ slashes) := by
        rw [dropEnd_append_of_forall behind, dropEnd_eq_self_iff.mpr slashed]
      _ = dropEnd (· == '/') (kept.dropWhile isBlank ++ [blank]) :=
        dropEnd_append_of_forall fun c member => by simpa using only c member
      _ = kept.dropWhile isBlank ++ [blank] :=
        List.rdropWhile_concat_neg _ _ _ unslashed
  exact ⟨blank, by simp [left], spaced⟩

/-- What is left of an address is in normal form unless slashes at its end were behind a blank. -/
theorem isNormalUrl_sanitizeUrl_iff :
    IsNormalUrl (Config.sanitizeUrl url) ↔ ¬ EndsBehindBlank url := by
  constructor
  · intro normal ends
    obtain ⟨blank, last, spaced⟩ := getLast?_of_endsBehindBlank ends
    simp [normal.behind blank last] at spaced
  · intro clear
    refine ⟨head?_sanitizeUrl, ?_, getLast?_sanitizeUrl⟩
    intro c last
    by_contra blank
    exact clear (endsBehindBlank_of_getLast? last (by simpa using blank))

/-! ## Making a configuration again -/

namespace ConfigRoute

/-- All settings of a configuration are given for another. -/
def again (config : Config) : ConfigRoute :=
  settings [("catalog_name", some config.catalogName),
    ("bootstrap_servers", some config.bootstrapServers),
    ("schema_registry_url", some config.registryUrl),
    ("default_database", some config.defaultDatabase)] (some config.adminTimeout)

variable {config : Config}

theorem result_again_eq_ok_iff :
    (again config).result = .ok config ↔
      (config.catalogName ≠ "" ∧ config.bootstrapServers ≠ "" ∧ config.registryUrl ≠ "" ∧
        config.defaultDatabase ≠ "") ∧ IsNormalUrl config.registryUrl := by
  have fits : (again config).Admits := settingsFit_iff.mpr ⟨rfl, rfl⟩
  have asked : (again config).request = ⟨config.catalogName, config.bootstrapServers,
    config.registryUrl, config.defaultDatabase, config.adminTimeout⟩ := rfl
  rw [result_eq_ok_iff, asked, ← sanitizeUrl_eq_self_iff]
  constructor
  · rintro ⟨-, filled, same⟩
    have settled := congrArg Config.registryUrl same
    exact ⟨⟨filled.catalogName, filled.bootstrapServers, filled.registryUrl,
      filled.defaultDatabase⟩, settled⟩
  · rintro ⟨⟨name, servers, url, database⟩, same⟩
    refine ⟨fits, ⟨name, servers, url, database⟩, ?_⟩
    rw [ConfigRequest.config, same]

/-- Of any address, sanitizing deletes blanks in front, and slashes with blanks behind them at the
end; what it leaves begins with no blank and ends with no slash. It has come to a normal form, and
leaves that as it is, unless the slashes were behind a blank. A configuration made again from its own
settings is the same one just where its address is not empty and has come to a normal form. -/
theorem sanitizeUrl_settles_iff (url : String) (route : ConfigRoute) :
    ((∃ before slashes after : List Char,
        url.toList = before ++ ((Config.sanitizeUrl url).toList ++ slashes ++ after) ∧
          (∀ c ∈ before, isBlank c = true) ∧ (∀ c ∈ slashes, c = '/') ∧
            ∀ c ∈ after, isBlank c = true) ∧
      (∀ c ∈ (Config.sanitizeUrl url).toList.head?, isBlank c = false) ∧
      (∀ c ∈ (Config.sanitizeUrl url).toList.getLast?, c ≠ '/') ∧
      (IsNormalUrl (Config.sanitizeUrl url) ↔ ¬ EndsBehindBlank url) ∧
      (Config.sanitizeUrl (Config.sanitizeUrl url) = Config.sanitizeUrl url ↔
        ¬ EndsBehindBlank url)) ∧
    ∀ config : Config, route.result = .ok config →
      ((again config).result = .ok config ↔
        config.registryUrl ≠ "" ∧ ¬ EndsBehindBlank route.request.registryUrl) := by
  constructor
  · exact ⟨exists_around_sanitizeUrl url, head?_sanitizeUrl, getLast?_sanitizeUrl,
      isNormalUrl_sanitizeUrl_iff, sanitizeUrl_eq_self_iff.trans isNormalUrl_sanitizeUrl_iff⟩
  · intro config granted
    obtain ⟨-, filled, rfl⟩ := result_eq_ok_iff.mp granted
    have settled : IsNormalUrl route.request.config.registryUrl ↔
        ¬ EndsBehindBlank route.request.registryUrl := isNormalUrl_sanitizeUrl_iff
    rw [result_again_eq_ok_iff, settled]
    constructor
    · rintro ⟨⟨-, -, url, -⟩, clear⟩
      exact ⟨url, clear⟩
    · rintro ⟨url, clear⟩
      exact ⟨⟨filled.catalogName, filled.bootstrapServers, url, filled.defaultDatabase⟩, clear⟩

/-- A blank in front of the last slash stays at the end of the address, and is deleted only where the
address is sanitized once more. -/
theorem sanitizeUrl_leaves_blank :
    let blanked : Config :=
      { catalogName := "kafka", bootstrapServers := "b:9092", registryUrl := "http://r:8081 " }
    Config.sanitizeUrl "http://r:8081 /" = "http://r:8081 " ∧
    Config.sanitizeUrl (Config.sanitizeUrl "http://r:8081 /") = "http://r:8081" ∧
    (environment "kafka" { bootstrapServers := "b:9092", registryUrl := "http://r:8081 /" } {}).result =
      .ok blanked ∧
    (again blanked).result = .ok { blanked with registryUrl := "http://r:8081" } :=
  ⟨by decide +kernel, by decide +kernel, by decide +kernel, by decide +kernel⟩

end ConfigRoute

end TopicTables
