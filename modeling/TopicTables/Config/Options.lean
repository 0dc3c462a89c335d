import TopicTables.Config.Basic

/-! # Configuration from options

A host that registers catalogs by declaration passes a name and options. Options are checked in a
fixed order: those that are required, those that do not exist, the type of the catalog, and then the
configuration as such.
-/

namespace TopicTables

/-- Options by key; a key may stand without a value. -/
abbrev Options := List (String × Option String)

namespace Options

def bootstrapKey : String := "bootstrap.servers"

def registryKey : String := "schema-registry.url"

def databaseKey : String := "default-database"

/-- Hosts pass the type of the catalog along with its options. -/
def typeKey : String := "type"

/-- The options without which there is no catalog, in order. -/
def requiredKeys : List String := [bootstrapKey, registryKey]

/-- All options that exist. -/
def knownKeys : List String := [bootstrapKey, registryKey, databaseKey, typeKey]

def value? (options : Options) (key : String) : Option String :=
  (options.lookup key).join

/-- The text of an option, empty when it has none. -/
def text (options : Options) (key : String) : String :=
  (options.value? key).getD ""

def sorted (keys : List String) : List String :=
  keys.mergeSort fun a b => decide (a ≤ b)

def missingKeys (options : Options) : List String :=
  requiredKeys.filter fun key => (options.text key).isEmpty

/-- The options that do not exist, in order. -/
def unknownKeys (options : Options) : List String :=
  sorted ((options.map (·.1)).filter fun key => !knownKeys.contains key)

end Options

def Config.fromOptions (catalogName : String) (options : Options) : Except ConfigError Config :=
  if !options.missingKeys.isEmpty then .error (.missingOptions options.missingKeys)
  else if !options.unknownKeys.isEmpty then .error (.unsupportedOptions options.unknownKeys)
  else
    match (options.value? Options.typeKey).filter (· != catalogType) with
    | some given => .error (.otherCatalogType given)
    | none =>
      let database := options.text Options.databaseKey
      make catalogName (options.text Options.bootstrapKey) (options.text Options.registryKey)
        (if database.isEmpty then defaultDatabaseName else database) defaultTimeout

end TopicTables
