import TopicTables.Text.Blank

/-! # Configuration of a catalog

A catalog is configured with its name, the brokers, the schema registry and the one database that it
shows. A configuration that lacks one of them is refused. The address of the registry is brought to
a form that paths can be appended to.
-/

namespace TopicTables

def defaultDatabaseName : String := "default"

/-- The seconds that brokers get to answer unless told otherwise. -/
def defaultTimeout : Float := 10.0

/-- What a catalog is made from. -/
structure Config where
  catalogName : String
  bootstrapServers : String
  registryUrl : String
  defaultDatabase : String := defaultDatabaseName
  /-- Seconds that the brokers get to answer when a session opens. -/
  adminTimeout : Float := defaultTimeout
deriving DecidableEq

/-- Why a configuration is refused. -/
inductive ConfigError where
  | missing (settings : List String)
  | emptyDatabase
  | missingOptions (keys : List String)
  | unsupportedOptions (keys : List String)
  | otherCatalogType (given : String)
  /-- A setting that has no default is not given, or one is given that does not exist. -/
  | badSettings
deriving DecidableEq, Repr

/-- The word by which hosts ask for a catalog of this kind. -/
def catalogType : String := "topiccat"

def ConfigError.message : ConfigError → String
  | missing settings => "Missing catalog configuration: " ++ ", ".intercalate settings ++ "."
  | emptyDatabase => "The default database name must not be empty."
  | missingOptions keys => "Missing required catalog options: " ++ ", ".intercalate keys ++ "."
  | unsupportedOptions keys => "Unsupported catalog options: " ++ ", ".intercalate keys ++ "."
  | otherCatalogType given =>
    "Catalog type '" ++ given ++ "' does not match '" ++ catalogType ++ "'."
  | badSettings => "The settings of the configuration do not fit."

namespace Config
open Text

/-- Strip blanks and then the slashes at the end. -/
def sanitizeUrl (url : String) : String :=
  String.ofList (dropEnd (· == '/') (stripBlanks url.toList))

/-- Make a configuration. The settings that must not be empty are checked before the address of the
registry is sanitized. -/
def make (catalogName bootstrapServers registryUrl defaultDatabase : String)
    (adminTimeout : Float) : Except ConfigError Config :=
  let required := [("catalog_name", catalogName), ("bootstrap_servers", bootstrapServers),
    ("schema_registry_url", registryUrl)]
  let absent := required.filter fun setting => setting.2.isEmpty
  if !absent.isEmpty then .error (.missing (absent.map (·.1)))
  else if defaultDatabase.isEmpty then .error .emptyDatabase
  else
    .ok { catalogName, bootstrapServers, defaultDatabase, adminTimeout,
          registryUrl := sanitizeUrl registryUrl }

/-- Make a configuration from named settings, of which those with a default may be left out. A
setting without a value counts as empty. -/
def ofSettings (settings : List (String × Option String)) (adminTimeout : Option Float) :
    Except ConfigError Config :=
  let required := ["catalog_name", "bootstrap_servers", "schema_registry_url"]
  let known := "default_database" :: required
  let value (key : String) : String := ((settings.lookup key).join).getD ""
  if !(required.all fun key => (settings.lookup key).isSome) ||
      !(settings.all fun setting => known.contains setting.1) then .error .badSettings
  else
    make (value "catalog_name") (value "bootstrap_servers") (value "schema_registry_url")
      (if (settings.lookup "default_database").isSome then value "default_database"
        else defaultDatabaseName)
      (adminTimeout.getD defaultTimeout)

end Config

end TopicTables
