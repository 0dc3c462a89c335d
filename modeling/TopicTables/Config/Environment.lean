import TopicTables.Config.Basic
import TopicTables.Number.Numeral

/-! # Configuration from the environment

A setting that is not given, or given empty, is taken from its variable. The timeout comes from its
variable alone and falls back on the default when the variable holds no positive number.
-/

namespace TopicTables

/-- The variables that configure a catalog; an unset variable is `none`. -/
structure Environment where
  bootstrapServers : Option String := none
  registryUrl : Option String := none
  defaultDatabase : Option String := none
  adminTimeout : Option String := none
deriving DecidableEq, Repr

/-- Settings given by the caller; an empty one counts as not given. -/
structure GivenSettings where
  bootstrapServers : String := ""
  registryUrl : String := ""
  defaultDatabase : String := ""
deriving DecidableEq, Repr

namespace Environment

/-- The names of the variables. -/
def bootstrapVariable : String := "TOPICCAT_BOOTSTRAP_SERVERS"

def registryVariable : String := "TOPICCAT_SCHEMA_REGISTRY_URL"

def databaseVariable : String := "TOPICCAT_DEFAULT_DATABASE"

def timeoutVariable : String := "TOPICCAT_ADMIN_TIMEOUT"

/-- The environment in which variables have the values that a look-up gives. -/
def ofLookup (lookup : String → Option String) : Environment where
  bootstrapServers := lookup bootstrapVariable
  registryUrl := lookup registryVariable
  defaultDatabase := lookup databaseVariable
  adminTimeout := lookup timeoutVariable

end Environment

namespace Config

/-- The given value, or the fallback when it is empty. -/
def orElse (given fallback : String) : String :=
  if given.isEmpty then fallback else given

/-- The timeout that a text denotes: a positive number of seconds, or else the default. -/
def parseTimeout : Option String → Float
  | none => defaultTimeout
  | some raw =>
    match Number.readFloat? raw with
    | some seconds => if 0.0 < seconds then seconds else defaultTimeout
    | none => defaultTimeout

def fromEnvironment (catalogName : String) (given : GivenSettings) (env : Environment) :
    Except ConfigError Config :=
  make catalogName
    (orElse given.bootstrapServers (env.bootstrapServers.getD ""))
    (orElse given.registryUrl (env.registryUrl.getD ""))
    (orElse given.defaultDatabase (env.defaultDatabase.getD defaultDatabaseName))
    (parseTimeout env.adminTimeout)

end Config

end TopicTables
