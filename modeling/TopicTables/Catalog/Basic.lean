import TopicTables.Config.Basic
import TopicTables.Session.Lifecycle
import TopicTables.Table.Basic

/-! # Catalogs

A catalog shows the subjects of a schema registry as the tables of one database. Nothing is kept
between operations but the session: each look-up asks the registry anew.
-/

namespace TopicTables

/-- The keys and values by which a connector finds the rows of a table. -/
def connectorKey : String := "connector"

def connectorKind : String := "kafka"

def topicKey : String := "topic"

def serversKey : String := "properties.bootstrap.servers"

namespace Catalog

variable {Listing : Type}

def newSession (config : Config) : Session where
  servers := config.bootstrapServers
  url := config.registryUrl

def creationTrace (config : Config) : Trace :=
  [.log .info ("Created topic catalog " ++ config.catalogName)]

def inScope (config : Config) (database : String) : Bool :=
  database == config.defaultDatabase

def listDatabases (config : Config) : List String :=
  [config.defaultDatabase]

def getDatabase (config : Config) (database : String) : Except Failure Database :=
  if inScope config database then .ok { name := database }
  else .error (.databaseNotFound config.catalogName database)

/-- The tables of a database: the subjects of the registry. -/
def listTables (config : Config) (services : Services Listing) (database : String) :
    Action Listing := do
  if inScope config database then
    let _ ← Session.useRegistry services
    Action.ofReply .subjectsFailed services.listSubjects
  else Action.fail (.databaseNotFound config.catalogName database)

/-- A table may be found at the path without asking the registry in vain. -/
def isResolvable (config : Config) (path : Path) : Bool :=
  inScope config path.database && !path.object.isEmpty

def tableExists (config : Config) (services : Services Listing) (path : Path) : Action Bool := do
  if isResolvable config path then
    let _ ← Session.useRegistry services
    let found ← Action.ofReply .subjectsFailed (services.latestSchema path.object)
    return found.isSome
  else return false

/-- The columns of a descriptor, with room for a number of levels in its definition. -/
def columnsOf (depth : Nat) (descriptor : Descriptor) : Except Avro.ColumnsError Columns :=
  match descriptor.encoding with
  | .avro => Avro.registeredColumns depth descriptor.definition
  | _ => .error .unsupportedEncoding

/-- The columns of a descriptor, with a message when there are some. -/
def columnsFor (services : Services Listing) (descriptor : Descriptor) : Action Columns := do
  let columns ← Action.ofExcept ((columnsOf services.depth descriptor).mapError .noColumns)
  Action.log .debug ("Translated subject " ++ descriptor.subject ++ " into " ++
    toString columns.length ++ " columns")
  return columns

/-- The table for a topic with some columns, over the servers of the broker session. -/
def assemble (services : Services Listing) (servers topic : String) (columns : Columns) :
    Table where
  columns := columns
  options := [(connectorKey, connectorKind), (topicKey, topic),
    (serversKey, services.liveServers servers)]

def getTable (config : Config) (services : Services Listing) (path : Path) : Action Table := do
  if isResolvable config path then
    let _ ← Session.useRegistry services
    match ← Action.ofReply .schemaFailed (services.latestSchema path.object) with
    | none => Action.fail (.tableNotFound config.catalogName path)
    | some descriptor =>
      let columns ← columnsFor services descriptor
      let _ ← Session.useBroker services
      let servers ← Action.read (·.servers)
      return assemble services servers path.object columns
  else Action.fail (.tableNotFound config.catalogName path)

/-- Do an operation outside the boundary, which answers without touching the session. -/
def refuse (config : Config) (operation : String) (refusal : Refusal) (arguments : List Argument) :
    Action Sentinel :=
  match Id.run (refusal.finish operation (pure config.catalogName) arguments) with
  | .answer sentinel => pure sentinel
  | .noReference => Action.fail .noReference
  | .unsupported operation catalog => do
    Action.log .debug (operation ++ " refused on catalog " ++ catalog)
    Action.fail (.unsupported operation catalog)
  | .functionNotFound catalog reference => do
    Action.log .debug (operation ++ " refused: no function " ++ reference.text)
    Action.fail (.functionNotFound catalog reference)

/-- Leave a catalog that was entered: a failure of leaving hides how the work within ended. -/
def leave {α : Type} (services : Services Listing) (within : Outcome α) : Outcome α :=
  let closed := (Session.close services).run within.session
  { result := match closed.result with
      | .error failure => .error failure
      | .ok () => within.result
    session := closed.session
    trace := within.trace ++ closed.trace }

end Catalog

end TopicTables
