import TopicTables.Avro.TableColumns
import TopicTables.Config.Basic
import TopicTables.Service.Clients
import TopicTables.Table.Basic
import TopicTables.Catalog.Failure

/-! # Looking up a table without a history

What a look-up answers and which calls it makes can be told from the configuration, from which
handles are held and from the cluster as it is now. This answer is defined here without a session.
-/

namespace TopicTables

/-- How something ends and which calls it makes. -/
structure Response (α : Type) where
  result : Except Failure α
  calls : List Call

namespace Response

variable {α β : Type}

def andThen (first : Response β) (second : Response α) : Response α :=
  match first.result with
  | .error failure => ⟨.error failure, first.calls⟩
  | .ok _ => ⟨second.result, first.calls ++ second.calls⟩

/-- Nothing is done where nothing is missing. -/
def ifAbsent (held : Bool) (response : Response Unit) : Response Unit :=
  if held then ⟨.ok (), []⟩ else response

end Response

namespace Catalog

/-- Connecting brokers: a client is created and lists the topics. -/
def connecting (config : Config) (cluster : Cluster) : Response Unit :=
  let failed (cause : ServiceFailure) : Failure := .brokerFailed config.bootstrapServers cause
  match cluster.adminCreation, cluster.adminConnection with
  | some cause, _ => ⟨.error (failed cause), [.adminClient config.bootstrapServers]⟩
  | none, some cause =>
    ⟨.error (failed cause), [.adminClient config.bootstrapServers, .listTopics config.adminTimeout]⟩
  | none, none =>
    ⟨.ok (), [.adminClient config.bootstrapServers, .listTopics config.adminTimeout]⟩

/-- Making a registry: a client is created for its address and nothing else. -/
def registering (config : Config) (cluster : Cluster) : Response Unit :=
  ⟨match cluster.registryCreation with
    | some cause => .error (.registryFailed config.registryUrl cause)
    | none => .ok (),
    [.registryClient [("url", .str config.registryUrl)]]⟩

def opening (config : Config) (cluster : Cluster) (brokerHeld registryHeld : Bool) :
    Response Unit :=
  ((connecting config cluster).ifAbsent brokerHeld).andThen
    ((registering config cluster).ifAbsent registryHeld)

/-- The capitals of the encoding that an answer of the registry names; an answer that names none
means Avro. -/
def encodingWord (entry : Entry) : String :=
  let named := RegistryClient.part entry "schema_type" entry.encoding
  if named.isTruthy then Text.upperCase named.text else "AVRO"

def tableOf (config : Config) (topic : String) (columns : Columns) : Table where
  columns := columns
  options := [("connector", "kafka"), ("topic", topic),
    ("properties.bootstrap.servers", config.bootstrapServers)]

/-- What a schema that the registry holds comes to, with room for a number of levels. -/
def described (config : Config) (depth : Nat) (topic : String) (entry : Entry) :
    Except Failure Table :=
  if encodingWord entry = "AVRO" then
    match Avro.registeredColumns depth entry.definition with
    | .ok columns => .ok (tableOf config topic columns)
    | .error lack => .error (.noColumns lack)
  else if encodingWord entry = "JSON" ∨ encodingWord entry = "PROTOBUF" then
    .error (.noColumns .unsupportedEncoding)
  else .error (.schemaFailed (.unknownEncoding (.str (encodingWord entry))))

/-- What the answer of the registry to the one call comes to. -/
def judged (config : Config) (depth : Nat) (path : Path) :
    Except ServiceFailure (Option Entry) → Except Failure Table
  | .ok none => .error (.tableNotFound config.catalogName path)
  | .ok (some entry) => described config depth path.object entry
  | .error (.registry text status code) =>
    if status = 404 then .error (.tableNotFound config.catalogName path)
    else .error (.schemaFailed (.registry text status code))
  | .error cause => .error (.schemaFailed cause)

/-- Asking the registry once for the latest schema of the object. -/
def asking (config : Config) (cluster : Cluster) (path : Path) : Response Table :=
  ⟨judged config cluster.depth path (RegistryClient.latestVersion cluster path.object),
    [.getLatestVersion path.object]⟩

def lookedUp (config : Config) (cluster : Cluster) (brokerHeld registryHeld : Bool) (path : Path) :
    Response Table :=
  if path.database ≠ config.defaultDatabase ∨ path.object = "" then
    ⟨.error (.tableNotFound config.catalogName path), []⟩
  else
    ((opening config cluster brokerHeld registryHeld).ifAbsent registryHeld).andThen
      (asking config cluster path)

end Catalog

end TopicTables
