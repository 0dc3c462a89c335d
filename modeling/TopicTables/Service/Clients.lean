import TopicTables.Service.Basic
import TopicTables.Service.Cluster

/-! # Services over network clients

The brokers are reached through an admin client, which connects when it lists the topics; the
registry through its own client. What the clients answer is brought to the form that a session works
with.
-/

namespace TopicTables

def clientId : String := "topiccat-python"

structure BrokerSession where
  servers : String
  timeout : Float
  connected : Bool := false

namespace BrokerSession

/-- Create a client and list the topics, so that brokers that cannot be reached are noticed here. -/
def start (cluster : Cluster) (session : BrokerSession) : Reply BrokerSession := do
  .ofCall (.adminClient session.servers) cluster.adminCreation
  .ofCall (.listTopics session.timeout) cluster.adminConnection
  .ofLog .info ("Kafka admin connected to " ++ session.servers ++ " (" ++
    toString cluster.topics ++ " topics visible)")
  return { session with connected := true }

def shutdown (session : BrokerSession) : Reply BrokerSession :=
  if session.connected then do
    .ofLog .info ("Kafka admin for " ++ session.servers ++ " shut down")
    return { session with connected := false }
  else .ok session

end BrokerSession

namespace RegistryClient

/-- Create a client for an address, with further settings. A setting for the address itself wins. -/
def create (cluster : Cluster) (url : String) (settings : List (String × Json)) : Reply Unit :=
  .ofCall (.registryClient
    (settings.foldl (fun known m => Json.setMember m.1 m.2 known) [("url", .str url)]))
    cluster.registryCreation

/-- The texts of the subjects in a listing, which may be anything that can be gone through: a list, a
text by its characters or an object by its keys. A listing that counts as false is empty. -/
def subjectTexts (listing : Json) : Except ServiceFailure (List String) :=
  if !listing.isTruthy then .ok []
  else
    match listing with
    | .arr subjects => .ok (subjects.map Json.text)
    | .str text => .ok (text.toList.map String.singleton)
    | .obj members => .ok (members.map (·.1))
    | other => .error (.notIterable other)

def listSubjects (cluster : Cluster) : Reply (List String) := do
  .ofCall .getSubjects cluster.registryAccess
  .ofExcept (subjectTexts cluster.listing)

def latestVersion (cluster : Cluster) (subject : String) : Except ServiceFailure (Option Entry) :=
  match cluster.registryAccess, cluster.entry? subject with
  | some failure, _ => .error failure
  | none, none =>
    .error (.registry ("Subject '" ++ subject ++ "' not found.") 404 40401)
  | none, some entry =>
    match entry.failure with
    | some failure => .error failure
    | none => .ok (if entry.isAbsent then none else some entry)

/-- A part of an answer, null when it is left out. -/
def part (entry : Entry) (name : String) (value : Json) : Json :=
  if entry.omitted.contains name then .null else value

/-- The subject of an answer: the one it gives, or else the one asked for. -/
def answeredSubject (entry : Entry) (asked : String) : String :=
  let given := part entry "subject" (entry.registeredSubject.getD (.str asked))
  if given.isTruthy then given.text else asked

/-- The descriptor that an answer amounts to. -/
def descriptor (entry : Entry) (asked : String) : Except ServiceFailure Descriptor := do
  let encoding ← Encoding.ofAnyCase (part entry "schema_type" entry.encoding)
  return { subject := answeredSubject entry asked
           encoding
           definition := entry.definition
           schemaId := part entry "schema_id" entry.schemaId
           version := part entry "version" entry.version }

/-- The latest schema of a subject. A registry that does not find the subject has none; any other
failure stays a failure. -/
def latestSchema (cluster : Cluster) (subject : String) : Reply (Option Descriptor) :=
  ⟨match latestVersion cluster subject with
    | .ok none => .ok none
    | .ok (some entry) => (descriptor entry subject).map some
    | .error failure => if failure.isNotFound then .ok none else .error failure,
    [.call (.getLatestVersion subject)]⟩

end RegistryClient

/-- Services over clients of a cluster; the brokers get a number of seconds to answer. -/
def Services.overClients (cluster : Cluster) (timeout : Float) : Services (List String) where
  makeBroker _ := .ok ()
  startBroker _ servers := do
    let _ ← BrokerSession.start cluster { servers, timeout }
  shutdownBroker _ servers := do
    let _ ← BrokerSession.shutdown { servers, timeout, connected := true }
  liveServers servers := servers
  makeRegistry url := do
    RegistryClient.create cluster url []
    return true
  listSubjects := RegistryClient.listSubjects cluster
  latestSchema := RegistryClient.latestSchema cluster
  depth := cluster.depth

end TopicTables
