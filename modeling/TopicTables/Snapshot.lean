import TopicTables.Json.Literal
import TopicTables.Service.Cluster

/-! # Snapshots of clusters

A snapshot describes a cluster as a JSON object: the schemas of the registry, the calls that fail,
and how the brokers present themselves. A member that is missing or null stands for nothing out of
the ordinary.
-/

namespace TopicTables.Snapshot

/-- How a snapshot words failures that are not answers of the registry. -/
structure FailureWords where
  /-- The kind of a failure that gives none. -/
  kind : String
  /-- The text of a failure of some kind, given its message. -/
  text : (kind message : String) → String

/-- A member of an object, unless it is null. -/
def given? (snapshot : Json) (key : String) : Option Json :=
  (snapshot.member? key).filter (· != .null)

/-- The text of a member, empty when it is missing. -/
def textOf (snapshot : Json) (key : String) : String :=
  ((given? snapshot key).map Json.text).getD ""

/-- The integer of a member, zero when it is none. -/
def integerOf (snapshot : Json) (key : String) : Int :=
  match snapshot.member? key with
  | some (.int n) => n
  | _ => 0

/-- A failure: a text alone, an answer of the registry with its status, or a kind with a message. -/
def failure (words : FailureWords) : Json → ServiceFailure
  | .str text => .other words.kind (words.text words.kind text)
  | value =>
    if (value.member? "status").isSome then
      .registry (textOf value "message") (integerOf value "status") (integerOf value "code")
    else
      let kind := ((value.member? "type").bind Json.string?).getD words.kind
      .other kind (words.text kind (textOf value "message"))

def failureOf (words : FailureWords) (snapshot : Json) (key : String) : Option ServiceFailure :=
  (given? snapshot key).map (failure words)

def items : Option Json → List Json
  | some (.arr values) => values
  | _ => []

def entry (words : FailureWords) (value : Json) : Entry where
  subject := textOf value "subject"
  definition := (value.member? "schema").getD .null
  encoding := (value.member? "schema_type").getD .null
  schemaId := (value.member? "id").getD .null
  version := (value.member? "version").getD .null
  registeredSubject := value.member? "registered_subject"
  omitted := (items (value.member? "omit")).filterMap Json.string?
  failure := failureOf words value "error"
  isAbsent := ((value.member? "none").map Json.isTruthy).getD false

def cluster (words : FailureWords) (snapshot : Json) : Cluster where
  entries := (items (snapshot.member? "schemas")).map (entry words)
  subjects := snapshot.member? "subjects"
  adminCreation := failureOf words snapshot "admin_create_error"
  adminConnection := failureOf words snapshot "admin_error"
  registryCreation := failureOf words snapshot "registry_create_error"
  registryAccess := failureOf words snapshot "registry_error"
  shutdown := failureOf words snapshot "shutdown_error"
  topics := (integerOf snapshot "topics").toNat
  liveServers := (given? snapshot "live_servers").bind Json.string?
  registryAbsent := ((snapshot.member? "registry_none").map Json.isTruthy).getD false

end TopicTables.Snapshot
