import TopicTables.Json.Reader
import TopicTables.Service.Descriptor

/-! # Clusters

A cluster is the outside world as far as a catalog can see it: what the brokers and the schema
registry answer, which of their calls fail, and how much room there is for reading the answers.
-/

namespace TopicTables

/-- What a registry holds under a subject. -/
structure Entry where
  subject : String
  definition : Json := .null
  encoding : Json := .null
  schemaId : Json := .null
  version : Json := .null
  /-- The subject that the registry writes into its answer, where it differs from the one asked for.
  -/
  registeredSubject : Option Json := none
  /-- Parts that the answer leaves out. -/
  omitted : List String := []
  /-- The failure that the subject is answered with. -/
  failure : Option ServiceFailure := none
  /-- The registry answers with nothing. -/
  isAbsent : Bool := false

/-- What brokers and registry answer, and which calls fail. -/
structure Cluster where
  entries : List Entry := []
  /-- The listing of subjects, where it is not that of the entries. -/
  subjects : Option Json := none
  adminCreation : Option ServiceFailure := none
  adminConnection : Option ServiceFailure := none
  registryCreation : Option ServiceFailure := none
  registryAccess : Option ServiceFailure := none
  shutdown : Option ServiceFailure := none
  /-- The number of topics that the brokers show. -/
  topics : Nat := 0
  /-- The servers that a live broker session reports, where they are not those it was made for. -/
  liveServers : Option String := none
  /-- No registry is handed out. -/
  registryAbsent : Bool := false
  /-- The number of levels that there is room for when a definition is read: the deeper in other work
  it is read, the fewer. -/
  depth : Nat := Json.usualDepth

namespace Cluster

/-- The entry of a subject: the last one wins. -/
def entry? (cluster : Cluster) (subject : String) : Option Entry :=
  cluster.entries.reverse.find? fun entry => entry.subject == subject

/-- Drop later repetitions. -/
def distinct : List String → List String
  | [] => []
  | s :: rest => s :: (distinct rest).filter (· != s)

/-- The subjects of the entries, each once, in the order of their first entries. -/
def entrySubjects (cluster : Cluster) : List String :=
  distinct (cluster.entries.map (·.subject))

/-- The listing of subjects as the registry answers it. -/
def listing (cluster : Cluster) : Json :=
  cluster.subjects.getD (.arr (cluster.entrySubjects.map .str))

end Cluster

end TopicTables
