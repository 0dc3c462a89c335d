import TopicTables.Service.Basic
import TopicTables.Service.Cluster

/-! # Services within the process

Brokers and registry are objects that a host supplies. Here every call can fail on its own, also
those that network clients never fail in.
-/

namespace TopicTables.Services

/-- The latest schema that a supplied registry holds under a subject. -/
def localSchema (cluster : Cluster) (subject : String) :
    Except ServiceFailure (Option Descriptor) :=
  match cluster.registryAccess, cluster.entry? subject with
  | some failure, _ => .error failure
  | none, none => .ok none
  | none, some entry =>
    if entry.isAbsent then .ok none
    else
      match entry.failure with
      | some failure => .error failure
      | none => do
        let encoding ← Encoding.ofExact entry.encoding
        return some { subject, encoding, definition := entry.definition,
                      schemaId := entry.schemaId, version := entry.version }

/-- Services that a host supplies within the process; the registry lists its subjects as they are.
-/
def withinProcess (cluster : Cluster) : Services Json where
  makeBroker servers := .ofCall (.makeBroker servers) cluster.adminCreation
  startBroker number _ := .ofCall (.startBroker number) cluster.adminConnection
  shutdownBroker number _ := .ofCall (.shutdownBroker number) cluster.shutdown
  liveServers servers := cluster.liveServers.getD servers
  makeRegistry url := do
    .ofCall (.makeRegistry url) cluster.registryCreation
    return !cluster.registryAbsent
  listSubjects := do
    .ofCall .listSubjects cluster.registryAccess
    return cluster.listing
  latestSchema subject := ⟨localSchema cluster subject, [.call (.getSchema subject)]⟩
  depth := cluster.depth

end TopicTables.Services
