import TopicTables.Proofs.Catalog.Opening
import TopicTables.Proofs.Session.Uses

/-! # Working in an open session

While both handles are held, no operation of a catalog over the clients of a cluster opens anything:
each leaves the session as it is, and the calls that it makes only ask the registry.
-/

namespace TopicTables

/-- The call asks the registry through its client. -/
def Call.isRequest : Call → Bool
  | .getSubjects => true
  | .getLatestVersion _ => true
  | _ => false

namespace Action

variable {α β : Type}

/-- In an open session the action leaves the session as it is and at most asks the registry. -/
def Asking (action : Action α) : Prop :=
  ∀ session, session.isOpen = true → (action.run session).session = session ∧
    ∀ call ∈ (action.run session).trace.calls, call.isRequest = true

theorem asking_bind {action : Action α} {next : α → Action β} (first : Asking action)
    (second : ∀ value, Asking (next value)) : Asking (action >>= next) := by
  intro session isOpen
  obtain ⟨same, asks⟩ := first session isOpen
  cases ended : (action.run session).result with
  | error failure =>
    rw [run_bind_of_error ended]
    exact ⟨same, asks⟩
  | ok value =>
    rw [run_bind_of_ok ended, same]
    obtain ⟨still, asksOn⟩ := second value session isOpen
    refine ⟨still, fun call called => ?_⟩
    rw [Trace.calls_append, List.mem_append] at called
    exact called.elim (asks call) (asksOn call)

theorem asking_of_quiet {action : Action α}
    (quiet : ∀ session, (action.run session).session = session ∧
      (action.run session).trace.calls = []) : Asking action := by
  intro session _
  obtain ⟨same, none⟩ := quiet session
  exact ⟨same, fun call called => by simp [none] at called⟩

theorem asking_pure (value : α) : Asking (pure value : Action α) :=
  asking_of_quiet fun _ => ⟨rfl, rfl⟩

theorem asking_fail (failure : Failure) : Asking (fail failure : Action α) :=
  asking_of_quiet fun _ => ⟨rfl, rfl⟩

theorem asking_read (view : Session → α) : Asking (read view) :=
  asking_of_quiet fun _ => ⟨rfl, rfl⟩

theorem asking_log (level : Level) (text : String) : Asking (log level text) :=
  asking_of_quiet fun _ => ⟨rfl, rfl⟩

theorem asking_ofExcept (result : Except Failure α) : Asking (ofExcept result) :=
  asking_of_quiet fun _ => ⟨rfl, rfl⟩

theorem asking_ofReply {reply : Reply α} (asFailure : ServiceFailure → Failure)
    (asks : ∀ call ∈ reply.trace.calls, call.isRequest = true) :
    Asking (ofReply asFailure reply) :=
  fun _ _ => ⟨rfl, asks⟩

end Action

namespace Catalog
open TopicTables.Action

variable {config : Config} {cluster : Cluster}

theorem asking_use {Listing : Type} (services : Services Listing) (handle : Session.Handle) :
    Asking (Session.use services handle) := by
  intro session isOpen
  obtain ⟨broker, registry⟩ := Bool.and_eq_true_iff.mp isOpen
  cases handle with
  | broker =>
    obtain ⟨number, held⟩ := Option.isSome_iff_exists.mp broker
    rw [Session.use, Session.useBroker_of_held held]
    exact ⟨rfl, by simp⟩
  | registry =>
    obtain ⟨number, held⟩ := Option.isSome_iff_exists.mp registry
    rw [Session.use, Session.useRegistry_of_held held]
    exact ⟨rfl, by simp⟩

theorem asking_listSubjects (asFailure : ServiceFailure → Failure) :
    Asking (ofReply asFailure (clients config cluster).listSubjects) := by
  have calls : (clients config cluster).listSubjects.trace.calls = [.getSubjects] := by
    cases access : cluster.registryAccess <;>
      simp [clients, Services.overClients, RegistryClient.listSubjects, Reply.ofCall,
        Reply.ofExcept, access]
  refine asking_ofReply asFailure fun call called => ?_
  rw [calls] at called
  cases List.mem_singleton.mp called
  rfl

theorem asking_latestSchema (asFailure : ServiceFailure → Failure) (subject : String) :
    Asking (ofReply asFailure ((clients config cluster).latestSchema subject)) := by
  refine asking_ofReply asFailure fun call called => ?_
  cases List.mem_singleton.mp called
  rfl

theorem asking_listTables (database : String) :
    Asking (listTables config (clients config cluster) database) := by
  unfold listTables
  split
  · exact asking_bind (asking_use _ .registry) fun _ => asking_listSubjects _
  · exact asking_fail _

theorem asking_tableExists (path : Path) :
    Asking (tableExists config (clients config cluster) path) := by
  unfold tableExists
  split
  · exact asking_bind (asking_use _ .registry) fun _ =>
      asking_bind (asking_latestSchema _ _) fun _ => asking_pure _
  · exact asking_pure _

theorem asking_getTable (path : Path) :
    Asking (getTable config (clients config cluster) path) := by
  unfold getTable
  split
  · refine asking_bind (asking_use _ .registry) fun _ =>
      asking_bind (asking_latestSchema _ _) fun found => ?_
    cases found with
    | none => exact asking_fail _
    | some descriptor =>
      have translates : Asking (columnsFor (clients config cluster) descriptor) :=
        asking_bind (asking_ofExcept _) fun _ => asking_bind (asking_log _ _) fun _ => asking_pure _
      exact asking_bind translates fun _ => asking_bind (asking_use _ .broker) fun _ =>
        asking_bind (asking_read _) fun _ => asking_pure _
  · exact asking_fail _

end Catalog

end TopicTables
