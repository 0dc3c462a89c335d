import TopicTables.Proofs.Session.Invariant
import TopicTables.Proofs.Session.Uses
import TopicTables.Service.Local

/-! # Recording calls

Services may leave any trace of their calls, or none. Recorded services answer the same and leave
each call in the trace. Whatever is done over them ends as it does over the services themselves, in
the same session: what is shown with the calls recorded holds without.
-/

namespace TopicTables

variable {Listing α β : Type}

namespace Services

/-- The same answers; each call leaves itself in the trace, and nothing else. -/
def recorded (services : Services Listing) : Services Listing where
  makeBroker servers := ⟨(services.makeBroker servers).result, [.call (.makeBroker servers)]⟩
  startBroker number servers :=
    ⟨(services.startBroker number servers).result, [.call (.startBroker number)]⟩
  shutdownBroker number servers :=
    ⟨(services.shutdownBroker number servers).result, [.call (.shutdownBroker number)]⟩
  liveServers := services.liveServers
  makeRegistry url := ⟨(services.makeRegistry url).result, [.call (.makeRegistry url)]⟩
  listSubjects := ⟨services.listSubjects.result, [.call .listSubjects]⟩
  latestSchema subject := ⟨(services.latestSchema subject).result, [.call (.getSchema subject)]⟩
  depth := services.depth

/-- Services within the process record their calls themselves. -/
theorem recorded_withinProcess (cluster : Cluster) :
    (withinProcess cluster).recorded = withinProcess cluster := by
  cases creation : cluster.registryCreation <;> cases access : cluster.registryAccess <;>
    simp [recorded, withinProcess, Reply.ofCall, creation, access]

end Services

namespace Action

/-- Two actions end alike and leave the same session behind; their traces may differ. -/
def Alike (one other : Action α) : Prop :=
  ∀ session, (one.run session).result = (other.run session).result ∧
    (one.run session).session = (other.run session).session

theorem alike_refl (action : Action α) : Alike action action :=
  fun _ => ⟨rfl, rfl⟩

theorem alike_bind {one other : Action α} {next after : α → Action β} (first : Alike one other)
    (second : ∀ value, Alike (next value) (after value)) :
    Alike (one >>= next) (other >>= after) := by
  intro session
  obtain ⟨result, same⟩ := first session
  cases ended : (other.run session).result with
  | error failure =>
    rw [run_bind_of_error ended, run_bind_of_error (result.trans ended)]
    exact ⟨rfl, same⟩
  | ok value =>
    rw [run_bind_of_ok ended, run_bind_of_ok (result.trans ended), same]
    exact second value _

theorem alike_ofReply {one other : Reply α} (same : one.result = other.result)
    (asFailure : ServiceFailure → Failure) :
    Alike (ofReply asFailure one) (ofReply asFailure other) :=
  fun _ => ⟨by simp [same], rfl⟩

theorem alike_attempt {one other : Reply α} (same : one.result = other.result) :
    Alike (attempt one) (attempt other) :=
  fun _ => ⟨by simp [same], rfl⟩

end Action

namespace Session
open TopicTables.Action

variable {services : Services Listing}

theorem alike_openBroker : Alike (openBroker services.recorded) (openBroker services) := by
  refine alike_bind (alike_refl _) fun broker => ?_
  cases broker with
  | some number => exact alike_refl _
  | none =>
    refine alike_bind (alike_refl _) fun servers => ?_
    refine alike_bind (alike_ofReply rfl _) fun _ => ?_
    refine alike_bind (alike_refl _) fun made => ?_
    refine alike_bind (alike_refl _) fun _ => ?_
    exact alike_bind (alike_attempt rfl) fun _ => alike_refl _

theorem alike_openRegistry : Alike (openRegistry services.recorded) (openRegistry services) := by
  refine alike_bind (alike_refl _) fun registry => ?_
  cases registry with
  | some number => exact alike_refl _
  | none =>
    refine alike_bind (alike_refl _) fun url => ?_
    exact alike_bind (alike_attempt rfl) fun _ => alike_refl _

theorem alike_openMissing : Alike (openMissing services.recorded) (openMissing services) :=
  alike_bind alike_openBroker fun _ => alike_openRegistry

theorem alike_close : Alike (close services.recorded) (close services) := by
  refine alike_bind (alike_refl _) fun broker => ?_
  refine alike_bind (alike_refl _) fun _ => ?_
  cases broker with
  | none => exact alike_refl _
  | some number =>
    refine alike_bind (alike_refl _) fun servers => ?_
    exact alike_bind (alike_ofReply rfl _) fun _ => alike_refl _

theorem alike_openIfAbsent (seen : Option Nat) :
    Alike (openIfAbsent services.recorded seen) (openIfAbsent services seen) := by
  cases seen with
  | none => exact alike_openMissing
  | some number => exact alike_refl _

theorem alike_use (handle : Handle) :
    Alike (use services.recorded handle) (use services handle) := by
  rw [use_eq, use_eq]
  exact alike_bind (alike_refl _) fun seen => alike_bind (alike_openIfAbsent seen) fun _ =>
    alike_refl _

end Session

end TopicTables
