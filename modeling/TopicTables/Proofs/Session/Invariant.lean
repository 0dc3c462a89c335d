import TopicTables.Proofs.Session.Opening

/-! # Properties of sessions that actions keep

A property is kept by an action when it holds behind the action wherever it held before, however the
action ends. What opening keeps, every use of a handle keeps. Opening keeps a registry from being
held without a broker, over any services and whichever of their calls fail.
-/

namespace TopicTables

namespace Action

variable {α β : Type} {P : Session → Prop}

/-- The property holds behind the action wherever it held before. -/
def Keeps (P : Session → Prop) (action : Action α) : Prop :=
  ∀ session, P session → P (action.run session).session

theorem keeps_of_quiet {action : Action α}
    (quiet : ∀ session, (action.run session).session = session) : Keeps P action := by
  intro session holds
  rwa [quiet]

theorem keeps_bind {action : Action α} {next : α → Action β} (first : Keeps P action)
    (second : ∀ value, Keeps P (next value)) : Keeps P (action >>= next) := by
  intro session holds
  have behind := first session holds
  cases ending : (action.run session).result with
  | error failure => rwa [run_bind_of_error ending]
  | ok value =>
    rw [run_bind_of_ok ending]
    exact second value _ behind

theorem keeps_pure (value : α) : Keeps P (pure value : Action α) :=
  keeps_of_quiet fun _ => rfl

theorem keeps_fail (failure : Failure) : Keeps P (fail failure : Action α) :=
  keeps_of_quiet fun _ => rfl

theorem keeps_read (view : Session → α) : Keeps P (read view) :=
  keeps_of_quiet fun _ => rfl

theorem keeps_log (level : Level) (text : String) : Keeps P (log level text) :=
  keeps_of_quiet fun _ => rfl

theorem keeps_ofReply (asFailure : ServiceFailure → Failure) (reply : Reply α) :
    Keeps P (ofReply asFailure reply) :=
  keeps_of_quiet fun _ => rfl

theorem keeps_ofExcept (result : Except Failure α) : Keeps P (ofExcept result) :=
  keeps_of_quiet fun _ => rfl

end Action

namespace Session
open TopicTables.Action

variable {Listing : Type} {services : Services Listing} {P : Session → Prop}

theorem keeps_openIfAbsent (opening : Keeps P (openMissing services)) (seen : Option Nat) :
    Keeps P (openIfAbsent services seen) := by
  cases seen with
  | none => exact opening
  | some handle => exact keeps_pure ()

theorem keeps_useBroker (opening : Keeps P (openMissing services)) :
    Keeps P (useBroker services) :=
  keeps_bind (keeps_read _) fun seen => keeps_bind (keeps_openIfAbsent opening seen) fun _ =>
    keeps_bind (keeps_read _) fun _ => keeps_ofExcept _

theorem keeps_useRegistry (opening : Keeps P (openMissing services)) :
    Keeps P (useRegistry services) :=
  keeps_bind (keeps_read _) fun seen => keeps_bind (keeps_openIfAbsent opening seen) fun _ =>
    keeps_bind (keeps_read _) fun _ => keeps_ofExcept _

def Paired (session : Session) : Prop :=
  session.registry.isSome = true → session.broker.isSome = true

theorem keeps_paired_openBroker : Keeps Paired (openBroker services) := by
  intro session paired
  obtain ⟨-, run⟩ | ⟨-, ⟨_, _, run⟩ | ⟨_, _, run⟩ | ⟨_, run⟩⟩ := openBroker_cases services session
  · rwa [run]
  · rwa [run]
  · rwa [run]
  · rw [run]
    exact fun _ => rfl

/-- Opening the broker keeps the registry as it is. -/
theorem openBroker_registry (session : Session) :
    ((openBroker services).run session).session.registry = session.registry := by
  obtain ⟨-, run⟩ | ⟨-, ⟨_, _, run⟩ | ⟨_, _, run⟩ | ⟨_, run⟩⟩ :=
    openBroker_cases services session <;> rw [run] <;> rfl

theorem broker_isSome_of_openBroker {session : Session}
    (opened : ((openBroker services).run session).result = .ok ()) :
    ((openBroker services).run session).session.broker.isSome = true := by
  obtain ⟨held, run⟩ | ⟨-, ⟨_, _, run⟩ | ⟨_, _, run⟩ | ⟨_, run⟩⟩ :=
    openBroker_cases services session
  · rwa [run]
  · simp [run] at opened
  · simp [run] at opened
  · rw [run]
    rfl

/-- Opening the registry keeps the broker as it is. -/
theorem openRegistry_broker (session : Session) :
    ((openRegistry services).run session).session.broker = session.broker := by
  obtain ⟨-, run⟩ | ⟨-, ⟨_, _, run⟩ | ⟨_, run⟩ | ⟨_, run⟩⟩ :=
    openRegistry_cases services session
  · rw [run]
  · rw [run]
  · rw [run]
  · rw [run]
    rfl

theorem keeps_paired_openMissing : Keeps Paired (openMissing services) := by
  intro session paired
  cases opened : ((openBroker services).run session).result with
  | error failure =>
    rw [openMissing, run_bind_of_error opened]
    exact keeps_paired_openBroker session paired
  | ok _ =>
    rw [openMissing, run_bind_of_ok opened]
    intro _
    simp only [openRegistry_broker, broker_isSome_of_openBroker opened]

theorem close_handles (services : Services Listing) (session : Session) :
    ((close services).run session).session =
      { session with broker := none, registry := none } := by
  cases held : session.broker with
  | none => simp [close, run_bind, held]
  | some number =>
    cases ending : (services.shutdownBroker number session.servers).result <;>
      simp [close, run_bind, held, ending]

theorem keeps_paired_close : Keeps Paired (close services) := by
  intro session _ held
  simp [close_handles] at held

/-- The session reaches for some servers and a registry at some address. -/
def Reaches (servers url : String) (session : Session) : Prop :=
  session.servers = servers ∧ session.url = url

theorem keeps_reaches_openBroker {servers url : String} :
    Keeps (Reaches servers url) (openBroker services) := by
  intro session reaches
  obtain ⟨-, run⟩ | ⟨-, ⟨_, _, run⟩ | ⟨_, _, run⟩ | ⟨_, run⟩⟩ :=
    openBroker_cases services session <;> rw [run] <;> exact reaches

theorem keeps_reaches_openRegistry {servers url : String} :
    Keeps (Reaches servers url) (openRegistry services) := by
  intro session reaches
  obtain ⟨-, run⟩ | ⟨-, ⟨_, _, run⟩ | ⟨_, run⟩ | ⟨_, run⟩⟩ :=
    openRegistry_cases services session <;> rw [run] <;> exact reaches

theorem keeps_reaches_openMissing {servers url : String} :
    Keeps (Reaches servers url) (openMissing services) :=
  keeps_bind keeps_reaches_openBroker fun _ => keeps_reaches_openRegistry

theorem keeps_reaches_close {servers url : String} :
    Keeps (Reaches servers url) (close services) := by
  intro session reaches
  rw [close_handles]
  exact reaches

end Session

end TopicTables
