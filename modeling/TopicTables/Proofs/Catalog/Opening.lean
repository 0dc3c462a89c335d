import TopicTables.Proofs.Catalog.Reference
import TopicTables.Proofs.Catalog.Run

/-! # What is seen of opening

In a session that a run of the catalog reaches, opening over the clients of a cluster ends and calls
as it is told without a session. Behind an opening that ends well a registry is held, and with it a
broker.
-/

namespace TopicTables

/-- What is seen of an outcome from outside the session. -/
def Outcome.response {α : Type} (outcome : Outcome α) : Response α :=
  ⟨outcome.result, outcome.trace.calls⟩

namespace Catalog

/-- The session belongs to the configured catalog and holds a registry only beside a broker. -/
structure Sound (config : Config) (session : Session) : Prop where
  reaches : session.Reaches config.bootstrapServers config.registryUrl
  paired : session.Paired

variable {config : Config} {session : Session}

theorem sound_reached (config : Config) (cluster : Cluster) (steps : List (Step Cluster)) :
    Sound config (reached config (clients config) cluster steps).session := by
  constructor
  · apply reached_induction
    · exact ⟨rfl, rfl⟩
    · exact fun _ => Session.keeps_reaches_openMissing
    · exact fun _ => Session.keeps_reaches_close
  · apply reached_induction
    · intro held
      cases held
    · exact fun _ => Session.keeps_paired_openMissing
    · exact fun _ => Session.keeps_paired_close

section
variable (config) (cluster : Cluster)

@[simp] theorem makeBroker_clients (servers : String) :
    (clients config cluster).makeBroker servers = ⟨.ok (), []⟩ := rfl

theorem makeRegistry_clients (url : String) :
    ((clients config cluster).makeRegistry url).result =
        (match cluster.registryCreation with
          | some cause => .error cause
          | none => .ok true) ∧
      ((clients config cluster).makeRegistry url).trace.calls =
        [.registryClient [("url", .str url)]] := by
  cases creation : cluster.registryCreation <;>
    simp [clients, Services.overClients, RegistryClient.create, Reply.ofCall, creation]

theorem startBroker_clients (number : Nat) (servers : String) :
    ((clients config cluster).startBroker number servers).result =
        (match cluster.adminCreation, cluster.adminConnection with
          | some cause, _ => .error cause
          | none, some cause => .error cause
          | none, none => .ok ()) ∧
      ((clients config cluster).startBroker number servers).trace.calls =
        (match cluster.adminCreation with
          | some _ => [.adminClient servers]
          | none => [.adminClient servers, .listTopics config.adminTimeout]) := by
  cases creation : cluster.adminCreation <;> cases connection : cluster.adminConnection <;>
    simp [clients, Services.overClients, BrokerSession.start, Reply.ofCall, Reply.ofLog, creation,
      connection]

end

theorem openBroker_response (cluster : Cluster)
    (servers : session.servers = config.bootstrapServers) :
    ((Session.openBroker (clients config cluster)).run session).response =
      (connecting config cluster).ifAbsent session.broker.isSome := by
  obtain ⟨result, calls⟩ := startBroker_clients config cluster
    (session.brokersMade + 1) session.servers
  cases absent : session.broker with
  | some handle =>
    rw [Session.openBroker_of_held (by simp [absent])]
    rfl
  | none =>
    cases creation : cluster.adminCreation <;> cases connection : cluster.adminConnection <;>
      simp only [creation, connection] at result calls
    case none.none =>
      rw [Session.openBroker_of_started absent rfl result]
      simp [Outcome.response, calls, connecting, creation, connection, Response.ifAbsent, ← servers]
    all_goals
      rw [Session.openBroker_of_refused absent rfl result]
      simp [Outcome.response, calls, connecting, creation, connection, Response.ifAbsent, ← servers]

theorem openRegistry_response (cluster : Cluster) (url : session.url = config.registryUrl) :
    ((Session.openRegistry (clients config cluster)).run session).response =
        (registering config cluster).ifAbsent session.registry.isSome ∧
      (((Session.openRegistry (clients config cluster)).run session).result = .ok () →
        ((Session.openRegistry (clients config cluster)).run session).session.registry.isSome =
          true) := by
  obtain ⟨result, calls⟩ := makeRegistry_clients config cluster session.url
  cases absent : session.registry with
  | some handle =>
    rw [Session.openRegistry_of_held (by simp [absent])]
    exact ⟨rfl, fun _ => by simp [absent]⟩
  | none =>
    cases creation : cluster.registryCreation with
    | some cause =>
      simp only [creation] at result
      rw [Session.openRegistry_of_unmade absent result]
      simp [Outcome.response, calls, registering, creation, Response.ifAbsent, ← url]
    | none =>
      simp only [creation] at result
      rw [Session.openRegistry_of_made absent result]
      simp [Outcome.response, calls, registering, creation, Response.ifAbsent, ← url,
        Session.holdRegistry]

/-- What is seen of one action behind another, where the second is seen alike for every value. -/
theorem response_bind {α β : Type} {action : Action β} {next : β → Action α} {session : Session}
    {rest : Response α}
    (behind : ∀ value, (action.run session).result = .ok value →
      ((next value).run (action.run session).session).response = rest) :
    ((action >>= next).run session).response = ((action.run session).response).andThen rest := by
  cases ending : (action.run session).result with
  | error failure =>
    rw [Action.run_bind_of_error ending]
    simp [Outcome.response, Response.andThen, ending]
  | ok value =>
    rw [Action.run_bind_of_ok ending, ← behind value ending]
    simp [Outcome.response, Response.andThen, ending]

theorem openMissing_response (cluster : Cluster) (sound : Sound config session) :
    ((Session.openMissing (clients config cluster)).run session).response =
        opening config cluster session.broker.isSome session.registry.isSome ∧
      (((Session.openMissing (clients config cluster)).run session).result = .ok () →
        ((Session.openMissing (clients config cluster)).run session).session.registry.isSome =
          true) := by
  have opened : Session.Reaches config.bootstrapServers config.registryUrl
      ((Session.openBroker (clients config cluster)).run session).session :=
    Session.keeps_reaches_openBroker session sound.reaches
  obtain ⟨registry, registryHeld⟩ := openRegistry_response cluster opened.2
  constructor
  · rw [Session.openMissing, response_bind fun _ _ => registry,
      openBroker_response cluster sound.reaches.1, Session.openBroker_registry]
    rfl
  · intro opened
    cases broker : ((Session.openBroker (clients config cluster)).run session).result with
    | error failure => simp [Session.openMissing, Action.run_bind_of_error broker] at opened
    | ok _ =>
      rw [Session.openMissing, Action.run_bind_of_ok broker] at opened ⊢
      exact registryHeld opened

theorem useRegistry_sound (cluster : Cluster) (sound : Sound config session) :
    Sound config ((Session.useRegistry (clients config cluster)).run session).session :=
  ⟨Session.keeps_useRegistry Session.keeps_reaches_openMissing _ sound.reaches,
    Session.keeps_useRegistry Session.keeps_paired_openMissing _ sound.paired⟩

theorem useRegistry_response (cluster : Cluster) (sound : Sound config session) {α : Type}
    (rest : Response α) :
    ((Session.useRegistry (clients config cluster)).run session).response.andThen rest =
        ((opening config cluster session.broker.isSome session.registry.isSome).ifAbsent
          session.registry.isSome).andThen rest ∧
      ∀ handle, ((Session.useRegistry (clients config cluster)).run session).result = .ok handle →
        ((Session.useRegistry (clients config cluster)).run session).session.registry.isSome =
          true := by
  obtain ⟨response, registryHeld⟩ := openMissing_response cluster sound
  cases absent : session.registry with
  | some handle =>
    rw [Session.useRegistry_of_held absent]
    exact ⟨rfl, fun _ _ => by simp [absent]⟩
  | none =>
    rw [absent] at response
    simp only [Option.isSome_none, Response.ifAbsent, Bool.false_eq_true, if_false] at response ⊢
    rw [← response]
    cases opened : ((Session.openMissing (clients config cluster)).run session).result with
    | error failure =>
      rw [Session.useRegistry_of_failed absent opened]
      simp [Outcome.response, Response.andThen, opened]
    | ok _ =>
      obtain ⟨handle, held⟩ := Option.isSome_iff_exists.mp (registryHeld opened)
      rw [Session.useRegistry_of_opened absent opened, held]
      simp [Outcome.response, Response.andThen, opened, Session.settle]

end Catalog

end TopicTables
