import TopicTables.Proofs.Session.Recording

/-! # What is done through the services of a session

Each call through the services is a deed: it is known which call it was and how it ended. Whatever
is done with a session short of closing it, the brokers held behind it are those held before and
those that started meanwhile, a handle that is held is not made again, and a start or a making of a
registry that fails is what the work ends in.
-/

namespace TopicTables

variable {Listing α β : Type}

namespace Services

/-- How a call ends for a session with some servers: well, with nothing, or in a failure. -/
def ending (services : Services Listing) (servers : String) : Call → Except ServiceFailure Bool
  | .makeBroker made => (services.makeBroker made).result.map fun _ => true
  | .startBroker number => (services.startBroker number servers).result.map fun _ => true
  | .shutdownBroker number => (services.shutdownBroker number servers).result.map fun _ => true
  | .makeRegistry url => (services.makeRegistry url).result
  | .listSubjects => services.listSubjects.result.map fun _ => true
  | .getSchema subject => (services.latestSchema subject).result.map Option.isSome
  | _ => .ok true

end Services

/-- The call only asks the registry. -/
def Call.isQuestion : Call → Bool
  | .listSubjects => true
  | .getSchema _ => true
  | _ => false

/-- A call and how it ended. -/
structure Deed where
  call : Call
  ending : Except ServiceFailure Bool

namespace Deed

@[simp] def tried? : Deed → Option Nat
  | ⟨.startBroker number, _⟩ => some number
  | _ => none

@[simp] def started? : Deed → Option Nat
  | ⟨.startBroker number, .ok _⟩ => some number
  | _ => none

/-- The broker that failed to start. -/
@[simp] def refused? : Deed → Option Nat
  | ⟨.startBroker number, .error _⟩ => some number
  | _ => none

@[simp] def shutDown? : Deed → Option Nat
  | ⟨.shutdownBroker number, _⟩ => some number
  | _ => none

/-- The address for which a registry was handed out. -/
@[simp] def registered? : Deed → Option String
  | ⟨.makeRegistry url, .ok true⟩ => some url
  | _ => none

/-- What a start or the making of a registry failed with. -/
@[simp] def failed? : Deed → Option ServiceFailure
  | ⟨.startBroker _, .error cause⟩ => some cause
  | ⟨.makeRegistry _, .error cause⟩ => some cause
  | _ => none

/-- The call serves to make a handle. -/
@[simp] def makes : Session.Handle → Deed → Bool
  | .broker, ⟨.makeBroker _, _⟩ => true
  | .broker, ⟨.startBroker _, _⟩ => true
  | .registry, ⟨.makeRegistry _, _⟩ => true
  | _, _ => false

/-- The call makes, starts and shuts down nothing. -/
structure Idle (deed : Deed) : Prop where
  untried : deed.tried? = none
  unstarted : deed.started? = none
  unshut : deed.shutDown? = none
  unregistered : deed.registered? = none
  unfailed : deed.failed? = none
  unmade : ∀ handle, deed.makes handle = false

theorem idle_of_question {deed : Deed} (question : deed.call.isQuestion = true) : deed.Idle := by
  obtain ⟨call, ending⟩ := deed
  cases call with
  | listSubjects => constructor <;> simp
  | getSchema subject => constructor <;> simp
  | _ => cases question

end Deed

abbrev Deeds := List Deed

namespace Deeds

abbrev tried (deeds : Deeds) : List Nat := deeds.filterMap Deed.tried?

abbrev started (deeds : Deeds) : List Nat := deeds.filterMap Deed.started?

abbrev refused (deeds : Deeds) : List Nat := deeds.filterMap Deed.refused?

abbrev shutDown (deeds : Deeds) : List Nat := deeds.filterMap Deed.shutDown?

abbrev registered (deeds : Deeds) : List String := deeds.filterMap Deed.registered?

abbrev failures (deeds : Deeds) : List ServiceFailure := deeds.filterMap Deed.failed?

end Deeds

/-- What was done on the way to an outcome. -/
def Outcome.deeds (services : Services Listing) (outcome : Outcome α) : Deeds :=
  outcome.trace.calls.map fun call => ⟨call, services.ending outcome.session.servers call⟩

namespace Session

/-- The balance of what is done with a session: the brokers held before and those that started are
those that were shut down followed by the one held behind it. Brokers are tried in the order of
their numbers, each once. -/
structure Balanced (before : Session) (deeds : Deeds) (after : Session) : Prop where
  servers : after.servers = before.servers
  brokers : before.broker.toList ++ deeds.started = deeds.shutDown ++ after.broker.toList
  tries : deeds.tried = List.range' (before.brokersMade + 1) deeds.tried.length
  counted : after.brokersMade = before.brokersMade + deeds.tried.length

/-- What can be done with a session that is not closed meanwhile. -/
structure Grows (before : Session) (deeds : Deeds) (after : Session) : Prop
    extends Balanced before deeds after where
  noneShutDown : deeds.shutDown = []
  registries : after.registry.toList.length =
    before.registry.toList.length + deeds.registered.length
  kept : ∀ handle number, before.held handle = some number → after.held handle = some number
  found : ∀ handle, (before.held handle).isSome = true →
    ∀ deed ∈ deeds, deed.makes handle = false

section
variable {before between after : Session} {first second : Deeds}

theorem Balanced.refl (session : Session) : Balanced session [] session := by
  constructor <;> simp

theorem Balanced.trans (one : Balanced before first between)
    (two : Balanced between second after) : Balanced before (first ++ second) after where
  servers := two.servers.trans one.servers
  brokers := by
    have early := one.brokers
    have late := two.brokers
    simp only [Deeds.started, Deeds.shutDown, List.filterMap_append] at early late ⊢
    rw [← List.append_assoc, early, List.append_assoc, late, List.append_assoc]
  tries := by
    have later := two.tries
    rw [one.counted, Nat.add_right_comm] at later
    rw [Deeds.tried, List.filterMap_append, List.length_append, ← List.range'_append_1,
      ← one.tries, ← later]
  counted := by simp [two.counted, one.counted, Nat.add_assoc]

theorem Grows.refl (session : Session) : Grows session [] session :=
  ⟨.refl session, rfl, rfl, fun _ _ held => held, by simp⟩

theorem grows_of_idle {session : Session} {deeds : Deeds} (idle : ∀ deed ∈ deeds, deed.Idle) :
    Grows session deeds session := by
  have untried : deeds.tried = [] :=
    List.filterMap_eq_nil_iff.mpr fun deed member => (idle deed member).untried
  have unstarted : deeds.started = [] :=
    List.filterMap_eq_nil_iff.mpr fun deed member => (idle deed member).unstarted
  have unshut : deeds.shutDown = [] :=
    List.filterMap_eq_nil_iff.mpr fun deed member => (idle deed member).unshut
  have unregistered : deeds.registered = [] :=
    List.filterMap_eq_nil_iff.mpr fun deed member => (idle deed member).unregistered
  refine ⟨⟨rfl, ?_, ?_, ?_⟩, unshut, ?_, fun _ _ held => held, fun handle _ deed member =>
    (idle deed member).unmade handle⟩
  · rw [unstarted, unshut, List.append_nil, List.nil_append]
  · rw [untried]
    rfl
  · rw [untried]
    rfl
  · rw [unregistered]
    rfl

theorem Grows.trans (one : Grows before first between) (two : Grows between second after) :
    Grows before (first ++ second) after where
  toBalanced := one.toBalanced.trans two.toBalanced
  noneShutDown := by simp [one.noneShutDown, two.noneShutDown]
  registries := by simp [two.registries, one.registries, Nat.add_assoc]
  kept handle number held := two.kept handle number (one.kept handle number held)
  found handle held deed member := by
    obtain ⟨number, numbered⟩ := Option.isSome_iff_exists.mp held
    cases List.mem_append.mp member with
    | inl early => exact one.found handle held deed early
    | inr late => exact two.found handle (by simp [one.kept handle number numbered]) deed late

/-- The brokers held behind it are those held before and those that started. -/
theorem Grows.brokers_eq (grows : Grows before first after) :
    after.broker.toList = before.broker.toList ++ first.started := by
  rw [grows.brokers, grows.noneShutDown, List.nil_append]

end

variable {services : Services Listing} {session : Session}

/-- The ways in which opening a broker ends, what it leaves behind and what is done on them. -/
inductive BrokerWay (services : Services Listing) (session : Session) :
    Except Failure Unit → Session → Deeds → Prop where
  | held (held : session.broker.isSome = true) : BrokerWay services session (.ok ()) session []
  | unmade {failure : ServiceFailure} (absent : session.broker = none)
      (unmade : (services.makeBroker session.servers).result = .error failure) :
      BrokerWay services session (.error (.service failure)) session
        [⟨.makeBroker session.servers, .error failure⟩]
  | refused {cause : ServiceFailure} (absent : session.broker = none)
      (refused : (services.startBroker (session.brokersMade + 1) session.servers).result =
        .error cause) :
      BrokerWay services session (.error (.brokerFailed session.servers cause)) session.countBroker
        [⟨.makeBroker session.servers, .ok true⟩,
          ⟨.startBroker (session.brokersMade + 1), .error cause⟩]
  | started (absent : session.broker = none) :
      BrokerWay services session (.ok ()) session.holdBroker
        [⟨.makeBroker session.servers, .ok true⟩,
          ⟨.startBroker (session.brokersMade + 1), .ok true⟩]

theorem brokerWay (services : Services Listing) (session : Session) :
    let outcome := (openBroker services.recorded).run session
    BrokerWay services session outcome.result outcome.session (outcome.deeds services) := by
  intro outcome
  cases absent : session.broker with
  | some handle =>
    have run : outcome = _ := openBroker_of_held (by simp [absent])
    rw [run]
    exact .held (by simp [absent])
  | none =>
    cases made : (services.makeBroker session.servers).result with
    | error failure =>
      have run : outcome = _ := openBroker_of_unmade absent made
      rw [run]
      simpa [Outcome.deeds, Services.recorded, Services.ending, Except.map, made] using
        BrokerWay.unmade absent made
    | ok _ =>
      cases started : (services.startBroker (session.brokersMade + 1) session.servers).result with
      | error cause =>
        have run : outcome = _ := openBroker_of_refused absent made started
        rw [run]
        simpa [Outcome.deeds, Services.recorded, Services.ending, Except.map, made, started,
          countBroker] using BrokerWay.refused absent started
      | ok _ =>
        have run : outcome = _ := openBroker_of_started absent made started
        have way : BrokerWay services session _ _ _ := .started absent
        rw [run]
        simpa [Outcome.deeds, Services.recorded, Services.ending, Except.map, made, started,
          countBroker, holdBroker] using way

/-- The ways in which opening a registry ends, what it leaves behind and what is done on them. -/
inductive RegistryWay (services : Services Listing) (session : Session) :
    Except Failure Unit → Session → Deeds → Prop where
  | held (held : session.registry.isSome = true) : RegistryWay services session (.ok ()) session []
  | unmade {cause : ServiceFailure} (absent : session.registry = none)
      (unmade : (services.makeRegistry session.url).result = .error cause) :
      RegistryWay services session (.error (.registryFailed session.url cause)) session
        [⟨.makeRegistry session.url, .error cause⟩]
  | none (absent : session.registry = none)
      (made : (services.makeRegistry session.url).result = .ok false) :
      RegistryWay services session (.ok ()) session [⟨.makeRegistry session.url, .ok false⟩]
  | made (absent : session.registry = none) :
      RegistryWay services session (.ok ()) session.holdRegistry
        [⟨.makeRegistry session.url, .ok true⟩]

theorem registryWay (services : Services Listing) (session : Session) :
    let outcome := (openRegistry services.recorded).run session
    RegistryWay services session outcome.result outcome.session (outcome.deeds services) := by
  intro outcome
  cases absent : session.registry with
  | some handle =>
    have run : outcome = _ := openRegistry_of_held (by simp [absent])
    rw [run]
    exact .held (by simp [absent])
  | none =>
    cases made : (services.makeRegistry session.url).result with
    | error cause =>
      have run : outcome = _ := openRegistry_of_unmade absent made
      rw [run]
      simpa [Outcome.deeds, Services.recorded, Services.ending, made] using
        RegistryWay.unmade absent made
    | ok isThere =>
      cases isThere with
      | false =>
        have run : outcome = _ := openRegistry_of_none absent made
        rw [run]
        simpa [Outcome.deeds, Services.recorded, Services.ending, made] using
          RegistryWay.none absent made
      | true =>
        have run : outcome = _ := openRegistry_of_made absent made
        have way : RegistryWay services session _ _ _ := .made absent
        rw [run]
        simpa [Outcome.deeds, Services.recorded, Services.ending, made] using way

theorem Handle.forall_iff {p : Handle → Prop} : (∀ handle, p handle) ↔ p .broker ∧ p .registry :=
  ⟨fun all => ⟨all _, all _⟩, fun both handle => by cases handle <;> simp [both]⟩

theorem BrokerWay.grows {result : Except Failure Unit} {after : Session} {deeds : Deeds}
    (way : BrokerWay services session result after deeds) : Grows session deeds after := by
  cases way with
  | held held => exact .refl session
  | unmade absent unmade =>
    refine ⟨⟨?_, ?_, ?_, ?_⟩, ?_, ?_, ?_, ?_⟩ <;>
      simp [Handle.forall_iff, Session.held, absent, List.filterMap_cons]
  | refused absent refused =>
    refine ⟨⟨?_, ?_, ?_, ?_⟩, ?_, ?_, ?_, ?_⟩ <;>
      simp [Handle.forall_iff, Session.held, absent, List.filterMap_cons, countBroker]
  | started absent =>
    refine ⟨⟨?_, ?_, ?_, ?_⟩, ?_, ?_, ?_, ?_⟩ <;>
      simp [Handle.forall_iff, Session.held, absent, List.filterMap_cons, holdBroker,
        countBroker]

theorem RegistryWay.grows {result : Except Failure Unit} {after : Session} {deeds : Deeds}
    (way : RegistryWay services session result after deeds) : Grows session deeds after := by
  cases way with
  | held held => exact .refl session
  | unmade absent unmade =>
    refine ⟨⟨?_, ?_, ?_, ?_⟩, ?_, ?_, ?_, ?_⟩ <;>
      simp [Handle.forall_iff, Session.held, absent, List.filterMap_cons]
  | none absent made =>
    refine ⟨⟨?_, ?_, ?_, ?_⟩, ?_, ?_, ?_, ?_⟩ <;>
      simp [Handle.forall_iff, Session.held, absent, List.filterMap_cons]
  | made absent =>
    refine ⟨⟨?_, ?_, ?_, ?_⟩, ?_, ?_, ?_, ?_⟩ <;>
      simp [Handle.forall_iff, Session.held, absent, List.filterMap_cons, holdRegistry]

/-- A start or the making of a registry that fails is what the work ends in, with its failure as the
direct cause. -/
def Surfaces (deeds : Deeds) (result : Except Failure α) : Prop :=
  ∀ cause ∈ deeds.failures, ∃ failure, result = .error failure ∧ failure.isReported = true ∧
    failure.cause? = some (.service cause)

theorem BrokerWay.surfaces {result : Except Failure Unit} {after : Session} {deeds : Deeds}
    (way : BrokerWay services session result after deeds) : Surfaces deeds result := by
  cases way <;>
    simp [Surfaces, List.filterMap_cons, Failure.isReported, Failure.cause?]

theorem RegistryWay.surfaces {result : Except Failure Unit} {after : Session} {deeds : Deeds}
    (way : RegistryWay services session result after deeds) : Surfaces deeds result := by
  cases way <;>
    simp [Surfaces, List.filterMap_cons, Failure.isReported, Failure.cause?]

end Session

namespace Action
open Session

variable {services : Services Listing}

/-- The action keeps to what can be done with a session that is not closed, and failures of starts
and of making a registry surface. -/
structure Tidy (services : Services Listing) (action : Action α) : Prop where
  grows : ∀ session,
    Grows session ((action.run session).deeds services) (action.run session).session
  surfaces : ∀ session, Surfaces ((action.run session).deeds services) (action.run session).result

theorem deeds_bind_of_ok {action : Action α} {next : α → Action β} {session : Session} {value : α}
    (ended : (action.run session).result = .ok value)
    (servers : ((next value).run (action.run session).session).session.servers =
      (action.run session).session.servers) :
    ((action >>= next).run session).deeds services =
      (action.run session).deeds services ++
        ((next value).run (action.run session).session).deeds services := by
  rw [run_bind_of_ok ended]
  simp [Outcome.deeds, servers]

/-- What grows by two actions, grows by one behind the other. -/
theorem grows_bind {action : Action α} {next : α → Action β}
    (first : ∀ session,
      Grows session ((action.run session).deeds services) (action.run session).session)
    (second : ∀ value session,
      Grows session (((next value).run session).deeds services) ((next value).run session).session)
    (session : Session) :
    Grows session (((action >>= next).run session).deeds services)
      ((action >>= next).run session).session := by
  cases ended : (action.run session).result with
  | error failure =>
    rw [run_bind_of_error ended]
    exact first session
  | ok value =>
    have later := second value (action.run session).session
    rw [deeds_bind_of_ok ended later.servers, run_bind_of_ok ended]
    exact (first session).trans later

theorem tidy_bind {action : Action α} {next : α → Action β} (first : Tidy services action)
    (second : ∀ value, Tidy services (next value)) : Tidy services (action >>= next) := by
  constructor
  · exact grows_bind first.grows fun value => (second value).grows
  · intro session cause failed
    cases ended : (action.run session).result with
    | error failure =>
      rw [run_bind_of_error ended] at failed ⊢
      obtain ⟨surfaced, same, reported⟩ := first.surfaces session cause failed
      cases ended.symm.trans same
      exact ⟨failure, rfl, reported⟩
    | ok value =>
      have later := (second value).grows (action.run session).session
      rw [deeds_bind_of_ok ended later.servers, Deeds.failures, List.filterMap_append,
        List.mem_append] at failed
      rw [run_bind_of_ok ended]
      cases failed with
      | inl early =>
        obtain ⟨surfaced, same, -⟩ := first.surfaces session cause early
        rw [ended] at same
        cases same
      | inr late => exact (second value).surfaces _ cause late

/-- An action is tidy that leaves the session as it is and at most asks the registry. -/
theorem tidy_of_asking {action : Action α}
    (same : ∀ session, (action.run session).session = session)
    (asking : ∀ session, ∀ call ∈ (action.run session).trace.calls, call.isQuestion = true) :
    Tidy services action := by
  have idle (session : Session) : ∀ deed ∈ (action.run session).deeds services, deed.Idle := by
    intro deed member
    obtain ⟨call, called, rfl⟩ := List.mem_map.mp member
    exact Deed.idle_of_question (asking session call called)
  constructor
  · intro session
    rw [same]
    exact grows_of_idle (idle session)
  · intro session cause failed
    obtain ⟨deed, member, fails⟩ := List.mem_filterMap.mp failed
    rw [(idle session deed member).unfailed] at fails
    cases fails

theorem tidy_pure (value : α) : Tidy services (pure value : Action α) :=
  tidy_of_asking (fun _ => rfl) fun _ => by simp

theorem tidy_fail (failure : Failure) : Tidy services (fail failure : Action α) :=
  tidy_of_asking (fun _ => rfl) fun _ => by simp

theorem tidy_read (view : Session → α) : Tidy services (read view) :=
  tidy_of_asking (fun _ => rfl) fun _ => by simp

theorem tidy_ofExcept (result : Except Failure α) : Tidy services (ofExcept result) :=
  tidy_of_asking (fun _ => rfl) fun _ => by simp

theorem tidy_log (level : Level) (text : String) : Tidy services (log level text) :=
  tidy_of_asking (fun _ => rfl) fun _ => by simp

end Action

namespace Session
open TopicTables.Action

variable {services : Services Listing} {session : Session}

theorem tidy_openBroker : Tidy services (openBroker services.recorded) :=
  ⟨fun session => (brokerWay services session).grows,
    fun session => (brokerWay services session).surfaces⟩

theorem tidy_openRegistry : Tidy services (openRegistry services.recorded) :=
  ⟨fun session => (registryWay services session).grows,
    fun session => (registryWay services session).surfaces⟩

theorem tidy_openMissing : Tidy services (openMissing services.recorded) :=
  tidy_bind tidy_openBroker fun _ => tidy_openRegistry

theorem tidy_openIfAbsent (seen : Option Nat) :
    Tidy services (openIfAbsent services.recorded seen) := by
  cases seen with
  | none => exact tidy_openMissing
  | some handle => exact tidy_pure ()

theorem tidy_use (handle : Handle) : Tidy services (use services.recorded handle) := by
  rw [use_eq]
  exact tidy_bind (tidy_read _) fun seen => tidy_bind (tidy_openIfAbsent seen) fun _ =>
    tidy_bind (tidy_read _) fun _ => tidy_ofExcept _

/-- The ways in which opening a session ends: with the broker, or with the registry behind it. -/
inductive OpeningWay (services : Services Listing) (session : Session) :
    Except Failure Unit → Session → Deeds → Prop where
  | stopped {failure : Failure} {after : Session} {deeds : Deeds}
      (first : BrokerWay services session (.error failure) after deeds) :
      OpeningWay services session (.error failure) after deeds
  | both {between after : Session} {result : Except Failure Unit} {deeds further : Deeds}
      (first : BrokerWay services session (.ok ()) between deeds)
      (second : RegistryWay services between result after further) :
      OpeningWay services session result after (deeds ++ further)

theorem OpeningWay.grows {result : Except Failure Unit} {after : Session} {deeds : Deeds}
    (way : OpeningWay services session result after deeds) : Grows session deeds after := by
  cases way with
  | stopped first => exact first.grows
  | both first second => exact first.grows.trans second.grows

theorem openingWay (services : Services Listing) (session : Session) :
    let outcome := (openMissing services.recorded).run session
    OpeningWay services session outcome.result outcome.session (outcome.deeds services) := by
  intro outcome
  have first := brokerWay services session
  cases ended : ((openBroker services.recorded).run session).result with
  | error failure =>
    have run : outcome = _ := run_bind_of_error ended
    rw [run]
    exact .stopped (ended ▸ first)
  | ok value =>
    have run : outcome = _ := run_bind_of_ok ended
    have second := registryWay services ((openBroker services.recorded).run session).session
    have deeds : outcome.deeds services = _ := deeds_bind_of_ok ended second.grows.servers
    rw [deeds, run]
    exact .both (ended ▸ first) second

end Session

end TopicTables
