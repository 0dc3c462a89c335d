import TopicTables.Proofs.Results
import TopicTables.Session.Lifecycle

/-! # What opening does

Each part of opening either finds its handle held and does nothing, or makes one service call after
the other and ends at the first that fails. The lemmas give the whole outcome for each of these
ways, over any services.
-/

namespace TopicTables.Session
open TopicTables.Action

variable {Listing : Type} {services : Services Listing} {session : Session}

/-- The session behind an attempt to connect brokers: the attempt is counted. -/
def countBroker (session : Session) : Session :=
  { session with brokersMade := session.brokersMade + 1 }

def holdBroker (session : Session) : Session :=
  { session.countBroker with broker := some (session.brokersMade + 1) }

def holdRegistry (session : Session) : Session :=
  { session with registry := some (session.registriesMade + 1)
                 registriesMade := session.registriesMade + 1 }

theorem openBroker_of_held (held : session.broker.isSome = true) :
    (openBroker services).run session = ⟨.ok (), session, []⟩ := by
  simp [openBroker, run_bind, held]

theorem openBroker_of_unmade {failure : ServiceFailure} (absent : session.broker = none)
    (unmade : (services.makeBroker session.servers).result = .error failure) :
    (openBroker services).run session =
      ⟨.error (.service failure), session, (services.makeBroker session.servers).trace⟩ := by
  simp [openBroker, run_bind, absent, unmade]

theorem openBroker_of_refused {cause : ServiceFailure} (absent : session.broker = none)
    (made : (services.makeBroker session.servers).result = .ok ())
    (refused : (services.startBroker (session.brokersMade + 1) session.servers).result =
      .error cause) :
    (openBroker services).run session =
      ⟨.error (.brokerFailed session.servers cause), session.countBroker,
        (services.makeBroker session.servers).trace ++
          (services.startBroker (session.brokersMade + 1) session.servers).trace ++
          [.log .error ("Failed to start broker admin for " ++ session.servers ++ ": " ++
            cause.message)]⟩ := by
  simp [openBroker, run_bind, absent, made, refused, countBroker]

theorem openBroker_of_started (absent : session.broker = none)
    (made : (services.makeBroker session.servers).result = .ok ())
    (started : (services.startBroker (session.brokersMade + 1) session.servers).result =
      .ok ()) :
    (openBroker services).run session =
      ⟨.ok (), session.holdBroker,
        (services.makeBroker session.servers).trace ++
          (services.startBroker (session.brokersMade + 1) session.servers).trace ++
          [.log .info ("Opened broker admin session for " ++ session.servers)]⟩ := by
  simp [openBroker, run_bind, absent, made, started, holdBroker, countBroker]

/-- All that opening a broker can do. -/
theorem openBroker_cases (services : Services Listing) (session : Session) :
    (session.broker.isSome = true ∧ (openBroker services).run session = ⟨.ok (), session, []⟩) ∨
      session.broker = none ∧
        ((∃ failure trace,
          (openBroker services).run session = ⟨.error (.service failure), session, trace⟩) ∨
        (∃ cause trace, (openBroker services).run session =
          ⟨.error (.brokerFailed session.servers cause), session.countBroker, trace⟩) ∨
        ∃ trace, (openBroker services).run session = ⟨.ok (), session.holdBroker, trace⟩) := by
  cases absent : session.broker with
  | some handle => exact .inl ⟨rfl, openBroker_of_held (by simp [absent])⟩
  | none =>
    refine .inr ⟨rfl, ?_⟩
    cases made : (services.makeBroker session.servers).result with
    | error failure => exact .inl ⟨failure, _, openBroker_of_unmade absent made⟩
    | ok _ =>
      cases started : (services.startBroker (session.brokersMade + 1) session.servers).result with
      | error cause => exact .inr (.inl ⟨cause, _, openBroker_of_refused absent made started⟩)
      | ok _ => exact .inr (.inr ⟨_, openBroker_of_started absent made started⟩)

theorem openRegistry_of_held (held : session.registry.isSome = true) :
    (openRegistry services).run session = ⟨.ok (), session, []⟩ := by
  simp [openRegistry, run_bind, held]

theorem openRegistry_of_unmade {cause : ServiceFailure} (absent : session.registry = none)
    (unmade : (services.makeRegistry session.url).result = .error cause) :
    (openRegistry services).run session =
      ⟨.error (.registryFailed session.url cause), session,
        (services.makeRegistry session.url).trace ++
          [.log .error ("Failed to create schema registry client for " ++ session.url ++ ": " ++
            cause.message)]⟩ := by
  simp [openRegistry, run_bind, absent, unmade]

theorem openRegistry_of_made (absent : session.registry = none)
    (made : (services.makeRegistry session.url).result = .ok true) :
    (openRegistry services).run session =
      ⟨.ok (), session.holdRegistry,
        (services.makeRegistry session.url).trace ++
          [.log .info ("Opened schema registry client for " ++ session.url)]⟩ := by
  simp [openRegistry, run_bind, absent, made, holdRegistry]

theorem openRegistry_of_none (absent : session.registry = none)
    (made : (services.makeRegistry session.url).result = .ok false) :
    (openRegistry services).run session =
      ⟨.ok (), session,
        (services.makeRegistry session.url).trace ++
          [.log .info ("Opened schema registry client for " ++ session.url)]⟩ := by
  simp [openRegistry, run_bind, absent, made]

/-- All that opening a registry can do. -/
theorem openRegistry_cases (services : Services Listing) (session : Session) :
    (session.registry.isSome = true ∧
        (openRegistry services).run session = ⟨.ok (), session, []⟩) ∨
      session.registry = none ∧
        ((∃ cause trace, (openRegistry services).run session =
          ⟨.error (.registryFailed session.url cause), session, trace⟩) ∨
        (∃ trace, (openRegistry services).run session = ⟨.ok (), session, trace⟩) ∨
        ∃ trace, (openRegistry services).run session = ⟨.ok (), session.holdRegistry, trace⟩) := by
  cases absent : session.registry with
  | some handle => exact .inl ⟨rfl, openRegistry_of_held (by simp [absent])⟩
  | none =>
    refine .inr ⟨rfl, ?_⟩
    cases made : (services.makeRegistry session.url).result with
    | error cause => exact .inl ⟨cause, _, openRegistry_of_unmade absent made⟩
    | ok isThere =>
      cases isThere with
      | false => exact .inr (.inl ⟨_, openRegistry_of_none absent made⟩)
      | true => exact .inr (.inr ⟨_, openRegistry_of_made absent made⟩)

theorem useRegistry_of_held {handle : Nat} (held : session.registry = some handle) :
    (useRegistry services).run session = ⟨.ok handle, session, []⟩ := by
  simp [useRegistry, run_bind, held, openIfAbsent, settle]

theorem useRegistry_of_failed {failure : Failure} (absent : session.registry = none)
    (failed : ((openMissing services).run session).result = .error failure) :
    (useRegistry services).run session =
      ⟨.error failure, ((openMissing services).run session).session,
        ((openMissing services).run session).trace⟩ := by
  simp [useRegistry, run_bind, absent, openIfAbsent, failed]

theorem useRegistry_of_opened (absent : session.registry = none)
    (opened : ((openMissing services).run session).result = .ok ()) :
    (useRegistry services).run session =
      ⟨settle .registryNotOpen none ((openMissing services).run session).session.registry,
        ((openMissing services).run session).session,
        ((openMissing services).run session).trace⟩ := by
  simp [useRegistry, run_bind, absent, openIfAbsent, opened]

theorem useBroker_of_held {handle : Nat} (held : session.broker = some handle) :
    (useBroker services).run session = ⟨.ok handle, session, []⟩ := by
  simp [useBroker, run_bind, held, openIfAbsent, settle]

/-! ## Failures of opening -/

/-- A failure of an opening, or of a use behind which there is no registry. -/
inductive OpeningFailure : Failure → Prop
  | service (failure : ServiceFailure) : OpeningFailure (.service failure)
  | broker (servers : String) (cause : ServiceFailure) :
    OpeningFailure (.brokerFailed servers cause)
  | registry (url : String) (cause : ServiceFailure) : OpeningFailure (.registryFailed url cause)
  | notOpen : OpeningFailure .registryNotOpen

theorem openingFailure_of_openBroker {failure : Failure}
    (failed : ((openBroker services).run session).result = .error failure) :
    OpeningFailure failure := by
  rcases openBroker_cases services session with ⟨-, run⟩ | ⟨-, ⟨_, _, run⟩ | ⟨_, _, run⟩ | ⟨_, run⟩⟩
  · simp [run] at failed
  · simp only [run, Except.error.injEq] at failed
    exact failed ▸ .service _
  · simp only [run, Except.error.injEq] at failed
    exact failed ▸ .broker _ _
  · simp [run] at failed

theorem openingFailure_of_openRegistry {failure : Failure}
    (failed : ((openRegistry services).run session).result = .error failure) :
    OpeningFailure failure := by
  rcases openRegistry_cases services session with ⟨-, run⟩ | ⟨-, ⟨_, _, run⟩ | ⟨_, run⟩ | ⟨_, run⟩⟩
  · simp [run] at failed
  · simp only [run, Except.error.injEq] at failed
    exact failed ▸ .registry _ _
  · simp [run] at failed
  · simp [run] at failed

theorem openingFailure_of_openMissing {failure : Failure}
    (failed : ((openMissing services).run session).result = .error failure) :
    OpeningFailure failure := by
  rw [openMissing] at failed
  rcases failed_of_bind failed with failed | ⟨_, -, failed⟩
  · exact openingFailure_of_openBroker failed
  · exact openingFailure_of_openRegistry failed

theorem openingFailure_of_useRegistry {failure : Failure}
    (failed : ((useRegistry services).run session).result = .error failure) :
    OpeningFailure failure := by
  cases absent : session.registry with
  | some handle => simp [useRegistry_of_held absent] at failed
  | none =>
    cases opened : ((openMissing services).run session).result with
    | error other =>
      simp only [useRegistry_of_failed absent opened, Except.error.injEq] at failed
      exact failed ▸ openingFailure_of_openMissing opened
    | ok _ =>
      rw [useRegistry_of_opened absent opened] at failed
      cases later : ((openMissing services).run session).session.registry with
      | some handle => simp [later, settle] at failed
      | none =>
        simp only [later, settle, Except.error.injEq] at failed
        exact failed ▸ .notOpen

/-- Behind a use of the registry that ends well the registry is held. -/
theorem registry_of_useRegistry {handle : Nat}
    (used : ((useRegistry services).run session).result = .ok handle) :
    ((useRegistry services).run session).session.registry = some handle := by
  cases absent : session.registry with
  | some number =>
    rw [useRegistry_of_held absent] at used ⊢
    exact absent.trans (congrArg some (Except.ok.inj used))
  | none =>
    cases opened : ((openMissing services).run session).result with
    | error failure => simp [useRegistry_of_failed absent opened] at used
    | ok _ =>
      rw [useRegistry_of_opened absent opened] at used ⊢
      cases later : ((openMissing services).run session).session.registry with
      | none => simp [later, settle] at used
      | some number =>
        simp only [later, settle, Except.ok.injEq] at used
        exact congrArg some used

end TopicTables.Session
