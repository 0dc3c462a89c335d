import TopicTables.Proofs.CommandLine.Comparison
import TopicTables.Proofs.CommandLine.Course

/-! # One session for each run, released in the end

A run opens its session as its command goes on, at times more than once, and leaves it to workers in
the end; but all of this happens in one session, and every way out of the command leads through the
closing of it. So the account of the session is an account of the run: a client is created at most
once, and the broker that started is shut down. For the latter the services leave their calls in the
trace, as clients of a cluster are released without a call.
-/

namespace TopicTables.CommandLine
open TopicTables.Catalog (clients newSession)
open TopicTables.Action

/-! ## Services that leave their calls in the trace -/

/-- All traces count as alike. -/
def anyTrace : Comparison where
  own _ _ := True
  workers _ _ := True
  own_refl _ := trivial
  workers_refl _ := trivial

theorem actions_of_alike {α : Type} {one other : Action α} (alike : Alike one other)
    (keeps : Keeps Session.Paired one) : Comparison.Actions (fun _ _ => True) one other where
  result session _ := (alike session).1
  session session _ := (alike session).2
  paired := keeps
  trace _ _ _ _ _ := trivial

theorem workplaces_recorded (config : Config) (services : Services (List String)) (depth : Nat) :
    anyTrace.Workplaces config services.recorded services
      (Workplace.inOrder ⟨config, services.recorded, depth⟩)
      (Workplace.inOrder ⟨config, services, depth⟩) where
  opening := actions_of_alike Session.alike_openMissing Session.keeps_paired_openMissing
  closing := actions_of_alike Session.alike_close Session.keeps_paired_close
  listing _ := actions_of_alike (Catalog.alike_listTables _)
    (Catalog.keeps_listTables Session.keeps_paired_openMissing _)
  asking _ := actions_of_alike (Catalog.alike_tableExists _)
    (Catalog.keeps_tableExists Session.keeps_paired_openMissing _)
  lookingUp _ := actions_of_alike (Catalog.alike_getTable _)
    (Catalog.keeps_getTable Session.keeps_paired_openMissing _)
  resolving names limit _ := by
    have alike := @Catalog.alike_resolveAll _ config { services with depth } names limit
    exact actions_of_alike alike
      (Catalog.keeps_resolveAll Session.keeps_paired_openMissing names limit)

/-! ## The ledger of a run -/

section
variable (services : Services (List String))

def Desk.deeds (desk : Desk) : Deeds :=
  (desk.trace ++ desk.workerTrace).calls.map fun call =>
    ⟨call, services.ending desk.session.servers call⟩

def Run.deeds (run : Run) : Deeds :=
  match run.session with
  | none => []
  | some session => (run.trace ++ run.workerTrace).calls.map fun call =>
    ⟨call, services.ending session.servers call⟩

end

section
variable {services : Services (List String)} {α : Type}

theorem deeds_behind {desk : Desk} {outcome : Outcome α} (idle : desk.workerTrace = [])
    (servers : outcome.session.servers = desk.session.servers) :
    (desk.behind outcome).deeds services = desk.deeds services ++ outcome.deeds services := by
  simp [Desk.deeds, Desk.behind, Outcome.deeds, idle, servers]

theorem deeds_behindWorkers {desk : Desk} {outcome : Outcome α}
    (servers : outcome.session.servers = desk.session.servers) :
    (desk.behindWorkers outcome).deeds services =
      desk.deeds services ++ outcome.deeds services := by
  simp [Desk.deeds, Desk.behindWorkers, Outcome.deeds, servers]

end

/-- What was done up to the desk is what can be done with a session that is not closed. -/
def Desk.Grown (config : Config) (services : Services (List String)) (desk : Desk) : Prop :=
  (newSession config).Grows (desk.deeds services) desk.session

theorem grown_behind {config : Config} {services : Services (List String)} {α : Type}
    {action : Action α}
    (grows : ∀ session : Session,
      session.Grows ((action.run session).deeds services) (action.run session).session)
    {desk : Desk} (grown : desk.Grown config services) (idle : desk.workerTrace = []) :
    (desk.behind (action.run desk.session)).Grown config services := by
  have more := grows desk.session
  rw [Desk.Grown, deeds_behind idle more.servers]
  exact grown.trans more

/-- The ledger of a command: until the workers are set to it, all that is done is done in order. -/
def ledger (config : Config) (services : Services (List String)) (depth : Nat) :
    Course ⟨config, services.recorded, depth⟩
      (Workplace.inOrder ⟨config, services.recorded, depth⟩) where
  holds phase desk := desk.Grown config services ∧ (phase ≠ .worked → desk.workerTrace = [])
  ended _ desk := desk.Grown config services
  showing holds _ := holds
  asking holds _ := holds
  ends holds _ := holds.1
  opens := by
    intro phase desk holds early outcome
    have idle : desk.workerTrace = [] := by
      obtain rfl | rfl := early <;> exact holds.2 nofun
    exact ⟨grown_behind Session.tidy_openMissing.grows holds.1 idle, fun _ => idle⟩
  lists holds :=
    ⟨grown_behind (Catalog.tidy_listTables _).grows holds.1 (holds.2 (by decide)), holds.2⟩
  asks holds _ :=
    ⟨grown_behind (Catalog.tidy_tableExists _).grows holds.1 (holds.2 (by decide)), holds.2⟩
  looksUp holds _ :=
    ⟨grown_behind (Catalog.tidy_getTable _).grows holds.1 (holds.2 (by decide)), holds.2⟩
  works := by
    intro desk holds names limit _
    let w : Workplace := ⟨config, services.recorded, depth⟩
    have more : desk.session.Grows
        (((w.inOrder names limit).run desk.session).deeds services)
        ((w.inOrder names limit).run desk.session).session :=
      @Catalog.grows_resolveAll _ config { services with depth } names limit desk.session
    refine ⟨?_, fun unworked => absurd rfl unworked⟩
    rw [Desk.Grown, deeds_behindWorkers more.servers]
    exact holds.1.trans more

theorem grown_new (console : Console) (config : Config) (services : Services (List String))
    (answers : List Answer) : (Desk.new console config answers).Grown config services :=
  Session.Grows.refl _

/-- Closing comes between what the run does by itself and what its workers have done. -/
theorem deeds_inSession (host : Host) (config : Config) (services : Services (List String))
    (verbose : Bool) (answers : List Answer) (job : Job Unit) :
    let desk := (job.runAt (.new host.console config answers)).2
    let run := inSession host.console ⟨config, services.recorded, host.workerDepth⟩ verbose answers
      job
    (∃ early late, desk.deeds services = early ++ late ∧
      run.deeds services = early ++ desk.session.partings services ++ late) ∧
      run.session = some { desk.session with broker := none, registry := none } := by
  intro desk run
  have eq : run = _ :=
    inSession_eq (w := ⟨config, services.recorded, host.workerDepth⟩) verbose
      (Prod.eta (job.runAt (.new host.console config answers))).symm
  have released := Session.close_handles services.recorded desk.session
  have parted := Session.deeds_close services desk.session
  rw [eq]
  refine ⟨⟨desk.trace.calls.map fun call => ⟨call, services.ending desk.session.servers call⟩,
    desk.workerTrace.calls.map fun call => ⟨call, services.ending desk.session.servers call⟩,
    ?_, ?_⟩, congrArg some released⟩
  · simp [Desk.deeds]
  · rw [← parted]
    simp [Run.deeds, Outcome.deeds, released, desk]

/-- A session that is closed among other things: the broker that started is shut down, and as many
registries were handed out as the session holds. -/
theorem parted_of_grows {services : Services (List String)} {before after : Session}
    {early late : Deeds} (grows : before.Grows (early ++ late) after)
    (noBroker : before.broker = none) (noRegistry : before.registry = none) :
    let deeds := early ++ after.partings services ++ late
    deeds.started = after.broker.toList ∧ deeds.shutDown = after.broker.toList ∧
      deeds.registered.length = after.registry.toList.length := by
  intro deeds
  have brokers := grows.brokers_eq
  have unshut := grows.noneShutDown
  have registries := grows.registries
  rw [noBroker] at brokers
  rw [noRegistry] at registries
  simp only [List.filterMap_append, List.append_eq_nil_iff, List.length_append]
    at brokers unshut registries
  refine ⟨?_, ?_, ?_⟩
  · simp [deeds, brokers, Session.partings, List.filterMap_map, Function.comp_def]
  · simp [deeds, unshut, Session.partings, List.filterMap_map, Function.comp_def]
  · simp [deeds, registries, Session.partings, List.filterMap_map, Function.comp_def]

/-- In a run at most one broker starts and at most one registry is handed out. The broker that
started is the one that is shut down, and no handle is held in the end. -/
structure Run.Releases (services : Services (List String)) (run : Run) : Prop where
  broker : (run.deeds services).started.length ≤ 1
  registry : (run.deeds services).registered.length ≤ 1
  shutDown : (run.deeds services).shutDown = (run.deeds services).started
  empty : ∀ session, run.session = some session → session.broker = none ∧ session.registry = none

theorem releases_inSession {host : Host} {config : Config} {services : Services (List String)}
    (verbose : Bool) {answers : List Answer} {job : Job Unit}
    (grown : (job.runAt (.new host.console config answers)).2.Grown config services) :
    (inSession host.console ⟨config, services.recorded, host.workerDepth⟩ verbose answers
      job).Releases services := by
  obtain ⟨⟨early, late, before, deeds⟩, session⟩ :=
    deeds_inSession host config services verbose answers job
  rw [Desk.Grown, before] at grown
  obtain ⟨started, shutDown, registered⟩ := parted_of_grows grown rfl rfl
  rw [← deeds] at started shutDown registered
  constructor
  · rw [started, Option.length_toList]
    split <;> decide
  · rw [registered, Option.length_toList]
    split <;> decide
  · rw [shutDown, started]
  · intro after same
    cases session.symm.trans same
    exact ⟨rfl, rfl⟩

/-- Over any services that leave their calls in the trace, every run releases what it has opened,
whatever it does and however it ends. -/
theorem releases_runBy (servicesOf : Config → Services (List String)) (host : Host)
    (words : List String) (env : Environment) (answers : List Answer) {verbose : Bool}
    {config : Config} {command : Option (CommandName × List String)}
    (starts : start words env = .ready verbose config command) :
    (runBy Workplace.inOrder (fun config => (servicesOf config).recorded) host words env
      answers).Releases (servicesOf config) := by
  simp only [runBy, runWith, starts]
  refine releases_inSession verbose ?_
  exact (ledger config (servicesOf config) host.workerDepth).behind_groupJobBy
    (fun _ _ holds => holds.1) (fun _ _ grown => grown) command
    ⟨grown_new host.console config _ answers, fun _ => rfl⟩

/-! ## The clients of a run -/

def Call.creates : Session.Handle → Call → Bool
  | .broker, .adminClient _ => true
  | .registry, .registryClient _ => true
  | _, _ => false

def CreateOnce (calls : List Call) : Prop :=
  ∀ handle, calls.countP (Call.creates handle) ≤ 1

theorem createOnce_opening (config : Config) (cluster : Cluster) :
    CreateOnce (Catalog.opening config cluster false false).calls := by
  intro handle
  unfold Catalog.opening Catalog.connecting Catalog.registering
  cases cluster.adminCreation <;> cases cluster.adminConnection <;> cases handle <;>
    simp [Response.ifAbsent, Response.andThen, Call.creates, List.countP_cons]

/-- Calls that only ask the registry create nothing, wherever they come between others. -/
theorem CreateOnce.insert {early calls late : List Call} (once : CreateOnce (early ++ late))
    (requests : ∀ call ∈ calls, call.isRequest = true) : CreateOnce (early ++ calls ++ late) := by
  intro handle
  have none : calls.countP (Call.creates handle) = 0 := by
    refine List.countP_eq_zero.mpr fun call called => ?_
    have asks := requests call called
    cases call <;> simp_all [Call.isRequest, Call.creates]
  have before := once handle
  rw [List.countP_append] at before
  rwa [List.countP_append, List.countP_append, none, Nat.add_zero]

def Desk.calls (desk : Desk) : List Call :=
  desk.trace.calls ++ desk.workerTrace.calls

section
variable {α : Type} {action : Action α} {desk : Desk}

theorem createOnce_behind (asking : Asking action) (isOpen : desk.session.isOpen = true)
    (once : CreateOnce desk.calls) :
    (desk.behind (action.run desk.session)).session.isOpen = true ∧
      CreateOnce (desk.behind (action.run desk.session)).calls := by
  obtain ⟨same, requests⟩ := asking desk.session isOpen
  refine ⟨by rw [Desk.session_behind, same, isOpen], ?_⟩
  rw [Desk.calls, Desk.behind, Trace.calls_append]
  exact once.insert requests

theorem createOnce_behindWorkers (asking : Asking action) (isOpen : desk.session.isOpen = true)
    (once : CreateOnce desk.calls) :
    (desk.behindWorkers (action.run desk.session)).session.isOpen = true ∧
      CreateOnce (desk.behindWorkers (action.run desk.session)).calls := by
  obtain ⟨same, requests⟩ := asking desk.session isOpen
  refine ⟨by rw [Desk.session_behindWorkers, same, isOpen], ?_⟩
  rw [← List.append_nil desk.calls] at once
  rw [Desk.calls, Desk.behindWorkers, Trace.calls_append, ← List.append_assoc,
    ← List.append_nil (_ ++ _)]
  exact once.insert requests

end

/-- A first opening creates each client at most once, however it ends. -/
theorem createOnce_opened (config : Config) (cluster : Cluster) {desk : Desk}
    (silent : desk.calls = []) :
    CreateOnce (desk.behind
      ((Session.openMissing (clients config cluster)).run (newSession config))).calls := by
  have response := (Catalog.openMissing_response cluster (sound_new config)).1
  have calls :
      ((Session.openMissing (clients config cluster)).run (newSession config)).trace.calls =
        (Catalog.opening config cluster false false).calls := congrArg Response.calls response
  obtain ⟨own, workers⟩ := List.append_eq_nil_iff.mp silent
  have all : (desk.behind ((Session.openMissing (clients config cluster)).run
      (newSession config))).calls = (Catalog.opening config cluster false false).calls := by
    simp [Desk.calls, Desk.behind, own, workers, calls]
  rw [all]
  exact createOnce_opening config cluster

/-- Before the session is opened nothing has been called; from there on at most one client has been
created for each handle, and behind an opening that ended well both are held. -/
def Desk.Creates (config : Config) (desk : Desk) : Phase → Prop
  | .fresh => desk.session = newSession config ∧ desk.calls = []
  | .unopened => CreateOnce desk.calls
  | .opened => desk.session.isOpen = true ∧ CreateOnce desk.calls
  | .worked => desk.session.isOpen = true ∧ CreateOnce desk.calls

theorem createOnce_of_creates {config : Config} {phase : Phase} {desk : Desk}
    (creates : desk.Creates config phase) : CreateOnce desk.calls := by
  cases phase with
  | fresh =>
    rw [creates.2]
    exact fun handle => Nat.zero_le _
  | unopened => exact creates
  | opened => exact creates.2
  | worked => exact creates.2

/-- The first opening acts on a new session; a later one finds both handles held. -/
theorem creates_behindOpening {config : Config} (cluster : Cluster) {phase : Phase} {desk : Desk}
    (creates : desk.Creates config phase) (early : phase.MayOpen) :
    let outcome := (Session.openMissing (clients config cluster)).run desk.session
    (desk.behind outcome).Creates config (.behindOpening outcome.result) := by
  intro outcome
  obtain rfl | rfl := early
  · obtain ⟨new, silent⟩ := creates
    have once := createOnce_opened config cluster silent
    rw [← new] at once
    cases opened : outcome.result with
    | error failure => exact once
    | ok _ =>
      have isOpen := @isOpen_openedSession config cluster (by rw [Opens, ← new]; exact opened)
      rw [openedSession, ← new] at isOpen
      exact ⟨isOpen, once⟩
  · have same : outcome = ⟨.ok (), desk.session, []⟩ := Session.openMissing_of_open creates.1
    have unchanged : (desk.behind outcome).calls = desk.calls := by
      simp [Desk.calls, Desk.behind, same]
    rw [same] at unchanged ⊢
    exact ⟨creates.1, unchanged ▸ creates.2⟩

/-- The clients that a command creates over its course. -/
def creation (host : Host) (config : Config) (cluster : Cluster) :
    Course (.over host config cluster) (Workplace.inOrder (.over host config cluster)) where
  holds phase desk := desk.Creates config phase
  ended _ desk := CreateOnce desk.calls
  showing {phase} _ holds _ := by
    cases phase <;> exact holds
  asking holds _ := holds
  ends holds _ := createOnce_of_creates holds
  opens holds early := creates_behindOpening cluster holds early
  lists holds := createOnce_behind (Catalog.asking_listTables _) holds.1 holds.2
  asks holds _ := createOnce_behind (Catalog.asking_tableExists _) holds.1 holds.2
  looksUp holds _ := createOnce_behind (Catalog.asking_getTable _) holds.1 holds.2
  works holds names limit _ := by
    have asking := @Catalog.asking_resolveAll config (host.forWorkers cluster) names limit
    exact createOnce_behindWorkers asking holds.1 holds.2

/-- A run that comes to no session calls nothing. -/
theorem silent_refused (console : Console) (verbose : Bool) (error : ConfigError) :
    let run := refused console verbose error
    run.trace = [] ∧ run.workerTrace = [] ∧ run.session = none := by
  intro run
  simp only [run, refused]
  split <;> exact ⟨rfl, rfl, rfl⟩

/-- A run without a session that calls nothing has nothing to release. -/
theorem createOnce_of_unopened {run : Run} (own : run.trace = []) (workers : run.workerTrace = [])
    (unopened : run.session = none) :
    CreateOnce (run.trace.calls ++ run.workerTrace.calls) ∧
      (∀ session, run.session = some session → session.broker = none ∧ session.registry = none) ∧
      (run.session = none → run.trace.calls = [] ∧ run.workerTrace.calls = []) := by
  rw [own, workers]
  refine ⟨fun _ => Nat.zero_le _, fun session same => ?_, fun _ => ⟨rfl, rfl⟩⟩
  rw [unopened] at same
  cases same

theorem createOnce_run (host : Host) (words : List String) (env : Environment) (cluster : Cluster)
    (answers : List Answer) :
    let run := run host words env cluster answers
    CreateOnce (run.trace.calls ++ run.workerTrace.calls) ∧
      (∀ session, run.session = some session → session.broker = none ∧ session.registry = none) ∧
      (run.session = none → run.trace.calls = [] ∧ run.workerTrace.calls = []) := by
  intro run
  have eq : run = _ := run_eq_runBy host words env cluster answers
  rw [eq, runBy, runWith]
  cases start words env with
  | stopped verbose stop => exact createOnce_of_unopened rfl rfl rfl
  | completes completion => exact createOnce_of_unopened rfl rfl rfl
  | refused verbose error =>
    obtain ⟨own, workers, session⟩ := silent_refused host.console verbose error
    exact createOnce_of_unopened own workers session
  | ready verbose config command =>
    have closes := closes_inSession host config cluster verbose answers
      (groupJobBy (Workplace.inOrder (.over host config cluster)) (.over host config cluster)
        command)
    have fresh : (Desk.new host.console config answers).Creates config .fresh := ⟨rfl, rfl⟩
    have once := (creation host config cluster).behind_groupJobBy
      (P := fun desk => CreateOnce desk.calls) (fun _ _ holds => createOnce_of_creates holds)
      (fun _ _ once => once) command fresh
    simp only
    refine ⟨?_, ?_, ?_⟩
    · rw [closes.calls, closes.workers]
      exact once
    · intro session same
      cases closes.session.symm.trans same
      exact ⟨rfl, rfl⟩
    · intro none
      cases closes.session.symm.trans none

/-- Whatever the words, the environment, the answers, the console and the cluster, a run creates at
most one client for the brokers and at most one for the registry. Its session, if it comes to one,
holds no handle in the end; a run that does not come to one calls nothing. This is so for all crews
that may resolve the tables of a batch. Over services that leave their calls in the trace, whichever
of them fail, the run is the same, at most one broker starts, and the one that started is the one
that was shut down. -/
theorem run_releases (host : Host) (words : List String) (env : Environment) (cluster : Cluster)
    (answers : List Answer) :
    let run := run host words env cluster answers
    CreateOnce (run.trace.calls ++ run.workerTrace.calls) ∧
    (∀ session, run.session = some session → session.broker = none ∧ session.registry = none) ∧
    (run.session = none → run.trace.calls = [] ∧ run.workerTrace.calls = []) ∧
    (∀ crews : ∀ w : Workplace, Catalog.Crew w.config w.workerServices,
      Comparison.upToOrder.Runs run
        (runBy (fun w => (crews w).resolve) (fun config => clients config cluster) host words env
          answers)) ∧
    ∀ servicesOf : Config → Services (List String),
      let recorded := runBy Workplace.inOrder (fun config => (servicesOf config).recorded) host
        words env answers
      anyTrace.Runs recorded (runBy Workplace.inOrder servicesOf host words env answers) ∧
      ∀ verbose config command, start words env = .ready verbose config command →
        recorded.Releases (servicesOf config) := by
  intro run
  obtain ⟨once, empty, silent⟩ := createOnce_run host words env cluster answers
  refine ⟨once, empty, silent, ?_, fun servicesOf => ⟨?_, ?_⟩⟩
  · exact fun crews => Comparison.runs_crews crews host words env cluster answers
  · exact Comparison.runs_runBy host (fun config => workplaces_recorded config (servicesOf config) _)
      words env answers
  · exact fun _ _ _ starts => releases_runBy servicesOf host words env answers starts

end TopicTables.CommandLine
