import TopicTables.Proofs.Catalog.Run
import TopicTables.Proofs.CommandLine.Presenting

/-! # Invocations of the program

What the words of a command line come to is told before there is a catalog, from the words and the
environment alone. Only behind that a session is begun, in which a job is done, and which is closed
however the job ends.
-/

namespace TopicTables.CommandLine
open TopicTables.Catalog (clients)

/-- What the words come to before there is a catalog. -/
inductive Start where
  | stopped (verbose : Bool) (stop : Stop)
  | completes (completion : Completion)
  | refused (verbose : Bool) (error : ConfigError)
  | ready (verbose : Bool) (config : Config) (command : Option (CommandName × List String))

/-- Read the words of the program and of the group and make a configuration. -/
def start (words : List String) (env : Environment) : Start :=
  match readProgram words with
  | .error stop => .stopped false stop
  | .ok (.completion completion) => .completes completion
  | .ok (.group verbose words) =>
    match readGroup words with
    | .error stop => .stopped verbose stop
    | .ok group =>
      match Config.fromEnvironment group.catalogName group.settings env with
      | .error error => .refused verbose error
      | .ok config => .ready verbose config group.command

/-- A run over any services that does any job with the words of the command. -/
def runWith (job : Workplace → Option (CommandName × List String) → Job Unit)
    (servicesOf : Config → Services (List String)) (host : Host) (words : List String)
    (env : Environment) (answers : List Answer) : Run :=
  match start words env with
  | .stopped verbose stop => stopped verbose stop
  | .completes completion => completed (host.complete completion)
  | .refused verbose error => refused host.console verbose error
  | .ready verbose config command =>
    let w : Workplace := ⟨config, servicesOf config, host.workerDepth⟩
    inSession host.console w verbose answers (job w command)

theorem run_eq_runWith (host : Host) (words : List String) (env : Environment) (cluster : Cluster)
    (answers : List Answer) :
    run host words env cluster answers =
      runWith groupJob (fun config => clients config cluster) host words env answers := by
  unfold run runWith start
  cases readProgram words with
  | error stop => rfl
  | ok program =>
    cases program with
    | completion completion => rfl
    | group verbose words =>
      simp only
      cases readGroup words with
      | error stop => rfl
      | ok group =>
        simp only
        cases Config.fromEnvironment group.catalogName group.settings env <;> rfl

/-! ## In a session -/

abbrev Workplace.over (host : Host) (config : Config) (cluster : Cluster) : Workplace :=
  ⟨config, clients config cluster, host.workerDepth⟩

/-- A cluster with the room that workers have. -/
abbrev Host.forWorkers (host : Host) (cluster : Cluster) : Cluster :=
  { cluster with depth := host.workerDepth }

theorem workerServices_over (host : Host) (config : Config) (cluster : Cluster) :
    (Workplace.over host config cluster).workerServices =
      clients config (host.forWorkers cluster) := rfl

def Desk.new (console : Console) (config : Config) (answers : List Answer) : Desk where
  console := console
  session := Catalog.newSession config
  answers := answers
  shown := []
  trace := Catalog.creationTrace config
  workerTrace := []

theorem inSession_eq {console : Console} {w : Workplace} (verbose : Bool) {answers : List Answer}
    {job : Job Unit} {result : Except Ending Unit} {desk : Desk}
    (ran : job.runAt (.new console w.config answers) = (result, desk)) :
    let closed := (Session.close w.services).run desk.session
    inSession console w verbose answers job =
      { ending := match closed.result with
          | .error failure => .escape (.failure failure)
          | .ok () => .ofResult result
        verbose, shown := desk.shown, trace := desk.trace ++ closed.trace,
        workerTrace := desk.workerTrace, session := some closed.session } := by
  intro closed
  have ran : (ExceptT.run job).run (.new console w.config answers) = (result, desk) := ran
  simp only [Desk.new] at ran
  simp only [inSession, ran, closed]
  cases ((Session.close w.services).run desk.session).result <;> cases result <;> rfl

/-- The clients of a cluster are released without a call, and nothing can fail in that. -/
theorem close_clients (config : Config) (cluster : Cluster) (session : Session) :
    ((Session.close (clients config cluster)).run session).result = .ok () ∧
      ((Session.close (clients config cluster)).run session).trace.calls = [] := by
  cases held : session.broker <;>
    simp [Session.close, Action.run_bind, held, clients, Services.overClients,
      BrokerSession.shutdown, Reply.ofLog]

/-- A run ends as its job did at a desk: nothing more is shown or called, and no handle is held in
the end. -/
structure Run.Closes (run : Run) (result : Except Ending Unit) (desk : Desk) : Prop where
  ending : run.ending = .ofResult result
  shown : run.shown = desk.shown
  calls : run.trace.calls = desk.trace.calls
  workers : run.workerTrace = desk.workerTrace
  session : run.session = some { desk.session with broker := none, registry := none }

theorem closes_inSession (host : Host) (config : Config) (cluster : Cluster) (verbose : Bool)
    (answers : List Answer) (job : Job Unit) :
    (inSession host.console (.over host config cluster) verbose answers job).Closes
      (job.runAt (.new host.console config answers)).1
      (job.runAt (.new host.console config answers)).2 := by
  have run := inSession_eq (w := .over host config cluster) verbose
    (Prod.eta (job.runAt (.new host.console config answers))).symm
  obtain ⟨released, quiet⟩ :=
    close_clients config cluster (job.runAt (.new host.console config answers)).2.session
  rw [run]
  refine ⟨?_, rfl, ?_, rfl, ?_⟩
  · simp only [released]
  · simp only [Trace.calls_append, quiet, List.append_nil]
  · simp only [Session.close_handles]

/-- A run ends and shows as its job does at a new desk. -/
theorem presents_inSession {host : Host} {config : Config} {answers : List Answer} {job : Job Unit}
    {ending : Ending} {displays : List Display}
    (presents : job.Presents (.new host.console config answers) ending displays)
    (cluster : Cluster) (verbose : Bool) :
    (inSession host.console (.over host config cluster) verbose answers job).Presents host.console
      ending displays := by
  have closes := closes_inSession host config cluster verbose answers job
  exact ⟨closes.ending.trans presents.ending, closes.shown.trans presents.shown⟩

/-! ## Accepted command lines -/

/-- The words are accepted: they ask for a command, and the environment gives a configuration. -/
def Asks (words : List String) (env : Environment) (config : Config) (command : Command) : Prop :=
  ∃ verbose name rest, start words env = .ready verbose config (some (name, rest)) ∧
    readCommand name rest = .ok command

/-- What is asked for is done. -/
theorem run_of_asks {words : List String} {env : Environment} {config : Config} {command : Command}
    (asks : Asks words env config command) (host : Host) (cluster : Cluster)
    (answers : List Answer) :
    ∃ verbose, run host words env cluster answers =
      inSession host.console (.over host config cluster) verbose answers
        (perform (.over host config cluster) command) := by
  obtain ⟨verbose, name, rest, starts, reads⟩ := asks
  refine ⟨verbose, ?_⟩
  simp only [run_eq_runWith, runWith, starts, groupJob, reads]

end TopicTables.CommandLine
