import TopicTables.Proofs.Catalog.Crew
import TopicTables.Proofs.Catalog.Resolving
import TopicTables.Proofs.CommandLine.Batch

/-! # Runs side by side

Two workplaces may differ in what their services leave in the trace, or in how the tables of a batch
are resolved. Where each thing that is done with the catalog ends alike at both, so does every
command, and every run shows the same and leaves the same session.
-/

namespace TopicTables.CommandLine
open TopicTables.Action

/-- What traces have to do with each other to be counted as alike: those of what a run does by
itself, and those of what its workers do. -/
structure Comparison where
  own : Trace → Trace → Prop
  workers : Trace → Trace → Prop
  own_refl : ∀ trace, own trace trace
  workers_refl : ∀ trace, workers trace trace

namespace Comparison

variable {α β : Type} (c : Comparison)

/-- Two desks with one console, in the same session, at which the same has been shown. A registry is
held only beside a broker there. -/
structure Desks (one other : Desk) : Prop where
  console : one.console = other.console
  session : one.session = other.session
  paired : one.session.Paired
  answers : one.answers = other.answers
  shown : one.shown = other.shown
  own : c.own one.trace other.trace
  workers : c.workers one.workerTrace other.workerTrace

/-- Two jobs that end alike at desks that are alike, and leave such desks behind. -/
def Jobs (one other : Job α) : Prop :=
  ∀ first second, c.Desks first second →
    (one.runAt first).1 = (other.runAt second).1 ∧
      c.Desks (one.runAt first).2 (other.runAt second).2

/-- Two actions that end alike and go on with traces that are alike. -/
structure Actions (alike : Trace → Trace → Prop) (one other : Action α) : Prop where
  result : ∀ session, session.Paired → (one.run session).result = (other.run session).result
  session : ∀ session, session.Paired → (one.run session).session = (other.run session).session
  paired : Keeps Session.Paired one
  trace : ∀ session, session.Paired → ∀ first second, alike first second →
    alike (first ++ (one.run session).trace) (second ++ (other.run session).trace)

section
variable {c}

theorem jobs_bind {one other : Job α} {next after : α → Job β} (first : c.Jobs one other)
    (second : ∀ value, c.Jobs (next value) (after value)) :
    c.Jobs (one >>= next) (other >>= after) := by
  intro here there alike
  obtain ⟨ends, behind⟩ := first here there alike
  cases left : one.runAt here with
  | mk result between =>
    cases right : other.runAt there with
    | mk result' between' =>
      rw [left, right] at ends behind
      cases ends
      cases result with
      | error ending =>
        rw [Job.runAt_bind_of_error left, Job.runAt_bind_of_error right]
        exact ⟨rfl, behind⟩
      | ok value =>
        rw [Job.runAt_bind_of_ok left, Job.runAt_bind_of_ok right]
        exact second value between between' behind

theorem jobs_pure (value : α) : c.Jobs (pure value) (pure value) :=
  fun _ _ alike => ⟨rfl, alike⟩

theorem jobs_throw (ending : Ending) : c.Jobs (throw ending : Job α) (throw ending) :=
  fun _ _ alike => ⟨rfl, alike⟩

theorem desks_showing {one other : Desk} (alike : c.Desks one other) (displays : List Display) :
    c.Desks (one.showing displays) (other.showing displays) :=
  { alike with shown := congrArg (· ++ displays) alike.shown }

theorem jobs_display (shown : Display) : c.Jobs (Job.display shown) (Job.display shown) := by
  intro first second alike
  have left := Job.runAt_display first shown
  have right := Job.runAt_display second shown
  rw [← alike.console, ← alike.shown] at right
  cases raised : first.console.fault? first.shown shown with
  | some fault =>
    rw [left, right, raised]
    exact ⟨rfl, alike⟩
  | none =>
    rw [left, right, raised]
    exact ⟨rfl, desks_showing alike [shown]⟩

theorem jobs_showAll (shown : List Display) : c.Jobs (Job.showAll shown) (Job.showAll shown) := by
  induction shown with
  | nil => exact jobs_pure ()
  | cons shown others ih =>
    rw [Job.showAll_cons]
    exact jobs_bind (jobs_display shown) fun _ => ih

theorem jobs_whileWorking (text : String) {one other : Job α} (works : c.Jobs one other) :
    c.Jobs (Job.whileWorking text one) (Job.whileWorking text other) :=
  jobs_bind (jobs_display _) fun _ => jobs_bind works fun value =>
    jobs_bind (jobs_display _) fun _ => jobs_pure value

theorem jobs_die (text : String) (code : Nat) :
    c.Jobs (Job.die text code : Job α) (Job.die text code) :=
  jobs_bind (jobs_display _) fun _ => jobs_throw _

theorem jobs_warnAndExit (text : String) :
    c.Jobs (Job.warnAndExit text : Job α) (Job.warnAndExit text) :=
  jobs_bind (jobs_display _) fun _ => jobs_throw _

theorem jobs_ask (prompt : Display) : c.Jobs (Job.ask prompt) (Job.ask prompt) := by
  intro first second alike
  refine ⟨by simp only [Job.runAt_ask, Desk.nextAnswer, alike.answers], ?_⟩
  exact { alike with
    answers := congrArg List.tail alike.answers
    shown := congrArg (· ++ [prompt]) alike.shown }

theorem jobs_orEnd (result : Except Failure α) : c.Jobs (Job.orEnd result) (Job.orEnd result) := by
  cases result with
  | ok value => exact jobs_pure value
  | error failure =>
    simp only [Job.orEnd]
    split
    · exact jobs_die _ _
    · exact jobs_throw _

theorem jobs_act {one other : Action α} (alike : Actions c.own one other) :
    c.Jobs (Job.act one) (Job.act other) := by
  intro first second desks
  have session := desks.session
  have result := alike.result _ desks.paired
  have after := alike.session _ desks.paired
  have trace := alike.trace _ desks.paired _ _ desks.own
  refine ⟨?_, ?_⟩
  · simp only [Job.runAt_act, ← session, result]
  · simp only [Job.runAt_act]
    rw [← session]
    exact { desks with
      session := after
      paired := alike.paired _ desks.paired
      own := trace }

theorem jobs_actByWorkers {one other : Action α} (alike : Actions c.workers one other) :
    c.Jobs (Job.actByWorkers one) (Job.actByWorkers other) := by
  intro first second desks
  have session := desks.session
  have result := alike.result _ desks.paired
  have after := alike.session _ desks.paired
  have trace := alike.trace _ desks.paired _ _ desks.workers
  refine ⟨?_, ?_⟩
  · simp only [Job.runAt_actByWorkers, ← session, result]
  · simp only [Job.runAt_actByWorkers]
    rw [← session]
    exact { desks with
      session := after
      paired := alike.paired _ desks.paired
      workers := trace }

end

/-! ## Commands -/

/-- Over two services, and with two ways to resolve the tables of a batch, everything that a command
does with the catalog is alike. -/
structure Workplaces (config : Config) (here there : Services (List String))
    (resolve resolve' : Resolver) : Prop where
  opening : Actions c.own (Session.openMissing here) (Session.openMissing there)
  closing : Actions c.own (Session.close here) (Session.close there)
  listing : ∀ database,
    Actions c.own (Catalog.listTables config here database)
      (Catalog.listTables config there database)
  asking : ∀ path,
    Actions c.own (Catalog.tableExists config here path) (Catalog.tableExists config there path)
  lookingUp : ∀ path,
    Actions c.own (Catalog.getTable config here path) (Catalog.getTable config there path)
  resolving : ∀ names limit, 1 ≤ limit →
    Actions c.workers (resolve names limit) (resolve' names limit)

section
variable {c} {config : Config} {here there : Services (List String)} {resolve resolve' : Resolver}
  {depth : Nat}

theorem jobs_readPattern (pattern : Option String) :
    c.Jobs (readPattern pattern) (readPattern pattern) := by
  rw [readPattern_eq]
  cases expressionOf pattern with
  | ok expression => exact jobs_pure _
  | error fault =>
    simp only [refusePattern]
    split
    · exact jobs_die _ _
    · exact jobs_throw _

theorem jobs_matching (expression : Option Pattern.Expression) (topics : List String) :
    c.Jobs (matching expression topics) (matching expression topics) := by
  cases expression with
  | none => exact jobs_pure _
  | some wanted =>
    simp only [matching]
    split
    · exact jobs_throw _
    · exact jobs_pure _

theorem jobs_selectOne (message : String) (choices : List String) :
    c.Jobs (selectOne message choices) (selectOne message choices) := by
  unfold selectOne
  split
  · exact jobs_pure _
  · exact jobs_bind (jobs_ask _) fun _ => jobs_pure _

theorem jobs_chosenTopics (all : Bool) (topics : List String) :
    c.Jobs (chosenTopics all topics) (chosenTopics all topics) := by
  unfold chosenTopics
  split
  · exact jobs_pure _
  · exact jobs_bind (jobs_ask _) fun _ => jobs_pure _

variable (alike : c.Workplaces config here there resolve resolve')
include alike

theorem jobs_openSession :
    c.Jobs (openSession ⟨config, here, depth⟩) (openSession ⟨config, there, depth⟩) :=
  jobs_bind (jobs_whileWorking _ (jobs_act alike.opening)) fun _ => jobs_orEnd _

theorem jobs_loadSomeTopics (pattern : Option String) :
    c.Jobs (loadSomeTopics ⟨config, here, depth⟩ pattern)
      (loadSomeTopics ⟨config, there, depth⟩ pattern) := by
  refine jobs_bind ?_ fun topics => ?_
  · refine jobs_bind (jobs_readPattern pattern) fun expression => ?_
    refine jobs_bind (jobs_openSession alike) fun _ => ?_
    refine jobs_bind (jobs_whileWorking _ (jobs_act (alike.listing _))) fun listed => ?_
    exact jobs_bind (jobs_orEnd _) fun topics => jobs_matching expression topics
  · split
    · exact jobs_bind (jobs_warnAndExit _) fun _ => jobs_pure _
    · exact jobs_pure _

theorem jobs_listTables (pattern : Option String) :
    c.Jobs (listTables ⟨config, here, depth⟩ pattern)
      (listTables ⟨config, there, depth⟩ pattern) :=
  jobs_bind (jobs_loadSomeTopics alike pattern) fun _ => jobs_bind (jobs_display _) fun _ =>
    jobs_bind (jobs_display _) fun _ => jobs_display _

theorem jobs_chosenTopic (topic : Option String) :
    c.Jobs (chosenTopic ⟨config, here, depth⟩ topic)
      (chosenTopic ⟨config, there, depth⟩ topic) := by
  cases topic with
  | some topic => exact jobs_pure topic
  | none =>
    refine jobs_bind (jobs_loadSomeTopics alike none) fun topics => ?_
    refine jobs_bind (jobs_selectOne _ topics) fun picked => ?_
    split
    · exact jobs_pure _
    · exact jobs_warnAndExit _

theorem jobs_describeTable (topic : Option String) :
    c.Jobs (describeTable ⟨config, here, depth⟩ topic)
      (describeTable ⟨config, there, depth⟩ topic) := by
  refine jobs_bind (jobs_chosenTopic alike topic) fun topic => ?_
  refine jobs_bind (jobs_openSession alike) fun _ => ?_
  refine jobs_bind (jobs_whileWorking _ (jobs_act (alike.lookingUp _))) fun found => ?_
  refine jobs_bind (jobs_orEnd found) fun table => jobs_bind (jobs_display _) fun _ => ?_
  split
  · exact jobs_bind (jobs_display _) fun _ => jobs_showAll _
  · exact jobs_throw _

theorem jobs_reportOn {parallel : Int} (positive : 1 ≤ parallel) (chosen : List String) :
    c.Jobs (reportOn (resolve chosen parallel) chosen)
      (reportOn (resolve' chosen parallel) chosen) := by
  have works := jobs_actByWorkers (alike.resolving chosen parallel positive)
  refine jobs_bind (jobs_whileWorking _ works) fun resolved => ?_
  refine jobs_bind (jobs_orEnd resolved) fun resolutions => jobs_bind (jobs_display _) fun _ => ?_
  split
  · exact jobs_display _
  · exact jobs_die _ _

theorem jobs_describeTablesBy (pattern : Option String) (all : Bool) (parallel : Int) :
    c.Jobs (describeTablesBy resolve ⟨config, here, depth⟩ pattern all parallel)
      (describeTablesBy resolve' ⟨config, there, depth⟩ pattern all parallel) := by
  unfold describeTablesBy
  split
  · exact jobs_die _ _
  · next enough =>
    refine jobs_bind (jobs_loadSomeTopics alike pattern) fun topics => ?_
    refine jobs_bind (jobs_chosenTopics all topics) fun chosen => ?_
    split
    · exact jobs_warnAndExit _
    · exact jobs_reportOn alike (Int.not_lt.mp enough) chosen

theorem jobs_tableExists (topic : String) :
    c.Jobs (tableExists ⟨config, here, depth⟩ topic)
      (tableExists ⟨config, there, depth⟩ topic) := by
  refine jobs_bind (jobs_openSession alike) fun _ => ?_
  refine jobs_bind (jobs_act (alike.asking _)) fun asked => ?_
  refine jobs_bind (jobs_orEnd asked) fun there => ?_
  split
  · exact jobs_display _
  · exact jobs_die _ _

theorem jobs_performBy (command : Command) :
    c.Jobs (performBy resolve ⟨config, here, depth⟩ command)
      (performBy resolve' ⟨config, there, depth⟩ command) := by
  cases command with
  | listDatabases => exact jobs_bind (jobs_display _) fun _ => jobs_display _
  | listTables pattern => exact jobs_listTables alike pattern
  | describeTable topic => exact jobs_describeTable alike topic
  | describeTables pattern all parallel => exact jobs_describeTablesBy alike pattern all parallel
  | tableExists topic => exact jobs_tableExists alike topic

theorem jobs_groupJobBy (command : Option (CommandName × List String)) :
    c.Jobs (groupJobBy resolve ⟨config, here, depth⟩ command)
      (groupJobBy resolve' ⟨config, there, depth⟩ command) := by
  cases command with
  | none => exact jobs_throw _
  | some command =>
    obtain ⟨name, words⟩ := command
    simp only [groupJobBy]
    cases readCommand name words with
    | error stop => exact jobs_throw _
    | ok command => exact jobs_performBy alike command

end

/-! ## Runs -/

/-- Two runs that end alike, show the same and leave the same session. -/
structure Runs (one other : Run) : Prop where
  ending : one.ending = other.ending
  shown : one.shown = other.shown
  session : one.session = other.session
  own : c.own one.trace other.trace
  workers : c.workers one.workerTrace other.workerTrace

variable {c}

theorem runs_refl (run : Run) : c.Runs run run :=
  ⟨rfl, rfl, rfl, c.own_refl _, c.workers_refl _⟩

theorem desks_new (console : Console) (config : Config) (answers : List Answer) :
    c.Desks (.new console config answers) (.new console config answers) :=
  ⟨rfl, rfl, fun held => (nomatch held), rfl, rfl, c.own_refl _, c.workers_refl _⟩

/-- What is alike in every workplace is alike in every run, whatever the words ask for. -/
theorem runs_runBy {resolverOf resolverOf' : Workplace → Resolver}
    {servicesOf servicesOf' : Config → Services (List String)} (host : Host)
    (alike : ∀ config, c.Workplaces config (servicesOf config) (servicesOf' config)
      (resolverOf ⟨config, servicesOf config, host.workerDepth⟩)
      (resolverOf' ⟨config, servicesOf' config, host.workerDepth⟩))
    (words : List String) (env : Environment) (answers : List Answer) :
    c.Runs (runBy resolverOf servicesOf host words env answers)
      (runBy resolverOf' servicesOf' host words env answers) := by
  unfold runBy runWith
  cases start words env with
  | stopped verbose stop => exact runs_refl _
  | completes completion => exact runs_refl _
  | refused verbose error => exact runs_refl _
  | ready verbose config command =>
    obtain ⟨ends, desks⟩ :=
      jobs_groupJobBy (alike config) command _ _ (desks_new host.console config answers)
    have closed := (alike config).closing.result _ desks.paired
    have left := (alike config).closing.session _ desks.paired
    have trace := (alike config).closing.trace _ desks.paired _ _ desks.own
    simp only
    rw [inSession_eq (w := ⟨config, servicesOf config, host.workerDepth⟩) verbose
        (Prod.eta _).symm,
      inSession_eq (w := ⟨config, servicesOf' config, host.workerDepth⟩) verbose
        (Prod.eta _).symm,
      ← ends, ← desks.session, ← closed, ← left]
    exact ⟨rfl, desks.shown, rfl, trace, desks.workers⟩

/-! ## Crews -/

/-- The traces are the same, but for the order in which workers made their calls. -/
def upToOrder : Comparison where
  own := Eq
  workers one other := one.calls.Perm other.calls
  own_refl _ := rfl
  workers_refl trace := .refl trace.calls

theorem actions_self {action : Action α} (keeps : Keeps Session.Paired action) :
    Actions Eq action action where
  result _ _ := rfl
  session _ _ := rfl
  paired := keeps
  trace _ _ _ _ same := congrArg (· ++ _) same

theorem workplaces_crew {w : Workplace} (steady : w.workerServices.Steady)
    (crew : Catalog.Crew w.config w.workerServices) :
    upToOrder.Workplaces w.config w.services w.services w.inOrder crew.resolve where
  opening := actions_self Session.keeps_paired_openMissing
  closing := actions_self Session.keeps_paired_close
  listing _ := actions_self (Catalog.keeps_listTables Session.keeps_paired_openMissing _)
  asking _ := actions_self (Catalog.keeps_tableExists Session.keeps_paired_openMissing _)
  lookingUp _ := actions_self (Catalog.keeps_getTable Session.keeps_paired_openMissing _)
  resolving names limit positive := by
    have same (session : Session) (paired : session.Paired) :=
      crew.run_resolve steady paired names positive
    refine ⟨fun session paired => (same session paired).1.symm,
      fun session paired => (same session paired).2.1.symm,
      Catalog.keeps_resolveAll Session.keeps_paired_openMissing _ _,
      fun session paired first second alike => ?_⟩
    simp only [upToOrder, Trace.calls_append]
    exact alike.append (same session paired).2.2.symm

/-- Whichever crews resolve the batches, a run over the clients of a cluster is the same up to the
order in which they make their calls. -/
theorem runs_crews (crews : ∀ w : Workplace, Catalog.Crew w.config w.workerServices) (host : Host)
    (words : List String) (env : Environment) (cluster : Cluster) (answers : List Answer) :
    upToOrder.Runs (run host words env cluster answers)
      (runBy (fun w => (crews w).resolve) (fun config => Catalog.clients config cluster) host words
        env answers) := by
  rw [run_eq_runBy]
  refine runs_runBy host (fun config => ?_) words env answers
  refine workplaces_crew (w := .over host config cluster) ?_ (crews _)
  rw [workerServices_over]
  exact Services.steady_overClients _ _

end Comparison

end TopicTables.CommandLine
