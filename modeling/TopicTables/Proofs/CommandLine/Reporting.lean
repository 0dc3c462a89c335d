import TopicTables.Proofs.CommandLine.Comparison

/-! # Reports on batches

The report on a batch has one row for each chosen topic, told by what looking the topic up in a new
catalog comes to. That the session has been opened and that other look-ups came before, or go on at
the same time, does not show in it. All of it is handed to the console, which shows what it can.
-/

namespace TopicTables.CommandLine
open TopicTables.Catalog (clients newSession)

/-! ## What is due -/

section
variable (config : Config) (cluster : Cluster)

/-- What looking up the table of a topic in a new catalog comes to. -/
def tableFor (topic : String) : Except Failure Table :=
  ((Catalog.getTable config (clients config cluster) ⟨config.defaultDatabase, topic⟩).run
    (newSession config)).result

/-- The row of a topic: the number of columns of its table, or why there is no table. -/
def rowFor (topic : String) : List String :=
  match tableFor config cluster topic with
  | .ok table => [topic, toString table.columns.length, "[ok]OK[/]"]
  | .error failure => [topic, "-", "[err]FAIL[/] " ++ failure.message]

def missed (topics : List String) : List String :=
  topics.filter fun topic => !(tableFor config cluster topic).isOk

def reportCode (topics : List String) : Nat :=
  if (missed config cluster topics).isEmpty then succeeded else failed

def verdict (topics : List String) : Display :=
  let missing := missed config cluster topics
  if missing.isEmpty then .success ("Resolved " ++ toString topics.length ++ " topic(s).")
  else .error ("Failed to resolve " ++ toString missing.length ++ " topic(s).")

def results (chosen : List String) : Display :=
  .table Report.resultsTitle ["Topic", "Columns", "Result"] (chosen.map (rowFor config cluster))

/-- What is handed over of chosen topics: the results and the verdict. -/
def report (chosen : List String) : List Display :=
  spinner ("Resolving " ++ toString chosen.length ++ " topic(s)...") ++
    [results config cluster chosen, verdict config cluster chosen]

theorem isEmpty_missed_iff (topics : List String) : (missed config cluster topics).isEmpty = true ↔
    ∀ topic ∈ topics, ∃ table, tableFor config cluster topic = .ok table := by
  rw [missed, List.isEmpty_iff, List.filter_eq_nil_iff]
  refine forall₂_congr fun topic _ => ?_
  cases tableFor config cluster topic <;> simp [Except.isOk, Except.toBool]

/-- A report ends well just when every topic has a table. -/
theorem reportCode_eq_succeeded_iff (topics : List String) :
    reportCode config cluster topics = succeeded ↔
      ∀ topic ∈ topics, ∃ table, tableFor config cluster topic = .ok table := by
  rw [← isEmpty_missed_iff, reportCode]
  split
  · next none => exact iff_of_true rfl none
  · next some => exact iff_of_false (by decide) some

end

/-- The topics that are chosen from a list: all of them, or those at the places that the user
answers, which are none when the prompt is cancelled. -/
inductive Chooses (topics : List String) (answers : List Answer) : Bool → List String → Prop where
  | all : Chooses topics answers true topics
  | cancelled (cancels : answers.head?.getD .cancelled = .cancelled) :
    Chooses topics answers false []
  | places (places : List (Fin topics.length))
      (answer : answers.head? = some (.several (places.map Fin.val))) :
    Chooses topics answers false (places.map topics.get)

/-- What is shown where topics are chosen. -/
def choosing (all : Bool) (topics : List String) : List Display :=
  if all then [] else [Picker.prompt topics]

/-- What is handed over of topics that are listed and no more. -/
def listed (config : Config) (topics : List String) : List Display :=
  openingNotice ++ (loadingNotice ++
    if topics = [] then [.warning "No topics found."]
    else [.header "Topics",
      .info ("Database: " ++ config.defaultDatabase ++ " | Topics: " ++ toString topics.length),
      .table "Topics" ["Topic"] (topics.map ([·]))])

/-- What is handed over of topics that are listed and of those that are chosen from them. -/
def batch (config : Config) (cluster : Cluster) (all : Bool) (topics chosen : List String) :
    List Display :=
  openingNotice ++ (loadingNotice ++
    if topics = [] then [.warning "No topics found."]
    else choosing all topics ++
      if chosen = [] then [.warning "No topics selected."] else report config cluster chosen)

/-- A run lists topics and reports on those that are chosen from them. It ends well just when the
console takes the whole report and each of them has a table. -/
structure Run.ReportsOn (run : Run) (console : Console) (config : Config) (cluster : Cluster)
    (all : Bool) (topics chosen : List String) : Prop where
  presents : run.Presents console (.exit (reportCode config cluster chosen))
    (batch config cluster all topics chosen)
  succeeds : run.exitCode = succeeded ↔
    console.Takes (batch config cluster all topics chosen) ∧
      ∀ topic ∈ chosen, ∃ table, tableFor config cluster topic = .ok table

/-! ## At a desk -/

section
variable {config : Config} {cluster : Cluster} {topics chosen : List String} {all : Bool}
  {desk : Desk}

def resolutionFor (config : Config) (cluster : Cluster) (topic : String) : Resolution :=
  ⟨topic, (tableFor config cluster topic).mapError Failure.message⟩

theorem resultRow_resolutionFor (topic : String) :
    Report.resultRow (.ofResolution (resolutionFor config cluster topic)) =
      rowFor config cluster topic := by
  unfold resolutionFor rowFor
  cases tableFor config cluster topic <;> rfl

theorem failuresOf_resolutionFor (topics : List String) :
    failuresOf (topics.map (resolutionFor config cluster)) =
      (missed config cluster topics).map (resolutionFor config cluster) := by
  have same (topic : String) : (resolutionFor config cluster topic).isOk =
      (tableFor config cluster topic).isOk := by
    unfold resolutionFor Resolution.isOk
    cases tableFor config cluster topic <;> rfl
  rw [failuresOf, missed, List.filter_map]
  simp only [Function.comp_def, same]

theorem presents_reportOn {resolve : Action (List Resolution)}
    (resolves : (resolve.run desk.session).result =
      .ok (chosen.map (resolutionFor config cluster))) :
    (reportOn resolve chosen).Presents desk (.exit (reportCode config cluster chosen))
      (report config cluster chosen) := by
  have rows : chosen.map (rowFor config cluster) =
      ((chosen.map (resolutionFor config cluster)).map .ofResolution).map Report.resultRow := by
    rw [List.map_map, List.map_map]
    exact List.map_congr_left fun topic _ => (resultRow_resolutionFor topic).symm
  rw [report, results, rows]
  refine .bind_whileWorking _ (Job.runAt_actByWorkers _ resolve) rfl rfl ?_
  rw [Desk.session_showing, resolves]
  refine .bind_quiet (Job.runAt_orEnd_ok _ _) rfl rfl ?_
  refine .bind_display _ ?_
  rw [failuresOf_resolutionFor, List.isEmpty_map, List.length_map, List.length_map, reportCode,
    verdict]
  split
  · exact Job.presents_display _ _
  · exact Job.presents_die _ _ _

theorem picked_places (places : List (Fin topics.length)) :
    Picker.picked topics (.several (places.map Fin.val)) = places.map topics.get := by
  simp only [Picker.picked, List.filterMap_map]
  exact List.filterMap_eq_map_iff_forall_eq_some.mpr fun place _ =>
    List.getElem?_eq_getElem place.isLt

/-- Behind the prompt the whole names at the chosen places are in hand. -/
theorem runAt_chosenTopics (chooses : Chooses topics desk.answers all chosen) :
    ∃ behind, (chosenTopics all topics).runAt desk = (.ok chosen, behind) ∧
      behind.console = desk.console ∧ behind.session = desk.session ∧
      behind.shown = desk.shown ++ choosing all topics := by
  cases chooses with
  | all => exact ⟨desk, rfl, rfl, rfl, (List.append_nil _).symm⟩
  | cancelled cancels =>
    refine ⟨desk.asking (Picker.prompt topics), ?_, rfl, rfl, rfl⟩
    have picked : Picker.picked topics desk.nextAnswer = [] := by
      rw [Desk.nextAnswer, cancels]
      rfl
    exact Job.runAt_bind_of_ok (Job.runAt_ask desk _) |>.trans (by rw [picked]; rfl)
  | places places answer =>
    refine ⟨desk.asking (Picker.prompt topics), ?_, rfl, rfl, rfl⟩
    have picked : Picker.picked topics desk.nextAnswer = places.map topics.get := by
      rw [Desk.nextAnswer, answer]
      exact picked_places places
    exact Job.runAt_bind_of_ok (Job.runAt_ask desk _) |>.trans (by rw [picked]; rfl)

theorem presents_reportFrom {resolve : Resolver} {parallel : Int}
    (chooses : Chooses topics desk.answers all chosen)
    (resolves : ((resolve chosen parallel).run desk.session).result =
      .ok (chosen.map (resolutionFor config cluster))) :
    (reportFrom resolve all parallel topics).Presents desk
      (.exit (reportCode config cluster chosen)) (choosing all topics ++
        if chosen = [] then [.warning "No topics selected."]
        else report config cluster chosen) := by
  obtain ⟨behind, ran, console, same, shown⟩ := runAt_chosenTopics chooses
  have taken : (desk.console.handed desk.shown (choosing all topics)).fault = none := by
    cases all <;> rfl
  refine .bind ran console shown taken ?_
  by_cases none : chosen = []
  · subst none
    exact Job.presents_warnAndExit _ _
  · rw [if_neg none, if_neg (mt List.isEmpty_iff.mp none)]
    exact presents_reportOn (same ▸ resolves)

end

/-! ## At a new desk -/

section
variable {config : Config} {cluster : Cluster} {answers : List Answer} {pattern : Option String}
  {expression : Option Pattern.Expression} {subjects : List String}

theorem settled_new (topic : String) :
    Catalog.settled config (clients config cluster) (newSession config)
      ⟨config.defaultDatabase, topic⟩ = tableFor config cluster topic := by
  have steady : (clients config cluster).Steady := Services.steady_overClients cluster _
  rw [tableFor, ← Catalog.result_getTable_reopened steady (sound_new config).paired 0]
  rfl

/-- In the session that was opened first, a batch comes to what its topics come to in a new catalog.
-/
theorem resolveAll_openedSession (names : List String) {limit : Int} (positive : 1 ≤ limit) :
    ((Catalog.resolveAll config (clients config cluster) names limit).run
      (openedSession config cluster)).result = .ok (names.map (resolutionFor config cluster)) := by
  have steady : (clients config cluster).Steady := Services.steady_overClients cluster _
  have same : Catalog.settledResolution config (clients config cluster) (newSession config) =
      resolutionFor config cluster := by
    funext topic
    rw [Catalog.settledResolution, resolutionFor, ← settled_new]
    rfl
  obtain ⟨result, -, -⟩ :=
    @Catalog.run_resolveEach _ config _ _ steady (sound_new config).paired names 1
  rw [same] at result
  rw [Catalog.resolveAll, if_neg (Int.not_lt.mpr positive)]
  exact result

/-- Whatever is done with the topics: where there are none the job ends with a warning, and else it
goes on at a desk with the session opened. -/
theorem presents_loadSomeTopics {host : Host} (reads : expressionOf pattern = .ok expression)
    (opens : Opens config cluster)
    (lists : (RegistryClient.listSubjects cluster).result = .ok subjects)
    (searchable : Searchable expression subjects) {next : List String → Job Unit}
    {ending : Ending} {displays : List Display}
    (unfound : candidates expression subjects = [] → ending = .exit succeeded)
    (found : candidates expression subjects ≠ [] → ∀ desk, Loaded config cluster answers desk →
      (next (candidates expression subjects)).Presents desk ending displays) :
    (loadSomeTopics (.over host config cluster) pattern >>= next).Presents
      (.new host.console config answers) ending (openingNotice ++ (loadingNotice ++
        if candidates expression subjects = [] then [.warning "No topics found."]
        else displays)) := by
  rw [loadSomeTopics_bind, readPattern_eq, reads, pure_bind]
  refine presents_topicsFor opens lists fun desk loaded => ?_
  rw [matching_of_searchable searchable, pure_bind]
  by_cases none : candidates expression subjects = []
  · rw [if_pos none, if_pos (List.isEmpty_iff.mpr none), unfound none]
    exact Job.presents_warnAndExit _ _
  · rw [if_neg none, if_neg (mt List.isEmpty_iff.mp none)]
    exact found none desk loaded

end

/-! ## Runs -/

section
variable {config : Config} {cluster : Cluster} {answers : List Answer} {topics chosen : List String}
  {all : Bool}

theorem Chooses.eq_nil (chooses : Chooses [] answers all chosen) : chosen = [] := by
  cases chooses with
  | places places =>
    cases places with
    | nil => rfl
    | cons place places => exact place.elim0
  | _ => rfl

theorem Run.ReportsOn.of_presents {run : Run} {console : Console}
    (presents : run.Presents console (.exit (reportCode config cluster chosen))
      (batch config cluster all topics chosen)) :
    run.ReportsOn console config cluster all topics chosen where
  presents
  succeeds := by
    rw [presents.exitCode_eq_iff (by decide), reportCode_eq_succeeded_iff]

variable (host : Host) {pattern : Option String} {expression : Option Pattern.Expression}
  {subjects : List String} {parallel : Int}

theorem presents_describeTables (enough : 1 ≤ parallel)
    (reads : expressionOf pattern = .ok expression) (opens : Opens config cluster)
    (lists : (RegistryClient.listSubjects cluster).result = .ok subjects)
    (searchable : Searchable expression subjects)
    (chooses : Chooses (candidates expression subjects) answers all chosen) :
    (describeTables (.over host config cluster) pattern all parallel).Presents
      (.new host.console config answers)
      (.exit (reportCode config (host.forWorkers cluster) chosen))
      (batch config (host.forWorkers cluster) all (candidates expression subjects) chosen) := by
  rw [describeTables_eq, describeTablesBy, if_neg (Int.not_lt.mpr enough)]
  refine presents_loadSomeTopics reads opens lists searchable ?_ ?_
  · intro none
    rw [none] at chooses
    rw [chooses.eq_nil]
    rfl
  · intro some desk loaded
    rw [← loaded.answers] at chooses
    refine presents_reportFrom chooses ?_
    rw [loaded.session, ← openedSession_forWorkers config cluster host, Workplace.inOrder,
      workerServices_over]
    exact resolveAll_openedSession chosen enough

theorem presents_listTables (reads : expressionOf pattern = .ok expression)
    (opens : Opens config cluster)
    (lists : (RegistryClient.listSubjects cluster).result = .ok subjects)
    (searchable : Searchable expression subjects) :
    (listTables (.over host config cluster) pattern).Presents (.new host.console config answers)
      (.exit succeeded) (listed config (candidates expression subjects)) := by
  refine presents_loadSomeTopics reads opens lists searchable (fun _ => rfl) fun _ desk _ => ?_
  exact .bind_display _ (.bind_display _ (Job.presents_display _ _))

/-- A pattern that crosses itself in one of the subjects ends the command before anything is chosen.
-/
theorem presents_describeTables_of_crossed (enough : 1 ≤ parallel)
    (reads : expressionOf pattern = .ok expression) (opens : Opens config cluster)
    (lists : (RegistryClient.listSubjects cluster).result = .ok subjects)
    (crosses : ¬ Searchable expression subjects) :
    (describeTables (.over host config cluster) pattern all parallel).Presents
      (.new host.console config answers) (.escape .crossedGroup)
      (openingNotice ++ loadingNotice) := by
  rw [describeTables_eq, describeTablesBy, if_neg (Int.not_lt.mpr enough), loadSomeTopics_bind,
    readPattern_eq, reads, pure_bind]
  have throws (desk : Desk) (next : List String → Job Unit) :
      (matching expression subjects >>= next).Presents desk (.escape .crossedGroup) [] := by
    rw [matching_of_crossed crosses]
    exact Job.presents_throw _ _
  exact presents_topicsFor opens lists fun desk _ => throws desk _

theorem subjectTexts_of_lists
    (lists : (RegistryClient.listSubjects cluster).result = .ok subjects) :
    RegistryClient.subjectTexts cluster.listing = .ok subjects := by
  cases access : cluster.registryAccess <;>
    simp_all [RegistryClient.listSubjects, Reply.ofCall, Reply.ofExcept]

theorem subjectTexts_arr (items : List Json) :
    RegistryClient.subjectTexts (.arr items) = .ok (items.map Json.text) := by
  cases items <;> rfl

theorem reportsOn_of_searchable {words : List String} {env : Environment}
    (asks : Asks words env config (.describeTables pattern all parallel)) (enough : 1 ≤ parallel)
    (reads : expressionOf pattern = .ok expression) (opens : Opens config cluster)
    (lists : (RegistryClient.listSubjects cluster).result = .ok subjects)
    (searchable : Searchable expression subjects)
    (chooses : Chooses (candidates expression subjects) answers all chosen) :
    (run host words env cluster answers).ReportsOn host.console config (host.forWorkers cluster)
      all (candidates expression subjects) chosen := by
  obtain ⟨verbose, eq⟩ := run_of_asks asks host cluster answers
  have presents := presents_describeTables host enough reads opens lists searchable chooses
  rw [eq]
  exact .of_presents (presents_inSession presents cluster verbose)

/-- Over a cluster that is reached and lists its subjects, a batch of topics is reported on
faithfully. The subjects are the texts of what the registry lists. The topics are those in which the
pattern is found, just as they are handed to the console when they are only listed. Each of those
that are chosen has its row, told by what looking it up comes to for a worker in a new catalog. The
run ends well just when the console takes the whole report and each of them has a table; where the
console raises at something, the run ends with that. All this is so whichever crews resolve the
batch. Where the search for the pattern crosses itself in one of the subjects, the run ends with
that and reports on nothing. -/
theorem run_presents_report {words : List String} {env : Environment}
    (asks : Asks words env config (.describeTables pattern all parallel)) (enough : 1 ≤ parallel)
    (reads : expressionOf pattern = .ok expression) (opens : Opens config cluster)
    (lists : (RegistryClient.listSubjects cluster).result = .ok subjects)
    (chooses : Chooses (candidates expression subjects) answers all chosen) :
    RegistryClient.subjectTexts cluster.listing = .ok subjects ∧
    (∀ items, cluster.listing = .arr items → subjects = items.map Json.text) ∧
    (Searchable expression subjects →
      let topics := candidates expression subjects
      (run host words env cluster answers).ReportsOn host.console config (host.forWorkers cluster)
        all topics chosen ∧
      (∀ crews : ∀ w : Workplace, Catalog.Crew w.config w.workerServices,
        (runBy (fun w => (crews w).resolve) (fun config => clients config cluster) host words env
          answers).ReportsOn host.console config (host.forWorkers cluster) all topics chosen) ∧
      ∀ host' words' env' answers', Asks words' env' config (.listTables pattern) →
        (run host' words' env' cluster answers').Presents host'.console (.exit succeeded)
          (listed config topics)) ∧
    (¬ Searchable expression subjects →
      (run host words env cluster answers).Presents host.console (.escape .crossedGroup)
        (openingNotice ++ loadingNotice)) := by
  have texts := subjectTexts_of_lists lists
  refine ⟨texts, fun items listing => ?_, fun searchable => ?_, fun crosses => ?_⟩
  · rw [listing, subjectTexts_arr] at texts
    exact (Except.ok.inj texts).symm
  · intro topics
    have reports := reportsOn_of_searchable host asks enough reads opens lists searchable chooses
    refine ⟨reports, fun crews => ?_, fun host' words' env' answers' asks' => ?_⟩
    · have same := Comparison.runs_crews crews host words env cluster answers
      refine .of_presents ⟨?_, ?_⟩
      · exact same.ending.symm.trans reports.presents.ending
      · exact same.shown.symm.trans reports.presents.shown
    · obtain ⟨verbose, eq⟩ := run_of_asks asks' host' cluster answers'
      rw [eq]
      exact presents_inSession (presents_listTables host' reads opens lists searchable) cluster verbose
  · obtain ⟨verbose, eq⟩ := run_of_asks asks host cluster answers
    rw [eq]
    exact presents_inSession
      (presents_describeTables_of_crossed host enough reads opens lists crosses) cluster verbose

end

/-- Two of three topics are listed, and picked the other way round. -/
theorem run_presents_report_prices :
    let host : Host := ⟨.showingAll, Json.usualDepth, fun _ => .done⟩
    let config : Config := ⟨"topiccat", "b:9092", "http://r:8081", "default", 10.0⟩
    let words := ["catalog", "-b", "b:9092", "-r", "http://r:8081", "tables-describe", "-n", "2",
      "--name", "^p"]
    let record := "\x7b\"type\":\"record\",\"name\":\"R\",\"fields\":[]\x7d"
    let cluster : Cluster :=
      { entries := [{ subject := "payments", definition := .str record },
          { subject := "orders", definition := .str record }, { subject := "prices" }] }
    Asks words {} config (.describeTables (some "^p") false 2) ∧ Opens config cluster ∧
      (run host words {} cluster [.several [1, 0]]).ReportsOn host.console config cluster false
        ["payments", "prices"] ["prices", "payments"] := by
  intro host config words record cluster
  let subjects := ["payments", "orders", "prices"]
  have asks : Asks words {} config (.describeTables (some "^p") false 2) := ⟨_, _, _, rfl, rfl⟩
  have opens : Opens config cluster := rfl
  have lists : (RegistryClient.listSubjects cluster).result = .ok subjects := rfl
  have found : ((expressionOf (some "^p")).toOption.any fun expression =>
      candidates expression subjects = ["payments", "prices"] ∧
        Searchable expression subjects) = true := by decide +kernel
  cases reads : expressionOf (some "^p") with
  | error fault =>
    rw [reads] at found
    cases found
  | ok expression =>
    rw [reads] at found
    obtain ⟨topics, searchable⟩ := of_decide_eq_true found
    have chooses : Chooses (candidates expression subjects) [.several [1, 0]] false
        ["prices", "payments"] := by
      rw [topics]
      exact .places [1, 0] rfl
    obtain ⟨-, -, reports, -⟩ :=
      run_presents_report host asks (by decide) reads opens lists chooses
    exact ⟨asks, opens, topics ▸ (reports searchable).1⟩

/-- A valid pattern with a repeated group that ends before it begins breaks off the search, and the
only topic is not reported on. -/
theorem unreported_of_crossedGroup :
    let host : Host := ⟨.showingAll, Json.usualDepth, fun _ => .done⟩
    let config : Config := ⟨"topiccat", "b:9092", "http://r:8081", "default", 10.0⟩
    let pattern := some "((a)|.)*+"
    let words := ["catalog", "-b", "b:9092", "-r", "http://r:8081", "tables-describe", "--all",
      "--name", "((a)|.)*+"]
    let record := "\x7b\"type\":\"record\",\"name\":\"R\",\"fields\":[]\x7d"
    let cluster : Cluster := { entries := [{ subject := "payments", definition := .str record }] }
    Asks words {} config (.describeTables pattern true 5) ∧ (expressionOf pattern).isOk = true ∧
      Opens config cluster ∧ (RegistryClient.listSubjects cluster).result = .ok ["payments"] ∧
      ∀ topics chosen, ¬ (run host words {} cluster []).ReportsOn host.console config cluster true
        topics chosen := by
  intro host config pattern words record cluster
  have asks : Asks words {} config (.describeTables pattern true 5) := ⟨_, _, _, rfl, rfl⟩
  have ending : (run host words {} cluster []).ending = .escape .crossedGroup := by decide +kernel
  refine ⟨asks, by decide +kernel, rfl, rfl, fun topics chosen reports => ?_⟩
  have exits := reports.presents.ending
  rw [ending, show host.console = .showingAll from rfl, Console.handed_showingAll] at exits
  cases exits

end TopicTables.CommandLine
