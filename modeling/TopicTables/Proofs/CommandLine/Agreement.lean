import TopicTables.Proofs.CommandLine.Reporting
import TopicTables.Proofs.Json.Room

/-! # One topic and many

The description of a topic on its own and its row in a batch look the same table up. The row counts
the columns, the description lists them; so they agree but for this: a row never shows the names of
the columns, and a description breaks off at a name that is no text; the console may take the one
and not the other; and the program itself may have room for other definitions than its workers.
-/

namespace TopicTables.CommandLine
open TopicTables.Catalog (clients newSession)

/-! ## What there is to show -/

/-- The registry holds a schema for the topic whose definition gives the columns. -/
def HasColumns (cluster : Cluster) (topic : String) (columns : Columns) : Prop :=
  topic ≠ "" ∧ ∃ entry, RegistryClient.latestVersion cluster topic = .ok (some entry) ∧
    Catalog.encodingWord entry = "AVRO" ∧
      Avro.registeredColumns cluster.depth entry.definition = .ok columns

/-- The definition that the registry holds for the topic has more levels than there is room for. -/
def LacksRoom (cluster : Cluster) (topic : String) : Prop :=
  ∃ entry text kind, RegistryClient.latestVersion cluster topic = .ok (some entry) ∧
    entry.definition = .str text ∧ Json.read cluster.depth text = .error (.tooDeep kind)

/-- The name of a column fits into a cell: it is a text, or null for an empty cell. -/
def isShowable (column : Column) : Bool :=
  match column.name with
  | .str _ => true
  | .null => true
  | _ => false

def columnCells (column : Column) (place : Nat) : List String :=
  [toString (place + 1), match column.name with | .str name => name | _ => "", column.dataType.text]

def columnsTable (columns : Columns) : Display :=
  .table "Columns" ["#", "Column", "Type"]
    (columns.zipIdx.map fun (column, place) => columnCells column place)

/-- What is handed over of a table before its columns. -/
def heading (config : Config) (topic : String) : List Display :=
  openingNotice ++ (spinner ("Resolving " ++ topic ++ "...") ++
    [.header ("Table " ++ Path.fullName ⟨config.defaultDatabase, topic⟩)])

/-- What is handed over of a table: its columns and its options. -/
def describing (config : Config) (topic : String) (columns : Columns) : List Display :=
  heading config topic ++
    columnsTable columns :: Display.pairs (Catalog.tableOf config topic columns).options

/-- What is handed over of a batch up to the results. -/
def upToResults (config : Config) (cluster : Cluster) (all : Bool) (topics chosen : List String) :
    List Display :=
  openingNotice ++ (loadingNotice ++ (choosing all topics ++
    (spinner ("Resolving " ++ toString chosen.length ++ " topic(s)...") ++
      [results config cluster chosen])))

def Run.ShowsRow (run : Run) (topic : String) (row : List String) : Prop :=
  ∃ rows, .table Report.resultsTitle ["Topic", "Columns", "Result"] rows ∈ run.shown ∧
    row ∈ rows ∧ row.head? = some topic

/-- The row says that the topic was resolved. -/
def IsOkRow (row : List String) : Prop :=
  row.getLast? = some "[ok]OK[/]"

/-! ## Columns -/

theorem columnRow_eq (column : Column) (place : Nat) :
    Report.columnRow (place + 1) column =
      if isShowable column then .ok (columnCells column place) else .error column.name := by
  unfold Report.columnRow isShowable columnCells
  cases column.name <;> rfl

theorem mapM_columnRow (columns : Columns) (before : Nat) :
    (columns.zipIdx before).mapM (fun (column, place) => Report.columnRow (place + 1) column) =
      match columns.find? (!isShowable ·) with
      | none => .ok ((columns.zipIdx before).map fun (column, place) => columnCells column place)
      | some column => .error column.name := by
  induction columns generalizing before with
  | nil => rfl
  | cons column columns ih =>
    rw [List.zipIdx_cons, List.mapM_cons, ih, List.find?_cons]
    simp only [columnRow_eq]
    cases isShowable column with
    | false => rfl
    | true => cases columns.find? (!isShowable ·) <;> rfl

/-- The columns of a table fill its cells, up to the first name that fits in none. -/
theorem columns_eq (table : Table) :
    Report.columns table =
      match table.columns.find? (!isShowable ·) with
      | none => .ok (columnsTable table.columns)
      | some column => .error column.name := by
  rw [Report.columns, mapM_columnRow]
  cases table.columns.find? (!isShowable ·) <;> rfl

section
variable {config : Config} {cluster : Cluster} {topic : String}

/-! ## The table of a topic -/

/-- Where the session opens, a look-up is told by the answer of the registry. -/
theorem tableFor_eq (opens : Opens config cluster) :
    tableFor config cluster topic =
      if topic = "" then .error (.tableNotFound config.catalogName ⟨config.defaultDatabase, topic⟩)
      else Catalog.judged config cluster.depth ⟨config.defaultDatabase, topic⟩
        (RegistryClient.latestVersion cluster topic) := by
  have looked : tableFor config cluster topic =
      (Catalog.lookedUp config cluster false false ⟨config.defaultDatabase, topic⟩).result :=
    congrArg Response.result (Catalog.getTable_response cluster (sound_new config) _)
  have opened : (Catalog.opening config cluster false false).result = .ok () :=
    (congrArg Response.result
      (Catalog.openMissing_response cluster (sound_new config)).1).symm.trans opens
  rw [looked, Catalog.lookedUp]
  simp only [ne_eq, not_true_eq_false, false_or]
  split
  · rfl
  · simp [Response.ifAbsent, Response.andThen, opened, Catalog.asking]

theorem judged_eq_ok_iff {depth : Nat} {path : Path}
    {answer : Except ServiceFailure (Option Entry)} {table : Table} :
    Catalog.judged config depth path answer = .ok table ↔
      ∃ entry, answer = .ok (some entry) ∧
        Catalog.described config depth path.object entry = .ok table := by
  unfold Catalog.judged
  split
  · simp
  · simp
  · split <;> simp
  · simp

theorem described_eq_ok_iff {depth : Nat} {entry : Entry} {table : Table} :
    Catalog.described config depth topic entry = .ok table ↔
      Catalog.encodingWord entry = "AVRO" ∧ ∃ columns,
        Avro.registeredColumns depth entry.definition = .ok columns ∧
          table = Catalog.tableOf config topic columns := by
  unfold Catalog.described
  by_cases avro : Catalog.encodingWord entry = "AVRO"
  · cases Avro.registeredColumns depth entry.definition <;> simp [avro, eq_comm]
  · rw [if_neg avro]
    split <;> simp [avro]

/-- A topic has a table just where the registry holds a schema with columns. -/
theorem tableFor_eq_ok_iff (opens : Opens config cluster) {table : Table} :
    tableFor config cluster topic = .ok table ↔
      ∃ columns, HasColumns cluster topic columns ∧
        table = Catalog.tableOf config topic columns := by
  rw [tableFor_eq opens]
  by_cases empty : topic = ""
  · simp [empty, HasColumns]
  · simp only [if_neg empty, judged_eq_ok_iff, described_eq_ok_iff, HasColumns]
    constructor
    · rintro ⟨entry, answer, avro, columns, translated, rfl⟩
      exact ⟨columns, ⟨empty, entry, answer, avro, translated⟩, rfl⟩
    · rintro ⟨columns, ⟨-, entry, answer, avro, translated⟩, rfl⟩
      exact ⟨entry, answer, avro, columns, translated, rfl⟩

theorem HasColumns.unique {columns others : Columns} (one : HasColumns cluster topic columns)
    (other : HasColumns cluster topic others) : columns = others := by
  obtain ⟨-, entry, answer, -, translated⟩ := one
  obtain ⟨-, entry', answer', -, translated'⟩ := other
  cases answer.symm.trans answer'
  exact Except.ok.inj (translated.symm.trans translated')

/-- With other room there are the same columns, or there is too little room. -/
theorem HasColumns.kept {columns : Columns} (has : HasColumns cluster topic columns)
    (depth : Nat) :
    HasColumns { cluster with depth } topic columns ∨ LacksRoom { cluster with depth } topic := by
  obtain ⟨named, entry, answer, avro, translated⟩ := has
  unfold Avro.registeredColumns at translated
  cases definition : entry.definition with
  | str text =>
    cases reads : Json.read cluster.depth text with
    | error fault =>
      simp only [definition, Avro.readDefinition, reads] at translated
      cases translated
    | ok value =>
      obtain same | ⟨kind, deep⟩ := Json.read_of_room reads depth
      · refine .inl ⟨named, entry, answer, avro, ?_⟩
        rw [definition, Avro.readDefinition, reads] at translated
        rw [Avro.registeredColumns, definition, Avro.readDefinition, same]
        exact translated
      · exact .inr ⟨entry, text, kind, answer, definition, deep⟩
  | _ =>
    rw [definition, Avro.readDefinition] at translated
    cases translated
    simp

/-! ## The row of a topic -/

variable {topics chosen row : List String} {all : Bool} {answers : List Answer}

theorem head?_rowFor (topic : String) : (rowFor config cluster topic).head? = some topic := by
  unfold rowFor
  split <;> rfl

theorem isOkRow_rowFor_iff (opens : Opens config cluster) :
    IsOkRow (rowFor config cluster topic) ↔ ∃ columns, HasColumns cluster topic columns := by
  have resolved : IsOkRow (rowFor config cluster topic) ↔
      ∃ table, tableFor config cluster topic = .ok table := by
    unfold IsOkRow rowFor
    cases tableFor config cluster topic with
    | ok table => simp
    | error failure =>
      have other : "[err]FAIL[/] " ++ failure.message ≠ "[ok]OK[/]" := by
        intro same
        have begins := congrArg (fun text => text.toList.take 2) same
        simp at begins
      simpa using other
  rw [resolved]
  simp only [tableFor_eq_ok_iff opens]
  constructor
  · rintro ⟨table, columns, has, -⟩
    exact ⟨columns, has⟩
  · rintro ⟨columns, has⟩
    exact ⟨_, columns, has, rfl⟩

theorem Chooses.mem (chooses : Chooses topics answers all chosen) (member : topic ∈ chosen) :
    topic ∈ topics := by
  cases chooses with
  | all => exact member
  | cancelled => cases member
  | places places =>
    obtain ⟨place, -, rfl⟩ := List.mem_map.mp member
    exact List.get_mem topics place

theorem batch_eq (listed : topic ∈ topics) (member : topic ∈ chosen) :
    batch config cluster all topics chosen =
      upToResults config cluster all topics chosen ++ [verdict config cluster chosen] := by
  rw [batch, if_neg (List.ne_nil_of_mem listed), if_neg (List.ne_nil_of_mem member), upToResults,
    report]
  simp only [List.append_assoc, List.cons_append, List.nil_append]

/-- Among the things that are handed over, only the results are a table. -/
theorem table_not_mem_before {title : String} {columns : List String}
    {rows : List (List String)} {text : String} :
    .table title columns rows ∉
      openingNotice ++ (loadingNotice ++ (choosing all topics ++ spinner text)) := by
  cases all <;> simp [openingNotice, loadingNotice, spinner, choosing, Picker.prompt]

theorem eq_results_of_mem {title : String} {columns : List String} {rows : List (List String)}
    (listed : topic ∈ topics) (member : topic ∈ chosen)
    (among : .table title columns rows ∈ batch config cluster all topics chosen) :
    .table title columns rows = results config cluster chosen := by
  have ends : .table title columns rows ≠ verdict config cluster chosen := by
    simp only [verdict]
    split <;> simp [Display.success, Display.error]
  rw [batch_eq listed member, upToResults] at among
  have before := @table_not_mem_before topics all title columns rows
    ("Resolving " ++ toString chosen.length ++ " topic(s)...")
  simp only [List.mem_append, List.mem_singleton] at among before
  tauto

theorem results_mem_handed_iff {console : Console} (listed : topic ∈ topics)
    (member : topic ∈ chosen) :
    results config cluster chosen ∈
        (console.handed [] (batch config cluster all topics chosen)).shown ↔
      console.Takes (upToResults config cluster all topics chosen) := by
  have shown := @Console.mem_shown_handed_iff console [] _ [verdict config cluster chosen] _
    (@table_not_mem_before topics all Report.resultsTitle ["Topic", "Columns", "Result"]
      (chosen.map (rowFor config cluster))
      ("Resolving " ++ toString chosen.length ++ " topic(s)..."))
  rw [batch_eq listed member, Console.Takes, upToResults, results]
  simpa only [List.append_assoc, List.cons_append, List.nil_append] using shown

/-- The rows that are shown of a chosen topic are those that are due for it, if the console takes
the results. -/
theorem Run.ReportsOn.showsRow_iff {run : Run} {console : Console}
    (reports : run.ReportsOn console config cluster all topics chosen) (listed : topic ∈ topics)
    (member : topic ∈ chosen) :
    run.ShowsRow topic row ↔ console.Takes (upToResults config cluster all topics chosen) ∧
      row = rowFor config cluster topic := by
  have shown := reports.presents.shown
  have taken := @results_mem_handed_iff config cluster topic topics chosen all console listed member
  rw [← shown] at taken
  constructor
  · rintro ⟨rows, among, inside, heads⟩
    have same := eq_results_of_mem listed member
      (Console.subset_handed console [] _ (shown ▸ among))
    refine ⟨taken.mp (same ▸ among), ?_⟩
    cases same
    obtain ⟨other, -, rfl⟩ := List.mem_map.mp inside
    rw [head?_rowFor] at heads
    cases heads
    rfl
  · rintro ⟨takes, rfl⟩
    exact ⟨_, taken.mpr takes, List.mem_map_of_mem member, head?_rowFor topic⟩

/-! ## The description of a topic -/

def Job.endingOf (failure : Failure) : Ending :=
  if failure.isReported then .exit failed else .escape (.failure failure)

def Job.notice (failure : Failure) : List Display :=
  if failure.isReported then [.error failure.describe] else []

/-- How the description of a topic ends and what it hands over, told by its table. -/
def description (config : Config) (topic : String) : Except Failure Table → Ending × List Display
  | .error failure => (Job.endingOf failure, Job.notice failure)
  | .ok table =>
    let header := Display.header ("Table " ++ (Path.fullName ⟨config.defaultDatabase, topic⟩))
    match table.columns.find? (!isShowable ·) with
    | none => (.exit succeeded, header :: columnsTable table.columns :: Display.pairs table.options)
    | some column => (.escape (.unshowable column.name), [header])

/-- Behind the first opening a look-up comes to what it does in a new catalog. -/
theorem result_getTable_openedSession (config : Config) (cluster : Cluster) (topic : String) :
    ((Catalog.getTable config (clients config cluster) ⟨config.defaultDatabase, topic⟩).run
      (openedSession config cluster)).result = tableFor config cluster topic := by
  have steady : (clients config cluster).Steady := Services.steady_overClients cluster _
  rw [← settled_new]
  exact Catalog.result_getTable_reopened steady (sound_new config).paired 1

theorem presents_orEnd_error (failure : Failure) (desk : Desk) (next : Table → Job Unit) :
    (Job.orEnd (.error failure) >>= next).Presents desk (Job.endingOf failure)
      (Job.notice failure) := by
  cases reported : failure.isReported with
  | true =>
    simp only [Job.orEnd, Job.endingOf, Job.notice, reported, if_true, Job.die_bind]
    exact Job.presents_die _ _ _
  | false =>
    simp only [Job.orEnd, Job.endingOf, Job.notice, reported]
    exact Job.presents_throw _ _

theorem presents_describeTable (host : Host) {answers : List Answer} (opens : Opens config cluster)
    (topic : String) :
    (describeTable (.over host config cluster) (some topic)).Presents
      (.new host.console config answers) (description config topic (tableFor config cluster topic)).1
      (openingNotice ++ (spinner ("Resolving " ++ topic ++ "...") ++
        (description config topic (tableFor config cluster topic)).2)) := by
  refine .bind_quiet (Job.runAt_pure _ topic) rfl rfl ?_
  refine presents_openSession opens fun desk session _ => ?_
  refine .bind_whileWorking _ (Job.runAt_act _ _) rfl rfl ?_
  rw [Desk.session_showing, session]
  have looked := result_getTable_openedSession config cluster topic
  rw [openedSession] at looked
  rw [show (Desk.new host.console config answers).session = newSession config from rfl, looked]
  cases tableFor config cluster topic with
  | error failure => exact presents_orEnd_error failure _ _
  | ok table =>
    refine .bind_quiet (Job.runAt_orEnd_ok _ table) rfl rfl ?_
    rw [columns_eq, description]
    cases table.columns.find? (!isShowable ·) with
    | none => exact .bind_display _ (.bind_display _ (Job.presents_showAll _ _))
    | some column => exact .bind_display _ (Job.presents_throw _ _)

theorem endingOf_ne_succeeded (failure : Failure) : Job.endingOf failure ≠ .exit succeeded := by
  unfold Job.endingOf
  split
  · decide
  · exact nofun

section
variable {words : List String} {env : Environment}
  (asks : Asks words env config (.describeTable (some topic))) (opens : Opens config cluster)
  (host : Host) (answers : List Answer)
include asks opens

theorem presents_run_describeTable :
    (run host words env cluster answers).Presents host.console
      (description config topic (tableFor config cluster topic)).1
      (openingNotice ++ (spinner ("Resolving " ++ topic ++ "...") ++
        (description config topic (tableFor config cluster topic)).2)) := by
  obtain ⟨verbose, eq⟩ := run_of_asks asks host cluster answers
  rw [eq]
  exact presents_inSession (presents_describeTable host opens topic) cluster verbose

theorem presents_describing {columns : Columns} (has : HasColumns cluster topic columns)
    (showable : columns.find? (!isShowable ·) = none) :
    (run host words env cluster answers).Presents host.console (.exit succeeded)
      (describing config topic columns) := by
  have presents := presents_run_describeTable asks opens host answers
  have same : (Catalog.tableOf config topic columns).columns = columns := rfl
  rw [(tableFor_eq_ok_iff opens).mpr ⟨columns, has, rfl⟩] at presents
  simpa only [description, same, showable, describing, heading, List.append_assoc, List.cons_append,
    List.nil_append] using presents

theorem presents_heading {columns : Columns} {column : Column}
    (has : HasColumns cluster topic columns)
    (first : columns.find? (!isShowable ·) = some column) :
    (run host words env cluster answers).Presents host.console
      (.escape (.unshowable column.name)) (heading config topic) := by
  have presents := presents_run_describeTable asks opens host answers
  have same : (Catalog.tableOf config topic columns).columns = columns := rfl
  rw [(tableFor_eq_ok_iff opens).mpr ⟨columns, has, rfl⟩] at presents
  simpa only [description, same, first, heading] using presents

/-- The description ends well just when there are columns, their names fit into cells and the console
takes it. -/
theorem exitCode_describeTable_iff :
    (run host words env cluster answers).exitCode = succeeded ↔
      ∃ columns, HasColumns cluster topic columns ∧ columns.find? (!isShowable ·) = none ∧
        host.console.Takes (describing config topic columns) := by
  constructor
  · intro ends
    have presents := presents_run_describeTable asks opens host answers
    have ending := presents.ending_of_succeeded ends
    cases looked : tableFor config cluster topic with
    | error failure =>
      rw [looked] at ending
      exact absurd ending (endingOf_ne_succeeded failure)
    | ok table =>
      obtain ⟨columns, has, rfl⟩ := (tableFor_eq_ok_iff opens).mp looked
      cases showable : columns.find? (!isShowable ·) with
      | some column =>
        have stops := presents_heading asks opens host answers has showable
        cases stops.ending_of_succeeded ends
      | none =>
        have shows := presents_describing asks opens host answers has showable
        exact ⟨columns, has, showable, ((shows.exitCode_eq_iff (by decide)).mp ends).1⟩
  · rintro ⟨columns, has, showable, takes⟩
    have shows := presents_describing asks opens host answers has showable
    exact (shows.exitCode_eq_iff (by decide)).mpr ⟨takes, rfl⟩

end

end

/-- The description of a topic on its own goes with the row that a batch has for it, where the
program finds one cluster and its workers find it with other room. -/
structure Run.AgreesWith (one : Run) (row : List String) (console : Console) (config : Config)
    (here there : Cluster) (topic : String) : Prop where
  resolved : IsOkRow row ↔ ∃ columns, HasColumns there topic columns
  counted : ∀ columns, HasColumns there topic columns →
    row = [topic, toString columns.length, "[ok]OK[/]"]
  keptThere : ∀ columns, HasColumns here topic columns →
    HasColumns there topic columns ∨ LacksRoom there topic
  keptHere : ∀ columns, HasColumns there topic columns →
    HasColumns here topic columns ∨ LacksRoom here topic
  succeeds : one.exitCode = succeeded ↔
    ∃ columns, HasColumns here topic columns ∧ columns.find? (!isShowable ·) = none ∧
      console.Takes (describing config topic columns)
  described : ∀ columns, HasColumns here topic columns →
    columns.find? (!isShowable ·) = none →
      one.Presents console (.exit succeeded) (describing config topic columns)
  brokenOff : ∀ columns column, HasColumns here topic columns →
    columns.find? (!isShowable ·) = some column →
      one.Presents console (.escape (.unshowable column.name)) (heading config topic)

/-- Where there is room, the description ends well just when the row says that the topic was
resolved, the names are texts or null, and the console takes them. -/
theorem Run.AgreesWith.succeeds_iff_isOkRow {one : Run} {row : List String} {console : Console}
    {config : Config} {here there : Cluster} {topic : String}
    (agrees : one.AgreesWith row console config here there topic)
    (room : ¬ LacksRoom here topic) (room' : ¬ LacksRoom there topic) :
    one.exitCode = succeeded ↔ IsOkRow row ∧ ∀ columns, HasColumns here topic columns →
      columns.find? (!isShowable ·) = none ∧ console.Takes (describing config topic columns) := by
  rw [agrees.succeeds, agrees.resolved]
  constructor
  · rintro ⟨columns, has, showable, takes⟩
    refine ⟨⟨columns, (agrees.keptThere columns has).resolve_right room'⟩, fun others hasOthers => ?_⟩
    cases has.unique hasOthers
    exact ⟨showable, takes⟩
  · rintro ⟨⟨columns, has⟩, all⟩
    have here := (agrees.keptHere columns has).resolve_right room
    exact ⟨columns, here, all columns here⟩

/-- The description of a topic on its own and its row in a batch over the same cluster agree. The
batch shows a row if the console takes the results. It says that the topic was resolved just when
the registry holds a schema with columns for it that a worker has room to read, and then counts
them. The program by itself finds the same columns, unless one of them lacks room. Its description
ends well just when no name of a column is other than a text or null and the console takes it, and
then it hands over these very columns with their names and types, numbered from one on; it breaks
off at the first name that is neither. It does not matter which crews resolve the batch. -/
theorem describeTable_agrees {config : Config} {cluster : Cluster} {topic : String}
    {words words' : List String} {env env' : Environment} (host host' : Host)
    {answers answers' : List Answer} {pattern : Option String} {all : Bool} {parallel : Int}
    {expression : Option Pattern.Expression} {subjects chosen : List String}
    (single : Asks words env config (.describeTable (some topic)))
    (batch : Asks words' env' config (.describeTables pattern all parallel)) (enough : 1 ≤ parallel)
    (reads : expressionOf pattern = .ok expression) (opens : Opens config cluster)
    (lists : (RegistryClient.listSubjects cluster).result = .ok subjects)
    (searchable : Searchable expression subjects)
    (chooses : Chooses (candidates expression subjects) answers' all chosen)
    (member : topic ∈ chosen) :
    let one := run host words env cluster answers
    let many := run host' words' env' cluster answers'
    let workers := host'.forWorkers cluster
    ((∃ row, many.ShowsRow topic row) ↔ host'.console.Takes
      (upToResults config workers all (candidates expression subjects) chosen)) ∧
    (∀ row, many.ShowsRow topic row →
      one.AgreesWith row host.console config cluster workers topic ∧
      (¬ LacksRoom cluster topic → ¬ LacksRoom workers topic →
        (one.exitCode = succeeded ↔ IsOkRow row ∧ ∀ columns, HasColumns cluster topic columns →
          columns.find? (!isShowable ·) = none ∧
            host.console.Takes (describing config topic columns)))) ∧
    ∀ crews : ∀ w : Workplace, Catalog.Crew w.config w.workerServices,
      (runBy (fun w => (crews w).resolve) (fun config => clients config cluster) host' words' env'
        answers').shown = many.shown := by
  intro one many workers
  have reports : many.ReportsOn host'.console config workers all _ chosen :=
    reportsOn_of_searchable host' batch enough reads opens lists searchable chooses
  have listed := chooses.mem member
  have rows (row : List String) := @Run.ReportsOn.showsRow_iff config workers topic _ chosen row all
    many _ reports listed member
  have agrees : one.AgreesWith (rowFor config workers topic) host.console config cluster workers
      topic := by
    have opens' : Opens config workers := opens
    refine ⟨isOkRow_rowFor_iff opens', fun columns has => ?_,
      fun columns has => has.kept host'.workerDepth, fun columns has => has.kept cluster.depth,
      exitCode_describeTable_iff single opens host answers,
      fun columns => presents_describing single opens host answers,
      fun columns column => presents_heading single opens host answers⟩
    rw [rowFor, (tableFor_eq_ok_iff opens').mpr ⟨columns, has, rfl⟩]
    rfl
  refine ⟨⟨?_, fun takes => ⟨_, (rows _).mpr ⟨takes, rfl⟩⟩⟩, fun row shows => ?_, fun crews => ?_⟩
  · rintro ⟨row, shows⟩
    exact ((rows row).mp shows).1
  · obtain ⟨-, rfl⟩ := (rows row).mp shows
    exact ⟨agrees, agrees.succeeds_iff_isOkRow⟩
  · exact (Comparison.runs_crews crews host' words' env' cluster answers').shown.symm

/-- The one column of a record is counted in the row and listed in the description. -/
theorem describeTable_agrees_orders :
    let host : Host := ⟨.showingAll, Json.usualDepth, fun _ => .done⟩
    let config : Config := ⟨"topiccat", "b:9092", "http://r:8081", "default", 10.0⟩
    let text := "\x7b\"type\":\"record\",\"name\":\"Order\",\"fields\":[" ++
      "\x7b\"name\":\"amount\",\"type\":\"int\"\x7d]\x7d"
    let cluster : Cluster := { entries := [{ subject := "orders", definition := .str text }] }
    let group := ["catalog", "-b", "b:9092", "-r", "http://r:8081"]
    let one := run host (group ++ ["table-describe", "orders"]) {} cluster []
    let many := run host (group ++ ["tables-describe", "--all"]) {} cluster []
    Opens config cluster ∧ many.ShowsRow "orders" ["orders", "1", "[ok]OK[/]"] ∧
      one.exitCode = succeeded ∧
      .table "Columns" ["#", "Column", "Type"] [["1", "amount", "INT NOT NULL"]] ∈ one.shown := by
  intro host config text cluster group one many
  let columns : Columns := [⟨.str "amount", ⟨"INT", false⟩⟩]
  have single : Asks (group ++ ["table-describe", "orders"]) {} config
      (.describeTable (some "orders")) := ⟨_, _, _, rfl, rfl⟩
  have batch : Asks (group ++ ["tables-describe", "--all"]) {} config
      (.describeTables none true 5) := ⟨_, _, _, rfl, rfl⟩
  have opens : Opens config cluster := rfl
  have translated : Avro.registeredColumns Json.usualDepth (.str text) = .ok columns := by
    decide +kernel
  have has : HasColumns cluster "orders" columns := ⟨by decide, _, rfl, rfl, translated⟩
  have takes (displays : List Display) : host.console.Takes displays := by
    rw [Console.Takes, show host.console = .showingAll from rfl, Console.handed_showingAll]
  obtain ⟨⟨-, shows⟩, agrees, -⟩ := @describeTable_agrees _ _ _ _ _ _ _ host host [] [] _ _ _ _
    ["orders"] _ single batch (by decide) rfl opens rfl (by decide) .all
    (List.mem_singleton_self "orders")
  obtain ⟨row, shown⟩ := shows (takes _)
  obtain ⟨goes, -⟩ := agrees row shown
  have count : toString columns.length = "1" := by decide
  have ends := goes.succeeds.mpr ⟨columns, has, rfl, takes _⟩
  refine ⟨opens, count ▸ goes.counted columns has ▸ shown, ends, ?_⟩
  rw [(goes.described columns has rfl).shown, Console.shown_handed (takes _), describing]
  exact List.mem_append_right _ (.head _)

/-- A column named by a number is counted in the row, and the description ends badly. -/
theorem disagreement_of_number :
    let host : Host := ⟨.showingAll, Json.usualDepth, fun _ => .done⟩
    let text := "\x7b\"type\":\"record\",\"name\":\"R\",\"fields\":[" ++
      "\x7b\"name\":1,\"type\":\"int\"\x7d]\x7d"
    let cluster : Cluster := { entries := [{ subject := "t", definition := .str text }] }
    let group := ["catalog", "-b", "b:9092", "-r", "http://r:8081"]
    let one := run host (group ++ ["table-describe", "t"]) {} cluster []
    let many := run host (group ++ ["tables-describe", "--all"]) {} cluster []
    many.ShowsRow "t" ["t", "1", "[ok]OK[/]"] ∧ IsOkRow ["t", "1", "[ok]OK[/]"] ∧
      one.exitCode ≠ succeeded := by
  intro host text cluster group one many
  refine ⟨⟨[["t", "1", "[ok]OK[/]"]], ?_, List.mem_singleton_self _, rfl⟩, rfl, ?_⟩
  · decide +kernel
  · decide +kernel

end TopicTables.CommandLine
