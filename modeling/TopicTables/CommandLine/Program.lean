import TopicTables.CommandLine.Command
import TopicTables.CommandLine.Job
import TopicTables.Pattern.Matcher
import TopicTables.Pattern.Reader
import TopicTables.Service.Clients

/-! # The program

The program browses the topics of a cluster as the tables of a catalog. The catalog is made once for
each run, and its session is closed at the end of the run, however the run ends.
-/

namespace TopicTables.CommandLine

/-- How completing words in a shell ends. -/
inductive CompletionEnd where
  | done
  /-- The shell is not known or not supported. -/
  | unsupported
  | failed
deriving DecidableEq, Repr

/-- What a run finds around it besides the cluster. -/
structure Host where
  console : Console
  /-- The number of levels that workers have room for when they read a definition. -/
  workerDepth : Nat
  complete : Completion → CompletionEnd

/-- What a command works with. -/
structure Workplace where
  config : Config
  services : Services (List String)
  workerDepth : Nat

/-- The services as workers use them. -/
def Workplace.workerServices (w : Workplace) : Services (List String) :=
  { w.services with depth := w.workerDepth }

/-- Read the pattern on the names of topics; an empty one counts as none. -/
def readPattern (pattern : Option String) : Job (Option Pattern.Expression) :=
  match pattern.filter (!·.isEmpty) with
  | none => pure none
  | some text =>
    match Pattern.read text with
    | .ok expression => pure (some expression)
    | .error fault =>
      if fault.isRefusal then
        Job.die ("Invalid regex for --name: " ++ fault.message text) misused
      else throw (.escape (.pattern text fault))

def openSession (w : Workplace) : Job Unit := do
  Job.orEnd (← Job.whileWorking "Connecting to Kafka and schema registry..."
    (Job.act (Session.openMissing w.services)))

/-- The topics, or those in which a pattern is found. -/
def matching (pattern : Option Pattern.Expression) (topics : List String) : Job (List String) :=
  match pattern with
  | none => return topics
  | some expression =>
    if topics.any (expression.find · == .crossed) then throw (.escape .crossedGroup)
    else return topics.filter (expression.find · == .present)

/-- Open the session and list the topics in whose names a pattern is found. -/
def loadTopics (w : Workplace) (pattern : Option String) : Job (List String) := do
  let expression ← readPattern pattern
  openSession w
  let topics ← Job.orEnd (← Job.whileWorking "Loading topics..."
    (Job.act (Catalog.listTables w.config w.services w.config.defaultDatabase)))
  matching expression topics

/-- The same, ending the program when there are none. -/
def loadSomeTopics (w : Workplace) (pattern : Option String) : Job (List String) := do
  let topics ← loadTopics w pattern
  if topics.isEmpty then Job.warnAndExit "No topics found."
  return topics

def listDatabases (w : Workplace) : Job Unit := do
  Job.display (.header "Databases")
  Job.display (Report.databases (Catalog.listDatabases w.config))

def listTables (w : Workplace) (pattern : Option String) : Job Unit := do
  let topics ← loadSomeTopics w pattern
  Job.display (.header "Topics")
  Job.display (.info ("Database: " ++ w.config.defaultDatabase ++ " | Topics: " ++
    toString topics.length))
  Job.display (Report.topics topics)

def selectOne (message : String) (choices : List String) : Job (Option String) := do
  if choices.isEmpty then return none
  return Picker.pickedOne? choices (← Job.ask (.select message choices))

/-- The topic that is given, or else one that the user picks. -/
def chosenTopic (w : Workplace) (topic : Option String) : Job String :=
  match topic with
  | some topic => pure topic
  | none => do
    let topics ← loadSomeTopics w none
    match (← selectOne "Select a topic:" topics).filter (!·.isEmpty) with
    | some topic => return topic
    | none => Job.warnAndExit "No topic selected."

def describeTable (w : Workplace) (topic : Option String) : Job Unit := do
  let topic ← chosenTopic w topic
  openSession w
  let path : Path := ⟨w.config.defaultDatabase, topic⟩
  let table ← Job.orEnd (← Job.whileWorking ("Resolving " ++ topic ++ "...")
    (Job.act (Catalog.getTable w.config w.services path)))
  Job.display (.header ("Table " ++ path.fullName))
  match Report.columns table with
  | .ok columns => Job.display columns
  | .error cell => throw (.escape (.unshowable cell))
  Job.showAll (Display.pairs table.options)

def selectTopics (topics : List String) : Job (List String) := do
  return Picker.picked topics (← Job.ask (Picker.prompt topics))

def describeTables (w : Workplace) (pattern : Option String) (all : Bool) (parallel : Int) :
    Job Unit := do
  if parallel < 1 then Job.die "--parallel must be >= 1" misused
  let topics ← loadSomeTopics w pattern
  let selected ← if all then pure topics else selectTopics topics
  if selected.isEmpty then Job.warnAndExit "No topics selected."
  let resolutions ← Job.orEnd
    (← Job.whileWorking ("Resolving " ++ toString selected.length ++ " topic(s)...")
      (Job.actByWorkers (Catalog.resolveAll w.config w.workerServices selected parallel)))
  Job.display (Report.results Report.resultsTitle (resolutions.map Report.ResultLine.ofResolution))
  let failures := resolutions.filter fun resolution => !resolution.isOk
  if !failures.isEmpty then
    Job.die ("Failed to resolve " ++ toString failures.length ++ " topic(s).") failed
  Job.display (.success ("Resolved " ++ toString resolutions.length ++ " topic(s)."))

def tableExists (w : Workplace) (topic : String) : Job Unit := do
  let path : Path := ⟨w.config.defaultDatabase, topic⟩
  openSession w
  if ← Job.orEnd (← Job.act (Catalog.tableExists w.config w.services path)) then
    Job.display (.success ("Table " ++ path.fullName ++ " exists."))
  else Job.die ("Table " ++ path.fullName ++ " does not exist.") failed

def perform (w : Workplace) : Command → Job Unit
  | .listDatabases => listDatabases w
  | .listTables pattern => listTables w pattern
  | .describeTable topic => describeTable w topic
  | .describeTables pattern all parallel => describeTables w pattern all parallel
  | .tableExists topic => tableExists w topic

def Stop.exitCode : Stop → Nat
  | .help => succeeded
  | .usage _ => misused

structure Run where
  ending : Ending
  verbose : Bool := false
  shown : List Display := []
  trace : Trace := []
  workerTrace : Trace := []
  /-- The session as the run leaves it, where a catalog was made. -/
  session : Option Session := none

/-- The exit code of a run; what escapes counts as a failure. -/
def Run.exitCode (run : Run) : Nat :=
  match run.ending with
  | .exit code => code
  | .escape _ => failed

/-- The messages that a run logs: all of them when it is verbose, or else errors only. -/
def Run.logs (run : Run) (trace : Trace) : List (Level × String) :=
  trace.logs.filter fun message => run.verbose || message.1 == .error

/-- A run that ends before there is a catalog. -/
def stopped (verbose : Bool) (stop : Stop) : Run where
  ending := .exit stop.exitCode
  verbose := verbose

def completed (completion : CompletionEnd) : Run where
  ending := match completion with
    | .done => .exit succeeded
    | .unsupported => .exit failed
    | .failed => .escape .completion

/-- A run for which there is no configuration. -/
def refused (console : Console) (verbose : Bool) (error : ConfigError) : Run :=
  match console.fault? [] (.error error.message) with
  | some fault => { ending := .escape (.console fault), verbose }
  | none => { ending := .exit misused, verbose, shown := [.error error.message] }

/-- Do a job in a new session of a catalog and close the session. -/
def inSession (console : Console) (w : Workplace) (verbose : Bool) (answers : List Answer)
    (job : Job Unit) : Run :=
  let start : Desk :=
    { console, session := Catalog.newSession w.config, answers, shown := [],
      trace := Catalog.creationTrace w.config, workerTrace := [] }
  let (result, desk) := (ExceptT.run job).run start
  let closed := (Session.close w.services).run desk.session
  { ending := match closed.result, result with
      | .error failure, _ => .escape (.failure failure)
      | .ok (), .error ending => ending
      | .ok (), .ok () => .exit succeeded
    verbose
    shown := desk.shown
    trace := desk.trace ++ closed.trace
    workerTrace := desk.workerTrace
    session := some closed.session }

/-- The job that the words of a group ask for; the words of the command are read first. -/
def groupJob (w : Workplace) (command : Option (CommandName × List String)) : Job Unit :=
  match command with
  | none => Job.exit succeeded
  | some (name, words) =>
    match readCommand name words with
    | .error stop => Job.exit stop.exitCode
    | .ok command => perform w command

/-- Run the program over a cluster. -/
def run (host : Host) (words : List String) (env : Environment) (cluster : Cluster)
    (answers : List Answer) : Run :=
  match readProgram words with
  | .error stop => stopped false stop
  | .ok (.completion completion) => completed (host.complete completion)
  | .ok (.group verbose words) =>
    match readGroup words with
    | .error stop => stopped verbose stop
    | .ok group =>
      match Config.fromEnvironment group.catalogName group.settings env with
      | .error error => refused host.console verbose error
      | .ok config =>
        let w : Workplace :=
          ⟨config, Services.overClients cluster config.adminTimeout, host.workerDepth⟩
        inSession host.console w verbose answers (groupJob w group.command)

end TopicTables.CommandLine
