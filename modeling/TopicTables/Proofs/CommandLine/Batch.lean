import TopicTables.Proofs.CommandLine.Topics

/-! # Batches of topics

The tables of a batch may be resolved in any way that gives resolutions. The command is put together
from the choice of the topics and from the report on what became of them; how the tables are
resolved shows in nothing but the report and what the workers did.
-/

namespace TopicTables.CommandLine
open TopicTables.Catalog (clients)

/-- A way to resolve tables, some of them at a time. -/
abbrev Resolver := List String → Int → Action (List Resolution)

def chosenTopics (all : Bool) (topics : List String) : Job (List String) :=
  if all then pure topics else selectTopics topics

def failuresOf (resolutions : List Resolution) : List Resolution :=
  resolutions.filter fun resolution => !resolution.isOk

/-- Resolve chosen topics and show what became of each. -/
def reportOn (resolve : Action (List Resolution)) (chosen : List String) : Job Unit := do
  let resolutions ← Job.orEnd
    (← Job.whileWorking ("Resolving " ++ toString chosen.length ++ " topic(s)...")
      (Job.actByWorkers resolve))
  Job.display (Report.results Report.resultsTitle (resolutions.map Report.ResultLine.ofResolution))
  if (failuresOf resolutions).isEmpty then
    Job.display (.success ("Resolved " ++ toString resolutions.length ++ " topic(s)."))
  else
    Job.die
      ("Failed to resolve " ++ toString (failuresOf resolutions).length ++ " topic(s).") failed

def reportFrom (resolve : Resolver) (all : Bool) (parallel : Int) (topics : List String) :
    Job Unit := do
  let chosen ← chosenTopics all topics
  if chosen.isEmpty then Job.warnAndExit "No topics selected."
  else reportOn (resolve chosen parallel) chosen

def describeTablesBy (resolve : Resolver) (w : Workplace) (pattern : Option String) (all : Bool)
    (parallel : Int) : Job Unit :=
  if parallel < 1 then Job.die "--parallel must be >= 1" misused
  else loadSomeTopics w pattern >>= reportFrom resolve all parallel

def Workplace.inOrder (w : Workplace) : Resolver :=
  Catalog.resolveAll w.config w.workerServices

theorem describeTables_eq (w : Workplace) (pattern : Option String) (all : Bool) (parallel : Int) :
    describeTables w pattern all parallel =
      describeTablesBy w.inOrder w pattern all parallel := by
  unfold describeTables describeTablesBy
  by_cases few : parallel < 1
  · simp only [if_pos few, Job.die_bind]
  · simp only [if_neg few]
    refine bind_congr fun topics => ?_
    cases all <;> simp only [Bool.false_eq_true, if_false, if_true]
    all_goals
      refine bind_congr fun chosen => ?_
      cases chosen.isEmpty <;> simp only [Bool.false_eq_true, if_false, if_true]
      · refine bind_congr fun resolved => bind_congr fun resolutions => bind_congr fun _ => ?_
        by_cases none : (failuresOf resolutions).isEmpty = true
        · rw [if_pos none]
          exact if_neg (by simpa [failuresOf] using none)
        · rw [if_neg none]
          exact (if_pos (by simpa [failuresOf] using none)).trans (Job.die_bind ..)
      · exact Job.warnAndExit_bind ..

/-- Do a command, with the tables of a batch resolved in some way. -/
def performBy (resolve : Resolver) (w : Workplace) : Command → Job Unit
  | .describeTables pattern all parallel => describeTablesBy resolve w pattern all parallel
  | command => perform w command

theorem perform_eq (w : Workplace) : perform w = performBy w.inOrder w := by
  funext command
  cases command with
  | describeTables pattern all parallel => exact describeTables_eq w pattern all parallel
  | _ => rfl

/-- The job that the words of a group ask for, with the tables of a batch resolved in some way. -/
def groupJobBy (resolve : Resolver) (w : Workplace) :
    Option (CommandName × List String) → Job Unit
  | none => Job.exit succeeded
  | some (name, words) =>
    match readCommand name words with
    | .error stop => Job.exit stop.exitCode
    | .ok command => performBy resolve w command

theorem groupJob_eq (w : Workplace) : groupJob w = groupJobBy w.inOrder w := by
  funext command
  cases command with
  | none => rfl
  | some command =>
    obtain ⟨name, words⟩ := command
    simp only [groupJob, groupJobBy]
    cases readCommand name words with
    | error stop => rfl
    | ok command => rw [perform_eq]

/-- A run over any services with the tables of a batch resolved in some way. -/
def runBy (resolverOf : Workplace → Resolver) (servicesOf : Config → Services (List String)) :
    Host → List String → Environment → List Answer → Run :=
  runWith (fun w => groupJobBy (resolverOf w) w) servicesOf

theorem run_eq_runBy (host : Host) (words : List String) (env : Environment) (cluster : Cluster)
    (answers : List Answer) :
    run host words env cluster answers =
      runBy Workplace.inOrder (fun config => clients config cluster) host words env answers := by
  rw [run_eq_runWith, runBy, funext groupJob_eq]

end TopicTables.CommandLine
