import TopicTables.Proofs.CommandLine.Course

/-! # Misuse

A run ends as misused when its words are no command, when the environment gives no configuration, or
when the command is refused, provided that the console shows what is said of it. What counts as
misuse is told from the words and the environment alone, before the session is opened.
-/

namespace TopicTables.CommandLine
open TopicTables.Catalog (clients)

/-- The program is misused: the words are no command line, the environment gives no configuration,
the words of the command are none, or the command is refused. With it goes what is said of this.
Asking for help or for the completion of words is no misuse. -/
inductive Misuse (words : List String) (env : Environment) : List Display → Prop where
  | stopped {verbose : Bool} {error : UsageError}
    (starts : start words env = .stopped verbose (.usage error)) : Misuse words env []
  | refused {verbose : Bool} {error : ConfigError}
    (starts : start words env = .refused verbose error) : Misuse words env [.error error.message]
  | unread {verbose : Bool} {config : Config} {name : CommandName} {rest : List String}
    {error : UsageError} (starts : start words env = .ready verbose config (some (name, rest)))
    (reads : readCommand name rest = .error (.usage error)) : Misuse words env []
  | command {config : Config} {command : Command} {text : String}
    (asks : Asks words env config command) (refused : Refused command text) :
    Misuse words env [.error text]

/-- Whatever happens to a command that is not refused, it does not end as misused. -/
def neverMisused (w : Workplace) (resolve : Resolver) : Course w resolve where
  holds _ _ := True
  ended ending _ := ending ≠ .exit misused
  showing _ _ := trivial
  asking _ _ := trivial
  ends _ other := other
  opens _ _ := trivial
  lists _ := trivial
  asks _ _ := trivial
  looksUp _ _ := trivial
  works _ _ _ _ := trivial

/-- No call is made in the whole run. -/
def Run.Silent (run : Run) : Prop :=
  run.trace.calls = [] ∧ run.workerTrace.calls = []

/-! ## Misused runs -/

section
variable {host : Host} {words : List String} {env : Environment} (cluster : Cluster)
  (answers : List Answer)

theorem presents_refused (console : Console) (verbose : Bool) (error : ConfigError) :
    (refused console verbose error).Presents console (.exit misused) [.error error.message] ∧
      (refused console verbose error).Silent := by
  unfold refused
  cases raised : console.fault? [] (.error error.message) <;>
    exact ⟨⟨by simp [Console.handed, raised, Ending.unless],
      by simp [Console.handed, raised]⟩, rfl, rfl⟩

theorem silent_inSession {config : Config} {job : Job Unit}
    (silent : let desk := (job.runAt (.new host.console config answers)).2
      desk.trace.calls = [] ∧ desk.workerTrace.calls = []) (verbose : Bool) :
    (inSession host.console (.over host config cluster) verbose answers job).Silent := by
  have closes := closes_inSession host config cluster verbose answers job
  exact ⟨closes.calls.trans silent.1, (congrArg Trace.calls closes.workers).trans silent.2⟩

/-- What is said of a misuse is handed to the console, and no call is made. -/
theorem presents_of_misuse {notice : List Display} (misuses : Misuse words env notice) :
    let run := run host words env cluster answers
    run.Presents host.console (.exit misused) notice ∧ run.Silent := by
  intro run
  have eq : run = _ := run_eq_runBy host words env cluster answers
  cases misuses with
  | stopped starts =>
    rw [eq, runBy, runWith, starts]
    exact ⟨⟨rfl, rfl⟩, rfl, rfl⟩
  | refused starts =>
    rw [eq, runBy, runWith, starts]
    exact presents_refused host.console _ _
  | unread starts reads =>
    rw [eq, runBy, runWith, starts]
    simp only [groupJobBy, reads]
    exact ⟨presents_inSession (Job.presents_throw _ _) cluster _,
      silent_inSession cluster answers ⟨rfl, rfl⟩ _⟩
  | @command config command text asks refused =>
    obtain ⟨verbose, asked⟩ := run_of_asks asks host cluster answers
    rw [show run = _ from asked, perform_eq, performBy_of_refused _ refused]
    refine ⟨presents_inSession (Job.presents_die _ _ _) cluster _,
      silent_inSession cluster answers ?_ _⟩
    rw [Job.runAt_die]
    split <;> exact ⟨rfl, rfl⟩

/-! ## Exit codes -/

theorem exitCode_ofResult_iff {run : Run} {result : Except Ending Unit}
    (ends : run.ending = .ofResult result) :
    run.exitCode = misused ↔ result = .error (.exit misused) := by
  unfold Run.exitCode
  rw [ends]
  cases result with
  | ok _ => simp [Ending.ofResult, succeeded, misused]
  | error ending =>
    cases ending with
    | exit code => simp [Ending.ofResult]
    | escape escape => simp [Ending.ofResult, failed, misused]

/-- A job that ends the program with a code does so in a run. -/
theorem eq_misused_of_exit {config : Config} {verbose : Bool} {code : Nat}
    (misuses : (inSession host.console (.over host config cluster) verbose answers
      (Job.exit code)).exitCode = misused) : code = misused :=
  ((presents_inSession (Job.presents_throw _ _) cluster verbose).exitCode_eq_iff (by decide)).mp
    misuses |>.2

theorem exists_refused_of_exitCode {config : Config} {command : Command} {verbose : Bool}
    (resolve : Resolver)
    (misuses : (inSession host.console (.over host config cluster) verbose answers
      (performBy resolve (.over host config cluster) command)).exitCode = misused) :
    ∃ text, Refused command text := by
  by_contra accepted
  have closes := closes_inSession host config cluster verbose answers
    (performBy resolve (.over host config cluster) command)
  have leads := (neverMisused (.over host config cluster) resolve).leads_performBy
    (not_exists.mp accepted)
  exact leads.of_error trivial ((exitCode_ofResult_iff closes.ending).mp misuses) rfl

/-- A run does not end as misused for any other reason. -/
theorem misuse_of_exitCode
    (misuses : (run host words env cluster answers).exitCode = misused) :
    ∃ notice, Misuse words env notice := by
  rw [run_eq_runBy, runBy, runWith] at misuses
  cases starts : start words env with
  | stopped verbose stop =>
    cases stop with
    | help => simp [starts, stopped, Run.exitCode, Stop.exitCode, succeeded, misused] at misuses
    | usage error => exact ⟨_, .stopped starts⟩
  | completes completion =>
    cases ends : host.complete completion <;>
      simp [starts, ends, completed, Run.exitCode, succeeded, failed, misused] at misuses
  | refused verbose error => exact ⟨_, .refused starts⟩
  | ready verbose config command =>
    simp only [starts] at misuses
    cases command with
    | none => exact absurd (eq_misused_of_exit cluster answers misuses) (by decide)
    | some command =>
      obtain ⟨name, rest⟩ := command
      simp only [groupJobBy] at misuses
      cases reads : readCommand name rest with
      | error stop =>
        simp only [reads] at misuses
        cases stop with
        | help => exact absurd (eq_misused_of_exit cluster answers misuses) (by decide)
        | usage error => exact ⟨_, .unread starts reads⟩
      | ok command =>
        simp only [reads] at misuses
        obtain ⟨text, refused⟩ := exists_refused_of_exitCode cluster answers _ misuses
        exact ⟨_, .command ⟨verbose, name, rest, starts, reads⟩ refused⟩

end

/-- Whatever brokers, registry, user and console do, a run ends as misused just when the words and
the environment make up a misuse and the console shows what is said of it. No client is created and
no call made then, nor where the console raises at what is said: then the run ends with that. A
command that reads a pattern whose reading breaks off is refused for it no more than for other
faults: the run ends with what broke the reading off, and without a call. -/
theorem exitCode_eq_misused_iff (host : Host) (words : List String) (env : Environment)
    (cluster : Cluster) (answers : List Answer) :
    let run := run host words env cluster answers
    (run.exitCode = misused ↔ ∃ notice, Misuse words env notice ∧ host.console.Takes notice) ∧
    (run.exitCode = misused → run.Silent) ∧
    (∀ notice, Misuse words env notice →
      run.Presents host.console (.exit misused) notice ∧ run.Silent) ∧
    ∀ config command text fault, Asks words env config command → Reads command (some text) →
      expressionOf (some text) = .error fault → fault.isRefusal = false →
        run.ending = .escape (.pattern text fault) ∧ run.exitCode = failed ∧ run.Silent := by
  intro run
  have presents {notice : List Display} (misuses : Misuse words env notice) :
      run.Presents host.console (.exit misused) notice ∧ run.Silent :=
    presents_of_misuse cluster answers misuses
  have only (misuses : run.exitCode = misused) : ∃ notice, Misuse words env notice :=
    misuse_of_exitCode cluster answers misuses
  refine ⟨⟨fun misuses => ?_, ?_⟩, fun misuses => ?_, fun notice => presents, ?_⟩
  · obtain ⟨notice, misuse⟩ := only misuses
    exact ⟨notice, misuse, (((presents misuse).1.exitCode_eq_iff (by decide)).mp misuses).1⟩
  · rintro ⟨notice, misuse, taken⟩
    exact ((presents misuse).1.exitCode_eq_iff (by decide)).mpr ⟨taken, rfl⟩
  · obtain ⟨notice, misuse⟩ := only misuses
    exact (presents misuse).2
  · intro config command text fault asks reads faulty unrefused
    obtain ⟨verbose, asked⟩ := run_of_asks asks host cluster answers
    have eq : run = _ := asked
    rw [perform_eq, performBy_of_brokenOff _ reads faulty unrefused] at eq
    have ending : run.ending = .escape (.pattern text fault) :=
      eq ▸ (presents_inSession (Job.presents_throw _ _) cluster verbose).ending
    refine ⟨ending, ?_, eq ▸ silent_inSession cluster answers ⟨rfl, rfl⟩ verbose⟩
    rw [Run.exitCode, ending]

/-- A number of rounds that is too large to count is no regular expression, and yet no misuse. -/
theorem exitCode_of_tooManyRounds :
    let host : Host := ⟨.showingAll, Json.usualDepth, fun _ => .done⟩
    let words := ["catalog", "-b", "b:9092", "-r", "http://r:8081", "tables-list", "--name",
      "x\x7b4294967295\x7d"]
    let run := run host words {} {} []
    run.ending = .escape (.pattern "x\x7b4294967295\x7d" .tooManyRounds) ∧
      run.exitCode ≠ misused := by
  decide +kernel

end TopicTables.CommandLine
