import TopicTables.Proofs.Catalog.Reported
import TopicTables.Proofs.CommandLine.Invocation
import TopicTables.Proofs.Session.Reopening

/-! # Loading topics

A command that lists topics reads its pattern first. With the pattern read it opens the session,
asks the registry for its subjects and keeps those in which the pattern is found. Over a cluster
that is reached and lists its subjects, what the command presents from there on is told by these
alone.
-/

namespace TopicTables.CommandLine
open TopicTables.Catalog (clients newSession)

/-! ## The pattern -/

/-- The expression that a pattern stands for; an empty pattern counts as none. -/
def expressionOf (pattern : Option String) : Except Pattern.Fault (Option Pattern.Expression) :=
  match pattern.filter (!·.isEmpty) with
  | none => .ok none
  | some text => (Pattern.read text).map some

/-- A pattern that cannot be read is a text. -/
theorem exists_text_of_error {pattern : Option String} {fault : Pattern.Fault}
    (faulty : expressionOf pattern = .error fault) : ∃ text, pattern = some text := by
  cases pattern with
  | none => cases faulty
  | some text => exact ⟨text, rfl⟩

def refusePattern (text : String) (fault : Pattern.Fault) : Job (Option Pattern.Expression) :=
  if fault.isRefusal then Job.die ("Invalid regex for --name: " ++ fault.message text) misused
  else throw (.escape (.pattern text fault))

theorem readPattern_eq (pattern : Option String) :
    readPattern pattern =
      match expressionOf pattern with
      | .ok expression => pure expression
      | .error fault => refusePattern (pattern.getD "") fault := by
  unfold readPattern expressionOf
  cases given : pattern.filter (!·.isEmpty) with
  | none => rfl
  | some text =>
    obtain ⟨rfl, -⟩ := Option.filter_eq_some_iff.mp given
    simp only
    cases Pattern.read text <;> rfl

/-! ## The topics -/

/-- The subjects in which an expression is found. -/
def candidates (expression : Option Pattern.Expression) (subjects : List String) : List String :=
  match expression with
  | none => subjects
  | some expression => subjects.filter (expression.find · == .present)

/-- The search for an expression comes to an answer in each of the subjects. -/
def Searchable (expression : Option Pattern.Expression) (subjects : List String) : Prop :=
  ∀ wanted, expression = some wanted → ∀ subject ∈ subjects, wanted.find subject ≠ .crossed

instance (expression : Option Pattern.Expression) (subjects : List String) :
    Decidable (Searchable expression subjects) :=
  match expression with
  | none => isTrue nofun
  | some wanted =>
    decidable_of_iff (∀ subject ∈ subjects, wanted.find subject ≠ .crossed)
      ⟨fun answers _ given => Option.some.inj given ▸ answers,
        fun searchable => searchable wanted rfl⟩

theorem matching_of_searchable {expression : Option Pattern.Expression} {subjects : List String}
    (searchable : Searchable expression subjects) :
    matching expression subjects = pure (candidates expression subjects) := by
  cases expression with
  | none => rfl
  | some wanted =>
    have never : ¬ subjects.any (wanted.find · == .crossed) = true := by
      rw [List.any_eq_true]
      rintro ⟨subject, listed, crossed⟩
      exact searchable wanted rfl subject listed (beq_iff_eq.mp crossed)
    exact if_neg never

theorem matching_of_crossed {expression : Option Pattern.Expression} {subjects : List String}
    (crosses : ¬ Searchable expression subjects) :
    matching expression subjects = throw (.escape .crossedGroup) := by
  cases expression with
  | none => exact absurd (fun _ given => nomatch given) crosses
  | some wanted =>
    have somewhere : subjects.any (wanted.find · == .crossed) = true := by
      by_contra never
      refine crosses fun other given subject listed crossed => never ?_
      cases given
      exact List.any_eq_true.mpr ⟨subject, listed, beq_iff_eq.mpr crossed⟩
    exact if_pos somewhere

def listTopics (w : Workplace) (expression : Option Pattern.Expression) : Job (List String) := do
  let topics ← Job.orEnd (← Job.whileWorking "Loading topics..."
    (Job.act (Catalog.listTables w.config w.services w.config.defaultDatabase)))
  matching expression topics

/-- The same in a session that is opened first. -/
def topicsFor (w : Workplace) (expression : Option Pattern.Expression) : Job (List String) := do
  openSession w
  listTopics w expression

theorem loadTopics_eq (w : Workplace) (pattern : Option String) :
    loadTopics w pattern = readPattern pattern >>= topicsFor w := rfl

theorem loadSomeTopics_bind (w : Workplace) (pattern : Option String)
    (next : List String → Job Unit) :
    loadSomeTopics w pattern >>= next = readPattern pattern >>= fun expression =>
      topicsFor w expression >>= fun topics =>
        if topics.isEmpty then Job.warnAndExit "No topics found." else next topics := by
  simp only [loadSomeTopics, loadTopics_eq, bind_assoc]
  refine bind_congr fun expression => bind_congr fun topics => ?_
  cases topics.isEmpty <;> simp only [Bool.false_eq_true, if_false, if_true]
  · rfl
  · rw [bind_assoc, Job.warnAndExit_bind]

/-! ## At a desk -/

def spinner (text : String) : List Display := [.working text, .workDone]

/-- What is shown while the session is opened and while the subjects are listed. -/
def openingNotice : List Display := spinner "Connecting to Kafka and schema registry..."

def loadingNotice : List Display := spinner "Loading topics..."

section
variable {w : Workplace} {desk : Desk} {ending : Ending} {late : List Display}

theorem presents_openSession {next : Unit → Job Unit}
    (opened : ((Session.openMissing w.services).run desk.session).result = .ok ())
    (second : ∀ behind : Desk,
      behind.session = ((Session.openMissing w.services).run desk.session).session →
      behind.answers = desk.answers → (next ()).Presents behind ending late) :
    (openSession w >>= next).Presents desk ending (openingNotice ++ late) := by
  rw [openSession, bind_assoc]
  refine .bind_whileWorking _ (Job.runAt_act _ _) rfl rfl ?_
  rw [Desk.session_showing, opened]
  exact .bind_quiet (Job.runAt_orEnd_ok _ _) rfl rfl (second _ rfl rfl)

/-- In an open session the subjects are listed without more ado. -/
theorem listTables_of_open {Listing : Type} {config : Config} {services : Services Listing}
    {session : Session} (isOpen : session.isOpen = true) :
    (Catalog.listTables config services config.defaultDatabase).run session =
      ⟨services.listSubjects.result.mapError .subjectsFailed, session,
        services.listSubjects.trace⟩ := by
  obtain ⟨-, registry⟩ := Bool.and_eq_true_iff.mp isOpen
  obtain ⟨handle, held⟩ := Option.isSome_iff_exists.mp registry
  simp [Catalog.listTables, Catalog.inScope, Action.run_bind, Session.useRegistry_of_held held]

theorem presents_listTopics {expression : Option Pattern.Expression} {subjects : List String}
    {next : List String → Job Unit} (isOpen : desk.session.isOpen = true)
    (listed : w.services.listSubjects.result = .ok subjects)
    (second : ∀ behind : Desk, behind.session = desk.session → behind.answers = desk.answers →
      (matching expression subjects >>= next).Presents behind ending late) :
    (listTopics w expression >>= next).Presents desk ending (loadingNotice ++ late) := by
  rw [listTopics, bind_assoc]
  refine .bind_whileWorking _ (Job.runAt_act _ _) rfl rfl ?_
  rw [Desk.session_showing, listTables_of_open isOpen, listed, bind_assoc]
  exact .bind_quiet (Job.runAt_orEnd_ok _ _) rfl rfl (second _ rfl rfl)

end

/-! ## At a new desk -/

section
variable (config : Config) (cluster : Cluster) (answers : List Answer)

def openedSession : Session :=
  ((Session.openMissing (clients config cluster)).run (newSession config)).session

theorem openedSession_forWorkers (host : Host) :
    openedSession config (host.forWorkers cluster) = openedSession config cluster := rfl

def Opens : Prop :=
  ((Session.openMissing (clients config cluster)).run (newSession config)).result = .ok ()

/-- The session of a run has been opened and no prompt answered. -/
structure Loaded (desk : Desk) : Prop where
  session : desk.session = openedSession config cluster
  answers : desk.answers = answers

end

section
variable {config : Config} {cluster : Cluster} {answers : List Answer}

theorem sound_new (config : Config) : Catalog.Sound config (newSession config) :=
  ⟨⟨rfl, rfl⟩, fun held => by cases held⟩

/-- Behind an opening that ends well both handles are held. -/
theorem isOpen_openedSession (opens : Opens config cluster) :
    (openedSession config cluster).isOpen = true := by
  have registry := (Catalog.openMissing_response cluster (sound_new config)).2 opens
  have broker := Session.keeps_paired_openMissing _ (sound_new config).paired registry
  exact Bool.and_eq_true_iff.mpr ⟨broker, registry⟩

variable {host : Host} {expression : Option Pattern.Expression} {subjects : List String}
  {next : List String → Job Unit} {ending : Ending} {late : List Display}

theorem presents_topicsFor (opens : Opens config cluster)
    (lists : (RegistryClient.listSubjects cluster).result = .ok subjects)
    (second : ∀ desk, Loaded config cluster answers desk →
      (matching expression subjects >>= next).Presents desk ending late) :
    (topicsFor (.over host config cluster) expression >>= next).Presents
      (.new host.console config answers) ending (openingNotice ++ (loadingNotice ++ late)) := by
  rw [topicsFor, bind_assoc]
  refine presents_openSession opens fun desk session here => ?_
  refine presents_listTopics ?_ lists fun behind same there => second behind ⟨?_, ?_⟩
  · exact session ▸ isOpen_openedSession opens
  · exact same.trans session
  · exact there.trans here

end

end TopicTables.CommandLine
