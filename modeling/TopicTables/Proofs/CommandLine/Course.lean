import TopicTables.Proofs.CommandLine.Refusal

/-! # The course of a command

A command that is not refused may list topics and ask the user; it opens the session before it does
anything with the catalog, and leaves the catalog to its workers last. What holds at a desk in each
of these phases, and what holds when the command ends the program, is told by what each single thing
does that a command is made from.
-/

namespace TopicTables.CommandLine

/-- The phases of a command: before the session is opened, behind an opening that ended well or did
not, and behind the workers. -/
inductive Phase where
  | fresh
  | unopened
  | opened
  | worked
deriving DecidableEq, Repr

/-- The phases in which the session is opened. -/
def Phase.MayOpen (phase : Phase) : Prop :=
  phase = .fresh ∨ phase = .opened

/-- The phase behind an opening. -/
def Phase.behindOpening : Except Failure Unit → Phase
  | .ok () => .opened
  | .error _ => .unopened

/-- What holds at a desk in each phase and when the program ends, kept by each single thing that a
command does. -/
structure Course (w : Workplace) (resolve : Resolver) where
  holds : Phase → Desk → Prop
  ended : Ending → Desk → Prop
  showing : ∀ {phase desk}, holds phase desk → ∀ displays, holds phase (desk.showing displays)
  asking : ∀ {desk}, holds .opened desk → ∀ prompt, holds .opened (desk.asking prompt)
  ends : ∀ {phase ending desk}, holds phase desk → ending ≠ .exit misused → ended ending desk
  opens : ∀ {phase desk}, holds phase desk → phase.MayOpen →
    let outcome := (Session.openMissing w.services).run desk.session
    holds (.behindOpening outcome.result) (desk.behind outcome)
  lists : ∀ {desk}, holds .opened desk → holds .opened
    (desk.behind ((Catalog.listTables w.config w.services
      w.config.defaultDatabase).run desk.session))
  asks : ∀ {desk}, holds .opened desk → ∀ topic, holds .opened
    (desk.behind ((Catalog.tableExists w.config w.services
      ⟨w.config.defaultDatabase, topic⟩).run desk.session))
  looksUp : ∀ {desk}, holds .opened desk → ∀ topic, holds .opened
    (desk.behind ((Catalog.getTable w.config w.services
      ⟨w.config.defaultDatabase, topic⟩).run desk.session))
  works : ∀ {desk}, holds .opened desk → ∀ names limit, 1 ≤ limit →
    holds .worked (desk.behindWorkers ((resolve names limit).run desk.session))

namespace Course

variable {α : Type} {w : Workplace} {resolve : Resolver} (c : Course w resolve) {phase : Phase}

theorem leads_pure (value : α) :
    Job.Leads (c.holds phase) (pure value) (fun _ => c.holds phase) c.ended :=
  Job.leads_pure fun _ holds => holds

theorem leads_escape (escape : Escape) {after : α → Desk → Prop} :
    Job.Leads (c.holds phase) (throw (.escape escape)) after c.ended :=
  Job.leads_throw fun _ holds => c.ends holds nofun

theorem leads_display (shown : Display) :
    Job.Leads (c.holds phase) (Job.display shown) (fun _ => c.holds phase) c.ended :=
  Job.leads_display (fun _ holds => c.showing holds _) fun _ holds _ => c.ends holds nofun

theorem leads_showAll (shown : List Display) :
    Job.Leads (c.holds phase) (Job.showAll shown) (fun _ => c.holds phase) c.ended := by
  induction shown with
  | nil => exact c.leads_pure ()
  | cons shown others ih =>
    rw [Job.showAll_cons]
    exact Job.leads_bind (c.leads_display shown) fun _ => ih

theorem leads_whileWorking (text : String) {job : Job α} {between : α → Phase}
    (works : Job.Leads (c.holds phase) job (fun value => c.holds (between value)) c.ended) :
    Job.Leads (c.holds phase) (Job.whileWorking text job) (fun value => c.holds (between value))
      c.ended :=
  Job.leads_bind (c.leads_display _) fun _ => Job.leads_bind works fun value =>
    Job.leads_bind (c.leads_display _) fun _ => c.leads_pure value

theorem leads_fail (text : String) {after : α → Desk → Prop} :
    Job.Leads (c.holds phase) (Job.die text failed) after c.ended :=
  Job.leads_bind (c.leads_display _) fun _ =>
    Job.leads_throw fun _ holds => c.ends holds (by decide)

theorem leads_warnAndExit (text : String) {after : α → Desk → Prop} :
    Job.Leads (c.holds phase) (Job.warnAndExit text) after c.ended :=
  Job.leads_bind (c.leads_display _) fun _ =>
    Job.leads_throw fun _ holds => c.ends holds (by decide)

theorem leads_ask (prompt : Display) :
    Job.Leads (c.holds .opened) (Job.ask prompt) (fun _ => c.holds .opened) c.ended :=
  Job.leads_ask fun _ holds => c.asking holds prompt

theorem leads_orEnd_error (failure : Failure) {after : α → Desk → Prop} :
    Job.Leads (c.holds phase) (Job.orEnd (.error failure)) after c.ended := by
  simp only [Job.orEnd]
  split
  · exact c.leads_fail _
  · exact c.leads_escape _

theorem leads_orEnd (result : Except Failure α) :
    Job.Leads (c.holds phase) (Job.orEnd result) (fun _ => c.holds phase) c.ended := by
  cases result with
  | ok value => exact c.leads_pure value
  | error failure => exact c.leads_orEnd_error failure

theorem leads_lists :
    Job.Leads (c.holds .opened)
      (Job.act (Catalog.listTables w.config w.services w.config.defaultDatabase))
      (fun _ => c.holds .opened) c.ended :=
  Job.leads_act fun _ holds => c.lists holds

theorem leads_asks (topic : String) :
    Job.Leads (c.holds .opened)
      (Job.act (Catalog.tableExists w.config w.services ⟨w.config.defaultDatabase, topic⟩))
      (fun _ => c.holds .opened) c.ended :=
  Job.leads_act fun _ holds => c.asks holds topic

theorem leads_looksUp (topic : String) :
    Job.Leads (c.holds .opened)
      (Job.act (Catalog.getTable w.config w.services ⟨w.config.defaultDatabase, topic⟩))
      (fun _ => c.holds .opened) c.ended :=
  Job.leads_act fun _ holds => c.looksUp holds topic

theorem leads_works (names : List String) {limit : Int} (positive : 1 ≤ limit) :
    Job.Leads (c.holds .opened) (Job.actByWorkers (resolve names limit))
      (fun _ => c.holds .worked) c.ended :=
  Job.leads_actByWorkers fun _ holds => c.works holds names limit positive

theorem leads_openSession (early : phase.MayOpen) :
    Job.Leads (c.holds phase) (openSession w) (fun _ => c.holds .opened) c.ended := by
  have opens : Job.Leads (c.holds phase) (Job.act (Session.openMissing w.services))
      (fun opened => c.holds (.behindOpening opened)) c.ended :=
    Job.leads_act fun _ holds => c.opens holds early
  refine Job.leads_bind (c.leads_whileWorking _ opens) fun opened => ?_
  cases opened with
  | ok _ => exact c.leads_pure ()
  | error failure => exact c.leads_orEnd_error failure

theorem leads_readPattern {pattern : Option String}
    (unrefused : ∀ fault, expressionOf pattern = .error fault → fault.isRefusal = false) :
    Job.Leads (c.holds phase) (readPattern pattern) (fun _ => c.holds phase) c.ended := by
  rw [readPattern_eq]
  cases faulty : expressionOf pattern with
  | ok expression => exact c.leads_pure _
  | error fault =>
    simp only [refusePattern, unrefused fault faulty]
    exact c.leads_escape _

theorem leads_matching (expression : Option Pattern.Expression) (topics : List String) :
    Job.Leads (c.holds phase) (matching expression topics) (fun _ => c.holds phase) c.ended := by
  cases expression with
  | none => exact c.leads_pure _
  | some wanted =>
    simp only [matching]
    split
    · exact c.leads_escape _
    · exact c.leads_pure _

theorem leads_loadSomeTopics {pattern : Option String}
    (unrefused : ∀ fault, expressionOf pattern = .error fault → fault.isRefusal = false) :
    Job.Leads (c.holds .fresh) (loadSomeTopics w pattern) (fun _ => c.holds .opened) c.ended := by
  have loads : Job.Leads (c.holds .fresh) (loadTopics w pattern) (fun _ => c.holds .opened)
      c.ended := by
    refine Job.leads_bind (c.leads_readPattern unrefused) fun expression => ?_
    refine Job.leads_bind (c.leads_openSession (.inl rfl)) fun _ => ?_
    refine Job.leads_bind (c.leads_whileWorking _ c.leads_lists) fun listed => ?_
    exact Job.leads_bind (c.leads_orEnd listed) fun topics => c.leads_matching expression topics
  refine Job.leads_bind loads fun topics => ?_
  split
  · exact Job.leads_bind (c.leads_warnAndExit _) fun _ => c.leads_pure _
  · exact c.leads_pure _

theorem leads_chosenTopic (topic : Option String) :
    Job.Leads (c.holds .fresh) (chosenTopic w topic)
      (fun _ desk => ∃ phase : Phase, phase.MayOpen ∧ c.holds phase desk) c.ended := by
  cases topic with
  | some topic => exact Job.leads_pure fun _ holds => ⟨.fresh, .inl rfl, holds⟩
  | none =>
    have readable (fault : Pattern.Fault) (faulty : expressionOf none = .error fault) :
        fault.isRefusal = false := by
      cases faulty
    refine Job.leads_bind (c.leads_loadSomeTopics readable) fun topics => ?_
    have selects : Job.Leads (c.holds .opened) (selectOne "Select a topic:" topics)
        (fun _ => c.holds .opened) c.ended := by
      unfold selectOne
      split
      · exact c.leads_pure _
      · exact Job.leads_bind (c.leads_ask _) fun _ => c.leads_pure _
    refine Job.leads_bind selects fun picked => ?_
    split
    · exact Job.leads_pure fun _ holds => ⟨.opened, .inr rfl, holds⟩
    · exact c.leads_warnAndExit _

theorem leads_describeTable (topic : Option String) :
    Job.Leads (c.holds .fresh) (describeTable w topic) (fun _ => c.holds .opened) c.ended := by
  refine Job.leads_bind (c.leads_chosenTopic topic) fun topic => ?_
  have opens : Job.Leads (fun desk => ∃ phase : Phase, phase.MayOpen ∧ c.holds phase desk)
      (openSession w) (fun _ => c.holds .opened) c.ended :=
    fun desk ⟨_, early, holds⟩ => c.leads_openSession early desk holds
  refine Job.leads_bind opens fun _ => ?_
  refine Job.leads_bind (c.leads_whileWorking _ (c.leads_looksUp topic)) fun found => ?_
  refine Job.leads_bind (c.leads_orEnd found) fun table => ?_
  refine Job.leads_bind (c.leads_display _) fun _ => ?_
  split
  · exact Job.leads_bind (c.leads_display _) fun _ => c.leads_showAll _
  · exact c.leads_escape _

theorem leads_reportOn {parallel : Int} (positive : 1 ≤ parallel) (chosen : List String) :
    Job.Leads (c.holds .opened) (reportOn (resolve chosen parallel) chosen)
      (fun _ => c.holds .worked) c.ended := by
  refine Job.leads_bind (c.leads_whileWorking _ (c.leads_works chosen positive)) fun resolved => ?_
  refine Job.leads_bind (c.leads_orEnd resolved) fun resolutions => ?_
  refine Job.leads_bind (c.leads_display _) fun _ => ?_
  split
  · exact c.leads_display _
  · exact c.leads_fail _

theorem leads_reportFrom {parallel : Int} (positive : 1 ≤ parallel) (all : Bool)
    (topics : List String) :
    Job.Leads (c.holds .opened) (reportFrom resolve all parallel topics)
      (fun _ => c.holds .worked) c.ended := by
  have chooses : Job.Leads (c.holds .opened) (chosenTopics all topics) (fun _ => c.holds .opened)
      c.ended := by
    unfold chosenTopics
    split
    · exact c.leads_pure _
    · exact Job.leads_bind (c.leads_ask _) fun _ => c.leads_pure _
  refine Job.leads_bind chooses fun chosen => ?_
  split
  · exact c.leads_warnAndExit _
  · exact c.leads_reportOn positive chosen

theorem leads_tableExists (topic : String) :
    Job.Leads (c.holds .fresh) (tableExists w topic) (fun _ => c.holds .opened) c.ended := by
  refine Job.leads_bind (c.leads_openSession (.inl rfl)) fun _ => ?_
  refine Job.leads_bind (c.leads_asks topic) fun asked => ?_
  refine Job.leads_bind (c.leads_orEnd asked) fun isThere => ?_
  split
  · exact c.leads_display _
  · exact c.leads_fail _

/-- A command that is not refused takes its course. -/
theorem leads_performBy {command : Command} (accepted : ∀ text, ¬ Refused command text) :
    Job.Leads (c.holds .fresh) (performBy resolve w command)
      (fun _ desk => ∃ phase, c.holds phase desk) c.ended := by
  have unrefused {pattern : Option String} (reads : Reads command pattern) (fault : Pattern.Fault)
      (faulty : expressionOf pattern = .error fault) : fault.isRefusal = false := by
    obtain ⟨text, rfl⟩ := exists_text_of_error faulty
    exact Bool.eq_false_iff.mpr fun refusal => accepted _ (.pattern reads faulty refusal)
  cases command with
  | listDatabases =>
    refine Job.leads_bind (c.leads_display _) fun _ => ?_
    exact (c.leads_display _).imp fun _ _ holds => ⟨.fresh, holds⟩
  | listTables pattern =>
    have loads := c.leads_loadSomeTopics (unrefused (.listTables pattern))
    refine Job.leads_bind loads fun topics => Job.leads_bind (c.leads_display _) fun _ => ?_
    refine Job.leads_bind (c.leads_display _) fun _ => ?_
    exact (c.leads_display _).imp fun _ _ holds => ⟨.opened, holds⟩
  | describeTable topic =>
    exact (c.leads_describeTable topic).imp fun _ _ holds => ⟨.opened, holds⟩
  | describeTables pattern all parallel =>
    have enough : ¬ parallel < 1 := fun few => accepted _ (.parallel pattern all few)
    have positive : 1 ≤ parallel := Int.not_lt.mp enough
    have loads := c.leads_loadSomeTopics (unrefused (.describeTables pattern all positive))
    rw [performBy, describeTablesBy, if_neg enough]
    refine Job.leads_bind loads fun topics => ?_
    exact (c.leads_reportFrom positive all topics).imp fun _ _ holds => ⟨.worked, holds⟩
  | tableExists topic =>
    exact (c.leads_tableExists topic).imp fun _ _ holds => ⟨.opened, holds⟩

/-- Whatever the exit code, an error leaves the phase as it is. -/
theorem leads_die (text : String) (code : Nat) {after : α → Desk → Prop} :
    Job.Leads (c.holds phase) (Job.die text code) after (fun _ => c.holds phase) := by
  have displays : Job.Leads (c.holds phase) (Job.display (.error text))
      (fun _ => c.holds phase) (fun _ => c.holds phase) :=
    Job.leads_display (fun _ holds => c.showing holds _) fun _ holds _ => holds
  exact Job.leads_bind displays fun _ => Job.leads_throw fun _ holds => holds

/-- Whatever the words ask for, behind the job holds what follows from the phases and from the
endings. -/
theorem behind_groupJobBy {P : Desk → Prop} (held : ∀ phase desk, c.holds phase desk → P desk)
    (ended : ∀ ending desk, c.ended ending desk → P desk)
    (command : Option (CommandName × List String)) {desk : Desk} (fresh : c.holds .fresh desk) :
    P ((groupJobBy resolve w command).runAt desk).2 := by
  cases command with
  | none => exact held .fresh desk fresh
  | some command =>
    obtain ⟨name, words⟩ := command
    simp only [groupJobBy]
    cases readCommand name words with
    | error stop => exact held .fresh desk fresh
    | ok command =>
      by_cases refused : ∃ text, Refused command text
      · obtain ⟨text, refused⟩ := refused
        have refuses : Job.Leads (c.holds .fresh) (performBy resolve w command)
            (fun _ => c.holds .fresh) (fun _ => c.holds .fresh) :=
          performBy_of_refused (w := w) resolve refused ▸ c.leads_die text misused
        exact refuses.behind (fun _ => held .fresh) (fun _ => held .fresh) fresh
      · refine (c.leads_performBy (not_exists.mp refused)).behind ?_ ended fresh
        rintro _ desk ⟨phase, holds⟩
        exact held phase desk holds

end Course

end TopicTables.CommandLine
