import TopicTables.CommandLine.Program
import TopicTables.Proofs.Session.Invariant

/-! # What a job leads to

A job at a desk ends well with a value or ends the program, and leaves the desk behind as it is
then. For each thing that jobs are made from an equation tells this at a given desk, and a rule
tells it at every desk of a kind. What is displayed may end the program, if the console raises.
-/

namespace TopicTables.CommandLine

variable {α β : Type}

namespace Desk

/-- The desk behind things that were shown. -/
def showing (desk : Desk) (displays : List Display) : Desk :=
  { desk with shown := desk.shown ++ displays }

/-- The desk behind a prompt: an answer has been used up. -/
def asking (desk : Desk) (prompt : Display) : Desk :=
  { desk with shown := desk.shown ++ [prompt], answers := desk.answers.tail }

def nextAnswer (desk : Desk) : Answer :=
  desk.answers.head?.getD .cancelled

/-- The desk behind something done in its session. -/
def behind (desk : Desk) (outcome : Outcome α) : Desk :=
  { desk with session := outcome.session, trace := desk.trace ++ outcome.trace }

/-- The desk behind something that workers did in its session. -/
def behindWorkers (desk : Desk) (outcome : Outcome α) : Desk :=
  { desk with session := outcome.session, workerTrace := desk.workerTrace ++ outcome.trace }

section
variable (desk : Desk) (displays : List Display) (outcome : Outcome α)

@[simp] theorem console_showing : (desk.showing displays).console = desk.console := rfl

@[simp] theorem session_showing : (desk.showing displays).session = desk.session := rfl

@[simp] theorem answers_showing : (desk.showing displays).answers = desk.answers := rfl

@[simp] theorem shown_showing : (desk.showing displays).shown = desk.shown ++ displays := rfl

@[simp] theorem console_behind : (desk.behind outcome).console = desk.console := rfl

@[simp] theorem session_behind : (desk.behind outcome).session = outcome.session := rfl

@[simp] theorem answers_behind : (desk.behind outcome).answers = desk.answers := rfl

@[simp] theorem session_behindWorkers :
    (desk.behindWorkers outcome).session = outcome.session := rfl

@[simp] theorem shown_behindWorkers : (desk.behindWorkers outcome).shown = desk.shown := rfl

@[simp] theorem shown_behind : (desk.behind outcome).shown = desk.shown := rfl

end

end Desk

/-- How a job that ends in some way ends the program. -/
def Ending.ofResult : Except Ending Unit → Ending
  | .ok () => .exit succeeded
  | .error ending => ending

namespace Job

def runAt (job : Job α) (desk : Desk) : Except Ending α × Desk :=
  (ExceptT.run job).run desk

/-! ## At a given desk -/

section
variable {job : Job α} {next : α → Job β} {desk between : Desk}

theorem runAt_bind_of_ok {value : α} (first : job.runAt desk = (.ok value, between)) :
    (job >>= next).runAt desk = (next value).runAt between := by
  simp only [runAt] at first
  simp only [runAt, ExceptT.run_bind, StateT.run_bind, first]
  rfl

theorem runAt_bind_of_error {ending : Ending} (first : job.runAt desk = (.error ending, between)) :
    (job >>= next).runAt desk = (.error ending, between) := by
  simp only [runAt] at first
  simp only [runAt, ExceptT.run_bind, StateT.run_bind, first]
  rfl

end

section
variable (desk : Desk)

@[simp] theorem runAt_pure (value : α) : (pure value : Job α).runAt desk = (.ok value, desk) := rfl

@[simp] theorem runAt_throw (ending : Ending) :
    (throw ending : Job α).runAt desk = (.error ending, desk) := rfl

theorem runAt_display (shown : Display) :
    (display shown).runAt desk =
      match desk.console.fault? desk.shown shown with
      | some fault => (.error (.escape (.console fault)), desk)
      | none => (.ok (), desk.showing [shown]) := by
  have looks : (get : Job Desk).runAt desk = (.ok desk, desk) := rfl
  rw [display, runAt_bind_of_ok looks]
  cases desk.console.fault? desk.shown shown <;> rfl

@[simp] theorem runAt_exit (code : Nat) :
    (exit code : Job α).runAt desk = (.error (.exit code), desk) := rfl

theorem runAt_die (text : String) (code : Nat) :
    (die text code : Job α).runAt desk =
      match desk.console.fault? desk.shown (.error text) with
      | some fault => (.error (.escape (.console fault)), desk)
      | none => (.error (.exit code), desk.showing [.error text]) := by
  have displays := runAt_display desk (.error text)
  cases raised : desk.console.fault? desk.shown (.error text) with
  | some fault => exact runAt_bind_of_error (by rw [displays, raised])
  | none => exact runAt_bind_of_ok (by rw [displays, raised])

@[simp] theorem runAt_ask (prompt : Display) :
    (ask prompt).runAt desk = (.ok desk.nextAnswer, desk.asking prompt) := rfl

@[simp] theorem runAt_act (action : Action α) :
    (act action).runAt desk =
      (.ok (action.run desk.session).result, desk.behind (action.run desk.session)) := rfl

@[simp] theorem runAt_actByWorkers (action : Action α) :
    (actByWorkers action).runAt desk =
      (.ok (action.run desk.session).result, desk.behindWorkers (action.run desk.session)) := rfl

@[simp] theorem runAt_orEnd_ok (value : α) :
    (orEnd (.ok value)).runAt desk = (.ok value, desk) := rfl

end

theorem showAll_cons (shown : Display) (others : List Display) :
    showAll (shown :: others) = display shown >>= fun _ => showAll others :=
  List.forM_cons

theorem die_bind (text : String) (code : Nat) (next : α → Job β) :
    (die text code >>= next) = die text code :=
  bind_assoc ..

theorem warnAndExit_bind (text : String) (next : α → Job β) :
    (warnAndExit text >>= next) = warnAndExit text :=
  bind_assoc ..

/-! ## At every desk of a kind -/

/-- Wherever `before` holds, the job ends well in `after` or ends the program in `ended`. -/
def Leads (before : Desk → Prop) (job : Job α) (after : α → Desk → Prop)
    (ended : Ending → Desk → Prop) : Prop :=
  ∀ desk, before desk →
    match job.runAt desk with
    | (.ok value, behind) => after value behind
    | (.error ending, behind) => ended ending behind

section
variable {before : Desk → Prop} {after : α → Desk → Prop} {ended : Ending → Desk → Prop}

theorem Leads.of_error {job : Job α} (leads : Leads before job after ended) {desk : Desk}
    {ending : Ending} (holds : before desk) (ends : (job.runAt desk).1 = .error ending) :
    ended ending (job.runAt desk).2 := by
  have led := leads desk holds
  generalize job.runAt desk = ran at led ends ⊢
  obtain ⟨result, behind⟩ := ran
  cases ends
  exact led

theorem leads_bind {job : Job α} {next : α → Job β} {between : α → Desk → Prop}
    {after : β → Desk → Prop} (first : Leads before job between ended)
    (second : ∀ value, Leads (between value) (next value) after ended) :
    Leads before (job >>= next) after ended := by
  intro desk holds
  have led := first desk holds
  cases ran : job.runAt desk with
  | mk result behind =>
    rw [ran] at led
    cases result with
    | error ending => rwa [runAt_bind_of_error ran]
    | ok value =>
      rw [runAt_bind_of_ok ran]
      exact second value behind led

theorem Leads.imp {job : Job α} {after' : α → Desk → Prop} (leads : Leads before job after ended)
    (weaker : ∀ value desk, after value desk → after' value desk) :
    Leads before job after' ended := by
  intro desk holds
  have led := leads desk holds
  split
  · next value behind ran => exact weaker value behind (ran ▸ led :)
  · next ending behind ran => exact (ran ▸ led :)

theorem Leads.behind {job : Job α} {P : Desk → Prop} (leads : Leads before job after ended)
    (well : ∀ value desk, after value desk → P desk)
    (badly : ∀ ending desk, ended ending desk → P desk) {desk : Desk} (holds : before desk) :
    P (job.runAt desk).2 := by
  have led := leads desk holds
  split at led
  · next value behind ran => exact ran ▸ well value behind led
  · next ending behind ran => exact ran ▸ badly ending behind led

theorem leads_pure {value : α} (holds : ∀ desk, before desk → after value desk) :
    Leads before (pure value) after ended :=
  holds

theorem leads_throw {ending : Ending} (holds : ∀ desk, before desk → ended ending desk) :
    Leads before (throw ending) after ended :=
  holds

theorem leads_display {shown : Display} {after : Unit → Desk → Prop}
    (taken : ∀ desk, before desk → after () (desk.showing [shown]))
    (raised : ∀ desk, before desk → ∀ fault, ended (.escape (.console fault)) desk) :
    Leads before (display shown) after ended := by
  intro desk holds
  rw [runAt_display]
  cases desk.console.fault? desk.shown shown with
  | some fault => exact raised desk holds fault
  | none => exact taken desk holds

theorem leads_ask {prompt : Display} {after : Answer → Desk → Prop}
    (holds : ∀ desk, before desk → after desk.nextAnswer (desk.asking prompt)) :
    Leads before (ask prompt) after ended :=
  holds

theorem leads_act {action : Action α} {after : Except Failure α → Desk → Prop}
    (holds : ∀ desk, before desk →
      after (action.run desk.session).result (desk.behind (action.run desk.session))) :
    Leads before (act action) after ended :=
  holds

theorem leads_actByWorkers {action : Action α} {after : Except Failure α → Desk → Prop}
    (holds : ∀ desk, before desk →
      after (action.run desk.session).result (desk.behindWorkers (action.run desk.session))) :
    Leads before (actByWorkers action) after ended :=
  holds

end

end Job

end TopicTables.CommandLine
