import TopicTables.Proofs.Session.Accounting

/-! # Threads that share a session

Opening and closing are done under a lock, in one part each. A use of a handle is done in the parts
that it has, and other threads may act between two of them. A scene is a session with the threads
that share it; it goes on with the next part of any thread that has one, over services that may
answer differently every time.
-/

namespace TopicTables.Session
open TopicTables.Action

variable {Listing : Type} {services : Services Listing} {session : Session}

/-- A part of a command, done while no other thread acts. -/
inductive Part where
  | opens
  | closes
  | uses (handle : Handle) (use : Use)
deriving DecidableEq, Repr

def Command.firstPart : Command → Part
  | openSession => .opens
  | close => .closes
  | use handle => .uses handle .looks

namespace Part

def act (services : Services Listing) : Part → Action (Part ⊕ Option Nat)
  | opens => do
    openMissing services
    return .inr none
  | closes => do
    Session.close services
    return .inr none
  | uses handle use => return (← use.act services handle).map (.uses handle) some

theorem run_uses (services : Services Listing) (handle : Handle) (use : Use) (session : Session) :
    ((uses handle use).act services).run session =
      ⟨((use.act services handle).run session).result.map (·.map (.uses handle) some),
        ((use.act services handle).run session).session,
        ((use.act services handle).run session).trace⟩ := by
  rw [act, bind_pure_comp, run_map]

def rest (services : Services Listing) : Part → Action (Option Nat)
  | opens => Command.openSession.act services
  | closes => Command.close.act services
  | uses handle use => return some (← use.rest services handle)

/-- Done one after the other, the parts are the command as a whole. -/
theorem rest_eq (services : Services Listing) (part : Part) :
    part.rest services = part.act services >>= Sum.elim (Part.rest services) pure := by
  cases part with
  | opens => simp [rest, act, Command.act]
  | closes => simp [rest, act, Command.act]
  | uses handle use =>
    rw [rest, act, Use.rest_eq, bind_assoc, bind_assoc]
    refine bind_congr fun reached => ?_
    cases reached <;> simp [rest]

theorem rest_firstPart (services : Services Listing) (command : Command) :
    command.firstPart.rest services = command.act services := by
  cases command <;> rfl

/-- What a part leads to that opens the session and ends well. -/
def afterOpening? : Part → Option (Part ⊕ Option Nat)
  | opens => some (.inr none)
  | uses handle .opens => some (.inl (.uses handle .looksAgain))
  | _ => none

end Part

theorem close_result (services : Services Listing) (session : Session) :
    ((close services).run session).result = .ok () ∨
      ∃ cause, ((close services).run session).result = .error (.service cause) := by
  cases held : session.broker with
  | none => exact .inl (by simp [close, run_bind, held])
  | some number =>
    cases ended : (services.shutdownBroker number session.servers).result with
    | ok _ => exact .inl (by simp [close, run_bind, held, ended])
    | error cause => exact .inr ⟨cause, by simp [close, run_bind, held, ended]⟩

/-- The ways in which a part ends, what it leaves behind and what is done on them. -/
inductive PartWay (services : Services Listing) (session : Session) :
    Part → Except Failure (Part ⊕ Option Nat) → Session → Deeds → Prop where
  | opening {part : Part} {next : Part ⊕ Option Nat} {opened : Except Failure Unit}
      {result : Except Failure (Part ⊕ Option Nat)} {after : Session} {deeds : Deeds}
      (opens : part.afterOpening? = some next) (ends : result = opened.map fun _ => next)
      (way : OpeningWay services session opened after deeds) :
      PartWay services session part result after deeds
  | closed : PartWay services session .closes (.ok (.inr none))
      { session with broker := none, registry := none } (session.partings services)
  | unshut {cause : ServiceFailure} : PartWay services session .closes (.error (.service cause))
      { session with broker := none, registry := none } (session.partings services)
  | found {handle : Handle} {use : Use} {number : Nat} (held : session.held handle = some number) :
      PartWay services session (.uses handle use) (.ok (.inr (some number))) session []
  | unheld {handle : Handle} (absent : session.held handle = none) :
      PartWay services session (.uses handle .looks) (.ok (.inl (.uses handle .opens))) session []
  | missed {handle : Handle} (absent : session.held handle = none) :
      PartWay services session (.uses handle .looksAgain) (.error handle.notOpen) session []

theorem partWay (services : Services Listing) (session : Session) (part : Part) :
    let outcome := (part.act services.recorded).run session
    PartWay services session part outcome.result outcome.session (outcome.deeds services) := by
  intro outcome
  cases part with
  | opens =>
    have run : outcome = _ := run_map _ _ session
    rw [run]
    exact .opening rfl rfl (openingWay services session)
  | closes =>
    have run : outcome = _ := run_map _ _ session
    have deeds : outcome.deeds services = session.partings services := by
      rw [← deeds_close, run]
      rfl
    rw [deeds, run, close_handles]
    obtain ended | ⟨cause, ended⟩ := close_result services.recorded session
    · rw [ended]
      exact .closed
    · rw [ended]
      exact .unshut
  | uses handle use =>
    have run : outcome = _ := Part.run_uses services.recorded handle use session
    rw [run]
    cases use with
    | looks =>
      cases held : session.held handle with
      | some number =>
        rw [Use.run_looks_of_held held]
        exact .found held
      | none =>
        rw [Use.run_looks_of_absent held]
        exact .unheld held
    | opens =>
      rw [Use.run_opens]
      refine .opening rfl ?_ (openingWay services session)
      cases ((openMissing services.recorded).run session).result <;> rfl
    | looksAgain =>
      cases held : session.held handle with
      | some number =>
        rw [Use.run_looksAgain_of_held held]
        exact .found held
      | none =>
        rw [Use.run_looksAgain_of_absent held]
        exact .missed held

/-! ## Scenes -/

/-- A thread: where it stands within a command, and the commands that it has still to begin. -/
structure Thread where
  within : Option Part := none
  commands : List Command

namespace Thread

/-- The next part of a thread, and the commands behind the one it is of. -/
def next? (thread : Thread) : Option (Part × List Command) :=
  match thread.within, thread.commands with
  | some part, commands => some (part, commands)
  | none, command :: commands => some (command.firstPart, commands)
  | none, [] => none

def left (thread : Thread) : Nat :=
  thread.within.toList.length + thread.commands.length

end Thread

/-- A part as it was done: by which thread, in which session, and how it ended. -/
structure Moment where
  thread : Nat
  part : Part
  before : Session
  result : Except Failure (Part ⊕ Option Nat)
  after : Session
  deeds : Deeds

/-- Where a thread stands behind a part. A command that fails has ended. -/
def Moment.within (moment : Moment) : Option Part :=
  match moment.result with
  | .ok (.inl next) => some next
  | _ => none

/-- The moment in which a thread does a part. -/
def Part.moment (services : Services Listing) (session : Session) (thread : Nat) (part : Part) :
    Moment :=
  let outcome := (part.act services.recorded).run session
  ⟨thread, part, session, outcome.result, outcome.session, outcome.deeds services⟩

/-- A session, the threads that share it and what they have done so far. -/
structure Scene where
  session : Session
  threads : List Thread
  history : List Moment

namespace Scene

def start (session : Session) (commands : List (List Command)) : Scene :=
  ⟨session, commands.map fun own => ⟨none, own⟩, []⟩

def deeds (scene : Scene) : Deeds :=
  scene.history.flatMap Moment.deeds

/-- The scene behind a moment of one of its threads. -/
def behind (scene : Scene) (moment : Moment) (commands : List Command) : Scene :=
  ⟨moment.after, scene.threads.set moment.thread ⟨moment.within, commands⟩,
    scene.history ++ [moment]⟩

/-- A thread does its next part, if it has one. -/
def step (scene : Scene) (turn : Nat × Services Listing) : Scene :=
  match scene.threads[turn.1]?.bind Thread.next? with
  | none => scene
  | some (part, commands) => scene.behind (part.moment turn.2 scene.session turn.1) commands

/-- The threads take turns, over services as they are at each turn. -/
def play (scene : Scene) (turns : List (Nat × Services Listing)) : Scene :=
  turns.foldl step scene

/-- The moment may come next in a scene and leaves its thread with some commands to begin. -/
structure Next (services : Services Listing) (scene : Scene) (moment : Moment)
    (commands : List Command) : Prop where
  before : moment.before = scene.session
  way : PartWay services moment.before moment.part moment.result moment.after moment.deeds
  goes : ∃ thread, scene.threads[moment.thread]? = some thread ∧
    thread.next? = some (moment.part, commands)

/-- All that a turn can do. -/
theorem step_cases (scene : Scene) (turn : Nat × Services Listing) :
    scene.step turn = scene ∨ ∃ moment commands, scene.Next turn.2 moment commands ∧
      scene.step turn = scene.behind moment commands := by
  rw [step]
  cases found : scene.threads[turn.1]? with
  | none => exact .inl rfl
  | some thread =>
    cases goes : thread.next? with
    | none => exact .inl (by simp [goes])
    | some next =>
      obtain ⟨part, commands⟩ := next
      have way := partWay turn.2 scene.session part
      exact .inr ⟨part.moment turn.2 scene.session turn.1, commands,
        ⟨rfl, way, thread, found, goes⟩, by simp [goes]⟩

theorem play_concat (scene : Scene) (turns : List (Nat × Services Listing))
    (turn : Nat × Services Listing) : scene.play (turns ++ [turn]) = (scene.play turns).step turn :=
  List.foldl_concat _ _ _ _

@[simp] theorem deeds_behind (scene : Scene) (moment : Moment) (commands : List Command) :
    (scene.behind moment commands).deeds = scene.deeds ++ moment.deeds := by
  simp [deeds, behind]

end Scene

end TopicTables.Session
