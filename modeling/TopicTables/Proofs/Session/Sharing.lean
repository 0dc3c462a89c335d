import TopicTables.Proofs.Session.Interleaving

/-! # What threads share

Threads that share a session share its handles. Without closing and failing, whichever thread opens
first makes both of them, once, and every use in every thread answers with these. What holds of
threads in general and what holds of such is put together at the end.
-/

namespace TopicTables

variable {Listing : Type}

/-- Making and starting brokers for some servers and making a registry at some address succeed. -/
structure Services.Succeed (services : Services Listing) (servers url : String) : Prop where
  broker : (services.makeBroker servers).result = .ok ()
  start : ∀ number, (services.startBroker number servers).result = .ok ()
  registry : (services.makeRegistry url).result = .ok true

namespace Session

variable {services : Services Listing} {session after : Session}
  {handle : Handle} {number : Nat} {deeds : Deeds}

/-- The session behind an opening of one without handles in which every call succeeds. -/
def opened (session : Session) : Session :=
  session.holdBroker.holdRegistry

def openingCalls (session : Session) : List Call :=
  [.makeBroker session.servers, .startBroker (session.brokersMade + 1), .makeRegistry session.url]

theorem opened_isOpen (session : Session) : session.opened.isOpen = true := rfl

theorem OpeningWay.of_closed {result : Except Failure Unit}
    (way : OpeningWay services session result after deeds)
    (succeed : services.Succeed session.servers session.url)
    (closed : ∀ handle, session.held handle = none) :
    result = .ok () ∧ after = session.opened ∧ deeds.map Deed.call = session.openingCalls := by
  obtain ⟨brokerMade, started, registryMade⟩ := succeed
  cases way with
  | stopped first =>
    cases first with
    | unmade absent unmade => cases brokerMade.symm.trans unmade
    | refused absent refused => cases (started (session.brokersMade + 1)).symm.trans refused
  | both first second =>
    cases first with
    | held held => simp [show session.broker = none from closed .broker] at held
    | started absent =>
      cases second with
      | held held =>
        have none : session.holdBroker.registry = none := closed .registry
        simp [none] at held
      | unmade absent unmade => cases registryMade.symm.trans unmade
      | none absent made => cases registryMade.symm.trans made
      | made absent => exact ⟨rfl, rfl, rfl⟩

theorem OpeningWay.of_open {result : Except Failure Unit}
    (way : OpeningWay services session result after deeds) (isOpen : session.isOpen = true) :
    result = .ok () ∧ after = session ∧ deeds = [] := by
  obtain ⟨broker, registry⟩ := Bool.and_eq_true_iff.mp isOpen
  cases way with
  | stopped first =>
    cases first with
    | unmade absent unmade => simp [absent] at broker
    | refused absent refused => simp [absent] at broker
  | both first second =>
    cases first with
    | started absent => simp [absent] at broker
    | held held =>
      cases second with
      | held held => exact ⟨rfl, rfl, rfl⟩
      | unmade absent unmade => simp [absent] at registry
      | none absent made => simp [absent] at registry
      | made absent => simp [absent] at registry

namespace PartWay

variable {part : Part} {result : Except Failure (Part ⊕ Option Nat)}

/-- In a session without handles a part other than closing is a look that finds nothing, an opening
that makes both handles, or the second look of a use. -/
theorem of_closed (way : PartWay services session part result after deeds)
    (succeed : services.Succeed session.servers session.url)
    (closed : ∀ handle, session.held handle = none) (keepsOpen : part ≠ .closes)
    (first : ∀ handle, part ≠ .uses handle .looksAgain) :
    (∃ handle, result = .ok (.inl (.uses handle .opens)) ∧ after = session ∧ deeds = []) ∨
      ∃ next, result = .ok next ∧ after = session.opened ∧
        deeds.map Deed.call = session.openingCalls := by
  cases way with
  | opening opens ends way =>
    obtain ⟨rfl, rfl, calls⟩ := way.of_closed succeed closed
    exact .inr ⟨_, ends, rfl, calls⟩
  | closed => exact absurd rfl keepsOpen
  | unshut => exact absurd rfl keepsOpen
  | @found handle use number held => cases (closed handle).symm.trans held
  | @unheld handle absent => exact .inl ⟨handle, rfl, rfl, rfl⟩
  | @missed handle absent => exact absurd rfl (first handle)

theorem of_open (way : PartWay services session part result after deeds)
    (isOpen : session.isOpen = true) (keepsOpen : part ≠ .closes) :
    (∃ next, result = .ok next) ∧ after = session ∧ deeds = [] := by
  have held (handle : Handle) : session.held handle ≠ none := by
    obtain ⟨broker, registry⟩ := Bool.and_eq_true_iff.mp isOpen
    cases handle with
    | broker => exact Option.isSome_iff_ne_none.mp broker
    | registry => exact Option.isSome_iff_ne_none.mp registry
  cases way with
  | opening opens ends way =>
    obtain ⟨rfl, rfl, rfl⟩ := way.of_open isOpen
    exact ⟨⟨_, ends⟩, rfl, rfl⟩
  | closed => exact absurd rfl keepsOpen
  | unshut => exact absurd rfl keepsOpen
  | found held => exact ⟨⟨_, rfl⟩, rfl, rfl⟩
  | @unheld handle absent => exact absurd absent (held handle)
  | @missed handle absent => exact absurd absent (held handle)

/-- No part leads to a closing. -/
theorem next_ne_closes {next : Part}
    (way : PartWay services session part (.ok (.inl next)) after deeds) : next ≠ .closes := by
  cases way with
  | @opening _ _ opened _ _ _ opens ends way =>
    cases opened with
    | error failure => cases ends
    | ok _ =>
      cases ends
      cases part with
      | uses handle use =>
        cases use <;> cases opens
        exact Part.noConfusion
      | _ => cases opens
  | unheld absent => exact Part.noConfusion

end PartWay

namespace Thread

variable {thread : Thread} {part : Part} {commands : List Command}

def KeepsOpen (thread : Thread) : Prop :=
  thread.within ≠ some .closes ∧ .close ∉ thread.commands

theorem KeepsOpen.next (keepsOpen : thread.KeepsOpen)
    (goes : thread.next? = some (part, commands)) : part ≠ .closes ∧ .close ∉ commands := by
  obtain ⟨within, own⟩ := thread
  obtain ⟨notWithin, notOwn⟩ := keepsOpen
  cases within with
  | some other =>
    cases goes
    exact ⟨fun same => notWithin (congrArg some same), notOwn⟩
  | none =>
    cases own with
    | nil => cases goes
    | cons command own =>
      cases goes
      refine ⟨fun closes => ?_, fun member => notOwn (List.mem_cons_of_mem _ member)⟩
      cases command with
      | close => exact notOwn List.mem_cons_self
      | _ => cases closes

theorem left_next (goes : thread.next? = some (part, commands)) :
    thread.left = commands.length + 1 := by
  obtain ⟨within, own⟩ := thread
  cases within with
  | some other =>
    cases goes
    simp [left, Nat.add_comm]
  | none =>
    cases own with
    | nil => cases goes
    | cons command own =>
      cases goes
      simp [left]

end Thread

namespace Scene

/-- What holds in every scene in which no thread closes and every call succeeds: either nothing was
called and no command has ended, or both handles have been made once and are held. -/
structure Calm (start : Session) (commands : List (List Command)) (scene : Scene) : Prop where
  keepsOpen : ∀ thread ∈ scene.threads, thread.KeepsOpen
  once : scene.session = start.opened ∧ scene.deeds.map Deed.call = start.openingCalls ∨
    scene.session = start ∧ scene.deeds = [] ∧
      scene.threads.map Thread.left = commands.map List.length ∧
      ∀ thread ∈ scene.threads, ∀ handle, thread.within ≠ some (.uses handle .looksAgain)
  answers : ∀ moment ∈ scene.history, (∃ next, moment.result = .ok next) ∧
    ∀ handle use answer, moment.part = .uses handle use → moment.result = .ok (.inr answer) →
      answer = start.opened.held handle

variable {start : Session} {commands : List (List Command)} {scene : Scene}

theorem calm_start (keepsOpen : ∀ own ∈ commands, .close ∉ own) :
    Calm start commands (Scene.start start commands) where
  keepsOpen thread member := by
    obtain ⟨own, among, rfl⟩ := List.mem_map.mp member
    exact ⟨by simp, keepsOpen own among⟩
  once := by
    refine .inr ⟨rfl, rfl, ?_, ?_⟩
    · simp [Scene.start, Thread.left]
    · intro thread member handle
      obtain ⟨own, -, rfl⟩ := List.mem_map.mp member
      simp
  answers moment member := by cases member

variable {moment : Moment} {own : List Command}

theorem Calm.keepsOpen_behind (calm : Calm start commands scene)
    (next : scene.Next services moment own) :
    moment.part ≠ .closes ∧ ∀ thread ∈ (scene.behind moment own).threads, thread.KeepsOpen := by
  obtain ⟨-, way, thread, found, goes⟩ := next
  obtain ⟨opens, rest⟩ := (calm.keepsOpen thread (List.mem_of_getElem? found)).next goes
  refine ⟨opens, fun other member => ?_⟩
  obtain old | rfl := List.mem_or_eq_of_mem_set member
  · exact calm.keepsOpen other old
  · refine ⟨fun within => ?_, rest⟩
    rw [Moment.result_of_within within] at way
    exact way.next_ne_closes rfl

/-- Without a session being opened, a thread that goes on has as many commands left as before. -/
theorem left_behind {next : Part} (goes : scene.Next services moment own)
    (within : moment.within = some next) :
    (scene.behind moment own).threads.map Thread.left = scene.threads.map Thread.left := by
  obtain ⟨-, -, thread, found, goes⟩ := goes
  have same : (Thread.mk moment.within own).left = thread.left := by
    rw [Thread.left_next goes, Thread.left, within, Option.toList_some, List.length_singleton,
      Nat.add_comm]
  obtain ⟨bound, rfl⟩ := List.getElem?_eq_some_iff.mp found
  rw [behind, List.map_set, same, ← List.map_set, List.set_getElem_self]

theorem Calm.answers_behind (calm : Calm start commands scene)
    (closed : ∀ handle, start.held handle = none) (next : scene.Next services moment own)
    (ended : ∃ next, moment.result = .ok next) :
    ∀ other ∈ (scene.behind moment own).history, (∃ next, other.result = .ok next) ∧
      ∀ handle use answer, other.part = .uses handle use → other.result = .ok (.inr answer) →
        answer = start.opened.held handle := by
  intro other member
  obtain old | new := List.mem_append.mp member
  · exact calm.answers other old
  rw [List.mem_singleton.mp new]
  refine ⟨ended, fun handle use answer isUse result => ?_⟩
  have way := next.way
  rw [isUse, result, next.before] at way
  obtain ⟨number, rfl, held⟩ := way.held_of_answer
  obtain ⟨isOpened, -⟩ | ⟨fresh, -⟩ := calm.once
  · rw [← held, isOpened]
  · rw [fresh, closed] at held
    cases held

theorem Calm.behind (calm : Calm start commands scene)
    (closed : ∀ handle, start.held handle = none)
    (succeed : services.Succeed start.servers start.url)
    (next : scene.Next services moment own) : Calm start commands (scene.behind moment own) := by
  obtain ⟨opens, keepsOpen⟩ := calm.keepsOpen_behind next
  have way := next.way
  rw [next.before] at way
  obtain ⟨isOpened, calls⟩ | ⟨fresh, nothing, left, first⟩ := calm.once
  · obtain ⟨ended, same, none⟩ := way.of_open (isOpened ▸ opened_isOpen start) opens
    refine ⟨keepsOpen, .inl ⟨same.trans isOpened, ?_⟩, calm.answers_behind closed next ended⟩
    rw [deeds_behind, none, List.append_nil, calls]
  · obtain ⟨thread, found, goes⟩ := next.goes
    have notAgain (handle : Handle) : moment.part ≠ .uses handle .looksAgain := fun again =>
      first thread (List.mem_of_getElem? found) handle (Thread.within_of_looksAgain (again ▸ goes))
    rw [fresh] at way
    obtain ⟨handle, result, same, none⟩ | ⟨reached, result, same, calls⟩ :=
      way.of_closed succeed closed opens notAgain
    · have within : moment.within = some (.uses handle .opens) := by rw [Moment.within, result]
      refine ⟨keepsOpen, .inr ⟨same, ?_, ?_, ?_⟩, calm.answers_behind closed next ⟨_, result⟩⟩
      · rw [deeds_behind, nothing, none, List.append_nil]
      · rw [left_behind next within, left]
      · intro other member handle
        obtain old | rfl := List.mem_or_eq_of_mem_set member
        · exact first other old handle
        · simp [within]
    · refine ⟨keepsOpen, .inl ⟨same, ?_⟩, calm.answers_behind closed next ⟨_, result⟩⟩
      rw [deeds_behind, nothing, List.nil_append, calls]

theorem calm_play (closed : ∀ handle, start.held handle = none)
    (keepsOpen : ∀ own ∈ commands, .close ∉ own) {turns : List (Nat × Services Listing)}
    (succeed : ∀ turn ∈ turns, turn.2.Succeed start.servers start.url) :
    Calm start commands ((Scene.start start commands).play turns) := by
  induction turns using List.reverseRecOn with
  | nil => exact calm_start keepsOpen
  | append_singleton turns turn ih =>
    have calm := ih fun other member => succeed other (List.mem_append_left _ member)
    have last := succeed turn (List.mem_append_right _ (List.mem_singleton_self turn))
    rw [play_concat]
    obtain same | ⟨moment, rest, next, same⟩ := step_cases _ turn
    · rwa [same]
    · rw [same]
      exact calm.behind closed last next

/-- However the turns of threads fall that share a session without handles, and whichever calls
fail. A use that ends well answers with a handle that an earlier opening installed. A command finds
the session not open only in the second look of a use, where the session was closed behind the
opening of that use or the opening was handed out no registry. The broker that started and was not
told to shut down is the one that is held, if there is one; no broker is told twice to start or to
shut down, and none shuts down that has not started. Where no thread closes and every call succeeds,
either no command has ended and nothing was called, or one broker was made and started and one
registry was made, and every use that ended answered with these. -/
theorem play_answers_installed (servers url : String) (brokersMade registriesMade : Nat)
    (commands : List (List Command)) (turns : List (Nat × Services Listing)) :
    let start : Session := { servers, url, brokersMade, registriesMade }
    let scene := (Scene.start start commands).play turns
    (∀ earlier moment later, scene.history = earlier ++ moment :: later →
      moment.Founded earlier ∧ moment.Excused earlier) ∧
    (∀ number ∈ scene.deeds.started, number ∉ scene.deeds.shutDown →
      scene.session.broker = some number) ∧
    scene.deeds.tried.Nodup ∧ scene.deeds.shutDown.Nodup ∧
    (∀ number ∈ scene.deeds.shutDown, number ∈ scene.deeds.started) ∧
    ((∀ own ∈ commands, .close ∉ own) → (∀ turn ∈ turns, turn.2.Succeed servers url) →
      (scene.deeds.map Deed.call = start.openingCalls ∨
        scene.deeds = [] ∧ scene.threads.map Thread.left = commands.map List.length) ∧
      ∀ moment ∈ scene.history, (∃ next, moment.result = .ok next) ∧
        ∀ handle use answer, moment.part = .uses handle use → moment.result = .ok (.inr answer) →
          answer = start.opened.held handle) := by
  intro start scene
  have closed (handle : Handle) : start.held handle = none := by cases handle <;> rfl
  have sound : Sound start scene := sound_play closed commands turns
  have balanced := sound.balanced
  refine ⟨?_, ?_, balanced.nodup_tried, balanced.nodup_shutDown rfl, ?_, ?_⟩
  · intro earlier moment later split
    exact ⟨sound.founded earlier moment later split, sound.excused earlier moment later split⟩
  · intro number started notShut
    rw [balanced.started_eq rfl, List.mem_append] at started
    exact Option.mem_toList.mp (started.resolve_left notShut)
  · exact fun number shut => balanced.started_of_shutDown rfl shut
  · intro keepsOpen succeed
    have calm : Calm start commands scene := calm_play closed keepsOpen succeed
    exact ⟨calm.once.imp And.right fun ⟨_, nothing, left, _⟩ => ⟨nothing, left⟩, calm.answers⟩

/-- Of two threads that both look before either opens, the second finds what the first has made. -/
example :
    let services := Services.withinProcess {}
    let scene := (Scene.start { servers := "b:9092", url := "http://r:8081" }
      [[.use .broker], [.use .registry]]).play
        ([0, 1, 1, 0, 0, 1].map fun thread => (thread, services))
    scene.deeds.map Deed.call =
      [.makeBroker "b:9092", .startBroker 1, .makeRegistry "http://r:8081"] := rfl

/-- A use is answered with the broker that an opening has installed which failed over its registry;
none of the openings has ended well. -/
theorem answered_behind_failure :
    let services := Services.withinProcess
      { registryCreation := some (.other "RuntimeError" "boom") }
    let start : Session := { servers := "b:9092", url := "http://r:8081" }
    let scene := (Scene.start start [[.openSession, .use .broker]]).play
      [(0, services), (0, services)]
    (∃ moment ∈ scene.history, moment.part = .uses .broker .looks ∧
      moment.result = .ok (.inr (some 1))) ∧
    ∀ opening ∈ scene.history, opening.part.afterOpening?.isSome = true →
      ∀ next, opening.result ≠ .ok next := by
  intro services start scene
  have history : scene.history.map (fun moment => (moment.part, moment.result)) =
      [(.opens, .error (.registryFailed "http://r:8081" (.other "RuntimeError" "boom"))),
        (.uses .broker .looks, .ok (.inr (some 1)))] := rfl
  constructor
  · have answered : (Part.uses .broker .looks, .ok (.inr (some 1))) ∈
        scene.history.map fun moment => (moment.part, moment.result) := by
      rw [history]
      exact .tail _ (.head _)
    obtain ⟨moment, member, same⟩ := List.mem_map.mp answered
    exact ⟨moment, member, congrArg Prod.fst same, congrArg Prod.snd same⟩
  · intro opening member opens next ended
    have done := List.mem_map_of_mem (f := fun moment => (moment.part, moment.result)) member
    rw [history] at done
    obtain failed | used := List.mem_cons.mp done
    · cases ended.symm.trans (congrArg Prod.snd failed)
    · have looks : opening.part = .uses .broker .looks :=
        congrArg Prod.fst (List.mem_singleton.mp used)
      rw [looks] at opens
      cases opens

end Scene

end Session

end TopicTables
