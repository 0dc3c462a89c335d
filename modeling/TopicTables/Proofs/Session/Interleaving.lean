import TopicTables.Proofs.Session.Threads

/-! # Handles under every interleaving

However the parts of any number of threads fall between one another, and whichever calls fail, a use
answers with a handle that an earlier opening installed, and the brokers stay in balance. A use
finds the session not open behind its own opening only where another thread closed it meanwhile or
where no registry was handed out.
-/

namespace TopicTables

variable {Listing : Type}

namespace Session
open TopicTables.Action

variable {services : Services Listing} {session after : Session}
  {handle : Handle} {number : Nat} {deeds : Deeds}

/-! ## What openings install -/

def Handle.making (session : Session) (number : Nat) : Handle → Deed
  | .broker => ⟨.startBroker number, .ok true⟩
  | .registry => ⟨.makeRegistry session.url, .ok true⟩

theorem BrokerWay.installs {result : Except Failure Unit}
    (way : BrokerWay services session result after deeds) (held : after.held handle = some number) :
    session.held handle = some number ∨ handle = .broker ∧ session.held handle = none ∧
      handle.making session number ∈ deeds ∧ result = .ok () := by
  cases way with
  | held was => exact .inl held
  | unmade absent unmade => exact .inl held
  | refused absent refused =>
    refine .inl ?_
    cases handle <;> exact held
  | started absent =>
    cases handle with
    | broker =>
      cases held
      exact .inr ⟨rfl, absent, by simp [Handle.making], rfl⟩
    | registry => exact .inl held

theorem RegistryWay.installs {result : Except Failure Unit}
    (way : RegistryWay services session result after deeds)
    (held : after.held handle = some number) :
    session.held handle = some number ∨ handle = .registry ∧ session.held handle = .none ∧
      handle.making session number ∈ deeds ∧ result = .ok () := by
  cases way with
  | held was => exact .inl held
  | unmade absent unmade => exact .inl held
  | none absent made => exact .inl held
  | made absent =>
    cases handle with
    | broker => exact .inl held
    | registry => exact .inr ⟨rfl, absent, by simp [Handle.making], rfl⟩

theorem BrokerWay.url_eq {result : Except Failure Unit}
    (way : BrokerWay services session result after deeds) : after.url = session.url := by
  cases way <;> rfl

theorem RegistryWay.ended {result : Except Failure Unit}
    (way : RegistryWay services session result after deeds) :
    result = .ok () ∨ ∃ cause, result = .error (.registryFailed session.url cause) := by
  cases way with
  | unmade absent unmade => exact .inr ⟨_, rfl⟩
  | _ => exact .inl rfl

/-- A handle that is held behind an opening was held before or has been made, and the opening ends
well unless it fails over the registry behind a broker. -/
theorem OpeningWay.installs {result : Except Failure Unit}
    (way : OpeningWay services session result after deeds)
    (held : after.held handle = some number) :
    session.held handle = some number ∨
      session.held handle = none ∧ handle.making session number ∈ deeds ∧
        (result = .ok () ∨
          handle = .broker ∧ ∃ cause, result = .error (.registryFailed session.url cause)) := by
  cases way with
  | stopped first =>
    obtain before | ⟨-, -, -, ended⟩ := first.installs held
    · exact .inl before
    · cases ended
  | both first second =>
    obtain between | ⟨rfl, absent, made, ended⟩ := second.installs held
    · obtain before | ⟨rfl, absent, made, -⟩ := first.installs between
      · exact .inl before
      · refine .inr ⟨absent, List.mem_append_left _ made, ?_⟩
        rw [← first.url_eq]
        exact second.ended.imp_right fun failed => ⟨rfl, failed⟩
    · have lacking : session.held .registry = none := by
        cases found : session.held .registry with
        | none => rfl
        | some old => exact (first.grows.kept .registry old found).symm.trans absent
      rw [Handle.making, first.url_eq] at made
      exact .inr ⟨lacking, List.mem_append_right _ made, .inl ended⟩

/-- Behind an opening that ended well a handle is held, unless no registry was handed out. -/
theorem OpeningWay.held_of_ok (way : OpeningWay services session (.ok ()) after deeds) :
    (after.held handle).isSome = true ∨
      handle = .registry ∧ ⟨.makeRegistry session.url, .ok false⟩ ∈ deeds := by
  cases way with
  | both first second =>
    have broker : (after.held .broker).isSome = true := by
      cases second <;> cases first <;> first | rfl | assumption
    cases handle with
    | broker => exact .inl broker
    | registry =>
      rw [← first.url_eq]
      cases second with
      | held held => exact .inl held
      | none absent made => exact .inr ⟨rfl, by simp⟩
      | made absent => exact .inl rfl

theorem OpeningWay.ne_notOpen {failure : Failure}
    (way : OpeningWay services session (.error failure) after deeds) :
    failure ≠ handle.notOpen := by
  cases way with
  | stopped first => cases first <;> cases handle <;> exact Failure.noConfusion
  | both first second => cases second; cases handle <;> exact Failure.noConfusion

/-! ## Moments -/

/-- In the moment the session is opened and comes to hold a handle that has been made in it. The
opening ends well, unless it fails over the registry behind a broker. -/
structure Moment.Installs (handle : Handle) (number : Nat) (opening : Moment) : Prop where
  opens : opening.part.afterOpening?.isSome = true
  absent : opening.before.held handle = none
  held : opening.after.held handle = some number
  made : handle.making opening.before number ∈ opening.deeds
  ended : (∃ next, opening.result = .ok next) ∨ handle = .broker ∧
    ∃ cause, opening.result = .error (.registryFailed opening.before.url cause)

namespace PartWay

variable {part : Part} {result : Except Failure (Part ⊕ Option Nat)}

theorem balanced (way : PartWay services session part result after deeds) :
    Balanced session deeds after := by
  cases way with
  | opening opens ends way => exact way.grows.toBalanced
  | closed => exact balanced_partings session
  | unshut => exact balanced_partings session
  | _ => exact .refl session

theorem kept (way : PartWay services session part result after deeds)
    (keepsOpen : part ≠ .closes) (held : session.held handle = some number) :
    after.held handle = some number := by
  cases way with
  | opening opens ends way => exact way.grows.kept handle number held
  | closed => exact absurd rfl keepsOpen
  | unshut => exact absurd rfl keepsOpen
  | _ => exact held

theorem installs (way : PartWay services session part result after deeds) (thread : Nat)
    (held : after.held handle = some number) :
    session.held handle = some number ∨
      Moment.Installs handle number ⟨thread, part, session, result, after, deeds⟩ := by
  cases way with
  | opening opens ends way =>
    refine (way.installs held).imp_right fun ⟨absent, made, ended⟩ =>
      ⟨by simp [opens], absent, held, made, ?_⟩
    obtain rfl | ⟨rfl, cause, rfl⟩ := ended
    · exact .inl ⟨_, ends⟩
    · exact .inr ⟨rfl, cause, ends⟩
  | closed => cases handle <;> cases held
  | unshut => cases handle <;> cases held
  | _ => exact .inl held

/-- A use answers with the handle that is held. -/
theorem held_of_answer {use : Use} {answer : Option Nat}
    (way : PartWay services session (.uses handle use) (.ok (.inr answer)) after deeds) :
    ∃ number, answer = some number ∧ session.held handle = some number := by
  cases way with
  | @opening _ _ opened _ _ _ opens ends way =>
    cases use <;> cases opens
    cases opened <;> cases ends
  | found held => exact ⟨_, rfl, held⟩

/-- A use looks again behind an opening that ended well. -/
theorem opened_of_looksAgain
    (way : PartWay services session part (.ok (.inl (.uses handle .looksAgain))) after deeds) :
    part = .uses handle .opens ∧ ((after.held handle).isSome = true ∨
      handle = .registry ∧ ⟨.makeRegistry session.url, .ok false⟩ ∈ deeds) := by
  cases way with
  | @opening _ _ opened _ _ _ opens ends way =>
    cases opened with
    | error failure => cases ends
    | ok _ =>
      cases ends
      cases part with
      | uses other use =>
        cases use <;> cases opens
        exact ⟨rfl, way.held_of_ok⟩
      | _ => cases opens

/-- Only the second look of a use finds the session not open. -/
theorem absent_of_notOpen {failure : Failure}
    (way : PartWay services session part (.error failure) after deeds)
    (notOpen : failure = handle.notOpen) :
    part = .uses handle .looksAgain ∧ session.held handle = none := by
  cases way with
  | @opening _ _ opened _ _ _ opens ends way =>
    cases opened with
    | error stopped =>
      cases ends
      exact absurd notOpen way.ne_notOpen
    | ok _ => cases ends
  | unshut => cases handle <;> cases notOpen
  | @missed other absent =>
    have same : other = handle := by cases other <;> cases handle <;> first | rfl | cases notOpen
    subst same
    exact ⟨rfl, absent⟩

end PartWay

/-! ## Histories -/

/-- Each moment of a history stands in a relation to those before it. -/
def Along (related : List Moment → Moment → Prop) (history : List Moment) : Prop :=
  ∀ earlier moment later, history = earlier ++ moment :: later → related earlier moment

section
variable {related : List Moment → Moment → Prop} {history : List Moment}

theorem along_nil : Along related [] := by
  intro earlier moment later split
  cases earlier <;> cases split

theorem Along.concat {last : Moment} (along : Along related history)
    (ending : related history last) : Along related (history ++ [last]) := by
  intro earlier moment later split
  obtain rfl | ⟨later, other, rfl⟩ := List.eq_nil_or_concat later
  · obtain ⟨rfl, same⟩ := List.append_inj' split rfl
    cases same
    exact ending
  · rw [List.concat_eq_append, ← List.cons_append, ← List.append_assoc] at split
    obtain ⟨rfl, -⟩ := List.append_inj' split rfl
    exact along earlier moment later rfl

end

/-- A use that ends well answers with a handle that an earlier opening installed. -/
def Moment.Founded (earlier : List Moment) (moment : Moment) : Prop :=
  ∀ handle use answer, moment.part = .uses handle use → moment.result = .ok (.inr answer) →
    ∃ number, answer = some number ∧ ∃ opening ∈ earlier, opening.Installs handle number

/-- A thread opened the session to use a handle, and since then only others have acted. -/
structure Awaits (thread : Nat) (handle : Handle) (opening : Moment)
    (others history : List Moment) : Prop where
  since : ∃ earlier, history = earlier ++ opening :: others
  opens : opening.part = .uses handle .opens
  own : opening.thread = thread
  foreign : ∀ moment ∈ others, moment.thread ≠ thread

/-- The session was closed behind an opening, or the opening was handed out no registry. -/
def Voids (handle : Handle) (opening : Moment) (others : List Moment) : Prop :=
  (∃ closing ∈ others, closing.part = .closes) ∨
    handle = .registry ∧ ⟨.makeRegistry opening.before.url, .ok false⟩ ∈ opening.deeds

/-- A command finds the session not open only in the second look of a use, where the session was
closed behind the opening of the same use or that opening was handed out no registry. -/
def Moment.Excused (earlier : List Moment) (moment : Moment) : Prop :=
  ∀ handle, moment.result = .error handle.notOpen → moment.part = .uses handle .looksAgain ∧
    ∃ opening others, Awaits moment.thread handle opening others earlier ∧
      Voids handle opening others

section
variable {thread : Nat} {opening moment : Moment} {others history : List Moment}

theorem Awaits.concat (awaits : Awaits thread handle opening others history)
    (other : moment.thread ≠ thread) :
    Awaits thread handle opening (others ++ [moment]) (history ++ [moment]) where
  since := by
    obtain ⟨earlier, rfl⟩ := awaits.since
    exact ⟨earlier, by simp⟩
  opens := awaits.opens
  own := awaits.own
  foreign next member := by
    obtain old | new := List.mem_append.mp member
    · exact awaits.foreign next old
    · cases List.mem_singleton.mp new
      exact other

theorem Voids.concat (voids : Voids handle opening others) :
    Voids handle opening (others ++ [moment]) :=
  voids.imp_left fun ⟨closing, member, closes⟩ =>
    ⟨closing, List.mem_append_left _ member, closes⟩

end

/-! ## What every turn keeps -/

theorem Thread.within_of_looksAgain {thread : Thread} {commands : List Command}
    (goes : thread.next? = some (.uses handle .looksAgain, commands)) :
    thread.within = some (.uses handle .looksAgain) := by
  obtain ⟨within, own⟩ := thread
  cases within with
  | some part =>
    cases goes
    rfl
  | none =>
    cases own with
    | nil => cases goes
    | cons command own => cases command <;> cases goes

theorem Moment.result_of_within {moment : Moment} {next : Part}
    (within : moment.within = some next) : moment.result = .ok (.inl next) := by
  obtain ⟨thread, part, before, result, after, deeds⟩ := moment
  cases result with
  | error failure => cases within
  | ok reached =>
    cases reached with
    | inl other =>
      cases within
      rfl
    | inr answer => cases within

namespace Scene

/-- What holds in every scene that is played from a session without handles: the brokers balance,
the handles that are held were installed, and a thread that is about to look again has its handle
unless something voided its opening. -/
structure Sound (start : Session) (scene : Scene) : Prop where
  balanced : Balanced start scene.deeds scene.session
  installed : ∀ handle number, scene.session.held handle = some number →
    ∃ opening ∈ scene.history, opening.Installs handle number
  awaited : ∀ index thread handle, scene.threads[index]? = some thread →
    thread.within = some (.uses handle .looksAgain) →
      ∃ opening others, Awaits index handle opening others scene.history ∧
        (Voids handle opening others ∨ (scene.session.held handle).isSome = true)
  founded : Along (fun earlier moment => moment.Founded earlier) scene.history
  excused : Along (fun earlier moment => moment.Excused earlier) scene.history

variable {start : Session} {scene : Scene}

theorem sound_start (closed : ∀ handle, start.held handle = none) (commands : List (List Command)) :
    Sound start (Scene.start start commands) where
  balanced := .refl start
  installed handle number held := by
    rw [Scene.start, closed] at held
    cases held
  awaited index thread handle found within := by
    rw [Scene.start, List.getElem?_map] at found
    obtain ⟨own, -, rfl⟩ := Option.map_eq_some_iff.mp found
    cases within
  founded := along_nil
  excused := along_nil

theorem Sound.awaited_behind (sound : Sound start scene) {moment : Moment}
    {commands : List Command} (next : scene.Next services moment commands) {index : Nat}
    {thread : Thread} (found : (scene.behind moment commands).threads[index]? = some thread)
    (within : thread.within = some (.uses handle .looksAgain)) :
    ∃ opening others, Awaits index handle opening others (scene.history ++ [moment]) ∧
      (Voids handle opening others ∨ (moment.after.held handle).isSome = true) := by
  have way := next.way
  by_cases own : moment.thread = index
  · rw [behind, List.getElem?_set, if_pos own] at found
    split at found
    · cases found
      rw [Moment.result_of_within within] at way
      obtain ⟨opens, held⟩ := way.opened_of_looksAgain
      exact ⟨moment, [], ⟨⟨_, rfl⟩, opens, own, by simp⟩, held.symm.imp_left .inr⟩
    · cases found
  · rw [behind, List.getElem?_set, if_neg own] at found
    obtain ⟨opening, others, awaits, ends⟩ := sound.awaited index thread handle found within
    refine ⟨opening, others ++ [moment], awaits.concat own, ?_⟩
    by_cases closes : moment.part = .closes
    · exact .inl (.inl ⟨moment, by simp, closes⟩)
    · refine ends.imp .concat fun held => ?_
      obtain ⟨number, held⟩ := Option.isSome_iff_exists.mp held
      rw [way.kept closes (next.before ▸ held)]
      rfl

theorem Sound.behind (sound : Sound start scene) {moment : Moment} {commands : List Command}
    (next : scene.Next services moment commands) : Sound start (scene.behind moment commands) := by
  obtain ⟨before, way, thread, found, goes⟩ := next
  constructor
  · rw [deeds_behind]
    exact sound.balanced.trans (before ▸ way.balanced)
  · intro handle number held
    obtain old | new := way.installs moment.thread held
    · obtain ⟨opening, member, installs⟩ := sound.installed handle number (before ▸ old)
      exact ⟨opening, List.mem_append_left _ member, installs⟩
    · exact ⟨moment, List.mem_append_right _ (List.mem_singleton_self moment), new⟩
  · intro index thread' handle found' within
    exact sound.awaited_behind ⟨before, way, thread, found, goes⟩ found' within
  · refine sound.founded.concat fun handle use answer isUse result => ?_
    rw [isUse, result] at way
    obtain ⟨number, rfl, held⟩ := way.held_of_answer
    exact ⟨number, rfl, sound.installed handle number (before ▸ held)⟩
  · refine sound.excused.concat fun handle result => ?_
    rw [result] at way
    obtain ⟨again, absent⟩ := way.absent_of_notOpen rfl
    have within := Thread.within_of_looksAgain (again ▸ goes)
    obtain ⟨opening, others, awaits, ends⟩ := sound.awaited _ thread handle found within
    refine ⟨again, opening, others, awaits, ends.resolve_right fun held => ?_⟩
    rw [← before, absent] at held
    cases held

theorem sound_play (closed : ∀ handle, start.held handle = none) (commands : List (List Command))
    (turns : List (Nat × Services Listing)) :
    Sound start ((Scene.start start commands).play turns) := by
  induction turns using List.reverseRecOn with
  | nil => exact sound_start closed commands
  | append_singleton turns turn ih =>
    rw [play_concat]
    obtain same | ⟨moment, rest, next, same⟩ := step_cases _ turn
    · rwa [same]
    · rw [same]
      exact ih.behind next

end Scene

end Session

end TopicTables
