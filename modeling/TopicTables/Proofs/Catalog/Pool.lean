import Mathlib.Algebra.GroupWithZero.Nat
import TopicTables.Catalog.Batch
import TopicTables.Proofs.Catalog.Cycle
import TopicTables.Proofs.Catalog.Run
import TopicTables.Proofs.Catalog.Settled

/-! # Resolving tables at the same time

The tables of a batch are resolved by workers, so many at a time, that take the next table in order
whenever one is free. The parts of their look-ups fall between one another in any way. In a world
that stays as it is this shows nowhere: every schedule comes to an end, and then the resolutions,
the session left behind and the calls are those of resolving one table after the other.
-/

namespace TopicTables.Catalog
open TopicTables.Action TopicTables.Session
open scoped List

variable {Listing : Type}

def pathOf (config : Config) (name : String) : Path :=
  ⟨config.defaultDatabase, name⟩

/-- A table of a batch and where its look-up stands. -/
structure Task where
  name : String
  progress : Progress

namespace Task

def isWaiting (task : Task) : Bool :=
  match task.progress with
  | .next .begins => true
  | _ => false

def isRunning (task : Task) : Bool :=
  match task.progress with
  | .next .begins => false
  | .next _ => true
  | .ended _ => false

def resolution? (task : Task) : Option Resolution :=
  match task.progress with
  | .next _ => none
  | .ended result => some ⟨task.name, result.mapError Failure.message⟩

end Task

/-- A batch as it is worked through, and what was called and logged on the way. -/
structure Pool where
  session : Session
  tasks : List Task
  trace : Trace

namespace Pool

def new (session : Session) (names : List String) : Pool :=
  ⟨session, names.map fun name => ⟨name, .next .begins⟩, []⟩

/-- A task may go on: one that waits is taken only by a free worker and in its turn. -/
def Admits (limit : Int) (pool : Pool) (index : Nat) (task : Task) : Prop :=
  task.isWaiting = true → (pool.tasks.countP Task.isRunning : Int) < limit ∧
    ∀ earlier ∈ pool.tasks.take index, earlier.isWaiting = false

instance (limit : Int) (pool : Pool) (index : Nat) (task : Task) :
    Decidable (pool.Admits limit index task) :=
  inferInstanceAs (Decidable (_ → _))

/-- The pool behind the next part of one of its tasks, if there is one that may be done. -/
def step? (config : Config) (services : Services Listing) (limit : Int) (pool : Pool)
    (index : Nat) : Option Pool :=
  match pool.tasks[index]? with
  | some ⟨name, .next part⟩ =>
    if pool.Admits limit index ⟨name, .next part⟩ then
      let outcome := (part.act config services (pathOf config name)).run pool.session
      some ⟨outcome.session, pool.tasks.set index ⟨name, .behind outcome.result⟩,
        pool.trace ++ outcome.trace⟩
    else none
  | _ => none

/-- The pool behind some parts, each given by the place of its task. -/
def run? (config : Config) (services : Services Listing) (limit : Int) (pool : Pool)
    (schedule : List Nat) : Option Pool :=
  schedule.foldlM (step? config services limit) pool

variable {config : Config} {services : Services Listing} {limit : Int} {pool : Pool}

/-- All that a step can do. -/
theorem step?_cases {index : Nat} {behind : Pool}
    (steps : pool.step? config services limit index = some behind) :
    ∃ front name part back, pool.tasks = front ++ ⟨name, .next part⟩ :: back ∧
      let outcome := (part.act config services (pathOf config name)).run pool.session
      behind = ⟨outcome.session, front ++ ⟨name, .behind outcome.result⟩ :: back,
        pool.trace ++ outcome.trace⟩ := by
  rw [step?] at steps
  split at steps
  · next name part found =>
    split at steps
    · cases steps
      obtain ⟨bound, there⟩ := List.getElem?_eq_some_iff.mp found
      refine ⟨pool.tasks.take index, name, part, pool.tasks.drop (index + 1), ?_, ?_⟩
      · rw [← there, List.getElem_cons_drop, List.take_append_drop]
      · rw [List.set_eq_take_append_cons_drop, if_pos bound]
    · cases steps
  · cases steps

theorem step?_of_admits {index : Nat} {name : String} {part : Part}
    (found : pool.tasks[index]? = some ⟨name, .next part⟩)
    (admits : pool.Admits limit index ⟨name, .next part⟩) :
    ∃ behind, pool.step? config services limit index = some behind := by
  simp only [step?, found, if_pos admits]
  exact ⟨_, rfl⟩

/-- While a look-up has not ended, some task may go on. -/
theorem exists_step? (positive : 1 ≤ limit)
    (unfinished : ∃ task ∈ pool.tasks, task.resolution? = none) :
    ∃ index behind, pool.step? config services limit index = some behind := by
  by_cases running : ∃ task ∈ pool.tasks, task.isRunning = true
  · obtain ⟨⟨name, progress⟩, member, runs⟩ := running
    obtain ⟨index, found⟩ := List.mem_iff_getElem?.mp member
    cases progress with
    | ended result => cases runs
    | next part =>
      refine ⟨index, step?_of_admits found fun waits => ?_⟩
      cases part with
      | begins => cases runs
      | _ => cases waits
  · have none : pool.tasks.countP Task.isRunning = 0 :=
      List.countP_eq_zero.mpr fun task member runs => running ⟨task, member, runs⟩
    have waiting : ∃ task ∈ pool.tasks, task.isWaiting = true := by
      obtain ⟨⟨name, progress⟩, member, unended⟩ := unfinished
      refine ⟨_, member, ?_⟩
      cases progress with
      | ended result => cases unended
      | next part =>
        cases part with
        | begins => rfl
        | _ => exact absurd ⟨_, member, rfl⟩ running
    obtain ⟨⟨name, progress⟩, first⟩ := Option.isSome_iff_exists.mp (List.find?_isSome.mpr waiting)
    obtain ⟨waits, front, back, split, before⟩ := List.find?_eq_some_iff_append.mp first
    cases progress with
    | ended result => cases waits
    | next part =>
      have found : pool.tasks[front.length]? = some ⟨name, .next part⟩ := by simp [split]
      refine ⟨front.length, step?_of_admits found fun _ => ⟨?_, ?_⟩⟩
      · rw [none]
        exact positive
      · intro earlier member
        rw [split, List.take_left] at member
        simpa using before earlier member

/-! ## The work that is left -/

/-- How many parts the tasks have still to do at most. -/
def work (pool : Pool) : Nat :=
  (pool.tasks.map fun task => task.progress.rank).sum

theorem work_new (session : Session) (names : List String) :
    (new session names).work = 8 * names.length := by
  simp [work, new, Progress.rank, Part.rank, Function.comp_def, Nat.mul_comm]

theorem work_step? {index : Nat} {behind : Pool}
    (steps : pool.step? config services limit index = some behind) : behind.work < pool.work := by
  obtain ⟨front, name, part, back, split, rfl⟩ := step?_cases steps
  have fewer := Progress.rank_behind_lt config services (pathOf config name) part pool.session
  simp only [work, split, List.map_append, List.map_cons, List.sum_append, List.sum_cons]
  omega

theorem length_run? {schedule : List Nat} {behind : Pool}
    (runs : pool.run? config services limit schedule = some behind) :
    schedule.length + behind.work ≤ pool.work := by
  induction schedule generalizing pool with
  | nil =>
    cases runs
    simp
  | cons index schedule ih =>
    obtain ⟨between, steps, later⟩ := Option.bind_eq_some_iff.mp runs
    have fewer := work_step? steps
    have rest := ih later
    rw [List.length_cons]
    omega

end Pool

/-! ## What a schedule keeps -/

section
variable (config : Config) (services : Services Listing) (start : Session)

def passedBy (tasks : List Task) : Nat :=
  (tasks.map fun task => task.progress.passed config (pathOf config task.name)).sum

def askedBy (tasks : List Task) : List Call :=
  tasks.flatMap fun task => task.progress.asked config services start (pathOf config task.name)

/-- What holds in every pool of some names in a world that stays: each look-up stands where it can
stand, and the session and the calls are told by the openings that were passed. -/
structure Pool.Sound (names : List String) (pool : Pool) : Prop where
  names : pool.tasks.map Task.name = names
  fits : ∀ task ∈ pool.tasks,
    Fits config services start (pathOf config task.name) task.progress
  session : pool.session = reopened services start (passedBy config pool.tasks)
  calls : pool.trace.calls.Perm (reopeningCalls services start (passedBy config pool.tasks) ++
    askedBy config services start pool.tasks)

end

variable {config : Config} {services : Services Listing} {start : Session} {limit : Int}
  {names : List String}

namespace Pool
variable {pool : Pool}

theorem sound_new (config : Config) (services : Services Listing) (start : Session)
    (names : List String) : (new start names).Sound config services start names where
  names := by simp [new, Function.comp_def]
  fits task member := by
    obtain ⟨name, -, rfl⟩ := List.mem_map.mp member
    exact .begins
  session := by simp [new, passedBy, Progress.passed, Function.comp_def, reopened]
  calls := by
    simp [new, passedBy, askedBy, Progress.passed, Progress.asked, Function.comp_def,
      reopeningCalls, List.flatMap_map]

section
variable {front back : List Task} {name : String} {progress behind : Progress}

theorem passedBy_advance {more : Nat}
    (passed : behind.passed config (pathOf config name) =
      progress.passed config (pathOf config name) + more) :
    passedBy config (front ++ ⟨name, behind⟩ :: back) =
      passedBy config (front ++ ⟨name, progress⟩ :: back) + more := by
  simp only [passedBy, List.map_append, List.map_cons, List.sum_append, List.sum_cons, passed]
  omega

theorem askedBy_advance {asked : List Call}
    (new : behind.asked config services start (pathOf config name) =
      progress.asked config services start (pathOf config name) ++ asked) :
    (askedBy config services start (front ++ ⟨name, behind⟩ :: back)).Perm
      (asked ++ askedBy config services start (front ++ ⟨name, progress⟩ :: back)) := by
  simp only [askedBy, List.flatMap_append, List.flatMap_cons, new, List.append_assoc]
  rw [← List.append_assoc, ← List.append_assoc (List.flatMap _ front)]
  exact List.perm_append_comm_assoc ..

theorem passed_le : progress.passed config (pathOf config name) ≤
    passedBy config (front ++ ⟨name, progress⟩ :: back) := by
  simp only [passedBy, List.map_append, List.map_cons, List.sum_append, List.sum_cons]
  omega

end

theorem Sound.step? (sound : pool.Sound config services start names) (steady : services.Steady)
    (paired : start.Paired) {index : Nat} {behind : Pool}
    (steps : pool.step? config services limit index = some behind) :
    behind.Sound config services start names := by
  obtain ⟨front, name, part, back, split, rfl⟩ := step?_cases steps
  have fits := sound.fits ⟨name, .next part⟩ (by simp [split])
  obtain ⟨more, asked, advances⟩ := fits.leadsOn steady paired (split ▸ passed_le)
  rw [← sound.session] at advances
  have passed : passedBy config _ = passedBy config pool.tasks + more :=
    split ▸ passedBy_advance advances.passed
  have questions : (askedBy config services start _).Perm
      (asked ++ askedBy config services start pool.tasks) :=
    split ▸ askedBy_advance advances.asked
  constructor
  · rw [← sound.names, split]
    simp
  · intro task among
    simp only [List.mem_append, List.mem_cons] at among
    obtain early | rfl | late := among
    · exact sound.fits task (by simp [split, early])
    · exact advances.fits
    · exact sound.fits task (by simp [split, late])
  · rw [advances.session, passed]
  · rw [Trace.calls_append, passed]
    generalize ((part.act config services (pathOf config name)).run pool.session).trace.calls =
      calls at advances
    calc pool.trace.calls ++ calls
      _ ~ reopeningCalls services start (passedBy config pool.tasks) ++
            askedBy config services start pool.tasks ++ calls := sound.calls.append_right _
      _ ~ reopeningCalls services start (passedBy config pool.tasks) ++ calls ++
            askedBy config services start pool.tasks := append_swap_perm ..
      _ ~ reopeningCalls services start (passedBy config pool.tasks + more) ++ asked ++
            askedBy config services start pool.tasks := advances.calls.append_right _
      _ = reopeningCalls services start (passedBy config pool.tasks + more) ++
            (asked ++ askedBy config services start pool.tasks) := List.append_assoc ..
      _ ~ _ := questions.symm.append_left _

theorem Sound.run? (sound : pool.Sound config services start names) (steady : services.Steady)
    (paired : start.Paired) {schedule : List Nat} {behind : Pool}
    (runs : pool.run? config services limit schedule = some behind) :
    behind.Sound config services start names := by
  induction schedule generalizing pool with
  | nil =>
    cases runs
    exact sound
  | cons index schedule ih =>
    obtain ⟨between, steps, later⟩ := Option.bind_eq_some_iff.mp runs
    exact ih (sound.step? steady paired steps) later

end Pool

end TopicTables.Catalog
