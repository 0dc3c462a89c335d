import TopicTables.Proofs.Catalog.Pool

/-! # Resolving at the same time and in order

Whether the tables of a batch are resolved one after the other or so many at a time, each comes to
what is settled before the first of them begins, the session passes one opening for each table that
may be found, and the registry is asked the same. So neither the number of workers nor the way in
which they fall between one another shows in the end.
-/

namespace TopicTables.Catalog
open TopicTables.Action TopicTables.Session
open scoped List

variable {Listing : Type} {config : Config} {services : Services Listing} {start : Session}
  {limit : Int} {names : List String}

section
variable (config : Config) (services : Services Listing) (start : Session)

def settledResolution (name : String) : Resolution :=
  ⟨name, (settled config services start (pathOf config name)).mapError Failure.message⟩

/-- How many openings a batch passes. -/
def passesOf (names : List String) : Nat :=
  (names.map fun name => passes config (pathOf config name)).sum

def questionsOf (names : List String) : List Call :=
  names.flatMap fun name => questions config services start (pathOf config name)

end

/-! ## At the same time -/

namespace Pool.Sound
variable {pool : Pool}

theorem tasks_eq (sound : pool.Sound config services start names)
    (finished : ∀ task ∈ pool.tasks, task.resolution? ≠ none) :
    pool.tasks = names.map fun name =>
      ⟨name, .ended (settled config services start (pathOf config name))⟩ := by
  rw [← sound.names, List.map_map]
  refine (List.map_id' pool.tasks).symm.trans (List.map_congr_left fun task member => ?_)
  have ended := finished task member
  obtain ⟨name, progress⟩ := task
  cases progress with
  | next part => exact absurd rfl ended
  | ended result =>
    have fits : Fits config services start (pathOf config name) (.ended result) :=
      sound.fits _ member
    rw [fits.result_eq]
    rfl

theorem resolutions_eq (sound : pool.Sound config services start names)
    (finished : ∀ task ∈ pool.tasks, task.resolution? ≠ none) :
    pool.tasks.map Task.resolution? =
      (names.map (settledResolution config services start)).map some := by
  rw [sound.tasks_eq finished, List.map_map, List.map_map]
  rfl

theorem session_eq (sound : pool.Sound config services start names)
    (finished : ∀ task ∈ pool.tasks, task.resolution? ≠ none) :
    pool.session = reopened services start (passesOf config names) := by
  rw [sound.session, sound.tasks_eq finished, passedBy, List.map_map]
  rfl

theorem calls_perm (sound : pool.Sound config services start names)
    (finished : ∀ task ∈ pool.tasks, task.resolution? ≠ none) :
    pool.trace.calls ~ reopeningCalls services start (passesOf config names) ++
      questionsOf config services start names := by
  have calls := sound.calls
  rw [sound.tasks_eq finished, passedBy, askedBy, List.map_map, List.flatMap_map] at calls
  exact calls

end Pool.Sound

/-! ## One after the other -/

theorem run_resolveOne (steady : services.Steady) (paired : start.Paired) (name : String)
    (times : Nat) :
    let outcome := (resolveOne config services name).run (reopened services start times)
    outcome.result = .ok (settledResolution config services start name) ∧
      outcome.session = reopened services start (times + passes config (pathOf config name)) ∧
      reopeningCalls services start times ++ outcome.trace.calls ~
        reopeningCalls services start (times + passes config (pathOf config name)) ++
          questions config services start (pathOf config name) := by
  intro outcome
  have fits : Fits config services start (pathOf config name) (.next .begins) := .begins
  obtain ⟨more, asked, advances⟩ := fits.finishes steady paired (Nat.zero_le times)
  have passed : passes config (pathOf config name) = more := advances.passed.trans (Nat.zero_add _)
  have questioned : questions config services start (pathOf config name) = asked := advances.asked
  rw [passed, questioned]
  refine ⟨?_, advances.session, advances.calls⟩
  rw [settledResolution, ← advances.fits.result_eq]
  rfl

theorem run_mapM_cons {α β : Type} {action : α → Action β} {item : α} {items : List α}
    {value : β} {values : List β} {session : Session}
    (first : ((action item).run session).result = .ok value)
    (others : ((items.mapM action).run ((action item).run session).session).result = .ok values) :
    ((item :: items).mapM action).run session =
      ⟨.ok (value :: values), ((items.mapM action).run ((action item).run session).session).session,
        ((action item).run session).trace ++
          ((items.mapM action).run ((action item).run session).session).trace⟩ := by
  simp [run_bind, first, others, Except.map]

theorem run_resolveEach (steady : services.Steady) (paired : start.Paired) (names : List String)
    (times : Nat) :
    let outcome := (names.mapM (resolveOne config services)).run (reopened services start times)
    outcome.result = .ok (names.map (settledResolution config services start)) ∧
      outcome.session = reopened services start (times + passesOf config names) ∧
      reopeningCalls services start times ++ outcome.trace.calls ~
        reopeningCalls services start (times + passesOf config names) ++
          questionsOf config services start names := by
  induction names generalizing times with
  | nil =>
    intro outcome
    simp [outcome, passesOf, questionsOf]
  | cons name names ih =>
    intro outcome
    obtain ⟨result, session, calls⟩ := run_resolveOne steady paired name times
    have others := ih (times + passes config (pathOf config name))
    rw [← session] at others
    obtain ⟨results, last, asked⟩ := others
    have run : outcome = _ := run_mapM_cons result results
    have all : times + passes config (pathOf config name) + passesOf config names =
        times + passesOf config (name :: names) := by
      simp [passesOf, Nat.add_assoc]
    rw [run, ← all]
    refine ⟨rfl, last, ?_⟩
    rw [Trace.calls_append, questionsOf, List.flatMap_cons]
    exact append_perm_trans calls asked

/-! ## Every schedule -/

/-- In every state that a catalog and its session reach, and in a world that stays as it is from
there on: resolving tables one after the other gives one resolution for each name, in order, and
resolving them with any number of workers is no different. No schedule goes on for more than eight
parts for each name. While a look-up has not ended, some task may go on. Once all have ended, the
resolutions, the session left behind and the calls, up to their order, are those of resolving one
table after the other. -/
theorem scheduled_eq_inOrder (config : Config) {services : Services Listing}
    (steady : services.Steady) (history : List (Services Listing × Operation))
    (names : List String) :
    let start :=
      (perform config (.new config.bootstrapServers config.registryUrl) history).session
    let inOrder := (names.mapM (resolveOne config services)).run start
    ∃ resolutions, inOrder.result = .ok resolutions ∧ resolutions.map Resolution.name = names ∧
      ∀ limit, 1 ≤ limit → (resolveAll config services names limit).run start = inOrder ∧
        ∀ schedule pool, (Pool.new start names).run? config services limit schedule = some pool →
          schedule.length ≤ 8 * names.length ∧
          ((∃ task ∈ pool.tasks, task.resolution? = none) →
            ∃ index behind, pool.step? config services limit index = some behind) ∧
          ((∀ task ∈ pool.tasks, task.resolution? ≠ none) →
            pool.tasks.map Task.resolution? = resolutions.map some ∧
            pool.session = inOrder.session ∧ pool.trace.calls.Perm inOrder.trace.calls) := by
  intro start inOrder
  have paired : start.Paired := paired_perform config history
  obtain ⟨result, session, calls⟩ := run_resolveEach steady paired names 0
  rw [reopeningCalls, List.nil_append, Nat.zero_add] at calls
  rw [Nat.zero_add] at session
  refine ⟨names.map (settledResolution config services start), result, ?_, ?_⟩
  · rw [List.map_map]
    exact List.map_id' names
  intro limit positive
  refine ⟨?_, ?_⟩
  · rw [resolveAll, if_neg (Int.not_lt.mpr positive)]
  intro schedule pool runs
  have sound := (Pool.sound_new config services start names).run? steady paired runs
  refine ⟨?_, Pool.exists_step? positive, fun finished => ?_⟩
  · have length := Pool.length_run? runs
    rw [Pool.work_new] at length
    omega
  · refine ⟨sound.resolutions_eq finished, ?_, ?_⟩
    · exact (sound.session_eq finished).trans session.symm
    · exact (sound.calls_perm finished).trans calls.symm

/-- Two workers look for the registry before either opens the session, and each fails to make one.
-/
theorem scheduled_eq_inOrder_race :
    let config : Config := ⟨"kafka", "b:9092", "http://r:8081", "default", 10.0⟩
    let services := Services.withinProcess
      { registryCreation := some (.other "RuntimeError" "boom") }
    let start : Session := { servers := "b:9092", url := "http://r:8081" }
    let inOrder := (["a", "b"].mapM (resolveOne config services)).run start
    services.Steady ∧ ∃ pool,
      (Pool.new start ["a", "b"]).run? config services 2 [0, 1, 0, 1, 0, 1] = some pool ∧
      pool.session = inOrder.session ∧ pool.trace.calls.Perm inOrder.trace.calls := by
  intro config services start inOrder
  have steady : services.Steady := Services.steady_withinProcess _
  obtain ⟨resolutions, -, -, scheduled⟩ := scheduled_eq_inOrder config steady [] ["a", "b"]
  obtain ⟨-, schedules⟩ := scheduled 2 (by decide)
  have runs : ∃ pool,
      (Pool.new start ["a", "b"]).run? config services 2 [0, 1, 0, 1, 0, 1] = some pool ∧
        (pool.tasks.all fun task => task.resolution?.isSome) = true :=
    ⟨_, rfl, rfl⟩
  obtain ⟨pool, run, ended⟩ := runs
  obtain ⟨-, -, finished⟩ := schedules _ pool run
  refine ⟨steady, pool, run, (finished fun task member => ?_).2⟩
  exact Option.isSome_iff_ne_none.mp (List.all_eq_true.mp ended task member)

end TopicTables.Catalog
