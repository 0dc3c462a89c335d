import TopicTables.Proofs.Catalog.Parallel

/-! # Crews

A crew is any number of workers together with the way in which the parts of their look-ups fall
between one another, as long as every look-up comes to an end. There is a crew for every catalog, and
whichever resolves a batch, in a world that stays as it is its resolutions, the session left behind
and its calls are those of resolving one table after the other.
-/

namespace TopicTables.Catalog

variable {Listing : Type} {config : Config} {services : Services Listing} {limit : Int}

/-- From every pool on there is a schedule by which all look-ups end. -/
theorem Pool.exists_finished (positive : 1 ≤ limit) (pool : Pool) :
    ∃ schedule behind, pool.run? config services limit schedule = some behind ∧
      ∀ task ∈ behind.tasks, task.resolution? ≠ none := by
  by_cases unfinished : ∃ task ∈ pool.tasks, task.resolution? = none
  · have goesOn : ∃ index next, pool.step? config services limit index = some next :=
      exists_step? positive unfinished
    obtain ⟨index, next, steps⟩ := goesOn
    have less : next.work < pool.work := work_step? steps
    obtain ⟨schedule, behind, runs, finished⟩ := Pool.exists_finished positive next
    refine ⟨index :: schedule, behind, ?_, finished⟩
    exact Option.bind_eq_some_iff.mpr ⟨next, steps, runs⟩
  · exact ⟨[], pool, rfl, fun task member ended => unfinished ⟨task, member, ended⟩⟩
termination_by pool.work

/-- Workers that bring every batch to an end, by some schedule for each. -/
structure Crew (config : Config) (services : Services Listing) where
  schedule : Session → List String → Int → List Nat
  finishes : ∀ session names limit, 1 ≤ limit → ∃ pool,
    (Pool.new session names).run? config services limit (schedule session names limit) =
        some pool ∧
      ∀ task ∈ pool.tasks, task.resolution? ≠ none

instance : Nonempty (Crew config services) := by
  have schedules (session : Session) (names : List String) (limit : Int) : ∃ schedule,
      1 ≤ limit → ∃ pool, (Pool.new session names).run? config services limit schedule = some pool ∧
        ∀ task ∈ pool.tasks, task.resolution? ≠ none := by
    by_cases positive : 1 ≤ limit
    · obtain ⟨schedule, finished⟩ := Pool.exists_finished positive (.new session names)
      exact ⟨schedule, fun _ => finished⟩
    · exact ⟨[], fun holds => absurd holds positive⟩
  choose schedule finishes using schedules
  exact ⟨⟨schedule, finishes⟩⟩

namespace Crew

def resolve (crew : Crew config services) (names : List String) (limit : Int) :
    Action (List Resolution) := fun session =>
  match (Pool.new session names).run? config services limit
      (crew.schedule session names limit) with
  | some pool => ⟨.ok (pool.tasks.filterMap Task.resolution?), pool.session, pool.trace⟩
  | none => ⟨.error .badLimit, session, []⟩

/-- A crew resolves a batch as it is resolved in order, up to the order of the calls. -/
theorem run_resolve (crew : Crew config services) (steady : services.Steady) {start : Session}
    (paired : start.Paired) (names : List String) (positive : 1 ≤ limit) :
    let outcome := (crew.resolve names limit).run start
    let inOrder := (resolveAll config services names limit).run start
    outcome.result = inOrder.result ∧ outcome.session = inOrder.session ∧
      outcome.trace.calls.Perm inOrder.trace.calls := by
  intro outcome inOrder
  obtain ⟨pool, runs, finished⟩ := crew.finishes start names limit positive
  have sound := (Pool.sound_new config services start names).run? steady paired runs
  have ran : outcome = ⟨.ok (pool.tasks.filterMap Task.resolution?), pool.session, pool.trace⟩ := by
    simp only [outcome, resolve, Action.run, runs]
  obtain ⟨result, session, calls⟩ := @run_resolveEach _ config _ _ steady paired names 0
  rw [Session.reopeningCalls, List.nil_append, Nat.zero_add] at calls
  rw [Nat.zero_add] at session
  have eachInOrder : inOrder = (names.mapM (resolveOne config services)).run start := by
    simp only [inOrder, resolveAll, if_neg (Int.not_lt.mpr positive)]
  have collected : pool.tasks.filterMap Task.resolution? =
      names.map (settledResolution config services start) :=
    calc pool.tasks.filterMap Task.resolution?
      _ = (pool.tasks.map Task.resolution?).filterMap id := by
        rw [List.filterMap_map, Function.id_comp]
      _ = ((names.map (settledResolution config services start)).map some).filterMap id := by
        rw [sound.resolutions_eq finished]
      _ = _ := by rw [List.filterMap_map, Function.id_comp, List.filterMap_some]
  rw [ran, eachInOrder]
  refine ⟨?_, ?_, ?_⟩
  · exact (congrArg Except.ok collected).trans result.symm
  · exact (sound.session_eq finished).trans session.symm
  · exact (sound.calls_perm finished).trans calls.symm

end Crew

end TopicTables.Catalog
