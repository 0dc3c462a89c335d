import TopicTables.Catalog.Batch
import TopicTables.Proofs.Catalog.Cycle
import TopicTables.Proofs.Catalog.OpenSession

/-! # What resolving keeps

Resolving a table is looking it up, with a failure kept as a value. So what holds of every look-up
and goes from one action to the next holds of resolving a whole batch.
-/

namespace TopicTables.Catalog
open TopicTables.Action

variable {Listing : Type} {config : Config} {services : Services Listing}

theorem resolveOne_eq (config : Config) (services : Services Listing) (name : String)
    (session : Session) :
    let outcome := (getTable config services ⟨config.defaultDatabase, name⟩).run session
    (resolveOne config services name).run session =
      ⟨.ok ⟨name, outcome.result.mapError Failure.message⟩, outcome.session, outcome.trace⟩ := rfl

/-- Two ways to do things that are related wherever they end at once, and stay related from one
action to the next, are related over a whole batch. -/
theorem resolveAll_induction {services' : Services Listing}
    {R : ∀ {α : Type}, Action α → Action α → Prop}
    (done : ∀ {α : Type} (value : α), R (pure value : Action α) (pure value))
    (failed : ∀ {α : Type} (failure : Failure), R (fail failure : Action α) (fail failure))
    (goesOn : ∀ {α β : Type} {one other : Action α} {next next' : α → Action β}, R one other →
      (∀ value, R (next value) (next' value)) → R (one >>= next) (other >>= next'))
    (one : ∀ name, R (resolveOne config services name) (resolveOne config services' name))
    (names : List String) (limit : Int) :
    R (resolveAll config services names limit) (resolveAll config services' names limit) := by
  unfold resolveAll
  split
  · exact failed _
  · induction names with
    | nil =>
      rw [List.mapM_nil, List.mapM_nil]
      exact done []
    | cons name names ih =>
      rw [List.mapM_cons, List.mapM_cons]
      exact goesOn (one name) fun _ => goesOn ih fun _ => done _

theorem keeps_resolveAll {P : Session → Prop} (opening : Keeps P (Session.openMissing services))
    (names : List String) (limit : Int) : Keeps P (resolveAll config services names limit) := by
  have one (name : String) : Keeps P (resolveOne config services name) := by
    intro session holds
    rw [resolveOne_eq]
    exact keeps_getTable opening ⟨config.defaultDatabase, name⟩ session holds
  exact @resolveAll_induction _ config services services (fun action _ => Keeps P action)
    keeps_pure keeps_fail keeps_bind one names limit

theorem alike_resolveAll (names : List String) (limit : Int) :
    Alike (resolveAll config services.recorded names limit)
      (resolveAll config services names limit) := by
  have one (name : String) :
      Alike (resolveOne config services.recorded name) (resolveOne config services name) := by
    intro session
    obtain ⟨result, same⟩ :=
      @alike_getTable _ config services ⟨config.defaultDatabase, name⟩ session
    rw [resolveOne_eq, resolveOne_eq, result]
    exact ⟨rfl, same⟩
  exact resolveAll_induction (fun _ => alike_refl _) (fun _ => alike_refl _) alike_bind one names
    limit

/-- Resolving a batch does what can be done with a session that is not closed. -/
theorem grows_resolveAll (names : List String) (limit : Int) (session : Session) :
    session.Grows (((resolveAll config services.recorded names limit).run session).deeds services)
      ((resolveAll config services.recorded names limit).run session).session := by
  have one (name : String) (session : Session) :
      session.Grows (((resolveOne config services.recorded name).run session).deeds services)
        ((resolveOne config services.recorded name).run session).session := by
    have looked := (@tidy_getTable _ config services ⟨config.defaultDatabase, name⟩).grows session
    rw [resolveOne_eq]
    exact looked
  exact @resolveAll_induction _ config services.recorded services.recorded
    (fun action _ => ∀ session : Session,
      session.Grows ((action.run session).deeds services) (action.run session).session)
    (fun value => (tidy_pure value).grows) (fun failure => (tidy_fail failure).grows)
    grows_bind one names limit session

theorem asking_resolveAll {cluster : Cluster} (names : List String) (limit : Int) :
    Asking (resolveAll config (clients config cluster) names limit) :=
  @resolveAll_induction _ config (clients config cluster) (clients config cluster)
    (fun action _ => Asking action) asking_pure asking_fail asking_bind
    (fun name => asking_getTable ⟨config.defaultDatabase, name⟩) names limit

end TopicTables.Catalog
