import TopicTables.Catalog.Basic
import TopicTables.Proofs.Session.Invariant
import TopicTables.Service.Clients

/-! # Runs of a catalog

A run is any sequence of catalog operations and changes of the outside world. An operation that
fails leaves the session behind that it failed in, and the run goes on from there. What opening and
closing keep in every world holds in every state that a run reaches.
-/

namespace TopicTables.Catalog
open TopicTables.Action

/-- One thing that happens to a catalog. -/
inductive Step (World : Type) where
  | openSession
  | close
  | listTables (database : String)
  | tableExists (path : Path)
  | getTable (path : Path)
  | change (world : World)

/-- The outside world and the session in it. -/
structure Stage (World : Type) where
  world : World
  session : Session

variable {World Listing : Type}

/-- What a step leaves behind, over the services that the world offers. -/
def Stage.after (config : Config) (servicesOf : World → Services Listing) (stage : Stage World) :
    Step World → Stage World
  | .openSession =>
    { stage with
      session := ((Session.openMissing (servicesOf stage.world)).run stage.session).session }
  | .close =>
    { stage with
      session := ((Session.close (servicesOf stage.world)).run stage.session).session }
  | .listTables database =>
    { stage with
      session := ((listTables config (servicesOf stage.world) database).run stage.session).session }
  | .tableExists path =>
    { stage with
      session := ((tableExists config (servicesOf stage.world) path).run stage.session).session }
  | .getTable path =>
    { stage with
      session := ((getTable config (servicesOf stage.world) path).run stage.session).session }
  | .change world => { stage with world }

/-- The stage that a new catalog reaches by some steps. -/
def reached (config : Config) (servicesOf : World → Services Listing) (world : World)
    (steps : List (Step World)) : Stage World :=
  steps.foldl (Stage.after config servicesOf) ⟨world, newSession config⟩

/-- The services of a cluster as the clients of a configured catalog reach them. -/
def clients (config : Config) (cluster : Cluster) : Services (List String) :=
  Services.overClients cluster config.adminTimeout

section Keeps
variable {config : Config} {services : Services Listing} {P : Session → Prop}

theorem keeps_listTables (opening : Keeps P (Session.openMissing services)) (database : String) :
    Keeps P (listTables config services database) := by
  unfold listTables
  split
  · exact keeps_bind (Session.keeps_useRegistry opening) fun _ => keeps_ofReply _ _
  · exact keeps_fail _

theorem keeps_tableExists (opening : Keeps P (Session.openMissing services)) (path : Path) :
    Keeps P (tableExists config services path) := by
  unfold tableExists
  split
  · exact keeps_bind (Session.keeps_useRegistry opening) fun _ =>
      keeps_bind (keeps_ofReply _ _) fun _ => keeps_pure _
  · exact keeps_pure _

theorem keeps_columnsFor (descriptor : Descriptor) : Keeps P (columnsFor services descriptor) :=
  keeps_bind (keeps_ofExcept _) fun _ => keeps_bind (keeps_log _ _) fun _ => keeps_pure _

theorem keeps_getTable (opening : Keeps P (Session.openMissing services)) (path : Path) :
    Keeps P (getTable config services path) := by
  unfold getTable
  split
  · refine keeps_bind (Session.keeps_useRegistry opening) fun _ =>
      keeps_bind (keeps_ofReply _ _) fun found => ?_
    cases found with
    | none => exact keeps_fail _
    | some descriptor =>
      exact keeps_bind (keeps_columnsFor descriptor) fun _ =>
        keeps_bind (Session.keeps_useBroker opening) fun _ =>
          keeps_bind (keeps_read _) fun _ => keeps_pure _
  · exact keeps_fail _

end Keeps

/-- What a new session has and opening and closing keep in every world holds behind every run. -/
theorem reached_induction {config : Config} {servicesOf : World → Services Listing}
    {P : Session → Prop} (start : P (newSession config))
    (opening : ∀ world, Keeps P (Session.openMissing (servicesOf world)))
    (closing : ∀ world, Keeps P (Session.close (servicesOf world)))
    (world : World) (steps : List (Step World)) :
    P (reached config servicesOf world steps).session := by
  have oneStep (stage : Stage World) (step : Step World) (holds : P stage.session) :
      P (stage.after config servicesOf step).session := by
    cases step with
    | openSession => exact opening _ _ holds
    | close => exact closing _ _ holds
    | listTables database => exact keeps_listTables (opening _) database _ holds
    | tableExists path => exact keeps_tableExists (opening _) path _ holds
    | getTable path => exact keeps_getTable (opening _) path _ holds
    | change world => exact holds
  suffices always : ∀ stage : Stage World, P stage.session →
      P (steps.foldl (Stage.after config servicesOf) stage).session from always _ start
  induction steps with
  | nil => intro stage holds; exact holds
  | cons step rest ih =>
    intro stage holds
    exact ih _ (oneStep stage step holds)

end TopicTables.Catalog
