import TopicTables.Proofs.Catalog.Run
import TopicTables.Proofs.Session.Accounting

/-! # Handles from one closing to the next

A catalog opens its session on first use, so any of its operations may make a handle. Along every
run of operations, whichever calls fail, each handle is made at most once before the session is
closed, a handle that is held is not made again, and a failed opening spoils neither the half that
is there nor the one that was made before the failure.
-/

namespace TopicTables

namespace Catalog
open TopicTables.Action

variable {Listing : Type} {config : Config} {services : Services Listing}

/-- What can be done with a catalog and with its session. -/
inductive Operation where
  | openSession
  | close
  | use (handle : Session.Handle)
  | listTables (database : String)
  | tableExists (path : Path)
  | getTable (path : Path)
  | refuse (operation : String) (refusal : Refusal) (arguments : List Argument)

/-- Do an operation, whatever it answers. -/
def Operation.act (config : Config) (services : Services Listing) : Operation → Action Unit
  | openSession => Session.openMissing services
  | close => Session.close services
  | use handle => do
    let _ ← Session.use services handle
  | listTables database => do
    let _ ← Catalog.listTables config services database
  | tableExists path => do
    let _ ← Catalog.tableExists config services path
  | getTable path => do
    let _ ← Catalog.getTable config services path
  | refuse operation refusal arguments => do
    let _ ← Catalog.refuse config operation refusal arguments

theorem alike_listTables (database : String) :
    Alike (listTables config services.recorded database) (listTables config services database) := by
  unfold listTables
  split
  · exact alike_bind (Session.alike_use .registry) fun _ => alike_ofReply rfl _
  · exact alike_refl _

theorem alike_tableExists (path : Path) :
    Alike (tableExists config services.recorded path) (tableExists config services path) := by
  unfold tableExists
  split
  · exact alike_bind (Session.alike_use .registry) fun _ =>
      alike_bind (alike_ofReply rfl _) fun _ => alike_refl _
  · exact alike_refl _

theorem alike_getTable (path : Path) :
    Alike (getTable config services.recorded path) (getTable config services path) := by
  unfold getTable
  split
  · refine alike_bind (Session.alike_use .registry) fun _ =>
      alike_bind (alike_ofReply rfl _) fun found => ?_
    cases found with
    | none => exact alike_refl _
    | some descriptor =>
      exact alike_bind (alike_refl _) fun _ =>
        alike_bind (Session.alike_use .broker) fun _ => alike_refl _
  · exact alike_refl _

/-- The record behind some operations, each over the services as they are at its time. -/
def perform (config : Config) (record : Record) (steps : List (Services Listing × Operation)) :
    Record :=
  steps.foldl (fun record step => record.after step.1 (step.2.act config step.1.recorded)) record

/-! ## A registry is held only beside a broker -/

theorem keeps_refuse {P : Session → Prop} (operation : String) (refusal : Refusal)
    (arguments : List Argument) : Keeps P (refuse config operation refusal arguments) := by
  unfold refuse
  split
  · exact keeps_pure _
  · exact keeps_fail _
  · exact keeps_bind (keeps_log _ _) fun _ => keeps_fail _
  · exact keeps_bind (keeps_log _ _) fun _ => keeps_fail _

theorem keeps_paired_act (operation : Operation) :
    Keeps Session.Paired (operation.act config services) := by
  have opening : Keeps Session.Paired (Session.openMissing services) :=
    Session.keeps_paired_openMissing
  cases operation with
  | openSession => exact opening
  | close => exact Session.keeps_paired_close
  | use handle => exact keeps_bind (Session.keeps_use opening handle) fun _ => keeps_pure _
  | listTables database =>
    exact keeps_bind (keeps_listTables opening database) fun _ => keeps_pure _
  | tableExists path => exact keeps_bind (keeps_tableExists opening path) fun _ => keeps_pure _
  | getTable path => exact keeps_bind (keeps_getTable opening path) fun _ => keeps_pure _
  | refuse operation refusal arguments =>
    exact keeps_bind (keeps_refuse operation refusal arguments) fun _ => keeps_pure _

theorem paired_perform (config : Config) (history : List (Services Listing × Operation)) :
    (perform config (.new config.bootstrapServers config.registryUrl) history).session.Paired := by
  induction history using List.reverseRecOn with
  | nil =>
    intro held
    cases held
  | append_singleton history step ih =>
    rw [perform, List.foldl_concat, ← perform]
    exact keeps_paired_act step.2 _ ih

/-! ## Operations that do not close are tidy -/

theorem tidy_listSubjects (asFailure : ServiceFailure → Failure) :
    Tidy services (ofReply asFailure services.recorded.listSubjects) :=
  tidy_of_asking (fun _ => rfl) fun _ => by simp [Services.recorded, Call.isQuestion]

theorem tidy_latestSchema (asFailure : ServiceFailure → Failure) (subject : String) :
    Tidy services (ofReply asFailure (services.recorded.latestSchema subject)) :=
  tidy_of_asking (fun _ => rfl) fun _ => by simp [Services.recorded, Call.isQuestion]

theorem tidy_listTables (database : String) :
    Tidy services (listTables config services.recorded database) := by
  unfold listTables
  split
  · exact tidy_bind (Session.tidy_use .registry) fun _ => tidy_listSubjects _
  · exact tidy_fail _

theorem tidy_tableExists (path : Path) :
    Tidy services (tableExists config services.recorded path) := by
  unfold tableExists
  split
  · exact tidy_bind (Session.tidy_use .registry) fun _ =>
      tidy_bind (tidy_latestSchema _ _) fun _ => tidy_pure _
  · exact tidy_pure _

theorem tidy_columnsFor (descriptor : Descriptor) :
    Tidy services (columnsFor services.recorded descriptor) :=
  tidy_bind (tidy_ofExcept _) fun _ => tidy_bind (tidy_log _ _) fun _ => tidy_pure _

theorem tidy_getTable (path : Path) : Tidy services (getTable config services.recorded path) := by
  unfold getTable
  split
  · refine tidy_bind (Session.tidy_use .registry) fun _ =>
      tidy_bind (tidy_latestSchema _ _) fun found => ?_
    cases found with
    | none => exact tidy_fail _
    | some descriptor =>
      exact tidy_bind (tidy_columnsFor descriptor) fun _ =>
        tidy_bind (Session.tidy_use .broker) fun _ => tidy_bind (tidy_read _) fun _ => tidy_pure _
  · exact tidy_fail _

theorem tidy_refuse (operation : String) (refusal : Refusal) (arguments : List Argument) :
    Tidy services (refuse config operation refusal arguments) := by
  unfold refuse
  split
  · exact tidy_pure _
  · exact tidy_fail _
  · exact tidy_bind (tidy_log _ _) fun _ => tidy_fail _
  · exact tidy_bind (tidy_log _ _) fun _ => tidy_fail _

theorem tidy_act {operation : Operation} (keepsOpen : operation ≠ .close) :
    Tidy services (operation.act config services.recorded) := by
  cases operation with
  | openSession => exact Session.tidy_openMissing
  | close => exact absurd rfl keepsOpen
  | use handle => exact tidy_bind (Session.tidy_use handle) fun _ => tidy_pure _
  | listTables database => exact tidy_bind (tidy_listTables database) fun _ => tidy_pure _
  | tableExists path => exact tidy_bind (tidy_tableExists path) fun _ => tidy_pure _
  | getTable path => exact tidy_bind (tidy_getTable path) fun _ => tidy_pure _
  | refuse operation refusal arguments =>
    exact tidy_bind (tidy_refuse operation refusal arguments) fun _ => tidy_pure _

theorem grows_perform (session : Session) {cycle : List (Services Listing × Operation)}
    (keepsOpen : ∀ step ∈ cycle, step.2 ≠ .close) :
    Session.Grows session (perform config ⟨session, []⟩ cycle).deeds
      (perform config ⟨session, []⟩ cycle).session := by
  induction cycle using List.reverseRecOn with
  | nil => exact .refl session
  | append_singleton cycle step ih =>
    rw [perform, List.foldl_concat, ← perform]
    have before := ih fun other member => keepsOpen other (List.mem_append_left _ member)
    have last := keepsOpen step (List.mem_append_right _ (List.mem_singleton_self step))
    exact before.trans ((tidy_act last).grows _)

theorem surfaces_act (operation : Operation) (session : Session) :
    Session.Surfaces (((operation.act config services.recorded).run session).deeds services)
      ((operation.act config services.recorded).run session).result := by
  by_cases keepsOpen : operation = .close
  · subst keepsOpen
    intro cause failed
    rw [Operation.act, Session.deeds_close, Session.partings] at failed
    obtain ⟨deed, member, fails⟩ := List.mem_filterMap.mp failed
    obtain ⟨number, -, rfl⟩ := List.mem_map.mp member
    cases fails
  · exact (tidy_act keepsOpen).surfaces session

/-! ## Failed openings -/

end Catalog

namespace Session

variable {Listing : Type} {services : Services Listing} {session : Session}

/-- A failed opening and what it leaves behind: over the broker both handles are as they were and no
registry was asked for, over the registry the broker is held that was there or has just started. -/
inductive FailedHalf (session : Session) (failure : Failure) (after : Session) (deeds : Deeds) :
    Prop where
  | broker (same : ∀ handle, after.held handle = session.held handle)
      (unasked : ∀ deed ∈ deeds, deed.makes .registry = false)
      (why : (∃ cause, failure = .service cause ∧
          ⟨.makeBroker session.servers, .error cause⟩ ∈ deeds) ∨
        ∃ number cause, failure = .brokerFailed session.servers cause ∧
          ⟨.startBroker number, .error cause⟩ ∈ deeds)
  | registry (absent : after.registry = none)
      (kept : ∃ number, after.broker = some number ∧
        (session.broker = some number ∨ session.broker = none ∧ number ∈ deeds.started))
      (why : ∃ cause, failure = .registryFailed session.url cause ∧
        ⟨.makeRegistry session.url, .error cause⟩ ∈ deeds)

theorem failedHalf_of_brokerWay {failure : Failure} {after : Session} {deeds : Deeds}
    (way : BrokerWay services session (.error failure) after deeds) :
    FailedHalf session failure after deeds := by
  cases way with
  | unmade absent unmade => exact .broker (fun _ => rfl) (by simp) (.inl ⟨_, rfl, by simp⟩)
  | refused absent refused =>
    exact .broker (by rintro (_ | _) <;> rfl) (by simp)
      (.inr ⟨session.brokersMade + 1, _, rfl, by simp⟩)

theorem failedHalf_of_openingWay {failure : Failure} {after : Session} {deeds : Deeds}
    (way : OpeningWay services session (.error failure) after deeds) :
    FailedHalf session failure after deeds := by
  cases way with
  | stopped first => exact failedHalf_of_brokerWay first
  | both first second =>
    cases second with
    | @unmade cause absent unmade =>
      refine .registry absent ?_ ⟨cause, ?_, ?_⟩
      · cases first with
        | held held =>
          obtain ⟨number, held⟩ := Option.isSome_iff_exists.mp held
          exact ⟨number, held, .inl held⟩
        | started fresh => exact ⟨_, rfl, .inr ⟨fresh, by simp [List.filterMap_cons]⟩⟩
      · cases first <;> rfl
      · cases first <;> simp [holdBroker, countBroker]

end Session

namespace Catalog

variable {Listing : Type}

/-- In every state that a run of a catalog and its session reaches, whichever calls fail. Until the
session is closed, at most one broker starts and at most one registry is handed out; where both
handles are held they stay, and nothing makes one. An opening makes only what is absent. One that
fails over its broker leaves both handles as they were and asks for no registry, one that fails over
the registry leaves it absent and keeps the broker. Whatever operation starts a broker or makes a
registry in vain fails with an error of the catalog that has the failed call as its cause. -/
theorem perform_makes_once (config : Config) (history : List (Services Listing × Operation)) :
    let session :=
      (perform config (.new config.bootstrapServers config.registryUrl) history).session
    (∀ cycle : List (Services Listing × Operation), (∀ step ∈ cycle, step.2 ≠ .close) →
      let record := perform config ⟨session, []⟩ cycle
      record.deeds.started.length ≤ 1 ∧ record.deeds.registered.length ≤ 1 ∧
      (session.isOpen = true → ∀ handle, record.session.held handle = session.held handle ∧
        ∀ deed ∈ record.deeds, deed.makes handle = false)) ∧
    ∀ services : Services Listing,
      let opening := (Session.openMissing services.recorded).run session
      (∀ handle, (session.held handle).isSome = true →
        ∀ deed ∈ opening.deeds services, deed.makes handle = false) ∧
      (∀ failure, opening.result = .error failure →
        session.FailedHalf failure opening.session (opening.deeds services)) ∧
      ∀ operation : Operation,
        let outcome := (operation.act config services.recorded).run session
        Session.Surfaces (outcome.deeds services) outcome.result := by
  intro session
  refine ⟨?_, ?_⟩
  · intro cycle keepsOpen record
    have grows : session.Grows record.deeds record.session := grows_perform session keepsOpen
    refine ⟨?_, ?_, ?_⟩
    · have brokers := congrArg List.length grows.brokers_eq
      rw [List.length_append, Option.length_toList] at brokers
      split at brokers <;> omega
    · have registries := grows.registries
      rw [Option.length_toList] at registries
      split at registries <;> omega
    · intro isOpen handle
      have isHeld : (session.held handle).isSome = true := by
        rw [Session.isOpen, Bool.and_eq_true] at isOpen
        cases handle with
        | broker => exact isOpen.1
        | registry => exact isOpen.2
      obtain ⟨number, held⟩ := Option.isSome_iff_exists.mp isHeld
      exact ⟨(grows.kept handle number held).trans held.symm, grows.found handle isHeld⟩
  · intro services opening
    have way := Session.openingWay services session
    refine ⟨?_, ?_, ?_⟩
    · exact (Session.tidy_openMissing.grows session).found
    · intro failure failed
      change Session.OpeningWay services session opening.result opening.session
        (opening.deeds services) at way
      rw [failed] at way
      exact Session.failedHalf_of_openingWay way
    · exact fun operation => surfaces_act operation session

end Catalog

end TopicTables
