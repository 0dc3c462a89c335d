import TopicTables.Proofs.Avro.BreakingOff
import TopicTables.Proofs.Catalog.LookUp

/-! # Which failures are reported

Over the clients of a cluster, whatever goes wrong in opening, in listing the tables or in asking
for one by its path is reported as a failure of the catalog. Looking a table up reports everything
but one thing: the defect of a definition that breaks off.
-/

namespace TopicTables.Catalog
open Avro

variable {config : Config} {cluster : Cluster} {session : Session} {failure : Failure}

theorem reported_of_connecting (failed : (connecting config cluster).result = .error failure) :
    failure.isReported = true := by
  rw [connecting] at failed
  split at failed <;> cases failed <;> rfl

theorem reported_of_registering (failed : (registering config cluster).result = .error failure) :
    failure.isReported = true := by
  rw [registering] at failed
  split at failed <;> cases failed
  rfl

theorem andThen_failed_iff {α : Type} {first : Response Unit} {second : Response α} :
    (first.andThen second).result = .error failure ↔
      first.result = .error failure ∨ first.result = .ok () ∧ second.result = .error failure := by
  rw [Response.andThen]
  cases first.result <;> simp

theorem failed_of_ifAbsent {held : Bool} {response : Response Unit}
    (failed : (response.ifAbsent held).result = .error failure) :
    held = false ∧ response.result = .error failure := by
  cases held with
  | true => cases failed
  | false => exact ⟨rfl, failed⟩

theorem ifAbsent_ok_iff {held : Bool} {response : Response Unit} :
    (response.ifAbsent held).result = .ok () ↔ (held = false → response.result = .ok ()) := by
  cases held <;> simp [Response.ifAbsent]

theorem reported_of_opening {brokerHeld registryHeld : Bool}
    (failed : (opening config cluster brokerHeld registryHeld).result = .error failure) :
    failure.isReported = true := by
  obtain failed | ⟨-, failed⟩ := andThen_failed_iff.mp failed
  · exact reported_of_connecting (failed_of_ifAbsent failed).2
  · exact reported_of_registering (failed_of_ifAbsent failed).2

theorem reported_of_openMissing (sound : Sound config session)
    (failed : ((Session.openMissing (clients config cluster)).run session).result =
      .error failure) : failure.isReported = true := by
  obtain ⟨response, -⟩ := openMissing_response cluster sound
  have opened := congrArg Response.result response
  exact reported_of_opening (opened.symm.trans failed)

theorem reported_of_useRegistry (sound : Sound config session)
    (failed : ((Session.useRegistry (clients config cluster)).run session).result =
      .error failure) : failure.isReported = true := by
  cases absent : session.registry with
  | some handle =>
    rw [Session.useRegistry_of_held absent] at failed
    cases failed
  | none =>
    cases opened : ((Session.openMissing (clients config cluster)).run session).result with
    | error other =>
      rw [Session.useRegistry_of_failed absent opened] at failed
      cases failed
      exact reported_of_openMissing sound opened
    | ok _ =>
      obtain ⟨-, registryHeld⟩ := openMissing_response cluster sound
      obtain ⟨handle, held⟩ := Option.isSome_iff_exists.mp (registryHeld opened)
      rw [Session.useRegistry_of_opened absent opened, held] at failed
      cases failed

theorem reported_of_ofReply {α : Type} {asFailure : ServiceFailure → Failure} {reply : Reply α}
    (reports : ∀ cause, (asFailure cause).isReported = true)
    (failed : ((Action.ofReply asFailure reply).run session).result = .error failure) :
    failure.isReported = true := by
  obtain ⟨cause, -, rfl⟩ := Results.mapError_eq_error_iff.mp failed
  exact reports cause

theorem reported_of_listTables (sound : Sound config session) {database : String}
    (failed : ((listTables config (clients config cluster) database).run session).result =
      .error failure) : failure.isReported = true := by
  rw [listTables] at failed
  split at failed
  · obtain failed | ⟨_, -, failed⟩ := Action.failed_of_bind failed
    · exact reported_of_useRegistry sound failed
    · exact reported_of_ofReply (fun _ => rfl) failed
  · cases failed
    rfl

theorem reported_of_tableExists (sound : Sound config session) {path : Path}
    (failed : ((tableExists config (clients config cluster) path).run session).result =
      .error failure) : failure.isReported = true := by
  rw [tableExists] at failed
  split at failed
  · obtain failed | ⟨_, -, failed⟩ := Action.failed_of_bind failed
    · exact reported_of_useRegistry sound failed
    · obtain failed | ⟨_, -, failed⟩ := Action.failed_of_bind failed
      · exact reported_of_ofReply (fun _ => rfl) failed
      · cases failed
  · cases failed

/-! ## Looking a table up -/

/-- The registry is asked for the path and answers with a definition that breaks off. -/
structure MeetsDefect (config : Config) (cluster : Cluster) (brokerHeld registryHeld : Bool)
    (path : Path) (defect : Defect) : Prop where
  inScope : path.database = config.defaultDatabase
  named : path.object ≠ ""
  opens : registryHeld = false → (opening config cluster brokerHeld false).result = .ok ()
  answers : ∃ entry, RegistryClient.latestVersion cluster path.object = .ok (some entry) ∧
    encodingWord entry = "AVRO" ∧ BreaksOff cluster.depth entry.definition defect

theorem described_unreported_iff {depth : Nat} {topic : String} {entry : Entry} :
    (described config depth topic entry = .error failure ∧ failure.isReported = false) ↔
      encodingWord entry = "AVRO" ∧
        ∃ defect, failure = .noColumns (.broken defect) ∧
          BreaksOff depth entry.definition defect := by
  unfold described
  split
  · rename_i avro
    simp only [avro, true_and, ← registeredColumns_broken_iff]
    cases translated : registeredColumns depth entry.definition with
    | ok columns => simp
    | error lack =>
      constructor
      · rintro ⟨same, unreported⟩
        cases same
        cases lack with
        | broken defect => exact ⟨defect, rfl, rfl⟩
        | _ => cases unreported
      · rintro ⟨defect, rfl, same⟩
        cases same
        exact ⟨rfl, rfl⟩
  · rename_i other
    simp only [other, false_and, iff_false, not_and]
    split
    · rintro ⟨⟩
      simp [Failure.isReported]
    · rintro ⟨⟩
      simp [Failure.isReported]

theorem judged_unreported_iff {depth : Nat} {path : Path}
    {answer : Except ServiceFailure (Option Entry)} :
    (judged config depth path answer = .error failure ∧ failure.isReported = false) ↔
      ∃ entry, answer = .ok (some entry) ∧
        described config depth path.object entry = .error failure ∧ failure.isReported = false := by
  unfold judged
  split
  · simpa using fun same => by cases same; rfl
  · rename_i entry
    simp
  · split
    · simpa using fun same => by cases same; rfl
    · simpa using fun same => by cases same; rfl
  · simpa using fun same => by cases same; rfl

theorem lookedUp_unreported_iff {brokerHeld registryHeld : Bool} {path : Path} :
    ((lookedUp config cluster brokerHeld registryHeld path).result = .error failure ∧
        failure.isReported = false) ↔
      ∃ defect, failure = .noColumns (.broken defect) ∧
        MeetsDefect config cluster brokerHeld registryHeld path defect := by
  have met : (judged config cluster.depth path
        (RegistryClient.latestVersion cluster path.object) = .error failure ∧
          failure.isReported = false) ↔
      ∃ defect, failure = .noColumns (.broken defect) ∧
        ∃ entry, RegistryClient.latestVersion cluster path.object = .ok (some entry) ∧
          encodingWord entry = "AVRO" ∧ BreaksOff cluster.depth entry.definition defect := by
    simp only [judged_unreported_iff, described_unreported_iff]
    tauto
  rw [lookedUp]
  split
  · rename_i outside
    constructor
    · rintro ⟨same, unreported⟩
      cases same
      cases unreported
    · rintro ⟨defect, -, meets⟩
      cases outside with
      | inl database => exact absurd meets.inScope database
      | inr object => exact absurd object meets.named
  · rename_i inside
    obtain ⟨inScope, named⟩ := not_or.mp inside
    rw [andThen_failed_iff, ifAbsent_ok_iff]
    constructor
    · rintro ⟨failed | ⟨opens, failed⟩, unreported⟩
      · have reported := reported_of_opening (failed_of_ifAbsent failed).2
        rw [reported] at unreported
        cases unreported
      · obtain ⟨defect, same, answers⟩ := met.mp ⟨failed, unreported⟩
        refine ⟨defect, same, not_not.mp inScope, named, fun absent => ?_, answers⟩
        subst absent
        exact opens rfl
    · rintro ⟨defect, rfl, meets⟩
      obtain ⟨failed, unreported⟩ := met.mpr ⟨defect, rfl, meets.answers⟩
      refine ⟨.inr ⟨fun absent => ?_, failed⟩, unreported⟩
      subst absent
      exact meets.opens rfl

/-- Whatever was done before and however it ended: opening, listing tables and asking for one report
every failure, and looking one up reports every failure but the defect of a definition that breaks
off, which it leaves as it is. The text of such a definition is nested too deep for the room that
there is, or some object in it lacks something that is taken for granted. -/
theorem unreported_iff_meetsDefect (config : Config) (start : Cluster)
    (steps : List (Step Cluster)) :
    let stage := reached config (clients config) start steps
    let services := clients config stage.world
    (∀ failure, ((Session.openMissing services).run stage.session).result = .error failure →
      failure.isReported = true) ∧
    (∀ database failure,
      ((listTables config services database).run stage.session).result = .error failure →
        failure.isReported = true) ∧
    (∀ path failure,
      ((tableExists config services path).run stage.session).result = .error failure →
        failure.isReported = true) ∧
    (∀ path failure,
      (((getTable config services path).run stage.session).result = .error failure ∧
          failure.isReported = false) ↔
        ∃ defect, failure = .noColumns (.broken defect) ∧
          MeetsDefect config stage.world stage.session.broker.isSome
            stage.session.registry.isSome path defect) ∧
    ∀ path defect,
      MeetsDefect config stage.world stage.session.broker.isSome stage.session.registry.isSome path
          defect →
        ∃ entry text, RegistryClient.latestVersion stage.world path.object = .ok (some entry) ∧
          entry.definition = .str text ∧ LacksInText stage.world.depth text defect := by
  intro stage services
  have sound : Sound config stage.session := sound_reached config start steps
  refine ⟨fun _ => reported_of_openMissing sound, fun _ _ => reported_of_listTables sound,
    fun _ _ => reported_of_tableExists sound, fun path failure => ?_, fun path defect meets => ?_⟩
  · have response := congrArg Response.result (getTable_response stage.world sound path)
    rw [← lookedUp_unreported_iff, ← response]
    rfl
  · obtain ⟨entry, answer, -, breaks⟩ := meets.answers
    obtain ⟨text, definition, lacks⟩ := lacks_of_breaksOff breaks
    exact ⟨entry, text, answer, definition, lacks⟩

/-- The items of a list are not declared: looking the table up leaves the defect as it is. -/
theorem unreported_missing_items :
    let config : Config := ⟨"kafka", "b:9092", "http://r:8081", "default", 10.0⟩
    let text := "\x7b\"type\":\"record\",\"name\":\"R\",\"fields\":[" ++
      "\x7b\"name\":\"v\",\"type\":\x7b\"type\":\"array\"\x7d\x7d]\x7d"
    let cluster : Cluster := { entries := [{ subject := "t", definition := .str text }] }
    let services := clients config cluster
    let failure : Failure := .noColumns (.broken (.missingMember "items"))
    ((getTable config services ⟨"default", "t"⟩).run (newSession config)).result =
        .error failure ∧ failure.isReported = false := by
  decide +kernel

end TopicTables.Catalog
