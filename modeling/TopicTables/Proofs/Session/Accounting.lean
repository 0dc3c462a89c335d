import Mathlib.Data.List.Induction
import Mathlib.Data.List.Nodup
import TopicTables.Proofs.Session.Invariant
import TopicTables.Proofs.Session.Ledger

/-! # Accounts of a session

Along every run of opening, closing and using handles, whichever calls fail, the brokers that
started are those that were shut down, in the same order, followed by the one that is held. What can
be said about how often brokers are started and shut down follows from this balance.
-/

namespace TopicTables

variable {Listing α : Type}

/-- A session and what was done through its services so far. -/
structure Record where
  session : Session
  deeds : Deeds

namespace Record

def new (servers url : String) : Record :=
  ⟨{ servers, url }, []⟩

/-- The record behind an action over services. -/
def after (record : Record) (services : Services Listing) (action : Action α) : Record :=
  let outcome := action.run record.session
  ⟨outcome.session, record.deeds ++ outcome.deeds services⟩

end Record

namespace Session
open TopicTables.Action

variable {services : Services Listing}

/-- What can be done with a session. -/
inductive Command where
  | openSession
  | close
  | use (handle : Handle)
deriving DecidableEq, Repr

def Command.act (services : Services Listing) : Command → Action (Option Nat)
  | openSession => do
    openMissing services
    return none
  | close => do
    Session.close services
    return none
  | use handle => return some (← Session.use services handle)

def perform (record : Record) (steps : List (Services Listing × Command)) : Record :=
  steps.foldl (fun record step => record.after step.1 (step.2.act step.1.recorded)) record

/-! ## The balance -/

def partings (services : Services Listing) (session : Session) : Deeds :=
  session.broker.toList.map fun number =>
    ⟨.shutdownBroker number, services.ending session.servers (.shutdownBroker number)⟩

/-- Closing shuts down what is held and nothing else. -/
theorem deeds_close (services : Services Listing) (session : Session) :
    ((close services.recorded).run session).deeds services = session.partings services := by
  cases held : session.broker with
  | none => simp [close, run_bind, held, Outcome.deeds, partings]
  | some number =>
    cases ended : (services.shutdownBroker number session.servers).result <;>
      simp [close, run_bind, held, Outcome.deeds, partings, Services.recorded, ended]

theorem balanced_partings (session : Session) : Balanced session (session.partings services)
    { session with broker := none, registry := none } := by
  cases held : session.broker <;> constructor <;> simp [partings, held, List.filterMap_cons]

theorem balanced_close (session : Session) :
    Balanced session (((close services.recorded).run session).deeds services)
      ((close services.recorded).run session).session := by
  rw [deeds_close, close_handles]
  exact balanced_partings session

theorem balanced_act (command : Command) (session : Session) :
    Balanced session (((command.act services.recorded).run session).deeds services)
      ((command.act services.recorded).run session).session := by
  cases command with
  | openSession =>
    rw [Command.act, bind_pure_comp, run_map]
    exact (tidy_openMissing.grows session).toBalanced
  | close =>
    rw [Command.act, bind_pure_comp, run_map]
    exact balanced_close session
  | use handle =>
    rw [Command.act, bind_pure_comp, run_map]
    exact ((tidy_use handle).grows session).toBalanced

theorem keeps_paired_act (command : Command) : Keeps Paired (command.act services) := by
  cases command with
  | openSession => exact keeps_bind keeps_paired_openMissing fun _ => keeps_pure _
  | close => exact keeps_bind keeps_paired_close fun _ => keeps_pure _
  | use handle => exact keeps_bind (keeps_use keeps_paired_openMissing handle) fun _ => keeps_pure _

/-- What a run keeps: a registry is held only beside a broker, and everything done is balanced. -/
structure Accounted (start : Session) (record : Record) : Prop where
  paired : record.session.Paired
  balanced : Balanced start record.deeds record.session

theorem accounted_perform (servers url : String) (steps : List (Services Listing × Command)) :
    Accounted { servers, url } (perform (.new servers url) steps) := by
  induction steps using List.reverseRecOn with
  | nil => exact ⟨(fun held => by cases held), .refl _⟩
  | append_singleton steps step ih =>
    rw [perform, List.foldl_concat, ← perform]
    exact ⟨keeps_paired_act step.2 _ ih.paired, ih.balanced.trans (balanced_act step.2 _)⟩

end Session

/-! ## What follows from the balance -/

namespace Deeds

/-- A broker that was told to start has started or has failed to. -/
theorem started_refused_perm (deeds : Deeds) :
    (deeds.started ++ deeds.refused).Perm deeds.tried := by
  induction deeds with
  | nil => exact .refl _
  | cons deed rest ih =>
    obtain ⟨call, ending⟩ := deed
    cases call with
    | startBroker number =>
      cases ending with
      | ok _ => simpa [List.filterMap_cons] using ih
      | error _ => simpa [List.filterMap_cons] using List.perm_middle.trans (ih.cons number)
    | _ => simpa [List.filterMap_cons] using ih

end Deeds

namespace Session.Balanced

variable {start after : Session} {deeds : Deeds}

/-- From a session without a broker, the brokers that started are those that were shut down and the
one that is held. -/
theorem started_eq (balanced : Balanced start deeds after) (closed : start.broker = none) :
    deeds.started = deeds.shutDown ++ after.broker.toList := by
  simpa [closed] using balanced.brokers

theorem nodup_tried (balanced : Balanced start deeds after) : deeds.tried.Nodup := by
  rw [balanced.tries]
  exact List.nodup_range'

theorem nodup_started (balanced : Balanced start deeds after) :
    (deeds.started ++ deeds.refused).Nodup :=
  deeds.started_refused_perm.nodup_iff.mpr balanced.nodup_tried

theorem nodup_shutDown (balanced : Balanced start deeds after) (closed : start.broker = none) :
    deeds.shutDown.Nodup := by
  have started := balanced.nodup_started.of_append_left
  rw [balanced.started_eq closed] at started
  exact started.of_append_left

theorem started_of_shutDown (balanced : Balanced start deeds after) (closed : start.broker = none)
    {number : Nat} (shut : number ∈ deeds.shutDown) : number ∈ deeds.started := by
  rw [balanced.started_eq closed]
  exact List.mem_append_left _ shut

theorem started_of_held (balanced : Balanced start deeds after) (closed : start.broker = none)
    {number : Nat} (held : after.broker = some number) : number ∈ deeds.started := by
  rw [balanced.started_eq closed, held]
  exact List.mem_append_right _ (List.mem_singleton_self number)

theorem not_refused_of_started (balanced : Balanced start deeds after) {number : Nat}
    (started : number ∈ deeds.started) : number ∉ deeds.refused :=
  fun refused => (List.nodup_append.mp balanced.nodup_started).2.2 number started number refused rfl

end Session.Balanced

namespace Session

theorem deeds_perform_append (record : Record) (earlier later : List (Services Listing × Command)) :
    ∃ deeds,
      (perform record (earlier ++ later)).deeds = (perform record earlier).deeds ++ deeds := by
  induction later using List.reverseRecOn with
  | nil => exact ⟨[], by simp⟩
  | append_singleton later step ih =>
    obtain ⟨deeds, split⟩ := ih
    rw [perform, ← List.append_assoc, List.foldl_concat, ← perform]
    exact ⟨_, by rw [Record.after, split, List.append_assoc]⟩

/-- In every state that a run of a new session reaches, whichever calls fail: a registry is held
only beside a broker. The starts that succeeded outnumber the shutdowns by one where a broker is
held and match them where none is, and the broker held is the one that started last. A broker that
failed to start is held in no state of the run and is never shut down. No broker is told twice to
start or to shut down. Closing leaves neither handle held, however it ends. -/
theorem perform_started_shutDown_or_held (servers url : String) (steps : List (Services Listing × Command)) :
    let record := perform (.new servers url) steps
    (record.session.registry.isSome = true → record.session.broker.isSome = true) ∧
    (record.deeds.started.length : Int) - record.deeds.shutDown.length =
      (if record.session.broker.isSome then 1 else 0) ∧
    (∀ number, record.session.broker = some number →
      record.deeds.started.getLast? = some number) ∧
    (∀ number ∈ record.deeds.refused, number ∉ record.deeds.shutDown ∧
      ∀ earlier, earlier <+: steps →
        (perform (.new servers url) earlier).session.broker ≠ some number) ∧
    record.deeds.tried.Nodup ∧ record.deeds.shutDown.Nodup ∧
    ∀ services : Services Listing,
      let closed := record.after services (close services.recorded)
      closed.session.broker = none ∧ closed.session.registry = none := by
  intro record
  have accounted : Accounted { servers, url } record := accounted_perform servers url steps
  obtain ⟨paired, balanced⟩ := accounted
  have ledger := balanced.started_eq rfl
  refine ⟨paired, ?_, ?_, ?_, balanced.nodup_tried, balanced.nodup_shutDown rfl, ?_⟩
  · rw [ledger, List.length_append, Option.length_toList]
    push_cast
    split <;> omega
  · intro number held
    rw [ledger, held, Option.toList_some, List.getLast?_concat]
  · intro number refused
    refine ⟨fun shut => balanced.not_refused_of_started (balanced.started_of_shutDown rfl shut)
      refused, ?_⟩
    rintro earlier ⟨later, rfl⟩ held
    have started := (accounted_perform servers url earlier).balanced.started_of_held rfl held
    obtain ⟨deeds, split⟩ := deeds_perform_append (.new servers url) earlier later
    refine balanced.not_refused_of_started ?_ refused
    rw [split, Deeds.started, List.filterMap_append]
    exact List.mem_append_left _ started
  · intro services
    simp only [Record.after, close_handles, and_self]

end Session

end TopicTables
