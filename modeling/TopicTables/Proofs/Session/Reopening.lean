import TopicTables.Proofs.Session.Uses
import TopicTables.Service.Clients
import TopicTables.Service.Local

/-! # Opening again and again

In a world that stays as it is, opening a session again ends as it did before and holds what was
held before. So how a session is opened many times is told by how it is opened once.
-/

namespace TopicTables

variable {Listing : Type}

namespace Services

/-- The world stays as it is: a start ends alike whichever broker is started. -/
def Steady (services : Services Listing) : Prop :=
  ∀ first second servers,
    (services.startBroker first servers).result = (services.startBroker second servers).result

theorem steady_overClients (cluster : Cluster) (timeout : Float) :
    (overClients cluster timeout).Steady :=
  fun _ _ _ => rfl

theorem steady_withinProcess (cluster : Cluster) : (withinProcess cluster).Steady :=
  fun _ _ _ => rfl

end Services

namespace Session
open TopicTables.Action

variable {services : Services Listing} {session : Session}

/-- One outcome is as another: it ends alike and the same handles are held behind it. -/
structure Repeats (first again : Outcome Unit) : Prop where
  result : again.result = first.result
  held : ∀ handle, again.session.held handle = first.session.held handle

theorem openBroker_repeats (steady : services.Steady) (session : Session) :
    let first := (openBroker services).run session
    Repeats first ((openBroker services).run first.session) := by
  intro first
  cases absent : session.broker with
  | some handle =>
    have run : first = _ := openBroker_of_held (by simp [absent])
    rw [run, openBroker_of_held (by simp [absent])]
    exact ⟨rfl, fun _ => rfl⟩
  | none =>
    cases made : (services.makeBroker session.servers).result with
    | error failure =>
      have run : first = _ := openBroker_of_unmade absent made
      rw [run, openBroker_of_unmade absent made]
      exact ⟨rfl, fun _ => rfl⟩
    | ok _ =>
      cases started : (services.startBroker (session.brokersMade + 1) session.servers).result with
      | error cause =>
        have run : first = _ := openBroker_of_refused absent made started
        have again : (services.startBroker (session.countBroker.brokersMade + 1)
            session.countBroker.servers).result = .error cause :=
          (steady _ (session.brokersMade + 1) session.servers).trans started
        have absentAgain : session.countBroker.broker = none := absent
        rw [run, openBroker_of_refused absentAgain made again]
        exact ⟨rfl, fun handle => by cases handle <;> rfl⟩
      | ok _ =>
        have run : first = _ := openBroker_of_started absent made started
        rw [run, openBroker_of_held rfl]
        exact ⟨rfl, fun _ => rfl⟩

theorem openRegistry_repeats (services : Services Listing) (session : Session) :
    let first := (openRegistry services).run session
    Repeats first ((openRegistry services).run first.session) := by
  intro first
  cases absent : session.registry with
  | some handle =>
    have run : first = _ := openRegistry_of_held (by simp [absent])
    rw [run, openRegistry_of_held (by simp [absent])]
    exact ⟨rfl, fun _ => rfl⟩
  | none =>
    cases made : (services.makeRegistry session.url).result with
    | error cause =>
      have run : first = _ := openRegistry_of_unmade absent made
      rw [run, openRegistry_of_unmade absent made]
      exact ⟨rfl, fun _ => rfl⟩
    | ok isThere =>
      cases isThere with
      | false =>
        have run : first = _ := openRegistry_of_none absent made
        rw [run, openRegistry_of_none absent made]
        exact ⟨rfl, fun _ => rfl⟩
      | true =>
        have run : first = _ := openRegistry_of_made absent made
        rw [run, openRegistry_of_held rfl]
        exact ⟨rfl, fun _ => rfl⟩

theorem openMissing_repeats (steady : services.Steady) (session : Session) :
    let first := (openMissing services).run session
    Repeats first ((openMissing services).run first.session) := by
  intro first
  have broker := openBroker_repeats steady session
  cases opened : ((openBroker services).run session).result with
  | error failure =>
    have run : first = _ := run_bind_of_error opened
    have again : ((openMissing services).run first.session) = _ :=
      run_bind_of_error (by rw [run, broker.result, opened])
    rw [again, run]
    exact ⟨rfl, broker.held⟩
  | ok _ =>
    have run : first = _ := run_bind_of_ok opened
    have held : first.session.broker.isSome = true := by
      rw [run, openRegistry_broker]
      exact broker_isSome_of_openBroker opened
    have again : ((openMissing services).run first.session) = _ :=
      run_bind_of_ok (by rw [openBroker_of_held held])
    rw [again, openBroker_of_held held, run]
    have registry := openRegistry_repeats services ((openBroker services).run session).session
    exact ⟨registry.result, registry.held⟩

theorem openMissing_of_open (isOpen : session.isOpen = true) :
    (openMissing services).run session = ⟨.ok (), session, []⟩ := by
  obtain ⟨broker, registry⟩ := Bool.and_eq_true_iff.mp isOpen
  rw [openMissing, run_bind_of_ok (by rw [openBroker_of_held broker]), openBroker_of_held broker,
    openRegistry_of_held registry]
  rfl

/-- The session behind some openings one after the other, however they end. -/
def reopened (services : Services Listing) (session : Session) : Nat → Session
  | 0 => session
  | times + 1 => ((openMissing services).run (reopened services session times)).session

def reopeningCalls (services : Services Listing) (session : Session) : Nat → List Call
  | 0 => []
  | times + 1 => reopeningCalls services session times ++
      ((openMissing services).run (reopened services session times)).trace.calls

theorem keeps_reopened {P : Session → Prop} (opening : Keeps P (openMissing services))
    (holds : P session) (times : Nat) : P (reopened services session times) := by
  induction times with
  | zero => exact holds
  | succ times ih => exact opening _ ih

/-- Every opening ends as the first, and behind every one the same handles are held. -/
theorem reopened_repeats (steady : services.Steady) (session : Session) (times : Nat) :
    Repeats ((openMissing services).run session)
      ((openMissing services).run (reopened services session times)) := by
  induction times with
  | zero => exact ⟨rfl, fun _ => rfl⟩
  | succ times ih =>
    have last := openMissing_repeats steady (reopened services session times)
    exact ⟨last.result.trans ih.result, fun handle => (last.held handle).trans (ih.held handle)⟩

theorem servers_reopened (services : Services Listing) (session : Session) (times : Nat) :
    (reopened services session times).servers = session.servers := by
  have reaches : Reaches session.servers session.url (reopened services session times) :=
    keeps_reopened keeps_reaches_openMissing ⟨rfl, rfl⟩ times
  exact reaches.1

/-- Where a registry is held, one opening more does nothing and ends well. -/
theorem reopened_of_registry (paired : session.Paired) {times : Nat}
    (held : (reopened services session times).registry.isSome = true) :
    (openMissing services).run (reopened services session times) =
      ⟨.ok (), reopened services session times, []⟩ := by
  have behind : Paired (reopened services session times) :=
    keeps_reopened keeps_paired_openMissing paired times
  exact openMissing_of_open (Bool.and_eq_true_iff.mpr ⟨behind held, held⟩)

end Session

end TopicTables
