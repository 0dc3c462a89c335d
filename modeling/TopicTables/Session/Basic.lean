import TopicTables.Catalog.Failure
import TopicTables.Service.Basic

/-! # Sessions and what is done in them

A session holds at most one broker handle and at most one registry handle. An action works on a
session: it ends with a result, leaves a session behind and a trace on the way.
-/

namespace TopicTables

/-- The handles of a session and how many have been made for it. -/
structure Session where
  servers : String
  url : String
  broker : Option Nat := none
  registry : Option Nat := none
  brokersMade : Nat := 0
  registriesMade : Nat := 0
deriving DecidableEq, Repr, Inhabited

def Session.isOpen (session : Session) : Bool :=
  session.broker.isSome && session.registry.isSome

structure Outcome (α : Type) where
  result : Except Failure α
  session : Session
  trace : Trace

/-- Something done in a session. -/
def Action (α : Type) := Session → Outcome α

namespace Action

variable {α β : Type}

def run (action : Action α) (session : Session) : Outcome α :=
  action session

def ok (value : α) : Action α := fun session => ⟨.ok value, session, []⟩

def bind (action : Action α) (next : α → Action β) : Action β := fun session =>
  let first := action session
  match first.result with
  | .error failure => ⟨.error failure, first.session, first.trace⟩
  | .ok value =>
    let second := next value first.session
    ⟨second.result, second.session, first.trace ++ second.trace⟩

instance : Monad Action where
  pure := ok
  bind := bind

def fail (failure : Failure) : Action α := fun session => ⟨.error failure, session, []⟩

def read (view : Session → α) : Action α := fun session => ⟨.ok (view session), session, []⟩

def change (update : Session → Session) : Action Unit := fun session => ⟨.ok (), update session, []⟩

def log (level : Level) (text : String) : Action Unit := fun session =>
  ⟨.ok (), session, [.log level text]⟩

/-- Take a reply, making a failure of the call one of the action. -/
def ofReply (asFailure : ServiceFailure → Failure) (reply : Reply α) : Action α := fun session =>
  ⟨reply.result.mapError asFailure, session, reply.trace⟩

/-- Take a reply, handing a failure of the call on as a value. -/
def attempt (reply : Reply α) : Action (Except ServiceFailure α) := fun session =>
  ⟨.ok reply.result, session, reply.trace⟩

def ofExcept (result : Except Failure α) : Action α := fun session => ⟨result, session, []⟩

@[simp] theorem run_pure (value : α) (session : Session) :
    (pure value : Action α).run session = ⟨.ok value, session, []⟩ := rfl

@[simp] theorem run_fail (failure : Failure) (session : Session) :
    (fail failure : Action α).run session = ⟨.error failure, session, []⟩ := rfl

@[simp] theorem run_read (view : Session → α) (session : Session) :
    (read view).run session = ⟨.ok (view session), session, []⟩ := rfl

@[simp] theorem run_change (update : Session → Session) (session : Session) :
    (change update).run session = ⟨.ok (), update session, []⟩ := rfl

@[simp] theorem run_log (level : Level) (text : String) (session : Session) :
    (log level text).run session = ⟨.ok (), session, [.log level text]⟩ := rfl

@[simp] theorem run_ofReply (asFailure : ServiceFailure → Failure) (reply : Reply α)
    (session : Session) : (ofReply asFailure reply).run session =
      ⟨reply.result.mapError asFailure, session, reply.trace⟩ := rfl

@[simp] theorem run_attempt (reply : Reply α) (session : Session) :
    (attempt reply).run session = ⟨.ok reply.result, session, reply.trace⟩ := rfl

@[simp] theorem run_ofExcept (result : Except Failure α) (session : Session) :
    (ofExcept result).run session = ⟨result, session, []⟩ := rfl

theorem run_bind (action : Action α) (next : α → Action β) (session : Session) :
    (action >>= next).run session =
      match (action.run session).result with
      | .error failure =>
        ⟨.error failure, (action.run session).session, (action.run session).trace⟩
      | .ok value =>
        ⟨((next value).run (action.run session).session).result,
          ((next value).run (action.run session).session).session,
          (action.run session).trace ++ ((next value).run (action.run session).session).trace⟩ :=
  rfl

theorem run_bind_of_ok {action : Action α} {next : α → Action β} {session : Session} {value : α}
    (h : (action.run session).result = .ok value) :
    (action >>= next).run session =
      ⟨((next value).run (action.run session).session).result,
        ((next value).run (action.run session).session).session,
        (action.run session).trace ++ ((next value).run (action.run session).session).trace⟩ := by
  simp only [run] at h
  simp only [run, Bind.bind, bind, h]

theorem run_bind_of_error {action : Action α} {next : α → Action β} {session : Session}
    {failure : Failure} (h : (action.run session).result = .error failure) :
    (action >>= next).run session =
      ⟨.error failure, (action.run session).session, (action.run session).trace⟩ := by
  simp only [run] at h
  simp only [run, Bind.bind, bind, h]

/-- The first of two actions fails, or the second does where the first has ended well. -/
theorem failed_of_bind {action : Action α} {next : α → Action β} {session : Session}
    {failure : Failure} (failed : ((action >>= next).run session).result = .error failure) :
    (action.run session).result = .error failure ∨
      ∃ value, (action.run session).result = .ok value ∧
        ((next value).run (action.run session).session).result = .error failure := by
  cases ends : (action.run session).result with
  | error other =>
    rw [run_bind_of_error ends] at failed
    cases failed
    exact .inl rfl
  | ok value =>
    rw [run_bind_of_ok ends] at failed
    exact .inr ⟨value, rfl, failed⟩

end Action

end TopicTables
