import TopicTables.Service.Descriptor
import TopicTables.Service.Event

/-! # Services

A session reaches brokers and a schema registry through a handful of calls. Each replies with an
answer or a failure, and with the trace it leaves.
-/

namespace TopicTables

/-- What comes back from a service. -/
structure Reply (α : Type) where
  result : Except ServiceFailure α
  trace : Trace

namespace Reply

variable {α β : Type}

def ok (answer : α) : Reply α := ⟨.ok answer, []⟩

def failed (failure : ServiceFailure) : Reply α := ⟨.error failure, []⟩

def ofExcept (result : Except ServiceFailure α) : Reply α := ⟨result, []⟩

/-- A call that fails where there is a failure for it. -/
def ofCall (call : Call) (failure : Option ServiceFailure) : Reply Unit :=
  ⟨match failure with | some f => .error f | none => .ok (), [.call call]⟩

def ofLog (level : Level) (text : String) : Reply Unit :=
  ⟨.ok (), [.log level text]⟩

/-- Go on with an answer; a failure ends the work. -/
def bind (reply : Reply α) (next : α → Reply β) : Reply β :=
  match reply.result with
  | .ok answer => ⟨(next answer).result, reply.trace ++ (next answer).trace⟩
  | .error failure => ⟨.error failure, reply.trace⟩

instance : Monad Reply where
  pure := ok
  bind := bind

@[simp] theorem pure_eq (answer : α) : (pure answer : Reply α) = ⟨.ok answer, []⟩ := rfl

@[simp] theorem ok_bind (answer : α) (trace : Trace) (next : α → Reply β) :
    (⟨.ok answer, trace⟩ >>= next : Reply β) =
      ⟨(next answer).result, trace ++ (next answer).trace⟩ := rfl

@[simp] theorem error_bind (failure : ServiceFailure) (trace : Trace) (next : α → Reply β) :
    (⟨.error failure, trace⟩ >>= next : Reply β) = ⟨.error failure, trace⟩ := rfl

end Reply

/-- The calls through which a session reaches its services in one state of the outside world.
Brokers within the process are told apart by number. -/
structure Services (Listing : Type) where
  /-- Make a broker session for some servers, without connecting. -/
  makeBroker : String → Reply Unit
  /-- Connect a broker session. -/
  startBroker : (number : Nat) → (servers : String) → Reply Unit
  /-- Release a connected broker session. -/
  shutdownBroker : (number : Nat) → (servers : String) → Reply Unit
  /-- The servers that a connected broker session for some servers works with. -/
  liveServers : String → String
  /-- Make a registry for an address; the answer is whether there is one. -/
  makeRegistry : String → Reply Bool
  /-- The subjects of the registry. -/
  listSubjects : Reply Listing
  /-- The latest schema of a subject, if it has one. -/
  latestSchema : String → Reply (Option Descriptor)
  /-- The number of levels that there is room for when a definition is read. -/
  depth : Nat

end TopicTables
