import TopicTables.Json.Basic

/-! # Traces

Operations leave a trace: the calls that reach the services and the messages logged on the way, in
order.
-/

namespace TopicTables

inductive Call where
  /-- A client of the brokers is created. -/
  | adminClient (servers : String)
  | listTopics (timeout : Float)
  /-- A client of the registry is created with settings. -/
  | registryClient (settings : List (String × Json))
  | getSubjects
  | getLatestVersion (subject : String)
  /-- A broker session within the process is made, started or shut down. -/
  | makeBroker (servers : String)
  | startBroker (number : Nat)
  | shutdownBroker (number : Nat)
  /-- A registry within the process is made or asked. -/
  | makeRegistry (url : String)
  | listSubjects
  | getSchema (subject : String)
deriving DecidableEq

inductive Level where
  | debug
  | info
  | error
deriving DecidableEq, Repr

def Level.word : Level → String
  | debug => "DEBUG"
  | info => "INFO"
  | error => "ERROR"

inductive Event where
  | call (call : Call)
  | log (level : Level) (text : String)
deriving DecidableEq

/-- What was called and logged, in order. -/
abbrev Trace := List Event

def Trace.calls (trace : Trace) : List Call :=
  trace.filterMap fun
    | .call c => some c
    | .log _ _ => none

def Trace.logs (trace : Trace) : List (Level × String) :=
  trace.filterMap fun
    | .call _ => none
    | .log level text => some (level, text)

@[simp] theorem Trace.calls_nil : Trace.calls [] = [] := rfl

@[simp] theorem Trace.calls_cons_call (c : Call) (rest : Trace) :
    Trace.calls (.call c :: rest) = c :: Trace.calls rest := rfl

@[simp] theorem Trace.calls_cons_log (level : Level) (text : String) (rest : Trace) :
    Trace.calls (.log level text :: rest) = Trace.calls rest := rfl

@[simp] theorem Trace.calls_append (s t : Trace) :
    Trace.calls (s ++ t) = Trace.calls s ++ Trace.calls t := by
  simp [Trace.calls]

@[simp] theorem Trace.logs_append (s t : Trace) :
    Trace.logs (s ++ t) = Trace.logs s ++ Trace.logs t := by
  simp [Trace.logs]

end TopicTables
