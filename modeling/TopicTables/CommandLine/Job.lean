import TopicTables.Catalog.Batch
import TopicTables.Pattern.Fault
import TopicTables.Terminal.Console
import TopicTables.Terminal.Picker
import TopicTables.Terminal.Report

/-! # Jobs

A job is done at a terminal within the session of a catalog. It shows things, asks the user, acts on
the session, and may end the program on its way.
-/

namespace TopicTables.CommandLine

/-- What leaves a program other than by an exit. -/
inductive Escape where
  | failure (failure : Failure)
  | console (fault : ConsoleFault)
  /-- A cell of a table is nothing that a console can be handed. -/
  | unshowable (cell : Json)
  /-- The reading of a pattern broke off. -/
  | pattern (text : String) (fault : Pattern.Fault)
  /-- A pattern has been found with a group that ends before it begins. -/
  | crossedGroup
  /-- The files that complete words in a shell cannot be written. -/
  | completion
deriving DecidableEq

inductive Ending where
  | exit (code : Nat)
  | escape (escape : Escape)
deriving DecidableEq

/-- The exit codes. -/
def succeeded : Nat := 0

def failed : Nat := 1

def misused : Nat := 2

/-- A terminal and the session of a catalog. -/
structure Desk where
  console : Console
  session : Session
  /-- What the user will answer. -/
  answers : List Answer
  /-- What the console and the prompts have shown. -/
  shown : List Display
  /-- What has been called and logged, by the program itself and by its workers. -/
  trace : Trace
  workerTrace : Trace

/-- Something done at a terminal. -/
abbrev Job (α : Type) := ExceptT Ending (StateM Desk) α

namespace Job

variable {α : Type}

/-- Show something; what the console raises escapes. -/
def display (display : Display) : Job Unit := do
  let desk ← get
  match desk.console.fault? desk.shown display with
  | some fault => throw (.escape (.console fault))
  | none => set { desk with shown := desk.shown ++ [display] }

def showAll (displays : List Display) : Job Unit :=
  displays.forM display

/-- Do something while a spinner is shown. -/
def whileWorking (text : String) (job : Job α) : Job α := do
  display (.working text)
  let value ← job
  display .workDone
  return value

def exit (code : Nat) : Job α := throw (.exit code)

def die (text : String) (code : Nat) : Job α := do
  display (.error text)
  exit code

def warnAndExit (text : String) : Job α := do
  display (.warning text)
  exit succeeded

/-- Ask the user; when no answer is left the prompt is cancelled. -/
def ask (prompt : Display) : Job Answer := do
  let desk ← get
  set { desk with shown := desk.shown ++ [prompt], answers := desk.answers.tail }
  return desk.answers.head?.getD .cancelled

def act (action : Action α) : Job (Except Failure α) := do
  let desk ← get
  let outcome := action.run desk.session
  set { desk with session := outcome.session, trace := desk.trace ++ outcome.trace }
  return outcome.result

/-- Have workers act on the session. -/
def actByWorkers (action : Action α) : Job (Except Failure α) := do
  let desk ← get
  let outcome := action.run desk.session
  set { desk with session := outcome.session, workerTrace := desk.workerTrace ++ outcome.trace }
  return outcome.result

/-- Go on with a result. A failure that the catalog reports is shown and ends the program; any other
escapes. -/
def orEnd (result : Except Failure α) : Job α :=
  match result with
  | .ok value => pure value
  | .error failure =>
    if failure.isReported then die failure.describe failed
    else throw (.escape (.failure failure))

end Job

end TopicTables.CommandLine
