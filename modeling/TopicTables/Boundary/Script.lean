import TopicTables.Boundary.Basic

/-! # What methods do

A method acts on the object that it is called on: it reads and calls members of it by their names,
and goes on with what comes of that. Values, and the errors that methods raise, are of a type `ν`;
what else can come of using a member is told apart.
-/

namespace TopicTables

inductive Use where
  | read (name : String)
  | call (name : String) (arguments : List Argument)
deriving DecidableEq

def Use.name : Use → String
  | read name => name
  | call name _ => name

/-- What comes of using a member. -/
inductive UseEnd (ν : Type) where
  | value (value : ν)
  /-- Something that can be called has been read. -/
  | callable
  | raised (error : ν)
  | missing (name : String)
  | notCallable
  /-- A refusal, which tells the name of the object unless that is something that can be called. -/
  | refused (ending : RefusedEnd (Option ν))
  /-- Methods have called one another too deep. -/
  | tooDeep
deriving DecidableEq

/-- Uses of members of an object, each chosen by what came of those before. -/
inductive Script (ν α : Type) where
  | ended (result : α)
  | step (use : Use) (next : UseEnd ν → Script ν α)

namespace Script

variable {ν α β : Type}

protected def bind : Script ν α → (α → Script ν β) → Script ν β
  | ended result, after => after result
  | step use next, after => step use fun came => (next came).bind after

instance : Monad (Script ν) where
  pure := ended
  bind := Script.bind

/-- What a script ends with, and the names that it uses, when its uses are answered in some way. -/
def run (answer : Use → UseEnd ν × List String) : Script ν α → α × List String
  | ended result => (result, [])
  | step use next =>
    let (came, names) := answer use
    let (result, later) := (next came).run answer
    (result, names ++ later)

end Script

def nameMember : String := "name"

/-- Read the name of the object; where there is none to read, that is what the method ends with. -/
def readName {ν : Type} : ExceptT (UseEnd ν) (Script ν) (Option ν) :=
  .mk <| .step (.read nameMember) fun
    | .value name => pure (.ok (some name))
    | .callable => pure (.ok none)
    | other => pure (.error other)

/-- What the method does that refuses an operation in some way. -/
def Refusal.script {ν : Type} (refusal : Refusal) (operation : String)
    (arguments : List Argument) : Script ν (UseEnd ν) := do
  match ← (refusal.finish operation readName arguments).run with
  | .ok ending => return .refused ending
  | .error other => return other

end TopicTables
