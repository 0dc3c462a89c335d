import TopicTables.Boundary.Script
import TopicTables.Config.Options

/-! # Drawing the boundary on an interface

An interface has slots of its own and inherits others, which its own slots hide. Drawing the
boundary changes the interface: it gives every refused operation a slot of its own, one after
another. It is not drawn on an interface that has such a slot already, nor on one where a supported
operation cannot be called.
-/

namespace TopicTables

/-- Something that an object or its interface holds. -/
inductive Member (ν : Type) where
  | method (body : List Argument → Script ν (UseEnd ν))
  /-- A value, which cannot be called. -/
  | constant (value : ν)

/-- What a name stands for on an interface. -/
inductive Slot (ν : Type) where
  | member (member : Member ν)
  /-- A value, or an error, that is computed each time it is read. -/
  | computed (body : Script ν (Except ν ν))
  | refused (operation : String) (refusal : Refusal)

def Slot.isCallable {ν : Type} : Slot ν → Bool
  | member (.method _) => true
  | refused _ _ => true
  | _ => false

/-- Slots by name, its own before those it inherits. -/
structure Interface (ν : Type) where
  name : String
  own : List (String × Slot ν)
  inherited : List (String × Slot ν)

/-- Why the boundary cannot be drawn. -/
inductive BoundaryError where
  | implementedAndRefused (interface operation : String)
  | notImplemented (interface : String) (operations : List String)
deriving DecidableEq, Repr

def BoundaryError.message : BoundaryError → String
  | implementedAndRefused interface operation =>
    interface ++ "." ++ operation ++ " is implemented and refused."
  | notImplemented interface operations =>
    interface ++ " does not implement: " ++ ", ".intercalate operations

namespace Interface

variable {ν : Type}

def slot? (interface : Interface ν) (name : String) : Option (Slot ν) :=
  match interface.own.lookup name with
  | some slot => some slot
  | none => interface.inherited.lookup name

def uncallable (interface : Interface ν) : List String :=
  Boundary.supported.filter fun name => !((interface.slot? name).any Slot.isCallable)

/-- The first refused operation for which the interface has a slot of its own. -/
def ownRefused? (interface : Interface ν) : Option String :=
  (Boundary.refused.map (·.1)).find? fun name => (interface.own.lookup name).isSome

/-- Set the slot of a name, behind the others where the name has none yet. -/
def setSlot (name : String) (slot : Slot ν) : List (String × Slot ν) → List (String × Slot ν)
  | [] => [(name, slot)]
  | (key, old) :: rest =>
    if key = name then (key, slot) :: rest else (key, old) :: setSlot name slot rest

/-- The interface with a slot of its own under the name. -/
def give (interface : Interface ν) (name : String) (slot : Slot ν) : Interface ν :=
  { interface with own := setSlot name slot interface.own }

/-- Change an interface so that it refuses what is outside the boundary. -/
def refuseOutside : EStateM BoundaryError (Interface ν) Unit := do
  let interface ← get
  match interface.ownRefused? with
  | some operation => throw (.implementedAndRefused interface.name operation)
  | none =>
    if interface.uncallable.isEmpty then
      Boundary.refused.forM fun (operation, refusal) =>
        modify fun interface => interface.give operation (.refused operation refusal)
    else throw (.notImplemented interface.name interface.uncallable)

/-- The interface as it is when what is outside the boundary is refused. -/
def drawBoundary (interface : Interface ν) : Except BoundaryError (Interface ν) :=
  match refuseOutside.run interface with
  | .ok _ drawn => .ok drawn
  | .error error _ => .error error

end Interface

end TopicTables
