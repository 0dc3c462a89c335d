import TopicTables.Boundary.Interface

/-! # Objects

An object of an interface may hold attributes of its own. They hide what the interface has under
their names, except for what is computed. Methods act on the object that they are called on, so what
comes of using a member may depend on every other.
-/

namespace TopicTables

structure Object (ν : Type) where
  interface : Interface ν
  attributes : List (String × Member ν)

variable {ν : Type}

/-- What is done when a slot is used. -/
def Slot.script : Slot ν → Use → Script ν (UseEnd ν)
  | member (.constant value), .read _ => pure (.value value)
  | member (.constant _), .call _ _ => pure .notCallable
  | member (.method _), .read _ => pure .callable
  | member (.method body), .call _ arguments => body arguments
  | computed body, .read _ => return match ← body with
    | .ok value => .value value
    | .error error => .raised error
  | computed body, .call _ _ => return match ← body with
    | .ok _ => .notCallable
    | .error error => .raised error
  | refused _ _, .read _ => pure .callable
  | refused operation refusal, .call _ arguments => refusal.script operation arguments

namespace Object

def slot? (object : Object ν) (name : String) : Option (Slot ν) :=
  match object.interface.slot? name with
  | some (.computed body) => some (.computed body)
  | slot => ((object.attributes.lookup name).map Slot.member).or slot

/-- What comes of using a member, and the names that are used on the way. Methods may call one
another up to some depth. -/
def use (object : Object ν) : Nat → Use → UseEnd ν × List String
  | 0, use => (.tooDeep, [use.name])
  | depth + 1, use =>
    match object.slot? use.name with
    | none => (.missing use.name, [use.name])
    | some slot =>
      let (ending, names) := (slot.script use).run (object.use depth)
      (ending, use.name :: names)

end Object

end TopicTables
