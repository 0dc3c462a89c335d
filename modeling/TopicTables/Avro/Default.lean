import TopicTables.Avro.Fault
import TopicTables.Avro.Primitive
import TopicTables.Number.Binary
import TopicTables.Number.Numeral

/-! # Default values

A default value has to suit the type it stands beside. A type given by its bare name takes every
number for a floating point type, also one written as a text; a type given as an object wants the
value to have just its kind.
-/

namespace TopicTables.Avro
open Number

/-- The value converts to a float. An integer beyond all floats breaks the conversion off. -/
def convertsToFloat : Json → Except Fault Bool
  | .int n => if (ofInt? n).isSome then .ok true else .error (.broken .tooLarge)
  | .bool _ => .ok true
  | .float _ => .ok true
  | .str s => .ok (readFloat? s).isSome
  | _ => .ok false

def isWhole : Json → Bool
  | .int _ => true
  | .bool _ => true
  | _ => false

/-- The value suits a type given by its bare name. -/
def Primitive.admits (p : Primitive) (value : Json) : Except Fault Bool :=
  match p, value with
  | .null, .null => .ok true
  | .boolean, .bool _ => .ok true
  | .string, .str _ => .ok true
  | .bytes, .str _ => .ok true
  | .float, value => convertsToFloat value
  | .double, value => convertsToFloat value
  | .int, value => .ok (isWhole value)
  | .long, value => .ok (isWhole value)
  | _, _ => .ok false

/-- The value suits a type given as an object. -/
def Primitive.admitsStrictly (p : Primitive) (value : Json) : Bool :=
  match p, value with
  | .null, .null => true
  | .boolean, .bool _ => true
  | .string, .str _ => true
  | .bytes, .str _ => true
  | .float, .float _ => true
  | .double, .float _ => true
  | .int, value => isWhole value
  | .long, value => isWhole value
  | _, _ => false

/-- What a checked schema is to the default of a union around it. -/
inductive Branch where
  | primitive (p : Primitive)
  /-- A reference or a declaration, which takes any default. -/
  | other
deriving DecidableEq

/-- The value suits one of the branches; the first that it suits decides. -/
def admittedBySome (value : Json) : List Branch → Except Fault Bool
  | [] => .ok false
  | .other :: _ => .ok true
  | .primitive p :: rest => do
    if ← p.admits value then return true else admittedBySome value rest

def checkDefault (fallback : Option Json) (typeName : String) (test : Json → Bool) :
    Except Fault Unit :=
  match fallback with
  | none => .ok ()
  | some value => if test value then .ok () else reject (.unmatchedDefault value typeName)

end TopicTables.Avro
