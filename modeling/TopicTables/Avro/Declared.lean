import TopicTables.Avro.Check

/-! # Declared kinds

The type that a field declares comes down to one word and to whether null is allowed: the
declaration is unwrapped from objects, a union of null and one other branch stands for that branch
with null, and a reference stands for the kind of the type it names.
-/

namespace TopicTables.Avro

structure Declared where
  kind : String
  nullable : Bool
deriving DecidableEq, Repr

/-- The namespace of a record: the front of a name with a point, or else the one that it gives. -/
def recordSpace (record : List (String × Json)) : Json :=
  let name := (record.lookup "name").getD .null
  let nameText := if name.isTruthy then name.text else ""
  if hasPoint nameText then .str (beforeLastPoint nameText)
  else (record.lookup "namespace").getD .null

/-- The type that a name means: first the name as it stands, then the name behind the namespace. -/
def namedType? (types : NamedTypes) (space : Json) (name : String) : Option Json :=
  match types.lookup name with
  | some type => some type
  | none => if space.isTruthy then types.lookup (qualify space.text name) else none

def namedKind? (types : NamedTypes) (space : Json) (name : String) : Option String :=
  match namedType? types space name with
  | some (.obj members) => some ((members.lookup "type").getD .null).text
  | _ => none

def isNullWord (branch : Json) : Bool :=
  decide (branch = .str "null")

mutual

/-- What a declaration comes down to; a value that declares nothing is handed back. -/
def declared (types : NamedTypes) (space : Json) (declaration : Json) : Except Json Declared :=
  match declaration with
  | .arr [a, b] =>
    if isNullWord a && !isNullWord b then
      (declared types space b).map fun d => { d with nullable := true }
    else if isNullWord b && !isNullWord a then
      (declared types space a).map fun d => { d with nullable := true }
    else .ok ⟨"union", false⟩
  | .arr _ => .ok ⟨"union", false⟩
  | .obj members => declaredMember types space members
  | .str name =>
    match namedKind? types space name with
    | some kind => .ok ⟨kind, false⟩
    | none => .ok ⟨name, name == "null"⟩
  | other => .error other
termination_by structural declaration

def declaredMember (types : NamedTypes) (space : Json) (members : List (String × Json)) :
    Except Json Declared :=
  match members with
  | [] => .error .null
  | (key, value) :: rest =>
    if key == "type" then declared types space value else declaredMember types space rest
termination_by structural members

end

end TopicTables.Avro
