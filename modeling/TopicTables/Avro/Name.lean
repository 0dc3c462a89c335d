import TopicTables.Avro.Fault

/-! # Names of declared types

A declared type has a full name. A name with a point is full already, and what stands before its
last point is the namespace of what it encloses. Any other name is put behind the namespace that the
declaration gives, or else behind the enclosing one.
-/

namespace TopicTables.Avro

def beforeLastPoint (s : String) : String :=
  String.ofList (((s.toList.reverse.dropWhile (· != '.')).drop 1).reverse)

def hasPoint (s : String) : Bool :=
  s.toList.contains '.'

def qualify (space : String) (name : String) : String :=
  space ++ "." ++ name

/-- A declared type: its full name and the namespace of what it encloses. -/
structure Declaration where
  fullName : String
  inner : Json
deriving DecidableEq

def givenSpace (space : Json) (members : List (String × Json)) : Json :=
  (members.lookup "namespace").getD space

/-- The declaration that the members of an object make inside a namespace. A name that is a
collection and holds no point can only be used behind a namespace. -/
def declaration (space : Json) (members : List (String × Json)) : Except Fault Declaration :=
  let given := givenSpace space members
  match members.lookup "name" with
  | none => reject (.missingName (.obj members))
  | some (.str name) =>
    if hasPoint name then .ok ⟨name, .str (beforeLastPoint name)⟩
    else if given.isTruthy then .ok ⟨qualify given.text name, given⟩
    else .ok ⟨name, .str ""⟩
  | some (.arr items) =>
    if items.contains (.str ".") then .error (.broken (.notOffered (.arr items) "rsplit"))
    else if given.isTruthy then .ok ⟨qualify given.text (Json.literal (.arr items)), given⟩
    else misuse (.notAKey (.arr items))
  | some (.obj inner) =>
    if (inner.lookup ".").isSome then .error (.broken (.notOffered (.obj inner) "rsplit"))
    else if given.isTruthy then .ok ⟨qualify given.text (Json.literal (.obj inner)), given⟩
    else misuse (.notAKey (.obj inner))
  | some name => misuse (.noMembership name)

/-- The full name that a reference means inside a namespace. -/
def referent (space : Json) (name : String) : Except Fault String :=
  if hasPoint name || !space.isTruthy then .ok name
  else
    match space with
    | .str s => .ok (qualify s name)
    | space => misuse (.notJoined space)

end TopicTables.Avro
