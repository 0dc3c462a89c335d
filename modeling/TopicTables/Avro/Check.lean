import TopicTables.Avro.Decimal
import TopicTables.Avro.Default
import TopicTables.Avro.Form
import TopicTables.Avro.Name
import TopicTables.Avro.Symbols

/-! # Checking schemas

A schema is checked in one walk, depth first, that collects the named types on its way: a reference
is good only behind the declaration it means, and a full name is declared once. The walk carries the
namespace it is in and, for the type of a field, the default of that field.
-/

namespace TopicTables.Avro

abbrev NamedTypes := List (String × Json)

/-- What a walk has met so far. -/
structure Scope where
  /-- Full names declared in this walk. -/
  declared : List String
  /-- All named types that references may mean. -/
  types : NamedTypes

abbrev Check (α : Type) := StateT Scope (Except Fault) α

def declare (name : String) : Check Unit := fun scope =>
  if scope.declared.contains name then reject (.redefined name)
  else .ok ((), { scope with declared := name :: scope.declared })

def register (name kind : String) : Check Unit := fun scope =>
  .ok ((), { scope with types := Json.setMember name (.obj [("type", .str kind)]) scope.types })

def refer (space : Json) (name : String) : Check Branch := fun scope => do
  let fullName ← referent space name
  if (scope.types.lookup fullName).isSome then return (.other, scope)
  else throw (.invalid (.unknownType fullName))

def isObject : Json → Bool
  | .obj _ => true
  | _ => false

def isList : Json → Bool
  | .arr _ => true
  | _ => false

def isText : Json → Bool
  | .str _ => true
  | _ => false

/-- Check what surrounds the type of a field: the field is an object with a name and a type, and its
aliases are a list. -/
def checkFieldShape (field : List (String × Json)) : Except Fault Unit :=
  match field.lookup "name" with
  | none => reject (.fieldWithoutName (.obj field))
  | some name =>
    if (field.lookup "type").isNone then reject (.fieldWithoutType name)
    else
      match field.lookup "aliases" with
      | none => .ok ()
      | some (.arr _) => .ok ()
      | some value => reject (.aliasesNotList value)

/-- Declare the type that the members of an object name. -/
def declareNamed (space : Json) (members : List (String × Json)) : Check Declaration := do
  let d ← declaration space members
  declare d.fullName
  return d

/-- Check the members of an object whose type has a form, given how to check the schema under a key
and how to check the fields inside a namespace. A record is known in its own fields. -/
def checkForm (space : Json) (fallback : Option Json) (members : List (String × Json))
    (checkUnder : String → Check Unit) (checkFieldsIn : Json → Check Unit) : Form → Check Unit
  | .primitive p => checkDefault fallback p.name p.admitsStrictly
  | .array => do
    checkUnder "items"
    checkDefault fallback "array" isList
  | .map => do
    checkUnder "values"
    checkDefault fallback "map" isObject
  | .enum => do
    let d ← declareNamed space members
    checkSymbols members
    checkDefault fallback "enum" isText
    register d.fullName "enum"
  | .fixed => do
    let d ← declareNamed space members
    checkDefault fallback "fixed" isText
    register d.fullName "fixed"
    if (members.lookup "size").isNone then throw (.broken (.missingMember "size"))
  | .record => do
    let d ← declareNamed space members
    checkDefault fallback "record" isObject
    register d.fullName "record"
    checkFieldsIn d.inner
  | .error => do
    let d ← declareNamed space members
    checkDefault fallback "error" isObject
    register d.fullName "error"
    checkFieldsIn d.inner

mutual

def checkSchema (space : Json) (fallback : Option Json) (schema : Json) : Check Branch :=
  match schema with
  | .arr branches => do
    let kinds ← checkBranches space branches
    match fallback with
    | none => return .other
    | some value =>
      if ← admittedBySome value kinds then return .other
      else reject (.unmatchedUnionDefault value branches)
  | .obj members =>
    match members.lookup "type" with
    | none => throw (.broken (.missingMember "type"))
    | some type => do
      checkDecimal type members
      match type with
      | .arr items => misuse (.notAKey (.arr items))
      | .obj inner => misuse (.notAKey (.obj inner))
      | .str word =>
        match Form.ofWord? word with
        | some form =>
          checkForm space fallback members (fun key => checkMember space none key members)
            (fun inner => checkFieldsMember inner members) form
          return .other
        | none => throw (.invalid (.unknownType (Json.literal (.obj members))))
      | _ => throw (.invalid (.unknownType (Json.literal (.obj members))))
  | .str name =>
    match Primitive.ofName? name, fallback with
    | some p, none => return .primitive p
    | some p, some value => do
      if ← p.admits value then return .primitive p else reject (.unmatchedDefault value name)
    | none, _ => refer space name
  | other => misuse (.noMembership other)
termination_by structural schema

def checkBranches (space : Json) (branches : List Json) : Check (List Branch) :=
  match branches with
  | [] => return []
  | branch :: rest => do
    let kind ← checkSchema space none branch
    return kind :: (← checkBranches space rest)
termination_by structural branches

def checkMember (space : Json) (fallback : Option Json) (key : String)
    (members : List (String × Json)) : Check Unit :=
  match members with
  | [] => throw (.broken (.missingMember key))
  | (k, value) :: rest =>
    if k == key then do
      let _ ← checkSchema space fallback value
    else checkMember space fallback key rest
termination_by structural members

def checkFieldsMember (space : Json) (members : List (String × Json)) : Check Unit :=
  match members with
  | [] => return ()
  | (k, value) :: rest =>
    if k == "fields" then checkFieldsValue space value else checkFieldsMember space rest
termination_by structural members

/-- Check the fields that a value offers: characters and keys are no fields. -/
def checkFieldsValue (space : Json) (value : Json) : Check Unit :=
  match value with
  | .arr fields => checkFields space fields
  | value =>
    match itemsOf? value with
    | none => misuse (.noItems value)
    | some [] => return ()
    | some (item :: _) => reject (.fieldNotObject item)
termination_by structural value

def checkFields (space : Json) (fields : List Json) : Check Unit :=
  match fields with
  | [] => return ()
  | field :: rest => do
    checkField space field
    checkFields space rest
termination_by structural fields

def checkField (space : Json) (field : Json) : Check Unit :=
  match field with
  | .obj members => do
    checkFieldShape members
    checkMember space (members.lookup "default") "type" members
  | value => reject (.fieldNotObject value)
termination_by structural field

end

/-- The members by which a definition says that it was checked before, and which types it brings. -/
def checkedMark : String := "__fastavro_parsed"

def broughtTypes : String := "__named_schemas"

/-- Check a schema on its own: outside all namespaces and with nothing declared. -/
def checkAlone (schema : Json) (types : NamedTypes) : Except Fault NamedTypes :=
  (checkSchema (.str "") none schema ⟨[], types⟩).map fun (_, scope) => scope.types

def addTypes (types brought : NamedTypes) : NamedTypes :=
  brought.foldl (fun known m => Json.setMember m.1 m.2 known) types

/-- Check an object: one that says that it was checked before is not walked, and brings its types.
-/
def checkTopObject (members : List (String × Json)) (types : NamedTypes) :
    Except Fault NamedTypes :=
  match members.lookup checkedMark, members.lookup broughtTypes with
  | some _, some (.obj brought) => .ok (addTypes types brought)
  | some _, some other => .error (.broken (.notOffered other "items"))
  | _, _ => checkAlone (.obj members) types

mutual

/-- Check a definition: each schema of a list on its own, with the named types of those before. -/
def checkDefinition : Json → NamedTypes → Except Fault NamedTypes
  | .arr schemas, types => checkDefinitions schemas types
  | .obj members, types => checkTopObject members types
  | other, types => checkAlone other types

def checkDefinitions : List Json → NamedTypes → Except Fault NamedTypes
  | [], types => .ok types
  | schema :: rest, types => do checkDefinitions rest (← checkDefinition schema types)

end

end TopicTables.Avro
