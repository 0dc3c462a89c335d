import TopicTables.Avro.ColumnType
import TopicTables.Avro.Declared
import TopicTables.Json.Reader

/-! # From definitions to columns

The definition of a record becomes one column for each field, in the order of the fields. The
definition is checked first; then the fields are walked, and the first that cannot be a column
decides the failure.
-/

namespace TopicTables.Avro

/-- Why a definition has no columns. -/
inductive ColumnsError where
  /-- The definition is not in the one encoding that has columns. -/
  | unsupportedEncoding
  | invalid (cause : Invalidity)
  | notARecord
  | unrecognized (declaration : Json)
  | unmapped (kind : String)
  | duplicate (duplicate : DuplicateColumn)
  /-- The walk over the definition broke off. -/
  | broken (defect : Defect)
deriving DecidableEq

def ColumnsError.message : ColumnsError → String
  | unsupportedEncoding => "Only support avro schema."
  | invalid cause => "Invalid avro schema: " ++ cause.message
  | notARecord => "Avro schema must be a record at the top level."
  | unrecognized declaration => "Unrecognized avro type declaration: " ++ declaration.literal
  | unmapped kind => unmappedMessage kind
  | duplicate d => d.message
  | broken defect => defect.message

def Fault.toColumnsError : Fault → ColumnsError
  | .invalid cause => .invalid cause
  | .broken defect => .broken defect

/-- A checked record and the named types that its references may mean. -/
structure CheckedRecord where
  record : List (String × Json)
  types : NamedTypes
deriving DecidableEq

/-- Check a definition that has been read and see that it is a record. -/
def checkedRecord (definition : Json) : Except ColumnsError CheckedRecord := do
  let types ← (checkDefinition definition []).mapError Fault.toColumnsError
  match definition with
  | .obj record =>
    if record.lookup "type" = some (.str "record") then return ⟨record, types⟩
    else throw .notARecord
  | _ => throw .notARecord

def convert : Json → Except ColumnsError DataType
  | .arr items => .error (.broken (.notAKey (.arr items)))
  | .obj members => .error (.broken (.notAKey (.obj members)))
  | value =>
    match columnType? value.text with
    | some type => .ok type
    | none => .error (.unmapped value.text)

/-- The type of the column that a declaration stands for. -/
def fieldType (types : NamedTypes) (space declaration : Json) :
    Except ColumnsError DataType := do
  let d ← (declared types space declaration).mapError ColumnsError.unrecognized
  match columnType? d.kind with
  | some type => return if d.nullable then type.asNullable else type.asRequired
  | none => throw (.unmapped d.kind)

def fieldColumn (types : NamedTypes) (space : Json) : Json → Except ColumnsError Column
  | .obj field => do
    let dataType ← fieldType types space ((field.lookup "type").getD .null)
    match field.lookup "name" with
    | some name => return { name, dataType }
    | none => throw (.broken (.missingMember "name"))
  | value => .error (.broken (.notOffered value "get"))

def addField (types : NamedTypes) (space : Json) (columns : Columns) (field : Json) :
    Except ColumnsError Columns := do
  let column ← fieldColumn types space field
  (columns.add column).mapError ColumnsError.duplicate

def CheckedRecord.columns (r : CheckedRecord) : Except ColumnsError Columns :=
  let fields := (r.record.lookup "fields").getD (.arr [])
  match itemsOf? fields with
  | none => .error (.broken (.noItems fields))
  | some items => items.foldlM (addField r.types (recordSpace r.record)) []

/-- The columns of a definition that has been read. -/
def columnsOf (definition : Json) : Except ColumnsError Columns := do
  (← checkedRecord definition).columns

def unreadable : Json.Fault → ColumnsError
  | .tooDeep kind => .broken (.tooDeep kind)
  | fault => .invalid (.malformed fault)

/-- Read a definition, which has to be a text, with room for a number of levels. -/
def readDefinition (depth : Nat) : Json → Except ColumnsError Json
  | .str text => (Json.read depth text).mapError unreadable
  | value => .error (.invalid (.misused (.notText value)))

/-- The columns of a definition as the registry holds it. -/
def registeredColumns (depth : Nat) (definition : Json) : Except ColumnsError Columns := do
  columnsOf (← readDefinition depth definition)

end TopicTables.Avro
