import TopicTables.Service.Failure
import TopicTables.Text.Capitals

/-! # Schemas as a registry hands them out -/

namespace TopicTables

inductive Encoding where
  | avro
  | json
  | protobuf
deriving DecidableEq, Repr

namespace Encoding

def word : Encoding → String
  | avro => "AVRO"
  | json => "JSON"
  | protobuf => "PROTOBUF"

/-- The encoding that a word stands for, letter by letter. -/
def ofWord? (s : String) : Option Encoding :=
  [avro, json, protobuf].find? fun encoding => encoding.word == s

/-- The encoding that a registry names exactly; a value that counts as false means Avro. -/
def ofExact (value : Json) : Except ServiceFailure Encoding :=
  if !value.isTruthy then .ok avro
  else
    match value.string?.bind ofWord? with
    | some encoding => .ok encoding
    | none => .error (.unknownEncoding value)

/-- The encoding that a registry names in any case; a value that counts as false means Avro. -/
def ofAnyCase (value : Json) : Except ServiceFailure Encoding :=
  if !value.isTruthy then .ok avro
  else
    let capitals := Text.upperCase value.text
    match ofWord? capitals with
    | some encoding => .ok encoding
    | none => .error (.unknownEncoding (.str capitals))

end Encoding

/-- The latest schema of a subject. The definition and the numbers are kept as the registry sent
them. -/
structure Descriptor where
  subject : String
  encoding : Encoding
  definition : Json
  schemaId : Json := .null
  version : Json := .null
deriving DecidableEq

end TopicTables
