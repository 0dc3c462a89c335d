import TopicTables.Avro.Form
import TopicTables.Table.Column

/-! # Column types of schema kinds

Kinds of values that fit into one cell have a column type. Records, collections and unions have
none.
-/

namespace TopicTables.Avro

/-- The column types by kind, in the order of the kinds. -/
def columnTypes : List (String × String) :=
  [("boolean", "BOOLEAN"), ("bytes", "BYTES"), ("double", "DOUBLE"), ("enum", "STRING"),
    ("fixed", "BYTES"), ("float", "FLOAT"), ("int", "INT"), ("long", "BIGINT"), ("null", "NULL"),
    ("string", "STRING")]

def columnType? (kind : String) : Option DataType :=
  (columnTypes.lookup kind).map fun typeName => { typeName }

def unmappedMessage (kind : String) : String :=
  "Unsupported avro type '" ++ kind ++ "'; supported types: " ++
    ", ".intercalate (columnTypes.map (·.1)) ++ "."

end TopicTables.Avro
