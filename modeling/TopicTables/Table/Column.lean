import TopicTables.Json.Literal
import TopicTables.Json.Same

/-! # Columns

A column is named by whatever value its source gave as the name. A list of columns grows at its end
and refuses a column whose name is the same as one it holds.
-/

namespace TopicTables

structure DataType where
  typeName : String
  nullable : Bool := true
deriving DecidableEq, Repr, Inhabited

def DataType.asRequired (t : DataType) : DataType :=
  { t with nullable := false }

def DataType.asNullable (t : DataType) : DataType :=
  { t with nullable := true }

/-- The text of a type: a type without null says so. -/
def DataType.text (t : DataType) : String :=
  if t.nullable then t.typeName else t.typeName ++ " NOT NULL"

structure Column where
  name : Json
  dataType : DataType
deriving DecidableEq, Inhabited

abbrev Columns := List Column

/-- A column name that is already taken. -/
structure DuplicateColumn where
  name : Json
deriving DecidableEq

def DuplicateColumn.message (e : DuplicateColumn) : String :=
  "Column '" ++ e.name.text ++ "' is defined more than once."

def Columns.hasName (columns : Columns) (name : Json) : Bool :=
  columns.any fun column => column.name.same name

/-- Add a column at the end, unless its name is taken. -/
def Columns.add (columns : Columns) (column : Column) : Except DuplicateColumn Columns :=
  if columns.hasName column.name then .error ⟨column.name⟩ else .ok (columns ++ [column])

theorem Columns.add_of_new {columns : Columns} {column : Column}
    (h : columns.hasName column.name = false) : columns.add column = .ok (columns ++ [column]) := by
  simp [Columns.add, h]

theorem Columns.add_of_taken {columns : Columns} {column : Column}
    (h : columns.hasName column.name = true) : columns.add column = .error ⟨column.name⟩ := by
  simp [Columns.add, h]

end TopicTables
