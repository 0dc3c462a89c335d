import TopicTables.Table.Column

/-! # Builders

A builder collects the columns of a table, call by call. A call may be refused, and whoever makes it
may go on with the builder as it then is.
-/

namespace TopicTables

/-- Something done with a builder, which holds the columns that it has collected. -/
abbrev Building (α : Type) := EStateM DuplicateColumn Columns α

namespace Building

/-- Collect a column behind the others, unless its name is taken. -/
def column (name : Json) (dataType : DataType) : Building Unit := do
  match (← get).add ⟨name, dataType⟩ with
  | .ok columns => set columns
  | .error duplicate => throw duplicate

def build : Building Columns := get

/-- What has become of a call, and the columns that are collected behind it. -/
structure Turn where
  refusal : Option DuplicateColumn
  columns : Columns
deriving DecidableEq

/-- Make a call and go on in any case. -/
def turn (call : Column) : StateM Columns Turn := fun columns =>
  match (column call.name call.dataType).run columns with
  | .ok () behind => (⟨none, behind⟩, behind)
  | .error duplicate behind => (⟨some duplicate, behind⟩, behind)

def turns (calls : List Column) : StateM Columns (List Turn) :=
  calls.mapM turn

end Building

end TopicTables
