import TopicTables.Catalog.Batch
import TopicTables.Terminal.Display

/-! # Reports

Tables that report databases, topics, columns and the outcome of a batch. Their cells are markup.
Names and errors stand in them as they are, and what comes of them is up to the console.
-/

namespace TopicTables.Report

def databases (names : List String) : Display :=
  .table "Databases" ["Database"] (names.map ([·]))

def topics (names : List String) : Display :=
  .table "Topics" ["Topic"] (names.map ([·]))

/-- The cell for a column name: a text is handed over as it is and null is an empty cell. -/
def nameCell : Json → Except Json String
  | .str name => .ok name
  | .null => .ok ""
  | other => .error other

def columnRow (number : Nat) (column : Column) : Except Json (List String) := do
  return [toString number, ← nameCell column.name, column.dataType.text]

/-- The columns of a table, numbered from one on; the first name that fits in no cell is handed
back. -/
def columns (table : Table) : Except Json Display := do
  let rows ← table.columns.zipIdx.mapM fun (column, place) => columnRow (place + 1) column
  return .table "Columns" ["#", "Column", "Type"] rows

def unshowableMessage (cell : Json) : String :=
  "unable to render " ++ cell.kindName ++ "; a string or other renderable object is required"

/-- A line of the outcome of a batch: the name, the number of columns and the error, as far as they
are there. -/
structure ResultLine where
  name : String
  columnCount : Option Nat
  error : Option String
deriving DecidableEq, Repr

def ResultLine.ofResolution (resolution : Resolution) : ResultLine where
  name := resolution.name
  columnCount := match resolution.result with
    | .ok table => some table.columns.length
    | .error _ => none
  error := match resolution.result with
    | .ok _ => none
    | .error text => some text

def resultRow (line : ResultLine) : List String :=
  [line.name,
    match line.columnCount with
    | some count => toString count
    | none => "-",
    match line.error with
    | none => "[ok]OK[/]"
    | some text => "[err]FAIL[/] " ++ text]

/-- The outcome of a batch. -/
def results (title : String) (lines : List ResultLine) : Display :=
  .table title ["Topic", "Columns", "Result"] (lines.map resultRow)

def resultsTitle : String := "Resolved topics"

end TopicTables.Report
