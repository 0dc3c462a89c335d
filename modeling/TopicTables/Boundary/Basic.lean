import TopicTables.Json.Literal
import TopicTables.Table.Basic
import TopicTables.Table.Path

/-! # The boundary of a read-only catalog

A catalog shows what is there and changes nothing. The operations it supports and those it refuses
are listed here, each refused one with the way in which it is refused.
-/

namespace TopicTables

/-- How a refused operation answers. -/
inductive Refusal where
  | unsupported
  | functionNotFound
  | unknownTableStatistics
  | unknownColumnStatistics
deriving DecidableEq, Repr

def Refusal.word : Refusal → String
  | unsupported => "UNSUPPORTED"
  | functionNotFound => "FUNCTION_NOT_FOUND"
  | unknownTableStatistics => "UNKNOWN_TABLE_STATISTICS"
  | unknownColumnStatistics => "UNKNOWN_COLUMN_STATISTICS"

def Refusal.description (refusal : Refusal) : String :=
  "Refused operation (" ++ refusal.word ++ ")."

namespace Boundary

def supported : List String :=
  ["close", "database_exists", "get_database", "get_table", "list_databases", "list_tables", "open",
    "table_exists"]

/-- The refused operations: on databases, on tables and views, on functions, on partitions and on
statistics. -/
def refused : List (String × Refusal) :=
  [("create_database", .unsupported),
    ("drop_database", .unsupported),
    ("alter_database", .unsupported),
    ("list_views", .unsupported),
    ("create_table", .unsupported),
    ("drop_table", .unsupported),
    ("alter_table", .unsupported),
    ("rename_table", .unsupported),
    ("list_functions", .unsupported),
    ("get_function", .functionNotFound),
    ("function_exists", .unsupported),
    ("create_function", .unsupported),
    ("alter_function", .unsupported),
    ("drop_function", .unsupported),
    ("list_partitions", .unsupported),
    ("list_partitions_by_filter", .unsupported),
    ("get_partition", .unsupported),
    ("partition_exists", .unsupported),
    ("create_partition", .unsupported),
    ("drop_partition", .unsupported),
    ("alter_partition", .unsupported),
    ("get_table_statistics", .unknownTableStatistics),
    ("get_table_column_statistics", .unknownColumnStatistics),
    ("get_partition_statistics", .unknownTableStatistics),
    ("get_partition_column_statistics", .unknownColumnStatistics),
    ("alter_table_statistics", .unsupported),
    ("alter_table_column_statistics", .unsupported),
    ("alter_partition_statistics", .unsupported),
    ("alter_partition_column_statistics", .unsupported)]

/-- No operation is both supported and refused. -/
theorem supported_disjoint_refused : ∀ name ∈ supported, name ∉ refused.map (·.1) := by
  decide

/-- Every refused operation is listed once. -/
theorem refused_nodup : (refused.map (·.1)).Nodup := by
  decide

end Boundary

inductive Argument where
  | path (path : Path)
  | value (value : Json)
deriving DecidableEq

def Argument.text : Argument → String
  | path p => p.fullName
  | value v => v.text

/-- What a refused operation answers when it answers at all. -/
inductive Sentinel where
  | tableStatistics (statistics : TableStatistics)
  | columnStatistics (statistics : ColumnStatistics)
deriving DecidableEq, Repr

/-- The ends of a refused operation on a catalog that is called by a name. -/
inductive RefusedEnd (Name : Type) where
  | answer (sentinel : Sentinel)
  | unsupported (operation : String) (catalog : Name)
  | functionNotFound (catalog : Name) (reference : Argument)
  /-- A function is asked for without saying which. -/
  | noReference
deriving DecidableEq

/-- How an operation ends that is refused in some way, given its arguments. The name of the catalog is
looked up where the end tells it, and nowhere else. -/
def Refusal.finish {Name : Type} {m : Type → Type} [Monad m] (refusal : Refusal)
    (operation : String) (name : m Name) (arguments : List Argument) : m (RefusedEnd Name) :=
  match refusal, arguments with
  | unsupported, _ => return .unsupported operation (← name)
  | functionNotFound, reference :: _ => return .functionNotFound (← name) reference
  | functionNotFound, [] => return .noReference
  | unknownTableStatistics, _ => return .answer (.tableStatistics .unknown)
  | unknownColumnStatistics, _ => return .answer (.columnStatistics .unknown)

end TopicTables
