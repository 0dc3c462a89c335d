import TopicTables.Table.Column

/-! # Tables, databases and statistics -/

namespace TopicTables

/-- A resolved table: its columns and how a connector reaches its rows. -/
structure Table where
  columns : Columns
  options : List (String × String)
  partitionKeys : List String := []
  comment : Option String := none
deriving DecidableEq, Inhabited

structure Database where
  name : String
  properties : List (String × String) := []
  comment : Option String := none
deriving DecidableEq, Repr, Inhabited

/-- Sizes of a table; minus one stands for an unknown size. -/
structure TableStatistics where
  rowCount : Int
  fileCount : Int
  totalSize : Int
  rawDataSize : Int
deriving DecidableEq, Repr

structure ColumnStatistics where
  byName : List (String × String)
deriving DecidableEq, Repr

/-- Nothing is known of the table. -/
def TableStatistics.unknown : TableStatistics := ⟨-1, -1, -1, -1⟩

def ColumnStatistics.unknown : ColumnStatistics := ⟨[]⟩

end TopicTables
