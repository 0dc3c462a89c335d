import TopicTables.Json.Basic

/-! # What a terminal is handed

Commands talk to the user through lines, spinners, tables and prompts. Lines, spinners and cells are
handed over as markup: names and messages stand in them as they are, and what brackets in these come
to is up to the console.
-/

namespace TopicTables

inductive Display where
  | line (text : String)
  /-- A spinner, while work goes on. -/
  | working (text : String)
  /-- The spinner is taken away. -/
  | workDone
  | table (title : String) (columns : List String) (rows : List (List String))
  | select (message : String) (choices : List String)
  /-- Choices with a title and the value behind it. -/
  | checkbox (message : String) (choices : List (String × String))
deriving DecidableEq, Repr

/-- What a user answers to a prompt. -/
inductive Answer where
  | cancelled
  | one (index : Nat)
  | several (indexes : List Nat)
deriving DecidableEq, Repr

namespace Display

def info (text : String) : Display := .line ("[title]›[/] " ++ text)

def success (text : String) : Display := .line ("[ok]✓[/] " ++ text)

def warning (text : String) : Display := .line ("[warn]⚠[/] " ++ text)

def error (text : String) : Display := .line ("[err]✗[/] " ++ text)

def header (title : String) : Display := .line ("[title]" ++ title ++ "[/]")

/-- A line for each key and its value. -/
def pairs (items : List (String × String)) : List Display :=
  items.map fun (key, value) => .line ("[meta]" ++ key ++ "[/]: " ++ value)

end Display

end TopicTables
