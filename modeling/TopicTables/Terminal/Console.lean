import TopicTables.Terminal.Display

/-! # Consoles

A console reads what it is handed as markup and shows what comes of that. Where it cannot read or
show it, it raises: a closing tag may stand in a name without its opening one, or the terminal may
have no way to write a character. Whether it does may depend on what it was handed before. Prompts
are no business of the console.
-/

namespace TopicTables

structure ConsoleFault where
  kind : String
  text : String
deriving DecidableEq, Repr

structure Console where
  /-- What is raised when something is handed over behind other things. -/
  raises : List Display → Display → Option ConsoleFault

namespace Console

/-- A console that shows whatever it is handed. -/
def showingAll : Console where
  raises _ _ := none

/-- What keeps a display from being shown, if anything does. -/
def fault? (console : Console) (before : List Display) : Display → Option ConsoleFault
  | .select _ _ => none
  | .checkbox _ _ => none
  | display => console.raises before display

end Console

end TopicTables
