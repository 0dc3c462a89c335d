import TopicTables.Terminal.Display
import TopicTables.Text.Padding

/-! # Picking topics

Topics are offered with their number behind the name. Long names are cut, and the numbers stand
below each other; behind every choice is the whole name.
-/

namespace TopicTables.Picker
open Text

/-- The number of characters that a name is cut to. -/
def maxNameWidth : Nat := 96

/-- The characters before an end; a negative end counts from the end of the text. -/
def upTo (cs : List Char) (stop : Int) : List Char :=
  if 0 ≤ stop then cs.take stop.toNat else cs.take (cs.length - stop.natAbs)

/-- Cut a text to a number of characters, with three dots for what is missing where they fit. -/
def truncate (text : String) (maxLength : Int) : String :=
  let cs := text.toList
  if maxLength ≤ 3 || cs.length ≤ maxLength then String.ofList (upTo cs maxLength)
  else String.ofList (cs.take (maxLength - 3).toNat) ++ "..."

/-- The title of a topic with its number, for names of some width. -/
def choiceTitle (topic : String) (index nameWidth : Int) : String :=
  let name := (truncate topic maxNameWidth).toList
  String.ofList (padRight ' ' nameWidth.toNat name) ++ "  (#" ++ toString index ++ ")"

/-- The width of the longest name as it is shown. -/
def commonWidth (topics : List String) : Nat :=
  topics.foldl (fun width topic => max width (truncate topic maxNameWidth).length) 0

/-- The choices for topics, numbered from one on. -/
def choices (topics : List String) : List (String × String) :=
  let width := commonWidth topics
  topics.zipIdx.map fun (topic, place) => (choiceTitle topic (place + 1) width, topic)

def prompt (topics : List String) : Display :=
  .checkbox "Select topics:" (choices topics)

/-- The topics that an answer picks, in the order of the answer. -/
def picked (topics : List String) : Answer → List String
  | .several indexes => indexes.filterMap fun index => topics[index]?
  | _ => []

/-- The choice that an answer picks. -/
def pickedOne? (choices : List String) : Answer → Option String
  | .one index => choices[index]?
  | _ => none

end TopicTables.Picker
