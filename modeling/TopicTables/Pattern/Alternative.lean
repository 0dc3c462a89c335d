import TopicTables.Pattern.Repetition
import TopicTables.Pattern.Set

/-! # Alternatives of patterns

What all alternatives begin with is matched once, before the choice among them. A choice among
single characters and sets is one set.
-/

namespace TopicTables.Pattern

/-- The patterns are the same and made of no others. -/
def Node.isSameLeaf : Node → Node → Bool
  | .char a f, .char b g => a == b && f == g
  | .otherThan a f, .otherThan b g => a == b && f == g
  | .any a, .any b => a == b
  | .set m a f, .set n b g => m == n && a == b && f == g
  | .anchor a, .anchor b => a == b
  | .reference a f, .reference b g => a == b && f == g
  | _, _ => false

/-- Split off the patterns that an alternative and all others begin with. -/
def splitCommon : List Node → List (List Node) → List Node × List (List Node)
  | [], others => ([], [] :: others)
  | node :: rest, others =>
    if others.all fun other => other.head?.any node.isSameLeaf then
      let (common, alternatives) := splitCommon rest (others.map List.tail)
      (node :: common, alternatives)
    else ([], (node :: rest) :: others)

/-- The items of an alternative that is a single character or set. -/
def setItems? : List Node → Option (List SetItem)
  | [.char code _] => some [.char code]
  | [.set false items _] => some items
  | _ => none

def choiceOf : List (List Node) → Node
  | [] => .empty
  | [nodes] => sequence nodes
  | nodes :: rest => .choice (sequence nodes) (choiceOf rest)

/-- The patterns that stand for alternatives. -/
def alternatives (folding : Text.Folding) : List (List Node) → List Node
  | [] => []
  | [nodes] => nodes
  | first :: others =>
    let (common, rests) := splitCommon first others
    match rests.mapM setItems? with
    | some items => common ++ [.set false items.flatten.eraseDups folding]
    | none => common ++ [choiceOf rests]

end TopicTables.Pattern
