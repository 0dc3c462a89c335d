import TopicTables.Pattern.Character
import TopicTables.Pattern.Step

/-! # Matching patterns

A pattern is matched at a place of a text as the step that it stands for. It is found in a text if
it matches at one of the places.
-/

namespace TopicTables.Pattern

/-- The number of characters in a row from a place on that pass a test, counted up to a bound. -/
def runLength (text : Array Char) (test : Char → Bool) : Nat → Nat → Nat
  | 0, _ => 0
  | bound + 1, place =>
    if (text[place]?).any test then runLength text test bound (place + 1) + 1 else 0

/-- Match a pattern at a place. Within a repetition, `wholly` says, marks are reset after failures.
-/
def Node.matchAt (text : Array Char) (wholly : Bool) : Node → Step
  | .empty => fun place marks rest => rest place marks
  | .anchor wanted => fun place marks rest =>
    if wanted.holds text place then rest place marks else .failed marks
  | .seq a b => (a.matchAt text wholly).andThen (b.matchAt text wholly)
  | .choice a b => (a.matchAt text wholly).orElse wholly (b.matchAt text wholly)
  | .repeated least most preference body => fun place marks rest =>
    let room := text.size + 1
    let more := min ((most.map (· - least)).getD room) room
    match body.test? with
    | some test =>
      Step.repeatedCharacter wholly preference (runLength text test (least + more) place) least
        more place marks rest
    | none =>
      let inside := preference != .mostOnly || wholly
      (body.matchAt text inside).repeated wholly preference least more place marks rest
  | .group none body => body.matchAt text wholly
  | .group (some number) body => fun place marks rest =>
    body.matchAt text wholly place (marks.start number place) fun next marks =>
      rest next (marks.stop number next)
  | .atomic body => fun place marks rest =>
    match (body.matchAt text wholly).alone place marks with
    | .found next marks => rest next marks
    | .failed after => .failed after
  | .ahead negated body => fun place marks rest =>
    match (body.matchAt text wholly).alone place marks with
    | .found _ found => if negated then .failed found else rest place found
    | .failed after => if negated then rest place (marks.rewind wholly after) else .failed after
  | .behind negated width body => fun place marks rest =>
    if place < width.least then (if negated then rest place marks else .failed marks)
    else
      match (body.matchAt text wholly).alone (place - width.least) marks with
      | .found _ found => if negated then .failed found else rest place found
      | .failed after =>
        if negated then rest place (marks.rewind wholly after) else .failed after
  | .reference number folding => fun place marks rest =>
    match marks.span? number with
    | some (start, stop) =>
      if sameText folding text start stop place then rest (place + (stop - start)) marks
      else .failed marks
    | none => .failed marks
  | .conditional number yes no => fun place marks rest =>
    if (marks.span? number).isSome then yes.matchAt text wholly place marks rest
    else no.matchAt text wholly place marks rest
  | .char code folding => character fun c => folding.same code (Text.codeOf c)
  | .otherThan code folding => character fun c => !folding.same code (Text.codeOf c)
  | .any breaksToo => character fun c => breaksToo || c != '\n'
  | .set negated items folding => character (inSet negated items folding)
where
  /-- Match a character that passes a test. -/
  character (test : Char → Bool) : Step := fun place marks rest =>
    if (text[place]?).any test then rest (place + 1) marks else .failed marks

def Expression.mayBeginAt (e : Expression) (c : Option Char) : Bool :=
  match e.beginning with
  | some set => c.any (inSet set.negated set.items .exact)
  | none => true

/-- What comes of looking for a pattern in a text. -/
inductive Finding where
  | present
  | absent
  /-- It has been found, but with a group that ends before it begins. -/
  | crossed
deriving DecidableEq, Repr

def crossedMessage : String :=
  "The span of capturing group is wrong, please report a bug for the re module."

/-- Look for a pattern at a place of a text. -/
def Expression.findAt? (e : Expression) (text : Array Char) (place : Nat) : Option Finding :=
  if e.mayBeginAt text[place]? then
    match (e.body.matchAt text false).alone place [] with
    | .found _ marks => some (if marks.isCrossed then .crossed else .present)
    | .failed _ => none
  else none

/-- Look for a pattern in a text, place by place. -/
def Expression.find (e : Expression) (s : String) : Finding :=
  let text := s.toList.toArray
  ((List.range (text.size + 1)).findSome? (e.findAt? text)).getD .absent

end TopicTables.Pattern
