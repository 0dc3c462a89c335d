import TopicTables.Pattern.Basic
import TopicTables.Pattern.Marks

/-! # Steps of matching

A step tries the possibilities of something in order of preference. What comes after it is handed to
it as a continuation: a possibility counts only if the rest goes through as well. An attempt that
failed leaves its marks to the next one. Within a repetition the next attempt starts from the marks
of before; elsewhere it only drops the marks that are new.
-/

namespace TopicTables.Pattern

/-- How matching ends: at a place, or nowhere; in either case with some marks. -/
inductive Outcome where
  | found (place : Nat) (marks : Marks)
  | failed (marks : Marks)
deriving DecidableEq, Repr

/-- What has to match after something. -/
abbrev Rest := Nat → Marks → Outcome

/-- A way of matching something at a place. -/
abbrev Step := Nat → Marks → Rest → Outcome

namespace Step

/-- The first way of matching, with nothing after it. -/
def alone (step : Step) (place : Nat) (marks : Marks) : Outcome :=
  step place marks .found

def andThen (first second : Step) : Step := fun place marks rest =>
  first place marks fun next marks => second next marks rest

def orElse (wholly : Bool) (first second : Step) : Step := fun place marks rest =>
  match first place marks rest with
  | .found stop found => .found stop found
  | .failed after =>
    match second place (marks.rewind wholly after) rest with
    | .found stop found => .found stop found
    | .failed after => .failed (marks.rewind wholly after)

def times (step : Step) : Nat → Step
  | 0, place, marks, rest => rest place marks
  | count + 1, place, marks, rest =>
    step place marks fun next marks => times step count next marks rest

/-- Match a step up to a number of times, the more often the better. No round begins where the round
before it began. -/
def most (step : Step) : Nat → Option Nat → Step
  | 0, _, place, marks, rest => rest place marks
  | bound + 1, last, place, marks, rest =>
    if last = some place then rest place marks
    else
      match step place marks fun next marks => most step bound (some place) next marks rest with
      | .found stop found => .found stop found
      | .failed _ => rest place marks

/-- Match a step up to a number of times, the less often the better. -/
def fewest (step : Step) (wholly : Bool) : Nat → Option Nat → Step
  | 0, _, place, marks, rest =>
    match rest place marks with
    | .found stop found => .found stop found
    | .failed after => .failed (marks.rewind wholly after)
  | bound + 1, last, place, marks, rest =>
    match rest place marks with
    | .found stop found => .found stop found
    | .failed after =>
      let marks := marks.rewind wholly after
      if last = some place then .failed marks
      else
        step place marks fun next marks => fewest step wholly bound (some place) next marks rest

/-- Match a step a fixed number of times, each time in the first way there is. -/
def timesOnly (step : Step) : Nat → Nat → Marks → Outcome
  | 0, place, marks => .found place marks
  | count + 1, place, marks =>
    match step.alone place marks with
    | .found next marks => timesOnly step count next marks
    | .failed after => .failed after

/-- Match a step up to a number of times, as often as possible and each time in the first way there
is. -/
def mostOnly (step : Step) : Nat → Option Nat → Nat → Marks → Nat × Marks
  | 0, _, place, marks => (place, marks)
  | bound + 1, last, place, marks =>
    if last = some place then (place, marks)
    else
      match step.alone place marks with
      | .found next marks => mostOnly step bound (some place) next marks
      | .failed _ => (place, marks)

/-- Repeat a step: `least` rounds, and up to `more` after them. -/
def repeated (step : Step) (wholly : Bool) (preference : Preference) (least more : Nat) : Step :=
  match preference with
  | .most => (step.times least).andThen (step.most more none)
  | .fewest => (step.times least).andThen (step.fewest wholly more none)
  | .mostOnly => fun place marks rest =>
    match step.timesOnly least place marks with
    | .found place marks =>
      let (place, marks) := step.mostOnly more none place marks
      rest place marks
    | .failed after => .failed after

/-- Go on at a place, or else at one of those before it, up to so many. -/
def backward (wholly : Bool) : Nat → Step
  | 0, place, marks, rest =>
    match rest place marks with
    | .found stop found => .found stop found
    | .failed after => .failed (marks.rewind wholly after)
  | more + 1, place, marks, rest =>
    match rest place marks with
    | .found stop found => .found stop found
    | .failed after => backward wholly more (place - 1) (marks.rewind wholly after) rest

/-- Go on at a place, or else at one of those after it, up to so many. -/
def forward (wholly : Bool) : Nat → Step
  | 0, place, marks, rest =>
    match rest place marks with
    | .found stop found => .found stop found
    | .failed after => .failed (marks.rewind wholly after)
  | more + 1, place, marks, rest =>
    match rest place marks with
    | .found stop found => .found stop found
    | .failed after => forward wholly more (place + 1) (marks.rewind wholly after) rest

/-- Repeat a step that takes one character and sets no marks: of the `run` characters that are
there, take `least`, and up to `more` after them. -/
def repeatedCharacter (wholly : Bool) (preference : Preference) (run least more : Nat) : Step :=
  fun place marks rest =>
    if run < least then .failed marks
    else
      let spare := min more (run - least)
      match preference with
      | .most => backward wholly spare (place + least + spare) marks rest
      | .fewest => forward wholly spare (place + least) marks rest
      | .mostOnly => rest (place + least + spare) marks

end Step

end TopicTables.Pattern
