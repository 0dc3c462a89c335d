/-! # Marks of groups

Every group has two marks, for the place where it begins and the place where it ends. Marks are set
one by one: a group that is being matched once more has its new beginning and still its old end.
-/

namespace TopicTables.Pattern

/-- The marks up to the highest that has been set. The groups are numbered from one on; the first
two marks belong to the first group. -/
abbrev Marks := List (Option Nat)

namespace Marks

/-- Set a mark to a place. Marks that are skipped are left open. -/
def put (marks : Marks) (mark place : Nat) : Marks :=
  if mark < marks.length then marks.set mark (some place)
  else marks ++ List.replicate (mark - marks.length) none ++ [some place]

def start (marks : Marks) (number place : Nat) : Marks :=
  marks.put (2 * (number - 1)) place

def stop (marks : Marks) (number place : Nat) : Marks :=
  marks.put (2 * (number - 1) + 1) place

/-- The places between which a group has matched. -/
def span? (marks : Marks) (number : Nat) : Option (Nat × Nat) := do
  let first ← (← marks[2 * (number - 1)]?)
  let last ← (← marks[2 * (number - 1) + 1]?)
  if first ≤ last then some (first, last) else none

/-- The marks from which to go on after an attempt that failed. They are those from before the
attempt, or only as many as before it, with what the attempt has made of them. -/
def rewind (wholly : Bool) (before after : Marks) : Marks :=
  if wholly then before else after.take before.length

/-- A group ends before it begins. -/
def isCrossed : Marks → Bool
  | some first :: some last :: rest => last < first || isCrossed rest
  | _ :: _ :: rest => isCrossed rest
  | _ => false

theorem length_put (marks : Marks) (mark place : Nat) :
    (marks.put mark place).length = max marks.length (mark + 1) := by
  unfold put
  split <;> simp <;> omega

theorem getElem?_put (marks : Marks) (mark place : Nat) :
    (marks.put mark place)[mark]? = some (some place) := by
  unfold put
  split
  · next h => exact List.getElem?_set_self h
  · rw [List.append_assoc, List.getElem?_append_right (by omega),
      List.getElem?_append_right (by simp)]
    simp

end Marks

end TopicTables.Pattern
