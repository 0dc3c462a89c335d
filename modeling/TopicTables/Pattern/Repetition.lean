import TopicTables.Number.Numeral
import TopicTables.Pattern.Escape

/-! # Repetitions in patterns

A sign or a count behind an item says how many rounds of it to match.
-/

namespace TopicTables.Pattern

structure Count where
  least : Nat
  most : Option Nat

/-- Numbers of rounds or characters from this one on cannot be counted. -/
def tooMany : Nat := Nat.pow 2 32 - 1

def countOf (digits : List Char) : Read Nat := do
  if Number.maxDigits < digits.length then throw (.tooManyDigits digits.length)
  if tooMany ≤ valueOf 10 digits then throw .tooManyRounds
  return valueOf 10 digits

/-- Read the count of a repetition whose opening brace has been taken; no count leaves the brace as
a character. -/
def takeCount? : Read (Option Count) := do
  let before ← get
  if (← peek?) == some ['\x7d'] then return none
  let low ← takeWhile Char.isDigit (← remaining)
  let high ← if ← accept ',' then takeWhile Char.isDigit (← remaining) else pure low
  if !(← accept '\x7d') then
    set before
    return none
  let least ← countOf low
  let most ← countOf high
  if !high.isEmpty && most < least then
    refuse .leastAboveMost ((← offset) - before.offset)
  return some ⟨least, if high.isEmpty then none else some most⟩

/-- Read the count of a repetition, of which the first character has been taken. -/
def quantifier? : Char → Read (Option Count)
  | '*' => return some ⟨0, none⟩
  | '+' => return some ⟨1, none⟩
  | '?' => return some ⟨0, some 1⟩
  | '\x7b' => takeCount?
  | _ => return none

/-- A pattern read so far: one that can be repeated, a place, a repetition, or a sequence in plain
brackets. -/
inductive Item where
  | plain (node : Node)
  | place (anchor : Anchor)
  | repetition (node : Node)
  | cluster (nodes : List Node)

/-- The patterns of an item. Plain brackets vanish where they are not repeated. -/
def Item.nodes : Item → List Node
  | plain node => [node]
  | place there => [.anchor there]
  | repetition node => [node]
  | cluster nodes => nodes

def sequence : List Node → Node
  | [] => .empty
  | [node] => node
  | node :: rest => .seq node (sequence rest)

/-- Read the sign of how a repetition chooses; only one is read. -/
def takePreference : Read Preference := do
  if ← accept '?' then return .fewest
  if ← accept '+' then return .mostOnly
  return .most

/-- Repeat the last item; `start` is the offset behind the first character of the repetition. -/
def repeatLast (start : Nat) (count : Count) (items : List Item) : Read (List Item) := do
  let back := (← offset) - start + 1
  match items with
  | [] => refuse .nothingToRepeat back
  | .place _ :: _ => refuse .nothingToRepeat back
  | .repetition _ :: _ => refuse .multipleRepeat back
  | .plain node :: before =>
    return .repetition (.repeated count.least count.most (← takePreference) node) :: before
  | .cluster nodes :: before =>
    return .repetition (.repeated count.least count.most (← takePreference) (sequence nodes)) ::
      before

end TopicTables.Pattern
