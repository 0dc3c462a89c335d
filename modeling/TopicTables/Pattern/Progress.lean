import TopicTables.Pattern.Basic
import TopicTables.Pattern.Fault
import TopicTables.Pattern.Flags

/-! # Taking patterns apart

The text of a pattern is split into tokens, single characters or a backslash with what follows, and
read from left to right. A lone backslash at the end is noticed when the token before it is taken.
-/

namespace TopicTables.Pattern

/-- Two characters for an escape, one for anything else, and the offset in the text. -/
structure Token where
  chars : List Char
  offset : Nat
deriving Repr

/-- Where reading stands. -/
structure Progress where
  /-- The tokens to come. -/
  tokens : List Token
  /-- The length of the text. -/
  size : Nat
  /-- The text ends in a lone backslash. -/
  dangling : Bool
  /-- The flags for the whole pattern. -/
  flags : Flags := {}
  /-- The groups so far, from number one on, each with its width once it is closed. -/
  groups : List (Option Width) := []
  names : List (String × Nat) := []
  /-- The number of groups before the look-behind that is being read. -/
  lookBehindFrom : Option Nat := none
  /-- The groups that conditions ask for, and where they do. -/
  asked : List (Nat × Nat) := []
  /-- How deep the brackets are nested around what is being read. -/
  depth : Nat := 0

abbrev Read (α : Type) := StateT Progress (Except Fault) α

/-- Split a text into tokens; a lone backslash at the end is left out. -/
def tokenize : Nat → List Char → List Token
  | _, [] => []
  | _, ['\\'] => []
  | offset, '\\' :: c :: rest => ⟨['\\', c], offset⟩ :: tokenize (offset + 2) rest
  | offset, c :: rest => ⟨[c], offset⟩ :: tokenize (offset + 1) rest

/-- The text ends in a lone backslash. -/
def isDangling : List Char → Bool
  | [] => false
  | ['\\'] => true
  | '\\' :: _ :: rest => isDangling rest
  | _ :: rest => isDangling rest

def Progress.offset (p : Progress) : Nat :=
  match p.tokens with
  | token :: _ => token.offset
  | [] => p.size

/-- Refuse the pattern at so many characters before the next token. -/
def refuse {α : Type} (what : Complaint) (back : Nat) : Read α := fun p =>
  .error (.complaint what (p.offset - back))

/-- Notice a lone backslash that comes next. -/
def noticeDangling (p : Progress) : Except Fault Unit :=
  if p.tokens.isEmpty && p.dangling then .error (.complaint .escapeAtEnd (p.size - 1)) else .ok ()

def peek? : Read (Option (List Char)) := fun p => .ok (p.tokens.head?.map (·.chars), p)

def take? : Read (Option (List Char)) := fun p =>
  match p.tokens with
  | [] => .ok (none, p)
  | token :: rest => do
    noticeDangling { p with tokens := rest }
    return (some token.chars, { p with tokens := rest })

/-- Take the next token if it is a certain character. -/
def accept (c : Char) : Read Bool := do
  if (← peek?) == some [c] then
    let _ ← take?
    return true
  else return false

def offset : Read Nat := fun p => .ok (p.offset, p)

/-- Take at most so many characters that pass a test. -/
def takeWhile (test : Char → Bool) : Nat → Read (List Char)
  | 0 => return []
  | count + 1 => do
    match ← peek? with
    | some [c] =>
      if test c then
        let _ ← take?
        return c :: (← takeWhile test count)
      else return []
    | _ => return []

/-- Take the tokens up to a character, which is taken too. The work is bounded. -/
def takeName (terminator : Char) (what : String) : Nat → List Char → Read String
  | 0, _ => refuse .patternEnds 0
  | bound + 1, taken => do
    match ← take? with
    | none =>
      if taken.isEmpty then refuse (.nameMissing what) 0
      else refuse (.nameUnterminated terminator) taken.length
    | some token =>
      if token == [terminator] then
        if taken.isEmpty then refuse (.nameMissing what) 1 else return String.ofList taken
      else takeName terminator what bound (taken ++ token)

/-- The greatest depth at which brackets can be read. -/
def maxDepth : Nat := 975

/-- Read something deeper within brackets. -/
def deeper {α : Type} (levels : Nat) (part : Read α) : Read α := do
  modify fun p => { p with depth := p.depth + levels }
  if maxDepth < (← get).depth then throw .tooDeep
  let found ← part
  modify fun p => { p with depth := p.depth - levels }
  return found

/-- A bound on the number of tokens to come. -/
def remaining : Read Nat := fun p => .ok (p.tokens.length + 1, p)

end TopicTables.Pattern
