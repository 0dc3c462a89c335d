import TopicTables.Text.LetterCase

/-! # Patterns

A pattern describes texts: characters, classes of them, places in a text, and what is built from
these by sequence, choice, repetition and grouping.
-/

namespace TopicTables.Pattern
open Text

/-- A class of characters that has a letter of its own. -/
inductive Category where
  | digit
  | blank
  | word
deriving DecidableEq, Repr

/-- A part of a set of characters. A code may be one that no character has. -/
inductive SetItem where
  | char (code : Nat)
  | range (low high : Nat)
  | category (category : Category) (negated asciiOnly : Bool)
deriving DecidableEq, Repr

/-- A place between characters. -/
inductive Anchor where
  | textStart
  | lineStart
  | textEnd
  /-- The end, or before a line break that ends the text. -/
  | lastLineEnd
  | lineEnd
  | wordEdge (negated asciiOnly : Bool)
deriving DecidableEq, Repr

/-- How a repetition chooses among the numbers of rounds. -/
inductive Preference where
  | most
  | fewest
  /-- The most, and none but these. -/
  | mostOnly
deriving DecidableEq, Repr

/-- The least and the greatest number of characters; `none` is unbounded. -/
structure Width where
  least : Nat
  most : Option Nat
deriving DecidableEq, Repr

namespace Width

def nothing : Width := ⟨0, some 0⟩

def single : Width := ⟨1, some 1⟩

def add (a b : Width) : Width where
  least := a.least + b.least
  most := do return (← a.most) + (← b.most)

def choose (a b : Width) : Width where
  least := min a.least b.least
  most := do return max (← a.most) (← b.most)

def times (a : Width) (least : Nat) (most : Option Nat) : Width where
  least := a.least * least
  most :=
    if a.most = some 0 ∨ most = some 0 then some 0
    else do return (← a.most) * (← most)

def isFixed (a : Width) : Bool := a.most == some a.least

end Width

inductive Node where
  | empty
  | char (code : Nat) (folding : Folding)
  /-- Any character but one. -/
  | otherThan (code : Nat) (folding : Folding)
  | any (breaksToo : Bool)
  | set (negated : Bool) (items : List SetItem) (folding : Folding)
  | anchor (anchor : Anchor)
  | seq (first second : Node)
  | choice (first second : Node)
  | repeated (least : Nat) (most : Option Nat) (preference : Preference) (body : Node)
  /-- Brackets; those of a numbered group keep what their body matches. -/
  | group (number : Option Nat) (body : Node)
  /-- Once matched, no other way of matching the body is tried. -/
  | atomic (body : Node)
  | ahead (negated : Bool) (body : Node)
  /-- The body, which takes characters of a fixed number, ends here. -/
  | behind (negated : Bool) (width : Width) (body : Node)
  /-- The text that a group matched. -/
  | reference (number : Nat) (folding : Folding)
  /-- One pattern if a group has matched, another one if not. -/
  | conditional (number : Nat) (yes no : Node)
deriving Repr

/-- The width of a pattern, given those of the groups. -/
def Node.width (groups : Nat → Width) : Node → Width
  | .empty => .nothing
  | .char _ _ => .single
  | .otherThan _ _ => .single
  | .any _ => .single
  | .set _ _ _ => .single
  | .anchor _ => .nothing
  | .seq a b => (a.width groups).add (b.width groups)
  | .choice a b => (a.width groups).choose (b.width groups)
  | .repeated least most _ body => (body.width groups).times least most
  | .group _ body => body.width groups
  | .atomic body => body.width groups
  | .ahead _ _ => .nothing
  | .behind _ _ _ => .nothing
  | .reference number _ => groups number
  | .conditional _ yes no => (yes.width groups).choose (no.width groups)

structure CharSet where
  negated : Bool
  items : List SetItem
deriving DecidableEq, Repr

structure Expression where
  body : Node
  /-- The characters at which a match may begin, if only these are tried. -/
  beginning : Option CharSet
deriving Repr

end TopicTables.Pattern
