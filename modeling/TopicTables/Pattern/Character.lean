import TopicTables.Pattern.Basic
import TopicTables.Text.Blank
import TopicTables.Text.Digits
import TopicTables.Text.Letters
import TopicTables.Text.LoneHalf

/-! # Characters and places that patterns ask for

A category or a set holds a character or does not; an anchor holds at a place of a text or does not.
-/

namespace TopicTables.Pattern
open Text

def Category.holds (asciiOnly : Bool) (c : Char) : Category → Bool
  | .digit => if asciiOnly then c.isDigit else isDigit c
  | .blank => if asciiOnly then c.isWhitespace || c == '\x0b' || c == '\x0c' else isBlank c
  | .word => if asciiOnly then c.isAlphanum || c == '_' else isWordCharacter c

/-- The first code of the planes in which the case of a set's items is looked at differently. -/
def planeSize : Nat := 0x10000

/-- The character is an item of a set. Beyond the first plane of codes, where case does not count, a
lone character stands for its small letter only if it is one, and a range holds the small letters
and capitals that lie in it. -/
def SetItem.holds (folding : Folding) (c : Char) : SetItem → Bool
  | .char code =>
    if folding = .exact then codeOf c == code
    else if code < planeSize then folding.same code (codeOf c)
    else folding.small (codeOf c) == code
  | .range low high =>
    let within (code : Nat) : Bool := low ≤ code && code ≤ high
    if folding = .exact then within (codeOf c)
    else
      (folding.forms (codeOf c)).any (fun code => within code && code < planeSize) ||
        (planeSize ≤ high && (within (folding.small (codeOf c)) ||
          within (capitalCode (folding.small (codeOf c)))))
  | .category kind negated asciiOnly => kind.holds asciiOnly c != negated

def inSet (negated : Bool) (items : List SetItem) (folding : Folding) (c : Char) : Bool :=
  items.any (·.holds folding c) != negated

def wordAt (asciiOnly : Bool) (text : Array Char) (place : Nat) : Bool :=
  (text[place]?).any (Category.holds asciiOnly · .word)

def Anchor.holds (text : Array Char) (place : Nat) : Anchor → Bool
  | .textStart => place == 0
  | .lineStart => place == 0 || text[place - 1]? == some '\n'
  | .textEnd => place == text.size
  | .lastLineEnd =>
    place == text.size || (place + 1 == text.size && text[place]? == some '\n')
  | .lineEnd => place == text.size || text[place]? == some '\n'
  | .wordEdge negated asciiOnly =>
    let before := 0 < place && wordAt asciiOnly text (place - 1)
    let after := wordAt asciiOnly text place
    text.size != 0 && (before != after) != negated

/-- The text between two places stands at a third. Where case does not count, small letters are
compared, without regard to families. -/
def sameText (folding : Folding) (text : Array Char) (start stop place : Nat) : Bool :=
  place + (stop - start) ≤ text.size &&
    (List.range (stop - start)).all fun i =>
      match text[start + i]?, text[place + i]? with
      | some a, some b => folding.small (codeOf a) == folding.small (codeOf b)
      | _, _ => false

/-- The test that a pattern makes of one character, if that is all it does. -/
def Node.test? : Node → Option (Char → Bool)
  | .char code folding => some fun c => folding.same code (codeOf c)
  | .otherThan code folding => some fun c => !folding.same code (codeOf c)
  | .any breaksToo => some fun c => breaksToo || c != '\n'
  | .set negated items folding => some (inSet negated items folding)
  | .group none body => body.test?
  | _ => none

/-- The set that a pattern begins with, unless the case of one of its items does not count. -/
def Node.firstSet? : Node → Option CharSet
  | .set negated items folding =>
    let isPlain : SetItem → Bool
      | .char code => !folding.isCased code
      | .range low high =>
        folding = .exact ||
          (high < planeSize && !(List.range' low (high + 1 - low)).any folding.isCased)
      | .category _ _ _ => true
    if items.all isPlain then some { negated, items } else none
  | .seq first _ => first.firstSet?
  | .group _ body => body.firstSet?
  | _ => none

/-- The item with the categories of the whole pattern. -/
def SetItem.withCategories (asciiOnly : Bool) : SetItem → SetItem
  | .category kind negated _ => .category kind negated asciiOnly
  | item => item

def CharSet.withCategories (asciiOnly : Bool) (set : CharSet) : CharSet where
  negated := set.negated
  items := set.items.map (·.withCategories asciiOnly)

/-- The pattern as a whole. If it takes a character at least and begins with a set, it is looked for
only at characters of this set, read with the categories of the whole pattern. -/
def Expression.ofNode (asciiOnly : Bool) (body : Node) (width : Width) : Expression where
  body := body
  beginning :=
    if width.least = 0 then none else body.firstSet?.map (·.withCategories asciiOnly)

end TopicTables.Pattern
