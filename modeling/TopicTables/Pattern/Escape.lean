import TopicTables.Json.Reader
import TopicTables.Pattern.Progress
import TopicTables.Text.CharacterName.Lookup
import TopicTables.Text.LoneHalf

/-! # Escapes in patterns

A backslash gives the next character another meaning: a control character, a category, a place, a
character by its number, or the text that a group matched.
-/

namespace TopicTables.Pattern

/-- What an escape stands for. -/
inductive Escaped where
  | char (code : Nat)
  | category (category : Category) (negated : Bool)
  | anchor (anchor : Anchor)
  | reference (number : Nat)

def isOctal (c : Char) : Bool := '0' ≤ c && c ≤ '7'

def isHex (c : Char) : Bool := (Json.hexValue? c).isSome

def valueOf (base : Nat) (digits : List Char) : Nat :=
  digits.foldl (fun value c => base * value + (Json.hexValue? c).getD 0) 0

/-- The letters that stand for a control character, and the backslash. -/
def controlEscape? (c : Char) : Option Nat :=
  [('a', 0x07), ('b', 0x08), ('f', 0x0c), ('n', 0x0a), ('r', 0x0d), ('t', 0x09), ('v', 0x0b),
    ('\\', 0x5c)].lookup c

/-- The letters that stand for a category. -/
def categoryEscape? : Char → Option (Category × Bool)
  | 'd' => some (.digit, false)
  | 'D' => some (.digit, true)
  | 's' => some (.blank, false)
  | 'S' => some (.blank, true)
  | 'w' => some (.word, false)
  | 'W' => some (.word, true)
  | _ => none

/-- The letters that stand for a place. -/
def anchorEscape? (asciiOnly : Bool) : Char → Option Anchor
  | 'A' => some .textStart
  | 'Z' => some .textEnd
  | 'b' => some (.wordEdge false asciiOnly)
  | 'B' => some (.wordEdge true asciiOnly)
  | _ => none

def takeCode (letter : Char) (count : Nat) : Read Escaped := do
  let digits ← takeWhile isHex count
  let written := '\\' :: letter :: digits
  if digits.length < count then
    refuse (.incompleteEscape (String.ofList written)) written.length
  else if valueOf 16 digits < 0x110000 then return .char (valueOf 16 digits)
  else refuse (.badEscape (String.ofList written)) written.length

def takeCharacterName : Read Escaped := do
  if ← accept '\x7b' then
    let name ← takeName '\x7d' "character name" (← remaining) []
    match Text.CharacterName.code? name with
    | some code => return .char code
    | none => refuse (.unknownCharacterName name) (name.length + 4)
  else refuse .noBrace 0

/-- An escape that stands for its own character, unless it is a letter or a digit. -/
def plainEscape (c : Char) : Read Escaped :=
  if c.isAlphanum then refuse (.badEscape (String.ofList ['\\', c])) 2
  else return .char (Text.codeOf c)

/-- An escape in octal digits of which the first has been taken. -/
def octalEscape (digits : List Char) : Read Escaped :=
  if valueOf 8 digits ≤ 0o377 then return .char (valueOf 8 digits)
  else refuse (.octalTooLarge (String.ofList ('\\' :: digits))) (digits.length + 1)

/-- The escape of a letter by number or by name, wherever it stands. -/
def codeEscape? (c : Char) : Option (Read Escaped) :=
  match c with
  | 'x' => some (takeCode 'x' 2)
  | 'u' => some (takeCode 'u' 4)
  | 'U' => some (takeCode 'U' 8)
  | 'N' => some takeCharacterName
  | _ => none

/-- Read an escape within a set, of which the first two characters have been taken. -/
def takeSetEscape (c : Char) : Read Escaped := do
  match controlEscape? c, categoryEscape? c, codeEscape? c with
  | some control, _, _ => return .char control
  | none, some (category, negated), _ => return .category category negated
  | none, none, some code => code
  | none, none, none =>
    if isOctal c then octalEscape (c :: (← takeWhile isOctal 2)) else plainEscape c

/-- Refuse a reference to a group within the look-behind in which it was defined. -/
def checkLookBehind (number : Nat) : Read Unit := do
  let p ← get
  match p.lookBehindFrom with
  | none => return ()
  | some first =>
    if ((p.groups[number - 1]?).join).isNone then refuse .openReference 0
    else if first ≤ number then refuse .referenceWithinLookBehind 0

/-- Refer to a group by the digits of its number. -/
def referTo (digits : List Char) : Read Escaped := do
  let number := valueOf 10 digits
  match (← get).groups[number - 1]? with
  | none => refuse (.unknownReference number) digits.length
  | some none => refuse .openReference (digits.length + 1)
  | some (some _) =>
    checkLookBehind number
    return .reference number

/-- Read an escape by a digit other than zero: an octal number of three digits or a reference. -/
def takeNumberEscape (first : Char) : Read Escaped := do
  match ← takeWhile Char.isDigit 1 with
  | [second] =>
    if isOctal first && isOctal second then
      match ← takeWhile isOctal 1 with
      | [third] => octalEscape [first, second, third]
      | _ => referTo [first, second]
    else referTo [first, second]
  | _ => referTo [first]

/-- Read an escape, of which the first two characters have been taken. -/
def takeEscape (flags : Flags) (c : Char) : Read Escaped := do
  match categoryEscape? c, anchorEscape? flags.ascii c, controlEscape? c, codeEscape? c with
  | some (category, negated), _, _, _ => return .category category negated
  | none, some anchor, _, _ => return .anchor anchor
  | none, none, some control, _ => return .char control
  | none, none, none, some code => code
  | none, none, none, none =>
    if c == '0' then octalEscape (c :: (← takeWhile isOctal 2))
    else if c.isDigit then takeNumberEscape c
    else plainEscape c

end TopicTables.Pattern
