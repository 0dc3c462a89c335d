import TopicTables.Pattern.Escape

/-! # Sets of characters in patterns

A set lists characters, ranges and categories between brackets.
-/

namespace TopicTables.Pattern

def Escaped.setItem (flags : Flags) : Escaped → SetItem
  | .char code => .char code
  | .category kind negated => .category kind negated flags.ascii
  | _ => .char '\\'.toNat

def setToken : List Char → Read Escaped
  | ['\\', c] => takeSetEscape c
  | [c] => return .char (Text.codeOf c)
  | _ => return .char '\\'.toNat

/-- Read the items of a set up to its closing bracket; a bracket in front is an item. -/
def takeSetItems (flags : Flags) (start : Nat) : Nat → List SetItem → Read (List SetItem)
  | 0, _ => refuse .unterminatedSet 0
  | bound + 1, items => do
    match ← take? with
    | none => refuse .unterminatedSet ((← offset) - start)
    | some token =>
      if token == [']'] && !items.isEmpty then return items
      else
        let low ← setToken token
        if !(← accept '-') then
          takeSetItems flags start bound (items ++ [low.setItem flags])
        else
          match ← take? with
          | none => refuse .unterminatedSet ((← offset) - start)
          | some [']'] => return items ++ [low.setItem flags, .char '-'.toNat]
          | some other =>
            let high ← setToken other
            let back := token.length + 1 + other.length
            let complaint := Complaint.badRange (String.ofList token) (String.ofList other)
            match low, high with
            | .char a, .char b =>
              if b < a then refuse complaint back
              else takeSetItems flags start bound (items ++ [.range a b])
            | _, _ => refuse complaint back

/-- The set of some items, each of which counts once; a set of one character is this character. -/
def setOf (negated : Bool) (items : List SetItem) (folding : Text.Folding) : Node :=
  match items.eraseDups with
  | [.char code] => if negated then .otherThan code folding else .char code folding
  | items => .set negated items folding

/-- Read a set whose opening bracket has been taken. -/
def takeSet (flags : Flags) : Read Node := do
  let start := (← offset) - 1
  let negated ← accept '^'
  let items ← takeSetItems flags start (← remaining) []
  return setOf negated items flags.folding

end TopicTables.Pattern
