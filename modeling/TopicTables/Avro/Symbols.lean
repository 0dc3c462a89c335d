import TopicTables.Avro.Fault

/-! # Symbols of enumerations

Symbols are identifiers and differ from each other. A default of the enumeration is one of them.
-/

namespace TopicTables.Avro

/-- The items that a value offers one by one: of a list its items, of a text its characters, of an
object its keys. -/
def itemsOf? : Json → Option (List Json)
  | .arr items => some items
  | .str s => some (s.toList.map fun c => .str (String.singleton c))
  | .obj members => some (members.map fun m => .str m.1)
  | _ => none

def isNameStart (c : Char) : Bool :=
  ('A' ≤ c && c ≤ 'Z') || ('a' ≤ c && c ≤ 'z') || c == '_'

def isNamePart (c : Char) : Bool :=
  isNameStart c || ('0' ≤ c && c ≤ '9')

def isSymbol : Json → Bool
  | .str s =>
    match s.toList with
    | [] => false
    | first :: rest => isNameStart first && rest.all isNamePart
  | _ => false

def occursIn (part whole : List Char) : Bool :=
  part.isPrefixOf whole ||
    match whole with
    | [] => false
    | _ :: rest => occursIn part rest

/-- The value is among the symbols. A text lists every text that occurs in it. -/
def isListed (symbols value : Json) : Except Fault Bool :=
  match symbols, value with
  | .arr items, value => .ok (items.contains value)
  | .str s, .str part => .ok (occursIn part.toList s.toList)
  | .str _, value => misuse (.notPartOfText value)
  | .obj _, .arr items => misuse (.notAKey (.arr items))
  | .obj _, .obj members => misuse (.notAKey (.obj members))
  | .obj members, .str key => .ok (members.lookup key).isSome
  | _, _ => .ok false

def isRepetitionFree : List Json → Bool
  | [] => true
  | item :: rest => !rest.contains item && isRepetitionFree rest

theorem isRepetitionFree_iff (items : List Json) : isRepetitionFree items = true ↔ items.Nodup := by
  induction items with
  | nil => simp [isRepetitionFree]
  | cons item rest ih => simp [isRepetitionFree, ih]

/-- Check the symbols and the default of an enumeration. -/
def checkSymbols (members : List (String × Json)) : Except Fault Unit :=
  match members.lookup "symbols" with
  | none => .error (.broken (.missingMember "symbols"))
  | some symbols =>
    match itemsOf? symbols with
    | none => misuse (.noItems symbols)
    | some items =>
      if !items.all isSymbol then reject .badSymbol
      else if !isRepetitionFree items then reject .repeatedSymbol
      else
        match members.lookup "default" with
        | none => .ok ()
        | some value => do if !(← isListed symbols value) then reject .unlistedDefault

end TopicTables.Avro
