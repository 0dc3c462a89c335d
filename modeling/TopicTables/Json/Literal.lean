import TopicTables.Json.Basic
import TopicTables.Number.Written
import TopicTables.Text.Quoted

/-! # Values in messages

Messages show a value as a literal: words for null and the truth values, numbers with their digits,
strings in quotes, and collections in brackets with their parts in order. Outside a collection a
string is shown bare, see `Json.text`.
-/

namespace TopicTables.Json
open Text Number

mutual

def literal : Json → String
  | .null => "None"
  | .bool true => "True"
  | .bool false => "False"
  | .int value => toString value
  | .float value => floatText value
  | .str value => quoted value
  | .arr items => "[" ++ ", ".intercalate (itemLiterals items) ++ "]"
  | .obj members => "\x7b" ++ ", ".intercalate (memberLiterals members) ++ "\x7d"

def itemLiterals : List Json → List String
  | [] => []
  | item :: rest => literal item :: itemLiterals rest

def memberLiterals : List (String × Json) → List String
  | [] => []
  | (key, value) :: rest => (quoted key ++ ": " ++ literal value) :: memberLiterals rest

end

/-- The value as a message shows it: a string bare, anything else as its literal. -/
def text : Json → String
  | .str value => value
  | value => literal value

def kindName : Json → String
  | .null => "NoneType"
  | .bool _ => "bool"
  | .int _ => "int"
  | .float _ => "float"
  | .str _ => "str"
  | .arr _ => "list"
  | .obj _ => "dict"

theorem itemLiterals_eq_map (items : List Json) : itemLiterals items = items.map literal := by
  induction items with
  | nil => rfl
  | cons item rest ih => simp [itemLiterals, ih]

theorem memberLiterals_eq_map (members : List (String × Json)) :
    memberLiterals members = members.map fun m => quoted m.1 ++ ": " ++ literal m.2 := by
  induction members with
  | nil => rfl
  | cons m rest ih => simp [memberLiterals, ih]

end TopicTables.Json
