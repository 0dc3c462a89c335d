import TopicTables.Json.Basic
import TopicTables.Number.Binary

/-! # Sameness of names

Two values name the same thing when they agree up to the spelling of numbers and the order of object
members: an integer, a float with the same value and a truth value standing for it are the same
name. Both are brought to a common form, in which sameness is equality. A value that is not a number
names nothing, so it is not the same as itself.
-/

namespace TopicTables.Json
open Number

/-- Insert a member before the first one with a larger key. -/
def insertMember (m : String × Json) : List (String × Json) → List (String × Json)
  | [] => [m]
  | head :: rest => if head.1 < m.1 then head :: insertMember m rest else m :: head :: rest

mutual

/-- The common form of all values that are the same name. -/
def commonForm : Json → Json
  | .null => .null
  | .bool value => .int (if value then 1 else 0)
  | .int value => .int value
  | .float value =>
    match (decode value).integer? with
    | some n => .int n
    | none => .float value
  | .str value => .str value
  | .arr items => .arr (commonItems items)
  | .obj members => .obj (commonMembers members)

def commonItems : List Json → List Json
  | [] => []
  | item :: rest => commonForm item :: commonItems rest

def commonMembers : List (String × Json) → List (String × Json)
  | [] => []
  | (key, value) :: rest => insertMember (key, commonForm value) (commonMembers rest)

end

def isNotANumber : Json → Bool
  | .float value => decide (decode value = .notANumber)
  | _ => false

/-- The values name the same thing. -/
def same (a b : Json) : Bool :=
  !a.isNotANumber && !b.isNotANumber && decide (a.commonForm = b.commonForm)

theorem same_comm (a b : Json) : a.same b = b.same a := by
  simp only [same, eq_comm (a := a.commonForm)]
  cases a.isNotANumber <;> cases b.isNotANumber <;> rfl

theorem same_trans {a b c : Json} (hab : a.same b = true) (hbc : b.same c = true) :
    a.same c = true := by
  simp only [same, Bool.and_eq_true, Bool.not_eq_true', decide_eq_true_eq] at *
  exact ⟨⟨hab.1.1, hbc.1.2⟩, hab.2.trans hbc.2⟩

theorem same_self {a : Json} (h : a.isNotANumber = false) : a.same a = true := by
  simp [same, h]

@[simp] theorem same_str (s t : String) : (Json.str s).same (.str t) = decide (s = t) := by
  simp [same, isNotANumber, commonForm]

end TopicTables.Json
