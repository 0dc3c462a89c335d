/-! # JSON values

Integers keep all their digits and are kept apart from floats. An object keeps its members in the
order of the document; a key that the document repeats is kept once, see `setMember`.
-/

namespace TopicTables

inductive Json where
  | null
  | bool (value : Bool)
  | int (value : Int)
  | float (value : Float)
  | str (value : String)
  | arr (items : List Json)
  | obj (members : List (String × Json))
deriving Inhabited

namespace Json

mutual

def equal : Json → Json → Bool
  | .null, .null => true
  | .bool a, .bool b => a == b
  | .int a, .int b => a == b
  | .float a, .float b => decide (a = b)
  | .str a, .str b => a == b
  | .arr a, .arr b => equalItems a b
  | .obj a, .obj b => equalMembers a b
  | _, _ => false

def equalItems : List Json → List Json → Bool
  | [], [] => true
  | a :: as, b :: bs => equal a b && equalItems as bs
  | _, _ => false

def equalMembers : List (String × Json) → List (String × Json) → Bool
  | [], [] => true
  | (k, a) :: as, (l, b) :: bs => k == l && equal a b && equalMembers as bs
  | _, _ => false

end

mutual

theorem equal_iff : ∀ a b : Json, equal a b = true ↔ a = b
  | .null, b => by cases b <;> simp [equal]
  | .bool a, b => by cases b <;> simp [equal]
  | .int a, b => by cases b <;> simp [equal]
  | .float a, b => by cases b <;> simp [equal]
  | .str a, b => by cases b <;> simp [equal]
  | .arr a, b => by cases b <;> simp [equal, equalItems_iff a]
  | .obj a, b => by cases b <;> simp [equal, equalMembers_iff a]

theorem equalItems_iff : ∀ as bs : List Json, equalItems as bs = true ↔ as = bs
  | [], bs => by cases bs <;> simp [equalItems]
  | a :: as, bs => by cases bs <;> simp [equalItems, equal_iff a, equalItems_iff as]

theorem equalMembers_iff : ∀ as bs : List (String × Json), equalMembers as bs = true ↔ as = bs
  | [], bs => by cases bs <;> simp [equalMembers]
  | (k, a) :: as, bs => by
    cases bs with
    | nil => simp [equalMembers]
    | cons b bs => simp [equalMembers, equal_iff a, equalMembers_iff as, Prod.ext_iff]

end

instance : DecidableEq Json := fun a b => decidable_of_iff _ (equal_iff a b)

/-- The value of a member of an object; other values have no members. -/
def member? : Json → String → Option Json
  | .obj members, key => members.lookup key
  | _, _ => none

/-- Give a key its value: in its old place when it is known, else behind all others. -/
def setMember (key : String) (value : Json) : List (String × Json) → List (String × Json)
  | [] => [(key, value)]
  | (k, v) :: rest => if k == key then (k, value) :: rest else (k, v) :: setMember key value rest

/-- A value counts as true unless it is null, false, zero or empty. -/
def isTruthy : Json → Bool
  | .null => false
  | .bool value => value
  | .int value => value != 0
  | .float value => !(value == 0.0)
  | .str value => !value.isEmpty
  | .arr items => !items.isEmpty
  | .obj members => !members.isEmpty

def string? : Json → Option String
  | .str value => some value
  | _ => none

def members? : Json → Option (List (String × Json))
  | .obj members => some members
  | _ => none

theorem lookup_setMember_self (key : String) (value : Json) (members : List (String × Json)) :
    (setMember key value members).lookup key = some value := by
  induction members with
  | nil => simp [setMember]
  | cons head tail ih =>
    obtain ⟨k, v⟩ := head
    by_cases h : k = key
    · simp [setMember, h]
    · have : ¬ key = k := fun e => h e.symm
      simp [setMember, h, List.lookup_cons, beq_eq_false_iff_ne.mpr this, ih]

theorem lookup_setMember_of_ne {key other : String} (h : other ≠ key) (value : Json)
    (members : List (String × Json)) :
    (setMember key value members).lookup other = members.lookup other := by
  induction members with
  | nil => simp [setMember, h]
  | cons head tail ih =>
    obtain ⟨k, v⟩ := head
    by_cases hk : k = key
    · subst hk; simp [setMember, List.lookup_cons, beq_eq_false_iff_ne.mpr h]
    · by_cases ho : other = k
      · subst ho; simp [setMember, h]
      · simp [setMember, hk, List.lookup_cons, beq_eq_false_iff_ne.mpr ho, ih]

end Json

end TopicTables
