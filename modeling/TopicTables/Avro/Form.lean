import TopicTables.Avro.Primitive

/-! # Forms of types

The word under which an object gives its type decides how the rest of the object is read.
-/

namespace TopicTables.Avro

/-- How a type is built. -/
inductive Form where
  | primitive (p : Primitive)
  | array
  | map
  | enum
  | fixed
  | record
  /-- A record that reports a failure. -/
  | error
deriving DecidableEq, Repr

namespace Form

def word : Form → String
  | primitive p => p.name
  | array => "array"
  | map => "map"
  | enum => "enum"
  | fixed => "fixed"
  | record => "record"
  | error => "error"

def all : List Form :=
  [array, map, enum, fixed, record, error] ++ Primitive.all.map primitive

def ofWord? (s : String) : Option Form :=
  all.find? fun form => form.word == s

theorem ofWord?_word (form : Form) : ofWord? form.word = some form := by
  rcases form with p | _ | _ | _ | _ | _ | _
  · cases p <;> decide
  all_goals decide

theorem word_of_ofWord? {s : String} {form : Form} (h : ofWord? s = some form) : form.word = s := by
  simpa using List.find?_some h

theorem ofWord?_eq_some_iff {s : String} {form : Form} :
    ofWord? s = some form ↔ form.word = s :=
  ⟨word_of_ofWord?, fun h => h ▸ ofWord?_word form⟩

theorem eq_of_word_eq {a b : Form} (h : a.word = b.word) : a = b := by
  have := ofWord?_word a
  rw [h, ofWord?_word b] at this
  exact (Option.some.inj this).symm

end Form

end TopicTables.Avro
