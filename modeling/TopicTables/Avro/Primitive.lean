/-! # Primitive types of Avro schemas -/

namespace TopicTables.Avro

/-- A type that needs no declaration. -/
inductive Primitive where
  | null
  | boolean
  | int
  | long
  | float
  | double
  | bytes
  | string
deriving DecidableEq, Repr

namespace Primitive

def all : List Primitive :=
  [null, boolean, int, long, float, double, bytes, string]

def name : Primitive → String
  | null => "null"
  | boolean => "boolean"
  | int => "int"
  | long => "long"
  | float => "float"
  | double => "double"
  | bytes => "bytes"
  | string => "string"

def ofName? (s : String) : Option Primitive :=
  all.find? fun p => p.name == s

theorem ofName?_name (p : Primitive) : ofName? p.name = some p := by
  cases p <;> decide

theorem name_of_ofName? {s : String} {p : Primitive} (h : ofName? s = some p) : p.name = s := by
  simpa using List.find?_some h

theorem ofName?_eq_some_iff {s : String} {p : Primitive} : ofName? s = some p ↔ p.name = s :=
  ⟨name_of_ofName?, fun h => h ▸ ofName?_name p⟩

theorem eq_of_name_eq {a b : Primitive} (h : a.name = b.name) : a = b := by
  have := ofName?_name a
  rw [h, ofName?_name b] at this
  exact (Option.some.inj this).symm

end Primitive

end TopicTables.Avro
