import TopicTables.Avro.Declared
import TopicTables.Proofs.Results

/-! # Where null is allowed

The objects around a declaration that only give it as their type do not matter for null. What is
left allows null when it is a list of two with the word for null as one of them, or when it is the
word for null itself and no object is declared under that word.
-/

namespace TopicTables.Avro
open Results

mutual

/-- A declaration without the objects that only give it as their type. -/
def peeled (declaration : Json) : Json :=
  match declaration with
  | .obj members => peeledMember members
  | other => other
termination_by structural declaration

/-- The type that the members of an object give, peeled; null when they give none. -/
def peeledMember (members : List (String × Json)) : Json :=
  match members with
  | [] => .null
  | (key, value) :: rest => if key == "type" then peeled value else peeledMember rest
termination_by structural members

end

variable {types : NamedTypes} {space : Json}

mutual

theorem declared_peeled (declaration : Json) :
    declared types space (peeled declaration) = declared types space declaration := by
  cases declaration with
  | obj members => rw [peeled, declared, declaredMember_peeled members]
  | _ => rfl
termination_by structural declaration

theorem declaredMember_peeled (members : List (String × Json)) :
    declared types space (peeledMember members) = declaredMember types space members := by
  cases members with
  | nil => rfl
  | cons member rest =>
    obtain ⟨key, value⟩ := member
    rw [peeledMember, declaredMember]
    split
    · exact declared_peeled value
    · exact declaredMember_peeled rest
termination_by structural members

end

mutual

theorem peeled_ne_obj (declaration : Json) (members : List (String × Json)) :
    peeled declaration ≠ .obj members := by
  cases declaration with
  | obj inner => rw [peeled]; exact peeledMember_ne_obj inner members
  | _ => exact Json.noConfusion
termination_by structural declaration

theorem peeledMember_ne_obj (inner members : List (String × Json)) :
    peeledMember inner ≠ .obj members := by
  cases inner with
  | nil => exact Json.noConfusion
  | cons member rest =>
    obtain ⟨key, value⟩ := member
    rw [peeledMember]
    split
    · exact peeled_ne_obj value members
    · exact peeledMember_ne_obj rest members
termination_by structural inner

end

def IsNullPair (declaration : Json) : Prop :=
  ∃ other, other ≠ .str "null" ∧
    (declaration = .arr [.str "null", other] ∨ declaration = .arr [other, .str "null"])

/-- The declaration allows null: as one of two branches, or by being the word for null where that
word does not mean a declared type. -/
def AllowsNull (types : NamedTypes) (space declaration : Json) : Prop :=
  IsNullPair (peeled declaration) ∨
    peeled declaration = .str "null" ∧
      ∀ members, namedType? types space "null" ≠ some (.obj members)

theorem isNullPair_pair (a b : Json) :
    IsNullPair (.arr [a, b]) ↔ (a = .str "null" ∧ b ≠ .str "null") ∨
      (b = .str "null" ∧ a ≠ .str "null") := by
  simp only [IsNullPair, Json.arr.injEq, List.cons.injEq, and_true]
  constructor
  · rintro ⟨other, differs, ⟨rfl, rfl⟩ | ⟨rfl, rfl⟩⟩
    · exact .inl ⟨rfl, differs⟩
    · exact .inr ⟨rfl, differs⟩
  · rintro (⟨rfl, differs⟩ | ⟨rfl, differs⟩)
    · exact ⟨b, differs, .inl ⟨rfl, rfl⟩⟩
    · exact ⟨a, differs, .inr ⟨rfl, rfl⟩⟩

theorem nullable_of_pair {a b : Json} {d : Declared}
    (comes : declared types space (.arr [a, b]) = .ok d) :
    d.nullable = true ↔ IsNullPair (.arr [a, b]) := by
  rw [isNullPair_pair]
  rw [declared] at comes
  by_cases ha : a = .str "null" <;> by_cases hb : b = .str "null" <;>
    simp only [isNullWord, ha, hb, decide_true, decide_false, Bool.not_true, Bool.not_false,
      Bool.and_true, Bool.and_false, Bool.and_self, Bool.false_eq_true, if_true, if_false] at comes
  · cases comes
    simp [ha, hb]
  · obtain ⟨inner, -, rfl⟩ := map_eq_ok_iff.mp comes
    simp [ha, hb]
  · obtain ⟨inner, -, rfl⟩ := map_eq_ok_iff.mp comes
    simp [ha, hb]
  · cases comes
    simp [ha, hb]

theorem nullable_of_union {items : List Json} {d : Declared}
    (comes : declared types space (.arr items) = .ok d) :
    d.nullable = true ↔ IsNullPair (.arr items) := by
  match items with
  | [a, b] => exact nullable_of_pair comes
  | [] | [_] | _ :: _ :: _ :: _ =>
    cases comes
    simp [IsNullPair]

theorem nullable_or_union {items : List Json} {d : Declared}
    (comes : declared types space (.arr items) = .ok d) : d.nullable = true ∨ d.kind = "union" := by
  match items with
  | [a, b] =>
    rw [declared] at comes
    split at comes
    · obtain ⟨inner, -, rfl⟩ := map_eq_ok_iff.mp comes
      exact .inl rfl
    · split at comes
      · obtain ⟨inner, -, rfl⟩ := map_eq_ok_iff.mp comes
        exact .inl rfl
      · cases comes
        exact .inr rfl
  | [] | [_] | _ :: _ :: _ :: _ =>
    cases comes
    exact .inr rfl

theorem namedKind?_eq_none_iff (name : String) :
    namedKind? types space name = none ↔
      ∀ members, namedType? types space name ≠ some (.obj members) := by
  unfold namedKind?
  split
  · rename_i members found
    simp [found]
  · rename_i other
    exact ⟨fun _ members found => other members found, fun _ => rfl⟩

theorem nullable_of_name {name : String} {d : Declared}
    (comes : declared types space (.str name) = .ok d) :
    d.nullable = true ↔
      name = "null" ∧ ∀ members, namedType? types space name ≠ some (.obj members) := by
  rw [← namedKind?_eq_none_iff]
  rw [declared] at comes
  cases kind : namedKind? types space name with
  | some word =>
    rw [kind] at comes
    cases comes
    simp
  | none =>
    rw [kind] at comes
    cases comes
    simp

theorem nullable_iff_allowsNull {declaration : Json} {d : Declared}
    (comes : declared types space declaration = .ok d) :
    d.nullable = true ↔ AllowsNull types space declaration := by
  rw [← declared_peeled] at comes
  unfold AllowsNull
  cases shape : peeled declaration with
  | arr items =>
    rw [shape] at comes
    simp [nullable_of_union comes]
  | obj members => exact absurd shape (peeled_ne_obj declaration members)
  | str name =>
    rw [shape] at comes
    rw [nullable_of_name comes]
    simp only [IsNullPair, Json.str.injEq, reduceCtorEq, or_self, and_false, exists_false, false_or]
    constructor
    · rintro ⟨rfl, undeclared⟩
      exact ⟨rfl, undeclared⟩
    · rintro ⟨rfl, undeclared⟩
      exact ⟨rfl, undeclared⟩
  | _ =>
    rw [shape] at comes
    cases comes

end TopicTables.Avro
