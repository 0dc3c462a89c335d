import Mathlib.Data.List.Forall2
import Mathlib.Data.List.Nodup
import TopicTables.Json.Basic

/-! # Values up to the order of members

Values are the same up to order when they differ in nothing but the order of members, at any depth:
arrays have their items in order, and objects have the same keys with the same values under them, up
to order again. What is looked up in an object does not depend on the order.
-/

namespace TopicTables.Json

/-- The values are the same up to the order of members. -/
inductive Reordered : Json → Json → Prop
  | same (value : Json) : Reordered value value
  | arr {items items' : List Json} :
    List.Forall₂ Reordered items items' → Reordered (.arr items) (.arr items')
  | obj {members members' : List (String × Json)} :
    (members.map Prod.fst).Perm (members'.map Prod.fst) →
      (∀ key value value', (key, value) ∈ members → (key, value') ∈ members' →
        Reordered value value') → Reordered (.obj members) (.obj members')

/-- Objects with the same keys, up to order, in which every look-up gives the same value, up to
order. -/
structure Rearranged (members members' : List (String × Json)) : Prop where
  keys : (members.map Prod.fst).Perm (members'.map Prod.fst)
  lookup : ∀ key, Option.Rel Reordered (members.lookup key) (members'.lookup key)

/-- The look-up finds, under each key of the members and under no other, a value that they have
there. -/
structure Finds (look : String → Option Json) (members : List (String × Json)) : Prop where
  isSome_iff : ∀ key, (look key).isSome = true ↔ key ∈ members.map Prod.fst
  mem : ∀ key value, look key = some value → (key, value) ∈ members

variable {α β : Type} {value value' : Json} {members members' : List (String × Json)}

theorem finds_lookup (members : List (String × Json)) :
    Finds (fun key => members.lookup key) members where
  isSome_iff key := by
    simp only [List.lookup_isSome_iff, List.mem_map, beq_iff_eq]
    exact exists_congr fun _ => and_congr_right fun _ => eq_comm
  mem key value found := by
    obtain ⟨before, after, split, -⟩ := List.lookup_eq_some_iff.mp found
    simp [split]

theorem Finds.rel {look look' : String → Option Json} (finds : Finds look members)
    (finds' : Finds look' members')
    (keys : (members.map Prod.fst).Perm (members'.map Prod.fst))
    (values : ∀ key value value', (key, value) ∈ members → (key, value') ∈ members' →
      Reordered value value') (key : String) : Option.Rel Reordered (look key) (look' key) := by
  have both : (look key).isSome = true ↔ (look' key).isSome = true := by
    rw [finds.isSome_iff, finds'.isSome_iff, keys.mem_iff]
  cases found : look key with
  | none =>
    cases found' : look' key with
    | none => exact .none
    | some value' => simp [found, found'] at both
  | some value =>
    cases found' : look' key with
    | none => simp [found, found'] at both
    | some value' => exact .some (values key _ _ (finds.mem _ _ found) (finds'.mem _ _ found'))

theorem Reordered.rel_refl : ∀ value : Option Json, Option.Rel Reordered value value
  | none => .none
  | some value => .some (.same value)

theorem rel_cases {R : α → β → Prop} {found : Option α} {found' : Option β}
    (rel : Option.Rel R found found') :
    (found = none ∧ found' = none) ∨
      ∃ value value', found = some value ∧ found' = some value' ∧ R value value' := by
  cases rel with
  | none => exact .inl ⟨rfl, rfl⟩
  | some related => exact .inr ⟨_, _, rfl, rfl, related⟩

theorem Rearranged.lookup_cases (rearranged : Rearranged members members') (key : String) :
    (members.lookup key = none ∧ members'.lookup key = none) ∨
      ∃ value value', members.lookup key = some value ∧ members'.lookup key = some value' ∧
        Reordered value value' :=
  rel_cases (rearranged.lookup key)

/-! ## The parts of values that are the same up to order -/

theorem Reordered.of_arr {items : List Json} (reordered : Reordered (.arr items) value') :
    ∃ items', value' = .arr items' ∧ List.Forall₂ Reordered items items' := by
  cases reordered with
  | same => exact ⟨items, rfl, List.forall₂_same.mpr fun item _ => .same item⟩
  | arr each => exact ⟨_, rfl, each⟩

theorem Reordered.of_obj (reordered : Reordered (.obj members) value') :
    ∃ members', value' = .obj members' ∧ Rearranged members members' := by
  cases reordered with
  | same => exact ⟨members, rfl, .refl _, fun _ => rel_refl _⟩
  | obj keys values =>
    exact ⟨_, rfl, keys, (finds_lookup members).rel (finds_lookup _) keys values⟩

/-- What tells only the kind of a value and the size of a collection does not depend on order. -/
theorem Reordered.congr {f : Json → α} (reordered : Reordered value value')
    (arr : ∀ items items' : List Json, items.length = items'.length →
      f (.arr items) = f (.arr items'))
    (obj : ∀ members members' : List (String × Json), members.length = members'.length →
      f (.obj members) = f (.obj members')) : f value = f value' := by
  cases reordered with
  | same => rfl
  | arr each => exact arr _ _ each.length_eq
  | obj keys _ => exact obj _ _ (by simpa using keys.length_eq)

theorem Reordered.eq_str_iff (reordered : Reordered value value') (s : String) :
    value = .str s ↔ value' = .str s := by
  cases reordered <;> simp

theorem Reordered.isTruthy_eq (reordered : Reordered value value') :
    value.isTruthy = value'.isTruthy := by
  refine reordered.congr (fun items items' same => ?_) fun members members' same => ?_
  · cases items <;> cases items' <;> simp_all [isTruthy]
  · cases members <;> cases members' <;> simp_all [isTruthy]

theorem Rearranged.lookup_str_iff (rearranged : Rearranged members members') (key word : String) :
    members.lookup key = some (.str word) ↔ members'.lookup key = some (.str word) := by
  obtain ⟨none, none'⟩ | ⟨value, value', found, found', reordered⟩ := rearranged.lookup_cases key
  · simp [none, none']
  · simp [found, found', reordered.eq_str_iff]

theorem Rearranged.isNone_eq (rearranged : Rearranged members members') (key : String) :
    (members.lookup key).isNone = (members'.lookup key).isNone := by
  obtain ⟨none, none'⟩ | ⟨value, value', found, found', -⟩ := rearranged.lookup_cases key
  · rw [none, none']
  · rw [found, found']
    rfl

theorem Rearranged.getD (rearranged : Rearranged members members') (key : String) (other : Json) :
    Reordered ((members.lookup key).getD other) ((members'.lookup key).getD other) := by
  obtain ⟨none, none'⟩ | ⟨value, value', found, found', reordered⟩ := rearranged.lookup_cases key
  · rw [none, none']
    exact .same other
  · rw [found, found']
    exact reordered

theorem Reordered.symm (reordered : Reordered value value') : Reordered value' value :=
  @Reordered.rec (fun value value' _ => Reordered value' value)
    (fun items items' _ => List.Forall₂ Reordered items' items) .same (fun _ each => .arr each)
    (fun keys _ values => .obj keys.symm fun key value value' mem mem' =>
      values key value' value mem' mem)
    .nil (fun _ _ head rest => .cons head rest) _ _ reordered

theorem Rearranged.symm (rearranged : Rearranged members members') :
    Rearranged members' members := by
  refine ⟨rearranged.keys.symm, fun key => ?_⟩
  obtain ⟨none, none'⟩ | ⟨value, value', found, found', reordered⟩ := rearranged.lookup_cases key
  · rw [none, none']
    exact .none
  · rw [found, found']
    exact .some reordered.symm

/-- Members in another order are the same up to order, when no key stands twice. -/
theorem Reordered.of_perm (perm : members.Perm members')
    (distinct : (members.map Prod.fst).Nodup) : Reordered (.obj members) (.obj members') := by
  refine .obj (perm.map _) fun key value value' first second => ?_
  cases List.inj_on_of_nodup_map distinct first (perm.mem_iff.mpr second) rfl
  exact .same value

end TopicTables.Json
