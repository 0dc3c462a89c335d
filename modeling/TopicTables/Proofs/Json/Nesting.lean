import TopicTables.Json.Basic

/-! # Induction over nested values

What holds of an array as soon as it holds of the items, and of an object as soon as it holds of the
values of its members, holds of every value when it holds of those without parts.
-/

namespace TopicTables.Json

@[elab_as_elim]
theorem nested {P : Json → Prop} (null : P .null) (bool : ∀ value, P (.bool value))
    (int : ∀ value, P (.int value)) (float : ∀ value, P (.float value))
    (str : ∀ value, P (.str value)) (arr : ∀ items, (∀ item ∈ items, P item) → P (.arr items))
    (obj : ∀ members, (∀ member ∈ members, P member.2) → P (.obj members)) (value : Json) :
    P value :=
  @Json.rec P (fun items => ∀ item ∈ items, P item) (fun members => ∀ member ∈ members, P member.2)
    (fun member => P member.2) null bool int float str arr obj
    (by simp) (fun _ _ item rest => List.forall_mem_cons.mpr ⟨item, rest⟩)
    (by simp) (fun _ _ member rest => List.forall_mem_cons.mpr ⟨member, rest⟩)
    (fun _ _ value => value) value

end TopicTables.Json
