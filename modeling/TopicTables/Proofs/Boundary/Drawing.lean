import TopicTables.Proofs.Boundary.Objects
import TopicTables.Proofs.Text.Ordered

/-! # Where the boundary is drawn

The boundary is drawn on an interface just where no refused operation has a slot of the interface's
own and every supported one can be called. Where it is not, the interface is left as it was. Where it
is, the refused operations are refused on its objects, whatever they stood for before, and every other
name stands for what it stood for. What comes of using that is the same as long as no refused
operation is used on the way.
-/

namespace TopicTables.Interface
open Text

variable {ν : Type} {interface : Interface ν} {name other : String} {slot : Slot ν}

def Callable (interface : Interface ν) (name : String) : Prop :=
  ∃ slot, interface.slot? name = some slot ∧ slot.isCallable = true

/-- The interface has no slot of its own for a refused operation. -/
def Unclaimed (interface : Interface ν) : Prop :=
  ∀ operation ∈ Boundary.refused.map Prod.fst, interface.own.lookup operation = none

/-- The boundary can be drawn on the interface. -/
structure Drawable (interface : Interface ν) : Prop where
  unclaimed : interface.Unclaimed
  callable : ∀ operation ∈ Boundary.supported, interface.Callable operation

/-- The error tells what stands against the boundary: the first refused operation that has a slot of
its own, or else all supported operations that cannot be called. -/
inductive Objection (interface : Interface ν) : BoundaryError → Prop
  | claimed {before after : List String} {operation : String} :
    Boundary.refused.map Prod.fst = before ++ operation :: after →
      (∀ earlier ∈ before, interface.own.lookup earlier = none) →
        (interface.own.lookup operation).isSome = true →
          Objection interface (.implementedAndRefused interface.name operation)
  | uncallable {operations : List String} : interface.Unclaimed →
    Lists (fun name => name ∈ Boundary.supported ∧ ¬ interface.Callable name) operations →
      Objection interface (.notImplemented interface.name operations)

/-! ## What is checked -/

theorem mem_uncallable_iff :
    name ∈ interface.uncallable ↔ name ∈ Boundary.supported ∧ ¬ interface.Callable name := by
  rw [uncallable, List.mem_filter, Callable]
  cases interface.slot? name <;> simp

theorem sorted_uncallable : interface.uncallable.Pairwise (· < ·) :=
  List.Pairwise.filter _ (by decide)

theorem ownRefused?_eq_none_iff : interface.ownRefused? = none ↔ interface.Unclaimed := by
  simp only [ownRefused?, List.find?_eq_none, Bool.not_eq_true, Option.isSome_eq_false_iff,
    Option.isNone_iff_eq_none, Unclaimed]

theorem ownRefused?_eq_some_iff :
    interface.ownRefused? = some name ↔
      ∃ before after, Boundary.refused.map Prod.fst = before ++ name :: after ∧
        (∀ earlier ∈ before, interface.own.lookup earlier = none) ∧
          (interface.own.lookup name).isSome = true := by
  rw [ownRefused?, List.find?_eq_some_iff_append]
  constructor
  · rintro ⟨claimed, before, after, split, unclaimed⟩
    exact ⟨before, after, split, fun earlier member => by simpa using unclaimed earlier member,
      claimed⟩
  · rintro ⟨before, after, split, unclaimed, claimed⟩
    exact ⟨claimed, before, after, split, fun earlier member => by simp [unclaimed earlier member]⟩

theorem uncallable_eq_nil_iff :
    interface.uncallable = [] ↔ ∀ operation ∈ Boundary.supported, interface.Callable operation := by
  simp only [List.eq_nil_iff_forall_not_mem, mem_uncallable_iff, not_and, not_not]

/-! ## What is changed -/

theorem lookup_setSlot_self (slots : List (String × Slot ν)) :
    (setSlot name slot slots).lookup name = some slot := by
  induction slots with
  | nil => simp [setSlot]
  | cons first rest ih =>
    obtain ⟨key, old⟩ := first
    by_cases same : key = name
    · rw [setSlot, if_pos same, List.lookup_cons, same, beq_self_eq_true]
    · rw [setSlot, if_neg same, List.lookup_cons, beq_eq_false_iff_ne.mpr (Ne.symm same)]
      exact ih

theorem lookup_setSlot_of_ne (different : other ≠ name) (slots : List (String × Slot ν)) :
    (setSlot name slot slots).lookup other = slots.lookup other := by
  induction slots with
  | nil => simp [setSlot, different]
  | cons first rest ih =>
    obtain ⟨key, old⟩ := first
    by_cases same : key = name
    · rw [setSlot, if_pos same, List.lookup_cons, List.lookup_cons, same,
        beq_eq_false_iff_ne.mpr different]
    · rw [setSlot, if_neg same, List.lookup_cons, List.lookup_cons, ih]

def giveAll (interface : Interface ν) (refusals : List (String × Refusal)) : Interface ν :=
  refusals.foldl (fun interface (operation, refusal) =>
    interface.give operation (.refused operation refusal)) interface

variable {operation : String} {refusal : Refusal} {refusals : List (String × Refusal)}

theorem giveAll_cons (interface : Interface ν) (refusals : List (String × Refusal)) :
    interface.giveAll ((operation, refusal) :: refusals) =
      (interface.give operation (.refused operation refusal)).giveAll refusals := rfl

/-- The names that are given no slot stand for what they stood for, and what is inherited stays. -/
theorem giveAll_of_not_mem (interface : Interface ν) (outside : name ∉ refusals.map Prod.fst) :
    (interface.giveAll refusals).own.lookup name = interface.own.lookup name := by
  induction refusals generalizing interface with
  | nil => rfl
  | cons first rest ih =>
    rw [List.map_cons, List.mem_cons, not_or] at outside
    rw [giveAll_cons, ih _ outside.2]
    exact lookup_setSlot_of_ne outside.1 interface.own

theorem giveAll_of_mem (interface : Interface ν) (nodup : (refusals.map Prod.fst).Nodup)
    (member : (operation, refusal) ∈ refusals) :
    (interface.giveAll refusals).own.lookup operation = some (.refused operation refusal) := by
  induction refusals generalizing interface with
  | nil => cases member
  | cons first rest ih =>
    rw [List.map_cons, List.nodup_cons] at nodup
    rw [giveAll_cons]
    obtain rfl | member := List.mem_cons.mp member
    · rw [giveAll_of_not_mem _ nodup.1]
      exact lookup_setSlot_self interface.own
    · exact ih _ nodup.2 member

theorem giveAll_rest (interface : Interface ν) (refusals : List (String × Refusal)) :
    (interface.giveAll refusals).name = interface.name ∧
      (interface.giveAll refusals).inherited = interface.inherited := by
  induction refusals generalizing interface with
  | nil => exact ⟨rfl, rfl⟩
  | cons first rest ih => exact ih _

theorem slot?_giveAll_of_not_mem (interface : Interface ν)
    (outside : name ∉ refusals.map Prod.fst) :
    (interface.giveAll refusals).slot? name = interface.slot? name := by
  rw [slot?, giveAll_of_not_mem interface outside, (giveAll_rest interface refusals).2, ← slot?]

/-- Slots are given one after another, and none of them can fail. -/
theorem run_forM_give (interface : Interface ν) (refusals : List (String × Refusal)) :
    (refusals.forM fun (operation, refusal) => modify fun interface : Interface ν =>
      interface.give operation (.refused operation refusal) :
        EStateM BoundaryError (Interface ν) Unit).run interface =
      .ok () (interface.giveAll refusals) := by
  induction refusals generalizing interface with
  | nil => rfl
  | cons first rest ih => exact ih _

/-! ## What comes of drawing the boundary -/

theorem run_refuseOutside (interface : Interface ν) :
    refuseOutside.run interface =
      match interface.ownRefused? with
      | some operation => .error (.implementedAndRefused interface.name operation) interface
      | none =>
        if interface.uncallable = [] then .ok () (interface.giveAll Boundary.refused)
        else .error (.notImplemented interface.name interface.uncallable) interface := by
  unfold refuseOutside
  rw [EStateM.run_bind, EStateM.run_get]
  cases claimed : interface.ownRefused? with
  | some operation => simp [claimed]
  | none =>
    by_cases able : interface.uncallable = []
    · simp only [claimed, able, List.isEmpty_nil, if_true]
      exact run_forM_give interface Boundary.refused
    · simp [claimed, able]

theorem run_eq_ok_iff {drawn : Interface ν} :
    refuseOutside.run interface = .ok () drawn ↔
      interface.Drawable ∧ interface.giveAll Boundary.refused = drawn := by
  rw [run_refuseOutside]
  cases claimed : interface.ownRefused? with
  | some operation =>
    have taken : ¬ interface.Unclaimed := by simp [← ownRefused?_eq_none_iff, claimed]
    simp only [reduceCtorEq, false_iff]
    exact fun drawable => taken drawable.1.unclaimed
  | none =>
    have free := ownRefused?_eq_none_iff.mp claimed
    by_cases able : interface.uncallable = []
    · have drawable : interface.Drawable := ⟨free, uncallable_eq_nil_iff.mp able⟩
      simp [able, drawable]
    · simp only [able, if_false, reduceCtorEq, false_iff]
      exact fun drawable => able (uncallable_eq_nil_iff.mpr drawable.1.callable)

theorem run_eq_error_iff {error : BoundaryError} {left : Interface ν} :
    refuseOutside.run interface = .error error left ↔
      interface.Objection error ∧ left = interface := by
  rw [run_refuseOutside]
  constructor
  · cases claimed : interface.ownRefused? with
    | some operation =>
      rintro ⟨⟩
      obtain ⟨before, after, split, earlier, own⟩ := ownRefused?_eq_some_iff.mp claimed
      exact ⟨.claimed split earlier own, rfl⟩
    | none =>
      by_cases able : interface.uncallable = []
      · simp [able]
      · simp only [able, if_false]
        rintro ⟨⟩
        exact ⟨.uncallable (ownRefused?_eq_none_iff.mp claimed)
          ⟨able, sorted_uncallable, fun _ => mem_uncallable_iff⟩, rfl⟩
  · rintro ⟨objection, rfl⟩
    cases objection with
    | claimed split earlier own =>
      rw [ownRefused?_eq_some_iff.mpr ⟨_, _, split, earlier, own⟩]
    | uncallable free lists =>
      have found := (eq_iff_lists sorted_uncallable (fun _ => mem_uncallable_iff) lists.some).mpr
        lists
      rw [ownRefused?_eq_none_iff.mpr free, found]
      simp [lists.some]

theorem alikeBut_giveAll (interface : Interface ν) (refusals : List (String × Refusal))
    (attributes : List (String × Member ν)) :
    Object.AlikeBut (refusals.map Prod.fst) ⟨interface, attributes⟩
      ⟨interface.giveAll refusals, attributes⟩ := by
  intro name outside
  simp only [Object.slot?, slot?_giveAll_of_not_mem interface outside]

/-- A slot that cannot be called hides the method that is inherited under its name. -/
example :
    let inherited := Boundary.supported.map fun name =>
      (name, Slot.member (.method fun _ => pure (.value name)))
    let topics : Interface String := ⟨"Topics", [("open", .member (.constant ""))], inherited⟩
    refuseOutside.run topics = .error (.notImplemented "Topics" ["open"]) topics := rfl

/-- A refusal that tells a name is not reached on an object that has none. -/
example :
    let topics : Interface String := Interface.giveAll ⟨"Topics", [], []⟩ Boundary.refused
    (Object.use ⟨topics, []⟩ 9 (.call "create_table" [])).1 = .missing nameMember := rfl

end TopicTables.Interface
