import TopicTables.Boundary.Object

/-! # What is done on objects

A refused operation ends by its kind, by its arguments and by what comes of reading the name of the
object. Two objects on which some names stand for other things show no difference as long as none of
these names is used.
-/

namespace TopicTables

variable {ν : Type}

/-- What comes of a refusal that tells the name of its object, by what comes of reading that. -/
def UseEnd.naming (named : UseEnd ν) (ending : Option ν → RefusedEnd (Option ν)) : UseEnd ν :=
  match named with
  | value name => .refused (ending (some name))
  | callable => .refused (ending none)
  | other => other

/-- What comes of an operation that is refused in some way, by what comes of reading the name of its
object. -/
def Refusal.endOn (refusal : Refusal) (operation : String) (arguments : List Argument)
    (named : UseEnd ν) : UseEnd ν :=
  match refusal, arguments with
  | unsupported, _ => named.naming fun name => .unsupported operation name
  | functionNotFound, reference :: _ => named.naming fun name => .functionNotFound name reference
  | functionNotFound, [] => .refused .noReference
  | unknownTableStatistics, _ => .refused (.answer (.tableStatistics .unknown))
  | unknownColumnStatistics, _ => .refused (.answer (.columnStatistics .unknown))

/-- Read the name of the object and end with a refusal that tells it. -/
def Script.naming (ending : Option ν → RefusedEnd (Option ν)) : Script ν (UseEnd ν) :=
  .step (.read nameMember) fun named => .ended (named.naming ending)

theorem Script.run_naming (ending : Option ν → RefusedEnd (Option ν))
    (answer : Use → UseEnd ν × List String) :
    ((naming ending).run answer).1 = (answer (.read nameMember)).1.naming ending := rfl

theorem Refusal.script_unsupported (operation : String) (arguments : List Argument) :
    (unsupported.script operation arguments : Script ν (UseEnd ν)) =
      .naming fun name => .unsupported operation name := by
  refine congrArg (Script.step (.read nameMember)) (funext fun named => ?_)
  cases named <;> rfl

theorem Refusal.script_functionNotFound (operation : String) (reference : Argument)
    (others : List Argument) :
    (functionNotFound.script operation (reference :: others) : Script ν (UseEnd ν)) =
      .naming fun name => .functionNotFound name reference := by
  refine congrArg (Script.step (.read nameMember)) (funext fun named => ?_)
  cases named <;> rfl

theorem Refusal.run_script (refusal : Refusal) (operation : String) (arguments : List Argument)
    (answer : Use → UseEnd ν × List String) :
    ((refusal.script operation arguments).run answer).1 =
      refusal.endOn operation arguments (answer (.read nameMember)).1 := by
  cases refusal with
  | unsupported =>
    rw [endOn, script_unsupported, Script.run_naming]
  | functionNotFound =>
    cases arguments with
    | nil => rfl
    | cons reference others => rw [endOn, script_functionNotFound, Script.run_naming]
  | unknownTableStatistics => rfl
  | unknownColumnStatistics => rfl

namespace Script

variable {α : Type} {script : Script ν α} {answer answer' : Use → UseEnd ν × List String}

/-- Answers that agree as long as some names are not used lead a script that does not use them to the
same end. -/
theorem run_congr {hidden : List String}
    (same : ∀ use, (∀ name ∈ (answer use).2, name ∉ hidden) → answer' use = answer use)
    (apart : ∀ name ∈ (script.run answer).2, name ∉ hidden) :
    script.run answer' = script.run answer := by
  induction script with
  | ended result => rfl
  | step use next ih =>
    simp only [run, List.mem_append] at apart
    have first := same use fun name used => apart name (.inl used)
    simp only [run, first]
    rw [ih _ fun name used => apart name (.inr used)]

end Script

namespace Object

theorem slot?_of_refused {object : Object ν} {operation name : String} {refusal : Refusal}
    (slot : object.interface.slot? name = some (.refused operation refusal))
    (free : object.attributes.lookup name = none) :
    object.slot? name = some (.refused operation refusal) := by
  simp only [slot?, slot, free]
  rfl

theorem use_call_of_refused {object : Object ν} {operation name : String} {refusal : Refusal}
    (slot : object.slot? name = some (.refused operation refusal)) (depth : Nat)
    (arguments : List Argument) :
    (object.use (depth + 1) (.call name arguments)).1 =
      refusal.endOn operation arguments (object.use depth (.read nameMember)).1 := by
  simp only [use, Use.name, slot]
  exact refusal.run_script operation arguments _

/-- Objects that differ in the slots of some names only. -/
def AlikeBut (hidden : List String) (object object' : Object ν) : Prop :=
  ∀ name ∉ hidden, object'.slot? name = object.slot? name

theorem AlikeBut.symm {hidden : List String} {object object' : Object ν}
    (alike : object.AlikeBut hidden object') : object'.AlikeBut hidden object :=
  fun name outside => (alike name outside).symm

theorem name_mem_use (object : Object ν) (depth : Nat) (use : Use) :
    use.name ∈ (object.use depth use).2 := by
  cases depth with
  | zero => exact List.mem_singleton_self _
  | succ depth =>
    rw [Object.use]
    cases object.slot? use.name with
    | none => exact List.mem_singleton_self _
    | some slot => exact List.mem_cons_self

/-- As long as none of the names is used, nothing shows the difference. -/
theorem AlikeBut.use_eq {hidden : List String} {object object' : Object ν}
    (alike : object.AlikeBut hidden object') (depth : Nat) (use : Use)
    (apart : ∀ name ∈ (object.use depth use).2, name ∉ hidden) :
    object'.use depth use = object.use depth use := by
  induction depth generalizing use with
  | zero => rfl
  | succ depth ih =>
    have same := alike use.name (apart _ (name_mem_use ..))
    rw [Object.use, Object.use, same]
    rw [Object.use] at apart
    cases slot : object.slot? use.name with
    | none => rfl
    | some slot =>
      simp only [slot, List.mem_cons] at apart
      have ran := Script.run_congr (fun use => ih use) fun name used => apart name (.inr used)
      simp only [ran]

end Object

end TopicTables
