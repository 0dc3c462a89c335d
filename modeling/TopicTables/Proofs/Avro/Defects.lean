import TopicTables.Proofs.Avro.Walk

/-! # What a check that breaks off has met

A check breaks off only at an object that lacks something: a type, the part that its type asks for,
a size that is a number of bytes, a name that can be split, or a default that is a float.
-/

namespace TopicTables.Avro
open Number

/-- The members are those of an object somewhere in the value. -/
inductive Within : Json → List (String × Json) → Prop
  | self {members : List (String × Json)} : Within (.obj members) members
  | item {items : List Json} {item : Json} {members : List (String × Json)} :
    item ∈ items → Within item members → Within (.arr items) members
  | member {outer : List (String × Json)} {key : String} {value : Json}
      {members : List (String × Json)} :
    (key, value) ∈ outer → Within value members → Within (.obj outer) members

/-- A name that is no text but holds a point, as an item or as a key. -/
inductive Unsplittable : Json → Prop
  | items {items : List Json} : items.contains (.str ".") = true → Unsplittable (.arr items)
  | keys {members : List (String × Json)} :
    (members.lookup ".").isSome = true → Unsplittable (.obj members)

def BeyondFloats (value : Json) : Prop :=
  ∃ n, value = .int n ∧ ofInt? n = none

def Form.part? : Form → Option String
  | .array => some "items"
  | .map => some "values"
  | .enum => some "symbols"
  | .fixed => some "size"
  | _ => none

/-- What an object lacks when a check breaks off at it. -/
inductive Lacks (members : List (String × Json)) : Defect → Prop
  | type : members.lookup "type" = none → Lacks members (.missingMember "type")
  | part {form : Form} {key : String} :
    members.lookup "type" = some (.str form.word) → form.part? = some key →
      members.lookup key = none → Lacks members (.missingMember key)
  | size {size : Json} {defect : Defect} :
    members.lookup "type" = some (.str "fixed") →
      members.lookup "logicalType" = some (.str "decimal") → members.lookup "size" = some size →
        maxPrecision size = .error (.broken defect) → Lacks members defect
  | name {name : Json} :
    members.lookup "name" = some name → Unsplittable name →
      Lacks members (.notOffered name "rsplit")
  | default {value : Json} :
    members.lookup "default" = some value → BeyondFloats value → Lacks members .tooLarge
  | brought {mark types : Json} :
    members.lookup checkedMark = some mark → members.lookup broughtTypes = some types →
      (∀ members, types ≠ .obj members) → Lacks members (.notOffered types "items")

/-- Some object in the value lacks something. -/
def LacksWithin (value : Json) (defect : Defect) : Prop :=
  ∃ members, Within value members ∧ Lacks members defect

variable {space : Json} {members : List (String × Json)} {defect : Defect} {scope : Scope}

/-! ## Parts that do not walk -/

theorem checkDefault_ne_broken {fallback : Option Json} {typeName : String} {test : Json → Bool} :
    checkDefault fallback typeName test ≠ .error (.broken defect) := by
  intro failed
  cases fallback with
  | none => cases failed
  | some value =>
    rw [checkDefault] at failed
    split at failed <;> cases failed

theorem beyondFloats_of_admits {p : Primitive} {value : Json}
    (failed : p.admits value = .error (.broken defect)) :
    BeyondFloats value ∧ defect = .tooLarge := by
  have converts (failed : convertsToFloat value = .error (.broken defect)) :
      BeyondFloats value ∧ defect = .tooLarge := by
    cases value with
    | int n =>
      rw [convertsToFloat] at failed
      split at failed
      · cases failed
      · rename_i beyond
        cases failed
        exact ⟨⟨n, rfl, by simpa using beyond⟩, rfl⟩
    | _ => cases failed
  cases p with
  | float => exact converts failed
  | double => exact converts failed
  | _ => cases value <;> cases failed

theorem beyondFloats_of_admittedBySome {value : Json} {kinds : List Branch}
    (failed : admittedBySome value kinds = .error (.broken defect)) :
    BeyondFloats value ∧ defect = .tooLarge := by
  induction kinds with
  | nil => cases failed
  | cons kind rest ih =>
    cases kind with
    | other => cases failed
    | primitive p =>
      rw [admittedBySome] at failed
      obtain first | ⟨suits, -, later⟩ := Results.bind_eq_error_iff.mp failed
      · exact beyondFloats_of_admits first
      · cases suits with
        | true => cases later
        | false => exact ih later

theorem unsplittable_of_declaration
    (failed : declaration space members = .error (.broken defect)) :
    ∃ name, members.lookup "name" = some name ∧ Unsplittable name ∧
      defect = .notOffered name "rsplit" := by
  unfold declaration at failed
  cases named : members.lookup "name" with
  | none =>
    simp only [named] at failed
    cases failed
  | some name =>
    simp only [named] at failed
    cases name with
    | arr items =>
      simp only at failed
      split at failed
      · rename_i holds
        cases failed
        exact ⟨_, rfl, .items holds, rfl⟩
      · split at failed <;> cases failed
    | obj inner =>
      simp only at failed
      split at failed
      · rename_i holds
        cases failed
        exact ⟨_, rfl, .keys holds, rfl⟩
      · split at failed <;> cases failed
    | str name =>
      simp only at failed
      repeat' split at failed
      all_goals cases failed
    | _ => cases failed

theorem isListed_ne_broken {symbols value : Json} :
    isListed symbols value ≠ .error (.broken defect) := by
  intro failed
  unfold isListed at failed
  split at failed <;> cases failed

theorem symbols_of_checkSymbols (failed : checkSymbols members = .error (.broken defect)) :
    members.lookup "symbols" = none ∧ defect = .missingMember "symbols" := by
  unfold checkSymbols at failed
  cases given : members.lookup "symbols" with
  | none =>
    simp only [given] at failed
    cases failed
    exact ⟨rfl, rfl⟩
  | some symbols =>
    simp only [given] at failed
    split at failed
    · cases failed
    · split at failed
      · cases failed
      · split at failed
        · cases failed
        · split at failed
          · cases failed
          · obtain listed | ⟨listed, -, failed⟩ := Results.bind_eq_error_iff.mp failed
            · exact absurd listed isListed_ne_broken
            · split at failed <;> cases failed

theorem checkScale_ne_broken {scale : Json} : checkScale scale ≠ .error (.broken defect) := by
  intro failed
  rw [checkScale] at failed
  split at failed <;> cases failed

theorem checkScaleFits_ne_broken {scale precision : Json} :
    checkScaleFits scale precision ≠ .error (.broken defect) := by
  intro failed
  rw [checkScaleFits.eq_def] at failed
  repeat' split at failed
  all_goals cases failed

theorem size_of_checkPrecision {precision : Json} {isFixed : Bool}
    (failed : checkPrecision precision isFixed members = .error (.broken defect)) :
    isFixed = true ∧
      (members.lookup "size" = none ∧ defect = .missingMember "size" ∨
        ∃ size, members.lookup "size" = some size ∧
          maxPrecision size = .error (.broken defect)) := by
  rw [checkPrecision] at failed
  split at failed
  · cases failed
  · split at failed
    · cases failed
    · split at failed
      · cases failed
      · split at failed
        · cases failed
        · rename_i fixed
          refine ⟨by simpa using fixed, ?_⟩
          cases given : members.lookup "size" with
          | none =>
            simp only [given] at failed
            cases failed
            exact .inl ⟨rfl, rfl⟩
          | some size =>
            simp only [given] at failed
            obtain failed | ⟨digits, -, failed⟩ := Results.bind_eq_error_iff.mp failed
            · exact .inr ⟨size, rfl, failed⟩
            · split at failed <;> cases failed

theorem lacks_of_checkDecimal {type : Json} (given : members.lookup "type" = some type)
    (failed : checkDecimal type members = .error (.broken defect)) : Lacks members defect := by
  rw [checkDecimal] at failed
  split at failed
  · rename_i decimal
    obtain scale | ⟨⟨⟩, -, failed⟩ := Results.bind_eq_error_iff.mp failed
    · exact absurd scale checkScale_ne_broken
    · obtain precision | ⟨⟨⟩, -, failed⟩ := Results.bind_eq_error_iff.mp failed
      · obtain ⟨fixed, cases⟩ := size_of_checkPrecision precision
        rw [decide_eq_true_eq] at fixed
        rw [fixed] at given
        obtain ⟨missing, rfl⟩ | ⟨size, sized, failed⟩ := cases
        · have word : members.lookup "type" = some (.str Form.fixed.word) := given
          exact .part word rfl missing
        · exact .size given decimal sized failed
      · exact absurd failed checkScaleFits_ne_broken
  · cases failed

theorem checkFieldShape_ne_broken : checkFieldShape members ≠ .error (.broken defect) := by
  intro failed
  rw [checkFieldShape] at failed
  repeat' split at failed
  all_goals cases failed

theorem refer_ne_broken {name : String} : refer space name scope ≠ .error (.broken defect) := by
  intro failed
  obtain failed | ⟨fullName, -, failed⟩ := Results.bind_eq_error_iff.mp failed
  · unfold referent at failed
    repeat' split at failed
    all_goals cases failed
  · split at failed <;> cases failed

theorem lacks_of_declareNamed
    (failed : declareNamed space members scope = .error (.broken defect)) :
    Lacks members defect := by
  rw [declareNamed] at failed
  obtain failed | ⟨d, _, -, failed⟩ := Check.bind_eq_error_iff.mp failed
  · obtain ⟨name, named, unsplittable, rfl⟩ :=
      unsplittable_of_declaration (Check.lift_eq_error_iff.mp failed)
    exact .name named unsplittable
  · obtain failed | ⟨_, _, -, failed⟩ := Check.bind_eq_error_iff.mp failed
    · rw [declare] at failed
      split at failed <;> cases failed
    · exact absurd failed Check.pure_ne_error

theorem checkFieldsValue_ne_broken {value : Json} (noList : ∀ items, value ≠ .arr items) :
    checkFieldsValue space value scope ≠ .error (.broken defect) := by
  intro failed
  rw [checkFieldsValue.eq_2 _ _ noList] at failed
  cases offered : itemsOf? value with
  | none =>
    rw [offered] at failed
    cases failed
  | some items =>
    rw [offered] at failed
    cases items <;> cases failed

/-! ## The walk -/

theorem LacksWithin.of_item {items : List Json}
    (lacking : ∃ item ∈ items, LacksWithin item defect) :
    LacksWithin (.arr items) defect := by
  obtain ⟨item, mem, members, within, lacks⟩ := lacking
  exact ⟨members, .item mem within, lacks⟩

theorem LacksWithin.of_member
    (lacking : ∃ member ∈ members, LacksWithin member.2 defect) :
    LacksWithin (.obj members) defect := by
  obtain ⟨⟨key, value⟩, mem, inner, within, lacks⟩ := lacking
  exact ⟨inner, .member mem within, lacks⟩

theorem lacks_of_fields {fallback : Option Json} {checkUnder : String → Check Unit}
    {checkFieldsIn : Json → Check Unit} {form : Form} (isFields : form = .record ∨ form = .error)
    (failed : checkForm space fallback members checkUnder checkFieldsIn form scope =
      .error (.broken defect)) :
    Lacks members defect ∨
      ∃ inner between, checkFieldsIn inner between = .error (.broken defect) := by
  rw [checkForm_of_fields isFields] at failed
  obtain named | ⟨_, _, -, failed⟩ := Check.bind_eq_error_iff.mp failed
  · exact .inl (lacks_of_declareNamed named)
  obtain default | ⟨_, _, -, failed⟩ := Check.bind_eq_error_iff.mp failed
  · exact absurd (Check.lift_eq_error_iff.mp default) checkDefault_ne_broken
  obtain registered | ⟨_, _, -, fields⟩ := Check.bind_eq_error_iff.mp failed
  · cases registered
  · exact .inr ⟨_, _, fields⟩

/-- The check of an object breaks off at the object itself or in one of its parts. -/
theorem lacks_of_checkForm {fallback : Option Json} {checkUnder : String → Check Unit}
    {checkFieldsIn : Json → Check Unit} {form : Form}
    (given : members.lookup "type" = some (.str form.word))
    (failed : checkForm space fallback members checkUnder checkFieldsIn form scope =
      .error (.broken defect)) :
    Lacks members defect ∨
      (∃ key between, form.part? = some key ∧
        checkUnder key between = .error (.broken defect)) ∨
      ∃ inner between, checkFieldsIn inner between = .error (.broken defect) := by
  have default {typeName : String} {test : Json → Bool} {between : Scope} :
      (liftM (checkDefault fallback typeName test) : Check Unit) between ≠
        .error (.broken defect) :=
    fun failed => checkDefault_ne_broken (Check.lift_eq_error_iff.mp failed)
  cases form with
  | primitive p => exact absurd failed default
  | array =>
    obtain under | ⟨_, _, -, failed⟩ := Check.bind_eq_error_iff.mp failed
    · exact .inr (.inl ⟨_, _, rfl, under⟩)
    · exact absurd failed default
  | map =>
    obtain under | ⟨_, _, -, failed⟩ := Check.bind_eq_error_iff.mp failed
    · exact .inr (.inl ⟨_, _, rfl, under⟩)
    · exact absurd failed default
  | enum =>
    obtain named | ⟨_, _, -, failed⟩ := Check.bind_eq_error_iff.mp failed
    · exact .inl (lacks_of_declareNamed named)
    obtain symbols | ⟨_, _, -, failed⟩ := Check.bind_eq_error_iff.mp failed
    · obtain ⟨missing, rfl⟩ := symbols_of_checkSymbols (Check.lift_eq_error_iff.mp symbols)
      exact .inl (.part given rfl missing)
    obtain failed | ⟨_, _, -, failed⟩ := Check.bind_eq_error_iff.mp failed
    · exact absurd failed default
    · cases failed
  | fixed =>
    obtain named | ⟨_, _, -, failed⟩ := Check.bind_eq_error_iff.mp failed
    · exact .inl (lacks_of_declareNamed named)
    obtain failed | ⟨_, _, -, failed⟩ := Check.bind_eq_error_iff.mp failed
    · exact absurd failed default
    obtain failed | ⟨_, _, -, failed⟩ := Check.bind_eq_error_iff.mp failed
    · cases failed
    split at failed
    · rename_i missing
      cases failed
      exact .inl (.part given rfl (by simpa using missing))
    · exact absurd failed Check.pure_ne_error
  | record => exact (lacks_of_fields (.inl rfl) failed).imp_right .inr
  | error => exact (lacks_of_fields (.inr rfl) failed).imp_right .inr

/-- The check of an object whose type has a form breaks off at the object or as its form does. -/
theorem lacks_of_checkObject {fallback : Option Json}
    (failed : checkSchema space fallback (.obj members) scope = .error (.broken defect)) :
    Lacks members defect ∨
      (∃ (form : Form) (key : String) (between : Scope),
        members.lookup "type" = some (.str form.word) ∧ form.part? = some key ∧
          checkMember space none key members between = .error (.broken defect)) ∨
      ∃ inner between, checkFieldsMember inner members between = .error (.broken defect) := by
  rw [checkSchema] at failed
  cases given : members.lookup "type" with
  | none =>
    rw [given] at failed
    cases failed
    exact .inl (.type given)
  | some type =>
    rw [given] at failed
    obtain decimal | ⟨_, _, -, rest⟩ := Check.bind_eq_error_iff.mp failed
    · exact .inl (lacks_of_checkDecimal given (Check.lift_eq_error_iff.mp decimal))
    clear failed
    cases type with
    | str word =>
      cases known : Form.ofWord? word with
      | none =>
        simp only [known] at rest
        cases rest
      | some form =>
        simp only [known] at rest
        cases Form.word_of_ofWord? known
        obtain parts | ⟨_, _, -, rest⟩ := Check.bind_eq_error_iff.mp rest
        · obtain lacks | ⟨key, between, asked, under⟩ | fields := lacks_of_checkForm given parts
          · exact .inl lacks
          · exact .inr (.inl ⟨form, key, between, rfl, asked, under⟩)
          · exact .inr (.inr fields)
        · exact absurd rest Check.pure_ne_error
    | _ => cases rest

/-- A walk that breaks off at the default that a field gives, and not at a part of the schema. -/
def BreaksAtDefault (fallback : Option Json) (defect : Defect) : Prop :=
  (∃ value, fallback = some value ∧ BeyondFloats value) ∧ defect = .tooLarge

mutual

theorem lacks_of_checkSchema {fallback : Option Json} (schema space : Json) (scope : Scope)
    (failed : checkSchema space fallback schema scope = .error (.broken defect)) :
    LacksWithin schema defect ∨ BreaksAtDefault fallback defect := by
  match schema with
  | .arr branches =>
    rw [checkSchema] at failed
    obtain walked | ⟨kinds, _, -, failed⟩ := Check.bind_eq_error_iff.mp failed
    · exact .inl (.of_item (lacks_of_checkBranches branches space scope walked))
    cases fallback with
    | none => exact absurd failed Check.pure_ne_error
    | some value =>
      obtain failed | ⟨admitted, _, -, failed⟩ := Check.bind_eq_error_iff.mp failed
      · obtain ⟨beyond, rfl⟩ := beyondFloats_of_admittedBySome (Check.lift_eq_error_iff.mp failed)
        exact .inr ⟨⟨value, rfl, beyond⟩, rfl⟩
      · split at failed <;> cases failed
  | .obj members =>
    obtain lacks | ⟨form, key, between, given, asked, under⟩ | ⟨inner, between, fields⟩ :=
      lacks_of_checkObject failed
    · exact .inl ⟨members, .self, lacks⟩
    · obtain ⟨missing, rfl⟩ | lacks | ⟨⟨_, none, -⟩, -⟩ :=
        lacks_of_checkMember members space key between under
      · exact .inl ⟨members, .self, .part given asked missing⟩
      · exact .inl (.of_member lacks)
      · cases none
    · exact .inl (.of_member (lacks_of_checkFieldsMember members inner between fields))
  | .str name =>
    unfold checkSchema at failed
    cases word : Primitive.ofName? name with
    | none =>
      rw [word] at failed
      exact absurd failed refer_ne_broken
    | some p =>
      rw [word] at failed
      cases fallback with
      | none => exact absurd failed Check.pure_ne_error
      | some value =>
        obtain failed | ⟨admitted, _, -, failed⟩ := Check.bind_eq_error_iff.mp failed
        · obtain ⟨beyond, rfl⟩ := beyondFloats_of_admits (Check.lift_eq_error_iff.mp failed)
          exact .inr ⟨⟨value, rfl, beyond⟩, rfl⟩
        · split at failed <;> cases failed
  | .null | .bool _ | .int _ | .float _ => cases failed
termination_by structural schema

theorem lacks_of_checkBranches (branches : List Json) (space : Json) (scope : Scope)
    (failed : checkBranches space branches scope = .error (.broken defect)) :
    ∃ branch ∈ branches, LacksWithin branch defect := by
  match branches with
  | [] => exact absurd failed Check.pure_ne_error
  | branch :: rest =>
    rw [checkBranches] at failed
    obtain first | ⟨_, between, -, failed⟩ := Check.bind_eq_error_iff.mp failed
    · obtain lacks | ⟨⟨_, none, -⟩, -⟩ := lacks_of_checkSchema branch space scope first
      · exact ⟨branch, List.mem_cons_self, lacks⟩
      · cases none
    · obtain later | ⟨_, _, -, failed⟩ := Check.bind_eq_error_iff.mp failed
      · obtain ⟨other, mem, lacks⟩ := lacks_of_checkBranches rest space between later
        exact ⟨other, List.mem_cons_of_mem _ mem, lacks⟩
      · exact absurd failed Check.pure_ne_error
termination_by structural branches

theorem lacks_of_checkMember {fallback : Option Json} (members : List (String × Json))
    (space : Json) (key : String) (scope : Scope)
    (failed : checkMember space fallback key members scope = .error (.broken defect)) :
    members.lookup key = none ∧ defect = .missingMember key ∨
      (∃ member ∈ members, LacksWithin member.2 defect) ∨ BreaksAtDefault fallback defect := by
  match members with
  | [] =>
    cases failed
    exact .inl ⟨rfl, rfl⟩
  | (k, value) :: rest =>
    rw [checkMember] at failed
    split at failed
    · obtain inner | ⟨_, _, -, failed⟩ := Check.bind_eq_error_iff.mp failed
      · obtain lacks | breaks := lacks_of_checkSchema value space scope inner
        · exact .inr (.inl ⟨_, List.mem_cons_self, lacks⟩)
        · exact .inr (.inr breaks)
      · exact absurd failed Check.pure_ne_error
    · rename_i other
      obtain ⟨missing, same⟩ | ⟨member, mem, lacks⟩ | breaks :=
        lacks_of_checkMember rest space key scope failed
      · refine .inl ⟨?_, same⟩
        rw [List.lookup_cons, beq_eq_false_iff_ne.mpr fun same => other (by simp [same])]
        exact missing
      · exact .inr (.inl ⟨member, List.mem_cons_of_mem _ mem, lacks⟩)
      · exact .inr (.inr breaks)
termination_by structural members

theorem lacks_of_checkFieldsMember (members : List (String × Json)) (space : Json) (scope : Scope)
    (failed : checkFieldsMember space members scope = .error (.broken defect)) :
    ∃ member ∈ members, LacksWithin member.2 defect := by
  match members with
  | [] => exact absurd failed Check.pure_ne_error
  | (k, value) :: rest =>
    rw [checkFieldsMember] at failed
    split at failed
    · exact ⟨_, List.mem_cons_self, lacks_of_checkFieldsValue value space scope failed⟩
    · obtain ⟨member, mem, lacks⟩ := lacks_of_checkFieldsMember rest space scope failed
      exact ⟨member, List.mem_cons_of_mem _ mem, lacks⟩
termination_by structural members

theorem lacks_of_checkFieldsValue (value space : Json) (scope : Scope)
    (failed : checkFieldsValue space value scope = .error (.broken defect)) :
    LacksWithin value defect := by
  match value with
  | .arr fields => exact .of_item (lacks_of_checkFields fields space scope failed)
  | .str _ | .obj _ =>
    exact absurd failed (checkFieldsValue_ne_broken fun _ => Json.noConfusion)
  | .null | .bool _ | .int _ | .float _ => cases failed
termination_by structural value

theorem lacks_of_checkFields (fields : List Json) (space : Json) (scope : Scope)
    (failed : checkFields space fields scope = .error (.broken defect)) :
    ∃ field ∈ fields, LacksWithin field defect := by
  match fields with
  | [] => exact absurd failed Check.pure_ne_error
  | field :: rest =>
    rw [checkFields] at failed
    obtain first | ⟨_, between, -, failed⟩ := Check.bind_eq_error_iff.mp failed
    · exact ⟨field, List.mem_cons_self, lacks_of_checkField field space scope first⟩
    · obtain ⟨other, mem, lacks⟩ := lacks_of_checkFields rest space between failed
      exact ⟨other, List.mem_cons_of_mem _ mem, lacks⟩
termination_by structural fields

theorem lacks_of_checkField (field space : Json) (scope : Scope)
    (failed : checkField space field scope = .error (.broken defect)) :
    LacksWithin field defect := by
  match field with
  | .obj members =>
    rw [checkField] at failed
    obtain shape | ⟨_, between, -, failed⟩ := Check.bind_eq_error_iff.mp failed
    · exact absurd (Check.lift_eq_error_iff.mp shape) checkFieldShape_ne_broken
    · obtain ⟨missing, rfl⟩ | lacks | ⟨⟨value, given, beyond⟩, rfl⟩ :=
        lacks_of_checkMember members space "type" between failed
      · exact ⟨members, .self, .type missing⟩
      · exact .of_member lacks
      · exact ⟨members, .self, .default given beyond⟩
  | .null | .bool _ | .int _ | .float _ | .str _ | .arr _ => cases failed
termination_by structural field

end

theorem lacks_of_checkAlone {schema : Json} {types : NamedTypes}
    (failed : checkAlone schema types = .error (.broken defect)) : LacksWithin schema defect := by
  rw [checkAlone] at failed
  cases checked : checkSchema (.str "") none schema ⟨[], types⟩ with
  | ok reached =>
    rw [checked] at failed
    cases failed
  | error fault =>
    rw [checked] at failed
    cases failed
    obtain lacks | ⟨⟨_, none, -⟩, -⟩ := lacks_of_checkSchema schema _ _ checked
    · exact lacks
    · cases none

theorem lacks_of_checkTopObject {types : NamedTypes}
    (failed : checkTopObject members types = .error (.broken defect)) :
    LacksWithin (.obj members) defect := by
  rw [checkTopObject.eq_def] at failed
  split at failed
  · cases failed
  · rename_i mark brought noObject marked brings
    cases failed
    exact ⟨members, .self, .brought marked brings noObject⟩
  · exact lacks_of_checkAlone failed

mutual

/-- A check of a definition breaks off only where some object in it lacks something. -/
theorem lacks_of_checkDefinition (definition : Json) (types : NamedTypes)
    (failed : checkDefinition definition types = .error (.broken defect)) :
    LacksWithin definition defect := by
  match definition with
  | .arr schemas => exact .of_item (lacks_of_checkDefinitions schemas types failed)
  | .obj members => exact lacks_of_checkTopObject failed
  | .null | .bool _ | .int _ | .float _ | .str _ => exact lacks_of_checkAlone failed
termination_by structural definition

theorem lacks_of_checkDefinitions (schemas : List Json) (types : NamedTypes)
    (failed : checkDefinitions schemas types = .error (.broken defect)) :
    ∃ schema ∈ schemas, LacksWithin schema defect := by
  match schemas with
  | [] => cases failed
  | schema :: rest =>
    obtain first | ⟨between, -, later⟩ := Results.bind_eq_error_iff.mp failed
    · exact ⟨schema, List.mem_cons_self, lacks_of_checkDefinition schema types first⟩
    · obtain ⟨other, mem, lacks⟩ := lacks_of_checkDefinitions rest between later
      exact ⟨other, List.mem_cons_of_mem _ mem, lacks⟩
termination_by structural schemas

end

end TopicTables.Avro
