import TopicTables.Avro.Check
import TopicTables.Proofs.Results

/-! # What a check has done

A check that succeeds has walked every part of a schema and has made every declaration on its way.
Each part leads from one scope to another that knows all that was known, and as what it was known.
-/

namespace TopicTables.Avro
open Results

namespace Check

variable {α β : Type} {scope scope' : Scope}

theorem bind_eq_ok_iff {check : Check α} {next : α → Check β} {value : β} :
    (check >>= next) scope = .ok (value, scope') ↔
      ∃ inner between, check scope = .ok (inner, between) ∧
        next inner between = .ok (value, scope') := by
  show (check scope >>= fun reached => next reached.1 reached.2) = .ok (value, scope') ↔ _
  rw [Results.bind_eq_ok_iff, Prod.exists]

theorem pure_eq_ok_iff {value value' : α} :
    (pure value : Check α) scope = .ok (value', scope') ↔ value' = value ∧ scope' = scope := by
  show Except.ok (value, scope) = Except.ok (value', scope') ↔ _
  simp [eq_comm]

theorem lift_eq_ok_iff {part : Except Fault α} {value : α} :
    (liftM part : Check α) scope = .ok (value, scope') ↔ part = .ok value ∧ scope' = scope := by
  cases part with
  | error fault =>
    simp [liftM, monadLift, MonadLift.monadLift, StateT.lift, Bind.bind, Except.bind]
  | ok inner =>
    show Except.ok (inner, scope) = Except.ok (value, scope') ↔ _
    simp [eq_comm]

theorem bind_eq_error_iff {check : Check α} {next : α → Check β} {fault : Fault} :
    (check >>= next) scope = .error fault ↔
      check scope = .error fault ∨
        ∃ inner between, check scope = .ok (inner, between) ∧
          next inner between = .error fault := by
  show (check scope >>= fun reached => next reached.1 reached.2) = .error fault ↔ _
  rw [Results.bind_eq_error_iff, Prod.exists]

theorem lift_eq_error_iff {part : Except Fault α} {fault : Fault} :
    (liftM part : Check α) scope = .error fault ↔ part = .error fault := by
  cases part with
  | error other =>
    show Except.error other = Except.error fault ↔ _
    simp
  | ok inner =>
    show Except.ok (inner, scope) = Except.error fault ↔ _
    simp

theorem pure_ne_error {value : α} {fault : Fault} :
    (pure value : Check α) scope ≠ .error fault := by
  intro failed
  cases failed

end Check

/-! ## Parts by their keys -/

variable {space : Json} {members : List (String × Json)}

theorem checkMember_eq (fallback : Option Json) (key : String) :
    checkMember space fallback key members =
      match members.lookup key with
      | none => throw (.broken (.missingMember key))
      | some value => checkSchema space fallback value >>= fun _ => pure () := by
  induction members with
  | nil => rfl
  | cons member rest ih =>
    obtain ⟨k, value⟩ := member
    rw [checkMember, List.lookup_cons]
    by_cases same : k = key
    · simp [same]
    · rw [if_neg (by simpa using same), ih, beq_eq_false_iff_ne.mpr (Ne.symm same)]

theorem checkFieldsMember_eq :
    checkFieldsMember space members =
      match members.lookup "fields" with
      | none => return ()
      | some value => checkFieldsValue space value := by
  induction members with
  | nil => rfl
  | cons member rest ih =>
    obtain ⟨k, value⟩ := member
    rw [checkFieldsMember, List.lookup_cons]
    by_cases same : k = "fields"
    · simp [same]
    · rw [if_neg (by simpa using same), ih, beq_eq_false_iff_ne.mpr (Ne.symm same)]

theorem checkDefault_eq_ok_iff {fallback : Option Json} {typeName : String} {test : Json → Bool} :
    checkDefault fallback typeName test = .ok () ↔
      ∀ value, fallback = some value → test value = true := by
  cases fallback with
  | none => simp [checkDefault]
  | some value => cases passes : test value <;> simp [checkDefault, passes, reject]

/-! ## Declarations -/

def Scope.withType (scope : Scope) (name kind : String) : Scope where
  declared := name :: scope.declared
  types := Json.setMember name (.obj [("type", .str kind)]) scope.types

variable {scope scope' : Scope}

theorem declare_eq_ok_iff {name : String} :
    declare name scope = .ok ((), scope') ↔
      name ∉ scope.declared ∧ scope' = { scope with declared := name :: scope.declared } := by
  unfold declare
  by_cases known : name ∈ scope.declared
  · simp [known, reject]
  · simp [known, eq_comm]

theorem declareNamed_eq_ok_iff {d : Declaration} :
    declareNamed space members scope = .ok (d, scope') ↔
      declaration space members = .ok d ∧ d.fullName ∉ scope.declared ∧
        scope' = { scope with declared := d.fullName :: scope.declared } := by
  unfold declareNamed
  simp only [Check.bind_eq_ok_iff, Check.lift_eq_ok_iff, Check.pure_eq_ok_iff]
  constructor
  · rintro ⟨d', _, ⟨named, rfl⟩, ⟨⟩, _, new, rfl, rfl⟩
    exact ⟨named, declare_eq_ok_iff.mp new⟩
  · rintro ⟨named, new, rfl⟩
    exact ⟨d, scope, ⟨named, rfl⟩, (), _, declare_eq_ok_iff.mpr ⟨new, rfl⟩, rfl, rfl⟩

/-- What the check of an object has done, by its form: a declaration makes a new name known, and a
record is known in its own fields. -/
inductive Formed (space : Json) (members : List (String × Json))
    (checkUnder : String → Check Unit) (checkFieldsIn : Json → Check Unit) (scope : Scope) :
    Form → Scope → Prop
  | primitive (p : Primitive) :
    Formed space members checkUnder checkFieldsIn scope (.primitive p) scope
  | array {scope' : Scope} :
    checkUnder "items" scope = .ok ((), scope') →
      Formed space members checkUnder checkFieldsIn scope .array scope'
  | map {scope' : Scope} :
    checkUnder "values" scope = .ok ((), scope') →
      Formed space members checkUnder checkFieldsIn scope .map scope'
  | leaf {form : Form} {d : Declaration} :
    form = .enum ∨ form = .fixed → declaration space members = .ok d →
      d.fullName ∉ scope.declared →
        Formed space members checkUnder checkFieldsIn scope form
          (scope.withType d.fullName form.word)
  | record {form : Form} {d : Declaration} {scope' : Scope} :
    form = .record ∨ form = .error → declaration space members = .ok d →
      d.fullName ∉ scope.declared →
        checkFieldsIn d.inner (scope.withType d.fullName form.word) = .ok ((), scope') →
          Formed space members checkUnder checkFieldsIn scope form scope'

/-- A record and a record that reports a failure are checked alike. -/
theorem checkForm_of_fields {fallback : Option Json} {checkUnder : String → Check Unit}
    {checkFieldsIn : Json → Check Unit} {form : Form} (fields : form = .record ∨ form = .error) :
    checkForm space fallback members checkUnder checkFieldsIn form =
      (declareNamed space members >>= fun d =>
        liftM (checkDefault fallback form.word isObject) >>= fun _ =>
          register d.fullName form.word >>= fun _ => checkFieldsIn d.inner) := by
  rcases fields with rfl | rfl <;> rfl

theorem formed_of_fields {fallback : Option Json} {checkUnder : String → Check Unit}
    {checkFieldsIn : Json → Check Unit} {form : Form} (isFields : form = .record ∨ form = .error)
    (passed : checkForm space fallback members checkUnder checkFieldsIn form scope =
      .ok ((), scope')) :
    Formed space members checkUnder checkFieldsIn scope form scope' := by
  rw [checkForm_of_fields isFields] at passed
  obtain ⟨d, declared, named, rest⟩ := Check.bind_eq_ok_iff.mp passed
  obtain ⟨comes, new, rfl⟩ := declareNamed_eq_ok_iff.mp named
  obtain ⟨_, _, default, rest⟩ := Check.bind_eq_ok_iff.mp rest
  obtain ⟨-, rfl⟩ := Check.lift_eq_ok_iff.mp default
  obtain ⟨_, _, registered, fields⟩ := Check.bind_eq_ok_iff.mp rest
  cases registered
  exact .record isFields comes new fields

theorem formed_of_checkForm {fallback : Option Json} {checkUnder : String → Check Unit}
    {checkFieldsIn : Json → Check Unit} {form : Form}
    (passed : checkForm space fallback members checkUnder checkFieldsIn form scope =
      .ok ((), scope')) :
    Formed space members checkUnder checkFieldsIn scope form scope' := by
  cases form with
  | primitive p =>
    obtain ⟨-, rfl⟩ := Check.lift_eq_ok_iff.mp passed
    exact .primitive p
  | array =>
    obtain ⟨_, between, under, default⟩ := Check.bind_eq_ok_iff.mp passed
    obtain ⟨-, rfl⟩ := Check.lift_eq_ok_iff.mp default
    exact .array under
  | map =>
    obtain ⟨_, between, under, default⟩ := Check.bind_eq_ok_iff.mp passed
    obtain ⟨-, rfl⟩ := Check.lift_eq_ok_iff.mp default
    exact .map under
  | enum =>
    obtain ⟨d, declared, named, rest⟩ := Check.bind_eq_ok_iff.mp passed
    obtain ⟨comes, new, rfl⟩ := declareNamed_eq_ok_iff.mp named
    obtain ⟨_, _, symbols, rest⟩ := Check.bind_eq_ok_iff.mp rest
    obtain ⟨-, rfl⟩ := Check.lift_eq_ok_iff.mp symbols
    obtain ⟨_, _, default, registered⟩ := Check.bind_eq_ok_iff.mp rest
    obtain ⟨-, rfl⟩ := Check.lift_eq_ok_iff.mp default
    cases registered
    exact .leaf (.inl rfl) comes new
  | fixed =>
    obtain ⟨d, declared, named, rest⟩ := Check.bind_eq_ok_iff.mp passed
    obtain ⟨comes, new, rfl⟩ := declareNamed_eq_ok_iff.mp named
    obtain ⟨_, _, default, rest⟩ := Check.bind_eq_ok_iff.mp rest
    obtain ⟨-, rfl⟩ := Check.lift_eq_ok_iff.mp default
    obtain ⟨_, _, registered, size⟩ := Check.bind_eq_ok_iff.mp rest
    cases registered
    split at size
    · cases size
    · obtain ⟨-, rfl⟩ := Check.pure_eq_ok_iff.mp size
      exact .leaf (.inr rfl) comes new
  | record => exact formed_of_fields (.inl rfl) passed
  | error => exact formed_of_fields (.inr rfl) passed

/-- A schema given as an object has a form, and its parts have been checked as the form asks. -/
theorem formed_of_checkSchema {fallback : Option Json} {branch : Branch}
    (passed : checkSchema space fallback (.obj members) scope = .ok (branch, scope')) :
    ∃ form, members.lookup "type" = some (.str form.word) ∧
      Formed space members (fun key => checkMember space none key members)
        (fun inner => checkFieldsMember inner members) scope form scope' := by
  rw [checkSchema] at passed
  cases given : members.lookup "type" with
  | none =>
    rw [given] at passed
    cases passed
  | some type =>
    rw [given] at passed
    obtain ⟨_, _, decimal, rest⟩ := Check.bind_eq_ok_iff.mp passed
    clear passed
    obtain ⟨-, rfl⟩ := Check.lift_eq_ok_iff.mp decimal
    cases type with
    | str word =>
      cases known : Form.ofWord? word with
      | none =>
        simp only [known] at rest
        cases rest
      | some form =>
        simp only [known] at rest
        obtain ⟨_, _, parts, ends⟩ := Check.bind_eq_ok_iff.mp rest
        obtain ⟨-, rfl⟩ := Check.pure_eq_ok_iff.mp ends
        exact ⟨form, by rw [Form.word_of_ofWord? known], formed_of_checkForm parts⟩
    | _ => cases rest

theorem refer_eq_ok_iff {name : String} {branch : Branch} :
    refer space name scope = .ok (branch, scope') ↔
      (∃ fullName type, referent space name = .ok fullName ∧
        scope.types.lookup fullName = some type) ∧ branch = .other ∧ scope' = scope := by
  unfold refer
  rw [Results.bind_eq_ok_iff]
  constructor
  · rintro ⟨fullName, means, found⟩
    split at found
    · rename_i known
      obtain ⟨type, known⟩ := Option.isSome_iff_exists.mp known
      cases found
      exact ⟨⟨fullName, type, means, known⟩, rfl, rfl⟩
    · cases found
  · rintro ⟨⟨fullName, type, means, known⟩, rfl, rfl⟩
    exact ⟨fullName, means, by rw [known]; rfl⟩

/-- A schema given as a word is a primitive type or refers to a known one. -/
theorem named_of_checkSchema {fallback : Option Json} {name : String} {branch : Branch}
    (passed : checkSchema space fallback (.str name) scope = .ok (branch, scope')) :
    ((∃ p, Primitive.ofName? name = some p) ∨ Primitive.ofName? name = none ∧
      ∃ fullName type, referent space name = .ok fullName ∧
        scope.types.lookup fullName = some type) ∧ scope' = scope := by
  unfold checkSchema at passed
  cases word : Primitive.ofName? name with
  | none =>
    rw [word] at passed
    obtain ⟨refers, -, same⟩ := refer_eq_ok_iff.mp passed
    exact ⟨.inr ⟨rfl, refers⟩, same⟩
  | some p =>
    refine ⟨.inl ⟨p, rfl⟩, ?_⟩
    rw [word] at passed
    cases fallback with
    | none => exact (Check.pure_eq_ok_iff.mp passed).2
    | some value =>
      obtain ⟨admitted, _, default, verdict⟩ := Check.bind_eq_ok_iff.mp passed
      obtain ⟨-, rfl⟩ := Check.lift_eq_ok_iff.mp default
      split at verdict
      · exact (Check.pure_eq_ok_iff.mp verdict).2
      · cases verdict

/-- A value that is no list is good for the fields of a record when it offers no items. -/
theorem empty_of_checkFieldsValue {value : Json} (noList : ∀ items, value ≠ .arr items)
    (passed : checkFieldsValue space value scope = .ok ((), scope')) :
    itemsOf? value = some [] ∧ scope' = scope := by
  rw [checkFieldsValue.eq_2 _ _ noList] at passed
  cases offered : itemsOf? value with
  | none =>
    rw [offered] at passed
    cases passed
  | some items =>
    rw [offered] at passed
    cases items with
    | nil => exact ⟨rfl, (Check.pure_eq_ok_iff.mp passed).2⟩
    | cons item rest => cases passed

/-! ## Scopes that grow -/

/-- Every known type has been declared and tells its kind and nothing else. -/
structure Scope.Regular (scope : Scope) : Prop where
  declared : ∀ name type, scope.types.lookup name = some type → name ∈ scope.declared
  kinded : ∀ name type, scope.types.lookup name = some type →
    ∃ kind, type = .obj [("type", .str kind)]

/-- What was known still is, as what it was known. -/
structure Scope.Grows (before after : Scope) : Prop where
  regular : after.Regular
  types : ∀ name type, before.types.lookup name = some type →
    after.types.lookup name = some type

namespace Scope

theorem Grows.refl (regular : scope.Regular) : scope.Grows scope :=
  ⟨regular, fun _ _ known => known⟩

theorem Grows.trans {between : Scope} (first : scope.Grows between)
    (second : between.Grows scope') : scope.Grows scope' :=
  ⟨second.regular, fun name type known => second.types name type (first.types name type known)⟩

theorem regular_empty : Regular ⟨[], []⟩ :=
  ⟨by simp, by simp⟩

theorem grows_withType {name : String} (kind : String) (regular : scope.Regular)
    (new : name ∉ scope.declared) : scope.Grows (scope.withType name kind) := by
  have old {other : String} {type : Json} (known : scope.types.lookup other = some type) :
      other ≠ name := by
    rintro rfl
    exact new (regular.declared _ _ known)
  refine ⟨⟨?_, ?_⟩, ?_⟩
  · intro other type known
    by_cases same : other = name
    · simp [withType, same]
    · rw [withType, Json.lookup_setMember_of_ne same] at known
      exact List.mem_cons_of_mem _ (regular.declared _ _ known)
  · intro other type known
    by_cases same : other = name
    · rw [withType, same, Json.lookup_setMember_self] at known
      exact ⟨kind, (Option.some.inj known).symm⟩
    · rw [withType, Json.lookup_setMember_of_ne same] at known
      exact regular.kinded _ _ known
  · intro other type known
    rw [withType, Json.lookup_setMember_of_ne (old known)]
    exact known

end Scope

/-! ## Every part of a walk declares types -/

def Form.declaring : List Form :=
  [.enum, .fixed, .record, .error]

/-- The later scope comes from the earlier one by declarations of new types, one after another. -/
inductive Scope.Declares : Scope → Scope → Prop
  | nothing (scope : Scope) : Declares scope scope
  | type {scope scope' : Scope} {form : Form} {name : String} :
    form ∈ Form.declaring → name ∉ scope.declared →
      Declares (scope.withType name form.word) scope' → Declares scope scope'

theorem Scope.Declares.trans {between : Scope} (first : scope.Declares between)
    (second : between.Declares scope') : scope.Declares scope' := by
  induction first with
  | nothing => exact second
  | type declaring new _ ih => exact .type declaring new (ih second)

theorem Scope.Declares.grows (declares : scope.Declares scope') (regular : scope.Regular) :
    scope.Grows scope' := by
  induction declares with
  | nothing => exact .refl regular
  | @type _ _ form _ _ new _ ih =>
    have grows := grows_withType form.word regular new
    exact grows.trans (ih grows.regular)

mutual

theorem declares_of_checkSchema {fallback : Option Json} {branch : Branch} (schema : Json)
    (space : Json) (scope scope' : Scope)
    (passed : checkSchema space fallback schema scope = .ok (branch, scope')) :
    scope.Declares scope' := by
  match schema with
  | .arr branches =>
    rw [checkSchema] at passed
    obtain ⟨kinds, between, walked, ends⟩ := Check.bind_eq_ok_iff.mp passed
    have declares := declares_of_checkBranches branches space scope between walked
    split at ends
    · obtain ⟨-, rfl⟩ := Check.pure_eq_ok_iff.mp ends
      exact declares
    · obtain ⟨admitted, _, default, verdict⟩ := Check.bind_eq_ok_iff.mp ends
      obtain ⟨-, rfl⟩ := Check.lift_eq_ok_iff.mp default
      split at verdict
      · obtain ⟨-, rfl⟩ := Check.pure_eq_ok_iff.mp verdict
        exact declares
      · cases verdict
  | .obj members =>
    obtain ⟨form, -, formed⟩ := formed_of_checkSchema passed
    cases formed with
    | primitive p => exact .nothing scope
    | array under => exact declares_of_checkMember members space "items" scope scope' under
    | map under => exact declares_of_checkMember members space "values" scope scope' under
    | leaf isLeaf _ new =>
      have declaring : form ∈ Form.declaring := by rcases isLeaf with rfl | rfl <;> decide
      exact .type declaring new (.nothing _)
    | record isRecord _ new fields =>
      have declaring : form ∈ Form.declaring := by rcases isRecord with rfl | rfl <;> decide
      exact .type declaring new (declares_of_checkFieldsMember members _ _ scope' fields)
  | .str name =>
    obtain ⟨-, rfl⟩ := named_of_checkSchema passed
    exact .nothing _
  | .null | .bool _ | .int _ | .float _ => cases passed
termination_by structural schema

theorem declares_of_checkBranches {kinds : List Branch} (branches : List Json)
    (space : Json) (scope scope' : Scope)
    (passed : checkBranches space branches scope = .ok (kinds, scope')) :
    scope.Declares scope' := by
  match branches with
  | [] =>
    obtain ⟨-, rfl⟩ := Check.pure_eq_ok_iff.mp passed
    exact .nothing _
  | branch :: rest =>
    rw [checkBranches] at passed
    obtain ⟨kind, between, first, passed⟩ := Check.bind_eq_ok_iff.mp passed
    obtain ⟨others, _, later, ends⟩ := Check.bind_eq_ok_iff.mp passed
    obtain ⟨-, rfl⟩ := Check.pure_eq_ok_iff.mp ends
    exact (declares_of_checkSchema branch space scope between first).trans
      (declares_of_checkBranches rest space between _ later)
termination_by structural branches

theorem declares_of_checkMember {fallback : Option Json} (members : List (String × Json))
    (space : Json) (key : String) (scope scope' : Scope)
    (passed : checkMember space fallback key members scope = .ok ((), scope')) :
    scope.Declares scope' := by
  match members with
  | [] => cases passed
  | (k, value) :: rest =>
    rw [checkMember] at passed
    split at passed
    · obtain ⟨_, _, inner, ends⟩ := Check.bind_eq_ok_iff.mp passed
      obtain ⟨-, rfl⟩ := Check.pure_eq_ok_iff.mp ends
      exact declares_of_checkSchema value space scope _ inner
    · exact declares_of_checkMember rest space key scope scope' passed
termination_by structural members

theorem declares_of_checkFieldsMember (members : List (String × Json))
    (space : Json) (scope scope' : Scope)
    (passed : checkFieldsMember space members scope = .ok ((), scope')) :
    scope.Declares scope' := by
  match members with
  | [] =>
    obtain ⟨-, rfl⟩ := Check.pure_eq_ok_iff.mp passed
    exact .nothing _
  | (k, value) :: rest =>
    rw [checkFieldsMember] at passed
    split at passed
    · exact declares_of_checkFieldsValue value space scope scope' passed
    · exact declares_of_checkFieldsMember rest space scope scope' passed
termination_by structural members

theorem declares_of_checkFieldsValue (value : Json)
    (space : Json) (scope scope' : Scope)
    (passed : checkFieldsValue space value scope = .ok ((), scope')) :
    scope.Declares scope' := by
  match value with
  | .arr fields => exact declares_of_checkFields fields space scope scope' passed
  | .str _ | .obj _ =>
    obtain ⟨-, rfl⟩ := empty_of_checkFieldsValue (fun _ => Json.noConfusion) passed
    exact .nothing _
  | .null | .bool _ | .int _ | .float _ => cases passed
termination_by structural value

theorem declares_of_checkFields (fields : List Json)
    (space : Json) (scope scope' : Scope)
    (passed : checkFields space fields scope = .ok ((), scope')) :
    scope.Declares scope' := by
  match fields with
  | [] =>
    obtain ⟨-, rfl⟩ := Check.pure_eq_ok_iff.mp passed
    exact .nothing _
  | field :: rest =>
    rw [checkFields] at passed
    obtain ⟨_, between, first, later⟩ := Check.bind_eq_ok_iff.mp passed
    exact (declares_of_checkField field space scope between first).trans
      (declares_of_checkFields rest space between scope' later)
termination_by structural fields

theorem declares_of_checkField (field : Json)
    (space : Json) (scope scope' : Scope)
    (passed : checkField space field scope = .ok ((), scope')) :
    scope.Declares scope' := by
  match field with
  | .obj members =>
    rw [checkField] at passed
    obtain ⟨_, _, shape, type⟩ := Check.bind_eq_ok_iff.mp passed
    obtain ⟨-, rfl⟩ := Check.lift_eq_ok_iff.mp shape
    exact declares_of_checkMember members space "type" _ scope' type
  | .null | .bool _ | .int _ | .float _ | .str _ | .arr _ => cases passed
termination_by structural field

end

/-! ## Records on their own -/

theorem checkFields_append {before after : List Json} :
    checkFields space (before ++ after) scope = .ok ((), scope') ↔
      ∃ between, checkFields space before scope = .ok ((), between) ∧
        checkFields space after between = .ok ((), scope') := by
  induction before generalizing scope with
  | nil =>
    constructor
    · exact fun passed => ⟨scope, rfl, passed⟩
    · rintro ⟨_, none, passed⟩
      cases none
      exact passed
  | cons field rest ih =>
    rw [List.cons_append, checkFields, checkFields, Check.bind_eq_ok_iff]
    simp only [Check.bind_eq_ok_iff, ih]
    constructor
    · rintro ⟨⟨⟩, first, passed, between, others, later⟩
      exact ⟨between, ⟨(), first, passed, others⟩, later⟩
    · rintro ⟨between, ⟨⟨⟩, first, passed, others⟩, later⟩
      exact ⟨(), first, passed, between, others, later⟩

/-- A field that passes is an object with a name whose type passes. -/
theorem member_of_checkField {field : Json}
    (passed : checkField space field scope = .ok ((), scope')) :
    ∃ members name type branch, field = .obj members ∧ members.lookup "name" = some name ∧
      members.lookup "type" = some type ∧
        checkSchema space (members.lookup "default") type scope = .ok (branch, scope') := by
  cases field with
  | obj members =>
    rw [checkField] at passed
    obtain ⟨_, _, shape, rest⟩ := Check.bind_eq_ok_iff.mp passed
    obtain ⟨shaped, rfl⟩ := Check.lift_eq_ok_iff.mp shape
    rw [checkMember_eq] at rest
    cases named : members.lookup "name" with
    | none => simp [checkFieldShape, named, reject] at shaped
    | some name =>
      cases typed : members.lookup "type" with
      | none => simp [checkFieldShape, named, typed, reject] at shaped
      | some type =>
        rw [typed] at rest
        obtain ⟨branch, _, inner, ends⟩ := Check.bind_eq_ok_iff.mp rest
        obtain ⟨-, rfl⟩ := Check.pure_eq_ok_iff.mp ends
        exact ⟨members, name, type, branch, rfl, named, typed, inner⟩
  | _ => cases passed

/-- The scope in which the fields of a record on its own are checked. -/
def Declaration.outset (d : Declaration) (types : NamedTypes) : Scope :=
  Scope.withType ⟨[], types⟩ d.fullName "record"

theorem fields_of_checkAlone {types types' : NamedTypes}
    (record : members.lookup "type" = some (.str "record"))
    (passed : checkAlone (.obj members) types = .ok types') :
    ∃ d scope', declaration (.str "") members = .ok d ∧
      checkFieldsMember d.inner members (d.outset types) = .ok ((), scope') ∧
        scope'.types = types' := by
  obtain ⟨⟨branch, scope'⟩, checked, rfl⟩ := map_eq_ok_iff.mp passed
  obtain ⟨form, typed, formed⟩ := formed_of_checkSchema checked
  rw [record] at typed
  have isRecord : form = .record :=
    Form.eq_of_word_eq (Json.str.inj (Option.some.inj typed)).symm
  subst isRecord
  cases formed with
  | leaf leaf => simp at leaf
  | record _ comes _ fields => exact ⟨_, _, comes, fields, rfl⟩

end TopicTables.Avro
