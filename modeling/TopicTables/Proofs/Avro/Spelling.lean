import Mathlib.Data.List.Forall2
import TopicTables.Proofs.Avro.Walk

/-! # Two spellings of a primitive type

A primitive type is spelled by its name or as an object that gives the name as its type. The check
takes one for the other, but for a default: only by its name does a floating point type take more
than floats.
-/

namespace TopicTables.Avro
open Results

def Primitive.object (p : Primitive) : Json :=
  .obj [("type", .str p.name)]

/-- The second declaration is the first one with some primitive types, all of which may be chosen,
spelled as objects: the whole of it, or branches of its unions. -/
inductive Respelled (May : Primitive → Prop) : Json → Json → Prop
  | kept (declaration : Json) : Respelled May declaration declaration
  | spelled {p : Primitive} : May p → Respelled May (.str p.name) p.object
  | union {branches branches' : List Json} :
    List.Forall₂ (Respelled May) branches branches' → Respelled May (.arr branches) (.arr branches')

@[elab_as_elim]
theorem Respelled.nested {May : Primitive → Prop}
    {P : ∀ declaration declaration', Respelled May declaration declaration' → Prop}
    (kept : ∀ declaration, P declaration declaration (.kept declaration))
    (spelled : ∀ p may, P (.str (Primitive.name p)) p.object (.spelled may))
    (union : ∀ branches branches' each,
      List.Forall₂ (fun branch branch' => ∃ respelled, P branch branch' respelled)
        branches branches' → P (.arr branches) (.arr branches') (.union each))
    {declaration declaration' : Json} (respelled : Respelled May declaration declaration') :
    P declaration declaration' respelled :=
  @Respelled.rec May P
    (fun branches branches' _ =>
      List.Forall₂ (fun branch branch' => ∃ respelled, P branch branch' respelled)
        branches branches')
    kept (spelled _) (union _ _) .nil (fun head _ holds others => .cons ⟨head, holds⟩ others)
    _ _ respelled

/-- The second field is the first one, or declares the type of the first one respelled. -/
inductive RespelledField : Json → Json → Prop
  | kept (field : Json) : RespelledField field field
  | typed {members : List (String × Json)} {type type' : Json} :
    members.lookup "type" = some type → Respelled (fun _ => True) type type' →
      RespelledField (.obj members) (.obj (Json.setMember "type" type' members))

/-- The default of a field whose type is a floating point type, respelled, is a float. -/
def DefaultKept (field field' : Json) : Prop :=
  ∀ (p : Primitive) value, p = .float ∨ p = .double → field.member? "type" = some (.str p.name) →
    field'.member? "type" = some p.object → field.member? "default" = some value →
      ∃ x, value = .float x

variable {space : Json} {scope scope' : Scope} {p : Primitive}
  {fallback : Option Json} {branch : Branch}

/-! ## Defaults -/

theorem admitsStrictly_iff {value : Json} (admitted : p.admits value = .ok true) :
    p.admitsStrictly value = true ↔ (p = .float ∨ p = .double → ∃ x, value = .float x) := by
  cases p <;> cases value <;> simp_all [Primitive.admits, Primitive.admitsStrictly]

/-- The second branch takes every default that the first one takes. -/
def Branch.AtMost (kind kind' : Branch) : Prop :=
  kind' = kind ∨ kind' = .other

theorem admittedBySome_of_atMost {kinds kinds' : List Branch} {value : Json}
    (wider : List.Forall₂ Branch.AtMost kinds kinds')
    (admitted : admittedBySome value kinds = .ok true) :
    admittedBySome value kinds' = .ok true := by
  induction wider with
  | nil => exact admitted
  | @cons kind kind' rest rest' head _ ih =>
    rcases head with rfl | rfl
    · cases kind' with
      | other => rfl
      | primitive p =>
        rw [admittedBySome] at admitted ⊢
        obtain ⟨first, decided, later⟩ := bind_eq_ok_iff.mp admitted
        refine bind_eq_ok_iff.mpr ⟨first, decided, ?_⟩
        cases first with
        | true => exact later
        | false => exact ih later
    · rfl

/-! ## The check by either spelling -/

theorem checkSchema_name_iff :
    checkSchema space fallback (.str p.name) scope = .ok (branch, scope') ↔
      (∀ value, fallback = some value → p.admits value = .ok true) ∧
        branch = .primitive p ∧ scope' = scope := by
  unfold checkSchema
  rw [Primitive.ofName?_name]
  cases fallback with
  | none => simp [Check.pure_eq_ok_iff]
  | some value =>
    simp only [Check.bind_eq_ok_iff, Check.lift_eq_ok_iff, Option.some.injEq, forall_eq']
    constructor
    · rintro ⟨admitted, _, ⟨decided, rfl⟩, verdict⟩
      cases admitted with
      | true => exact ⟨decided, Check.pure_eq_ok_iff.mp verdict⟩
      | false => cases verdict
    · rintro ⟨admitted, rfl, rfl⟩
      exact ⟨true, scope', ⟨admitted, rfl⟩, rfl⟩

theorem checkSchema_object_iff :
    checkSchema space fallback p.object scope = .ok (branch, scope') ↔
      (∀ value, fallback = some value → p.admitsStrictly value = true) ∧
        branch = .other ∧ scope' = scope := by
  have known : Form.ofWord? p.name = some (.primitive p) := Form.ofWord?_word (.primitive p)
  have undecimal : checkDecimal (.str p.name) [("type", .str p.name)] = .ok () := rfl
  have typed : List.lookup "type" [("type", Json.str p.name)] = some (.str p.name) := rfl
  have suits := @checkDefault_eq_ok_iff fallback p.name p.admitsStrictly
  rw [Primitive.object, checkSchema, typed, ← suits]
  simp only [known, undecimal, checkForm, Check.bind_eq_ok_iff, Check.lift_eq_ok_iff,
    Check.pure_eq_ok_iff, true_and]
  constructor
  · rintro ⟨_, _, rfl, _, _, ⟨suits, rfl⟩, ends⟩
    exact ⟨suits, ends⟩
  · rintro ⟨suits, ends⟩
    exact ⟨(), scope, rfl, (), scope, ⟨suits, rfl⟩, ends⟩

/-- Where the first schema passes without a default, so does the second one, and declares the same.
-/
def PassesAs (space schema schema' : Json) : Prop :=
  ∀ kind scope scope', checkSchema space none schema scope = .ok (kind, scope') →
    ∃ kind', checkSchema space none schema' scope = .ok (kind', scope') ∧ kind.AtMost kind'

theorem checkBranches_of_passesAs {branches branches' : List Json} {kinds : List Branch}
    (pass : List.Forall₂ (PassesAs space) branches branches')
    (passed : checkBranches space branches scope = .ok (kinds, scope')) :
    ∃ kinds', checkBranches space branches' scope = .ok (kinds', scope') ∧
      List.Forall₂ Branch.AtMost kinds kinds' := by
  induction pass generalizing scope kinds with
  | nil =>
    obtain ⟨rfl, rfl⟩ := Check.pure_eq_ok_iff.mp passed
    exact ⟨[], rfl, .nil⟩
  | cons head _ ih =>
    rw [checkBranches] at passed
    obtain ⟨kind, between, first, passed⟩ := Check.bind_eq_ok_iff.mp passed
    obtain ⟨others, _, later, ends⟩ := Check.bind_eq_ok_iff.mp passed
    obtain ⟨rfl, rfl⟩ := Check.pure_eq_ok_iff.mp ends
    obtain ⟨kind', first', wider⟩ := head _ _ _ first
    obtain ⟨others', later', widers⟩ := ih later
    refine ⟨kind' :: others', ?_, .cons wider widers⟩
    rw [checkBranches]
    exact Check.bind_eq_ok_iff.mpr ⟨_, _, first', Check.bind_eq_ok_iff.mpr ⟨_, _, later', rfl⟩⟩

/-- The check of a union is that of its branches, one of which takes the default. -/
theorem checkSchema_union_iff {branches : List Json} :
    checkSchema space fallback (.arr branches) scope = .ok (branch, scope') ↔
      ∃ kinds, checkBranches space branches scope = .ok (kinds, scope') ∧ branch = .other ∧
        ∀ value, fallback = some value → admittedBySome value kinds = .ok true := by
  rw [checkSchema]
  simp only [Check.bind_eq_ok_iff]
  cases fallback with
  | none => simp [Check.pure_eq_ok_iff]
  | some value =>
    simp only [Check.bind_eq_ok_iff, Check.lift_eq_ok_iff, Option.some.injEq, forall_eq']
    constructor
    · rintro ⟨kinds, between, walked, admitted, _, ⟨decided, rfl⟩, verdict⟩
      cases admitted with
      | true =>
        obtain ⟨rfl, rfl⟩ := Check.pure_eq_ok_iff.mp verdict
        exact ⟨kinds, walked, rfl, decided⟩
      | false => cases verdict
    · rintro ⟨kinds, walked, rfl, decided⟩
      exact ⟨kinds, scope', walked, true, scope', ⟨decided, rfl⟩, rfl⟩

theorem passesAs_of_respelled {May : Primitive → Prop} {schema schema' : Json}
    (respelled : Respelled May schema schema') : PassesAs space schema schema' := by
  induction respelled using Respelled.nested with
  | kept schema => exact fun kind scope scope' passed => ⟨kind, passed, .inl rfl⟩
  | spelled p _ =>
    intro kind scope scope' passed
    obtain ⟨-, rfl, rfl⟩ := checkSchema_name_iff.mp passed
    exact ⟨.other, checkSchema_object_iff.mpr ⟨by simp, rfl, rfl⟩, .inr rfl⟩
  | union branches branches' _ each =>
    intro kind scope scope' passed
    obtain ⟨kinds, walked, rfl, -⟩ := checkSchema_union_iff.mp passed
    obtain ⟨kinds', walked', -⟩ :=
      checkBranches_of_passesAs (each.imp fun _ _ ⟨_, pass⟩ => pass) walked
    exact ⟨.other, checkSchema_union_iff.mpr ⟨kinds', walked', rfl, by simp⟩, .inl rfl⟩

/-- A respelled schema passes as before, unless it is a type whose default the object does not take.
-/
theorem checkSchema_respelled_iff {May : Primitive → Prop} {schema schema' : Json}
    (respelled : Respelled May schema schema')
    (passed : checkSchema space fallback schema scope = .ok (branch, scope')) {last : Scope} :
    (∃ branch', checkSchema space fallback schema' scope = .ok (branch', last)) ↔
      last = scope' ∧ ∀ p, schema = .str (Primitive.name p) → schema' = p.object →
        ∀ value, fallback = some value → p.admitsStrictly value = true := by
  cases respelled with
  | kept =>
    constructor
    · rintro ⟨_, again⟩
      cases passed.symm.trans again
      exact ⟨rfl, fun p named object => nomatch named.symm.trans object⟩
    · rintro ⟨rfl, -⟩
      exact ⟨branch, passed⟩
  | @spelled q _ =>
    obtain ⟨-, rfl, rfl⟩ := checkSchema_name_iff.mp passed
    simp only [checkSchema_object_iff]
    constructor
    · rintro ⟨_, suits, -, rfl⟩
      refine ⟨rfl, fun p named _ => ?_⟩
      have same : q = p := Primitive.eq_of_name_eq (Json.str.inj named)
      exact same ▸ suits
    · rintro ⟨rfl, suits⟩
      exact ⟨.other, suits q rfl rfl, rfl, rfl⟩
  | union each =>
    obtain ⟨kinds, walked, rfl, admitted⟩ := checkSchema_union_iff.mp passed
    obtain ⟨kinds', walked', wider⟩ :=
      checkBranches_of_passesAs (each.imp fun _ _ => passesAs_of_respelled) walked
    constructor
    · rintro ⟨_, again⟩
      obtain ⟨_, rewalked, -⟩ := checkSchema_union_iff.mp again
      cases walked'.symm.trans rewalked
      exact ⟨rfl, fun p named => nomatch named⟩
    · rintro ⟨rfl, -⟩
      exact ⟨.other, checkSchema_union_iff.mpr ⟨kinds', walked', rfl,
        fun value given => admittedBySome_of_atMost wider (admitted value given)⟩⟩

/-! ## Fields by either spelling -/

theorem checkField_eq_ok_iff {members : List (String × Json)} :
    checkField space (.obj members) scope = .ok ((), scope') ↔
      checkFieldShape members = .ok () ∧ ∃ type branch, members.lookup "type" = some type ∧
        checkSchema space (members.lookup "default") type scope = .ok (branch, scope') := by
  constructor
  · intro passed
    obtain ⟨_, _, type, branch, ⟨⟩, -, typed, checked⟩ := member_of_checkField passed
    rw [checkField] at passed
    obtain ⟨_, _, shape, -⟩ := Check.bind_eq_ok_iff.mp passed
    exact ⟨(Check.lift_eq_ok_iff.mp shape).1, type, branch, typed, checked⟩
  · rintro ⟨shape, type, branch, typed, checked⟩
    rw [checkField, checkMember_eq, typed]
    exact Check.bind_eq_ok_iff.mpr ⟨(), scope, Check.lift_eq_ok_iff.mpr ⟨shape, rfl⟩,
      Check.bind_eq_ok_iff.mpr ⟨branch, scope', checked, rfl⟩⟩

theorem checkFieldShape_setMember {members : List (String × Json)} {type type' : Json}
    (typed : members.lookup "type" = some type) :
    checkFieldShape (Json.setMember "type" type' members) = .ok () ↔
      checkFieldShape members = .ok () := by
  have name : (Json.setMember "type" type' members).lookup "name" = members.lookup "name" :=
    Json.lookup_setMember_of_ne (by decide) _ _
  have aliases : (Json.setMember "type" type' members).lookup "aliases" =
      members.lookup "aliases" := Json.lookup_setMember_of_ne (by decide) _ _
  rw [checkFieldShape, checkFieldShape, name, aliases, Json.lookup_setMember_self, typed]
  cases members.lookup "name" with
  | none => simp [reject]
  | some value => rfl

theorem DefaultKept.refl (field : Json) : DefaultKept field field :=
  fun _ _ _ named object => nomatch named.symm.trans object

/-- Where the first field passes, the default is kept just where the respelled type takes it. -/
theorem defaultKept_iff {members : List (String × Json)} {type type' : Json}
    (typed : members.lookup "type" = some type)
    (checked : checkSchema space (members.lookup "default") type scope = .ok (branch, scope')) :
    DefaultKept (.obj members) (.obj (Json.setMember "type" type' members)) ↔
      ∀ p, type = .str (Primitive.name p) → type' = p.object →
        ∀ value, members.lookup "default" = some value → p.admitsStrictly value = true := by
  simp only [DefaultKept, Json.member?, Json.lookup_setMember_self, typed, Option.some.injEq]
  constructor
  · rintro keeps p rfl object value given
    obtain ⟨admitted, -⟩ := checkSchema_name_iff.mp checked
    exact (admitsStrictly_iff (admitted value given)).mpr
      fun floating => keeps p value floating rfl object given
  · rintro suits p value floating rfl object given
    obtain ⟨admitted, -⟩ := checkSchema_name_iff.mp checked
    exact (admitsStrictly_iff (admitted value given)).mp (suits p rfl object value given) floating

theorem checkField_respelled_iff {field field' : Json} (respelled : RespelledField field field')
    (passed : checkField space field scope = .ok ((), scope')) {last : Scope} :
    checkField space field' scope = .ok ((), last) ↔ last = scope' ∧ DefaultKept field field' := by
  cases respelled with
  | kept =>
    rw [passed]
    simp [DefaultKept.refl, eq_comm]
  | @typed members type type' typed respelled =>
    obtain ⟨shape, again, branch, given, checked⟩ := checkField_eq_ok_iff.mp passed
    cases typed.symm.trans given
    have default : (Json.setMember "type" type' members).lookup "default" =
        members.lookup "default" := Json.lookup_setMember_of_ne (by decide) _ _
    rw [defaultKept_iff typed checked, ← checkSchema_respelled_iff respelled checked,
      checkField_eq_ok_iff, checkFieldShape_setMember typed, default, Json.lookup_setMember_self]
    simp [shape]

theorem checkFields_respelled_iff {fields fields' : List Json}
    (respelled : List.Forall₂ RespelledField fields fields')
    (passed : checkFields space fields scope = .ok ((), scope')) {last : Scope} :
    checkFields space fields' scope = .ok ((), last) ↔
      last = scope' ∧ List.Forall₂ DefaultKept fields fields' := by
  induction respelled generalizing scope with
  | nil =>
    obtain ⟨-, rfl⟩ := Check.pure_eq_ok_iff.mp passed
    simp [checkFields, Check.pure_eq_ok_iff]
  | cons head _ ih =>
    rw [checkFields] at passed
    obtain ⟨_, between, first, later⟩ := Check.bind_eq_ok_iff.mp passed
    rw [checkFields, Check.bind_eq_ok_iff, List.forall₂_cons]
    simp only [checkField_respelled_iff head first]
    constructor
    · rintro ⟨_, _, ⟨rfl, kept⟩, later'⟩
      exact ⟨((ih later).mp later').1, kept, ((ih later).mp later').2⟩
    · rintro ⟨rfl, kept, others⟩
      exact ⟨(), between, ⟨rfl, kept⟩, (ih later).mpr ⟨rfl, others⟩⟩

end TopicTables.Avro
