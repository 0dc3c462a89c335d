import TopicTables.Avro.Declared
import TopicTables.Proofs.Avro.Walk

/-! # What words mean and what they are told to mean

A declaration comes down to one word. Where it stands, the check gives the word a meaning: a
primitive type, a form, or the type that it refers to from inside the namespace of the record. The
declared kind is told afterwards from all types of the definition, by their names alone. Both agree
exactly where no type of another kind stands under a name that is looked up first.
-/

namespace TopicTables.Avro

/-- How a word stands in a declaration. -/
inductive Place where
  /-- By itself, as a schema. -/
  | bare
  /-- As the type of an object. -/
  | typed

/-- The word decides the declaration, and stands in it at the place: by itself, as the type of an
object, or in the one branch that a union of two has beside null. -/
inductive Occurs : Json → Place → String → Prop
  | bare {word : String} : Occurs (.str word) .bare word
  | typed {members : List (String × Json)} {word : String} :
    members.lookup "type" = some (.str word) → Occurs (.obj members) .typed word
  | within {members : List (String × Json)} {inner : Json} {place : Place} {word : String} :
    members.lookup "type" = some inner → (∀ word, inner ≠ .str word) → Occurs inner place word →
      Occurs (.obj members) place word
  | second {branch : Json} {place : Place} {word : String} :
    branch ≠ .str "null" → Occurs branch place word →
      Occurs (.arr [.str "null", branch]) place word
  | first {branch : Json} {place : Place} {word : String} :
    branch ≠ .str "null" → Occurs branch place word →
      Occurs (.arr [branch, .str "null"]) place word

def ofKind (kind : String) : Json :=
  .obj [("type", .str kind)]

/-- The word means the kind where these types are known, inside a namespace. -/
inductive Means (known : NamedTypes) (space : Json) : Place → String → String → Prop
  | primitive {word : String} {p : Primitive} :
    Primitive.ofName? word = some p → Means known space .bare word p.name
  | named {word fullName kind : String} :
    Primitive.ofName? word = none → referent space word = .ok fullName →
      known.lookup fullName = some (ofKind kind) → Means known space .bare word kind
  | form {word : String} {form : Form} :
    Form.ofWord? word = some form → Means known space .typed word form.word

variable {known types : NamedTypes} {space : Json} {place : Place} {word kind : String}

theorem Means.unique {other : String} (means : Means known space place word kind)
    (means' : Means known space place word other) : other = kind := by
  cases means with
  | primitive isPrimitive =>
    cases means' with
    | primitive same => simp_all
    | named noPrimitive => simp_all
  | named noPrimitive refers stands =>
    cases means' with
    | primitive isPrimitive => simp_all
    | named _ refers' stands' =>
      rw [refers'] at refers
      cases refers
      rw [stands'] at stands
      simpa [ofKind] using stands
  | form isForm =>
    cases means' with
    | form same => simp_all

theorem Means.mono {scope scope' : Scope} (grows : scope.Grows scope')
    (means : Means scope.types space place word kind) :
    Means scope'.types space place word kind := by
  cases means with
  | primitive isPrimitive => exact .primitive isPrimitive
  | named noPrimitive refers stands => exact .named noPrimitive refers (grows.types _ _ stands)
  | form isForm => exact .form isForm

/-- Where a declaration passes the check, its word has a meaning among the types known there. -/
theorem means_of_checkSchema {declaration : Json} {scope scope' : Scope} {fallback : Option Json}
    {branch : Branch} (occurs : Occurs declaration place word) (regular : scope.Regular)
    (passed : checkSchema space fallback declaration scope = .ok (branch, scope')) :
    ∃ kind, Means scope.types space place word kind := by
  induction occurs generalizing fallback scope scope' branch with
  | bare =>
    obtain ⟨⟨p, isPrimitive⟩ | ⟨noPrimitive, fullName, type, refers, stands⟩, -⟩ :=
      named_of_checkSchema passed
    · exact ⟨_, .primitive isPrimitive⟩
    · obtain ⟨kind, rfl⟩ := regular.kinded _ _ stands
      exact ⟨kind, .named noPrimitive refers stands⟩
  | typed given =>
    obtain ⟨form, typed, -⟩ := formed_of_checkSchema passed
    rw [given] at typed
    cases typed
    exact ⟨_, .form (Form.ofWord?_word form)⟩
  | within given noWord _ _ =>
    obtain ⟨form, typed, -⟩ := formed_of_checkSchema passed
    rw [given] at typed
    cases typed
    exact absurd rfl (noWord _)
  | second _ _ ih =>
    rw [checkSchema] at passed
    obtain ⟨kinds, between, walked, -⟩ := Check.bind_eq_ok_iff.mp passed
    rw [checkBranches] at walked
    obtain ⟨_, _, first, rest⟩ := Check.bind_eq_ok_iff.mp walked
    obtain ⟨-, rfl⟩ := named_of_checkSchema first
    rw [checkBranches] at rest
    obtain ⟨others, _, later, -⟩ := Check.bind_eq_ok_iff.mp rest
    obtain ⟨_, _, later, -⟩ := Check.bind_eq_ok_iff.mp later
    exact ih regular later
  | first _ _ ih =>
    rw [checkSchema] at passed
    obtain ⟨kinds, between, walked, -⟩ := Check.bind_eq_ok_iff.mp passed
    rw [checkBranches] at walked
    obtain ⟨_, _, first, -⟩ := Check.bind_eq_ok_iff.mp walked
    exact ih regular first

/-! ## The declared kind -/

theorem declaredMember_eq (members : List (String × Json)) :
    declaredMember types space members =
      declared types space ((members.lookup "type").getD .null) := by
  induction members with
  | nil => rfl
  | cons member rest ih =>
    obtain ⟨key, value⟩ := member
    rw [declaredMember, List.lookup_cons]
    by_cases same : key = "type"
    · simp [same]
    · rw [if_neg (by simpa using same), ih, beq_eq_false_iff_ne.mpr (Ne.symm same)]

def toldKind (types : NamedTypes) (space : Json) (word : String) : String :=
  (namedKind? types space word).getD word

theorem declared_of_occurs (types : NamedTypes) (space : Json) {declaration : Json}
    (occurs : Occurs declaration place word) :
    ∃ nullable, declared types space declaration = .ok ⟨toldKind types space word, nullable⟩ := by
  induction occurs with
  | @bare word =>
    rw [declared, toldKind]
    cases namedKind? types space word with
    | none => exact ⟨_, rfl⟩
    | some kind => exact ⟨_, rfl⟩
  | @typed members word given =>
    rw [declared, declaredMember_eq, given, Option.getD_some, declared, toldKind]
    cases namedKind? types space word with
    | none => exact ⟨_, rfl⟩
    | some kind => exact ⟨_, rfl⟩
  | within given _ _ ih =>
    rw [declared, declaredMember_eq, given]
    exact ih
  | second noNull _ ih =>
    obtain ⟨nullable, told⟩ := ih
    refine ⟨true, ?_⟩
    rw [declared, if_pos (by simp [isNullWord, noNull]), told]
    rfl
  | first noNull _ ih =>
    obtain ⟨nullable, told⟩ := ih
    refine ⟨true, ?_⟩
    rw [declared, if_neg (by simp [isNullWord, noNull]), if_pos (by simp [isNullWord, noNull]),
      told]
    rfl

/-- No type of another kind stands under the word or, where none stands there, under the word behind
the namespace. Where none stands under either, the word is the kind itself. -/
structure Unshadowed (types : NamedTypes) (space : Json) (word kind : String) : Prop where
  plain : ∀ type, types.lookup word = some type → type = ofKind kind
  behind : types.lookup word = none → space.isTruthy = true →
    ∀ type, types.lookup (qualify space.text word) = some type → type = ofKind kind
  alone : types.lookup word = none →
    (space.isTruthy = true → types.lookup (qualify space.text word) = none) → kind = word

/-- All types tell their kind and nothing else. -/
def Kinded (types : NamedTypes) : Prop :=
  ∀ name type, types.lookup name = some type → ∃ kind, type = ofKind kind

theorem toldKind_of_type {kind : String}
    (means : namedType? types space word = some (ofKind kind)) :
    toldKind types space word = kind := by
  rw [toldKind, namedKind?, means]
  rfl

theorem ofKind_inj {a b : String} : ofKind a = ofKind b ↔ a = b := by
  simp [ofKind]

theorem toldKind_iff_unshadowed (kinded : Kinded types) :
    toldKind types space word = kind ↔ Unshadowed types space word kind := by
  cases plain : types.lookup word with
  | some type =>
    obtain ⟨other, rfl⟩ := kinded _ _ plain
    have told : toldKind types space word = other :=
      toldKind_of_type (by rw [namedType?, plain])
    rw [told]
    constructor
    · rintro rfl
      exact ⟨by simp [plain], by simp [plain], by simp [plain]⟩
    · intro unshadowed
      exact ofKind_inj.mp (unshadowed.plain _ plain)
  | none =>
    by_cases inside : space.isTruthy = true
    · cases behind : types.lookup (qualify space.text word) with
      | some type =>
        obtain ⟨other, rfl⟩ := kinded _ _ behind
        have told : toldKind types space word = other :=
          toldKind_of_type (by rw [namedType?, plain]; simp only [inside, if_true, behind])
        rw [told]
        constructor
        · rintro rfl
          exact ⟨by simp [plain], by simp [behind], by simp [inside, behind]⟩
        · intro unshadowed
          exact ofKind_inj.mp (unshadowed.behind plain inside _ behind)
      | none =>
        have told : toldKind types space word = word := by
          simp [toldKind, namedKind?, namedType?, plain, inside, behind]
        rw [told]
        constructor
        · rintro rfl
          exact ⟨by simp [plain], by simp [behind], fun _ _ => rfl⟩
        · intro unshadowed
          exact (unshadowed.alone plain fun _ => behind).symm
    · have told : toldKind types space word = word := by
        simp [toldKind, namedKind?, namedType?, plain, inside]
      rw [told]
      constructor
      · rintro rfl
        exact ⟨by simp [plain], fun _ truthy => absurd truthy inside, fun _ _ => rfl⟩
      · intro unshadowed
        exact (unshadowed.alone plain fun truthy => absurd truthy inside).symm

/-! ## A record on its own -/

/-- The check accepts the record, which does not say that it was checked before and brings its
types, and ends with these types. -/
structure Accepted (record : List (String × Json)) (types : NamedTypes) : Prop where
  isRecord : record.lookup "type" = some (.str "record")
  unmarked : record.lookup checkedMark = none ∨ record.lookup broughtTypes = none
  passed : checkDefinition (.obj record) [] = .ok types

/-- Behind the first fields of the record that the declaration makes, these types are known. -/
def KnownBehind (record : List (String × Json)) (d : Declaration) (before : List Json)
    (known : NamedTypes) : Prop :=
  declaration (.str "") record = .ok d ∧
    ∃ scope, checkFields d.inner before (d.outset []) = .ok ((), scope) ∧ scope.types = known

variable {record field : List (String × Json)} {before after : List Json} {declaration : Json}

theorem Accepted.checkAlone (accepted : Accepted record types) :
    checkAlone (.obj record) [] = .ok types := by
  have passed := accepted.passed
  rw [checkDefinition, checkTopObject] at passed
  split at passed
  · rename_i marked brings
    simpa [marked, brings] using accepted.unmarked
  · cases passed
  · exact passed

theorem regular_outset (d : Declaration) : (d.outset []).Regular :=
  (Scope.grows_withType "record" Scope.regular_empty (by simp)).regular

/-- What the check of an accepted record has done up to a field, at the field and behind it. -/
theorem Accepted.at_field (accepted : Accepted record types)
    (listed : record.lookup "fields" = some (.arr (before ++ .obj field :: after)))
    (typed : field.lookup "type" = some declaration) :
    ∃ d scope between branch last, Avro.declaration (.str "") record = .ok d ∧
      checkFields d.inner before (d.outset []) = .ok ((), scope) ∧ scope.Regular ∧
        checkSchema d.inner (field.lookup "default") declaration scope = .ok (branch, between) ∧
          scope.Grows last ∧ last.types = types := by
  obtain ⟨d, last, comes, fields, ends⟩ :=
    fields_of_checkAlone accepted.isRecord accepted.checkAlone
  rw [checkFieldsMember_eq, listed] at fields
  obtain ⟨scope, first, rest⟩ := checkFields_append.mp fields
  rw [checkFields] at rest
  obtain ⟨_, between, here, later⟩ := Check.bind_eq_ok_iff.mp rest
  obtain ⟨members, _, type, branch, same, -, given, passed⟩ := member_of_checkField here
  cases same
  rw [typed] at given
  cases given
  have known := ((declares_of_checkFields _ _ _ _ first).grows (regular_outset d)).regular
  have grows := (declares_of_checkField _ _ _ _ here).grows known
  exact ⟨d, scope, between, branch, last, comes, first, known, passed,
    grows.trans ((declares_of_checkFields _ _ _ _ later).grows grows.regular), ends⟩

theorem Accepted.kinded (accepted : Accepted record types) : Kinded types := by
  obtain ⟨d, last, -, fields, rfl⟩ := fields_of_checkAlone accepted.isRecord accepted.checkAlone
  exact ((declares_of_checkFieldsMember _ _ _ _ fields).grows (regular_outset d)).regular.kinded

/-- The word of a field has one meaning where the field is checked, and keeps it. The kind that is
told from all types of the record is the one meant exactly where no other type is in the way. -/
theorem declared_meant_iff (accepted : Accepted record types)
    (listed : record.lookup "fields" = some (.arr (before ++ .obj field :: after)))
    (typed : field.lookup "type" = some declaration) (occurs : Occurs declaration place word) :
    ∃ d known kind, KnownBehind record d before known ∧
      (∀ other, Means known d.inner place word other ↔ other = kind) ∧
      (∀ other, Means types d.inner place word other ↔ other = kind) ∧
      ((∃ nullable, declared types (recordSpace record) declaration = .ok ⟨kind, nullable⟩) ↔
        Unshadowed types (recordSpace record) word kind) := by
  obtain ⟨d, scope, _, _, last, comes, first, regular, passed, grows, rfl⟩ :=
    accepted.at_field listed typed
  obtain ⟨kind, means⟩ := means_of_checkSchema occurs regular passed
  have still := means.mono grows
  refine ⟨d, scope.types, kind, ⟨comes, scope, first, rfl⟩, ?_, ?_, ?_⟩
  · exact fun other => ⟨means.unique, fun same => same ▸ means⟩
  · exact fun other => ⟨still.unique, fun same => same ▸ still⟩
  · obtain ⟨nullable, told⟩ := declared_of_occurs last.types (recordSpace record) occurs
    rw [told, ← toldKind_iff_unshadowed accepted.kinded]
    simp

/-- A reference beside null to an enumeration that an earlier field declares. -/
theorem declared_meant_color :
    ∃ nullable, declared [("shop.Order", ofKind "record"), ("shop.Color", ofKind "enum")]
      (.str "shop") (.arr [.str "null", .str "Color"]) = .ok ⟨"enum", nullable⟩ := by
  let color := [("name", Json.str "first"), ("type", .obj [("type", .str "enum"),
    ("name", .str "Color"), ("symbols", .arr [.str "RED"])])]
  let again := [("name", Json.str "then"), ("type", .arr [.str "null", .str "Color"])]
  let order := [("type", Json.str "record"), ("name", .str "Order"), ("namespace", .str "shop"),
    ("fields", .arr [.obj color, .obj again])]
  let types := [("shop.Order", ofKind "record"), ("shop.Color", ofKind "enum")]
  have accepted : Accepted order types := ⟨rfl, .inl rfl, rfl⟩
  have listed : order.lookup "fields" = some (.arr ([.obj color] ++ .obj again :: [])) := rfl
  obtain ⟨d, known, kind, ⟨comes, -⟩, -, means, told⟩ :=
    declared_meant_iff accepted listed rfl (.second (by decide) .bare)
  have inner : d = ⟨"shop.Order", .str "shop"⟩ := (Except.ok.inj comes).symm
  have isEnum : "enum" = kind := by
    rw [← means, inner]
    exact .named rfl rfl rfl
  subst isEnum
  have space : recordSpace order = .str "shop" := by decide +kernel
  have inside : (Json.str "shop").isTruthy = true := by decide
  have plain : types.lookup "Color" = none := rfl
  have behind : types.lookup (qualify (Json.str "shop").text "Color") = some (ofKind "enum") := rfl
  rw [space] at told
  exact told.mpr ⟨by simp [plain], by simp [behind], by simp [inside, behind]⟩

/-- Beside an enumeration under the name of a primitive type, that type is told to be one, too. -/
theorem declared_unmeant_int :
    let color := [("name", Json.str "a"), ("type", .obj [("type", .str "enum"),
      ("name", .str "int"), ("symbols", .arr [.str "A"])])]
    let number := [("name", Json.str "b"), ("type", .str "int")]
    let record := [("type", Json.str "record"), ("name", .str "R"),
      ("fields", .arr [.obj color, .obj number])]
    let types := [("R", ofKind "record"), ("int", ofKind "enum")]
    Accepted record types ∧ Means types (.str "") .bare "int" "int" ∧
      declared types (recordSpace record) (.str "int") = .ok ⟨"enum", false⟩ :=
  ⟨⟨rfl, .inl rfl, rfl⟩, .primitive (Primitive.ofName?_name .int), rfl⟩

/-! ## Records with a text as their name -/

theorem recordSpace_of_text {name : String} {d : Declaration}
    (named : record.lookup "name" = some (.str name))
    (comes : Avro.declaration (.str "") record = .ok d) :
    recordSpace record = d.inner ∨
      (recordSpace record).isTruthy = false ∧ d.inner.isTruthy = false := by
  have text : (if (Json.str name).isTruthy then (Json.str name).text else "") = name := by
    by_cases empty : name = ""
    · simp [empty, Json.isTruthy]
    · simp [empty, Json.isTruthy, Json.text]
  have none : (Json.str "").isTruthy = false := by simp [Json.isTruthy]
  unfold Avro.declaration at comes
  simp only [named] at comes
  simp only [recordSpace, named, Option.getD_some, text]
  split at comes
  · rename_i dotted
    cases comes
    rw [if_pos dotted]
    exact .inl rfl
  · rename_i plain
    rw [if_neg plain]
    cases given : record.lookup "namespace" with
    | none =>
      have outside : givenSpace (.str "") record = .str "" := by rw [givenSpace, given]; rfl
      simp only [outside, none, Bool.false_eq_true, if_false] at comes
      cases comes
      exact .inr ⟨rfl, none⟩
    | some space =>
      have inside : givenSpace (.str "") record = space := by rw [givenSpace, given]; rfl
      simp only [inside] at comes
      split at comes
      · cases comes
        exact .inl rfl
      · rename_i untruthy
        cases comes
        exact .inr ⟨by simpa using untruthy, none⟩

/-- A full name is always told to be what it means. A name that is put behind the namespace is, when
no type of another kind stands under the name by itself. -/
theorem unshadowed_reference_iff {name fullName : String} {d : Declaration}
    (named : record.lookup "name" = some (.str name))
    (comes : Avro.declaration (.str "") record = .ok d)
    (refers : referent d.inner word = .ok fullName)
    (stands : types.lookup fullName = some (ofKind kind)) :
    Unshadowed types (recordSpace record) word kind ↔
      fullName = word ∨ ∀ type, types.lookup word = some type → type = ofKind kind := by
  constructor
  · exact fun unshadowed => .inr unshadowed.plain
  · intro free
    have plain : ∀ type, types.lookup word = some type → type = ofKind kind := by
      rcases free with rfl | free
      · intro type found
        rw [stands] at found
        exact (Option.some.inj found).symm
      · exact free
    unfold referent at refers
    split at refers
    · cases refers
      exact ⟨plain, by simp [stands], by simp [stands]⟩
    · rename_i behind
      split at refers
      · rename_i text inner
        cases refers
        simp only [inner, Bool.or_eq_true, Bool.not_eq_true', not_or, Bool.not_eq_false] at behind
        have same : recordSpace record = .str text := by
          obtain same | ⟨-, outside⟩ := recordSpace_of_text named comes
          · rw [same, inner]
          · rw [inner, behind.2] at outside
            cases outside
        rw [same]
        have stands : types.lookup (qualify (Json.str text).text word) = some (ofKind kind) :=
          stands
        exact ⟨plain, by simp [stands], by simp [stands, behind.2]⟩
      · cases refers

end TopicTables.Avro
