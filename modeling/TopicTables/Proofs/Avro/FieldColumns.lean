import Mathlib.Data.List.Forall2
import TopicTables.Catalog.Basic
import TopicTables.Proofs.Avro.Nullability

/-! # The columns of a record, exactly

The fields of a checked record are walked in order. Every field that has a name either gives the one
column that its declaration stands for or is the first that gives none, and then the failure is its
own: a declaration that is none comes before a kind without a column type, and that before a name
that an earlier field has taken.
-/

namespace TopicTables.Avro
open Results

structure NamedField where
  name : Json
  declaration : Json

/-- The field that a value is, when it is an object with a name. -/
def namedField? : Json → Option NamedField
  | .obj members => (members.lookup "name").map (⟨·, (members.lookup "type").getD .null⟩)
  | _ => none

/-- The fields of a record, when it lists objects with names or has no list. -/
def namedFields? (record : List (String × Json)) : Option (List NamedField) :=
  match record.lookup "fields" with
  | none => some []
  | some (.arr items) => items.mapM namedField?
  | some _ => none

/-! ## One field -/

section
variable (types : NamedTypes) (space : Json)

/-- The kind that the field declares has a column type. -/
def Mapped (field : NamedField) : Prop :=
  ∃ d type, declared types space field.declaration = .ok d ∧ columnType? d.kind = some type

/-- The column has the name of the field, the column type of its kind, and null where the field
allows it. -/
structure Stands (field : NamedField) (column : Column) : Prop where
  name : column.name = field.name
  type : ∃ d type, declared types space field.declaration = .ok d ∧
    columnType? d.kind = some type ∧ column.dataType.typeName = type.typeName
  nullable : column.dataType.nullable = true ↔ AllowsNull types space field.declaration

/-- What is wrong with a field behind some others. -/
inductive Offends (before : List NamedField) (field : NamedField) : ColumnsError → Prop
  | unrecognized {value : Json} :
    declared types space field.declaration = .error value →
      Offends before field (.unrecognized value)
  | unmapped {d : Declared} :
    declared types space field.declaration = .ok d → columnType? d.kind = none →
      Offends before field (.unmapped d.kind)
  | duplicate {earlier : NamedField} :
    Mapped types space field → earlier ∈ before → earlier.name.same field.name = true →
      Offends before field (.duplicate ⟨field.name⟩)

def addNamed (columns : Columns) (field : NamedField) : Except ColumnsError Columns := do
  let dataType ← fieldType types space field.declaration
  (columns.add ⟨field.name, dataType⟩).mapError ColumnsError.duplicate

end

def NamedField.Differs (a b : NamedField) : Prop :=
  a.name.same b.name = false

variable {types : NamedTypes} {space : Json} {field : NamedField} {fields : List NamedField}

theorem fieldType_of_error {declaration value : Json}
    (comes : declared types space declaration = .error value) :
    fieldType types space declaration = .error (.unrecognized value) := by
  rw [fieldType, comes]
  rfl

theorem fieldType_of_none {declaration : Json} {d : Declared}
    (comes : declared types space declaration = .ok d) (unknown : columnType? d.kind = none) :
    fieldType types space declaration = .error (.unmapped d.kind) := by
  rw [fieldType, comes]
  simp only [mapError_ok, Bind.bind, Except.bind, unknown]
  rfl

theorem fieldType_of_some {declaration : Json} {d : Declared} {type : DataType}
    (comes : declared types space declaration = .ok d) (known : columnType? d.kind = some type) :
    fieldType types space declaration =
      .ok (if d.nullable then type.asNullable else type.asRequired) := by
  rw [fieldType, comes]
  simp only [mapError_ok, Bind.bind, Except.bind, known]
  rfl

theorem fieldType_eq_ok_iff {declaration : Json} {dataType : DataType} :
    fieldType types space declaration = .ok dataType ↔
      ∃ d type, declared types space declaration = .ok d ∧ columnType? d.kind = some type ∧
        (if d.nullable then type.asNullable else type.asRequired) = dataType := by
  cases comes : declared types space declaration with
  | error value => simp [fieldType_of_error comes]
  | ok d =>
    cases known : columnType? d.kind with
    | none => simp [fieldType_of_none comes known, known]
    | some type => simp [fieldType_of_some comes known, known]

theorem fieldType_eq_error_iff {declaration : Json} {lack : ColumnsError} :
    fieldType types space declaration = .error lack ↔
      (∃ value, declared types space declaration = .error value ∧ .unrecognized value = lack) ∨
        ∃ d, declared types space declaration = .ok d ∧ columnType? d.kind = none ∧
          .unmapped d.kind = lack := by
  cases comes : declared types space declaration with
  | error value => simp [fieldType_of_error comes]
  | ok d =>
    cases known : columnType? d.kind with
    | none => simp [fieldType_of_none comes known, known]
    | some type => simp [fieldType_of_some comes known, known]

theorem fieldColumn_eq_ok_iff {members : List (String × Json)} {column : Column} :
    fieldColumn types space (.obj members) = .ok column ↔
      ∃ dataType name, fieldType types space ((members.lookup "type").getD .null) = .ok dataType ∧
        members.lookup "name" = some name ∧ column = ⟨name, dataType⟩ := by
  rw [fieldColumn, bind_eq_ok_iff]
  cases members.lookup "name" with
  | none => simp
  | some name => simp [pure, Except.pure, eq_comm]

theorem fieldType_eq_ok_iff_stands {dataType : DataType} :
    fieldType types space field.declaration = .ok dataType ↔
      Stands types space field ⟨field.name, dataType⟩ := by
  rw [fieldType_eq_ok_iff]
  constructor
  · rintro ⟨d, type, comes, known, rfl⟩
    refine ⟨rfl, ⟨d, type, comes, known, ?_⟩, ?_⟩
    · split <;> rfl
    · rw [← nullable_iff_allowsNull comes]
      cases d.nullable <;> simp [DataType.asNullable, DataType.asRequired]
  · rintro ⟨-, ⟨d, type, comes, known, named⟩, nullable⟩
    refine ⟨d, type, comes, known, ?_⟩
    rw [← nullable_iff_allowsNull comes] at nullable
    obtain ⟨typeName, null⟩ := dataType
    cases named
    cases hd : d.nullable <;> simp_all [DataType.asNullable, DataType.asRequired]

theorem mapped_iff :
    Mapped types space field ↔
      ∃ dataType, fieldType types space field.declaration = .ok dataType := by
  simp only [fieldType_eq_ok_iff]
  constructor
  · rintro ⟨d, type, comes, known⟩
    exact ⟨_, d, type, comes, known, rfl⟩
  · rintro ⟨_, d, type, comes, known, -⟩
    exact ⟨d, type, comes, known⟩

theorem mapped_iff_stands :
    Mapped types space field ↔ ∃ column, Stands types space field column := by
  rw [mapped_iff]
  constructor
  · rintro ⟨dataType, typed⟩
    exact ⟨_, fieldType_eq_ok_iff_stands.mp typed⟩
  · rintro ⟨column, stands⟩
    obtain ⟨name, dataType⟩ := column
    cases stands.name
    exact ⟨dataType, fieldType_eq_ok_iff_stands.mpr stands⟩

/-! ## The walk -/

theorem addNamed_eq_ok_iff {columns columns' : Columns} :
    addNamed types space columns field = .ok columns' ↔
      ∃ column, Stands types space field column ∧ columns.hasName field.name = false ∧
        columns' = columns ++ [column] := by
  rw [addNamed, bind_eq_ok_iff]
  simp only [mapError_eq_ok_iff]
  constructor
  · rintro ⟨dataType, typed, added⟩
    refine ⟨_, fieldType_eq_ok_iff_stands.mp typed, ?_⟩
    cases taken : columns.hasName field.name with
    | true =>
      rw [Columns.add_of_taken taken] at added
      cases added
    | false =>
      rw [Columns.add_of_new taken] at added
      exact ⟨rfl, (Except.ok.inj added).symm⟩
  · rintro ⟨⟨name, dataType⟩, stands, new, rfl⟩
    cases stands.name
    exact ⟨dataType, fieldType_eq_ok_iff_stands.mpr stands, Columns.add_of_new new⟩

theorem hasName_iff {columns : Columns} {before : List NamedField} {name : Json}
    (standing : List.Forall₂ (Stands types space) before columns) :
    columns.hasName name = true ↔ ∃ earlier ∈ before, earlier.name.same name = true := by
  induction standing with
  | nil => simp [Columns.hasName]
  | cons stands _ ih =>
    rw [Columns.hasName] at ih ⊢
    rw [List.any_cons, Bool.or_eq_true, ih, stands.name]
    simp

theorem addNamed_eq_error_iff {columns : Columns} {before : List NamedField} {lack : ColumnsError}
    (standing : List.Forall₂ (Stands types space) before columns) :
    addNamed types space columns field = .error lack ↔ Offends types space before field lack := by
  rw [addNamed, bind_eq_error_iff, fieldType_eq_error_iff]
  simp only [mapError_eq_error_iff]
  constructor
  · rintro ((⟨value, comes, rfl⟩ | ⟨d, comes, unknown, rfl⟩) | ⟨dataType, typed, _, refused, rfl⟩)
    · exact .unrecognized comes
    · exact .unmapped comes unknown
    · cases has : columns.hasName field.name with
      | false =>
        rw [Columns.add_of_new has] at refused
        cases refused
      | true =>
        rw [Columns.add_of_taken has] at refused
        cases refused
        obtain ⟨earlier, mem, same⟩ := (hasName_iff standing).mp has
        exact .duplicate (mapped_iff.mpr ⟨dataType, typed⟩) mem same
  · rintro (comes | ⟨comes, unknown⟩ | ⟨mapped, mem, same⟩)
    · exact .inl (.inl ⟨_, comes, rfl⟩)
    · exact .inl (.inr ⟨_, comes, unknown, rfl⟩)
    · obtain ⟨dataType, typed⟩ := mapped_iff.mp mapped
      have has := (hasName_iff standing).mpr ⟨_, mem, same⟩
      exact .inr ⟨dataType, typed, _, Columns.add_of_taken has, rfl⟩

/-- A walk ends well when every field stands for a column, and no name is the same as an earlier
one. -/
theorem walk_eq_ok_iff {start columns : Columns} :
    fields.foldlM (addNamed types space) start = .ok columns ↔
      ∃ added, List.Forall₂ (Stands types space) fields added ∧
        fields.Pairwise NamedField.Differs ∧
        (∀ field ∈ fields, start.hasName field.name = false) ∧ columns = start ++ added := by
  induction fields generalizing start with
  | nil =>
    simp only [List.foldlM_nil, pure, Except.pure, Except.ok.injEq]
    constructor
    · rintro rfl
      exact ⟨[], .nil, .nil, by simp, by simp⟩
    · rintro ⟨_, ⟨⟩, -, -, rfl⟩
      simp
  | cons field rest ih =>
    rw [List.foldlM_cons, bind_eq_ok_iff]
    simp only [ih, addNamed_eq_ok_iff]
    constructor
    · rintro ⟨_, ⟨column, stands, new, rfl⟩, added, standing, differ, free, rfl⟩
      have free' : ∀ later ∈ rest, start.hasName later.name = false ∧ field.Differs later := by
        intro later mem
        have := free later mem
        rw [Columns.hasName, List.any_append, Bool.or_eq_false_iff] at this
        refine ⟨this.1, ?_⟩
        simpa [NamedField.Differs, stands.name] using this.2
      refine ⟨column :: added, .cons stands standing, ?_, ?_, by simp⟩
      · exact .cons (fun later mem => (free' later mem).2) differ
      · exact List.forall_mem_cons.mpr ⟨new, fun later mem => (free' later mem).1⟩
    · rintro ⟨_, standing, differ, free, rfl⟩
      cases standing with
      | @cons _ column _ added stands standing =>
        rw [List.forall_mem_cons] at free
        rw [List.pairwise_cons] at differ
        refine ⟨_, ⟨column, stands, free.1, rfl⟩, added, standing, differ.2, ?_, by simp⟩
        intro later mem
        rw [Columns.hasName, List.any_append, Bool.or_eq_false_iff]
        refine ⟨free.2 later mem, ?_⟩
        simpa [NamedField.Differs, stands.name] using differ.1 later mem

/-! ## The definition -/

theorem addField_of_named {columns : Columns} {value : Json}
    (named : namedField? value = some field) :
    addField types space columns value = addNamed types space columns field := by
  cases value with
  | obj members =>
    obtain ⟨name, found, rfl⟩ := Option.map_eq_some_iff.mp named
    simp only [addField, addNamed, fieldColumn, found, bind_assoc, pure_bind]
  | _ => cases named

theorem foldlM_addField {items : List Json} (named : items.mapM namedField? = some fields)
    (columns : Columns) :
    items.foldlM (addField types space) columns = fields.foldlM (addNamed types space) columns := by
  induction items generalizing fields columns with
  | nil =>
    cases named
    rfl
  | cons item rest ih =>
    simp only [List.mapM_cons, Option.bind_eq_bind, Option.bind_eq_some_iff, pure,
      Option.some.injEq] at named
    obtain ⟨field, first, others, later, rfl⟩ := named
    simp only [List.foldlM_cons, addField_of_named first, ih later]

theorem columns_of_named {checked : CheckedRecord}
    (named : namedFields? checked.record = some fields) :
    checked.columns =
      fields.foldlM (addNamed checked.types (recordSpace checked.record)) [] := by
  rw [namedFields?] at named
  rw [CheckedRecord.columns]
  split at named
  · rename_i absent
    cases named
    rw [absent]
    rfl
  · rename_i items present
    rw [present]
    exact foldlM_addField named []
  · cases named

/-- The first field that gives no column, behind fields that do, and what is wrong with it. -/
def FirstOffends (types : NamedTypes) (space : Json) (fields : List NamedField)
    (lack : ColumnsError) : Prop :=
  ∃ before field after, fields = before ++ field :: after ∧
    (∀ earlier ∈ before, Mapped types space earlier) ∧ before.Pairwise NamedField.Differs ∧
      Offends types space before field lack

theorem forall_mapped_iff :
    (∀ field ∈ fields, Mapped types space field) ↔
      ∃ columns, List.Forall₂ (Stands types space) fields columns := by
  induction fields with
  | nil => simp
  | cons field rest ih =>
    rw [List.forall_mem_cons, ih, mapped_iff_stands]
    constructor
    · rintro ⟨⟨column, stands⟩, columns, standing⟩
      exact ⟨column :: columns, .cons stands standing⟩
    · rintro ⟨_, standing⟩
      cases standing with
      | cons stands standing => exact ⟨⟨_, stands⟩, _, standing⟩

theorem walk_ok_iff {columns : Columns} :
    fields.foldlM (addNamed types space) [] = .ok columns ↔
      List.Forall₂ (Stands types space) fields columns ∧
        fields.Pairwise NamedField.Differs := by
  rw [walk_eq_ok_iff]
  simp [Columns.hasName]

theorem walk_error_iff {lack : ColumnsError} :
    fields.foldlM (addNamed types space) [] = .error lack ↔
      FirstOffends types space fields lack := by
  rw [foldlM_eq_error_iff]
  simp only [walk_ok_iff, FirstOffends, forall_mapped_iff]
  constructor
  · rintro ⟨before, field, after, reached, rfl, ⟨standing, differ⟩, offends⟩
    exact ⟨before, field, after, rfl, ⟨reached, standing⟩, differ,
      (addNamed_eq_error_iff standing).mp offends⟩
  · rintro ⟨before, field, after, rfl, ⟨reached, standing⟩, differ, offends⟩
    exact ⟨before, field, after, reached, rfl, ⟨standing, differ⟩,
      (addNamed_eq_error_iff standing).mpr offends⟩

end TopicTables.Avro

namespace TopicTables.Catalog
open Avro

variable {depth : Nat} {descriptor : Descriptor} {checked : CheckedRecord} {fields : List NamedField}

/-- A definition whose fields have names gives one column for each of them exactly when all are
mapped and no two have the same name; otherwise the first field that offends says why not. -/
theorem columnsOf_ok_iff_mapped (encoding : descriptor.encoding = .avro)
    (checks : (readDefinition depth descriptor.definition >>= checkedRecord) = .ok checked)
    (named : namedFields? checked.record = some fields) :
    ((∃ columns, columnsOf depth descriptor = .ok columns) ↔
      (∀ field ∈ fields, Mapped checked.types (recordSpace checked.record) field) ∧
        fields.Pairwise NamedField.Differs) ∧
    (∀ columns, columnsOf depth descriptor = .ok columns →
      List.Forall₂ (Stands checked.types (recordSpace checked.record)) fields columns) ∧
    ∀ lack, columnsOf depth descriptor = .error lack ↔
      FirstOffends checked.types (recordSpace checked.record) fields lack := by
  have walked : columnsOf depth descriptor =
      fields.foldlM (addNamed checked.types (recordSpace checked.record)) [] := by
    rw [← columns_of_named named, columnsOf, encoding]
    obtain ⟨definition, read, record⟩ := Results.bind_eq_ok_iff.mp checks
    simp only [registeredColumns, read, Avro.columnsOf, record, Bind.bind, Except.bind]
  rw [walked]
  refine ⟨?_, ?_, fun lack => walk_error_iff⟩
  · simp only [walk_ok_iff, forall_mapped_iff, exists_and_right]
  · intro columns ends
    exact (walk_ok_iff.mp ends).1

/-- The one field of a record, which may be null, makes one column. -/
theorem columnsOf_ok_iff_mapped_amount :
    let text := "\x7b\"type\":\"record\",\"name\":\"Order\",\"fields\":[" ++
      "\x7b\"name\":\"amount\",\"type\":[\"null\",\"int\"]\x7d]\x7d"
    let orders : Descriptor := { subject := "orders", encoding := .avro, definition := .str text }
    ∃ columns, columnsOf Json.usualDepth orders = .ok columns :=
  let type := Json.arr [.str "null", .str "int"]
  let amount := [("name", Json.str "amount"), ("type", type)]
  let order := [("type", Json.str "record"), ("name", .str "Order"), ("fields", .arr [.obj amount])]
  let checked : CheckedRecord := ⟨order, [("Order", .obj [("type", .str "record")])]⟩
  have mapped : Mapped checked.types (recordSpace order) ⟨.str "amount", type⟩ :=
    ⟨⟨"int", true⟩, ⟨"INT", true⟩, by decide +kernel, by decide +kernel⟩
  (@columnsOf_ok_iff_mapped _ _ checked _ rfl (by decide +kernel) rfl).1.mpr
    ⟨List.forall_mem_singleton.mpr mapped, List.pairwise_singleton _ _⟩

end TopicTables.Catalog
