import TopicTables.Proofs.Avro.Defects
import TopicTables.Proofs.Avro.FieldColumns

/-! # Where definitions break off

A definition that is invalid is told to be so. Some definitions are neither valid nor told to be
invalid: the walk over them breaks off. This happens while the text is read, when it is nested too
deep; in the check, when a part misses what the check takes for granted; and behind the check, only
when the definition says that it was checked before and yet lists what is no field.
-/

namespace TopicTables.Avro
open Results

variable {types : NamedTypes} {space : Json} {defect : Defect}

/-! ## Behind the check -/

/-- The walk over the fields of a record breaks off at this one: it is no object, or it stands for a
column without a name. -/
inductive FieldBreaks (types : NamedTypes) (space : Json) : Json → Defect → Prop
  | noObject {value : Json} :
    (∀ members, value ≠ .obj members) → FieldBreaks types space value (.notOffered value "get")
  | nameless {members : List (String × Json)} {dataType : DataType} :
    fieldType types space ((members.lookup "type").getD .null) = .ok dataType →
      members.lookup "name" = none →
        FieldBreaks types space (.obj members) (.missingMember "name")

/-- The walk over the fields that a value offers breaks off: there are none to be had, or one breaks
off behind some that make columns. -/
inductive FieldsBreak (types : NamedTypes) (space : Json) (value : Json) : Defect → Prop
  | noItems : itemsOf? value = none → FieldsBreak types space value (.noItems value)
  | field {before after : List Json} {field : Json} {fields : List NamedField} {defect : Defect} :
    itemsOf? value = some (before ++ field :: after) → before.mapM namedField? = some fields →
      (∀ earlier ∈ fields, Mapped types space earlier) → fields.Pairwise NamedField.Differs →
        FieldBreaks types space field defect → FieldsBreak types space value defect

theorem addField_broken_iff {columns : Columns} {field : Json} :
    addField types space columns field = .error (.broken defect) ↔
      FieldBreaks types space field defect := by
  rw [addField, bind_eq_error_iff]
  simp only [mapError_eq_error_iff, reduceCtorEq, and_false, exists_false, or_false]
  constructor
  · intro broken
    cases field with
    | obj members =>
      rw [fieldColumn, bind_eq_error_iff, fieldType_eq_error_iff] at broken
      simp only [reduceCtorEq, and_false, exists_false, or_self, false_or] at broken
      obtain ⟨dataType, typed, broken⟩ := broken
      cases named : members.lookup "name" with
      | some name =>
        rw [named] at broken
        cases broken
      | none =>
        rw [named] at broken
        cases broken
        exact .nameless typed named
    | _ =>
      cases broken
      exact .noObject fun _ => Json.noConfusion
  · rintro (noObject | ⟨typed, named⟩)
    · cases field with
      | obj members => exact absurd rfl (noObject members)
      | _ => rfl
    · rw [fieldColumn, typed, named]
      rfl

theorem namedField_of_addField {columns columns' : Columns} {value : Json}
    (added : addField types space columns value = .ok columns') :
    ∃ field, namedField? value = some field := by
  cases value with
  | obj members =>
    rw [addField, fieldColumn, bind_eq_ok_iff] at added
    obtain ⟨column, made, -⟩ := added
    obtain ⟨dataType, -, made⟩ := bind_eq_ok_iff.mp made
    cases named : members.lookup "name" with
    | some name => simp [namedField?, named]
    | none =>
      rw [named] at made
      cases made
  | _ => cases added

theorem mapM_of_foldlM_addField {items : List Json} {columns columns' : Columns}
    (walked : items.foldlM (addField types space) columns = .ok columns') :
    ∃ fields, items.mapM namedField? = some fields := by
  induction items generalizing columns with
  | nil => exact ⟨[], rfl⟩
  | cons item rest ih =>
    rw [List.foldlM_cons] at walked
    obtain ⟨between, added, rest⟩ := bind_eq_ok_iff.mp walked
    obtain ⟨field, first⟩ := namedField_of_addField added
    obtain ⟨fields, others⟩ := ih rest
    exact ⟨field :: fields, by simp [List.mapM_cons, first, others]⟩

theorem columns_broken_iff {checked : CheckedRecord} :
    checked.columns = .error (.broken defect) ↔
      FieldsBreak checked.types (recordSpace checked.record)
        ((checked.record.lookup "fields").getD (.arr [])) defect := by
  rw [CheckedRecord.columns]
  generalize (checked.record.lookup "fields").getD (.arr []) = value
  constructor
  · intro broken
    cases offered : itemsOf? value with
    | none =>
      simp only [offered] at broken
      cases broken
      exact .noItems offered
    | some items =>
      simp only [offered] at broken
      obtain ⟨before, field, after, reached, rfl, walked, failed⟩ := foldlM_eq_error_iff.mp broken
      obtain ⟨fields, named⟩ := mapM_of_foldlM_addField walked
      rw [foldlM_addField named] at walked
      obtain ⟨standing, differ⟩ := walk_ok_iff.mp walked
      exact .field offered named (forall_mapped_iff.mpr ⟨reached, standing⟩) differ
        (addField_broken_iff.mp failed)
  · rintro (none | ⟨offered, named, mapped, differ, breaks⟩)
    · simp only [none]
    · simp only [offered]
      obtain ⟨reached, standing⟩ := forall_mapped_iff.mp mapped
      refine foldlM_eq_error_iff.mpr ⟨_, _, _, reached, rfl, ?_, addField_broken_iff.mpr breaks⟩
      rw [foldlM_addField named]
      exact walk_ok_iff.mpr ⟨standing, differ⟩

/-! ## A record that was checked does not break off -/

theorem named_of_checkFields {fields : List Json} {scope scope' : Scope}
    (passed : checkFields space fields scope = .ok ((), scope')) :
    ∃ named, fields.mapM namedField? = some named := by
  induction fields generalizing scope with
  | nil => exact ⟨[], rfl⟩
  | cons field rest ih =>
    rw [checkFields] at passed
    obtain ⟨_, between, first, later⟩ := Check.bind_eq_ok_iff.mp passed
    obtain ⟨members, name, _, _, rfl, named, -, -⟩ := member_of_checkField first
    obtain ⟨others, ih⟩ := ih later
    refine ⟨⟨name, (members.lookup "type").getD .null⟩ :: others, ?_⟩
    simp [List.mapM_cons, namedField?, named, ih]

theorem columns_ne_broken_of_named {checked : CheckedRecord} {fields : List NamedField}
    (named : namedFields? checked.record = some fields) :
    checked.columns ≠ .error (.broken defect) := by
  rw [columns_of_named named, Ne, walk_error_iff]
  rintro ⟨_, _, _, -, -, -, ⟨⟩⟩

theorem columns_ne_broken {record : List (String × Json)}
    (isRecord : record.lookup "type" = some (.str "record"))
    (passed : checkAlone (.obj record) [] = .ok types) :
    CheckedRecord.columns ⟨record, types⟩ ≠ .error (.broken defect) := by
  obtain ⟨d, scope', -, fields, -⟩ := fields_of_checkAlone isRecord passed
  rw [checkFieldsMember_eq] at fields
  cases listed : record.lookup "fields" with
  | none =>
    have named : namedFields? record = some [] := by simp [namedFields?, listed]
    exact columns_ne_broken_of_named named
  | some value =>
    rw [listed] at fields
    by_cases list : ∃ items, value = .arr items
    · obtain ⟨items, rfl⟩ := list
      obtain ⟨all, mapped⟩ := named_of_checkFields fields
      have named : namedFields? record = some all := by simp [namedFields?, listed, mapped]
      exact columns_ne_broken_of_named named
    · have noList : ∀ items, value ≠ .arr items := fun items same => list ⟨items, same⟩
      obtain ⟨offered, -⟩ := empty_of_checkFieldsValue noList fields
      simp [CheckedRecord.columns, listed, offered, pure, Except.pure]

/-! ## The whole definition -/

/-- The value is a record that says that it was checked before and brings its types, and the walk
over its fields breaks off. -/
inductive UncheckedBreaks : Json → Defect → Prop
  | record {record brought : List (String × Json)} {mark : Json} {defect : Defect} :
    record.lookup checkedMark = some mark → record.lookup broughtTypes = some (.obj brought) →
      record.lookup "type" = some (.str "record") →
        FieldsBreak (addTypes [] brought) (recordSpace record)
            ((record.lookup "fields").getD (.arr [])) defect →
          UncheckedBreaks (.obj record) defect

/-- A definition breaks off: while it is read with room for a number of levels, in its check, or behind
a check that it says was done before. -/
inductive BreaksOff (depth : Nat) : Json → Defect → Prop
  | reading {text kind : String} :
    Json.read depth text = .error (.tooDeep kind) → BreaksOff depth (.str text) (.tooDeep kind)
  | check {text : String} {value : Json} {defect : Defect} :
    Json.read depth text = .ok value → checkDefinition value [] = .error (.broken defect) →
      BreaksOff depth (.str text) defect
  | fields {text : String} {value : Json} {defect : Defect} :
    Json.read depth text = .ok value → UncheckedBreaks value defect → BreaksOff depth (.str text) defect

/-- The text is nested too deep, or some object in it lacks something, or it brings its own types and
lists what is no field. -/
inductive LacksInText (depth : Nat) (text : String) : Defect → Prop
  | room {kind : String} :
    Json.read depth text = .error (.tooDeep kind) → LacksInText depth text (.tooDeep kind)
  | within {value : Json} {defect : Defect} :
    Json.read depth text = .ok value → LacksWithin value defect → LacksInText depth text defect
  | fields {value : Json} {defect : Defect} :
    Json.read depth text = .ok value → UncheckedBreaks value defect → LacksInText depth text defect

theorem lacks_of_breaksOff {depth : Nat} {definition : Json}
    (breaks : BreaksOff depth definition defect) :
    ∃ text, definition = .str text ∧ LacksInText depth text defect := by
  cases breaks with
  | reading deep => exact ⟨_, rfl, .room deep⟩
  | check read failed => exact ⟨_, rfl, .within read (lacks_of_checkDefinition _ _ failed)⟩
  | fields read breaks => exact ⟨_, rfl, .fields read breaks⟩

theorem checkedRecord_eq_ok_iff {definition : Json} {checked : CheckedRecord} :
    checkedRecord definition = .ok checked ↔
      definition = .obj checked.record ∧ checkDefinition definition [] = .ok checked.types ∧
        checked.record.lookup "type" = some (.str "record") := by
  rw [checkedRecord, bind_eq_ok_iff]
  simp only [mapError_eq_ok_iff]
  constructor
  · rintro ⟨types, passed, rest⟩
    cases definition with
    | obj record =>
      simp only at rest
      split at rest
      · rename_i isRecord
        cases rest
        exact ⟨rfl, passed, isRecord⟩
      · cases rest
    | _ => cases rest
  · rintro ⟨rfl, passed, isRecord⟩
    refine ⟨checked.types, passed, ?_⟩
    simp only [isRecord, if_true]
    rfl

theorem checkedRecord_broken_iff {definition : Json} :
    checkedRecord definition = .error (.broken defect) ↔
      checkDefinition definition [] = .error (.broken defect) := by
  rw [checkedRecord, bind_eq_error_iff]
  simp only [mapError_eq_ok_iff, mapError_eq_error_iff]
  constructor
  · rintro (⟨fault, failed, same⟩ | ⟨types, passed, rest⟩)
    · cases fault with
      | invalid cause => cases same
      | broken inner =>
        cases same
        exact failed
    · cases definition with
      | obj record =>
        simp only at rest
        split at rest <;> cases rest
      | _ => cases rest
  · intro failed
    exact .inl ⟨_, failed, rfl⟩

theorem readDefinition_broken_iff {depth : Nat} {definition : Json} :
    readDefinition depth definition = .error (.broken defect) ↔
      ∃ text kind, definition = .str text ∧ Json.read depth text = .error (.tooDeep kind) ∧
        defect = .tooDeep kind := by
  cases definition with
  | str text =>
    rw [readDefinition, mapError_eq_error_iff]
    constructor
    · rintro ⟨fault, failed, same⟩
      cases fault with
      | tooDeep kind =>
        cases same
        exact ⟨text, kind, rfl, failed, rfl⟩
      | _ => cases same
    · rintro ⟨_, kind, ⟨⟩, failed, rfl⟩
      exact ⟨_, failed, rfl⟩
  | _ => simp [readDefinition]

/-- A record in which the walk behind the check breaks off was not checked but brings its types. -/
theorem marked_of_columns_broken {checked : CheckedRecord}
    (isRecord : checked.record.lookup "type" = some (.str "record"))
    (passed : checkDefinition (.obj checked.record) [] = .ok checked.types)
    (broken : checked.columns = .error (.broken defect)) :
    ∃ mark brought, checked.record.lookup checkedMark = some mark ∧
      checked.record.lookup broughtTypes = some (.obj brought) ∧
        checked.types = addTypes [] brought := by
  rw [checkDefinition, checkTopObject] at passed
  split at passed
  · rename_i mark brought marked brings
    exact ⟨mark, brought, marked, brings, (Except.ok.inj passed).symm⟩
  · cases passed
  · exact absurd broken (columns_ne_broken isRecord passed)

/-- Columns fail to be had for a defect exactly where the definition breaks off. -/
theorem registeredColumns_broken_iff {depth : Nat} {definition : Json} :
    registeredColumns depth definition = .error (.broken defect) ↔
      BreaksOff depth definition defect := by
  rw [registeredColumns, bind_eq_error_iff, readDefinition_broken_iff]
  simp only [columnsOf, bind_eq_error_iff, checkedRecord_broken_iff]
  constructor
  · rintro (⟨text, kind, rfl, deep, rfl⟩ | ⟨value, read, failed⟩)
    · exact .reading deep
    · cases definition with
      | str text =>
        have read := mapError_eq_ok_iff.mp read
        obtain failed | ⟨checked, checks, broken⟩ := failed
        · exact .check read failed
        · obtain ⟨rfl, passed, isRecord⟩ := checkedRecord_eq_ok_iff.mp checks
          obtain ⟨mark, brought, marked, brings, types⟩ :=
            marked_of_columns_broken isRecord passed broken
          have fields := columns_broken_iff.mp broken
          rw [types] at fields
          exact .fields read (.record marked brings isRecord fields)
      | _ => cases read
  · rintro (deep | ⟨read, failed⟩ | ⟨read, ⟨marked, brings, isRecord, breaks⟩⟩)
    · exact .inl ⟨_, _, rfl, deep, rfl⟩
    · exact .inr ⟨_, mapError_eq_ok_iff.mpr read, .inl failed⟩
    · refine .inr ⟨_, mapError_eq_ok_iff.mpr read, .inr ⟨⟨_, _⟩, ?_, columns_broken_iff.mpr breaks⟩⟩
      refine checkedRecord_eq_ok_iff.mpr ⟨rfl, ?_, isRecord⟩
      rw [checkDefinition, checkTopObject, marked, brings]
      rfl

end TopicTables.Avro
