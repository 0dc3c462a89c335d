import TopicTables.Proofs.Avro.Marks
import TopicTables.Proofs.Avro.Resolution

/-! # Columns that are well formed

The columns of a definition never have the same name twice. Their names are texts, none of them
empty, just where those of the fields are: the check of a definition does not look at them. A type of
null without null comes from nothing that a definition declares, but only from a type that it brings
along.
-/

namespace TopicTables

/-- The columns have names of their own, each a text that is not empty, and a column that holds
nothing but null allows null. -/
structure Columns.WellFormed (columns : Columns) : Prop where
  named : ∀ column ∈ columns, ∃ name, column.name = .str name ∧ name ≠ ""
  distinct : (columns.map Column.name).Nodup
  void : ∀ column ∈ columns, column.dataType.typeName = "NULL" → column.dataType.nullable = true

namespace Avro
open Results

variable {types : NamedTypes} {space : Json} {scope scope' : Scope}

/-! ## The fields behind columns -/

/-- The fields that a record offers, when all of them are objects with names. -/
def offeredFields? (record : List (String × Json)) : Option (List NamedField) :=
  (itemsOf? ((record.lookup "fields").getD (.arr []))).bind fun items => items.mapM namedField?

theorem columns_eq_ok_iff_stands {checked : CheckedRecord} {columns : Columns} :
    checked.columns = .ok columns ↔ ∃ fields, offeredFields? checked.record = some fields ∧
      List.Forall₂ (Stands checked.types (recordSpace checked.record)) fields columns ∧
        fields.Pairwise NamedField.Differs := by
  rw [CheckedRecord.columns, offeredFields?]
  cases itemsOf? ((checked.record.lookup "fields").getD (.arr [])) with
  | none => simp
  | some items =>
    simp only [Option.bind_some]
    constructor
    · intro walked
      obtain ⟨fields, named⟩ := mapM_of_foldlM_addField walked
      rw [foldlM_addField named, walk_ok_iff] at walked
      exact ⟨fields, named, walked⟩
    · rintro ⟨fields, named, walked⟩
      rw [← walk_ok_iff, ← foldlM_addField named] at walked
      exact walked

/-! ## The type of null without null -/

theorem typeName_eq_null_iff {kind : String} {type : DataType} (known : columnType? kind = some type) :
    type.typeName = "NULL" ↔ kind = "null" := by
  obtain ⟨typeName, found, rfl⟩ := Option.map_eq_some_iff.mp known
  constructor
  · rintro rfl
    obtain ⟨before, after, split, -⟩ := List.lookup_eq_some_iff.mp found
    have listed : (kind, "NULL") ∈ columnTypes := by simp [split]
    simpa [columnTypes] using listed
  · rintro rfl
    exact (Option.some.inj found).symm

/-- A declaration comes down to the kind of null without null just where its word is told to be of
that kind. -/
theorem declared_void_iff {declaration : Json} :
    declared types space declaration = .ok ⟨"null", false⟩ ↔
      ∃ word, peeled declaration = .str word ∧ namedKind? types space word = some "null" := by
  rw [← declared_peeled]
  cases shape : peeled declaration with
  | str word =>
    simp only [Json.str.injEq, exists_eq_left']
    rw [declared]
    cases namedKind? types space word with
    | some kind => simp
    | none =>
      simp only [Except.ok.injEq, Declared.mk.injEq, beq_eq_false_iff_ne, reduceCtorEq, iff_false]
      rintro ⟨rfl, other⟩
      exact other rfl
  | arr items =>
    simp only [reduceCtorEq, false_and, exists_false, iff_false]
    intro comes
    simpa using nullable_or_union comes
  | obj members => exact absurd shape (peeled_ne_obj declaration members)
  | _ => simp [declared]

theorem Stands.void_iff {field : NamedField} {column : Column}
    (stands : Stands types space field column) :
    (column.dataType.typeName = "NULL" ∧ column.dataType.nullable = false) ↔
      ∃ word, peeled field.declaration = .str word ∧ namedKind? types space word = some "null" := by
  obtain ⟨⟨kind, nullable⟩, type, comes, known, named⟩ := stands.type
  rw [← declared_void_iff, comes, named, typeName_eq_null_iff known, ← Bool.not_eq_true,
    stands.nullable, ← nullable_iff_allowsNull comes]
  simp

/-! ## Types that a definition declares -/

def OfDeclaringForms (types : NamedTypes) : Prop :=
  ∀ name type, types.lookup name = some type → ∃ form ∈ Form.declaring, type = ofKind form.word

theorem Scope.Declares.ofDeclaringForms (declares : scope.Declares scope')
    (known : OfDeclaringForms scope.types) : OfDeclaringForms scope'.types := by
  induction declares with
  | nothing => exact known
  | @type _ _ form name declaring _ _ ih =>
    refine ih fun other type found => ?_
    by_cases same : other = name
    · rw [Scope.withType, same, Json.lookup_setMember_self] at found
      exact ⟨form, declaring, (Option.some.inj found).symm⟩
    · rw [Scope.withType, Json.lookup_setMember_of_ne same] at found
      exact known _ _ found

theorem ofDeclaringForms_of_checkAlone {schema : Json} (passed : checkAlone schema [] = .ok types) :
    OfDeclaringForms types := by
  obtain ⟨⟨branch, last⟩, checked, rfl⟩ := map_eq_ok_iff.mp passed
  refine (declares_of_checkSchema _ _ _ _ checked).ofDeclaringForms fun name type found => ?_
  simp at found

theorem Form.word_ne_null {form : Form} (declaring : form ∈ Form.declaring) :
    form.word ≠ "null" := by
  simp only [Form.declaring, List.mem_cons, List.not_mem_nil, or_false] at declaring
  rcases declaring with rfl | rfl | rfl | rfl <;> decide

theorem namedKind?_ne_null (forms : OfDeclaringForms types) (word : String) :
    namedKind? types space word ≠ some "null" := by
  have known : ∀ type, namedType? types space word = some type →
      ∃ form ∈ Form.declaring, type = ofKind form.word := by
    intro type means
    rw [namedType?] at means
    split at means
    · rename_i found
      exact Option.some.inj means ▸ forms _ _ found
    · split at means
      · exact forms _ _ means
      · cases means
  rw [namedKind?]
  split
  · rename_i members means
    obtain ⟨form, declaring, same⟩ := known _ means
    cases same
    simpa [Json.text] using form.word_ne_null declaring
  · simp

/-! ## Well-formed columns -/

/-- The declaration comes down to a word under which the record brings a type of the kind null
along. -/
def BringsNull (record : List (String × Json)) (declaration : Json) : Prop :=
  ∃ brought word, Brings record brought ∧ peeled declaration = .str word ∧
    namedKind? (addTypes [] brought) (recordSpace record) word = some "null"

theorem bringsNull_iff {record : List (String × Json)} {declaration : Json}
    (passed : checkTopObject record [] = .ok types) :
    BringsNull record declaration ↔ ∃ word, peeled declaration = .str word ∧
      namedKind? types (recordSpace record) word = some "null" := by
  rcases checkTopObject_cases passed with ⟨brought, brings, rfl⟩ | ⟨unmarked, alone⟩
  · constructor
    · rintro ⟨other, word, alsoBrings, shape, null⟩
      exact ⟨word, shape, brings.unique alsoBrings ▸ null⟩
    · rintro ⟨word, shape, null⟩
      exact ⟨brought, word, brings, shape, null⟩
  · constructor
    · rintro ⟨brought, -, brings, -⟩
      exact absurd brings (unmarked brought)
    · rintro ⟨word, -, null⟩
      exact absurd null (namedKind?_ne_null (ofDeclaringForms_of_checkAlone alone) word)

theorem forall_mem_iff_of_forall₂ {α β : Type} {Related : α → β → Prop} {Left : α → Prop}
    {Right : β → Prop} {as : List α} {bs : List β} (related : List.Forall₂ Related as bs)
    (same : ∀ a b, Related a b → (Right b ↔ Left a)) :
    (∀ b ∈ bs, Right b) ↔ ∀ a ∈ as, Left a := by
  induction related with
  | nil => simp
  | cons head _ ih => rw [List.forall_mem_cons, List.forall_mem_cons, ih, same _ _ head]

theorem names_of_standing {fields : List NamedField} {columns : Columns}
    (standing : List.Forall₂ (Stands types space) fields columns) :
    columns.map Column.name = fields.map NamedField.name := by
  induction standing with
  | nil => rfl
  | cons stands _ ih => rw [List.map_cons, List.map_cons, ih, stands.name]

theorem nodup_names {fields : List NamedField} (differ : fields.Pairwise NamedField.Differs)
    (named : ∀ field ∈ fields, ∃ name, field.name = .str name) :
    (fields.map NamedField.name).Nodup := by
  refine List.pairwise_map.mpr (differ.imp_of_mem fun {a b} first second differs => ?_)
  obtain ⟨name, first⟩ := named a first
  obtain ⟨other, second⟩ := named b second
  rw [NamedField.Differs, first, second, Json.same_str] at differs
  simpa [first, second] using differs

def NamedField.HasText (field : NamedField) : Prop :=
  ∃ name, field.name = .str name ∧ name ≠ ""

theorem wellFormed_iff_of_standing {record : List (String × Json)} {fields : List NamedField}
    {columns : Columns} (passed : checkTopObject record [] = .ok types)
    (standing : List.Forall₂ (Stands types (recordSpace record)) fields columns)
    (differ : fields.Pairwise NamedField.Differs) :
    columns.WellFormed ↔
      ∀ field ∈ fields, field.HasText ∧ ¬ BringsNull record field.declaration := by
  have named : (∀ column ∈ columns, ∃ name, column.name = .str name ∧ name ≠ "") ↔
      ∀ field ∈ fields, field.HasText :=
    forall_mem_iff_of_forall₂ standing fun field column stands => by
      rw [stands.name, NamedField.HasText]
  have void : (∀ column ∈ columns, column.dataType.typeName = "NULL" →
      column.dataType.nullable = true) ↔
        ∀ field ∈ fields, ¬ BringsNull record field.declaration :=
    forall_mem_iff_of_forall₂ standing fun field column stands => by
      rw [bringsNull_iff passed, ← stands.void_iff, not_and, Bool.not_eq_false]
  constructor
  · intro wellFormed field member
    exact ⟨named.mp wellFormed.named field member, void.mp wellFormed.void field member⟩
  · intro fit
    have texts : ∀ field ∈ fields, field.HasText := fun field member => (fit field member).1
    refine ⟨named.mpr texts, ?_, void.mpr fun field member => (fit field member).2⟩
    rw [names_of_standing standing]
    exact nodup_names differ fun field member => (texts field member).imp fun _ => And.left

end Avro

namespace Catalog
open Avro

/-- What has columns is a record, given as a text. -/
theorem record_of_columnsOf {depth : Nat} {descriptor : Descriptor} {columns : Columns}
    (translated : columnsOf depth descriptor = .ok columns) :
    ∃ text record, descriptor.encoding = .avro ∧ descriptor.definition = .str text ∧
      Json.read depth text = .ok (.obj record) ∧ Avro.columnsOf (.obj record) = .ok columns := by
  rw [columnsOf] at translated
  split at translated
  · rename_i encoding
    obtain ⟨value, read, made⟩ := Results.bind_eq_ok_iff.mp translated
    obtain ⟨record, rfl⟩ := obj_of_columnsOf made
    cases definition : descriptor.definition with
    | str text =>
      rw [definition] at read
      exact ⟨text, _, encoding, rfl, Results.mapError_eq_ok_iff.mp read, made⟩
    | _ =>
      rw [definition] at read
      cases read
  · cases translated

/-- No two columns of a definition have the same name. They are well formed just where every field is
named by a text that is not empty and none brings the kind null along. -/
theorem columnsOf_wellFormed_iff {depth : Nat} {descriptor : Descriptor} {columns : Columns}
    (translated : columnsOf depth descriptor = .ok columns) :
    ∃ text record fields, descriptor.definition = .str text ∧
      Json.read depth text = .ok (.obj record) ∧ offeredFields? record = some fields ∧
        columns.Pairwise (fun a b => a.name.same b.name = false) ∧
          (columns.WellFormed ↔
            ∀ field ∈ fields, field.HasText ∧ ¬ BringsNull record field.declaration) := by
  obtain ⟨text, record, -, definition, read, made⟩ := record_of_columnsOf translated
  obtain ⟨-, types, passed, walked⟩ := columnsOf_eq_ok_iff.mp made
  obtain ⟨fields, offered, standing, differ⟩ := columns_eq_ok_iff_stands.mp walked
  refine ⟨text, record, fields, definition, read, offered, ?_,
    wellFormed_iff_of_standing passed standing differ⟩
  have names : (columns.map Column.name).Pairwise fun a b => a.same b = false := by
    rw [names_of_standing standing, List.pairwise_map]
    exact differ
  exact List.pairwise_map.mp names

/-- The columns of an order are well formed, also the one that holds nothing but null. -/
theorem columnsOf_wellFormed_order :
    let text := "\x7b\"type\":\"record\",\"name\":\"Order\",\"fields\":[" ++
      "\x7b\"name\":\"id\",\"type\":\"long\"\x7d," ++
      "\x7b\"name\":\"gone\",\"type\":\x7b\"type\":\"null\"\x7d\x7d]\x7d"
    let descriptor : Descriptor :=
      { subject := "orders", encoding := .avro, definition := .str text }
    let columns : Columns := [⟨.str "id", ⟨"BIGINT", false⟩⟩, ⟨.str "gone", ⟨"NULL", true⟩⟩]
    columnsOf Json.usualDepth descriptor = .ok columns ∧ columns.WellFormed := by
  intro text descriptor columns
  have translated : columnsOf Json.usualDepth descriptor = .ok columns := by decide +kernel
  refine ⟨translated, ?_⟩
  obtain ⟨_, record, fields, ⟨⟩, read, offered, -, wellFormed⟩ :=
    columnsOf_wellFormed_iff translated
  let gone := Json.obj [("type", .str "null")]
  have known : Json.read Json.usualDepth text = .ok (.obj [("type", .str "record"), ("name", .str "Order"),
      ("fields", .arr [.obj [("name", .str "id"), ("type", .str "long")],
        .obj [("name", .str "gone"), ("type", gone)]])]) := by decide +kernel
  cases Json.obj.inj (Except.ok.inj (read.symm.trans known))
  have named : fields = [⟨.str "id", .str "long"⟩, ⟨.str "gone", gone⟩] :=
    (Option.some.inj offered).symm
  refine wellFormed.mpr fun field member => ⟨?_, ?_⟩
  · simp only [named, List.mem_cons, List.not_mem_nil, or_false] at member
    rcases member with rfl | rfl
    · exact ⟨"id", rfl, by decide⟩
    · exact ⟨"gone", rfl, by decide⟩
  · rintro ⟨_, _, ⟨_, ⟨⟩, -⟩, -⟩

/-- Columns that are not well formed: one with a number for its name, one with an empty name, and
one of the type of null without null. -/
theorem columnsOf_not_wellFormed :
    let field (name : String) := "\x7b\"type\":\"record\",\"name\":\"R\",\"fields\":[" ++
      "\x7b\"name\":" ++ name ++ ",\"type\":\"int\"\x7d]\x7d"
    let brings := "\x7b\"type\":\"record\",\"name\":\"R\",\"fields\":[" ++
      "\x7b\"name\":\"a\",\"type\":\"nothing\"\x7d],\"__fastavro_parsed\":true," ++
      "\"__named_schemas\":\x7b\"nothing\":\x7b\"type\":\"null\"\x7d\x7d\x7d"
    let translated (text : String) :=
      columnsOf Json.usualDepth { subject := "t", encoding := .avro, definition := .str text }
    let numbered : Columns := [⟨.int 1, ⟨"INT", false⟩⟩]
    let unnamed : Columns := [⟨.str "", ⟨"INT", false⟩⟩]
    let void : Columns := [⟨.str "a", ⟨"NULL", false⟩⟩]
    (translated (field "1") = .ok numbered ∧ ¬ numbered.WellFormed) ∧
      (translated (field "\"\"") = .ok unnamed ∧ ¬ unnamed.WellFormed) ∧
        translated brings = .ok void ∧ ¬ void.WellFormed := by
  intro field brings translated numbered unnamed void
  refine ⟨⟨by decide +kernel, fun wellFormed => ?_⟩, ⟨by decide +kernel, fun wellFormed => ?_⟩,
    by decide +kernel, fun wellFormed => ?_⟩
  · obtain ⟨_, ⟨⟩, -⟩ := wellFormed.named _ List.mem_cons_self
  · obtain ⟨_, ⟨⟩, filled⟩ := wellFormed.named _ List.mem_cons_self
    exact filled rfl
  · exact absurd (wellFormed.void _ List.mem_cons_self rfl) (by decide)

end Catalog

end TopicTables
