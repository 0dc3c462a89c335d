import TopicTables.Proofs.Avro.BreakingOff

/-! # Definitions that say that they were checked before

A definition with both marks is not checked, and its names mean the types that it brings. Without
the marks it is checked and means the types that it declares. It keeps its columns without them just
where the check accepts it and each field comes to the same column by either types; a definition
that has not both marks always does.
-/

namespace TopicTables.Avro
open Results

variable {members bare : List (String × Json)} {space : Json} {types types' : NamedTypes}

def recordWords : List String :=
  ["type", "name", "namespace", "fields", "logicalType", "scale", "precision"]

def without (keys : List String) (members : List (String × Json)) : List (String × Json) :=
  members.filter fun member => member.1 ∉ keys

theorem lookup_without {keys : List String} {word : String} (kept : word ∉ keys) :
    (without keys members).lookup word = members.lookup word := by
  induction members with
  | nil => rfl
  | cons member rest ih =>
    obtain ⟨key, value⟩ := member
    by_cases dropped : key ∈ keys
    · have other : word ≠ key := fun same => kept (same ▸ dropped)
      rw [without, List.filter_cons_of_neg (by simpa using dropped), ← without, ih,
        List.lookup_cons, beq_eq_false_iff_ne.mpr other]
    · rw [without, List.filter_cons_of_pos (by simpa using dropped), ← without, List.lookup_cons,
        List.lookup_cons, ih]

theorem lookup_without_of_mem {keys : List String} {key : String} (dropped : key ∈ keys) :
    (without keys members).lookup key = none := by
  rw [List.lookup_eq_none_iff]
  rintro ⟨other, value⟩ present
  rw [without, List.mem_filter] at present
  have kept : other ∉ keys := by simpa using present.2
  rw [bne_iff_ne]
  rintro rfl
  exact kept dropped

def TellsSame (bare members : List (String × Json)) : Prop :=
  ∀ word ∈ recordWords, bare.lookup word = members.lookup word

/-- Two objects tell the same record, but for its fields. -/
def TellsSameHead (bare members : List (String × Json)) : Prop :=
  ∀ word ∈ recordWords, word ≠ "fields" → bare.lookup word = members.lookup word

theorem TellsSame.head (tells : TellsSame bare members) : TellsSameHead bare members :=
  fun word told _ => tells word told

theorem TellsSameHead.name (tells : TellsSameHead bare members) :
    bare.lookup "name" = members.lookup "name" :=
  tells "name" (by decide) (by decide)

theorem TellsSameHead.outer (tells : TellsSameHead bare members) :
    bare.lookup "namespace" = members.lookup "namespace" :=
  tells "namespace" (by decide) (by decide)

/-! ## The check of what is told -/

theorem checkDecimal_congr (tells : TellsSameHead bare members) :
    checkDecimal (.str "record") bare = checkDecimal (.str "record") members := by
  have logical := tells "logicalType" (by decide) (by decide)
  have scale := tells "scale" (by decide) (by decide)
  have precision := tells "precision" (by decide) (by decide)
  have noFixed (precision : Json) (m : List (String × Json)) :
      checkPrecision precision (decide (Json.str "record" = .str "fixed")) m =
        checkPrecision precision false [] := by
    have other : decide (Json.str "record" = .str "fixed") = false := by decide
    rw [other]
    rfl
  simp only [checkDecimal, logical, scale, precision, noFixed]

theorem declaration_congr (name : bare.lookup "name" = members.lookup "name")
    (outer : bare.lookup "namespace" = members.lookup "namespace") :
    Agree (declaration space bare) (declaration space members) := by
  intro d
  have given : givenSpace space bare = givenSpace space members := by
    rw [givenSpace, givenSpace, outer]
  unfold declaration
  rw [given, name]
  cases members.lookup "name" with
  | none => simp [reject]
  | some value => cases value <;> rfl

/-- The check of a record is that of its annotation, of its name and of its fields. -/
theorem checkAlone_eq_ok_iff (isRecord : members.lookup "type" = some (.str "record")) :
    checkAlone (.obj members) types = .ok types' ↔
      checkDecimal (.str "record") members = .ok () ∧
        ∃ d scope, declaration (.str "") members = .ok d ∧
          checkFieldsMember d.inner members (d.outset types) = .ok ((), scope) ∧
            scope.types = types' := by
  constructor
  · intro passed
    refine ⟨?_, fields_of_checkAlone isRecord passed⟩
    obtain ⟨_, checked, -⟩ := map_eq_ok_iff.mp passed
    rw [checkSchema, isRecord] at checked
    obtain ⟨_, _, decimal, -⟩ := Check.bind_eq_ok_iff.mp checked
    exact (Check.lift_eq_ok_iff.mp decimal).1
  · rintro ⟨decimal, d, scope, comes, fields, rfl⟩
    have known : Form.ofWord? "record" = some .record := by decide
    refine map_eq_ok_iff.mpr ⟨(.other, scope), ?_, rfl⟩
    rw [checkSchema, isRecord]
    refine Check.bind_eq_ok_iff.mpr ⟨(), _, Check.lift_eq_ok_iff.mpr ⟨decimal, rfl⟩, ?_⟩
    simp only [known]
    refine Check.bind_eq_ok_iff.mpr ⟨(), scope, ?_, rfl⟩
    rw [checkForm_of_fields (.inl rfl)]
    refine Check.bind_eq_ok_iff.mpr ⟨d, _, declareNamed_eq_ok_iff.mpr ⟨comes, by simp, rfl⟩, ?_⟩
    exact fields

theorem checkAlone_congr (tells : TellsSame bare members)
    (isRecord : members.lookup "type" = some (.str "record")) :
    checkAlone (.obj bare) types = .ok types' ↔ checkAlone (.obj members) types = .ok types' := by
  have alsoRecord : bare.lookup "type" = some (.str "record") :=
    (tells "type" (by decide)).trans isRecord
  rw [checkAlone_eq_ok_iff isRecord, checkAlone_eq_ok_iff alsoRecord, checkDecimal_congr tells.head]
  simp only [declaration_congr tells.head.name tells.head.outer _, checkFieldsMember_eq,
    tells "fields" (by decide)]

/-! ## The columns of what is told -/

theorem recordSpace_congr (name : bare.lookup "name" = members.lookup "name")
    (outer : bare.lookup "namespace" = members.lookup "namespace") :
    recordSpace bare = recordSpace members := by
  simp only [recordSpace, name, outer]

theorem columns_congr (tells : TellsSame bare members) :
    CheckedRecord.columns ⟨bare, types⟩ = CheckedRecord.columns ⟨members, types⟩ := by
  simp only [CheckedRecord.columns, recordSpace_congr tells.head.name tells.head.outer,
    tells "fields" (by decide)]

theorem columnsOf_eq_ok_iff {columns : Columns} :
    columnsOf (.obj members) = .ok columns ↔
      members.lookup "type" = some (.str "record") ∧
        ∃ types, checkTopObject members [] = .ok types ∧
          CheckedRecord.columns ⟨members, types⟩ = .ok columns := by
  rw [columnsOf, bind_eq_ok_iff]
  simp only [checkedRecord_eq_ok_iff, checkDefinition]
  constructor
  · rintro ⟨⟨_, types⟩, ⟨⟨⟩, passed, isRecord⟩, walked⟩
    exact ⟨isRecord, types, passed, walked⟩
  · rintro ⟨isRecord, types, passed, walked⟩
    exact ⟨⟨members, types⟩, ⟨rfl, passed, isRecord⟩, walked⟩

theorem obj_of_columnsOf {value : Json} {columns : Columns}
    (made : columnsOf value = .ok columns) :
    ∃ record, value = .obj record := by
  obtain ⟨checked, checks, -⟩ := bind_eq_ok_iff.mp made
  exact ⟨_, (checkedRecord_eq_ok_iff.mp checks).1⟩

/-! ## The same columns by other types -/

/-- A walk that ends well has one column for each item. -/
theorem map_fieldColumn_of_walk {items : List Json} {start columns : Columns}
    (walked : items.foldlM (addField types space) start = .ok columns) :
    ∃ added, columns = start ++ added ∧ items.map (fieldColumn types space) = added.map .ok := by
  induction items generalizing start with
  | nil =>
    cases walked
    exact ⟨[], by simp, rfl⟩
  | cons item rest ih =>
    rw [List.foldlM_cons] at walked
    obtain ⟨between, added, walked⟩ := bind_eq_ok_iff.mp walked
    obtain ⟨others, rfl, rest⟩ := ih walked
    rw [addField] at added
    obtain ⟨column, made, put⟩ := bind_eq_ok_iff.mp added
    have free : start.hasName column.name = false := by
      by_contra taken
      rw [Columns.add_of_taken (by simpa using taken)] at put
      cases put
    rw [Columns.add_of_new free] at put
    cases put
    exact ⟨column :: others, by simp, by simp [made, rest]⟩

theorem walk_congr {items items' : List Json} {start : Columns}
    (same : items.map (fieldColumn types space) = items'.map (fieldColumn types' space)) :
    items.foldlM (addField types space) start = items'.foldlM (addField types' space) start := by
  induction items generalizing items' start with
  | nil =>
    rw [List.map_nil, eq_comm, List.map_eq_nil_iff] at same
    rw [same]
    rfl
  | cons item rest ih =>
    obtain ⟨item', rest', rfl, first, later⟩ := List.map_eq_cons_iff.mp same.symm
    simp only [List.foldlM_cons, addField, first, ih later.symm]

/-- Each field that the record offers comes to the same column by either types. -/
def ColumnsAgree (members : List (String × Json)) (types types' : NamedTypes) : Prop :=
  ∀ fields, itemsOf? ((members.lookup "fields").getD (.arr [])) = some fields →
    ∀ field ∈ fields, fieldColumn types (recordSpace members) field =
      fieldColumn types' (recordSpace members) field

theorem columns_eq_ok_iff_agree {columns : Columns}
    (walked : CheckedRecord.columns ⟨members, types⟩ = .ok columns) :
    CheckedRecord.columns ⟨members, types'⟩ = .ok columns ↔ ColumnsAgree members types' types := by
  rw [CheckedRecord.columns] at walked ⊢
  rw [ColumnsAgree]
  cases offered : itemsOf? ((members.lookup "fields").getD (.arr [])) with
  | none => simp [offered] at walked
  | some items =>
    simp only [offered] at walked ⊢
    simp only [Option.some.injEq, forall_eq']
    constructor
    · intro again
      obtain ⟨added, rfl, first⟩ := map_fieldColumn_of_walk walked
      obtain ⟨others, same, second⟩ := map_fieldColumn_of_walk again
      cases same
      exact List.map_inj_left.mp (second.trans first.symm)
    · intro agree
      rw [walk_congr (List.map_inj_left.mpr agree), walked]

/-! ## With the marks and without -/

/-- The definition says that it was checked before and brings these types. -/
def Brings (members : List (String × Json)) (brought : NamedTypes) : Prop :=
  ∃ mark, members.lookup checkedMark = some mark ∧
    members.lookup broughtTypes = some (.obj brought)

theorem Brings.unique {brought other : NamedTypes} (brings : Brings members brought)
    (also : Brings members other) : other = brought := by
  obtain ⟨-, -, first⟩ := brings
  obtain ⟨-, -, second⟩ := also
  exact Json.obj.inj (Option.some.inj (second.symm.trans first))

/-- One of the marks is missing. -/
def Unmarked (members : List (String × Json)) : Prop :=
  members.lookup checkedMark = none ∨ members.lookup broughtTypes = none

theorem Unmarked.not_brings (unmarked : Unmarked members) (brought : NamedTypes) :
    ¬ Brings members brought := by
  rintro ⟨mark, marked, brings⟩
  simp [Unmarked, marked, brings] at unmarked

/-- A definition that brings its types is not checked; any other is, where one of the marks is
missing. -/
theorem checkTopObject_eq_ok_iff :
    checkTopObject members types = .ok types' ↔
      (∃ brought, Brings members brought ∧ types' = addTypes types brought) ∨
        Unmarked members ∧ checkAlone (.obj members) types = .ok types' := by
  unfold checkTopObject Brings Unmarked
  cases members.lookup checkedMark with
  | none => simp
  | some mark =>
    cases members.lookup broughtTypes with
    | none => simp
    | some value => cases value <;> simp [eq_comm]

/-- A definition that brings its types is not checked; any other is. -/
theorem checkTopObject_cases (passed : checkTopObject members types = .ok types') :
    (∃ brought, Brings members brought ∧ types' = addTypes types brought) ∨
      (∀ brought, ¬ Brings members brought) ∧ checkAlone (.obj members) types = .ok types' :=
  (checkTopObject_eq_ok_iff.mp passed).imp_right fun ⟨unmarked, alone⟩ =>
    ⟨unmarked.not_brings, alone⟩

theorem checkTopObject_of_unmarked (unmarked : Unmarked bare) :
    checkTopObject bare types = checkAlone (.obj bare) types := by
  rcases unmarked with none | none
  · simp [checkTopObject, none]
  · simp [checkTopObject, none]

theorem columnsOf_without_iff {keys : List String} (unread : ∀ word ∈ recordWords, word ∉ keys)
    (drops : checkedMark ∈ keys ∨ broughtTypes ∈ keys) {columns : Columns}
    (translated : columnsOf (.obj members) = .ok columns) :
    columnsOf (.obj (without keys members)) = .ok columns ↔
      ∀ brought, Brings members brought →
        ∃ own, checkAlone (.obj (without keys members)) [] = .ok own ∧
          ColumnsAgree members own (addTypes [] brought) := by
  obtain ⟨isRecord, types, passed, walked⟩ := columnsOf_eq_ok_iff.mp translated
  have tells : TellsSame (without keys members) members := fun word told =>
    lookup_without (unread word told)
  have alsoRecord : (without keys members).lookup "type" = some (.str "record") :=
    (tells "type" (by decide)).trans isRecord
  have checked : checkTopObject (without keys members) [] =
      checkAlone (.obj (without keys members)) [] :=
    checkTopObject_of_unmarked (drops.imp lookup_without_of_mem lookup_without_of_mem)
  have kept : columnsOf (.obj (without keys members)) = .ok columns ↔
      ∃ own, checkAlone (.obj (without keys members)) [] = .ok own ∧
        ColumnsAgree members own types := by
    simp only [columnsOf_eq_ok_iff, alsoRecord, true_and, checked, columns_congr tells,
      columns_eq_ok_iff_agree walked]
  rw [kept]
  rcases checkTopObject_cases passed with ⟨brought, brings, rfl⟩ | ⟨unmarked, alone⟩
  · constructor
    · intro agree other alsoBrings
      exact brings.unique alsoBrings ▸ agree
    · exact fun agree => agree brought brings
  · constructor
    · exact fun _ brought brings => absurd brings (unmarked brought)
    · exact fun _ => ⟨types, (checkAlone_congr tells isRecord).mpr alone, fun _ _ _ _ => rfl⟩

end TopicTables.Avro

namespace TopicTables.Catalog
open Avro

/-- The columns of a definition given as a text. -/
theorem columnsOf_of_read {depth : Nat} {subject text : String} {value : Json}
    (read : Json.read depth text = .ok value) :
    columnsOf depth { subject, encoding := .avro, definition := .str text } = Avro.columnsOf value := by
  simp only [columnsOf, registeredColumns, readDefinition, read, Results.mapError_ok]
  rfl

/-- A definition that has columns keeps them without one of its marks, or without both, just where
it brings no types along with its mark, or the rest of it passes the check and comes to the same
columns by the types that it declares as by those that it brings. -/
theorem columnsOf_without_marks_iff {depth : Nat} {subject text bareText : String}
    {members : List (String × Json)} {keys : List String}
    (unread : ∀ word ∈ recordWords, word ∉ keys)
    (drops : checkedMark ∈ keys ∨ broughtTypes ∈ keys)
    (read : Json.read depth text = .ok (.obj members))
    (reread : Json.read depth bareText = .ok (.obj (without keys members))) {columns : Columns}
    (translated :
      columnsOf depth { subject, encoding := .avro, definition := .str text } = .ok columns) :
    columnsOf depth { subject, encoding := .avro, definition := .str bareText } = .ok columns ↔
      ∀ brought, Brings members brought →
        ∃ own, checkAlone (.obj (without keys members)) [] = .ok own ∧
          ColumnsAgree members own (addTypes [] brought) := by
  rw [columnsOf_of_read read] at translated
  rw [columnsOf_of_read reread]
  exact columnsOf_without_iff unread drops translated

/-- A definition that brings an empty list of types keeps its column without its marks. -/
theorem columnsOf_kept_without_marks :
    let keys := [checkedMark, broughtTypes]
    let text := "\x7b\"type\":\"record\",\"name\":\"R\",\"fields\":[" ++
      "\x7b\"name\":\"a\",\"type\":\"int\"\x7d]," ++
      "\"__fastavro_parsed\":true,\"__named_schemas\":\x7b\x7d\x7d"
    let bareText := "\x7b\"type\":\"record\",\"name\":\"R\",\"fields\":[" ++
      "\x7b\"name\":\"a\",\"type\":\"int\"\x7d]\x7d"
    let bare : List (String × Json) := [("type", .str "record"), ("name", .str "R"),
      ("fields", .arr [.obj [("name", .str "a"), ("type", .str "int")]])]
    let members := bare ++ [(checkedMark, .bool true), (broughtTypes, .obj [])]
    let columns : Columns := [⟨.str "a", ⟨"INT", false⟩⟩]
    let depth := Json.usualDepth
    let translated (text : String) :=
      columnsOf depth { subject := "t", encoding := .avro, definition := .str text }
    (Json.read depth text = .ok (.obj members) ∧
      Json.read depth bareText = .ok (.obj (without keys members)) ∧
      translated text = .ok columns) ∧
      translated bareText = .ok columns := by
  intro keys text bareText bare members columns depth translated
  have read : Json.read depth text = .ok (.obj members) := by decide +kernel
  have reread : Json.read depth bareText = .ok (.obj (without keys members)) := by decide +kernel
  have translated : translated text = .ok columns :=
    (columnsOf_of_read read).trans (by decide +kernel)
  refine ⟨⟨read, reread, translated⟩, ?_⟩
  refine (columnsOf_without_marks_iff (by decide) (by decide) read reread translated).mpr ?_
  rintro brought ⟨-, -, brings⟩
  cases brings
  refine ⟨[("R", .obj [("type", .str "record")])], by decide +kernel, ?_⟩
  rintro fields ⟨⟩ field member
  rw [List.mem_singleton] at member
  subst member
  decide +kernel

/-- A definition that brings a type of the name of a primitive one: without its marks, or without
only the types that it brings, it has another column. -/
theorem columnsOf_changes_without_marks :
    let text := "\x7b\"type\":\"record\",\"name\":\"R\",\"fields\":[" ++
      "\x7b\"name\":\"a\",\"type\":\"int\"\x7d]," ++
      "\"__fastavro_parsed\":true," ++
      "\"__named_schemas\":\x7b\"int\":\x7b\"type\":\"string\"\x7d\x7d\x7d"
    let marked := "\x7b\"type\":\"record\",\"name\":\"R\",\"fields\":[" ++
      "\x7b\"name\":\"a\",\"type\":\"int\"\x7d],\"__fastavro_parsed\":true\x7d"
    let bareText := "\x7b\"type\":\"record\",\"name\":\"R\",\"fields\":[" ++
      "\x7b\"name\":\"a\",\"type\":\"int\"\x7d]\x7d"
    let translated (text : String) :=
      columnsOf Json.usualDepth { subject := "t", encoding := .avro, definition := .str text }
    translated text = .ok [⟨.str "a", ⟨"STRING", false⟩⟩] ∧
      translated marked = .ok [⟨.str "a", ⟨"INT", false⟩⟩] ∧
      translated bareText = .ok [⟨.str "a", ⟨"INT", false⟩⟩] := by
  intro text marked bareText translated
  exact ⟨by decide +kernel, by decide +kernel, by decide +kernel⟩

end TopicTables.Catalog
