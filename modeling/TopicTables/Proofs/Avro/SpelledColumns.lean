import TopicTables.Proofs.Avro.Marks
import TopicTables.Proofs.Avro.Resolution
import TopicTables.Proofs.Avro.Spelling

/-! # Columns by either spelling

A declaration comes down to the same by either spelling of its primitive types, but for null in a
union: there it is known by its name alone. A respelled definition has the columns of the first one,
or has none.
-/

namespace TopicTables.Avro
open Results

/-- No null in a union of the field is respelled: the type of the field is null itself, or is the
same but for types that are not null. -/
def NullKept (field field' : Json) : Prop :=
  ∀ type type', field.member? "type" = some type → field'.member? "type" = some type' →
    type = .str "null" ∨ Respelled (· ≠ .null) type type'

variable {types types' : NamedTypes} {space : Json} {p : Primitive}

/-! ## What a declaration comes down to -/

theorem declared_object : declared types space p.object = declared types space (.str p.name) := by
  rw [Primitive.object, declared, declaredMember_eq]
  rfl

theorem isNullWord_of_respelled {branch branch' : Json}
    (respelled : Respelled (· ≠ .null) branch branch') : isNullWord branch' = isNullWord branch := by
  cases respelled with
  | kept => rfl
  | @spelled p other =>
    have named : Json.str p.name ≠ .str "null" := fun same =>
      other (@Primitive.eq_of_name_eq p .null (Json.str.inj same))
    simp [isNullWord, Primitive.object, named]
  | union => simp [isNullWord]

theorem declared_of_respelled {declaration declaration' : Json}
    (respelled : Respelled (· ≠ .null) declaration declaration') :
    declared types space declaration' = declared types space declaration := by
  induction respelled using Respelled.nested with
  | kept => rfl
  | spelled p _ => exact declared_object
  | union branches branches' _ each =>
    match each with
    | .cons ⟨first, same⟩ (.cons ⟨second, same'⟩ .nil) =>
      rw [declared, declared, isNullWord_of_respelled first, isNullWord_of_respelled second, same,
        same']
    | .nil | .cons _ .nil => rfl
    | .cons _ (.cons _ (.cons _ _)) => rfl

theorem declared_of_pair {other : Json} {items : List Json} {d : Declared}
    (differs : other ≠ .str "null")
    (pair : items = [.str "null", other] ∨ items = [other, .str "null"])
    (comes : declared types space (.arr items) = .ok d) :
    ∃ inner, declared types space other = .ok inner ∧ inner.kind = d.kind := by
  rcases pair with rfl | rfl
  · rw [declared, if_pos (by simp [isNullWord, differs])] at comes
    obtain ⟨inner, told, rfl⟩ := map_eq_ok_iff.mp comes
    exact ⟨inner, told, rfl⟩
  · rw [declared, if_neg (by simp [isNullWord]), if_pos (by simp [isNullWord, differs])] at comes
    obtain ⟨inner, told, rfl⟩ := map_eq_ok_iff.mp comes
    exact ⟨inner, told, rfl⟩

def HasType (types : NamedTypes) (space declaration : Json) : Prop :=
  ∃ dataType, fieldType types space declaration = .ok dataType

theorem HasType.pair {items : List Json} (typed : HasType types space (.arr items)) :
    ∃ other, other ≠ .str "null" ∧ HasType types space other ∧
      (items = [.str "null", other] ∨ items = [other, .str "null"]) := by
  obtain ⟨_, typed⟩ := typed
  obtain ⟨d, type, comes, known, -⟩ := fieldType_eq_ok_iff.mp typed
  have nullable : d.nullable = true := by
    refine (nullable_or_union comes).resolve_right fun union => ?_
    rw [union] at known
    cases known
  obtain ⟨other, differs, pair⟩ := (nullable_of_union comes).mp nullable
  simp only [Json.arr.injEq] at pair
  obtain ⟨inner, comes, same⟩ := declared_of_pair differs pair comes
  rw [← same] at known
  exact ⟨other, differs, ⟨_, fieldType_eq_ok_iff.mpr ⟨inner, type, comes, known, rfl⟩⟩, pair⟩

theorem eq_of_respelled_str {May : Primitive → Prop} {declaration : Json} {word : String}
    (respelled : Respelled May declaration (.str word)) : declaration = .str word := by
  cases respelled
  rfl

/-- When a declaration has a column type by either spelling, no null in its unions is respelled. -/
theorem respelled_of_hasType {May : Primitive → Prop} {declaration declaration' : Json}
    (respelled : Respelled May declaration declaration')
    (typed : HasType types space declaration) (typed' : HasType types space declaration') :
    declaration = .str "null" ∨ Respelled (· ≠ .null) declaration declaration' := by
  induction respelled using Respelled.nested with
  | kept declaration => exact .inr (.kept declaration)
  | spelled p _ =>
    by_cases void : p = .null
    · exact .inl (void ▸ rfl)
    · exact .inr (.spelled void)
  | union branches branches' _ each =>
    obtain ⟨other, differs, inner, pair⟩ := typed.pair
    obtain ⟨other', differs', inner', pair'⟩ := typed'.pair
    rcases pair with rfl | rfl <;> rcases pair' with rfl | rfl
    · obtain _ | ⟨-, _ | ⟨⟨_, ih⟩, _⟩⟩ := each
      have respelled := (ih inner inner').resolve_left differs
      exact .inr (.union (.cons (.kept _) (.cons respelled .nil)))
    · obtain _ | ⟨-, _ | ⟨⟨second, -⟩, _⟩⟩ := each
      exact absurd (eq_of_respelled_str second) differs
    · obtain _ | ⟨⟨first, -⟩, -⟩ := each
      exact absurd (eq_of_respelled_str first) differs
    · obtain _ | ⟨⟨_, ih⟩, _ | ⟨-, _⟩⟩ := each
      have respelled := (ih inner inner').resolve_left differs
      exact .inr (.union (.cons respelled (.cons (.kept _) .nil)))

/-! ## Columns by either spelling -/

theorem NullKept.refl (field : Json) : NullKept field field := by
  intro type type' given given'
  cases given.symm.trans given'
  exact .inr (.kept type)

theorem fieldType_of_nullKept {May : Primitive → Prop} {declaration declaration' : Json}
    (respelled : Respelled May declaration declaration')
    (kept : declaration = .str "null" ∨ Respelled (· ≠ .null) declaration declaration') :
    fieldType types space declaration' = fieldType types space declaration := by
  have same : declared types space declaration' = declared types space declaration := by
    rcases kept with rfl | kept
    · generalize word : Json.str "null" = declaration at respelled
      cases respelled with
      | kept => rfl
      | spelled _ => exact declared_object
      | union => cases word
    · exact declared_of_respelled kept
  rw [fieldType, fieldType, same]

theorem fieldColumn_respelled_iff {field field' : Json} (respelled : RespelledField field field')
    {column column' : Column} (made : fieldColumn types space field = .ok column) :
    fieldColumn types space field' = .ok column' ↔ column' = column ∧ NullKept field field' := by
  cases respelled with
  | kept =>
    rw [made]
    simp [NullKept.refl, eq_comm]
  | @typed members type type' typed respelled =>
    have named : (Json.setMember "type" type' members).lookup "name" = members.lookup "name" :=
      Json.lookup_setMember_of_ne (by decide) _ _
    have keeps : NullKept (.obj members) (.obj (Json.setMember "type" type' members)) ↔
        type = .str "null" ∨ Respelled (· ≠ .null) type type' := by
      simp [NullKept, Json.member?, typed, Json.lookup_setMember_self]
    obtain ⟨dataType, name, type, given, rfl⟩ := fieldColumn_eq_ok_iff.mp made
    rw [fieldColumn_eq_ok_iff, keeps, named, given, Json.lookup_setMember_self]
    rw [typed] at type
    constructor
    · rintro ⟨dataType', _, type', ⟨⟩, rfl⟩
      have kept := respelled_of_hasType respelled ⟨_, type⟩ ⟨_, type'⟩
      rw [Option.getD_some, fieldType_of_nullKept respelled kept] at type'
      cases type.symm.trans type'
      exact ⟨rfl, kept⟩
    · rintro ⟨rfl, kept⟩
      exact ⟨dataType, name, (fieldType_of_nullKept respelled kept).trans type, rfl, rfl⟩

theorem map_fieldColumn_respelled_iff {fields fields' : List Json}
    (respelled : List.Forall₂ RespelledField fields fields') {columns columns' : Columns}
    (made : fields.map (fieldColumn types space) = columns.map .ok) :
    fields'.map (fieldColumn types space) = columns'.map .ok ↔
      columns' = columns ∧ List.Forall₂ NullKept fields fields' := by
  induction respelled generalizing columns columns' with
  | nil =>
    have none : columns = [] := by simpa [eq_comm] using made
    simp [none, eq_comm]
  | cons head _ ih =>
    obtain ⟨column, others, rfl, first, later⟩ := List.map_eq_cons_iff.mp made.symm
    rw [List.forall₂_cons]
    cases columns' with
    | nil => simp
    | cons column' others' =>
      simp only [List.map_cons, List.cons.injEq, fieldColumn_respelled_iff head first.symm,
        ih later.symm]
      exact and_and_and_comm

theorem walk_respelled_iff {fields fields' : List Json}
    (respelled : List.Forall₂ RespelledField fields fields') {columns columns' : Columns}
    (walked : fields.foldlM (addField types space) [] = .ok columns) :
    fields'.foldlM (addField types space) [] = .ok columns' ↔
      columns' = columns ∧ List.Forall₂ NullKept fields fields' := by
  obtain ⟨added, rfl, made⟩ := map_fieldColumn_of_walk walked
  rw [← map_fieldColumn_respelled_iff respelled made]
  constructor
  · intro again
    obtain ⟨added', rfl, made'⟩ := map_fieldColumn_of_walk again
    exact made'
  · intro made'
    obtain ⟨rfl, -⟩ := (map_fieldColumn_respelled_iff respelled made).mp made'
    rw [walk_congr (made'.trans made.symm)]
    exact walked

/-! ## Records by either spelling -/

section
variable {record : List (String × Json)} {fields fields' : List Json}

theorem tellsSameHead_setMember (value : Json) :
    TellsSameHead (Json.setMember "fields" value record) record :=
  fun _ _ other => Json.lookup_setMember_of_ne other _ _

theorem checkAlone_respelled_iff (isRecord : record.lookup "type" = some (.str "record"))
    (listed : record.lookup "fields" = some (.arr fields))
    (respelled : List.Forall₂ RespelledField fields fields')
    (passed : checkAlone (.obj record) types = .ok types') {last : NamedTypes} :
    checkAlone (.obj (Json.setMember "fields" (.arr fields') record)) types = .ok last ↔
      last = types' ∧ List.Forall₂ DefaultKept fields fields' := by
  have tells := @tellsSameHead_setMember record (.arr fields')
  have alsoRecord : (Json.setMember "fields" (.arr fields') record).lookup "type" =
      some (.str "record") := (tells "type" (by decide) (by decide)).trans isRecord
  obtain ⟨decimal, d, scope, comes, walked, rfl⟩ := (checkAlone_eq_ok_iff isRecord).mp passed
  rw [checkFieldsMember_eq, listed] at walked
  rw [checkAlone_eq_ok_iff alsoRecord, checkDecimal_congr tells]
  simp only [declaration_congr tells.name tells.outer _, checkFieldsMember_eq,
    Json.lookup_setMember_self]
  constructor
  · rintro ⟨-, d', last, comes', walked', rfl⟩
    cases comes.symm.trans comes'
    obtain ⟨rfl, kept⟩ := (checkFields_respelled_iff respelled walked).mp walked'
    exact ⟨rfl, kept⟩
  · rintro ⟨rfl, kept⟩
    exact ⟨decimal, d, scope, comes, (checkFields_respelled_iff respelled walked).mpr ⟨rfl, kept⟩,
      rfl⟩

theorem checkTopObject_respelled_iff (isRecord : record.lookup "type" = some (.str "record"))
    (listed : record.lookup "fields" = some (.arr fields))
    (respelled : List.Forall₂ RespelledField fields fields')
    (passed : checkTopObject record types = .ok types') {last : NamedTypes} :
    checkTopObject (Json.setMember "fields" (.arr fields') record) types = .ok last ↔
      last = types' ∧
        ((∃ brought, Brings record brought) ∨ List.Forall₂ DefaultKept fields fields') := by
  have mark : (Json.setMember "fields" (.arr fields') record).lookup checkedMark =
      record.lookup checkedMark := Json.lookup_setMember_of_ne (by decide) _ _
  have brings : (Json.setMember "fields" (.arr fields') record).lookup broughtTypes =
      record.lookup broughtTypes := Json.lookup_setMember_of_ne (by decide) _ _
  have same : checkTopObject (Json.setMember "fields" (.arr fields') record) types = .ok last ↔
      (∃ brought, Brings record brought ∧ last = addTypes types brought) ∨
        Unmarked record ∧
          checkAlone (.obj (Json.setMember "fields" (.arr fields') record)) types = .ok last := by
    rw [checkTopObject_eq_ok_iff]
    simp only [Brings, Unmarked, mark, brings]
  rw [same]
  rcases checkTopObject_eq_ok_iff.mp passed with ⟨brought, brings, rfl⟩ | ⟨unmarked, alone⟩
  · constructor
    · rintro (⟨other, also, rfl⟩ | ⟨unmarked, -⟩)
      · exact ⟨brings.unique also ▸ rfl, .inl ⟨brought, brings⟩⟩
      · exact absurd brings (unmarked.not_brings brought)
    · rintro ⟨rfl, -⟩
      exact .inl ⟨brought, brings, rfl⟩
  · rw [checkAlone_respelled_iff isRecord listed respelled alone]
    simp [unmarked, unmarked.not_brings]

theorem columns_of_listed (listed : record.lookup "fields" = some (.arr fields)) :
    CheckedRecord.columns ⟨record, types⟩ =
      fields.foldlM (addField types (recordSpace record)) [] := by
  rw [CheckedRecord.columns, listed]
  rfl

theorem columnsOf_respelled_iff (listed : record.lookup "fields" = some (.arr fields))
    (respelled : List.Forall₂ RespelledField fields fields') {columns columns' : Columns}
    (translated : columnsOf (.obj record) = .ok columns) :
    columnsOf (.obj (Json.setMember "fields" (.arr fields') record)) = .ok columns' ↔
      columns' = columns ∧ List.Forall₂ NullKept fields fields' ∧
        ((∃ brought, Brings record brought) ∨ List.Forall₂ DefaultKept fields fields') := by
  have tells := @tellsSameHead_setMember record (.arr fields')
  obtain ⟨isRecord, types, passed, walked⟩ := columnsOf_eq_ok_iff.mp translated
  rw [columns_of_listed listed] at walked
  rw [columnsOf_eq_ok_iff, tells "type" (by decide) (by decide)]
  simp only [checkTopObject_respelled_iff isRecord listed respelled passed,
    columns_of_listed (Json.lookup_setMember_self "fields" _ record),
    recordSpace_congr tells.name tells.outer]
  constructor
  · rintro ⟨-, _, ⟨rfl, passed'⟩, walked'⟩
    obtain ⟨rfl, kept⟩ := (walk_respelled_iff respelled walked).mp walked'
    exact ⟨rfl, kept, passed'⟩
  · rintro ⟨rfl, kept, passed'⟩
    exact ⟨isRecord, types, ⟨rfl, passed'⟩, (walk_respelled_iff respelled walked).mpr ⟨rfl, kept⟩⟩

end

end TopicTables.Avro

namespace TopicTables.Catalog
open Avro

/-- A definition that has columns keeps them with primitive types respelled, in any of its fields
and in the branches of their unions, just where no null in a union is respelled and, unless it
brings its types along, every respelled floating point type has a float as its default, if any. Else
it has none. -/
theorem columnsOf_respelled_definition_iff {depth : Nat} {subject text text' : String}
    {record : List (String × Json)} {fields fields' : List Json}
    (listed : record.lookup "fields" = some (.arr fields))
    (respelled : List.Forall₂ RespelledField fields fields')
    (read : Json.read depth text = .ok (.obj record))
    (reread : Json.read depth text' = .ok (.obj (Json.setMember "fields" (.arr fields') record)))
    {columns columns' : Columns}
    (translated :
      columnsOf depth { subject, encoding := .avro, definition := .str text } = .ok columns) :
    columnsOf depth { subject, encoding := .avro, definition := .str text' } = .ok columns' ↔
      columns' = columns ∧ List.Forall₂ NullKept fields fields' ∧
        ((∃ brought, Brings record brought) ∨ List.Forall₂ DefaultKept fields fields') := by
  rw [columnsOf_of_read read] at translated
  rw [columnsOf_of_read reread]
  exact columnsOf_respelled_iff listed respelled translated

/-- An order has the same columns with the type of its number and of its amount, beside null,
respelled. -/
theorem columnsOf_respelled_order :
    let order (id amount : String) := "\x7b\"type\":\"record\",\"name\":\"Order\",\"fields\":[" ++
      "\x7b\"name\":\"id\",\"type\":" ++ id ++ "\x7d," ++
      "\x7b\"name\":\"amount\",\"type\":[\"null\"," ++ amount ++ "]\x7d]\x7d"
    let text := order "\"long\"" "\"double\""
    let text' := order "\x7b\"type\":\"long\"\x7d" "\x7b\"type\":\"double\"\x7d"
    let columns : Columns := [⟨.str "id", ⟨"BIGINT", false⟩⟩, ⟨.str "amount", ⟨"DOUBLE", true⟩⟩]
    let depth := Json.usualDepth
    let translated (text : String) :=
      columnsOf depth { subject := "orders", encoding := .avro, definition := .str text }
    translated text = .ok columns ∧ translated text' = .ok columns := by
  intro order text text' columns depth translated
  let field (name : String) (type : Json) := Json.obj [("name", .str name), ("type", type)]
  let fields := [field "id" (.str "long"), field "amount" (.arr [.str "null", .str "double"])]
  let fields' := [field "id" Primitive.long.object,
    field "amount" (.arr [.str "null", Primitive.double.object])]
  let record := [("type", Json.str "record"), ("name", .str "Order"), ("fields", .arr fields)]
  have read : Json.read depth text = .ok (.obj record) := by decide +kernel
  have reread : Json.read depth text' = .ok (.obj (Json.setMember "fields" (.arr fields') record)) := by
    decide +kernel
  have translated : translated text = .ok columns :=
    (columnsOf_of_read read).trans (by decide +kernel)
  have beside {May : Primitive → Prop} (may : May .double) :
      Respelled May (.arr [.str "null", .str "double"])
        (.arr [.str "null", Primitive.double.object]) :=
    .union (.cons (.kept _) (.cons (@Respelled.spelled _ .double may) .nil))
  have respelled : List.Forall₂ RespelledField fields fields' :=
    .cons (.typed rfl (@Respelled.spelled _ .long trivial))
      (.cons (.typed rfl (beside trivial)) .nil)
  refine ⟨translated, ?_⟩
  refine (columnsOf_respelled_definition_iff rfl respelled read reread translated).mpr ⟨rfl, ?_, ?_⟩
  · refine .cons ?_ (.cons ?_ .nil)
    · rintro _ _ ⟨⟩ ⟨⟩
      exact .inr (@Respelled.spelled _ .long (by decide))
    · rintro _ _ ⟨⟩ ⟨⟩
      exact .inr (beside (by decide))
  · exact .inr (.cons (fun _ _ _ _ _ none => nomatch none)
      (.cons (fun _ _ _ _ _ none => nomatch none) .nil))

/-- With null respelled beside another branch a definition has no columns any more, and neither has
one with a respelled type beside an integer as its default. -/
theorem columnsOf_changes_respelled :
    let text (field : String) := "\x7b\"type\":\"record\",\"name\":\"R\",\"fields\":[" ++
      "\x7b\"name\":\"a\"," ++ field ++ "\x7d]\x7d"
    let record (field : List (String × Json)) := Json.obj [("type", .str "record"),
      ("name", .str "R"), ("fields", .arr [.obj (("name", .str "a") :: field)])]
    let depth := Json.usualDepth
    let translated (text : String) :=
      columnsOf depth { subject := "t", encoding := .avro, definition := .str text }
    (Respelled (fun _ => True) (.arr [.str "null", .str "int"])
        (.arr [Primitive.null.object, .str "int"]) ∧
      Json.read depth (text "\"type\":[\"null\",\"int\"]") =
        .ok (record [("type", .arr [.str "null", .str "int"])]) ∧
      Json.read depth (text "\"type\":[\x7b\"type\":\"null\"\x7d,\"int\"]") =
        .ok (record [("type", .arr [Primitive.null.object, .str "int"])]) ∧
      translated (text "\"type\":[\"null\",\"int\"]") = .ok [⟨.str "a", ⟨"INT", true⟩⟩] ∧
      translated (text "\"type\":[\x7b\"type\":\"null\"\x7d,\"int\"]") =
        .error (.unmapped "union")) ∧
    Respelled (fun _ => True) (.str "float") Primitive.float.object ∧
      translated (text "\"type\":\"float\",\"default\":1") = .ok [⟨.str "a", ⟨"FLOAT", false⟩⟩] ∧
      translated (text "\"type\":\x7b\"type\":\"float\"\x7d,\"default\":1") =
        .error (.invalid (.rejected (.unmatchedDefault (.int 1) "float"))) := by
  intro text record depth translated
  have null : Respelled (fun _ => True) (.arr [.str "null", .str "int"])
      (.arr [Primitive.null.object, .str "int"]) :=
    .union (.cons (@Respelled.spelled _ .null trivial) (.cons (.kept _) .nil))
  exact ⟨⟨null, by decide +kernel, by decide +kernel, by decide +kernel, by decide +kernel⟩,
    @Respelled.spelled _ .float trivial, by decide +kernel, by decide +kernel⟩

end TopicTables.Catalog
