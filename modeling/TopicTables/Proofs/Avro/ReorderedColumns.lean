import TopicTables.Proofs.Avro.MemberOrder
import TopicTables.Proofs.Avro.WellFormedColumns

/-! # Columns and the order of members

A definition has the columns of every definition that is the same up to the order of members, in the
order of its list of fields. Of the types that it brings along, only the kinds without a column type
may be told in other words.
-/

namespace TopicTables.Avro
open Results Json

variable {types types' : NamedTypes} {space value value' : Json}
  {members members' : List (String × Json)}

/-! ## Kinds -/

/-- The same types are known under each name, up to the order of members. -/
def TypesAgree (types types' : NamedTypes) : Prop :=
  ∀ name, Option.Rel Reordered (types.lookup name) (types'.lookup name)

/-- The kinds have the same column type, or none. -/
def SameType (kind kind' : String) : Prop :=
  columnType? kind = columnType? kind'

theorem columnType?_of_bracket {kind : String}
    (bracket : kind.toList.head? = some '[' ∨ kind.toList.head? = some '\x7b') :
    columnType? kind = none := by
  have letters : ∀ m ∈ columnTypes,
      m.1.toList.head? ≠ some '[' ∧ m.1.toList.head? ≠ some '\x7b' := by decide
  rw [columnType?, Option.map_eq_none_iff, List.lookup_eq_none_iff]
  intro m listed
  rw [bne_iff_ne]
  rintro rfl
  exact bracket.elim (letters m listed).1 (letters m listed).2

theorem sameType_text (reordered : Reordered value value') : SameType value.text value'.text := by
  have arr (items : List Json) : columnType? (Json.arr items).text = none :=
    columnType?_of_bracket (.inl (by simp [text, literal]))
  have obj (members : List (String × Json)) : columnType? (Json.obj members).text = none :=
    columnType?_of_bracket (.inr (by simp [text, literal]))
  cases reordered with
  | same => rfl
  | arr => exact (arr _).trans (arr _).symm
  | obj => exact (obj _).trans (obj _).symm

theorem namedType?_rel (agree : TypesAgree types types') (name : String) :
    Option.Rel Reordered (namedType? types space name) (namedType? types' space name) := by
  rw [namedType?, namedType?]
  obtain ⟨none, none'⟩ | ⟨type, type', found, found', reordered⟩ := rel_cases (agree name)
  · rw [none, none']
    dsimp only
    split
    · exact agree _
    · exact .none
  · rw [found, found']
    exact .some reordered

theorem namedKind?_rel (agree : TypesAgree types types') (name : String) :
    Option.Rel SameType (namedKind? types space name) (namedKind? types' space name) := by
  rw [namedKind?, namedKind?]
  obtain ⟨none, none'⟩ | ⟨type, type', found, found', reordered⟩ :=
    rel_cases (@namedType?_rel _ _ space agree name)
  · rw [none, none']
    exact .none
  rw [found, found']
  cases type with
  | obj members =>
    obtain ⟨members', rfl, rearranged⟩ := reordered.of_obj
    exact .some (sameType_text (rearranged.getD "type" .null))
  | arr items =>
    obtain ⟨items', rfl, -⟩ := reordered.of_arr
    exact .none
  | _ =>
    cases reordered
    exact .none

/-- Both come down to kinds of the same column type, with null or without it. -/
def Declared.Alike (d d' : Declared) : Prop :=
  SameType d.kind d'.kind ∧ d.nullable = d'.nullable

/-! ## Declarations -/

theorem isNullWord_eq (reordered : Reordered value value') : isNullWord value = isNullWord value' :=
  decide_eq_decide.mpr (reordered.eq_str_iff "null")

theorem rel_nullable {d d' : Except Json Declared} (alike : Results.Rel Declared.Alike d d') :
    Results.Rel Declared.Alike (d.map fun d => { d with nullable := true })
      (d'.map fun d => { d with nullable := true }) := by
  cases alike with
  | error => exact .error _ _
  | ok alike => exact .ok ⟨alike.1, rfl⟩

theorem declared_rel (agree : TypesAgree types types') (reordered : Reordered value value') :
    Results.Rel Declared.Alike (declared types space value) (declared types' space value') := by
  induction value using Json.nested generalizing value' with
  | arr items ih =>
    obtain ⟨items', rfl, each⟩ := reordered.of_arr
    match each with
    | .cons first (.cons second .nil) =>
      rw [declared, declared, isNullWord_eq first, isNullWord_eq second]
      split
      · exact rel_nullable (ih _ (by simp) second)
      · split
        · exact rel_nullable (ih _ (by simp) first)
        · exact .ok ⟨rfl, rfl⟩
    | .nil | .cons _ .nil | .cons _ (.cons _ (.cons _ _)) => exact .ok ⟨rfl, rfl⟩
  | obj members ih =>
    obtain ⟨members', rfl, rearranged⟩ := reordered.of_obj
    rw [declared, declared, declaredMember_eq, declaredMember_eq]
    obtain ⟨none, none'⟩ | ⟨type, type', found, found', same⟩ := rearranged.lookup_cases "type"
    · rw [none, none']
      exact .error _ _
    · rw [found, found']
      exact ih _ ((finds_lookup members).mem _ _ found) same
  | str name =>
    cases reordered
    rw [declared, declared]
    obtain ⟨none, none'⟩ | ⟨kind, kind', found, found', same⟩ :=
      rel_cases (@namedKind?_rel _ _ space agree name)
    · rw [none, none']
      exact .ok ⟨rfl, rfl⟩
    · rw [found, found']
      exact .ok ⟨same, rfl⟩
  | _ =>
    cases reordered
    exact .error _ _

theorem fieldType_agree (agree : TypesAgree types types') (reordered : Reordered value value') :
    Results.Agree (fieldType types space value) (fieldType types' space value') := by
  intro dataType
  rw [fieldType_eq_ok_iff, fieldType_eq_ok_iff]
  have rel := @declared_rel _ _ space _ _ agree reordered
  generalize declared types space value = comes at rel ⊢
  generalize declared types' space value' = comes' at rel ⊢
  cases rel with
  | error => simp
  | ok alike =>
    obtain ⟨same, nullable⟩ := alike
    rw [SameType] at same
    simp [same, nullable]

/-! ## Fields -/

def ColumnsSame (types types' : NamedTypes) (space field field' : Json) : Prop :=
  Results.Agree (fieldColumn types space field) (fieldColumn types' space field')

theorem columnsSame_of_reordered (agree : TypesAgree types types')
    (reordered : Reordered value value') (named : NamedByTexts value) :
    ColumnsSame types types' space value value' := by
  cases value with
  | obj members =>
    obtain ⟨members', rfl, rearranged⟩ := reordered.of_obj
    intro column
    have types := @fieldType_agree _ _ space _ _ agree (rearranged.getD "type" .null)
    simp only [fieldColumn_eq_ok_iff, types _, lookup_eq_of_named named rearranged (.inl rfl)]
  | arr items =>
    obtain ⟨items', rfl, -⟩ := reordered.of_arr
    exact .errors _ _
  | _ =>
    cases reordered
    exact .errors _ _

/-- Keys are no fields. -/
theorem columnsSame_of_keys {keys keys' : List (String × Json)} (length : keys.length = keys'.length) :
    List.Forall₂ (ColumnsSame types types' space) (keys.map fun m => .str m.1)
      (keys'.map fun m => .str m.1) := by
  induction keys generalizing keys' with
  | nil =>
    cases keys' with
    | nil => exact .nil
    | cons => cases length
  | cons key rest ih =>
    cases keys' with
    | nil => cases length
    | cons key' rest' => exact .cons (.errors _ _) (ih (Nat.succ.inj length))

theorem itemsOf?_rel (agree : TypesAgree types types') (reordered : Reordered value value')
    (named : NamedByTexts value) :
    Option.Rel (List.Forall₂ (ColumnsSame types types' space)) (itemsOf? value)
      (itemsOf? value') := by
  cases value with
  | obj members =>
    obtain ⟨members', rfl, rearranged⟩ := reordered.of_obj
    exact .some (columnsSame_of_keys (by simpa using rearranged.keys.length_eq))
  | arr items =>
    obtain ⟨items', rfl, each⟩ := reordered.of_arr
    exact .some (((List.forall₂_and_left _ _).mpr ⟨namedByTexts_arr_iff.mp named, each⟩).imp
      fun _ _ ⟨named, reordered⟩ => columnsSame_of_reordered agree reordered named)
  | str s =>
    cases reordered
    refine .some (List.forall₂_same.mpr fun item mem => ?_)
    obtain ⟨c, -, rfl⟩ := List.mem_map.mp mem
    exact .errors _ _
  | _ =>
    cases reordered
    exact .none

theorem walk_agree {items items' : List Json}
    (same : List.Forall₂ (ColumnsSame types types' space) items items') (start : Columns) :
    Results.Agree (items.foldlM (addField types space) start)
      (items'.foldlM (addField types' space) start) := by
  induction same generalizing start with
  | nil => exact .refl _
  | cons head _ ih =>
    rw [List.foldlM_cons, List.foldlM_cons]
    exact (head.bind fun _ => .refl _).bind fun reached => ih reached

theorem NamedByTexts.fields (named : NamedByTexts (.obj members)) :
    NamedByTexts ((members.lookup "fields").getD (.arr [])) := by
  cases found : members.lookup "fields" with
  | some value => exact named.member found
  | none => simp

theorem columns_agree (agree : TypesAgree types types') (named : NamedByTexts (.obj members))
    (rearranged : Rearranged members members') :
    Results.Agree (CheckedRecord.columns ⟨members, types⟩)
      (CheckedRecord.columns ⟨members', types'⟩) := by
  have space : recordSpace members = recordSpace members' :=
    recordSpace_congr (lookup_eq_of_named named rearranged (.inl rfl))
      (lookup_eq_of_named named rearranged (.inr rfl))
  have fields := rearranged.getD "fields" (.arr [])
  rw [CheckedRecord.columns, CheckedRecord.columns, space]
  dsimp only
  obtain ⟨none, none'⟩ | ⟨items, items', found, found', same⟩ :=
    rel_cases (itemsOf?_rel agree fields named.fields)
  · rw [none, none']
    exact .errors _ _
  · rw [found, found']
    exact walk_agree same []

/-! ## Types that are brought along -/

theorem isSome_lookup_addTypes (types brought : NamedTypes) (name : String) :
    ((addTypes types brought).lookup name).isSome = true ↔
      name ∈ brought.map Prod.fst ∨ (types.lookup name).isSome = true := by
  induction brought generalizing types with
  | nil => simp [addTypes]
  | cons member rest ih =>
    rw [addTypes, List.foldl_cons, ← addTypes, ih, List.map_cons, List.mem_cons]
    by_cases same : name = member.1
    · simp [same, lookup_setMember_self]
    · simp [same, lookup_setMember_of_ne same]

theorem mem_of_lookup_addTypes {types brought : NamedTypes} {name : String} {type : Json}
    (found : (addTypes types brought).lookup name = some type) :
    (name, type) ∈ brought ∨ types.lookup name = some type := by
  induction brought generalizing types with
  | nil => exact .inr found
  | cons member rest ih =>
    rcases ih found with mem | known
    · exact .inl (List.mem_cons_of_mem _ mem)
    by_cases same : name = member.1
    · subst same
      rw [lookup_setMember_self] at known
      cases known
      exact .inl List.mem_cons_self
    · rw [lookup_setMember_of_ne same] at known
      exact .inr known

theorem finds_addTypes (brought : NamedTypes) :
    Finds (fun name => (addTypes [] brought).lookup name) brought where
  isSome_iff name := by
    rw [isSome_lookup_addTypes]
    simp
  mem name type found := (mem_of_lookup_addTypes found).resolve_right (by simp)

theorem typesAgree_addTypes {brought brought' : NamedTypes}
    (reordered : Reordered (.obj brought) (.obj brought')) :
    TypesAgree (addTypes [] brought) (addTypes [] brought') := by
  cases reordered with
  | same => exact fun _ => Reordered.rel_refl _
  | obj keys values => exact (finds_addTypes _).rel (finds_addTypes _) keys values

theorem checkTopObject_rel (named : NamedByTexts (.obj members))
    (rearranged : Rearranged members members') (reordered : Reordered (.obj members) (.obj members')) :
    Results.Rel TypesAgree (checkTopObject members []) (checkTopObject members' []) := by
  have alone : Results.Rel TypesAgree (checkAlone (.obj members) [])
      (checkAlone (.obj members') []) :=
    (checkAlone_agree reordered named).rel fun _ _ => Reordered.rel_refl _
  rw [checkTopObject, checkTopObject]
  obtain ⟨none, none'⟩ | ⟨_, _, marked, marked', -⟩ := rearranged.lookup_cases checkedMark
  · rw [none, none']
    exact alone
  rw [marked, marked']
  obtain ⟨none, none'⟩ | ⟨value, value', brings, brings', same⟩ :=
    rearranged.lookup_cases broughtTypes
  · rw [none, none']
    exact alone
  rw [brings, brings']
  cases value with
  | obj brought =>
    obtain ⟨brought', rfl, -⟩ := same.of_obj
    exact .ok (typesAgree_addTypes same)
  | arr items =>
    obtain ⟨items', rfl, -⟩ := same.of_arr
    exact .error _ _
  | _ =>
    cases same
    exact .error _ _

theorem columnsOf_agree (reordered : Reordered value value') (named : NamedByTexts value) :
    Results.Agree (columnsOf value) (columnsOf value') := by
  intro columns
  cases value with
  | obj members =>
    obtain ⟨members', rfl, rearranged⟩ := reordered.of_obj
    have rel := checkTopObject_rel named rearranged reordered
    rw [columnsOf_eq_ok_iff, columnsOf_eq_ok_iff, rearranged.lookup_str_iff]
    generalize checkTopObject members [] = passed at rel ⊢
    generalize checkTopObject members' [] = passed' at rel ⊢
    cases rel with
    | error => simp
    | ok agree => simp [columns_agree agree named rearranged columns]
  | arr items =>
    obtain ⟨items', rfl, -⟩ := reordered.of_arr
    constructor <;> intro made <;> obtain ⟨_, ⟨⟩⟩ := obj_of_columnsOf made
  | _ =>
    cases reordered
    rfl

theorem names_of_columnsOf {columns : Columns} (made : columnsOf value = .ok columns) :
    ∃ record fields, value = .obj record ∧ offeredFields? record = some fields ∧
      columns.map Column.name = fields.map NamedField.name := by
  obtain ⟨record, rfl⟩ := obj_of_columnsOf made
  obtain ⟨-, types, -, walked⟩ := columnsOf_eq_ok_iff.mp made
  obtain ⟨fields, offered, standing, -⟩ := columns_eq_ok_iff_stands.mp walked
  exact ⟨record, fields, rfl, offered, names_of_standing standing⟩

end TopicTables.Avro

namespace TopicTables.Catalog
open Avro Json

/-- A definition has the same columns as one that is the same up to the order of members, or neither
has any. Its columns are named by its fields, in the order of their list. -/
theorem columnsOf_reordered {depth : Nat} {subject text text' : String} {encoding : Encoding}
    {value value' : Json} (read : Json.read depth text = .ok value)
    (reread : Json.read depth text' = .ok value')
    (reordered : Reordered value value') (named : NamedByTexts value) :
    (∀ columns, columnsOf depth { subject, encoding, definition := .str text } = .ok columns ↔
      columnsOf depth { subject, encoding, definition := .str text' } = .ok columns) ∧
    ∀ columns, columnsOf depth { subject, encoding, definition := .str text } = .ok columns →
      ∃ record fields, value = .obj record ∧ offeredFields? record = some fields ∧
        columns.map Column.name = fields.map NamedField.name := by
  cases encoding with
  | avro =>
    rw [columnsOf_of_read read, columnsOf_of_read reread]
    exact ⟨columnsOf_agree reordered named, fun _ => names_of_columnsOf⟩
  | json | protobuf => exact ⟨fun _ => .rfl, fun _ made => nomatch made⟩

/-- An order has the same columns with its members, and those of its fields, the other way round. -/
theorem columnsOf_reordered_order :
    let text := "\x7b\"type\":\"record\",\"name\":\"Order\",\"fields\":[" ++
      "\x7b\"name\":\"id\",\"type\":\"long\"\x7d," ++
      "\x7b\"name\":\"note\",\"type\":[\"null\",\"string\"]\x7d]\x7d"
    let text' := "\x7b\"fields\":[\x7b\"type\":\"long\",\"name\":\"id\"\x7d," ++
      "\x7b\"type\":[\"null\",\"string\"],\"name\":\"note\"\x7d]," ++
      "\"name\":\"Order\",\"type\":\"record\"\x7d"
    let columns : Columns := [⟨.str "id", ⟨"BIGINT", false⟩⟩, ⟨.str "note", ⟨"STRING", true⟩⟩]
    let depth := Json.usualDepth
    let translated (text : String) :=
      columnsOf depth { subject := "orders", encoding := .avro, definition := .str text }
    translated text = .ok columns ∧ translated text' = .ok columns := by
  intro text text' columns depth translated
  let id := [("name", Json.str "id"), ("type", .str "long")]
  let note := [("name", Json.str "note"), ("type", .arr [.str "null", .str "string"])]
  let order := [("type", Json.str "record"), ("name", .str "Order"),
    ("fields", .arr [.obj id, .obj note])]
  let order' := [("fields", Json.arr [.obj id.reverse, .obj note.reverse]),
    ("name", .str "Order"), ("type", .str "record")]
  have read : Json.read depth text = .ok (.obj order) := by decide +kernel
  have reread : Json.read depth text' = .ok (.obj order') := by decide +kernel
  have fields : Reordered (.arr [.obj id, .obj note]) (.arr [.obj id.reverse, .obj note.reverse]) :=
    .arr (.cons (.of_perm (List.reverse_perm id).symm (by decide))
      (.cons (.of_perm (List.reverse_perm note).symm (by decide)) .nil))
  have reordered : Reordered (.obj order) (.obj order') := by
    refine .obj (by decide) fun key value value' mem mem' => ?_
    simp only [order, order', List.mem_cons, Prod.mk.injEq, List.not_mem_nil, or_false] at mem mem'
    rcases mem with ⟨rfl, rfl⟩ | ⟨rfl, rfl⟩ | ⟨rfl, rfl⟩ <;> simp at mem' <;> subst mem'
    · exact .same _
    · exact .same _
    · exact fields
  have named : NamedByTexts (.obj order) := by simp [order, id, note, List.lookup_cons]
  have translated : translated text = .ok columns :=
    (columnsOf_of_read read).trans (by decide +kernel)
  exact ⟨translated, ((columnsOf_reordered read reread reordered named).1 columns).mp translated⟩

end TopicTables.Catalog
