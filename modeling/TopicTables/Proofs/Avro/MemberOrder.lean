import TopicTables.Proofs.Avro.Marks
import TopicTables.Proofs.Json.Nesting
import TopicTables.Proofs.Json.Reordering

/-! # Checks and the order of members

A check reads the members of objects by their keys. So it comes to the same for schemas that are the
same up to the order of members, unless a name is an object: what is put behind a namespace then
shows the members in their order.
-/

namespace TopicTables.Avro
open Results Json

/-- Wherever an object gives a name or a namespace, at any depth, it gives a text. -/
def NamedByTexts (value : Json) : Prop :=
  ∀ members, Within value members → ∀ key, key = "name" ∨ key = "namespace" →
    ∀ name, members.lookup key = some name → ∃ s, name = .str s

variable {space value value' : Json} {members members' : List (String × Json)}
  {fallback fallback' : Option Json}

@[simp] theorem namedByTexts_str (s : String) : NamedByTexts (.str s) := by
  rintro members ⟨⟩

@[simp] theorem namedByTexts_arr_iff {items : List Json} :
    NamedByTexts (.arr items) ↔ ∀ item ∈ items, NamedByTexts item := by
  constructor
  · exact fun named item mem members within => named members (.item mem within)
  · rintro named members ⟨⟩
    rename_i item mem within
    exact named item mem members within

@[simp] theorem namedByTexts_obj_iff :
    NamedByTexts (.obj members) ↔
      (∀ key, key = "name" ∨ key = "namespace" → ∀ name, members.lookup key = some name →
        ∃ s, name = .str s) ∧ ∀ member ∈ members, NamedByTexts member.2 := by
  constructor
  · exact fun named => ⟨named members .self,
      fun member mem inner within => named inner (.member mem within)⟩
  · rintro ⟨texts, named⟩ inner ⟨⟩
    · exact texts
    · rename_i key value mem within
      exact named _ mem inner within

theorem NamedByTexts.member (named : NamedByTexts (.obj members)) {key : String}
    (found : members.lookup key = some value) : NamedByTexts value :=
  (namedByTexts_obj_iff.mp named).2 _ ((finds_lookup members).mem key value found)

/-! ## Checks that come to the same -/

/-- The checks come to the same from every scope, where one of them succeeds. -/
def Check.Agree {α : Type} (check check' : Check α) : Prop :=
  ∀ scope, Results.Agree (check scope) (check' scope)

namespace Check.Agree
variable {α β : Type}

theorem refl (check : Check α) : Check.Agree check check :=
  fun _ => .refl _

theorem bind {check check' : Check α} {next next' : α → Check β} (first : Check.Agree check check')
    (later : ∀ value, Check.Agree (next value) (next' value)) :
    Check.Agree (check >>= next) (check' >>= next') :=
  fun scope => (first scope).bind fun (value, between) => later value between

theorem lift {part part' : Except Fault α} (agree : Results.Agree part part') :
    Check.Agree (liftM part) (liftM part') :=
  fun _ => agree.bind fun _ => .refl _

theorem throw (fault fault' : Fault) :
    Check.Agree (MonadExcept.throw fault : Check α) (MonadExcept.throw fault') :=
  fun _ => .errors fault fault'

end Check.Agree

/-! ## Members under their keys -/

theorem lookup_eq_of_named (named : NamedByTexts (.obj members))
    (rearranged : Rearranged members members') {key : String}
    (naming : key = "name" ∨ key = "namespace") : members.lookup key = members'.lookup key := by
  obtain ⟨none, none'⟩ | ⟨name, name', found, found', reordered⟩ := rearranged.lookup_cases key
  · rw [none, none']
  · obtain ⟨s, rfl⟩ := named members .self key naming name found
    rw [found, found', (reordered.eq_str_iff s).mp rfl]

/-! ## Defaults -/

theorem checkDefault_agree {typeName : String} {test : Json → Bool}
    (same : Option.Rel Reordered fallback fallback')
    (tests : ∀ value value', Reordered value value' → test value = test value') :
    Results.Agree (checkDefault fallback typeName test) (checkDefault fallback' typeName test) := by
  intro result
  rw [checkDefault_eq_ok_iff, checkDefault_eq_ok_iff]
  cases same with
  | none => simp
  | some reordered => simp [tests _ _ reordered]

theorem admits_eq (p : Primitive) (reordered : Reordered value value') :
    p.admits value = p.admits value' := by
  refine reordered.congr (fun _ _ _ => ?_) fun _ _ _ => ?_
  · cases p <;> rfl
  · cases p <;> rfl

theorem admitsStrictly_eq (p : Primitive) (reordered : Reordered value value') :
    p.admitsStrictly value = p.admitsStrictly value' := by
  refine reordered.congr (fun _ _ _ => ?_) fun _ _ _ => ?_
  · cases p <;> rfl
  · cases p <;> rfl

theorem admittedBySome_eq (kinds : List Branch) (reordered : Reordered value value') :
    admittedBySome value kinds = admittedBySome value' kinds := by
  induction kinds with
  | nil => rfl
  | cons kind rest ih =>
    cases kind with
    | other => rfl
    | primitive p => rw [admittedBySome, admittedBySome, admits_eq p reordered, ih]

/-! ## Annotations -/

theorem wholeValue?_eq (reordered : Reordered value value') :
    wholeValue? value = wholeValue? value' :=
  reordered.congr (fun _ _ _ => rfl) fun _ _ _ => rfl

theorem maxPrecision_agree (reordered : Reordered value value') :
    Results.Agree (maxPrecision value) (maxPrecision value') := by
  cases reordered with
  | same => exact .refl _
  | arr => exact .errors _ _
  | obj => exact .errors _ _

theorem checkScale_agree (reordered : Reordered value value') :
    Results.Agree (checkScale value) (checkScale value') := by
  rw [checkScale, checkScale, reordered.isTruthy_eq, wholeValue?_eq reordered]
  split
  · exact .errors _ _
  · exact .refl _

theorem checkPrecision_agree (isFixed : Bool) (reordered : Reordered value value')
    (rearranged : Rearranged members members') :
    Results.Agree (checkPrecision value isFixed members)
      (checkPrecision value' isFixed members') := by
  rw [checkPrecision, checkPrecision, reordered.isTruthy_eq, wholeValue?_eq reordered]
  split
  · exact .refl _
  split
  · exact .errors _ _
  split
  · exact .errors _ _
  split
  · exact .refl _
  obtain ⟨none, none'⟩ | ⟨size, size', found, found', sizes⟩ := rearranged.lookup_cases "size"
  · rw [none, none']
    exact .refl _
  · rw [found, found']
    refine (maxPrecision_agree sizes).bind fun most => ?_
    split
    · exact .errors _ _
    · exact .refl _

theorem checkScaleFits_agree {scale scale' precision precision' : Json}
    (scales : Reordered scale scale') (precisions : Reordered precision precision') :
    Results.Agree (checkScaleFits scale precision) (checkScaleFits scale' precision') := by
  rw [checkScaleFits, checkScaleFits, scales.isTruthy_eq, precisions.isTruthy_eq,
    wholeValue?_eq scales, wholeValue?_eq precisions]
  split
  · split
    · exact .errors _ _
    · exact .refl _
  · exact .refl _

theorem checkDecimal_agree {type type' : Json} (types : Reordered type type')
    (rearranged : Rearranged members members') :
    Results.Agree (checkDecimal type members) (checkDecimal type' members') := by
  have isFixed : decide (type = .str "fixed") = decide (type' = .str "fixed") :=
    decide_eq_decide.mpr (types.eq_str_iff "fixed")
  have annotated := rearranged.lookup_str_iff "logicalType" "decimal"
  have scales := rearranged.getD "scale" .null
  have precisions := rearranged.getD "precision" .null
  rw [checkDecimal, checkDecimal, isFixed]
  by_cases decimal : members.lookup "logicalType" = some (.str "decimal")
  · rw [if_pos decimal, if_pos (annotated.mp decimal)]
    exact (checkScale_agree scales).bind fun _ =>
      (checkPrecision_agree _ precisions rearranged).bind fun _ =>
        checkScaleFits_agree scales precisions
  · rw [if_neg decimal, if_neg fun decimal' => decimal (annotated.mpr decimal')]
    exact .refl _

/-! ## Symbols -/

/-- The value offers symbols, each of them once, and lists the default. -/
structure ListsSymbols (symbols : Json) (fallback : Option Json) (items : List Json) : Prop where
  offers : itemsOf? symbols = some items
  all : ∀ item ∈ items, isSymbol item = true
  nodup : items.Nodup
  listed : ∀ value, fallback = some value → isListed symbols value = .ok true

theorem checkSymbols_eq_ok_iff :
    checkSymbols members = .ok () ↔ ∃ symbols items, members.lookup "symbols" = some symbols ∧
      ListsSymbols symbols (members.lookup "default") items := by
  constructor
  · intro passed
    rw [checkSymbols] at passed
    split at passed
    · cases passed
    rename_i symbols given
    split at passed
    · cases passed
    rename_i items offers
    split at passed
    · cases passed
    rename_i all
    split at passed
    · cases passed
    rename_i free
    refine ⟨symbols, items, given, offers, by simpa using all,
      (isRepetitionFree_iff items).mp (by simpa using free), fun value given => ?_⟩
    rw [given] at passed
    obtain ⟨listed, verdict, ends⟩ := bind_eq_ok_iff.mp passed
    cases listed with
    | true => exact verdict
    | false => cases ends
  · rintro ⟨symbols, items, given, offers, all, nodup, listed⟩
    have all : items.all isSymbol = true := by simpa using all
    have free := (isRepetitionFree_iff items).mpr nodup
    rw [checkSymbols, given]
    simp only [offers, all, free, Bool.not_true, Bool.false_eq_true, if_false]
    cases fallback : members.lookup "default" with
    | none => rfl
    | some value =>
      rw [fallback] at listed
      simp [listed value rfl]
      rfl

theorem str_of_isSymbol (symbol : isSymbol value = true) : ∃ s, value = .str s := by
  cases value with
  | str s => exact ⟨s, rfl⟩
  | _ => cases symbol

/-- Only a text is listed by symbols. -/
theorem ListsSymbols.str_of_listed {symbols : Json} {items : List Json}
    (lists : ListsSymbols symbols (some value) items) : ∃ s, value = .str s := by
  have listed := lists.listed value rfl
  cases symbols with
  | arr items' =>
    cases lists.offers
    exact str_of_isSymbol (lists.all value (by simpa [isListed] using listed))
  | _ => cases value <;> first | exact ⟨_, rfl⟩ | cases listed

theorem eq_of_symbols {items items' : List Json} (each : List.Forall₂ Reordered items items')
    (symbols : ∀ item ∈ items, isSymbol item = true) : items' = items := by
  induction each with
  | nil => rfl
  | cons head _ ih =>
    rw [List.forall_mem_cons] at symbols
    obtain ⟨s, rfl⟩ := str_of_isSymbol symbols.1
    rw [(head.eq_str_iff s).mp rfl, ih symbols.2]

theorem ListsSymbols.reordered {symbols symbols' : Json} {items : List Json}
    (lists : ListsSymbols symbols fallback items) (reordered : Reordered symbols symbols')
    (same : Option.Rel Reordered fallback fallback') :
    ∃ items', ListsSymbols symbols' fallback' items' := by
  have fallbacks : fallback' = fallback := by
    cases same with
    | none => rfl
    | some value =>
      obtain ⟨s, rfl⟩ := lists.str_of_listed
      rw [(value.eq_str_iff s).mp rfl]
  subst fallbacks
  cases reordered with
  | same => exact ⟨items, lists⟩
  | arr each =>
    cases lists.offers
    cases eq_of_symbols each lists.all
    exact ⟨_, lists⟩
  | @obj members members' keys values =>
    cases lists.offers
    have perm : (members.map fun m => Json.str m.1).Perm (members'.map fun m => Json.str m.1) := by
      have := keys.map Json.str
      rwa [List.map_map, List.map_map] at this
    refine ⟨_, rfl, fun item mem => lists.all item (perm.mem_iff.mpr mem),
      perm.nodup_iff.mp lists.nodup, fun value given => ?_⟩
    subst given
    obtain ⟨s, rfl⟩ := lists.str_of_listed
    have listed := lists.listed _ rfl
    simp only [isListed, Except.ok.injEq] at listed ⊢
    rw [(finds_lookup _).isSome_iff] at listed ⊢
    exact keys.mem_iff.mp listed

theorem checkSymbols_agree (rearranged : Rearranged members members') :
    Results.Agree (checkSymbols members) (checkSymbols members') := by
  have passes {members members' : List (String × Json)} (rearranged : Rearranged members members')
      (passed : checkSymbols members = .ok ()) : checkSymbols members' = .ok () := by
    obtain ⟨symbols, items, given, lists⟩ := checkSymbols_eq_ok_iff.mp passed
    obtain ⟨none, -⟩ | ⟨_, symbols', given', found, reordered⟩ :=
      rearranged.lookup_cases "symbols"
    · cases none.symm.trans given
    cases given.symm.trans given'
    obtain ⟨items', lists'⟩ := lists.reordered reordered (rearranged.lookup "default")
    exact checkSymbols_eq_ok_iff.mpr ⟨symbols', items', found, lists'⟩
  exact fun ⟨⟩ => ⟨passes rearranged, passes rearranged.symm⟩

/-! ## Objects -/

theorem checkFieldShape_agree (rearranged : Rearranged members members') :
    Results.Agree (checkFieldShape members) (checkFieldShape members') := by
  rw [checkFieldShape, checkFieldShape, rearranged.isNone_eq "type"]
  obtain ⟨none, none'⟩ | ⟨name, name', found, found', -⟩ := rearranged.lookup_cases "name"
  · rw [none, none']
    exact .errors _ _
  rw [found, found']
  dsimp only
  split
  · exact .errors _ _
  obtain ⟨none, none'⟩ | ⟨list, list', given, given', reordered⟩ :=
    rearranged.lookup_cases "aliases"
  · rw [none, none']
    exact .refl _
  · rw [given, given']
    cases reordered with
    | same => exact .refl _
    | arr => exact .refl _
    | obj => exact .errors _ _

theorem declareNamed_agree (named : NamedByTexts (.obj members))
    (rearranged : Rearranged members members') :
    Check.Agree (declareNamed space members) (declareNamed space members') :=
  (Check.Agree.lift (declaration_congr (lookup_eq_of_named named rearranged (.inl rfl))
    (lookup_eq_of_named named rearranged (.inr rfl)))).bind fun _ => .refl _

theorem checkForm_agree (named : NamedByTexts (.obj members))
    (rearranged : Rearranged members members') (same : Option.Rel Reordered fallback fallback')
    {checkUnder checkUnder' : String → Check Unit} {checkFieldsIn checkFieldsIn' : Json → Check Unit}
    (under : ∀ key, Check.Agree (checkUnder key) (checkUnder' key))
    (fields : ∀ inner, Check.Agree (checkFieldsIn inner) (checkFieldsIn' inner)) (form : Form) :
    Check.Agree (checkForm space fallback members checkUnder checkFieldsIn form)
      (checkForm space fallback' members' checkUnder' checkFieldsIn' form) := by
  have default {typeName : String} {test : Json → Bool}
      (tests : ∀ value value', Reordered value value' → test value = test value') :
      Check.Agree (liftM (checkDefault fallback typeName test))
        (liftM (checkDefault fallback' typeName test)) := .lift (checkDefault_agree same tests)
  have isObject (value value' : Json) (reordered : Reordered value value') :
      isObject value = isObject value' := reordered.congr (fun _ _ _ => rfl) fun _ _ _ => rfl
  have isList (value value' : Json) (reordered : Reordered value value') :
      isList value = isList value' := reordered.congr (fun _ _ _ => rfl) fun _ _ _ => rfl
  have isText (value value' : Json) (reordered : Reordered value value') :
      isText value = isText value' := reordered.congr (fun _ _ _ => rfl) fun _ _ _ => rfl
  have declares := @declareNamed_agree space _ _ named rearranged
  cases form with
  | primitive p => exact default fun _ _ => admitsStrictly_eq p
  | array => exact (under "items").bind fun _ => default isList
  | map => exact (under "values").bind fun _ => default isObject
  | enum =>
    exact declares.bind fun d => (Check.Agree.lift (checkSymbols_agree rearranged)).bind fun _ =>
      (default isText).bind fun _ => .refl _
  | fixed =>
    refine declares.bind fun d => (default isText).bind fun _ =>
      (Check.Agree.refl (register d.fullName "fixed")).bind fun _ => ?_
    rw [rearranged.isNone_eq "size"]
    split
    · exact .throw _ _
    · exact .refl _
  | record =>
    exact declares.bind fun d => (default isObject).bind fun _ =>
      (Check.Agree.refl (register d.fullName "record")).bind fun _ => fields d.inner
  | error =>
    exact declares.bind fun d => (default isObject).bind fun _ =>
      (Check.Agree.refl (register d.fullName "error")).bind fun _ => fields d.inner

/-! ## Schemas -/

/-- The values come to the same as schemas, as fields and as the fields of a record. -/
structure ChecksAgree (value value' : Json) : Prop where
  schema : ∀ space fallback fallback', Option.Rel Reordered fallback fallback' →
    Check.Agree (checkSchema space fallback value) (checkSchema space fallback' value')
  field : ∀ space, Check.Agree (checkField space value) (checkField space value')
  fields : ∀ space, Check.Agree (checkFieldsValue space value) (checkFieldsValue space value')

theorem checkBranches_agree {branches branches' : List Json}
    (each : List.Forall₂ ChecksAgree branches branches') :
    Check.Agree (checkBranches space branches) (checkBranches space branches') := by
  induction each with
  | nil => exact .refl _
  | cons head _ ih =>
    rw [checkBranches, checkBranches]
    exact (head.schema space none none .none).bind fun _ => ih.bind fun _ => .refl _

theorem checkFields_agree {fields fields' : List Json}
    (each : List.Forall₂ ChecksAgree fields fields') :
    Check.Agree (checkFields space fields) (checkFields space fields') := by
  induction each with
  | nil => exact .refl _
  | cons head _ ih =>
    rw [checkFields, checkFields]
    exact (head.field space).bind fun _ => ih

def MembersAgree (members members' : List (String × Json)) : Prop :=
  ∀ key, Option.Rel ChecksAgree (members.lookup key) (members'.lookup key)

theorem checkMember_agree (agree : MembersAgree members members')
    (same : Option.Rel Reordered fallback fallback') (key : String) :
    Check.Agree (checkMember space fallback key members)
      (checkMember space fallback' key members') := by
  rw [checkMember_eq, checkMember_eq]
  obtain ⟨none, none'⟩ | ⟨value, value', found, found', agrees⟩ := rel_cases (agree key)
  · rw [none, none']
    exact .refl _
  · rw [found, found']
    exact (agrees.schema space _ _ same).bind fun _ => .refl _

theorem checkFieldsMember_agree (agree : MembersAgree members members') :
    Check.Agree (checkFieldsMember space members) (checkFieldsMember space members') := by
  rw [checkFieldsMember_eq, checkFieldsMember_eq]
  obtain ⟨none, none'⟩ | ⟨value, value', found, found', agrees⟩ := rel_cases (agree "fields")
  · rw [none, none']
    exact .refl _
  · rw [found, found']
    exact agrees.fields space

theorem checkSchema_obj_agree (named : NamedByTexts (.obj members))
    (rearranged : Rearranged members members') (agree : MembersAgree members members')
    (same : Option.Rel Reordered fallback fallback') :
    Check.Agree (checkSchema space fallback (.obj members))
      (checkSchema space fallback' (.obj members')) := by
  rw [checkSchema, checkSchema]
  obtain ⟨none, none'⟩ | ⟨type, type', found, found', reordered⟩ := rearranged.lookup_cases "type"
  · rw [none, none']
    exact .refl _
  rw [found, found']
  refine (Check.Agree.lift (checkDecimal_agree reordered rearranged)).bind fun _ => ?_
  cases reordered with
  | arr => exact .lift (.errors _ _)
  | obj => exact .lift (.errors _ _)
  | same type =>
    cases type with
    | str word =>
      dsimp only
      cases Form.ofWord? word with
      | none => exact .throw _ _
      | some form =>
        exact (checkForm_agree named rearranged same (checkMember_agree agree .none)
          (fun _ => checkFieldsMember_agree agree) form).bind fun _ => .refl _
    | arr | obj => exact .refl _
    | _ => exact .throw _ _

theorem checkSchema_str_agree {name : String} (same : Option.Rel Reordered fallback fallback') :
    Check.Agree (checkSchema space fallback (.str name))
      (checkSchema space fallback' (.str name)) := by
  unfold checkSchema
  cases Primitive.ofName? name with
  | none => exact .refl _
  | some p =>
    cases same with
    | none => exact .refl _
    | some reordered =>
      refine (Check.Agree.lift (admits_eq p reordered ▸ .refl _)).bind fun admitted => ?_
      cases admitted with
      | true => exact .refl _
      | false => exact .lift (.errors _ _)

theorem checkSchema_arr_agree {branches branches' : List Json}
    (each : List.Forall₂ ChecksAgree branches branches')
    (same : Option.Rel Reordered fallback fallback') :
    Check.Agree (checkSchema space fallback (.arr branches))
      (checkSchema space fallback' (.arr branches')) := by
  rw [checkSchema, checkSchema]
  refine (checkBranches_agree each).bind fun kinds => ?_
  cases same with
  | none => exact .refl _
  | some reordered =>
    refine (Check.Agree.lift (admittedBySome_eq kinds reordered ▸ .refl _)).bind fun admitted => ?_
    cases admitted with
    | true => exact .refl _
    | false => exact .lift (.errors _ _)

theorem checkField_obj_agree (rearranged : Rearranged members members')
    (agree : MembersAgree members members') :
    Check.Agree (checkField space (.obj members)) (checkField space (.obj members')) := by
  rw [checkField, checkField]
  exact (Check.Agree.lift (checkFieldShape_agree rearranged)).bind fun _ =>
    checkMember_agree agree (rearranged.lookup "default") "type"

theorem checkFieldsValue_obj_agree (rearranged : Rearranged members members') :
    Check.Agree (checkFieldsValue space (.obj members)) (checkFieldsValue space (.obj members')) := by
  have length := rearranged.keys.length_eq
  rw [checkFieldsValue.eq_2 _ _ fun _ => Json.noConfusion,
    checkFieldsValue.eq_2 _ _ fun _ => Json.noConfusion]
  cases members with
  | nil =>
    cases members' with
    | nil => exact .refl _
    | cons => cases length
  | cons =>
    cases members' with
    | nil => cases length
    | cons => exact .lift (.errors _ _)

theorem checksAgree_of_reordered (reordered : Reordered value value')
    (named : NamedByTexts value) : ChecksAgree value value' := by
  induction value using Json.nested generalizing value' with
  | arr items ih =>
    obtain ⟨items', rfl, each⟩ := reordered.of_arr
    have each : List.Forall₂ ChecksAgree items items' :=
      ((List.forall₂_and_left _ _).mpr
        ⟨fun item mem => And.intro (@ih item mem) (namedByTexts_arr_iff.mp named item mem), each⟩).imp
          fun _ _ ⟨⟨agrees, named⟩, reordered⟩ => agrees reordered named
    exact ⟨fun _ _ _ same => checkSchema_arr_agree each same, fun _ => .lift (.errors _ _),
      fun _ => checkFields_agree each⟩
  | obj members ih =>
    obtain ⟨members', rfl, rearranged⟩ := reordered.of_obj
    have agree : MembersAgree members members' := by
      intro key
      obtain ⟨none, none'⟩ | ⟨value, value', found, found', same⟩ := rearranged.lookup_cases key
      · rw [none, none']
        exact .none
      · rw [found, found']
        exact .some (ih _ ((finds_lookup members).mem _ _ found) same (named.member found))
    exact ⟨fun _ _ _ same => checkSchema_obj_agree named rearranged agree same,
      fun _ => checkField_obj_agree rearranged agree, fun _ => checkFieldsValue_obj_agree rearranged⟩
  | str s =>
    cases reordered
    exact ⟨fun _ _ _ same => checkSchema_str_agree same, fun _ => .refl _, fun _ => .refl _⟩
  | _ =>
    cases reordered
    exact ⟨fun _ _ _ _ => .refl _, fun _ => .refl _, fun _ => .refl _⟩

theorem checkAlone_agree {types : NamedTypes} (reordered : Reordered value value')
    (named : NamedByTexts value) :
    Results.Agree (checkAlone value types) (checkAlone value' types) :=
  (((checksAgree_of_reordered reordered named).schema _ none none .none) _).map _

end TopicTables.Avro
