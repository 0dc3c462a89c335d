import TopicTables.Proofs.Text.Stripping
import TopicTables.Table.Path

/-! # Full names of objects

A text is split at its first point, blanks at its ends apart, and that comes to a path just where
something stands on both sides of the point. The full name of the path is then the stripped text.
A path comes back from its full name just where the first point of that name is the one between its
parts and stripping leaves the name as it is.
-/

namespace TopicTables
open Text

/-- The text has a point, and the first point is neither its first character nor its last. -/
structure HasInnerPoint (text : String) : Prop where
  pointed : '.' ∈ text.toList
  begun : text.toList.idxOf '.' ≠ 0
  goesOn : text.toList.idxOf '.' + 1 ≠ text.length

theorem idxOf_point {before : List Char} (pointless : '.' ∉ before) (after : List Char) :
    (before ++ '.' :: after).idxOf '.' = before.length := by
  rw [List.idxOf_append_of_notMem pointless, List.idxOf_cons_self, Nat.add_zero]

/-- The text has something in front of its first point and behind it. -/
theorem hasInnerPoint_iff {text : String} :
    HasInnerPoint text ↔ ∃ before after : List Char,
      text.toList = before ++ '.' :: after ∧ '.' ∉ before ∧ before ≠ [] ∧ after ≠ [] := by
  constructor
  · rintro ⟨pointed, begun, goesOn⟩
    obtain ⟨before, after, split, pointless⟩ := List.eq_append_cons_of_mem pointed
    rw [← String.length_toList] at goesOn
    rw [split, idxOf_point pointless] at begun goesOn
    refine ⟨before, after, split, pointless, List.ne_nil_of_length_pos (by omega), ?_⟩
    rintro rfl
    simp at goesOn
  · rintro ⟨before, after, split, pointless, front, rest⟩
    refine ⟨by simp [split], ?_, ?_⟩
    · rw [split, idxOf_point pointless]
      exact (List.length_pos_of_ne_nil front).ne'
    · have := List.length_pos_of_ne_nil rest
      rw [← String.length_toList, split, idxOf_point pointless, List.length_append, List.length_cons]
      omega

namespace Path

/-- Neither part is empty, the first point of the full name is the one between them, and there is no
blank at an end. -/
structure IsToldByName (path : Path) : Prop where
  database : path.database ≠ ""
  pointless : '.' ∉ path.database.toList
  ahead : ∀ c ∈ path.database.toList.head?, isBlank c = false
  object : path.object ≠ ""
  behind : ∀ c ∈ path.object.toList.getLast?, isBlank c = false

variable {text text' : String} {path path' : Path}

theorem toList_fullName (path : Path) :
    path.fullName.toList = path.database.toList ++ '.' :: path.object.toList := by
  simp [fullName]

/-! ## Splitting at the first point -/

theorem ofFullName?_of_split {database object : List Char}
    (split : stripBlanks text.toList = database ++ '.' :: object)
    (pointless : '.' ∉ database) (front : database ≠ []) (rest : object ≠ []) :
    ofFullName? text = some ⟨String.ofList database, String.ofList object⟩ := by
  have passed : ∀ c ∈ database, (c != '.') = true := fun c member =>
    bne_iff_ne.mpr fun point => pointless (point ▸ member)
  have taken : (database ++ '.' :: object).takeWhile (· != '.') = database := by
    rw [List.takeWhile_append_of_pos passed, List.takeWhile_cons_of_neg (by simp), List.append_nil]
  have left : (database ++ '.' :: object).dropWhile (· != '.') = '.' :: object := by
    rw [List.dropWhile_append_of_pos passed, List.dropWhile_cons_of_neg (by simp)]
  simp [ofFullName?, split, taken, left, front, rest]

theorem split_of_ofFullName? (parsed : ofFullName? text = some path) :
    stripBlanks text.toList = path.fullName.toList ∧ '.' ∉ path.database.toList ∧
      path.database ≠ "" ∧ path.object ≠ "" := by
  simp only [ofFullName?] at parsed
  have whole := @List.takeWhile_append_dropWhile _ (· != '.') (stripBlanks text.toList)
  have stops := List.head?_dropWhile_not (· != '.') (stripBlanks text.toList)
  split at parsed
  · next point object left =>
    split at parsed
    · cases parsed
    · next filled =>
      cases parsed
      rw [left] at whole stops
      have point : point = '.' := by simpa using stops
      subst point
      rw [Bool.or_eq_true, not_or, List.isEmpty_iff, List.isEmpty_iff] at filled
      refine ⟨by rw [toList_fullName]; simpa using whole.symm, ?_, ?_, ?_⟩
      · rw [String.toList_ofList]
        exact fun member => by simpa using List.mem_takeWhile_imp member
      · rw [ne_eq, String.ofList_eq_empty_iff]
        exact filled.1
      · rw [ne_eq, String.ofList_eq_empty_iff]
        exact filled.2
  · cases parsed

/-! ## Blanks at the ends of a full name -/

theorem head?_fullName (database : path.database ≠ "") :
    path.fullName.toList.head? = path.database.toList.head? := by
  rw [toList_fullName, List.head?_append_of_ne_nil _ (by simpa using database)]

theorem getLast?_fullName (object : path.object ≠ "") :
    path.fullName.toList.getLast? = path.object.toList.getLast? := by
  rw [toList_fullName, List.append_cons,
    List.getLast?_append_of_ne_nil _ (by simpa using object)]

theorem strip_fullName (told : path.IsToldByName) : strip path.fullName = path.fullName := by
  rw [strip, stripBlanks_eq_self_iff.mpr, String.ofList_toList]
  rw [head?_fullName told.database, getLast?_fullName told.object]
  exact ⟨told.ahead, told.behind⟩

/-! ## The path of a text -/

theorem isToldByName_of_ofFullName? (parsed : ofFullName? text = some path) :
    path.IsToldByName := by
  obtain ⟨split, pointless, database, object⟩ := split_of_ofFullName? parsed
  refine ⟨database, pointless, ?_, object, ?_⟩
  · rw [← head?_fullName database, ← split]
    exact head?_stripBlanks
  · rw [← getLast?_fullName object, ← split]
    exact getLast?_stripBlanks

/-- A text is parsed to the path that has it, stripped, for its full name and is told by that. -/
theorem ofFullName?_eq_some_iff :
    ofFullName? text = some path ↔ path.fullName = strip text ∧ path.IsToldByName := by
  constructor
  · intro parsed
    refine ⟨?_, isToldByName_of_ofFullName? parsed⟩
    rw [strip, (split_of_ofFullName? parsed).1, String.ofList_toList]
  · rintro ⟨named, told⟩
    have split : stripBlanks text.toList = path.database.toList ++ '.' :: path.object.toList := by
      rw [← toList_fullName, named, strip, String.toList_ofList]
    rw [ofFullName?_of_split split told.pointless (by simpa using told.database)
      (by simpa using told.object), String.ofList_toList, String.ofList_toList]

theorem ofFullName?_fullName_iff : ofFullName? path.fullName = some path ↔ path.IsToldByName := by
  rw [ofFullName?_eq_some_iff]
  constructor
  · exact fun parsed => parsed.2
  · exact fun told => ⟨(strip_fullName told).symm, told⟩

theorem exists_ofFullName?_iff :
    (∃ path, ofFullName? text = some path) ↔ HasInnerPoint (strip text) := by
  rw [hasInnerPoint_iff, strip, String.toList_ofList]
  constructor
  · rintro ⟨path, parsed⟩
    obtain ⟨split, pointless, database, object⟩ := split_of_ofFullName? parsed
    exact ⟨_, _, split.trans path.toList_fullName, pointless, by simpa using database,
      by simpa using object⟩
  · rintro ⟨before, after, split, pointless, front, rest⟩
    exact ⟨_, ofFullName?_of_split split pointless front rest⟩

/-- Texts that are parsed come to the same path just where they are the same up to blanks at their
ends. -/
theorem eq_iff_strip_eq (parsed : ofFullName? text = some path)
    (parsed' : ofFullName? text' = some path') : path = path' ↔ strip text = strip text' := by
  rw [ofFullName?_eq_some_iff] at parsed
  constructor
  · rintro rfl
    rw [← parsed.1, (ofFullName?_eq_some_iff.mp parsed').1]
  · intro same
    have alike := ofFullName?_eq_some_iff.mpr ⟨parsed.1.trans same, parsed.2⟩
    exact Option.some.inj (alike.symm.trans parsed')

/-- A text is parsed just where, stripped, its first point is neither its first character nor its
last, and then the full name is the stripped text. A path comes back from its full name just where it
is told by that, as every path is that a text was parsed to. -/
theorem parsing_inverts_fullName :
    (∀ text, (∃ path, ofFullName? text = some path) ↔ HasInnerPoint (strip text)) ∧
    (∀ text path, ofFullName? text = some path → path.fullName = strip text) ∧
    (∀ path, ofFullName? path.fullName = some path ↔ path.IsToldByName) ∧
    (∀ text path, ofFullName? text = some path → ofFullName? path.fullName = some path) ∧
    ∀ text text' path path', ofFullName? text = some path → ofFullName? text' = some path' →
      (path = path' ↔ strip text = strip text') := by
  refine ⟨fun _ => exists_ofFullName?_iff, fun _ _ parsed => ?_, fun _ => ofFullName?_fullName_iff,
    fun _ _ parsed => ?_, fun _ _ _ _ => eq_iff_strip_eq⟩
  · exact (ofFullName?_eq_some_iff.mp parsed).1
  · exact ofFullName?_fullName_iff.mpr (isToldByName_of_ofFullName? parsed)

/-- The object keeps its points, and the blanks go. -/
theorem parsing_inverts_fullName_orders :
    let path : Path := ⟨"default", "orders.v1"⟩
    ofFullName? " default.orders.v1\n" = some path ∧
    path.fullName = strip " default.orders.v1\n" ∧
    ofFullName? path.fullName = some path ∧
    strip " default.orders.v1\n" = strip "default.orders.v1" := by
  intro path
  obtain ⟨-, named, -, back, same⟩ := parsing_inverts_fullName
  have parsed : ofFullName? " default.orders.v1\n" = some path := by decide +kernel
  have parsed' : ofFullName? "default.orders.v1" = some path := by decide +kernel
  exact ⟨parsed, named _ _ parsed, back _ _ parsed, (same _ _ _ _ parsed parsed').mp rfl⟩

end Path

end TopicTables
