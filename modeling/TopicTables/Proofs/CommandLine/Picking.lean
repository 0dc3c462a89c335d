import Mathlib.Data.List.FinRange
import TopicTables.Proofs.CommandLine.Reporting

/-! # Picking topics

Every name is cut to the maximal width and then padded to the width of the longest name as it is cut.
So the numbers begin at one place in all titles, and they tell the titles apart where the names do
not. What a prompt gives back are the values behind the choices, which are the whole names.
-/

namespace TopicTables

namespace Picker
open Text

def numberMark (number : Nat) : String :=
  "  (#" ++ toString number ++ ")"

/-- A name among others as a title has it. -/
def shownName (topics : List String) (topic : String) : String :=
  String.ofList (padRight ' ' (commonWidth topics) (truncate topic maxNameWidth).toList)

/-- What a prompt with several choices gives back: the values behind those that are answered, in the
order of the answer. -/
def valuesBehind (choices : List (String × String)) : Answer → List String
  | .several indexes => indexes.filterMap fun index => choices[index]?.map Prod.snd
  | _ => []

variable {topics : List String} {topic : String}

/-! ## The width of the names -/

theorem length_truncate (text : String) (width : Nat) :
    (truncate text width).length = min text.length width := by
  rw [truncate, ← String.length_toList (s := text)]
  split
  · next fits =>
    rw [String.length_ofList, upTo, if_pos (Int.natCast_nonneg _), Int.toNat_natCast,
      List.length_take, Nat.min_comm]
  · next long =>
    rw [Bool.or_eq_true, decide_eq_true_eq, decide_eq_true_eq, not_or] at long
    rw [String.length_append, String.length_ofList, List.length_take,
      show "...".length = 3 from rfl]
    omega

theorem foldl_max_le_iff {α : Type} (width : α → Nat) (items : List α) (start bound : Nat) :
    items.foldl (fun widest item => max widest (width item)) start ≤ bound ↔
      start ≤ bound ∧ ∀ item ∈ items, width item ≤ bound := by
  induction items generalizing start with
  | nil => simp
  | cons item rest ih =>
    rw [List.foldl_cons, ih, Nat.max_le, List.forall_mem_cons, and_assoc]

theorem commonWidth_le_iff {bound : Nat} :
    commonWidth topics ≤ bound ↔
      ∀ topic ∈ topics, (truncate topic maxNameWidth).length ≤ bound :=
  (foldl_max_le_iff _ topics 0 bound).trans (and_iff_right (Nat.zero_le bound))

theorem commonWidth_le (topics : List String) : commonWidth topics ≤ maxNameWidth :=
  commonWidth_le_iff.mpr fun topic _ => by
    rw [length_truncate]
    exact Nat.min_le_right ..

theorem toList_shownName (topics : List String) (topic : String) :
    (shownName topics topic).toList = (truncate topic maxNameWidth).toList ++
      List.replicate (commonWidth topics - (truncate topic maxNameWidth).toList.length) ' ' :=
  String.toList_ofList

theorem length_shownName (member : topic ∈ topics) :
    (shownName topics topic).length = commonWidth topics := by
  rw [shownName, String.length_ofList, length_padRight, String.length_toList]
  exact Nat.max_eq_left (commonWidth_le_iff.mp (Nat.le_refl _) topic member)

/-! ## The choices -/

theorem numberMark_inj {m n : Nat} (same : numberMark m = numberMark n) : m = n := by
  rw [numberMark, numberMark, String.append_left_inj, String.append_right_inj] at same
  have read := congrArg (fun text => Nat.ofDigitChars 10 text.toList 0) same
  simpa [toString, Nat.toList_repr, Nat.ofDigitChars_toDigits] using read

theorem choiceTitle_eq (topics : List String) (topic : String) (place : Nat) :
    choiceTitle topic (place + 1) (commonWidth topics) =
      shownName topics topic ++ numberMark (place + 1) := by
  have number : toString ((place : Int) + 1) = toString (place + 1) := rfl
  rw [choiceTitle, number, Int.toNat_natCast, String.append_assoc, String.append_assoc, numberMark,
    String.append_assoc, shownName]

theorem choices_eq_ofFn (topics : List String) :
    choices topics = List.ofFn fun place : Fin topics.length =>
      (shownName topics (topics.get place) ++ numberMark (place + 1), topics.get place) := by
  refine List.ext_getElem (by simp [choices]) fun place inside inside' => ?_
  simp only [choices, List.getElem_map, List.getElem_zipIdx, List.getElem_ofFn, Nat.zero_add,
    choiceTitle_eq, List.get_eq_getElem]

theorem map_snd_choices (topics : List String) : (choices topics).map Prod.snd = topics := by
  rw [choices_eq_ofFn, List.map_ofFn]
  exact List.ofFn_get topics

theorem picked_eq_valuesBehind (topics : List String) (answer : Answer) :
    picked topics answer = valuesBehind (choices topics) answer := by
  cases answer with
  | several indexes =>
    simp only [picked, valuesBehind, ← List.getElem?_map, map_snd_choices]
  | cancelled => rfl
  | one index => rfl

/-- Titles of the same name are told apart by their numbers, which begin at the same place. -/
theorem nodup_titles (topics : List String) : ((choices topics).map Prod.fst).Nodup := by
  rw [choices_eq_ofFn, List.map_ofFn, List.nodup_ofFn]
  intro place place' same
  have widths : (shownName topics (topics.get place)).toList.length =
      (shownName topics (topics.get place')).toList.length := by
    rw [String.length_toList, String.length_toList, length_shownName (List.get_mem ..),
      length_shownName (List.get_mem ..)]
  have split := congrArg String.toList same
  simp only [Function.comp_apply, String.toList_append] at split
  have marks := String.toList_inj.mp (List.append_inj split widths).2
  exact Fin.ext (Nat.succ.inj (numberMark_inj marks))

end Picker

namespace CommandLine
open Picker (choices numberMark valuesBehind)

theorem runAt_selectTopics (topics : List String) (desk : Desk) :
    (selectTopics topics).runAt desk =
      (.ok (valuesBehind (choices topics) desk.nextAnswer), desk.asking (Picker.prompt topics)) := by
  rw [← Picker.picked_eq_valuesBehind]
  exact Job.runAt_bind_of_ok (Job.runAt_ask desk _)

/-- Each title has the name of its topic, cut and padded with blanks to one width, which is at most the
maximal one, and the number behind it; no title is there twice. Behind each choice is the whole topic.
What the prompt gives back are the topics behind the choices that are answered, in the order of the
answer, and none when it is cancelled. -/
theorem selectTopics_faithful (topics : List String) :
    (∃ (width : Nat) (name : Fin topics.length → String), width ≤ 96 ∧
      (∀ place, (name place).length = width) ∧
      (∀ place, ∃ blanks, (name place).toList =
        (Picker.truncate (topics.get place) 96).toList ++ List.replicate blanks ' ') ∧
      choices topics = List.ofFn fun place =>
        (name place ++ numberMark (place + 1), topics.get place)) ∧
    ((choices topics).map Prod.fst).Nodup ∧
    (∀ desk : Desk, (selectTopics topics).runAt desk =
      (.ok (valuesBehind (choices topics) desk.nextAnswer),
        desk.asking (.checkbox "Select topics:" (choices topics)))) ∧
    valuesBehind (choices topics) .cancelled = [] ∧
    ∀ places : List (Fin topics.length),
      valuesBehind (choices topics) (.several (places.map Fin.val)) = places.map topics.get := by
  refine ⟨⟨Picker.commonWidth topics, fun place => Picker.shownName topics (topics.get place),
    Picker.commonWidth_le topics, fun place => ?_, fun place => ?_, Picker.choices_eq_ofFn topics⟩,
    Picker.nodup_titles topics, runAt_selectTopics topics, rfl, fun places => ?_⟩
  · exact Picker.length_shownName (List.get_mem ..)
  · exact ⟨_, Picker.toList_shownName topics _⟩
  · rw [← Picker.picked_eq_valuesBehind]
    exact picked_places places

end CommandLine

end TopicTables
