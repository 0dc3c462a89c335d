import Mathlib.Data.List.Induction
import TopicTables.Table.Builder

/-! # What a builder keeps

Whatever calls are made and whichever of them are refused, a builder has collected the calls whose
name no earlier call had. It compares a name only with those that it has collected. That comes to the
same as comparing it with all earlier ones, because an earlier call with the name was either collected
or refused for one that has the same name.
-/

namespace TopicTables.Building

def Taken (calls : List Column) (name : Json) : Prop :=
  ∃ call ∈ calls, call.name.same name = true

instance (calls : List Column) (name : Json) : Decidable (Taken calls name) :=
  List.decidableBEx _ calls

/-- The calls whose name no earlier call has, in order. -/
def firsts (calls : List Column) : Columns :=
  (calls.zipIdx.filter fun (call, place) => ¬ Taken (calls.take place) call.name).map Prod.fst

/-- What has to become of a call among others. -/
def dueTurn (calls : List Column) (place : Nat) (call : Column) : Turn where
  refusal := if Taken (calls.take place) call.name then some ⟨call.name⟩ else none
  columns := firsts (calls.take (place + 1))

variable {calls : List Column} {call : Column} {name : Json}

/-! ## First calls -/

theorem firsts_concat (calls : List Column) (call : Column) :
    firsts (calls ++ [call]) =
      if Taken calls call.name then firsts calls else firsts calls ++ [call] := by
  have earlier : (calls.zipIdx.filter fun (c, place) =>
      ¬ Taken ((calls ++ [call]).take place) c.name) =
        calls.zipIdx.filter fun (c, place) => ¬ Taken (calls.take place) c.name := by
    refine List.filter_congr fun (c, place) member => ?_
    have inside : place < calls.length := by simpa using List.snd_lt_of_mem_zipIdx member
    dsimp only
    rw [List.take_append_of_le_length (Nat.le_of_lt inside)]
  rw [firsts, List.zipIdx_append, List.filter_append, List.map_append, earlier, ← firsts]
  by_cases taken : Taken calls call.name <;> simp [taken]

theorem taken_concat_iff :
    Taken (calls ++ [call]) name ↔ Taken calls name ∨ call.name.same name = true := by
  simp [Taken, or_and_right, exists_or]

/-- A name is among those collected just where it is among those of all calls. -/
theorem hasName_firsts_iff : (firsts calls).hasName name = true ↔ Taken calls name := by
  induction calls using List.reverseRecOn with
  | nil => simp [firsts, Taken, Columns.hasName]
  | append_singleton calls call ih =>
    rw [firsts_concat, taken_concat_iff]
    split
    · next taken =>
      rw [ih]
      constructor
      · exact Or.inl
      · rintro (earlier | same)
        · exact earlier
        · -- The call itself was refused, for an earlier one that then has the name, too.
          obtain ⟨first, member, alike⟩ := taken
          exact ⟨first, member, Json.same_trans alike same⟩
    · rw [Columns.hasName] at ih ⊢
      rw [List.any_append, Bool.or_eq_true, ih, List.any_cons, List.any_nil, Bool.or_false]

theorem distinct_firsts (calls : List Column) :
    (firsts calls).Pairwise fun a b => a.name.same b.name = false := by
  induction calls using List.reverseRecOn with
  | nil => exact .nil
  | append_singleton calls call ih =>
    rw [firsts_concat]
    split
    · exact ih
    · next new =>
      rw [← hasName_firsts_iff, Bool.not_eq_true, Columns.hasName, List.any_eq_false] at new
      refine List.pairwise_append.mpr ⟨ih, List.pairwise_singleton .., ?_⟩
      intro earlier member last only
      rw [List.mem_singleton.mp only]
      simpa using new earlier member

/-! ## Calls -/

theorem run_column (columns : Columns) (name : Json) (dataType : DataType) :
    (column name dataType).run columns =
      if columns.hasName name then .error ⟨name⟩ columns
      else .ok () (columns ++ [⟨name, dataType⟩]) := by
  rw [column, EStateM.run_bind, EStateM.run_get]
  cases taken : columns.hasName name with
  | true =>
    have refused : columns.add ⟨name, dataType⟩ = .error ⟨name⟩ := Columns.add_of_taken taken
    simp only [refused]
    rfl
  | false =>
    have added : columns.add ⟨name, dataType⟩ = .ok (columns ++ [⟨name, dataType⟩]) :=
      Columns.add_of_new taken
    simp only [added]
    rfl

/-- Behind any calls a name is refused just where one of them has it, and then nothing changes; else
the call is collected. -/
theorem run_column_firsts (calls : List Column) (call : Column) :
    (column call.name call.dataType).run (firsts calls) =
      if Taken calls call.name then .error ⟨call.name⟩ (firsts calls)
      else .ok () (firsts (calls ++ [call])) := by
  rw [run_column, firsts_concat]
  by_cases taken : Taken calls call.name
  · rw [if_pos (hasName_firsts_iff.mpr taken), if_pos taken]
  · rw [if_neg (mt hasName_firsts_iff.mp taken), if_neg taken, if_neg taken]

theorem run_turn_firsts (calls : List Column) (call : Column) :
    (turn call).run (firsts calls) =
      (⟨if Taken calls call.name then some ⟨call.name⟩ else none, firsts (calls ++ [call])⟩,
        firsts (calls ++ [call])) := by
  have called := run_column_firsts calls call
  by_cases taken : Taken calls call.name
  · rw [if_pos taken] at called
    rw [if_pos taken, firsts_concat, if_pos taken]
    simp [turn, StateT.run, called]
  · rw [if_neg taken] at called ⊢
    simp [turn, StateT.run, called]

theorem dueTurn_of_lt {place : Nat} (inside : place < calls.length) (last : Column) :
    dueTurn (calls ++ [last]) place call = dueTurn calls place call := by
  rw [dueTurn, dueTurn, List.take_append_of_le_length (Nat.le_of_lt inside),
    List.take_append_of_le_length inside]

theorem dueTurn_length (calls : List Column) (call : Column) :
    dueTurn (calls ++ [call]) calls.length call =
      ⟨if Taken calls call.name then some ⟨call.name⟩ else none, firsts (calls ++ [call])⟩ := by
  rw [dueTurn, List.take_left, List.take_of_length_le (by simp)]

theorem mapIdx_dueTurn_concat (calls : List Column) (call : Column) :
    (calls ++ [call]).mapIdx (dueTurn (calls ++ [call])) =
      calls.mapIdx (dueTurn calls) ++ [dueTurn (calls ++ [call]) calls.length call] := by
  rw [List.mapIdx_concat, List.mapIdx_eq_mapIdx_iff.mpr fun place inside =>
    dueTurn_of_lt inside call]

theorem run_turns_concat (calls : List Column) (call : Column) (start : Columns) :
    (turns (calls ++ [call])).run start =
      let (done, behind) := (turns calls).run start
      let (last, left) := (turn call).run behind
      (done ++ [last], left) := by
  rw [turns, List.mapM_append, StateT.run_bind, ← turns, List.mapM_cons, List.mapM_nil]
  rfl

theorem run_turns (calls : List Column) :
    (turns calls).run [] = (calls.mapIdx (dueTurn calls), firsts calls) := by
  induction calls using List.reverseRecOn with
  | nil => rfl
  | append_singleton calls call ih =>
    rw [run_turns_concat, ih, mapIdx_dueTurn_concat, dueTurn_length]
    simp only [run_turn_firsts]

/-- Calls are made of a new builder one after another, and those that are refused are passed over.
Behind each call the builder has collected the calls whose name no earlier call has, and a call is
refused just where an earlier one has its name. A refused call changes nothing, no two names collected
are the same, and what is built is what has been collected. -/
theorem turns_keep_firsts (calls : List Column) :
    (turns calls).run [] = (calls.mapIdx fun place call =>
      ⟨if Taken (calls.take place) call.name then some ⟨call.name⟩ else none,
        firsts (calls.take (place + 1))⟩, firsts calls) ∧
    (∀ call : Column, (column call.name call.dataType).run (firsts calls) =
      if Taken calls call.name then .error ⟨call.name⟩ (firsts calls)
      else .ok () (firsts (calls ++ [call]))) ∧
    ((firsts calls).Pairwise fun a b => a.name.same b.name = false) ∧
    build.run (firsts calls) = .ok (firsts calls) (firsts calls) :=
  ⟨run_turns calls, run_column_firsts calls, distinct_firsts calls, rfl⟩

/-- The second call under a name is refused, also where it has another type. -/
example :
    ((turns [⟨.str "a", ⟨"INT", true⟩⟩, ⟨.str "a", ⟨"STRING", true⟩⟩, ⟨.str "b", ⟨"INT", true⟩⟩]).run
      []).2 = [⟨.str "a", ⟨"INT", true⟩⟩, ⟨.str "b", ⟨"INT", true⟩⟩] := by decide +kernel

end TopicTables.Building
