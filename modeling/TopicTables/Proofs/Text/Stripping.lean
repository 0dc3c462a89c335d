import Mathlib.Data.List.DropRight
import Mathlib.Data.List.TakeWhile
import TopicTables.Text.Blank

/-! # What stripping leaves

Stripping deletes blanks before and behind what it leaves and nothing else, and blanks around a text
do not matter for what is left of it. A text is left as it is just where it has no blank at an end.
-/

namespace TopicTables.Text

variable {test : Char → Bool} {cs before after : List Char}

theorem dropEnd_eq_rdropWhile (test : Char → Bool) (cs : List Char) :
    dropEnd test cs = cs.rdropWhile test := rfl

/-- What is deleted at the end passes the test. -/
theorem exists_behind_dropEnd (test : Char → Bool) (cs : List Char) :
    ∃ after, cs = dropEnd test cs ++ after ∧ ∀ c ∈ after, test c = true :=
  ⟨cs.rtakeWhile test, (List.rdropWhile_append_rtakeWhile ..).symm,
    fun _ => List.mem_rtakeWhile_imp⟩

theorem dropEnd_eq_self_iff : dropEnd test cs = cs ↔ ∀ c ∈ cs.getLast?, test c = false := by
  rw [dropEnd_eq_rdropWhile, List.rdropWhile_eq_self_iff]
  cases cs using List.reverseRecOn with
  | nil => simp
  | append_singleton init last => simp

theorem getLast?_dropEnd : ∀ c ∈ (dropEnd test cs).getLast?, test c = false :=
  dropEnd_eq_self_iff.mp (List.rdropWhile_idempotent test cs)

/-- What is left of a text begins as the text does. -/
theorem head?_dropEnd {c : Char} (first : c ∈ (dropEnd test cs).head?) : c ∈ cs.head? := by
  obtain ⟨after, split, -⟩ := exists_behind_dropEnd test cs
  rw [split, List.head?_append, Option.mem_def.mp first]
  rfl

theorem dropEnd_append_of_forall (all : ∀ c ∈ after, test c = true) :
    dropEnd test (cs ++ after) = dropEnd test cs := by
  rw [dropEnd, List.reverse_append, List.dropWhile_append_of_pos (by simpa using all), dropEnd]

theorem stripBlanks_eq_nil_of_forall (all : ∀ c ∈ cs, isBlank c = true) : stripBlanks cs = [] := by
  rw [stripBlanks, List.dropWhile_eq_nil_iff.mpr all]
  rfl

/-- Only blanks are deleted, before what is left and behind it. -/
theorem exists_around_stripBlanks (cs : List Char) :
    ∃ before after, cs = before ++ (stripBlanks cs ++ after) ∧
      (∀ c ∈ before, isBlank c = true) ∧ ∀ c ∈ after, isBlank c = true := by
  refine ⟨cs.takeWhile isBlank, (cs.dropWhile isBlank).rtakeWhile isBlank, ?_,
    fun c => List.mem_takeWhile_imp, fun c => List.mem_rtakeWhile_imp⟩
  rw [stripBlanks, dropEnd_eq_rdropWhile, List.rdropWhile_append_rtakeWhile,
    List.takeWhile_append_dropWhile]

/-- Blanks around a text do not matter for what stripping leaves of it. -/
theorem stripBlanks_around (ahead : ∀ c ∈ before, isBlank c = true)
    (behind : ∀ c ∈ after, isBlank c = true) :
    stripBlanks (before ++ (cs ++ after)) = stripBlanks cs := by
  rw [stripBlanks, List.dropWhile_append_of_pos ahead, List.dropWhile_append]
  split
  · rename_i none
    rw [List.isEmpty_iff, List.dropWhile_eq_nil_iff] at none
    rw [List.dropWhile_eq_nil_iff.mpr behind, stripBlanks_eq_nil_of_forall none]
    rfl
  · rw [dropEnd_append_of_forall behind, stripBlanks]

theorem head?_stripBlanks : ∀ c ∈ (stripBlanks cs).head?, isBlank c = false := by
  intro c first
  have unblank := List.head?_dropWhile_not isBlank cs
  rw [Option.mem_def.mp (head?_dropEnd first)] at unblank
  simpa using unblank

theorem getLast?_stripBlanks : ∀ c ∈ (stripBlanks cs).getLast?, isBlank c = false :=
  getLast?_dropEnd

theorem stripBlanks_eq_self_iff :
    stripBlanks cs = cs ↔
      (∀ c ∈ cs.head?, isBlank c = false) ∧ ∀ c ∈ cs.getLast?, isBlank c = false := by
  constructor
  · intro same
    rw [← same]
    exact ⟨head?_stripBlanks, getLast?_stripBlanks⟩
  · rintro ⟨ahead, behind⟩
    have kept : cs.dropWhile isBlank = cs := by
      cases cs with
      | nil => rfl
      | cons first rest => exact List.dropWhile_cons_of_neg (by simp [ahead first rfl])
    rw [stripBlanks, kept]
    exact dropEnd_eq_self_iff.mpr behind

/-- Behind a character that is no blank, only the end is stripped. -/
theorem stripBlanks_append_of_unblank (unblank : ∃ c ∈ cs, isBlank c = false) (after : List Char) :
    stripBlanks (cs ++ after) = dropEnd isBlank (cs.dropWhile isBlank ++ after) := by
  have begun : ¬ (cs.dropWhile isBlank).isEmpty := by
    rw [List.isEmpty_iff, List.dropWhile_eq_nil_iff]
    simpa using unblank
  rw [stripBlanks, List.dropWhile_append, if_neg begun]

theorem sublist_stripBlanks (cs : List Char) : List.Sublist (stripBlanks cs) cs := by
  obtain ⟨before, after, split, -⟩ := exists_around_stripBlanks cs
  conv_rhs => rw [split]
  exact (List.sublist_append_left ..).trans (List.sublist_append_right ..)

theorem mem_of_mem_stripBlanks {c : Char} (member : c ∈ stripBlanks cs) : c ∈ cs :=
  (sublist_stripBlanks cs).subset member

end TopicTables.Text
