import Mathlib.Data.List.Nodup

/-! # Texts listed in order

A report of what is at fault lists texts in increasing order, each once. Such a list is told by which
texts are on it.
-/

namespace TopicTables.Text

/-- In order and each once, the list has just the texts of which the condition holds, and there are
some. -/
structure Lists (condition : String → Prop) (texts : List String) : Prop where
  some : texts ≠ []
  sorted : texts.Pairwise (· < ·)
  mem_iff : ∀ text, text ∈ texts ↔ condition text

theorem eq_of_sorted {texts texts' : List String} (sorted : texts.Pairwise (· < ·))
    (sorted' : texts'.Pairwise (· < ·)) (same : ∀ text, text ∈ texts ↔ text ∈ texts') :
    texts = texts' := by
  have perm : texts.Perm texts' :=
    (List.perm_ext_iff_of_nodup sorted.nodup sorted'.nodup).mpr same
  exact perm.eq_of_pairwise (fun _ _ _ _ less more => absurd more (String.lt_asymm less)) sorted
    sorted'

/-- A list in order is the one that has to be there where its texts are those that have to be. -/
theorem eq_iff_lists {condition : String → Prop} {found texts : List String}
    (sorted : found.Pairwise (· < ·)) (mem_iff : ∀ text, text ∈ found ↔ condition text)
    (some : texts ≠ []) : found = texts ↔ Lists condition texts := by
  constructor
  · rintro rfl
    exact ⟨some, sorted, mem_iff⟩
  · intro lists
    exact eq_of_sorted sorted lists.sorted fun text =>
      (mem_iff text).trans (lists.mem_iff text).symm

end TopicTables.Text
