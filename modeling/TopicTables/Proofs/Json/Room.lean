import TopicTables.Json.Reader

/-! # Room for reading

A text that is read with room for some levels is read the same with room for more or fewer, unless
there are too few: then reading stops at the array or object that there is no room for, and for no
other reason.
-/

namespace TopicTables.Json

variable {α β : Type}

/-- Where the one reading comes to a value, the other comes to it too or has no room for it. -/
def Keeps (one other : Except Stop α) : Prop :=
  ∀ value, one = .ok value → other = .ok value ∨ ∃ kind, other = .error (.tooDeep kind)

theorem Keeps.refl (reading : Except Stop α) : Keeps reading reading :=
  fun _ reads => .inl reads

theorem Keeps.of_error (stop : Stop) (other : Except Stop α) : Keeps (.error stop) other :=
  fun _ reads => nomatch reads

theorem Keeps.tooDeep (one : Except Stop α) (kind : String) :
    Keeps one (.error (.tooDeep kind)) :=
  fun _ _ => .inr ⟨kind, rfl⟩

theorem Keeps.bind {one other : Except Stop α} {next after : α → Except Stop β}
    (first : Keeps one other) (second : ∀ value, Keeps (next value) (after value)) :
    Keeps (one >>= next) (other >>= after) := by
  cases one with
  | error stop => exact .of_error stop _
  | ok value =>
    obtain reads | ⟨kind, deep⟩ := first value rfl
    · rw [reads]
      exact second value
    · rw [deep]
      exact .tooDeep _ kind

theorem Keeps.map {one other : Except Stop α} (keeps : Keeps one other) (f : α → β) :
    Keeps (one.map f) (other.map f) := by
  cases one with
  | error stop => exact .of_error stop _
  | ok value =>
    obtain reads | ⟨kind, deep⟩ := keeps value rfl
    · rw [reads]
      exact .refl _
    · rw [deep]
      exact .tooDeep _ kind

/-- What is kept of values, members and items when they are read with room for some levels and for
others, with one bound on the work. -/
structure KeepsAll (bound depth depth' : Nat) : Prop where
  value : ∀ cs, Keeps (takeValue bound depth cs) (takeValue bound depth' cs)
  members : ∀ known cs,
    Keeps (takeMembers bound depth known cs) (takeMembers bound depth' known cs)
  items : ∀ cs, Keeps (takeItems bound depth cs) (takeItems bound depth' cs)

variable {bound : Nat} (keeps : ∀ depth depth', KeepsAll bound depth depth')
include keeps

theorem keeps_takeValue (depth depth' : Nat) (cs : List Char) :
    Keeps (takeValue (bound + 1) depth cs) (takeValue (bound + 1) depth' cs) := by
  unfold takeValue
  split
  · exact .refl _
  · cases depth with
    | zero => exact .of_error _ _
    | succ depth =>
      cases depth' with
      | zero => exact .tooDeep _ "object"
      | succ depth' =>
        simp only
        split
        · exact .refl _
        · exact ((keeps depth depth').members _ _).map _
  · cases depth with
    | zero => exact .of_error _ _
    | succ depth =>
      cases depth' with
      | zero => exact .tooDeep _ "array"
      | succ depth' =>
        simp only
        split
        · exact .refl _
        · exact ((keeps depth depth').items _).map _
  · exact .refl _

theorem keeps_takeMembers (depth depth' : Nat) (known : List (String × Json)) (cs : List Char) :
    Keeps (takeMembers (bound + 1) depth known cs) (takeMembers (bound + 1) depth' known cs) := by
  unfold takeMembers
  split
  · refine .bind (.refl _) fun (key, afterKey) => ?_
    simp only
    split
    · refine .bind ((keeps depth depth').value _) fun (value, afterValue) => ?_
      simp only
      split
      · exact .refl _
      · exact (keeps depth depth').members _ _
      · exact .refl _
    · exact .refl _
  · exact .refl _

theorem keeps_takeItems (depth depth' : Nat) (cs : List Char) :
    Keeps (takeItems (bound + 1) depth cs) (takeItems (bound + 1) depth' cs) := by
  unfold takeItems
  refine .bind ((keeps depth depth').value _) fun (item, afterItem) => ?_
  simp only
  split
  · exact .refl _
  · exact .bind ((keeps depth depth').items _) fun _ => .refl _
  · exact .refl _

omit keeps

theorem keepsAll (bound depth depth' : Nat) : KeepsAll bound depth depth' := by
  induction bound generalizing depth depth' with
  | zero =>
    exact ⟨fun _ => .of_error _ _, fun _ _ => .of_error _ _, fun _ => .of_error _ _⟩
  | succ bound ih =>
    exact ⟨keeps_takeValue ih depth depth', keeps_takeMembers ih depth depth',
      keeps_takeItems ih depth depth'⟩

/-- With other room a text comes to the same value, or there is too little room. -/
theorem read_of_room {depth : Nat} {s : String} {value : Json} (reads : read depth s = .ok value)
    (depth' : Nat) :
    read depth' s = .ok value ∨ ∃ kind, read depth' s = .error (.tooDeep kind) := by
  have keeps : Keeps (takeText depth s.toList) (takeText depth' s.toList) := by
    unfold takeText
    split
    · exact .refl _
    · exact .bind ((keepsAll _ depth depth').value _) fun _ => .refl _
  unfold read at reads ⊢
  cases taken : takeText depth s.toList with
  | error stop =>
    rw [taken] at reads
    cases reads
  | ok other =>
    rw [taken] at reads
    obtain same | ⟨kind, deep⟩ := keeps other taken
    · rw [same]
      exact .inl reads
    · rw [deep]
      exact .inr ⟨kind, rfl⟩

end TopicTables.Json
