/-! # Results of parts

A part that may fail ends well or ends in an error. When a result made from parts is known, these
lemmas tell what the parts gave.
-/

namespace TopicTables.Results

variable {ε ε' α β : Type}

@[simp] theorem mapError_ok (f : ε → ε') (value : α) :
    (Except.ok value).mapError f = .ok value := rfl

@[simp] theorem mapError_error (f : ε → ε') (error : ε) :
    (Except.error error : Except ε α).mapError f = .error (f error) := rfl

theorem map_eq_ok_iff {f : α → β} {result : Except ε α} {value : β} :
    result.map f = .ok value ↔ ∃ inner, result = .ok inner ∧ f inner = value := by
  cases result <;> simp [Except.map]

theorem mapError_eq_ok_iff {f : ε → ε'} {result : Except ε α} {value : α} :
    result.mapError f = .ok value ↔ result = .ok value := by
  cases result <;> simp

theorem mapError_eq_error_iff {f : ε → ε'} {result : Except ε α} {error : ε'} :
    result.mapError f = .error error ↔ ∃ inner, result = .error inner ∧ f inner = error := by
  cases result <;> simp

theorem bind_eq_ok_iff {result : Except ε α} {next : α → Except ε β} {value : β} :
    (result >>= next) = .ok value ↔ ∃ inner, result = .ok inner ∧ next inner = .ok value := by
  cases result <;> simp [Bind.bind, Except.bind]

theorem bind_eq_error_iff {result : Except ε α} {next : α → Except ε β} {error : ε} :
    (result >>= next) = .error error ↔
      result = .error error ∨ ∃ inner, result = .ok inner ∧ next inner = .error error := by
  cases result <;> simp [Bind.bind, Except.bind]

/-- A walk over a list fails at the first item that fails behind those before it. -/
theorem foldlM_eq_error_iff {step : β → α → Except ε β} {items : List α} {start : β} {error : ε} :
    items.foldlM step start = .error error ↔
      ∃ before item after reached, items = before ++ item :: after ∧
        before.foldlM step start = .ok reached ∧ step reached item = .error error := by
  induction items generalizing start with
  | nil => simp [pure, Except.pure]
  | cons item rest ih =>
    rw [List.foldlM_cons, bind_eq_error_iff]
    constructor
    · rintro (failed | ⟨next, stepped, failed⟩)
      · exact ⟨[], item, rest, start, rfl, rfl, failed⟩
      · obtain ⟨before, bad, after, reached, rfl, walked, failed⟩ := ih.mp failed
        exact ⟨item :: before, bad, after, reached, rfl,
          bind_eq_ok_iff.mpr ⟨next, stepped, walked⟩, failed⟩
    · rintro ⟨before, bad, after, reached, split, walked, failed⟩
      cases before with
      | nil =>
        cases split
        cases walked
        exact .inl failed
      | cons first before =>
        cases split
        obtain ⟨next, stepped, walked⟩ := bind_eq_ok_iff.mp walked
        exact .inr ⟨next, stepped, ih.mpr ⟨before, bad, after, reached, rfl, walked, failed⟩⟩

/-- The results are the same, where one of them is good. -/
def Agree (result result' : Except ε α) : Prop :=
  ∀ value, result = .ok value ↔ result' = .ok value

theorem Agree.refl (result : Except ε α) : Agree result result :=
  fun _ => .rfl

theorem Agree.errors (error error' : ε) : Agree (.error error : Except ε α) (.error error') :=
  fun _ => by simp

theorem Agree.bind {result result' : Except ε α} {next next' : α → Except ε β}
    (first : Agree result result') (later : ∀ value, Agree (next value) (next' value)) :
    Agree (result >>= next) (result' >>= next') := by
  intro value
  simp only [bind_eq_ok_iff, first _, later _ _]

theorem Agree.map {result result' : Except ε α} (f : α → β) (agree : Agree result result') :
    Agree (result.map f) (result'.map f) := by
  intro value
  simp only [map_eq_ok_iff, agree _]

/-- Both results are errors, or both are good with values in a relation. -/
inductive Rel (R : α → β → Prop) : Except ε α → Except ε' β → Prop
  | error (error : ε) (error' : ε') : Rel R (.error error) (.error error')
  | ok {value : α} {value' : β} : R value value' → Rel R (.ok value) (.ok value')

theorem Agree.rel {result result' : Except ε α} {R : α → α → Prop} (agree : Agree result result')
    (refl : ∀ value, R value value) : Rel R result result' := by
  cases result with
  | ok value =>
    rw [(agree value).mp rfl]
    exact .ok (refl value)
  | error =>
    cases result' with
    | ok value => exact absurd ((agree value).mpr rfl) (fun failed => nomatch failed)
    | error => exact .error _ _

end TopicTables.Results
