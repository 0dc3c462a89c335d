import TopicTables.Proofs.CommandLine.Jobs

/-! # What a job presents

A job whose course is told hands certain displays to the console, one after another, and then ends
in a certain way. Where the console raises at one of them, the job ends with that instead, and only
what came before is shown. The rules here put such accounts together step by step.
-/

namespace TopicTables

namespace Console

/-- What becomes of displays that are handed over: those that are shown, and what is raised at the
first that is not. -/
structure Handed where
  shown : List Display
  fault : Option ConsoleFault
deriving DecidableEq

/-- Hand displays over one after another, behind others, until the console raises. -/
def handed (console : Console) (before : List Display) : List Display → Handed
  | [] => ⟨[], none⟩
  | display :: rest =>
    match console.fault? before display with
    | some fault => ⟨[], some fault⟩
    | none =>
      let later := console.handed (before ++ [display]) rest
      ⟨display :: later.shown, later.fault⟩

/-- The console shows all of the displays, one after another. -/
def Takes (console : Console) (displays : List Display) : Prop :=
  (console.handed [] displays).fault = none

instance (console : Console) (displays : List Display) : Decidable (console.Takes displays) :=
  inferInstanceAs (Decidable (_ = _))

variable {console : Console} {before early late displays : List Display} {fault : ConsoleFault}

theorem handed_append (taken : (console.handed before early).fault = none) :
    console.handed before (early ++ late) =
      ⟨early ++ (console.handed (before ++ early) late).shown,
        (console.handed (before ++ early) late).fault⟩ := by
  induction early generalizing before with
  | nil => simp
  | cons display rest ih =>
    rw [handed] at taken
    rw [List.cons_append, handed]
    cases raised : console.fault? before display with
    | some fault => simp [raised] at taken
    | none =>
      simp only [raised] at taken
      simp [ih taken]

theorem shown_handed (taken : (console.handed before displays).fault = none) :
    (console.handed before displays).shown = displays := by
  have all := @handed_append console before displays [] taken
  rw [List.append_nil] at all
  rw [all, handed, List.append_nil]

/-- The console raises just where it takes all that comes before and not the display that is next. -/
theorem fault_handed_eq_some_iff :
    (console.handed before displays).fault = some fault ↔
      ∃ early display late, displays = early ++ display :: late ∧
        console.handed before displays = ⟨early, some fault⟩ ∧
        console.fault? (before ++ early) display = some fault := by
  constructor
  · intro raises
    induction displays generalizing before with
    | nil => cases raises
    | cons display rest ih =>
      rw [handed] at raises ⊢
      cases raised : console.fault? before display with
      | some other =>
        simp only [raised, Option.some.injEq] at raises
        subst raises
        exact ⟨[], display, rest, rfl, rfl, by rwa [List.append_nil]⟩
      | none =>
        simp only [raised] at raises
        obtain ⟨early, next, late, rfl, stops, faulty⟩ := ih raises
        refine ⟨display :: early, next, late, rfl, ?_, ?_⟩
        · simp only [stops]
        · rwa [List.append_cons]
  · rintro ⟨_, _, _, -, stops, -⟩
    rw [stops]

theorem subset_handed (console : Console) (before displays : List Display) :
    (console.handed before displays).shown ⊆ displays := by
  induction displays generalizing before with
  | nil => exact List.Subset.refl _
  | cons display rest ih =>
    rw [handed]
    cases console.fault? before display with
    | some fault => exact List.nil_subset _
    | none => exact List.cons_subset_cons _ (ih _)

/-- A display that is handed over once is shown just when the console takes all up to it. -/
theorem mem_shown_handed_iff {display : Display} (once : display ∉ early) :
    display ∈ (console.handed before (early ++ display :: late)).shown ↔
      (console.handed before (early ++ [display])).fault = none := by
  induction early generalizing before with
  | nil =>
    rw [List.nil_append, List.nil_append, handed, handed]
    cases console.fault? before display <;> simp [handed]
  | cons other rest ih =>
    rw [List.mem_cons, not_or] at once
    obtain ⟨differs, once⟩ := once
    rw [List.cons_append, List.cons_append, handed, handed]
    cases console.fault? before other with
    | some fault => simp
    | none => simp [differs, ih once]

theorem handed_showingAll (before displays : List Display) :
    showingAll.handed before displays = ⟨displays, none⟩ := by
  induction displays generalizing before with
  | nil => rfl
  | cons display rest ih =>
    have taken : showingAll.fault? before display = none := by
      cases display <;> rfl
    rw [handed, taken]
    simp only [ih]

end Console

namespace CommandLine

/-- How a program ends that would end in some way, when the console may have raised before. -/
def Ending.unless (ending : Ending) : Option ConsoleFault → Ending
  | none => ending
  | some fault => .escape (.console fault)

/-- A run hands displays to the console and then ends in a way. -/
structure Run.Presents (run : Run) (console : Console) (ending : Ending)
    (displays : List Display) : Prop where
  ending : run.ending = ending.unless (console.handed [] displays).fault
  shown : run.shown = (console.handed [] displays).shown

/-- What the console raises counts as a failure. -/
theorem Run.Presents.exitCode_eq_iff {run : Run} {console : Console} {code : Nat}
    {displays : List Display} (presents : run.Presents console (.exit code) displays)
    {other : Nat} (unfailed : other ≠ failed) :
    run.exitCode = other ↔ console.Takes displays ∧ code = other := by
  rw [Run.exitCode, presents.ending, Console.Takes]
  cases (console.handed [] displays).fault with
  | none => simp [Ending.unless]
  | some fault => simp [Ending.unless, unfailed.symm]

/-- Either everything is shown and the run ends as it would, or it ends with what the console raises
at the first thing that it does not show. -/
theorem Run.Presents.cases {run : Run} {console : Console} {ending : Ending}
    {displays : List Display} (presents : run.Presents console ending displays) :
    (console.Takes displays ∧ run.ending = ending ∧ run.shown = displays) ∨
      ∃ early display late fault, displays = early ++ display :: late ∧
        console.fault? early display = some fault ∧ run.ending = .escape (.console fault) ∧
        run.shown = early := by
  obtain ⟨ends, shows⟩ := presents
  cases raised : (console.handed [] displays).fault with
  | none =>
    rw [raised] at ends
    exact .inl ⟨raised, ends, shows.trans (Console.shown_handed raised)⟩
  | some fault =>
    obtain ⟨early, display, late, split, stops, faulty⟩ :=
      Console.fault_handed_eq_some_iff.mp raised
    rw [stops] at ends shows
    exact .inr ⟨early, display, late, fault, split, faulty, ends, shows⟩

theorem Run.Presents.ending_of_succeeded {run : Run} {console : Console} {ending : Ending}
    {displays : List Display} (presents : run.Presents console ending displays)
    (succeeds : run.exitCode = succeeded) : ending = .exit succeeded := by
  obtain ⟨-, ends, -⟩ | ⟨_, _, _, fault, -, -, ends, -⟩ := presents.cases
  · rw [Run.exitCode, ends] at succeeds
    cases ending with
    | exit code => exact congrArg Ending.exit succeeds
    | escape escape => cases succeeds
  · rw [Run.exitCode, ends] at succeeds
    cases succeeds

namespace Job

/-- At a desk the job hands displays to the console and then ends in a way. -/
structure Presents (job : Job Unit) (desk : Desk) (ending : Ending) (displays : List Display) :
    Prop where
  ending : Ending.ofResult (job.runAt desk).1 =
    ending.unless (desk.console.handed desk.shown displays).fault
  shown : (job.runAt desk).2.shown =
    desk.shown ++ (desk.console.handed desk.shown displays).shown

variable {α : Type} {desk between : Desk} {ending : Ending} {early late : List Display}

section
variable {job : Job α} {next : α → Job Unit}

/-- A job that is known to be shown as a whole comes first. -/
theorem Presents.bind {value : α} (first : job.runAt desk = (.ok value, between))
    (console : between.console = desk.console) (shown : between.shown = desk.shown ++ early)
    (taken : (desk.console.handed desk.shown early).fault = none)
    (second : (next value).Presents between ending late) :
    (job >>= next).Presents desk ending (early ++ late) := by
  obtain ⟨ends, shows⟩ := second
  rw [console, shown] at ends shows
  constructor
  · rw [runAt_bind_of_ok first, Console.handed_append taken, ends]
  · rw [runAt_bind_of_ok first, Console.handed_append taken, shows, List.append_assoc]

/-- The first of two jobs shows nothing. -/
theorem Presents.bind_quiet {value : α} (first : job.runAt desk = (.ok value, between))
    (console : between.console = desk.console) (shown : between.shown = desk.shown)
    (second : (next value).Presents between ending late) :
    (job >>= next).Presents desk ending late :=
  .bind first console (shown.trans (List.append_nil _).symm) rfl second

end

theorem Presents.bind_display {next : Unit → Job Unit} (shown : Display)
    (second : (next ()).Presents (desk.showing [shown]) ending late) :
    (display shown >>= next).Presents desk ending (shown :: late) := by
  have displays := runAt_display desk shown
  cases raised : desk.console.fault? desk.shown shown with
  | some fault =>
    simp only [raised] at displays
    constructor
    · rw [runAt_bind_of_error displays, Console.handed, raised]
      rfl
    · rw [runAt_bind_of_error displays, Console.handed, raised]
      exact (List.append_nil _).symm
  | none =>
    simp only [raised] at displays
    have taken : (desk.console.handed desk.shown [shown]).fault = none := by
      simp [Console.handed, raised]
    exact .bind displays rfl rfl taken second

/-- A spinner is shown around something that shows nothing itself. -/
theorem Presents.bind_whileWorking {job : Job α} {next : α → Job Unit} {value : α} (text : String)
    (works : job.runAt (desk.showing [.working text]) = (.ok value, between))
    (console : between.console = desk.console)
    (shown : between.shown = desk.shown ++ [.working text])
    (second : (next value).Presents (between.showing [.workDone]) ending late) :
    (whileWorking text job >>= next).Presents desk ending
      (.working text :: .workDone :: late) := by
  simp only [whileWorking, bind_assoc]
  refine .bind_display _ (.bind_quiet works console shown ?_)
  exact .bind_display _ (.bind_quiet (runAt_pure _ value) rfl rfl second)

theorem presents_throw (desk : Desk) (ending : Ending) :
    (throw ending : Job Unit).Presents desk ending [] :=
  ⟨rfl, (List.append_nil _).symm⟩

theorem presents_pure (desk : Desk) : (pure () : Job Unit).Presents desk (.exit succeeded) [] :=
  ⟨rfl, (List.append_nil _).symm⟩

theorem presents_display (desk : Desk) (shown : Display) :
    (display shown).Presents desk (.exit succeeded) [shown] := by
  rw [← bind_pure (display shown)]
  exact .bind_display shown (presents_pure _)

theorem presents_showAll (desk : Desk) (displays : List Display) :
    (showAll displays).Presents desk (.exit succeeded) displays := by
  induction displays generalizing desk with
  | nil => exact presents_pure desk
  | cons shown others ih =>
    rw [showAll_cons]
    exact .bind_display shown (ih _)

theorem presents_die (desk : Desk) (text : String) (code : Nat) :
    (die text code : Job Unit).Presents desk (.exit code) [.error text] :=
  .bind_display _ (presents_throw _ _)

theorem presents_warnAndExit (desk : Desk) (text : String) :
    (warnAndExit text : Job Unit).Presents desk (.exit succeeded) [.warning text] :=
  .bind_display _ (presents_throw _ _)

end Job

end CommandLine

end TopicTables
