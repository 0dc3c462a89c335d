import TopicTables.Proofs.CommandLine.Batch

/-! # Refused commands

Before a command does anything it is refused for a number of workers below one or for a pattern that
is none. A pattern whose reading breaks off is not refused: the command ends with what broke it off.
Either way nothing is done with the catalog.
-/

namespace TopicTables.CommandLine

inductive Reads : Command → Option String → Prop where
  | listTables (pattern : Option String) : Reads (.listTables pattern) pattern
  | describeTables (pattern : Option String) (all : Bool) {parallel : Int} (enough : 1 ≤ parallel) :
    Reads (.describeTables pattern all parallel) pattern

/-- A command that is refused, with what is said of it. -/
inductive Refused : Command → String → Prop where
  | parallel (pattern : Option String) (all : Bool) {parallel : Int} (few : parallel < 1) :
    Refused (.describeTables pattern all parallel) "--parallel must be >= 1"
  | pattern {command : Command} {text : String} {fault : Pattern.Fault}
    (reads : Reads command (some text)) (faulty : expressionOf (some text) = .error fault)
    (refusal : fault.isRefusal = true) :
    Refused command ("Invalid regex for --name: " ++ fault.message text)

variable {w : Workplace} {command : Command}

/-- A pattern is read before anything else is done. -/
theorem performBy_of_reads (resolve : Resolver) {pattern : Option String}
    (reads : Reads command pattern) :
    ∃ next : Option Pattern.Expression → Job Unit,
      performBy resolve w command = readPattern pattern >>= next := by
  cases reads with
  | listTables => exact ⟨_, loadSomeTopics_bind w pattern _⟩
  | describeTables _ all enough =>
    exact ⟨_, (if_neg (Int.not_lt.mpr enough)).trans (loadSomeTopics_bind w pattern _)⟩

/-- A refused command says why and ends as misused. -/
theorem performBy_of_refused (resolve : Resolver) {text : String} (refused : Refused command text) :
    performBy resolve w command = Job.die text misused := by
  cases refused with
  | parallel pattern all few => exact if_pos few
  | pattern reads faulty refusal =>
    obtain ⟨next, eq⟩ := performBy_of_reads (w := w) resolve reads
    rw [eq, readPattern_eq, faulty]
    simp only [refusePattern, refusal, if_true, Option.getD_some]
    exact Job.die_bind ..

theorem performBy_of_brokenOff (resolve : Resolver) {text : String} {fault : Pattern.Fault}
    (reads : Reads command (some text)) (faulty : expressionOf (some text) = .error fault)
    (unrefused : fault.isRefusal = false) :
    performBy resolve w command = throw (.escape (.pattern text fault)) := by
  obtain ⟨next, eq⟩ := performBy_of_reads (w := w) resolve reads
  rw [eq, readPattern_eq, faulty]
  simp only [refusePattern, unrefused]
  rfl

end TopicTables.CommandLine
