import TopicTables.Proofs.Catalog.Parts
import TopicTables.Proofs.Session.Reopening

/-! # Look-ups in a world that stays as it is

While the world stays as it is, what a look-up comes to is settled before it begins, however many
others open the session in between. Each look-up passes one opening, its own or one that would do
nothing any more, and asks the registry once where it gets that far. So the session and the calls
behind any number of look-ups are told by how many openings were passed.
-/

namespace TopicTables.Catalog
open TopicTables.Action TopicTables.Session
open scoped List

variable {Listing : Type}

inductive Progress where
  | next (part : Part)
  | ended (result : Except Failure Table)

namespace Progress

def behind : Except Failure (Part ⊕ Table) → Progress
  | .error failure => .ended (.error failure)
  | .ok (.inl part) => .next part
  | .ok (.inr table) => .ended (.ok table)

/-- How many parts a look-up has still to do at most. -/
def rank : Progress → Nat
  | next part => part.rank
  | ended _ => 0

theorem rank_behind_lt (config : Config) (services : Services Listing) (path : Path) (part : Part)
    (session : Session) :
    (behind ((part.act config services path).run session).result).rank < (next part).rank := by
  cases led : ((part.act config services path).run session).result with
  | error failure => exact part.rank_pos
  | ok reached =>
    cases reached with
    | inl next => exact Part.rank_lt led
    | inr table => exact part.rank_pos

end Progress

section
variable (config : Config) (services : Services Listing) (start : Session) (path : Path)

/-- What a look-up comes to, told by the session before the first one. -/
def settled : Except Failure Table :=
  if isResolvable config path then
    let opening := (openMissing services).run start
    match opening.result, opening.session.registry with
    | .error failure, _ => .error failure
    | .ok (), none => .error .registryNotOpen
    | .ok (), some _ =>
      (columnsAt config services path).map (assemble services start.servers path.object)
  else .error (.tableNotFound config.catalogName path)

def questions : List Call :=
  if isResolvable config path then
    let opening := (openMissing services).run start
    match opening.result, opening.session.registry with
    | .ok (), some _ => (services.latestSchema path.object).trace.calls
    | _, _ => []
  else []

def passes : Nat :=
  if isResolvable config path then 1 else 0

/-- How many openings a look-up has passed where it stands. -/
def Progress.passed : Progress → Nat
  | .next .begins => 0
  | .next (.usesRegistry .looks) => 0
  | .next (.usesRegistry .opens) => 0
  | .next _ => 1
  | .ended _ => passes config path

/-- The calls with which a look-up has asked the registry where it stands. -/
def Progress.asked : Progress → List Call
  | .next (.usesBroker _ _) => questions config services start path
  | .next _ => []
  | .ended _ => questions config services start path

/-- The places where a look-up can stand, with what led there. -/
inductive Fits : Progress → Prop where
  | begins : Fits (.next .begins)
  | looks (resolvable : isResolvable config path = true) : Fits (.next (.usesRegistry .looks))
  | opens (resolvable : isResolvable config path = true) : Fits (.next (.usesRegistry .opens))
  | looksAgain (resolvable : isResolvable config path = true)
      (opened : ((openMissing services).run start).result = .ok ()) :
      Fits (.next (.usesRegistry .looksAgain))
  | asks (resolvable : isResolvable config path = true)
      (opened : ((openMissing services).run start).result = .ok ())
      (held : ((openMissing services).run start).session.registry.isSome = true) :
      Fits (.next .asks)
  | usesBroker {columns : Columns} (resolvable : isResolvable config path = true)
      (opened : ((openMissing services).run start).result = .ok ())
      (held : ((openMissing services).run start).session.registry.isSome = true)
      (found : columnsAt config services path = .ok columns) :
      Fits (.next (.usesBroker columns .looks))
  | ended : Fits (.ended (settled config services start path))

/-- A look-up goes on in a session opened some times before: it passes some openings more, asks
something new, and leaves the session as that many openings do. -/
structure Advances (progress behind : Progress) (times : Nat) (after : Session) (calls : List Call)
    (more : Nat) (new : List Call) : Prop where
  fits : Fits config services start path behind
  passed : behind.passed config path = progress.passed config path + more
  asked : behind.asked config services start path =
    progress.asked config services start path ++ new
  session : after = reopened services start (times + more)
  calls : (reopeningCalls services start times ++ calls).Perm
    (reopeningCalls services start (times + more) ++ new)

/-- A part of a look-up, done in a session opened some times before, leads on. -/
def LeadsOn (part : Part) (times : Nat) : Prop :=
  let outcome := (part.act config services path).run (reopened services start times)
  ∃ more new, Advances config services start path (.next part) (.behind outcome.result) times
    outcome.session outcome.trace.calls more new

end

variable {config : Config} {services : Services Listing} {start : Session} {path : Path}

theorem settled_of_unresolvable (unresolvable : isResolvable config path = false) :
    settled config services start path = .error (.tableNotFound config.catalogName path) := by
  simp [settled, unresolvable]

theorem settled_of_failed {failure : Failure} (resolvable : isResolvable config path = true)
    (failed : ((openMissing services).run start).result = .error failure) :
    settled config services start path = .error failure ∧
      questions config services start path = [] := by
  simp [settled, questions, resolvable, failed]

theorem settled_of_absent (resolvable : isResolvable config path = true)
    (opened : ((openMissing services).run start).result = .ok ())
    (absent : ((openMissing services).run start).session.registry = none) :
    settled config services start path = .error .registryNotOpen ∧
      questions config services start path = [] := by
  simp [settled, questions, resolvable, opened, absent]

theorem settled_of_held (resolvable : isResolvable config path = true)
    (opened : ((openMissing services).run start).result = .ok ())
    (held : ((openMissing services).run start).session.registry.isSome = true) :
    settled config services start path =
        (columnsAt config services path).map (assemble services start.servers path.object) ∧
      questions config services start path = (services.latestSchema path.object).trace.calls := by
  obtain ⟨number, held⟩ := Option.isSome_iff_exists.mp held
  simp [settled, questions, resolvable, opened, held]

theorem Fits.result_eq {result : Except Failure Table}
    (fits : Fits config services start path (.ended result)) :
    result = settled config services start path := by
  cases fits
  rfl

/-- A look-up that ends as settled has passed and asked all that it will. -/
theorem Advances.of_ended {progress : Progress} {result : Except Failure Table} {times more : Nat}
    {after : Session} {calls new : List Call} (ends : settled config services start path = result)
    (passed : passes config path = progress.passed config path + more)
    (asked : questions config services start path =
      progress.asked config services start path ++ new)
    (session : after = reopened services start (times + more))
    (called : (reopeningCalls services start times ++ calls).Perm
      (reopeningCalls services start (times + more) ++ new)) :
    Advances config services start path progress (.ended result) times after calls more new :=
  ⟨ends ▸ .ended, passed, asked, session, called⟩

section
variable {times : Nat}

theorem leadsOn_begins : LeadsOn config services start path .begins times := by
  unfold LeadsOn
  intro outcome
  cases resolvable : isResolvable config path with
  | true =>
    have run : outcome = _ := Part.run_begins_of_resolvable resolvable
    rw [run]
    exact ⟨0, [], .looks resolvable, rfl, rfl, rfl, .refl _⟩
  | false =>
    have run : outcome = _ := Part.run_begins_of_unresolvable resolvable
    rw [run]
    refine ⟨0, [], .of_ended (settled_of_unresolvable resolvable) ?_ ?_ rfl (.refl _)⟩
    · simp [passes, resolvable, Progress.passed]
    · simp [questions, resolvable, Progress.asked]

theorem leadsOn_looks (paired : start.Paired) (steady : services.Steady)
    (resolvable : isResolvable config path = true) :
    LeadsOn config services start path (.usesRegistry .looks) times := by
  unfold LeadsOn
  intro outcome
  have run : outcome = _ := Part.run_usesRegistry .looks
  cases found : (reopened services start times).held .registry with
  | none =>
    rw [run, Use.run_looks_of_absent found]
    exact ⟨0, [], .opens resolvable, rfl, rfl, rfl, .refl _⟩
  | some number =>
    have held : (reopened services start times).registry.isSome = true :=
      Option.isSome_iff_exists.mpr ⟨number, found⟩
    have idle := reopened_of_registry paired held
    have repeats := reopened_repeats steady start times
    rw [idle] at repeats
    have same : reopened services start (times + 1) = reopened services start times := by
      rw [reopened, idle]
    have quiet : reopeningCalls services start (times + 1) =
        reopeningCalls services start times := by
      rw [reopeningCalls, idle, Trace.calls_nil, List.append_nil]
    rw [run, Use.run_looks_of_held found]
    refine ⟨1, [], .asks resolvable repeats.result.symm ?_, rfl, rfl, same.symm, ?_⟩
    · have firstHeld := repeats.held .registry
      rw [found] at firstHeld
      exact Option.isSome_iff_exists.mpr ⟨number, firstHeld.symm⟩
    · rw [quiet]
      exact .refl _

theorem leadsOn_opens (steady : services.Steady) (resolvable : isResolvable config path = true) :
    LeadsOn config services start path (.usesRegistry .opens) times := by
  unfold LeadsOn
  intro outcome
  have run : outcome = _ := Part.run_usesRegistry .opens
  rw [Use.run_opens, (reopened_repeats steady start times).result] at run
  rw [run]
  have calls : (reopeningCalls services start times ++
      ((openMissing services).run (reopened services start times)).trace.calls).Perm
        (reopeningCalls services start (times + 1) ++ []) := by
    rw [List.append_nil]
    exact .refl _
  cases opened : ((openMissing services).run start).result with
  | error failure =>
    obtain ⟨ends, asksNothing⟩ := settled_of_failed resolvable opened
    refine ⟨1, [], .of_ended ends ?_ asksNothing rfl calls⟩
    simp [passes, resolvable, Progress.passed]
  | ok _ => exact ⟨1, [], .looksAgain resolvable opened, rfl, rfl, rfl, calls⟩

theorem leadsOn_looksAgain (steady : services.Steady)
    (resolvable : isResolvable config path = true)
    (opened : ((openMissing services).run start).result = .ok ()) :
    LeadsOn config services start path (.usesRegistry .looksAgain) (times + 1) := by
  unfold LeadsOn
  intro outcome
  have run : outcome = _ := Part.run_usesRegistry .looksAgain
  have same : (reopened services start (times + 1)).held .registry =
      ((openMissing services).run start).session.registry :=
    (reopened_repeats steady start times).held .registry
  cases found : ((openMissing services).run start).session.registry with
  | none =>
    rw [run, Use.run_looksAgain_of_absent (same.trans found)]
    obtain ⟨ends, asksNothing⟩ := settled_of_absent resolvable opened found
    refine ⟨0, [], .of_ended ends ?_ asksNothing rfl (.refl _)⟩
    simp [passes, resolvable, Progress.passed]
  | some number =>
    rw [run, Use.run_looksAgain_of_held (same.trans found)]
    exact ⟨0, [], .asks resolvable opened (by simp [found]), rfl, rfl, rfl, .refl _⟩

theorem leadsOn_asks (resolvable : isResolvable config path = true)
    (opened : ((openMissing services).run start).result = .ok ())
    (held : ((openMissing services).run start).session.registry.isSome = true) :
    LeadsOn config services start path .asks times := by
  unfold LeadsOn
  intro outcome
  have run : outcome = _ := Part.run_asks
  obtain ⟨ends, asked⟩ := settled_of_held resolvable opened held
  have calls : outcome.trace.calls = questions config services start path :=
    Part.calls_asks.trans asked.symm
  refine ⟨0, questions config services start path, ?_⟩
  rw [calls, run]
  cases found : columnsAt config services path with
  | error failure =>
    rw [found] at ends
    refine .of_ended ends ?_ rfl rfl (.refl _)
    simp [passes, resolvable, Progress.passed]
  | ok columns => exact ⟨.usesBroker resolvable opened held found, rfl, rfl, rfl, .refl _⟩

theorem leadsOn_usesBroker (paired : start.Paired) (steady : services.Steady) {columns : Columns}
    (resolvable : isResolvable config path = true)
    (opened : ((openMissing services).run start).result = .ok ())
    (held : ((openMissing services).run start).session.registry.isSome = true)
    (found : columnsAt config services path = .ok columns) :
    LeadsOn config services start path (.usesBroker columns .looks) (times + 1) := by
  unfold LeadsOn
  intro outcome
  have run : outcome = _ := Part.run_usesBroker columns .looks
  obtain ⟨number, brokerHeld⟩ :=
    Option.isSome_iff_exists.mp (keeps_paired_openMissing start paired held)
  have there : (reopened services start (times + 1)).held .broker = some number :=
    ((reopened_repeats steady start times).held .broker).trans brokerHeld
  obtain ⟨ends, -⟩ := settled_of_held resolvable opened held
  rw [found] at ends
  rw [run, Use.run_looks_of_held there, servers_reopened]
  refine ⟨0, [], .of_ended ends ?_ (List.append_nil _).symm rfl (.refl _)⟩
  simp [passes, resolvable, Progress.passed]

end

/-- A look-up goes on wherever it stands, if the openings that it has passed are among those before.
-/
theorem Fits.leadsOn {part : Part} (fits : Fits config services start path (.next part))
    (steady : services.Steady) (paired : start.Paired) {times : Nat}
    (enough : (Progress.next part).passed config path ≤ times) :
    LeadsOn config services start path part times := by
  cases fits with
  | begins => exact leadsOn_begins
  | looks resolvable => exact leadsOn_looks paired steady resolvable
  | opens resolvable => exact leadsOn_opens steady resolvable
  | looksAgain resolvable opened =>
    obtain ⟨times, rfl⟩ := Nat.exists_eq_add_of_le' enough
    exact leadsOn_looksAgain steady resolvable opened
  | asks resolvable opened held => exact leadsOn_asks resolvable opened held
  | usesBroker resolvable opened held found =>
    obtain ⟨times, rfl⟩ := Nat.exists_eq_add_of_le' enough
    exact leadsOn_usesBroker paired steady resolvable opened held found

theorem append_swap_perm {α : Type} (front first second : List α) :
    (front ++ first ++ second).Perm (front ++ second ++ first) := by
  rw [List.append_assoc, List.append_assoc]
  exact List.perm_append_comm.append_left front

/-- What is owed moves to the end over two stretches as over one. -/
theorem append_perm_trans {α : Type} {early middle late first second new newer : List α}
    (one : early ++ first ~ middle ++ new) (two : middle ++ second ~ late ++ newer) :
    early ++ (first ++ second) ~ late ++ (new ++ newer) :=
  calc early ++ (first ++ second)
    _ = early ++ first ++ second := (List.append_assoc ..).symm
    _ ~ middle ++ new ++ second := one.append_right second
    _ ~ middle ++ second ++ new := append_swap_perm ..
    _ ~ late ++ newer ++ new := two.append_right new
    _ ~ late ++ new ++ newer := append_swap_perm ..
    _ = late ++ (new ++ newer) := List.append_assoc ..

theorem Advances.trans {before between after : Progress} {times : Nat} {middle last : Session}
    {calls further : List Call} {more again : Nat} {new newer : List Call}
    (first : Advances config services start path before between times middle calls more new)
    (second : Advances config services start path between after (times + more) last further again
      newer) :
    Advances config services start path before after times last (calls ++ further) (more + again)
      (new ++ newer) where
  fits := second.fits
  passed := by rw [second.passed, first.passed, Nat.add_assoc]
  asked := by rw [second.asked, first.asked, List.append_assoc]
  session := by rw [second.session, Nat.add_assoc]
  calls := by
    rw [← Nat.add_assoc]
    exact append_perm_trans first.calls second.calls

/-- The rest of a look-up, done without interruption, comes to what is settled. -/
theorem Fits.finishes {part : Part} (fits : Fits config services start path (.next part))
    (steady : services.Steady) (paired : start.Paired) {times : Nat}
    (enough : (Progress.next part).passed config path ≤ times) :
    let outcome := (part.rest config services path).run (reopened services start times)
    ∃ more new, Advances config services start path (.next part) (.ended outcome.result) times
      outcome.session outcome.trace.calls more new := by
  intro outcome
  obtain ⟨more, new, advances⟩ := fits.leadsOn steady paired enough
  have split : outcome = _ := congrFun (Part.rest_eq config services path part) _
  cases led : ((part.act config services path).run (reopened services start times)).result with
  | error failure =>
    have run : outcome = _ := split.trans (run_bind_of_error led)
    rw [led] at advances
    rw [run]
    exact ⟨more, new, advances⟩
  | ok reached =>
    have run : outcome = _ := split.trans (run_bind_of_ok led)
    have session := advances.session
    rw [led, session] at advances
    rw [session] at run
    cases reached with
    | inr table =>
      rw [run]
      simp only [Sum.elim_inr, run_pure, List.append_nil]
      exact ⟨more, new, advances⟩
    | inl next =>
      have fewer : next.rank < part.rank := Part.rank_lt led
      have passed : (Progress.next next).passed config path ≤ times + more :=
        Nat.le_trans (Nat.le_of_eq advances.passed) (Nat.add_le_add_right enough more)
      obtain ⟨again, newer, later⟩ := advances.fits.finishes steady paired passed
      rw [run]
      simp only [Sum.elim_inl, Trace.calls_append]
      exact ⟨more + again, new ++ newer, advances.trans later⟩
termination_by part.rank

/-- In a session that was opened some times before, a look-up comes to what is settled. -/
theorem result_getTable_reopened (steady : services.Steady) (paired : start.Paired) (times : Nat) :
    ((getTable config services path).run (reopened services start times)).result =
      settled config services start path := by
  have fits : Fits config services start path (.next .begins) := .begins
  obtain ⟨_, _, advances⟩ := fits.finishes steady paired (Nat.zero_le times)
  exact advances.fits.result_eq

end TopicTables.Catalog
