import TopicTables.Proofs.Catalog.LookUp
import TopicTables.Proofs.Session.Uses

/-! # Looking a table up in parts

A look-up is done in parts: its uses of the registry and of the broker have parts of their own, and
between them the registry is asked once. Between two parts other workers may act on the session.
Done one after the other without interruption, the parts are the look-up as a whole.
-/

namespace TopicTables.Catalog
open TopicTables.Action

variable {Listing : Type}

/-- What comes next in a look-up. -/
inductive Part where
  | begins
  | usesRegistry (use : Session.Use)
  | asks
  | usesBroker (columns : Columns) (use : Session.Use)

/-- What the answer of the registry for a path comes to. -/
def columnsAt (config : Config) (services : Services Listing) (path : Path) :
    Except Failure Columns :=
  match (services.latestSchema path.object).result with
  | .error cause => .error (.schemaFailed cause)
  | .ok none => .error (.tableNotFound config.catalogName path)
  | .ok (some descriptor) => (columnsOf services.depth descriptor).mapError .noColumns

namespace Part

def act (config : Config) (services : Services Listing) (path : Path) :
    Part → Action (Part ⊕ Table)
  | begins =>
    if isResolvable config path then return .inl (.usesRegistry .looks)
    else Action.fail (.tableNotFound config.catalogName path)
  | usesRegistry use => do
    let reached ← use.act services .registry
    return .inl (reached.elim .usesRegistry fun _ => .asks)
  | asks => do
    match ← Action.ofReply .schemaFailed (services.latestSchema path.object) with
    | none => Action.fail (.tableNotFound config.catalogName path)
    | some descriptor => return .inl (.usesBroker (← columnsFor services descriptor) .looks)
  | usesBroker columns use => do
    let reached ← use.act services .broker
    let servers ← Action.read (·.servers)
    return reached.map (.usesBroker columns) fun _ => assemble services servers path.object columns

def rest (config : Config) (services : Services Listing) (path : Path) : Part → Action Table
  | begins => getTable config services path
  | usesRegistry use => do
    let _ ← use.rest services .registry
    lookUp config services path
  | asks => lookUp config services path
  | usesBroker columns use => do
    let _ ← use.rest services .broker
    let servers ← Action.read (·.servers)
    return assemble services servers path.object columns

/-- Done one after the other, the parts are the look-up as a whole. -/
theorem rest_eq (config : Config) (services : Services Listing) (path : Path) (part : Part) :
    part.rest config services path =
      part.act config services path >>= Sum.elim (Part.rest config services path) pure := by
  cases part with
  | begins =>
    by_cases resolvable : isResolvable config path = true
    · simp [rest, act, getTable_eq, resolvable, Session.Use.rest, Session.use]
    · simp only [rest, act, getTable_eq, resolvable]
      rfl
  | usesRegistry use =>
    rw [rest, act, Session.Use.rest_eq, bind_assoc, bind_assoc]
    refine bind_congr fun reached => ?_
    cases reached <;> simp [rest]
  | asks =>
    rw [rest, act, lookUp, bind_assoc]
    refine bind_congr fun found => ?_
    cases found with
    | none => rfl
    | some descriptor =>
      rw [bind_assoc]
      refine bind_congr fun columns => ?_
      simp [rest, Session.Use.rest, Session.use]
  | usesBroker columns use =>
    rw [rest, act, Session.Use.rest_eq, bind_assoc, bind_assoc]
    refine bind_congr fun reached => ?_
    cases reached with
    | inl next =>
      apply Action.ext
      intro session
      simp [rest, run_bind]
    | inr number => simp

section
variable {config : Config} {services : Services Listing} {path : Path} {session : Session}

theorem run_begins_of_resolvable (resolvable : isResolvable config path = true) :
    (begins.act config services path).run session =
      ⟨.ok (.inl (.usesRegistry .looks)), session, []⟩ := by
  simp [act, resolvable]

theorem run_begins_of_unresolvable (unresolvable : isResolvable config path = false) :
    (begins.act config services path).run session =
      ⟨.error (.tableNotFound config.catalogName path), session, []⟩ := by
  simp [act, unresolvable]

theorem run_usesRegistry (use : Session.Use) :
    ((usesRegistry use).act config services path).run session =
      ⟨((use.act services .registry).run session).result.map fun reached =>
          .inl (reached.elim .usesRegistry fun _ => .asks),
        ((use.act services .registry).run session).session,
        ((use.act services .registry).run session).trace⟩ := by
  rw [act, bind_pure_comp, run_map]

theorem run_asks : (asks.act config services path).run session =
    ⟨(columnsAt config services path).map fun columns => .inl (.usesBroker columns .looks), session,
      ((asks.act config services path).run session).trace⟩ := by
  cases answer : (services.latestSchema path.object).result with
  | error cause => simp [act, columnsAt, run_bind, answer, Except.map]
  | ok found =>
    cases found with
    | none => simp [act, columnsAt, run_bind, answer, Except.map]
    | some descriptor =>
      cases translated : columnsOf services.depth descriptor <;>
        simp [act, columnsAt, columnsFor, run_bind, answer, translated, Except.map]

theorem calls_asks : ((asks.act config services path).run session).trace.calls =
    (services.latestSchema path.object).trace.calls := by
  cases answer : (services.latestSchema path.object).result with
  | error cause => simp [act, run_bind, answer]
  | ok found =>
    cases found with
    | none => simp [act, run_bind, answer]
    | some descriptor =>
      cases translated : columnsOf services.depth descriptor <;>
        simp [act, columnsFor, run_bind, answer, translated, Except.map]

theorem run_usesBroker (columns : Columns) (use : Session.Use) :
    ((usesBroker columns use).act config services path).run session =
      ⟨((use.act services .broker).run session).result.map fun reached =>
          reached.map (.usesBroker columns) fun _ => assemble services
            ((use.act services .broker).run session).session.servers path.object columns,
        ((use.act services .broker).run session).session,
        ((use.act services .broker).run session).trace⟩ := by
  rw [act, run_bind]
  cases ((use.act services .broker).run session).result <;> simp [Except.map]

def rank : Part → Nat
  | begins => 8
  | usesRegistry use => use.rank + 4
  | asks => 4
  | usesBroker _ use => use.rank

theorem rank_pos (part : Part) : 0 < part.rank := by
  cases part with
  | usesBroker columns use => cases use <;> simp [rank, Session.Use.rank]
  | _ => simp [rank]

theorem rank_lt {part next : Part}
    (leads : ((part.act config services path).run session).result = .ok (.inl next)) :
    next.rank < part.rank := by
  cases part with
  | begins =>
    by_cases resolvable : isResolvable config path = true
    · rw [run_begins_of_resolvable resolvable] at leads
      cases leads
      decide
    · rw [run_begins_of_unresolvable (Bool.not_eq_true _ ▸ resolvable)] at leads
      cases leads
  | usesRegistry use =>
    rw [run_usesRegistry] at leads
    obtain ⟨reached, inner, same⟩ := Results.map_eq_ok_iff.mp leads
    cases same
    cases reached with
    | inl later => exact Nat.add_lt_add_right (Session.Use.rank_lt inner) 4
    | inr number => cases use <;> simp [rank, Session.Use.rank]
  | asks =>
    rw [run_asks] at leads
    obtain ⟨columns, -, same⟩ := Results.map_eq_ok_iff.mp leads
    cases same
    exact Nat.lt_succ_self 3
  | usesBroker columns use =>
    rw [run_usesBroker] at leads
    obtain ⟨reached, inner, same⟩ := Results.map_eq_ok_iff.mp leads
    cases reached with
    | inl later =>
      cases same
      exact Session.Use.rank_lt inner
    | inr number => cases same

end

end Part

end TopicTables.Catalog
