import Mathlib.Tactic.TFAE
import TopicTables.Proofs.Catalog.LookUp

/-! # Requests that the catalog answers by itself

The refused operations, the questions about databases and the look-ups out of scope need neither
brokers nor a registry. Any number of them, in any order and over whatever services there are at
the time, are answered without a call, in the session as it was.
-/

namespace TopicTables.Catalog
open TopicTables.Session

variable {Listing : Type} {config : Config}

/-- Nothing can be found at the path: it is out of scope, or names no object. -/
def Unresolvable (config : Config) (path : Path) : Prop :=
  path.database ≠ config.defaultDatabase ∨ path.object = ""

/-- A request for which nothing outside is needed. The look-up of a function has to be told of
which. -/
inductive LocalRequest (config : Config) where
  | refused (operation : String) (refusal : Refusal) (arguments : List Argument)
      (listed : (operation, refusal) ∈ Boundary.refused)
      (told : refusal = .functionNotFound → arguments ≠ [])
  | listDatabases
  | databaseExists (database : String)
  | getDatabase (database : String)
  | listTables (database : String) (outside : database ≠ config.defaultDatabase)
  | tableExists (path : Path) (outside : Unresolvable config path)
  | getTable (path : Path) (outside : Unresolvable config path)

inductive Answer (Listing : Type) where
  | sentinel (sentinel : Sentinel)
  | databases (names : List String)
  | verdict (holds : Bool)
  | database (database : Database)
  | listing (listing : Listing)
  | table (table : Table)
deriving DecidableEq

namespace LocalRequest

def act (services : Services Listing) : LocalRequest config → Action (Answer Listing)
  | refused operation refusal arguments _ _ => do
    return .sentinel (← Catalog.refuse config operation refusal arguments)
  | listDatabases => return .databases (Catalog.listDatabases config)
  | databaseExists database => return .verdict (inScope config database)
  | getDatabase database => do
    return .database (← Action.ofExcept (Catalog.getDatabase config database))
  | listTables database _ => do return .listing (← Catalog.listTables config services database)
  | tableExists path _ => do return .verdict (← Catalog.tableExists config services path)
  | getTable path _ => do return .table (← Catalog.getTable config services path)

def due : LocalRequest config → Except Failure (Answer Listing)
  | refused operation .unsupported _ _ _ => .error (.unsupported operation config.catalogName)
  | refused _ .functionNotFound arguments _ told =>
    .error (.functionNotFound config.catalogName (arguments.head (told rfl)))
  | refused _ .unknownTableStatistics _ _ _ => .ok (.sentinel (.tableStatistics .unknown))
  | refused _ .unknownColumnStatistics _ _ _ => .ok (.sentinel (.columnStatistics .unknown))
  | listDatabases => .ok (.databases [config.defaultDatabase])
  | databaseExists database => .ok (.verdict (decide (database = config.defaultDatabase)))
  | getDatabase database =>
    if database = config.defaultDatabase then .ok (.database { name := database })
    else .error (.databaseNotFound config.catalogName database)
  | listTables database _ => .error (.databaseNotFound config.catalogName database)
  | tableExists _ _ => .ok (.verdict false)
  | getTable path _ => .error (.tableNotFound config.catalogName path)

end LocalRequest

/-! ## One request -/

theorem inScope_iff {database : String} :
    inScope config database = true ↔ database = config.defaultDatabase := by
  simp [inScope]

theorem getDatabase_eq (config : Config) (database : String) :
    getDatabase config database =
      if database = config.defaultDatabase then .ok { name := database }
      else .error (.databaseNotFound config.catalogName database) := by
  simp [getDatabase, inScope_iff]

theorem listTables_of_outside {database : String} (services : Services Listing)
    (outside : database ≠ config.defaultDatabase) :
    listTables config services database =
      Action.fail (.databaseNotFound config.catalogName database) :=
  if_neg (outside ∘ inScope_iff.mp)

theorem isResolvable_of_unresolvable {path : Path} (outside : Unresolvable config path) :
    isResolvable config path = false := by
  rw [Bool.eq_false_iff, ne_eq, isResolvable_iff]
  exact not_not_intro outside

/-- A request is answered as is due, without a call, and leaves the session as it was. -/
theorem run_act (services : Services Listing) (request : LocalRequest config)
    (session : Session) :
    let outcome := (request.act services).run session
    outcome.result = request.due ∧ outcome.session = session ∧ outcome.trace.calls = [] := by
  cases request with
  | refused operation refusal arguments listed told =>
    cases refusal with
    | functionNotFound =>
      cases arguments with
      | nil => exact absurd rfl (told rfl)
      | cons reference rest => exact ⟨rfl, rfl, rfl⟩
    | _ => exact ⟨rfl, rfl, rfl⟩
  | listDatabases => exact ⟨rfl, rfl, rfl⟩
  | databaseExists database => exact ⟨rfl, rfl, rfl⟩
  | getDatabase database =>
    simp only [LocalRequest.act, LocalRequest.due, getDatabase_eq]
    split <;> exact ⟨rfl, rfl, rfl⟩
  | listTables database outside =>
    simp only [LocalRequest.act, listTables_of_outside services outside]
    exact ⟨rfl, rfl, rfl⟩
  | tableExists path outside =>
    simp only [LocalRequest.act, tableExists, isResolvable_of_unresolvable outside]
    exact ⟨rfl, rfl, rfl⟩
  | getTable path outside =>
    simp only [LocalRequest.act, getTable, isResolvable_of_unresolvable outside]
    exact ⟨rfl, rfl, rfl⟩

/-! ## Any number of requests -/

/-- The outcomes of some requests, one after another, each over the services as they are at its
time. A request that fails does not keep the next from being made. -/
def respond (session : Session) :
    List (Services Listing × LocalRequest config) → List (Outcome (Answer Listing))
  | [] => []
  | (services, request) :: rest =>
    let outcome := (request.act services).run session
    outcome :: respond outcome.session rest

theorem respond_local (session : Session)
    (requests : List (Services Listing × LocalRequest config)) :
    (respond session requests).map Outcome.result = requests.map (·.2.due) ∧
      ∀ outcome ∈ respond session requests,
        outcome.session = session ∧ outcome.trace.calls = [] := by
  induction requests with
  | nil => exact ⟨rfl, List.forall_mem_nil _⟩
  | cons first rest ih =>
    obtain ⟨services, request⟩ := first
    obtain ⟨result, same, calls⟩ := run_act services request session
    rw [respond, same]
    refine ⟨?_, ?_⟩
    · rw [List.map_cons, List.map_cons, result, ih.1]
    · rw [List.forall_mem_cons]
      exact ⟨⟨same, calls⟩, ih.2⟩

/-! ## The databases there are -/

/-- In scope, the tables may fail to be listed, but not for want of the database. -/
theorem listTables_of_inScope {database : String} (inside : inScope config database = true)
    (services : Services Listing) (session : Session) (catalog missing : String) :
    ((listTables config services database).run session).result ≠
      .error (.databaseNotFound catalog missing) := by
  intro failed
  rw [listTables, if_pos inside] at failed
  rcases Action.failed_of_bind failed with unopened | ⟨_, -, unlisted⟩
  · cases openingFailure_of_useRegistry unopened
  · rw [Action.run_ofReply] at unlisted
    cases answer : services.listSubjects.result <;> simp [answer] at unlisted

theorem inScope_tfae (services : Services Listing) (session : Session) (database : String) :
    [inScope config database = true, database ∈ listDatabases config,
      ∃ found, getDatabase config database = .ok found,
      ∀ catalog missing, ((listTables config services database).run session).result ≠
        .error (.databaseNotFound catalog missing)].TFAE := by
  tfae_have 1 ↔ 2 := by rw [inScope_iff, listDatabases, List.mem_singleton]
  tfae_have 1 ↔ 3 := by
    rw [inScope_iff, getDatabase_eq]
    split <;> simp [*]
  tfae_have 1 → 4 := fun inside => listTables_of_inScope inside services session
  tfae_have 4 → 1 := by
    intro listed
    by_cases inside : database = config.defaultDatabase
    · exact inScope_iff.mpr inside
    · rw [listTables_of_outside services inside] at listed
      exact absurd rfl (listed config.catalogName database)
  tfae_finish

/-- In any session, any sequence of requests for which nothing outside is needed is answered as is
due, each without a call and in the session as it was, whatever services there are at the time. The
catalog has a database just where it is listed, where it is found and where its tables cannot fail
to be listed for want of it. -/
theorem respond_confined (config : Config) (session : Session)
    (requests : List (Services Listing × LocalRequest config)) :
    (respond session requests).map Outcome.result = requests.map (·.2.due) ∧
    (∀ outcome ∈ respond session requests, outcome.session = session ∧ outcome.trace.calls = []) ∧
    ∀ (services : Services Listing) (database : String),
      [inScope config database = true, database ∈ listDatabases config,
        ∃ found, getDatabase config database = .ok found,
        ∀ catalog missing, ((listTables config services database).run session).result ≠
          .error (.databaseNotFound catalog missing)].TFAE :=
  have ⟨answered, untouched⟩ := respond_local session requests
  ⟨answered, untouched, fun services database => inScope_tfae services session database⟩

/-- A closed session, a refused operation, a look-up of a function and two look-ups of tables. -/
example :
    let config : Config := ⟨"kafka", "b:9092", "http://r:8081", "default", 10.0⟩
    let reference := Argument.path ⟨"default", "f"⟩
    let requests : List (LocalRequest config) :=
      [.refused "create_table" .unsupported [] (by decide) nofun,
        .refused "get_function" .functionNotFound [reference] (by decide) nofun,
        .tableExists ⟨"other", "t"⟩ (.inl (by decide)), .getTable ⟨"default", ""⟩ (.inr rfl)]
    (respond (newSession config) (requests.map fun request => (clients config {}, request))).map
        Outcome.result =
      [.error (.unsupported "create_table" "kafka"), .error (.functionNotFound "kafka" reference),
        .ok (.verdict false), .error (.tableNotFound "kafka" ⟨"default", ""⟩)] := rfl

end TopicTables.Catalog
