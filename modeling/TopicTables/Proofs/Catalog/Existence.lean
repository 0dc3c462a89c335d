import TopicTables.Proofs.Catalog.Cycle
import TopicTables.Proofs.Catalog.LookUp

/-! # Asking whether there is a table

The question whether there is a table and the look-up of the table are answered from the same
answer of the registry. Asked of the same session they make the same calls and leave the same
session; how the one ends tells how the other does, up to what becomes of a schema that was found.
-/

namespace TopicTables.Catalog
open TopicTables.Session

variable {Listing : Type} {config : Config} {services : Services Listing} {session : Session}
  {path : Path}

/-- What remains of the question once a registry is in hand. -/
def presence (services : Services Listing) (path : Path) : Action Bool := do
  let found ← Action.ofReply .subjectsFailed (services.latestSchema path.object)
  return found.isSome

theorem tableExists_eq (config : Config) (services : Services Listing) (path : Path) :
    tableExists config services path =
      if isResolvable config path then
        useRegistry services >>= fun _ => presence services path
      else pure false := rfl

theorem run_presence (services : Services Listing) (path : Path) (session : Session) :
    (presence services path).run session =
      ⟨((services.latestSchema path.object).result.mapError Failure.subjectsFailed).map
          Option.isSome, session, (services.latestSchema path.object).trace⟩ := by
  cases answer : (services.latestSchema path.object).result <;>
    simp [presence, answer, Except.map]

/-! ## Beside a look-up -/

section
variable (config : Config) (services : Services Listing) (session : Session) (path : Path)

/-- The registry is to be asked for the path, and no registry is to be had. -/
def Unopened (failure : Failure) : Prop :=
  isResolvable config path = true ∧ ((useRegistry services).run session).result = .error failure

/-- The registry is asked for the path, and the call fails. -/
def Unanswered (cause : ServiceFailure) : Prop :=
  isResolvable config path = true ∧
    (∃ handle, ((useRegistry services).run session).result = .ok handle) ∧
      (services.latestSchema path.object).result = .error cause

/-- How the question and the look-up end beside each other. -/
inductive Beside : Except Failure Bool → Except Failure Table → Prop
  | missing : Beside (.ok false) (.error (.tableNotFound config.catalogName path))
  | unopened {failure : Failure} :
    Unopened config services session path failure → Beside (.error failure) (.error failure)
  | unanswered {cause : ServiceFailure} :
    Unanswered config services session path cause →
      Beside (.error (.subjectsFailed cause)) (.error (.schemaFailed cause))
  | lack (lack : Avro.ColumnsError) : Beside (.ok true) (.error (.noColumns lack))
  | table (table : Table) : Beside (.ok true) (.ok table)

end

theorem Unopened.opening {failure : Failure}
    (unopened : Unopened config services session path failure) : OpeningFailure failure :=
  openingFailure_of_useRegistry unopened.2

theorem Unopened.not_unanswered {failure : Failure} {cause : ServiceFailure}
    (unopened : Unopened config services session path failure) :
    ¬ Unanswered config services session path cause := by
  rintro ⟨-, ⟨handle, used⟩, -⟩
  cases unopened.2.symm.trans used

namespace Beside

variable {question : Except Failure Bool} {looked : Except Failure Table}

theorem missing_iff (beside : Beside config services session path question looked)
    {catalog : String} {missing : Path} :
    looked = .error (.tableNotFound catalog missing) ↔
      question = .ok false ∧ catalog = config.catalogName ∧ missing = path := by
  cases beside with
  | missing => simp [eq_comm]
  | unopened unopened =>
    constructor
    · intro same
      cases same
      cases unopened.opening
    · simp
  | unanswered unanswered => simp
  | lack lack => simp
  | table table => simp

theorem failed_iff (beside : Beside config services session path question looked)
    {failure : Failure} :
    question = .error failure ↔
      (Unopened config services session path failure ∧ looked = .error failure) ∨
        ∃ cause, Unanswered config services session path cause ∧
          failure = .subjectsFailed cause ∧ looked = .error (.schemaFailed cause) := by
  cases beside with
  | missing | lack =>
    simp only [reduceCtorEq, Except.error.injEq, and_false, exists_false, or_false, false_iff,
      not_and]
    intro unopened same
    cases same
    cases unopened.opening
  | @unopened other unopened =>
    simp only [Except.error.injEq]
    constructor
    · rintro rfl
      exact .inl ⟨unopened, rfl⟩
    · rintro (⟨-, same⟩ | ⟨cause, unanswered, -⟩)
      · exact same
      · exact absurd unanswered unopened.not_unanswered
  | @unanswered cause unanswered =>
    simp only [Except.error.injEq, Failure.schemaFailed.injEq]
    constructor
    · rintro rfl
      exact .inr ⟨cause, unanswered, rfl, rfl⟩
    · rintro (⟨unopened, -⟩ | ⟨other, -, rfl, rfl⟩)
      · exact absurd unanswered unopened.not_unanswered
      · rfl
  | table table => simp

theorem found_iff (beside : Beside config services session path question looked) :
    question = .ok true ↔
      (∃ table, looked = .ok table) ∨ ∃ lack, looked = .error (.noColumns lack) := by
  cases beside with
  | missing => simp
  | unopened unopened =>
    simp only [reduceCtorEq, exists_false, Except.error.injEq, false_or, false_iff, not_exists]
    rintro lack rfl
    cases unopened.opening
  | unanswered unanswered => simp
  | lack lack => simp
  | table table => simp

end Beside

/-- Asked of the same session, the question and the look-up end beside each other, make the same
calls and leave the same session behind. -/
theorem asked_beside (config : Config) (services : Services Listing) (path : Path)
    (paired : session.Paired) :
    let question := (tableExists config services path).run session
    let looked := (getTable config services path).run session
    Beside config services session path question.result looked.result ∧
      question.trace.calls = looked.trace.calls ∧ question.session = looked.session := by
  intro question looked
  by_cases resolvable : isResolvable config path = true
  · have questioned : question = (useRegistry services >>= fun _ => presence services path).run
        session := by simp only [question, tableExists_eq, if_pos resolvable]
    have lookedUp : looked = (useRegistry services >>= fun _ =>
        lookUp config services path).run session := by
      simp only [looked, getTable_eq, if_pos resolvable]
    rw [questioned, lookedUp]
    cases used : ((useRegistry services).run session).result with
    | error failure =>
      rw [Action.run_bind_of_error used, Action.run_bind_of_error used]
      exact ⟨.unopened ⟨resolvable, used⟩, rfl, rfl⟩
    | ok handle =>
      rw [Action.run_bind_of_ok used, Action.run_bind_of_ok used, run_presence]
      have behind : Paired ((useRegistry services).run session).session :=
        keeps_useRegistry keeps_paired_openMissing _ paired
      have brokerHeld := behind (by simp [registry_of_useRegistry used])
      obtain ⟨broker, held⟩ := Option.isSome_iff_exists.mp brokerHeld
      cases answer : (services.latestSchema path.object).result with
      | error cause =>
        rw [lookUp_of_failure answer]
        exact ⟨.unanswered ⟨resolvable, ⟨handle, used⟩, answer⟩, rfl, rfl⟩
      | ok found =>
        cases found with
        | none =>
          rw [lookUp_of_none answer]
          exact ⟨.missing, rfl, rfl⟩
        | some descriptor =>
          cases translated : columnsOf services.depth descriptor with
          | error lack =>
            rw [lookUp_of_lack answer translated]
            exact ⟨.lack lack, rfl, rfl⟩
          | ok columns =>
            rw [lookUp_of_columns answer translated held]
            exact ⟨.table _, by simp, rfl⟩
  · have questioned : question = ⟨.ok false, session, []⟩ := by
      simp only [question, tableExists_eq, if_neg resolvable, Action.run_pure]
    have lookedUp : looked = ⟨.error (.tableNotFound config.catalogName path), session, []⟩ := by
      simp only [looked, getTable_eq, if_neg resolvable, Action.run_fail]
    rw [questioned, lookedUp]
    exact ⟨.missing, rfl, rfl⟩

/-- In every state that a catalog and its session reach, over any services: there is no table just
where the look-up does not find it; the question fails just where the look-up fails over opening the
session, with the same failure, or over the call to the registry, with the same cause; and there is
one just where the look-up gets past the registry, to a table or to a lack of columns. Either makes
the same calls and leaves the same session behind. -/
theorem tableExists_agrees_getTable (config : Config)
    (history : List (Services Listing × Operation)) (services : Services Listing) (path : Path) :
    let session :=
      (perform config (.new config.bootstrapServers config.registryUrl) history).session
    let question := (tableExists config services path).run session
    let looked := (getTable config services path).run session
    (∀ catalog missing, looked.result = .error (.tableNotFound catalog missing) ↔
      question.result = .ok false ∧ catalog = config.catalogName ∧ missing = path) ∧
    (∀ failure, question.result = .error failure ↔
      (Unopened config services session path failure ∧ looked.result = .error failure) ∨
        ∃ cause, Unanswered config services session path cause ∧
          failure = .subjectsFailed cause ∧ looked.result = .error (.schemaFailed cause)) ∧
    (question.result = .ok true ↔
      (∃ table, looked.result = .ok table) ∨ ∃ lack, looked.result = .error (.noColumns lack)) ∧
    question.trace.calls = looked.trace.calls ∧ question.session = looked.session := by
  intro session question looked
  have paired : session.Paired := paired_perform config history
  obtain ⟨beside, calls, same⟩ := asked_beside config services path paired
  exact ⟨fun _ _ => beside.missing_iff, fun _ => beside.failed_iff, beside.found_iff, calls, same⟩

/-! ## Presence and content -/

/-- The encoding that the answer of a registry names is one that there is. -/
def NamesEncoding (entry : Entry) : Prop :=
  ∃ encoding : Encoding, encoding.word = encodingWord entry

theorem namesEncoding_iff {entry : Entry} :
    NamesEncoding entry ↔
      encodingWord entry = "AVRO" ∨ encodingWord entry = "JSON" ∨
        encodingWord entry = "PROTOBUF" := by
  constructor
  · rintro ⟨encoding, named⟩
    rw [← named]
    cases encoding <;> simp [Encoding.word]
  · rintro (avro | json | protobuf)
    · exact ⟨.avro, avro.symm⟩
    · exact ⟨.json, json.symm⟩
    · exact ⟨.protobuf, protobuf.symm⟩

section
variable {cluster : Cluster} {entry : Entry} {subject : String}

/-- A schema that the registry holds is found where its encoding is one that there is, and is a
failed call otherwise. -/
theorem latestSchema_of_entry (config : Config)
    (answer : RegistryClient.latestVersion cluster subject = .ok (some entry)) :
    (NamesEncoding entry ∧ ∃ descriptor,
        ((clients config cluster).latestSchema subject).result = .ok (some descriptor)) ∨
      (¬ NamesEncoding entry ∧ ((clients config cluster).latestSchema subject).result =
        .error (.unknownEncoding (.str (encodingWord entry)))) := by
  have result : ((clients config cluster).latestSchema subject).result =
      (RegistryClient.descriptor entry subject).map some := by
    simp [clients, Services.overClients, RegistryClient.latestSchema, answer]
  have capitals : _ = encodingWord entry := rfl
  rw [result, descriptor_eq_map, ofAnyCase_eq_ite _ capitals, namesEncoding_iff]
  split_ifs with avro json protobuf
  · exact .inl ⟨.inl avro, _, rfl⟩
  · exact .inl ⟨.inr (.inl json), _, rfl⟩
  · exact .inl ⟨.inr (.inr protobuf), _, rfl⟩
  · exact .inr ⟨by simp [avro, json, protobuf], rfl⟩

/-- A schema is found only where the registry holds one. -/
theorem entry_of_latestSchema (config : Config) {descriptor : Descriptor}
    (found : ((clients config cluster).latestSchema subject).result = .ok (some descriptor)) :
    ∃ entry, RegistryClient.latestVersion cluster subject = .ok (some entry) := by
  simp only [clients, Services.overClients, RegistryClient.latestSchema] at found
  split at found
  · simp at found
  · exact ⟨_, by assumption⟩
  · split at found <;> simp at found

end

/-- Where both handles are held, a path in scope is asked for at once. -/
theorem tableExists_of_open (isOpen : session.isOpen = true)
    (resolvable : isResolvable config path = true) :
    (tableExists config services path).run session = (presence services path).run session := by
  rw [Session.isOpen, Bool.and_eq_true] at isOpen
  obtain ⟨handle, held⟩ := Option.isSome_iff_exists.mp isOpen.2
  have used : (useRegistry services).run session = ⟨.ok handle, session, []⟩ :=
    useRegistry_of_held held
  rw [tableExists_eq, if_pos resolvable, Action.run_bind_of_ok (congrArg Outcome.result used), used]
  rfl

theorem asked_of_entry {cluster : Cluster} {entry : Entry} (isOpen : session.isOpen = true)
    (resolvable : isResolvable config path = true)
    (answer : RegistryClient.latestVersion cluster path.object = .ok (some entry)) :
    let asked := ((tableExists config (clients config cluster) path).run session).result
    (NamesEncoding entry ∧ asked = .ok true) ∨
      (¬ NamesEncoding entry ∧
        asked = .error (.subjectsFailed (.unknownEncoding (.str (encodingWord entry))))) := by
  intro asked
  have run : asked = _ := congrArg Outcome.result
    ((tableExists_of_open isOpen resolvable).trans (run_presence (clients config cluster) _ _))
  rcases latestSchema_of_entry config answer with ⟨known, descriptor, found⟩ | ⟨unknown, failed⟩
  · refine .inl ⟨known, ?_⟩
    rw [run, found]
    rfl
  · refine .inr ⟨unknown, ?_⟩
    rw [run, failed]
    rfl

/-- In an open session, a path in scope has a table just where the registry holds a schema for it
whose encoding is one that there is. In any two worlds in which it holds some schema, there is one
in both just where both encodings are such, whatever else the schemas are like. A schema of another
encoding makes the question fail, with the call to the registry as the cause. -/
theorem tableExists_true_iff_namesEncoding (config : Config) (isOpen : session.isOpen = true)
    (inScope : path.database = config.defaultDatabase) (named : path.object ≠ "") :
    let asked (cluster : Cluster) :=
      ((tableExists config (clients config cluster) path).run session).result
    let holds (cluster : Cluster) (entry : Entry) :=
      RegistryClient.latestVersion cluster path.object = .ok (some entry)
    (∀ cluster, asked cluster = .ok true ↔ ∃ entry, holds cluster entry ∧ NamesEncoding entry) ∧
    (∀ cluster entry, holds cluster entry → ¬ NamesEncoding entry →
      asked cluster = .error (.subjectsFailed (.unknownEncoding (.str (encodingWord entry))))) ∧
    ∀ one other entry another, holds one entry → holds other another →
      (asked one = .ok true ∧ asked other = .ok true ↔
        NamesEncoding entry ∧ NamesEncoding another) := by
  intro asked holds
  have resolvable : isResolvable config path = true := by simp [isResolvable_iff, inScope, named]
  have known_iff {cluster : Cluster} {entry : Entry} (held : holds cluster entry) :
      asked cluster = .ok true ↔ NamesEncoding entry := by
    rcases asked_of_entry isOpen resolvable held with ⟨known, yes⟩ | ⟨unknown, failed⟩
    · exact ⟨fun _ => known, fun _ => yes⟩
    · exact ⟨fun yes => absurd (failed.symm.trans yes) (by simp), fun known =>
        absurd known unknown⟩
  refine ⟨fun cluster => ⟨fun yes => ?_, ?_⟩, ?_, ?_⟩
  · have run := congrArg Outcome.result
      ((tableExists_of_open isOpen resolvable).trans (run_presence (clients config cluster) _ _))
    have found := run.symm.trans yes
    cases answer : ((clients config cluster).latestSchema path.object).result with
    | error cause => simp [answer, Except.map] at found
    | ok descriptor =>
      cases descriptor with
      | none => simp [answer, Except.map] at found
      | some descriptor =>
        obtain ⟨entry, held⟩ := entry_of_latestSchema config answer
        exact ⟨entry, held, (known_iff held).mp yes⟩
  · rintro ⟨entry, held, known⟩
    exact (known_iff held).mpr known
  · intro cluster entry held unknown
    rcases asked_of_entry isOpen resolvable held with ⟨known, -⟩ | ⟨-, failed⟩
    · exact absurd known unknown
    · exact failed
  · intro one other entry another held alsoHeld
    rw [known_iff held, known_iff alsoHeld]

/-- Two schemas that have nothing in common but to be there. -/
theorem tableExists_true_of_any_content :
    let config : Config := ⟨"kafka", "b:9092", "http://r:8081", "default", 10.0⟩
    let session : Session :=
      { servers := "b:9092", url := "http://r:8081", broker := some 1, registry := some 1 }
    let path : Path := ⟨"default", "t"⟩
    let plain : Entry := { subject := "t" }
    let other : Entry :=
      { subject := "t", definition := .str "no schema", encoding := .str "json", version := .int 7,
        registeredSubject := some (.str "u"), omitted := ["schema_id"] }
    let asked (entry : Entry) :=
      ((tableExists config (clients config { entries := [entry] }) path).run session).result
    (session.isOpen = true ∧ path.database = config.defaultDatabase ∧ path.object ≠ "") ∧
      asked plain = .ok true ∧ asked other = .ok true := by
  intro config session path plain other asked
  have isOpen : session.isOpen = true := rfl
  have inScope : path.database = config.defaultDatabase := rfl
  have named : path.object ≠ "" := by decide
  have both := (tableExists_true_iff_namesEncoding config isOpen inScope named).2.2
    { entries := [plain] } { entries := [other] } plain other rfl rfl
  exact ⟨⟨isOpen, inScope, named⟩, both.mpr ⟨⟨.avro, by decide +kernel⟩, .json, by decide +kernel⟩⟩

/-- The registry holds a schema for the path, but the question fails over the name of its encoding.
-/
theorem tableExists_fails_of_unknown_encoding :
    let config : Config := ⟨"kafka", "b:9092", "http://r:8081", "default", 10.0⟩
    let session : Session :=
      { servers := "b:9092", url := "http://r:8081", broker := some 1, registry := some 1 }
    let path : Path := ⟨"default", "t"⟩
    let entry : Entry := { subject := "t", encoding := .str "XML" }
    let cluster : Cluster := { entries := [entry] }
    session.isOpen = true ∧ isResolvable config path = true ∧
      RegistryClient.latestVersion cluster path.object = .ok (some entry) ∧
      ((tableExists config (clients config cluster) path).run session).result =
        .error (.subjectsFailed (.unknownEncoding (.str "XML"))) := by
  intro config session path entry cluster
  exact ⟨rfl, rfl, rfl, by decide +kernel⟩

end TopicTables.Catalog
