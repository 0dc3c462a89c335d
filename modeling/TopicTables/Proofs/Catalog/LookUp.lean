import Mathlib.Tactic.SplitIfs
import TopicTables.Proofs.Catalog.Opening

/-! # Looking up a table

Every state that a run over the clients of a cluster reaches gives just the answer that is told
without a history: nothing is remembered, nothing is asked twice.
-/

namespace TopicTables.Catalog

variable {config : Config} {cluster : Cluster} {session : Session}

theorem isResolvable_iff {path : Path} : isResolvable config path = true ↔
    ¬(path.database ≠ config.defaultDatabase ∨ path.object = "") := by
  simp [isResolvable, inScope]

theorem ofWord?_eq_ite (word : String) :
    Encoding.ofWord? word =
      if word = "AVRO" then some .avro
      else if word = "JSON" then some .json
      else if word = "PROTOBUF" then some .protobuf
      else none := by
  by_cases avro : word = "AVRO"
  · rw [if_pos avro, avro]
    decide
  · by_cases json : word = "JSON"
    · rw [if_neg avro, if_pos json, json]
      decide
    · by_cases protobuf : word = "PROTOBUF"
      · rw [if_neg avro, if_neg json, if_pos protobuf, protobuf]
        decide
      · simp [Encoding.ofWord?, Encoding.word, avro, json, protobuf, Ne.symm avro, Ne.symm json,
          Ne.symm protobuf]

theorem ofAnyCase_eq_ite (named : Json) {word : String}
    (capitals : (if named.isTruthy then Text.upperCase named.text else "AVRO") = word) :
    Encoding.ofAnyCase named =
      if word = "AVRO" then .ok .avro
      else if word = "JSON" then .ok .json
      else if word = "PROTOBUF" then .ok .protobuf
      else .error (.unknownEncoding (.str word)) := by
  unfold Encoding.ofAnyCase
  cases truthy : named.isTruthy with
  | false =>
    rw [truthy] at capitals
    rw [← capitals]
    rfl
  | true =>
    rw [truthy, if_pos rfl] at capitals
    simp only [Bool.not_true, Bool.false_eq_true, if_false, capitals, ofWord?_eq_ite]
    split_ifs <;> rfl

/-- What remains of a look-up once a registry is in hand. -/
def lookUp {Listing : Type} (config : Config) (services : Services Listing) (path : Path) :
    Action Table := do
  match ← Action.ofReply .schemaFailed (services.latestSchema path.object) with
  | none => Action.fail (.tableNotFound config.catalogName path)
  | some descriptor =>
    let columns ← columnsFor services descriptor
    let _ ← Session.useBroker services
    let servers ← Action.read (·.servers)
    return assemble services servers path.object columns

theorem getTable_eq {Listing : Type} (config : Config) (services : Services Listing) (path : Path) :
    getTable config services path =
      if isResolvable config path then
        Session.useRegistry services >>= fun _ => lookUp config services path
      else Action.fail (.tableNotFound config.catalogName path) := rfl

section LookUp
variable {Listing : Type} {services : Services Listing} {path : Path}

theorem lookUp_of_failure {cause : ServiceFailure}
    (failed : (services.latestSchema path.object).result = .error cause) :
    (lookUp config services path).run session =
      ⟨.error (.schemaFailed cause), session, (services.latestSchema path.object).trace⟩ := by
  simp [lookUp, Action.run_bind, failed]

theorem lookUp_of_none (missing : (services.latestSchema path.object).result = .ok none) :
    (lookUp config services path).run session =
      ⟨.error (.tableNotFound config.catalogName path), session,
        (services.latestSchema path.object).trace⟩ := by
  simp [lookUp, Action.run_bind, missing]

theorem lookUp_of_lack {descriptor : Descriptor} {lack : Avro.ColumnsError}
    (found : (services.latestSchema path.object).result = .ok (some descriptor))
    (without : columnsOf services.depth descriptor = .error lack) :
    (lookUp config services path).run session =
      ⟨.error (.noColumns lack), session, (services.latestSchema path.object).trace⟩ := by
  simp [lookUp, columnsFor, Action.run_bind, found, without]

theorem lookUp_of_columns {descriptor : Descriptor} {columns : Columns} {broker : Nat}
    (found : (services.latestSchema path.object).result = .ok (some descriptor))
    (translated : columnsOf services.depth descriptor = .ok columns)
    (held : session.broker = some broker) :
    (lookUp config services path).run session =
      ⟨.ok (assemble services session.servers path.object columns), session,
        (services.latestSchema path.object).trace ++
          [.log .debug ("Translated subject " ++ descriptor.subject ++ " into " ++
            toString columns.length ++ " columns")]⟩ := by
  simp [lookUp, columnsFor, Action.run_bind, found, translated,
    Session.useBroker_of_held held]

end LookUp

theorem descriptor_eq_map (entry : Entry) (asked : String) :
    RegistryClient.descriptor entry asked =
      (Encoding.ofAnyCase (RegistryClient.part entry "schema_type" entry.encoding)).map
        fun encoding =>
          { subject := RegistryClient.answeredSubject entry asked
            encoding
            definition := entry.definition
            schemaId := RegistryClient.part entry "schema_id" entry.schemaId
            version := RegistryClient.part entry "version" entry.version } := by
  unfold RegistryClient.descriptor
  cases Encoding.ofAnyCase (RegistryClient.part entry "schema_type" entry.encoding) <;> rfl

/-- A schema that the registry holds comes to what its encoding and its definition say. -/
theorem lookUp_described (servers : session.servers = config.bootstrapServers) {broker : Nat}
    (held : session.broker = some broker) {path : Path} {entry : Entry}
    (answer : RegistryClient.latestVersion cluster path.object = .ok (some entry)) :
    ((lookUp config (clients config cluster) path).run session).response =
      ⟨described config cluster.depth path.object entry, [.getLatestVersion path.object]⟩ := by
  have result : ((clients config cluster).latestSchema path.object).result =
      (RegistryClient.descriptor entry path.object).map some := by
    simp [clients, Services.overClients, RegistryClient.latestSchema, answer]
  have calls : ((clients config cluster).latestSchema path.object).trace.calls =
      [.getLatestVersion path.object] := rfl
  have capitals : _ = encodingWord entry := rfl
  rw [descriptor_eq_map, ofAnyCase_eq_ite _ capitals] at result
  unfold described
  by_cases avro : encodingWord entry = "AVRO"
  · rw [if_pos avro] at result ⊢
    cases translated : Avro.registeredColumns cluster.depth entry.definition with
    | error lack =>
      rw [lookUp_of_lack result translated]
      simp [Outcome.response, calls]
    | ok columns =>
      rw [lookUp_of_columns result translated held, servers]
      simp only [Outcome.response, Trace.calls_append, calls]
      rfl
  · rw [if_neg avro] at result ⊢
    by_cases json : encodingWord entry = "JSON"
    · rw [if_pos json] at result
      rw [if_pos (.inl json), lookUp_of_lack result rfl]
      simp [Outcome.response, calls]
    · rw [if_neg json] at result
      by_cases protobuf : encodingWord entry = "PROTOBUF"
      · rw [if_pos protobuf] at result
        rw [if_pos (.inr protobuf), lookUp_of_lack result rfl]
        simp [Outcome.response, calls]
      · rw [if_neg protobuf] at result
        rw [if_neg (by simp [json, protobuf]), lookUp_of_failure result]
        simp [Outcome.response, calls]

/-- With a broker held, what remains of a look-up is one call and its judgement. -/
theorem lookUp_response (servers : session.servers = config.bootstrapServers) {broker : Nat}
    (held : session.broker = some broker) (path : Path) :
    ((lookUp config (clients config cluster) path).run session).response =
      asking config cluster path := by
  have result : ((clients config cluster).latestSchema path.object).result =
      (RegistryClient.latestSchema cluster path.object).result := rfl
  have calls : ((clients config cluster).latestSchema path.object).trace.calls =
      [.getLatestVersion path.object] := rfl
  rw [asking]
  cases answer : RegistryClient.latestVersion cluster path.object with
  | error failure =>
    simp only [RegistryClient.latestSchema, answer] at result
    cases failure with
    | registry text status code =>
      by_cases missing : status = 404
      · rw [lookUp_of_none (by simpa [ServiceFailure.isNotFound, missing] using result)]
        simp [Outcome.response, calls, judged, missing]
      · rw [lookUp_of_failure (by simpa [ServiceFailure.isNotFound, missing] using result)]
        simp [Outcome.response, calls, judged, missing]
    | unknownEncoding value =>
      rw [lookUp_of_failure result]
      simp [Outcome.response, calls, judged]
    | notIterable listing =>
      rw [lookUp_of_failure result]
      simp [Outcome.response, calls, judged]
    | other kind text =>
      rw [lookUp_of_failure result]
      simp [Outcome.response, calls, judged]
  | ok found =>
    cases found with
    | none =>
      simp only [RegistryClient.latestSchema, answer] at result
      rw [lookUp_of_none result]
      simp [Outcome.response, calls, judged]
    | some entry =>
      rw [lookUp_described servers held answer]
      rfl

/-- In a sound session a look-up answers as told without it. -/
theorem getTable_response (cluster : Cluster) (sound : Sound config session) (path : Path) :
    ((getTable config (clients config cluster) path).run session).response =
      lookedUp config cluster session.broker.isSome session.registry.isSome path := by
  rw [getTable_eq, lookedUp]
  by_cases resolvable : isResolvable config path = true
  · rw [if_pos resolvable, if_neg (isResolvable_iff.mp resolvable)]
    obtain ⟨response, registryHeld⟩ := useRegistry_response cluster sound
      (asking config cluster path)
    rw [← response]
    apply response_bind
    intro handle used
    have behind := useRegistry_sound cluster sound
    obtain ⟨broker, held⟩ := Option.isSome_iff_exists.mp (behind.paired (registryHeld handle used))
    exact lookUp_response behind.reaches.1 held path
  · rw [if_neg resolvable, if_pos (Decidable.not_not.mp (mt isResolvable_iff.mpr resolvable))]
    rfl

/-- Whatever was done before and however it ended, a look-up over the clients of a cluster answers
as told from the configuration, from which handles are held and from the cluster as it is now, and
makes just the calls told so: none for a path out of scope, otherwise those of an opening that is
still due and one for the latest schema. -/
theorem getTable_refines_lookedUp (config : Config) (start : Cluster) (steps : List (Step Cluster))
    (path : Path) :
    let stage := reached config (clients config) start steps
    ((getTable config (clients config stage.world) path).run stage.session).response =
      lookedUp config stage.world stage.session.broker.isSome stage.session.registry.isSome path :=
  getTable_response _ (sound_reached config start steps) path

end TopicTables.Catalog
