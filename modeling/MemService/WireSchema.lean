import MemService.BlockGc
import MemService.KeySpace

/-!
# The declared schema and the handlers

`mem_service_wire_schema.h` declares for every operation which fields its payload has: their types,
and which of them a request must carry.  `mem_service_wire_schema_validate_payload` checks a payload
against the declaration.

The daemon does not call it.  A handler reads the fields it uses with getters of its own, and it
asks for the same ones: a payload that lacks a required field, or every field of a selector, is
refused.  It is more liberal with numbers.  The getters take a default for one that cannot be read,
so the handler refuses such a payload only where it cannot do without the number.
-/

open ByteText CNumeral

namespace MemService

/-! ## Schemas -/

/-- `enum mem_service_wire_payload_field_type`. -/
inductive PayloadFieldType
  | string | u32 | u64
  deriving DecidableEq

/-- `struct mem_service_wire_payload_field`. -/
structure PayloadField where
  name : String
  type : PayloadFieldType
  required : Bool
  deriving DecidableEq

namespace PayloadField

/-- A row of a field table: a text that must be there, or an optional text or number. -/
def needed (name : String) : PayloadField := ⟨name, .string, true⟩
@[inherit_doc needed] def text (name : String) : PayloadField := ⟨name, .string, false⟩
@[inherit_doc needed] def u32 (name : String) : PayloadField := ⟨name, .u32, false⟩
@[inherit_doc needed] def u64 (name : String) : PayloadField := ⟨name, .u64, false⟩

end PayloadField

/-- `struct mem_service_wire_payload_oneof`: at least one of the fields must be there. -/
structure PayloadOneof where
  first : String
  rest : List String
  deriving DecidableEq

/-- The part of `struct mem_service_wire_operation_schema` that is checked. -/
structure OperationSchema where
  operation : WireOperation
  fields : List PayloadField
  oneofs : List PayloadOneof

namespace WireSchema

/-- The fields of a provider buffer, which an object can be written from and read into. -/
def bufferFields : List PayloadField :=
  [.u64 "backend_buffer_gsva_base", .u64 "backend_buffer_bytes", .u32 "backend_buffer_token_id",
    .u32 "backend_buffer_token_value", .u32 "backend_buffer_key_version",
    .u32 "backend_buffer_key_flags", .u64 "backend_buffer_key_segment_id",
    .u64 "backend_buffer_key_home_va", .u64 "backend_buffer_key_size",
    .u64 "backend_buffer_key_vmid", .u64 "backend_buffer_key_asid",
    .u64 "backend_buffer_key_pte_offset", .u32 "backend_buffer_key_p_tag",
    .u32 "backend_buffer_key_cache_policy", .u64 "backend_buffer_key_epoch"]

/-- The field tables of `mem_service_wire_schema.h`. -/
def objectPutFields : List PayloadField :=
  [.needed "key", .u32 "owner", .u32 "payload_kind", .u64 "backing_offset", .u64 "backing_len",
    .u64 "checksum", .u64 "version", .text "backend", .u32 "backend_write",
    .text "backend_device_path", .u64 "backend_request_id", .u32 "backend_source_cna",
    .u32 "backend_kind", .u32 "backend_node", .u32 "backend_device_cna", .u32 "backend_flags",
    .u64 "backend_block_hi", .u64 "backend_block_lo", .u64 "backend_block_version",
    .u64 "backend_block_offset", .u64 "backend_block_bytes", .u64 "backend_block_checksum"] ++
  bufferFields ++
  [.text "idempotency_key", .text "payload_inline", .text "payload_path"]

@[inherit_doc objectPutFields]
def objectGetFields : List PayloadField :=
  [.needed "key", .u32 "backend_read", .text "backend_device_path", .u64 "backend_request_id",
    .u32 "backend_source_cna", .u32 "backend_device_cna", .u32 "backend_flags"] ++ bufferFields

@[inherit_doc objectPutFields]
def objectInspectFields : List PayloadField :=
  [.needed "key"]

@[inherit_doc objectPutFields]
def objectMaterializeFields : List PayloadField :=
  [.needed "key", .needed "destination_path", .u64 "expected_version",
    .u64 "expected_checksum"]

@[inherit_doc objectPutFields]
def snapshotPageFields : List PayloadField :=
  [.u64 "start_index", .u64 "max_records"]

@[inherit_doc objectPutFields]
def auditLogFields : List PayloadField :=
  [.u64 "start_sequence", .u64 "max_events"]

@[inherit_doc objectPutFields]
def restoreSnapshotPageFields : List PayloadField :=
  [.needed "action", .u64 "page_index", .u64 "expected_records", .u32 "complete"]

@[inherit_doc objectPutFields]
def blockContextFields : List PayloadField :=
  [.needed "request_id", .needed "prefix_group", .needed "group_id", .needed "block_hash",
    .u32 "placement_node", .u32 "placement_level", .u64 "hot_segment_id", .text "state",
    .u64 "result_segment_id", .text "idempotency_key"]

@[inherit_doc objectPutFields]
def prefixLookupFields : List PayloadField :=
  [.needed "request_id", .needed "prefix_group"]

@[inherit_doc objectPutFields]
def kvResolveFields : List PayloadField :=
  [.text "key", .text "block_hash"]

@[inherit_doc objectPutFields]
def artifactPublishFields : List PayloadField :=
  [.needed "key", .text "session_id", .text "request_id", .text "model_key",
    .text "artifact_kind", .text "artifact_id", .u32 "owner", .u32 "payload_kind",
    .u64 "backing_offset", .u64 "backing_len", .u64 "checksum", .u64 "version",
    .text "idempotency_key", .text "payload_inline", .text "payload_path"]

@[inherit_doc objectPutFields]
def artifactQueryFields : List PayloadField :=
  [.needed "key", .text "expected_session_id", .text "expected_model_key",
    .text "expected_artifact_kind", .text "expected_artifact_id", .u32 "expected_owner",
    .u64 "expected_version", .u64 "expected_checksum"]

/-- `mem_service_wire_kv_resolve_oneofs`. -/
def kvResolveOneofs : List PayloadOneof := [⟨"key", ["block_hash"]⟩]

/-- `mem_service_wire_operation_schemas`. -/
def operationSchemas : List OperationSchema :=
  [⟨.health, [], []⟩,
    ⟨.ready, [], []⟩,
    ⟨.status, [], []⟩,
    ⟨.listRecords, [], []⟩,
    ⟨.metrics, [], []⟩,
    ⟨.exportSnapshot, [], []⟩,
    ⟨.exportSnapshotPage, snapshotPageFields, []⟩,
    ⟨.restoreSnapshot, [], []⟩,
    ⟨.restoreSnapshotPage, restoreSnapshotPageFields, []⟩,
    ⟨.auditLog, auditLogFields, []⟩,
    ⟨.putObject, objectPutFields, []⟩,
    ⟨.getObject, objectGetFields, []⟩,
    ⟨.inspectObject, objectInspectFields, []⟩,
    ⟨.materializeObject, objectMaterializeFields, []⟩,
    ⟨.registerPrefixEntry, blockContextFields, []⟩,
    ⟨.lookupPrefixEntry, prefixLookupFields, []⟩,
    ⟨.publishKvSegment, blockContextFields, []⟩,
    ⟨.resolveKvSegment, kvResolveFields, kvResolveOneofs⟩,
    ⟨.publishRuntimeHandoff, artifactPublishFields, []⟩,
    ⟨.resolveRuntimeHandoff, artifactQueryFields, []⟩,
    ⟨.registerExecutionArtifact, artifactPublishFields, []⟩,
    ⟨.queryExecutionArtifact, artifactQueryFields, []⟩,
    ⟨.registerTrainingArtifact, artifactPublishFields, []⟩,
    ⟨.queryTrainingArtifact, artifactQueryFields, []⟩]

/-- `mem_service_wire_schema_for_operation`. -/
def schemaForOperation (operation : UInt32) : Option OperationSchema :=
  operationSchemas.find? fun s => s.operation.code == operation

end WireSchema

/-! ## Validation -/

section Validation

variable (p : Payload)

/-- A getter finds the field. -/
def Payload.present (name : String) : Bool := (p.getString name 128).isSome

/-- The number of the field has the type the schema declares. -/
def PayloadField.wellTyped (f : PayloadField) : Bool :=
  match f.type with
  | .string => true
  | .u32 => (p.getU64Checked f.name).any fun n => decide (n.toNat < 2 ^ 32)
  | .u64 => (p.getU64Checked f.name).isSome

/-- One round of `mem_service_wire_payload_validate_schema`. -/
def PayloadField.accepts (f : PayloadField) : Bool :=
  if p.present f.name then f.wellTyped p else !f.required

/-- `mem_service_wire_payload_validate_schema`: the index of the field that fails. -/
def payloadValidateSchema (fields : List PayloadField) : Option ℕ :=
  fields.findIdx? fun f => !f.accepts p

/-- One of the fields is there. -/
def PayloadOneof.accepts (o : PayloadOneof) : Bool := (o.first :: o.rest).any p.present

/-- `mem_service_wire_schema_validate_payload`; a refusal names the field that failed. -/
def validatePayload (schema : Option OperationSchema) : Except (Option String) Unit :=
  match schema with
  | none => .ok ()
  | some s =>
      match payloadValidateSchema p s.fields with
      | some i => .error (s.fields[i]?.map PayloadField.name)
      | none =>
          match s.oneofs.find? fun o => !o.accepts p with
          | some o => .error (some o.first)
          | none => .ok ()

end Validation

/-! ## What a handler refuses -/

section Getters

variable {p : Payload} {name : String}

/-- A getter finds a field that is there, whatever the size of its buffer. -/
lemma Payload.isSome_getString {cap : ℕ} (hcap : 2 ≤ cap) :
    (p.getString name cap).isSome = p.present name := by
  have hfit : ∀ v : Bytes, (fitValue cap v).isSome = (fitValue 128 v).isSome := by
    intro v
    have hne : cap - 1 ≠ 0 := by omega
    cases v with
    | nil => simp [fitValue]
    | cons b v => simp [fitValue, List.take_eq_nil_iff, hne]
  unfold Payload.present Payload.getString payloadGetString
  cases (lines p.bytes).find? fun l => (ascii name ++ [EQ]).isPrefixOf l with
  | none => rfl
  | some l => exact hfit _

lemma Payload.getString_absent (h : p.present name = false) {cap : ℕ} (hcap : 2 ≤ cap) :
    p.getString name cap = none := by
  rw [← Payload.isSome_getString hcap] at h
  exact Option.isSome_eq_false_iff.mp h |> Option.isNone_iff_eq_none.mp

lemma Payload.getField_absent (h : p.present name = false) {cap : ℕ} [NeZero cap]
    (hcap : 2 ≤ cap) : p.getField name cap = none := by
  rw [Payload.getField, Payload.getString_absent h hcap, Option.map_none]

end Getters

/-- The fields a handler cannot do without. -/
def WireOperation.requiredFields : WireOperation → List String
  | .restoreSnapshotPage => ["action"]
  | .putObject => ["key"]
  | .getObject => ["key"]
  | .inspectObject => ["key"]
  | .materializeObject => ["key", "destination_path"]
  | .registerPrefixEntry => ["request_id", "prefix_group", "group_id", "block_hash"]
  | .lookupPrefixEntry => ["request_id", "prefix_group"]
  | .publishKvSegment => ["request_id", "prefix_group", "group_id", "block_hash"]
  | .publishRuntimeHandoff => ["key"]
  | .resolveRuntimeHandoff => ["key"]
  | .registerExecutionArtifact => ["key"]
  | .queryExecutionArtifact => ["key"]
  | .registerTrainingArtifact => ["key"]
  | .queryTrainingArtifact => ["key"]
  | _ => []

/-- A number the handler cannot do without is missing or cannot be read: the page of an append, the
result of a registration, the block reference or the buffer of an object on the provider. -/
def WireOperation.lacksNumber (op : WireOperation) (p : Payload) : Bool :=
  match op with
  | .restoreSnapshotPage =>
      p.getString "action" 32 == some (ascii "append") && (p.getU64Checked "page_index").isNone
  | .registerPrefixEntry => p.getU64 "result_segment_id" 0 == 0
  | .putObject =>
      selectsUbSsdBackend p &&
        ((p.getU64Checked "backend_block_hi").isNone ||
          (p.getU64Checked "backend_block_lo").isNone ||
          if ubSsdWriteRequested p then !hasUbSsdBufferDesc p
          else (p.getU64Checked "backend_block_bytes").isNone ||
            (p.getU64Checked "backend_block_checksum").isNone)
  | _ => false

/-- The payload lacks what the operation needs. -/
inductive OperationSchema.Lacks (s : OperationSchema) (p : Payload) : Prop
  | field {f : PayloadField} (hf : f ∈ s.fields) (hrequired : f.required = true)
      (habsent : p.present f.name = false)
  | selector {o : PayloadOneof} (ho : o ∈ s.oneofs) (habsent : o.accepts p = false)
  | number (h : s.operation.lacksNumber p = true)

/-- The handler's answer is a refusal, and it wrote nothing. -/
def Refuses (s : ServiceState) (out : ServiceState × Reply) : Prop :=
  out.2.status ≠ WireStatus.ok ∧ out.1.svc = s.svc

/-- The handlers ask for every field the schema requires. -/
lemma mem_requiredFields {s : OperationSchema} (hs : s ∈ WireSchema.operationSchemas)
    {f : PayloadField} (hf : f ∈ s.fields) (hrequired : f.required = true) :
    f.name ∈ s.operation.requiredFields := by
  have hall : ∀ s ∈ WireSchema.operationSchemas, ∀ f ∈ s.fields, f.required = true →
      f.name ∈ s.operation.requiredFields := by decide
  exact hall s hs f hf hrequired

/-- The only selector is that of a segment to resolve. -/
lemma selector_resolve {s : OperationSchema} (hs : s ∈ WireSchema.operationSchemas)
    {o : PayloadOneof} (ho : o ∈ s.oneofs) :
    s.operation = .resolveKvSegment ∧ o = ⟨"key", ["block_hash"]⟩ := by
  have hall : ∀ s ∈ WireSchema.operationSchemas, ∀ o ∈ s.oneofs,
      s.operation = .resolveKvSegment ∧ o = ⟨"key", ["block_hash"]⟩ := by decide
  exact hall s hs o ho

/-- What is not wide enough for a type is read as the default. -/
def PayloadField.ReadsDefault (f : PayloadField) (p : Payload) : Prop :=
  match f.type with
  | .string => False
  | .u32 => ∀ dflt, p.getU32 f.name dflt = dflt
  | .u64 => ∀ dflt, p.getU64 f.name dflt = dflt

lemma PayloadField.readsDefault {f : PayloadField} {p : Payload} (h : f.wellTyped p = false) :
    f.ReadsDefault p := by
  unfold PayloadField.wellTyped at h
  unfold PayloadField.ReadsDefault
  cases htype : f.type with
  | string =>
      rw [htype] at h
      cases h
  | u32 =>
      rw [htype] at h
      intro dflt
      unfold Payload.getU32 payloadGetU32 payloadGetU32Checked
      cases hread : payloadGetU64Checked p (ascii f.name) with
      | none => rfl
      | some n =>
          have hwide : ¬ n.toNat < 2 ^ 32 := by
            simpa [Payload.getU64Checked, hread] using h
          rw [Option.bind_some, if_neg hwide, Option.getD_none]
  | u64 =>
      rw [htype] at h
      intro dflt
      have hnone : p.getU64Checked f.name = none := by simpa using h
      show (p.getU64Checked f.name).getD dflt = dflt
      rw [hnone, Option.getD_none]

section Refusals

variable {env : Env} {storageRoot : Bool} {s : ServiceState} {p : Payload}

lemma refuses_reads {status : WireStatus} (h : status ≠ WireStatus.ok) :
    Refuses s (s.reads (.fail status)) := ⟨h, rfl⟩

lemma refuses_writes {status : WireStatus} (h : status ≠ WireStatus.ok) :
    Refuses s (s.writes (s.svc, .fail status)) := ⟨h, rfl⟩

lemma fillBlockCtx_absent {name : String}
    (hname : name ∈ ["request_id", "prefix_group", "group_id", "block_hash"])
    (h : p.present name = false) : fillBlockCtx p = none := by
  simp only [List.mem_cons, List.not_mem_nil, or_false] at hname
  unfold fillBlockCtx
  rcases hname with rfl | rfl | rfl | rfl
  all_goals simp [Payload.getField_absent h]

lemma storeArtifact_absent (h : p.present "key" = false) (kind : RecordKind) :
    Refuses s (s.writes (storeArtifact env storageRoot s.svc p kind)) := by
  unfold storeArtifact
  rw [Payload.getField_absent h (by decide)]
  exact refuses_writes ne_ok_invalidSession

lemma queryArtifact_absent (h : p.present "key" = false) (kind : RecordKind) :
    Refuses s (s.reads (queryArtifact env storageRoot s.svc p kind)) := by
  unfold queryArtifact
  rw [Payload.getString_absent h (by decide)]
  exact refuses_reads ne_ok_invalidSession

lemma materializeObject_absent {name : String} (hname : name ∈ ["key", "destination_path"])
    (h : p.present name = false) :
    Refuses s (s.reads (materializeObject env storageRoot s.svc p)) := by
  have hnone : p.getString "key" 96 = none ∨ p.getString "destination_path" 512 = none := by
    rcases List.mem_cons.mp hname with rfl | hname
    · exact .inl (Payload.getString_absent h (by decide))
    · obtain rfl := List.mem_singleton.mp hname
      exact .inr (Payload.getString_absent h (by decide))
  unfold materializeObject
  split
  · rename_i hfirst hsecond
    simp [hfirst, hsecond] at hnone
  · exact refuses_reads ne_ok_invalidSession

lemma lookupPrefix_absent {name : String} (hname : name ∈ ["request_id", "prefix_group"])
    (h : p.present name = false) : Refuses s (s.reads (lookupPrefix s.svc p)) := by
  have hnone : p.getString "request_id" 64 = none ∨ p.getString "prefix_group" 64 = none := by
    rcases List.mem_cons.mp hname with rfl | hname
    · exact .inl (Payload.getString_absent h (by decide))
    · obtain rfl := List.mem_singleton.mp hname
      exact .inr (Payload.getString_absent h (by decide))
  unfold lookupPrefix
  split
  · rename_i hfirst hsecond
    simp [hfirst, hsecond] at hnone
  · exact refuses_reads ne_ok_invalidSession

/-- A request that lacks a required field is refused. -/
lemma dispatch_absent {op : WireOperation} {name : String} (hname : name ∈ op.requiredFields)
    (h : p.present name = false) : Refuses s (dispatchOperation env storageRoot s op.code p) := by
  have hkey : ∀ cap, 2 ≤ cap → p.getString name cap = none := fun _ => Payload.getString_absent h
  unfold dispatchOperation
  rw [WireOperation.ofCode_code]
  cases op
  case restoreSnapshotPage =>
    obtain rfl := List.mem_singleton.mp hname
    simp only [restoreSnapshotPage, hkey 32 (by decide)]
    exact ⟨ne_ok_invalidSession, rfl⟩
  case putObject =>
    obtain rfl := List.mem_singleton.mp hname
    simp only [putObject, Payload.getField_absent h (show 2 ≤ 96 by decide)]
    exact refuses_writes ne_ok_invalidSession
  case getObject =>
    obtain rfl := List.mem_singleton.mp hname
    simp only [getObject, hkey 96 (by decide)]
    exact refuses_reads ne_ok_invalidSession
  case inspectObject =>
    obtain rfl := List.mem_singleton.mp hname
    simp only [inspectObject, hkey 96 (by decide)]
    exact refuses_reads ne_ok_invalidSession
  case materializeObject => exact materializeObject_absent hname h
  case lookupPrefixEntry => exact lookupPrefix_absent hname h
  case registerPrefixEntry =>
    simp only [registerPrefix, fillBlockCtx_absent hname h]
    exact refuses_writes ne_ok_invalidSession
  case publishKvSegment =>
    simp only [publishKv, fillBlockCtx_absent hname h]
    exact refuses_writes ne_ok_invalidSession
  case publishRuntimeHandoff | registerExecutionArtifact | registerTrainingArtifact =>
    obtain rfl := List.mem_singleton.mp hname
    exact storeArtifact_absent h _
  case resolveRuntimeHandoff | queryExecutionArtifact | queryTrainingArtifact =>
    obtain rfl := List.mem_singleton.mp hname
    exact queryArtifact_absent h _
  all_goals cases hname

/-- A segment to resolve needs one of its selectors. -/
lemma dispatch_resolve_absent {o : PayloadOneof} (ho : o = ⟨"key", ["block_hash"]⟩)
    (h : o.accepts p = false) :
    Refuses s (dispatchOperation env storageRoot s WireOperation.resolveKvSegment.code p) := by
  subst ho
  have habsent : p.present "key" = false ∧ p.present "block_hash" = false := by
    simpa [PayloadOneof.accepts] using h
  show Refuses s (s.reads (resolveKv s.svc p))
  simp only [resolveKv, Payload.getString_absent habsent.1 (show 2 ≤ 96 by decide),
    Payload.getString_absent habsent.2 (show 2 ≤ 96 by decide), Option.map_none]
  exact refuses_reads ne_ok_invalidSession

/-- A block reference is taken only with the numbers it needs. -/
lemma applyUbSsdBackendRef_numbers {payloadInline payloadPath : Bytes} {next r : Record}
    (hselects : selectsUbSsdBackend p = true)
    (h : applyUbSsdBackendRef p payloadInline payloadPath next = .ok r) :
    p.getU64Checked "backend_block_hi" ≠ none ∧ p.getU64Checked "backend_block_lo" ≠ none ∧
      (ubSsdWriteRequested p = false → p.getU64Checked "backend_block_bytes" ≠ none ∧
        p.getU64Checked "backend_block_checksum" ≠ none) := by
  unfold applyUbSsdBackendRef at h
  dsimp only [bind, Except.bind, pure, Except.pure] at h
  rw [hselects, if_neg (by decide)] at h
  split at h
  · cases h
  cases hhi : p.getU64Checked "backend_block_hi" with
  | none =>
      rw [hhi] at h
      cases h
  | some hi =>
  cases hlo : p.getU64Checked "backend_block_lo" with
  | none =>
      rw [hhi, hlo] at h
      cases h
  | some lo =>
  rw [hhi, hlo] at h
  dsimp only at h
  refine ⟨nofun, nofun, fun hwrite => ?_⟩
  rw [hwrite, if_neg (by decide)] at h
  split at h
  · rename_i hbytes hchecksum
    rw [hbytes, hchecksum]
    exact ⟨nofun, nofun⟩
  · cases h

/-- An object whose block reference lacks a number is refused. -/
lemma objectRecord_lacksNumber (h : WireOperation.putObject.lacksNumber p = true)
    (key : FieldText 96) :
    ∃ status : WireStatus, status ≠ WireStatus.ok ∧
      objectRecord env storageRoot p key = .error status := by
  have hspec := describes_objectRecord env storageRoot p key
  cases hrecord : objectRecord env storageRoot p key with
  | error status =>
      rw [hrecord] at hspec
      exact ⟨status, hspec, rfl⟩
  | ok next =>
      exfalso
      obtain ⟨hselects, hlacks⟩ : _ ∧ _ := by
        simpa only [WireOperation.lacksNumber, Bool.and_eq_true] using h
      unfold objectRecord at hrecord
      dsimp only [bind, Except.bind] at hrecord
      split at hrecord
      · cases hrecord
      rename_i ref happly
      obtain ⟨hhi, hlo, hread⟩ := applyUbSsdBackendRef_numbers hselects happly
      obtain ⟨hother, -⟩ | ⟨-, hkind, -⟩ := applyUbSsdBackendRef_ok happly
      · rw [hselects] at hother
        cases hother
      rw [if_pos hkind] at hrecord
      cases hwrite : ubSsdWriteRequested p with
      | true =>
          rw [hwrite, if_pos rfl] at hrecord
          have hdesc : hasUbSsdBufferDesc p = false := by
            simpa [hwrite, hhi, hlo] using hlacks
          unfold writeUbSsdBackendBlock ubSsdSubmit at hrecord
          rw [hdesc] at hrecord
          cases hrecord
      | false =>
          obtain ⟨hbytes, hchecksum⟩ := hread hwrite
          simp [hwrite, hhi, hlo, hbytes, hchecksum] at hlacks

/-- A request that lacks a number its handler needs is refused. -/
lemma dispatch_lacksNumber {op : WireOperation} (h : op.lacksNumber p = true) :
    Refuses s (dispatchOperation env storageRoot s op.code p) := by
  unfold dispatchOperation
  rw [WireOperation.ofCode_code]
  cases op
  case restoreSnapshotPage =>
    obtain ⟨haction, hindex⟩ : p.getString "action" 32 = some (ascii "append") ∧
        p.getU64Checked "page_index" = none := by
      simpa [WireOperation.lacksNumber] using h
    have happend : restorePageAppend s.stage p = (s.stage, .fail WireStatus.invalidSession) := by
      unfold restorePageAppend
      split
      · rename_i hread
        rw [hindex] at hread
        cases hread
      · rfl
    simp only [restoreSnapshotPage, haction]
    rw [if_neg (by decide), if_pos trivial, happend]
    exact ⟨ne_ok_invalidSession, rfl⟩
  case registerPrefixEntry =>
    have hzero : p.getU64 "result_segment_id" 0 = 0 := by
      simpa [WireOperation.lacksNumber] using h
    have hresult : ∀ ctx, fillBlockCtx p = some ctx → ctx.resultSegmentId = 0 := by
      intro ctx hctx
      simp only [fillBlockCtx, Option.bind_eq_bind, Option.bind_eq_some_iff] at hctx
      obtain ⟨requestId, -, prefixGroup, -, groupId, -, blockHash, -, hctx⟩ := hctx
      cases hctx
      exact hzero
    simp only [registerPrefix]
    cases hctx : fillBlockCtx p with
    | none => exact refuses_writes ne_ok_invalidSession
    | some ctx =>
        simp only [hresult ctx hctx, if_true]
        exact refuses_writes ne_ok_invalidSession
  case putObject =>
    simp only [putObject]
    cases hkey : p.getField "key" 96 with
    | none => exact refuses_writes ne_ok_invalidSession
    | some key =>
        obtain ⟨status, hne, hrecord⟩ : ∃ status : WireStatus, status ≠ WireStatus.ok ∧
          objectRecord env storageRoot p key = .error status := objectRecord_lacksNumber h key
        dsimp only
        rw [hrecord]
        exact refuses_writes hne
  all_goals cases h

end Refusals

/-! ## Refused requests -/

/-- The idempotency table holds a success for the request: under its key, with its operation and
its checksum. -/
def Service.HoldsSuccess (svc : Service) (req : Request) : Prop :=
  ∃ key r, idempotencyKey req.payload = some key ∧ svc.findIdempotencyRecord key.bytes = some r ∧
    r.operation = req.operation ∧ r.requestChecksum = wireChecksum req.payload.bytes ∧
    r.status = WireStatus.ok

lemma tryIdempotencyReplay_ok {svc : Service} {req : Request} {reply : Reply}
    (h : tryIdempotencyReplay svc req.operation req.payload = .handled reply)
    (hok : reply.status = WireStatus.ok) : svc.HoldsSuccess req := by
  unfold tryIdempotencyReplay at h
  split at h
  · cases h
  split at h
  · cases h
  rename_i key hkey
  split at h
  · split at h
    · cases h
      exact absurd hok (show WireStatus.capacityExceeded ≠ WireStatus.ok by decide)
    · cases h
  · rename_i r hfind
    split at h
    · cases h
      exact absurd hok ne_ok_versionConflict
    · rename_i hsame
      cases h
      rw [not_or, not_not, not_not] at hsame
      exact ⟨key, r, hkey, hfind, hsame.1, hsame.2, hok⟩

/-- A success without execution is a stored one. -/
lemma Daemon.answer_ok_of_not_executes {cfg : Config} {d : Daemon} {st : Step}
    (hex : ¬ Executes cfg d.state.svc st.req) (hok : (d.answer cfg st).status = WireStatus.ok) :
    d.state.svc.HoldsSuccess st.req := by
  have hanswer := d.answer_cases cfg st
  have ha := answerRequest_answered cfg st.env d.state st.req
  generalize answerRequest cfg st.env d.state st.req = a at ha hanswer
  have hreply : a.reply.status = WireStatus.ok := by
    rcases hanswer with h | ⟨-, -, -, h⟩
    · rwa [h] at hok
    · rw [h] at hok
      exact absurd hok (by decide)
  cases ha with
  | replayed hr => exact tryIdempotencyReplay_ok hr hreply
  | overQuota _ _ hquota =>
      rw [hquota] at hreply
      exact absurd hreply (show WireStatus.capacityExceeded ≠ WireStatus.ok by decide)
  | executed hexec hq _ _ => exact absurd ⟨⟨_, hexec⟩, hq⟩ hex

/-- A request that its handler refuses changes no record, and a success is a stored one. -/
lemma Daemon.refused {cfg : Config} {d : Daemon} {st : Step}
    (h : Refuses d.state (dispatchOperation st.env cfg.storageRoot d.state st.req.operation
      st.req.payload)) :
    SameRecords d.state.svc (d.step cfg st).state.svc ∧
      ((d.answer cfg st).status = WireStatus.ok → d.state.svc.HoldsSuccess st.req) := by
  by_cases hex : Executes cfg d.state.svc st.req
  · obtain ⟨hne, hsame⟩ := refused_of_dispatch hex h.1 h.2
    exact ⟨hsame, fun hok => absurd hok hne⟩
  · exact ⟨sameRecords_of_not_executes hex, d.answer_ok_of_not_executes hex⟩

/-- What the schema refuses: the payload lacks something, or a number has the wrong type. -/
lemma validatePayload_error {s : OperationSchema} {p : Payload} {field : Option String}
    (h : validatePayload p (some s) = .error field) :
    s.Lacks p ∨ ∃ f ∈ s.fields, field = some f.name ∧ f.wellTyped p = false := by
  unfold validatePayload at h
  dsimp only at h
  split at h
  · rename_i i hi
    cases h
    obtain ⟨hlt, hfail, -⟩ := List.findIdx?_eq_some_iff_getElem.mp hi
    have hmem : s.fields[i] ∈ s.fields := List.getElem_mem hlt
    have hrejected : s.fields[i].accepts p = false := by simpa using hfail
    unfold PayloadField.accepts at hrejected
    split at hrejected
    · exact .inr ⟨s.fields[i], hmem, by rw [List.getElem?_eq_getElem hlt]; rfl, hrejected⟩
    · rename_i habsent
      exact .inl (.field hmem (by simpa using hrejected) (by simpa using habsent))
  · split at h
    · rename_i o ho
      exact .inl (.selector (List.mem_of_find?_eq_some ho) (by simpa using List.find?_some ho))
    · cases h

/-- A payload that lacks what its operation needs is refused by the handler. -/
lemma OperationSchema.Lacks.refuses {s : OperationSchema} {p : Payload} (h : s.Lacks p)
    (hs : s ∈ WireSchema.operationSchemas) (env : Env) (storageRoot : Bool) (st : ServiceState) :
    Refuses st (dispatchOperation env storageRoot st s.operation.code p) := by
  cases h with
  | field hf hrequired habsent => exact dispatch_absent (mem_requiredFields hs hf hrequired) habsent
  | selector ho habsent =>
      obtain ⟨hop, heq⟩ := selector_resolve hs ho
      rw [hop]
      exact dispatch_resolve_absent heq habsent
  | number h => exact dispatch_lacksNumber h

/-- **The schema and the handlers.**  For every operation and every payload that the schema rejects,
in every state: if the payload lacks a required field, every field of a selector, or a number its
handler cannot do without, then the request changes no record, and it is not answered as a success
unless a success is stored for it under its idempotency key.  Otherwise the field the schema rejects
is a number, and the getters of the handlers read its default. -/
theorem schema_rejection {operation : UInt32} {p : Payload} {field : Option String}
    (h : validatePayload p (WireSchema.schemaForOperation operation) = .error field) :
    ∃ s, WireSchema.schemaForOperation operation = some s ∧
      (s.Lacks p → ∀ (cfg : Config) (d : Daemon) (st : Step), st.req = ⟨operation, p⟩ →
        SameRecords d.state.svc (d.step cfg st).state.svc ∧
          ((d.answer cfg st).status = WireStatus.ok → d.state.svc.HoldsSuccess st.req)) ∧
      (¬ s.Lacks p → ∃ f ∈ s.fields, field = some f.name ∧ f.ReadsDefault p) := by
  cases hschema : WireSchema.schemaForOperation operation with
  | none =>
      rw [hschema] at h
      cases h
  | some s =>
      rw [hschema] at h
      have hcode : s.operation.code = operation := by simpa using List.find?_some hschema
      refine ⟨s, rfl, fun hlacks cfg d st hreq => ?_, fun hlacks => ?_⟩
      · refine Daemon.refused ?_
        rw [hreq, ← hcode]
        exact hlacks.refuses (List.mem_of_find?_eq_some hschema) _ _ _
      · rcases validatePayload_error h with hmissing | ⟨f, hf, hfield, htyped⟩
        · exact absurd hmissing hlacks
        · exact ⟨f, hf, hfield, PayloadField.readsDefault htyped⟩

/-- An object without a key. -/
def Payload.keyless : Payload := ⟨unlines [ascii "version=1"], by decide, by decide⟩

theorem schema_rejection_keyless :
    (Daemon.fresh.answer Config.durable (Step.idle .putObject .keyless)).status ≠ WireStatus.ok ∧
    SameRecords Daemon.fresh.state.svc (Daemon.after .putObject .keyless).state.svc := by
  obtain ⟨s, hs, hlacks, -⟩ := @schema_rejection WireOperation.putObject.code .keyless (some "key") rfl
  cases hs
  obtain ⟨hsame, hstored⟩ := hlacks
    (.field (List.mem_cons_self ..) rfl (by decide)) Config.durable Daemon.fresh
    (Step.idle .putObject .keyless) rfl
  refine ⟨fun hok => ?_, hsame⟩
  obtain ⟨key, r, hkey, -⟩ := hstored hok
  have hnone : idempotencyKey Payload.keyless = none := by decide
  exact Option.some_ne_none key (hkey.symm.trans hnone)

/-- An object with a version that is no number. -/
def Payload.wordVersion : Payload :=
  ⟨unlines [ascii "key=a", ascii "version=x"], by decide, by decide⟩

/-- An object without a key, under an idempotency key. -/
def Payload.keylessRepeat : Payload := ⟨unlines [ascii "idempotency_key=k"], by decide, by decide⟩

/-- A snapshot with a stored success for that object. -/
def Payload.storedSuccess : Payload :=
  ⟨unlines [storeMagic, ascii "store_schema_version=1", ascii "record_count=0",
    ascii "audit_next_sequence=1", ascii "audit_event_count=0", ascii "idempotency_begin",
    ascii "key=k", ascii "operation=16", ascii "request_checksum=3766306780", ascii "status=0",
    ascii "response_len=0", ascii "idempotency_end"], by decide +kernel, by decide +kernel⟩

/-- The schema rejects a version that is no number, and the daemon stores the object as version 1.
A stored success answers even an object without a key. -/
theorem schema_rejected_answered :
    validatePayload .wordVersion (WireSchema.schemaForOperation WireOperation.putObject.code) =
      .error (some "version") ∧
    (Daemon.fresh.answer Config.durable (Step.idle .putObject .wordVersion)).status =
      WireStatus.ok ∧
    ((Daemon.after .putObject .wordVersion).state.svc.findRecord (ascii "a")).map Record.version =
      some 1 ∧
    validatePayload .keylessRepeat (WireSchema.schemaForOperation WireOperation.putObject.code) =
      .error (some "key") ∧
    Daemon.Reachable Config.durable (Daemon.after .restoreSnapshot .storedSuccess) ∧
    ((Daemon.after .restoreSnapshot .storedSuccess).answer Config.durable
      (Step.idle .putObject .keylessRepeat)).status = WireStatus.ok := by
  refine ⟨rfl, by decide +kernel, by decide +kernel, rfl, Daemon.reachable_after _ _,
    by decide +kernel⟩

end MemService
