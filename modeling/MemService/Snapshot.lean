import MemService.Handlers
import MemService.StoreText

/-!
# Whole-table requests: snapshots, listings, the audit log

The handlers that print or replace whole tables.  Printing goes piece by piece into the response
buffer and stops at the first piece that does not fit, so a refused export leaves the pieces before
it in the buffer.

A snapshot is restored in one request, or page by page into a staged service that a commit request
installs.  The stage is a static variable of the daemon, one for all clients; `none` is the stage
that was reset.
-/

open ByteText CNumeral

namespace MemService

/-! ## Printing into the response buffer -/

/-- `mem_service_append_snapshot_text`, piece after piece: the text so far, and whether every piece
fitted. -/
def fillBuffer (cap : ℕ) : Bytes → List Bytes → Bytes × Bool
  | used, [] => (used, true)
  | used, t :: ts =>
      if used.length + t.length ≥ cap then (used, false) else fillBuffer cap (used ++ t) ts

/-- The reply of a handler that prints pieces into the whole response buffer. -/
def Reply.pieces (ts : List Bytes) : Reply :=
  let filled := fillBuffer maxPayloadLen [] ts
  ⟨if filled.2 then WireStatus.ok else WireStatus.capacityExceeded, filled.1⟩

/-- The pieces of `mem_service_append_snapshot_record_text`. -/
def recordPieces (r : Record) : List Bytes :=
  unlines (ascii "record_begin" :: recordFieldLines RecordField.printed r) ::
    ((memberLines r).map fun l => unlines [l]) ++ [unlines [ascii "record_end"]]

/-- The pieces of `mem_service_append_snapshot_idempotency_text`. -/
def idempotencyPieces (r : IdempotencyRecord) : List Bytes :=
  unlines
    [ascii "idempotency_begin",
      fieldLine "key" r.key.bytes,
      fieldLine "operation" (showU32 r.operation),
      fieldLine "request_checksum" (showU32 r.requestChecksum),
      fieldLine "status" (showU32 r.status.code),
      fieldLine "response_len" (decimal r.response.bytes.length)] ::
    ((lines r.response.bytes).map fun l => unlines [fieldLine "response_line" l]) ++
    [unlines [ascii "idempotency_end"]]

/-- `mem_service_audit_first_sequence`. -/
def Service.auditFirstSequence (svc : Service) : UInt64 :=
  if svc.auditEventCount = 0 ∨ svc.auditNextSequence = 0 then 1
  else if svc.auditNextSequence ≤ svc.auditEventCount then 1
  else svc.auditNextSequence - svc.auditEventCount

/-- The audit events `mem_service_export_snapshot` prints. -/
def Service.exportedAudit (svc : Service) : List AuditEvent :=
  if svc.auditEventCount > 0 then svc.auditWindow svc.auditFirstSequence.toNat else []

/-- The pieces of `mem_service_export_snapshot`. -/
def snapshotPieces (svc : Service) : List Bytes :=
  unlines (storeHeader svc) :: svc.records.entries.flatMap recordPieces ++
    svc.idempotency.entries.flatMap idempotencyPieces ++
    svc.exportedAudit.map fun e => unlines (saveAuditEvent e)

/-- `mem_service_export_snapshot`. -/
def exportSnapshot (svc : Service) : Reply := .pieces (snapshotPieces svc)

/-! ## Paged export -/

/-- `MEM_SERVICE_SNAPSHOT_PAGE_HEADER_RESERVE`. -/
def snapshotPageHeaderReserve : ℕ := 512

/-- How the record loop of `mem_service_export_snapshot_page` ends. -/
structure PageLoop where
  text : Bytes
  emitted : ℕ
  nextIndex : ℕ
  stoppedOnCapacity : Bool

/-- The record loop of `mem_service_export_snapshot_page`; `none` when its first record does not
fit. -/
def pageLoop (recordsLen maxRecords : ℕ) :
    List (ℕ × Record) → PageLoop → Option PageLoop
  | [], s => some s
  | (i, r) :: rest, s =>
      if maxRecords ≠ 0 ∧ s.emitted ≥ maxRecords then some { s with nextIndex := i }
      else
        match fillBuffer recordsLen s.text (recordPieces r) with
        | (text, true) =>
            pageLoop recordsLen maxRecords rest
              { s with text := text, emitted := s.emitted + 1, nextIndex := i + 1 }
        | (_, false) =>
            if s.emitted = 0 then none
            else some { s with nextIndex := i, stoppedOnCapacity := true }

/-- `mem_service_has_record_at_or_after`. -/
def hasRecordAtOrAfter (svc : Service) (start : ℕ) : Bool :=
  !(svc.records.indexedFrom start).isEmpty

/-- `mem_service_export_snapshot_page`. -/
def exportSnapshotPage (svc : Service) (p : Payload) : Reply :=
  let startIndex := min (p.getU64 "start_index" 0).toNat maxRecords
  match pageLoop (maxPayloadLen - snapshotPageHeaderReserve) (p.getU64 "max_records" 0).toNat
    (svc.records.indexedFrom startIndex) ⟨[], 0, startIndex, false⟩ with
  | none => .fail WireStatus.capacityExceeded
  | some s =>
      let complete := !s.stoppedOnCapacity && !hasRecordAtOrAfter svc s.nextIndex
      let nextIndex := if complete then maxRecords else s.nextIndex
      let text := unlines
        [fieldLine "snapshot_page" (decimal 1),
          fieldLine "store_magic" storeMagic,
          fieldLine "store_schema_version" (decimal 1),
          fieldLine "record_count" (decimal svc.recordCount),
          fieldLine "start_index" (decimal startIndex),
          fieldLine "next_index" (decimal nextIndex),
          fieldLine "records_emitted" (decimal s.emitted),
          fieldLine "complete" (decimal complete.toNat)] ++ s.text
      let response := snprintf maxPayloadLen text
      ⟨if response.length ≥ maxPayloadLen - 1 then WireStatus.capacityExceeded else WireStatus.ok,
        response⟩

/-! ## Restoring -/

/-- Install the tables of a restored service; the flags and the context check stay. -/
def Service.install (svc restored : Service) : Service :=
  { svc with
    records := restored.records
    idempotency := restored.idempotency
    audit := restored.audit
    recordCount := restored.recordCount
    auditNextSequence := restored.auditNextSequence
    auditEventCount := restored.auditEventCount }

/-- The answer of a restore. -/
def restoredReply (svc : Service) : Reply :=
  .fields [("status", ascii "ok"), ("restored", decimal 1),
    ("record_count", decimal svc.recordCount)]

/-- The service a restore imports its payload into. -/
def Service.initLike (svc : Service) : Option Service :=
  Service.init svc.controlPlaneReady svc.providerRegistryReady svc.durableReady

/-- `mem_service_restore_snapshot`. -/
def restoreSnapshot (svc : Service) (p : Payload) : Service × Reply :=
  if p.bytes = [] then (svc, .fail WireStatus.invalidSession)
  else
    match svc.initLike.bind fun base => importSnapshotText base p.bytes with
    | none => (svc, .fail WireStatus.invalidSession)
    | some restored =>
        let svc' := svc.install restored
        (svc', restoredReply svc')

/-- `struct mem_service_restore_snapshot_stage`, while it is active. -/
structure RestoreStage where
  expectedRecords : Option UInt64
  sawComplete : Bool
  nextPageIndex : UInt64
  svc : Service

/-- `mem_service_restore_snapshot_page_begin`. -/
def restorePageBegin (svc : Service) (p : Payload) : Option RestoreStage × Reply :=
  match svc.initLike with
  | none => (none, .fail WireStatus.internal)
  | some base =>
      let expected := p.getU64Checked "expected_records"
      (some
        { expectedRecords := expected
          sawComplete := expected == some 0
          nextPageIndex := 0
          svc := base },
        .fields [("status", ascii "ok"), ("restore_stage", ascii "begun"),
          ("expected_records", showU64 (expected.getD 0))])

/-- `mem_service_restore_snapshot_page_append`. -/
def restorePageAppend (stage : Option RestoreStage) (p : Payload) :
    Option RestoreStage × Reply :=
  match stage, p.getU64Checked "page_index" with
  | some s, some pageIndex =>
      if pageIndex ≠ s.nextPageIndex then (some s, .fail WireStatus.versionConflict)
      else
        match importSnapshotRecordsText s.svc p.bytes with
        | none => (none, .fail WireStatus.invalidSession)
        | some (staged, recordsImported) =>
            let s' : RestoreStage :=
              { s with
                svc := staged
                nextPageIndex := s.nextPageIndex + 1
                sawComplete := s.sawComplete || p.getU32 "complete" 0 != 0 }
            if s'.expectedRecords.any fun n => decide (staged.recordCount > n.toNat) then
              (none, .fail WireStatus.versionConflict)
            else
              (some s', .fields [("status", ascii "ok"), ("restore_stage", ascii "appended"),
                ("page_index", showU64 pageIndex), ("records_imported", decimal recordsImported),
                ("record_count", decimal staged.recordCount),
                ("complete", decimal s'.sawComplete.toNat)])
  | s, _ => (s, .fail WireStatus.invalidSession)

/-- The service a commit installs: the staged records, with empty idempotency and audit tables. -/
def RestoreStage.committed (s : RestoreStage) : Service :=
  { s.svc with
    idempotency := SlotTable.empty
    audit := SlotTable.empty
    auditNextSequence := 1
    auditEventCount := 0 }

/-- `mem_service_restore_snapshot_page_commit`. -/
def restorePageCommit (svc : Service) (stage : Option RestoreStage) :
    Service × Option RestoreStage × Reply :=
  match stage with
  | none => (svc, none, .fail WireStatus.invalidSession)
  | some s =>
      if s.expectedRecords.any fun n => decide (s.svc.recordCount ≠ n.toNat) then
        (svc, some s, .fail WireStatus.versionConflict)
      else if s.expectedRecords.isNone && !s.sawComplete then
        (svc, some s, .fail WireStatus.invalidSession)
      else
        let svc' := svc.install s.committed
        (svc', none, restoredReply svc')

/-- `mem_service_restore_snapshot_page`. -/
def restoreSnapshotPage (svc : Service) (stage : Option RestoreStage) (p : Payload) :
    Service × Option RestoreStage × Reply :=
  match p.getString "action" 32 with
  | none => (svc, stage, .fail WireStatus.invalidSession)
  | some action =>
      if action = ascii "begin" then (svc, restorePageBegin svc p)
      else if action = ascii "append" then (svc, restorePageAppend stage p)
      else if action = ascii "commit" then restorePageCommit svc stage
      else if action = ascii "cancel" then
        (svc, none, .fields [("status", ascii "ok"), ("restore_stage", ascii "cancelled")])
      else (svc, stage, .fail WireStatus.invalidSession)

/-! ## Status, listings and the audit log -/

/-- `mem_service_count_record_kind`. -/
def countRecordKind (svc : Service) (kind : RecordKind) : ℕ :=
  svc.records.entries.countP fun r => r.kind == kind

/-- `mem_service_status`. -/
def statusReply (env : Env) (svc : Service) : Reply :=
  let flag (b : Bool) := decimal b.toNat
  .fields
    [("ready", flag (svc.controlPlaneReady && svc.providerRegistryReady && svc.durableReady)),
      ("control_plane_ready", flag svc.controlPlaneReady),
      ("provider_registry_ready", flag svc.providerRegistryReady),
      ("durable_ready", flag svc.durableReady),
      ("data_plane_ready", flag env.dataPlaneReady),
      ("provider_count", decimal env.providerCount),
      ("provider_ready_count", decimal env.providerReadyCount),
      ("record_count", decimal svc.recordCount),
      ("prefix_group_count", decimal (countRecordKind svc RecordKind.prefixGroup)),
      ("prefix_entry_count", decimal (countRecordKind svc RecordKind.requestPrefix)),
      ("kv_segment_count", decimal (countRecordKind svc RecordKind.blockMeta)),
      ("object_count", decimal (countRecordKind svc RecordKind.kvcacheObject)),
      ("runtime_handoff_count", decimal (countRecordKind svc RecordKind.runtimeHandoff)),
      ("execution_artifact_count", decimal (countRecordKind svc RecordKind.executionArtifact)),
      ("training_artifact_count", decimal (countRecordKind svc RecordKind.trainingArtifact))]

/-- One line of `mem_service_list_records`. -/
def listRecordLine (i : ℕ) (r : Record) : Bytes :=
  unlines [ascii "record index=" ++ decimal i ++ ascii " kind=" ++ showU32 r.kind.code ++
    ascii " kind_name=" ++ r.kind.name ++ ascii " key=" ++ r.key.bytes ++ ascii " version=" ++
    showU64 r.version ++ ascii " checksum=" ++ showU64 r.objectPayloadChecksum]

/-- `mem_service_list_records`. -/
def listRecords (svc : Service) : Reply :=
  match svc.records.indexedFrom 0 with
  | [] => .fields [("record_count", decimal 0)]
  | rs => .pieces (rs.map fun r => listRecordLine r.1 r.2)

/-- One event of `mem_service_audit_log`. -/
def auditLogLines (e : AuditEvent) : List Bytes :=
  [ascii "audit_begin",
    fieldLine "sequence" (showU64 e.sequence),
    fieldLine "monotonic_ms" (showU64 e.monotonicMs),
    fieldLine "operation" (showU32 e.operation),
    fieldLine "operation_name" (operationName e.operation),
    fieldLine "status" (showU32 e.status.code),
    fieldLine "status_name" e.status.name,
    fieldLine "request_checksum" (showU32 e.requestChecksum),
    fieldLine "response_checksum" (showU32 e.responseChecksum),
    fieldLine "idempotency_replay" (showU32 e.idempotencyReplay),
    fieldLine "key" e.key.bytes,
    fieldLine "session_id" e.sessionId.bytes,
    fieldLine "model_key" e.modelKey.bytes,
    fieldLine "artifact_kind" e.artifactKind.bytes,
    fieldLine "artifact_id" e.artifactId.bytes,
    fieldLine "idempotency_key" e.idempotencyKey.bytes,
    fieldLine "version" (showU64 e.version),
    fieldLine "checksum" (showU64 e.checksum),
    ascii "audit_end"]

/-- `mem_service_audit_log`. -/
def auditLog (svc : Service) (p : Payload) : Reply :=
  let requested := p.getU64 "max_events" 16
  let maxEvents := min (if requested = 0 then 16 else requested).toNat 32
  let first := svc.auditFirstSequence
  let asked := p.getU64 "start_sequence" 0
  let start := if asked = 0 ∨ asked < first then first else asked
  let events := (svc.auditWindow start.toNat).take maxEvents
  let next := (events.getLast?.map fun e => e.sequence + 1).getD start
  .pieces
    (unlines
      [fieldLine "audit_log" (decimal 1),
        fieldLine "retained_events" (showU64 svc.auditEventCount),
        fieldLine "first_sequence" (showU64 first),
        fieldLine "start_sequence" (showU64 start)] ::
      events.map (fun e => unlines (auditLogLines e)) ++
      [unlines
        [fieldLine "events_emitted" (decimal events.length),
          fieldLine "next_sequence" (showU64 next),
          fieldLine "complete" (decimal (decide (next ≥ svc.auditNextSequence)).toNat)]])

/-! ## Dispatch -/

/-- The state the handlers work on: the service and the restore stage. -/
structure ServiceState where
  svc : Service
  stage : Option RestoreStage

/-- A handler that only reads. -/
def ServiceState.reads (s : ServiceState) (r : Reply) : ServiceState × Reply := (s, r)

/-- A handler that leaves the stage alone. -/
def ServiceState.writes (s : ServiceState) (r : Service × Reply) : ServiceState × Reply :=
  ({ s with svc := r.1 }, r.2)

/-- `mem_service_dispatch_operation`. -/
def dispatchOperation (env : Env) (storageRoot : Bool) (s : ServiceState) (operation : UInt32)
    (p : Payload) : ServiceState × Reply :=
  match WireOperation.ofCode operation with
  | none => s.reads (.fail WireStatus.unsupported)
  | some .health => s.reads ⟨WireStatus.ok, ascii "ok"⟩
  | some .ready =>
      s.reads (if s.svc.controlPlaneReady && s.svc.providerRegistryReady && s.svc.durableReady
        then ⟨WireStatus.ok, ascii "ok"⟩ else .fail WireStatus.internal)
  | some .status => s.reads (statusReply env s.svc)
  | some .listRecords => s.reads (listRecords s.svc)
  | some .metrics => s.reads ⟨WireStatus.ok, snprintf maxPayloadLen env.metricsText⟩
  | some .exportSnapshot => s.reads (exportSnapshot s.svc)
  | some .exportSnapshotPage => s.reads (exportSnapshotPage s.svc p)
  | some .restoreSnapshot => s.writes (restoreSnapshot s.svc p)
  | some .restoreSnapshotPage =>
      let r := restoreSnapshotPage s.svc s.stage p
      (⟨r.1, r.2.1⟩, r.2.2)
  | some .auditLog => s.reads (auditLog s.svc p)
  | some .putObject => s.writes (putObject env storageRoot s.svc p)
  | some .getObject => s.reads (getObject env storageRoot s.svc p)
  | some .inspectObject => s.reads (inspectObject env storageRoot s.svc p)
  | some .materializeObject => s.reads (materializeObject env storageRoot s.svc p)
  | some .registerPrefixEntry => s.writes (registerPrefix s.svc p)
  | some .lookupPrefixEntry => s.reads (lookupPrefix s.svc p)
  | some .publishKvSegment => s.writes (publishKv s.svc p)
  | some .resolveKvSegment => s.reads (resolveKv s.svc p)
  | some .publishRuntimeHandoff =>
      s.writes (storeArtifact env storageRoot s.svc p RecordKind.runtimeHandoff)
  | some .resolveRuntimeHandoff =>
      s.reads (queryArtifact env storageRoot s.svc p RecordKind.runtimeHandoff)
  | some .registerExecutionArtifact =>
      s.writes (storeArtifact env storageRoot s.svc p RecordKind.executionArtifact)
  | some .queryExecutionArtifact =>
      s.reads (queryArtifact env storageRoot s.svc p RecordKind.executionArtifact)
  | some .registerTrainingArtifact =>
      s.writes (storeArtifact env storageRoot s.svc p RecordKind.trainingArtifact)
  | some .queryTrainingArtifact =>
      s.reads (queryArtifact env storageRoot s.svc p RecordKind.trainingArtifact)

end MemService
