import MemService.Lib.Run
import MemService.Snapshot
import MemService.Retention
import MemService.Journal

/-!
# The daemon: one request, and runs of requests

`mem_service_handle_operation_with_limits` answers a request in three stages.  It looks the
idempotency key up and may replay a stored answer; otherwise it checks the record quota, dispatches
the operation, runs the retention passes and completes the idempotency record.  Then it appends an
audit event for every mutating request and every refusal of a stale client.  Last it makes the
outcome durable: journal first, then the store, then compaction.

Each durable write can fail on its own, and a failed one is reported but not undone.  `Writes` says
how the writes of one request go.  `Handled.truncated` records the files as they were at every
moment the journal was cut back to its header.
-/

open ByteText CNumeral

namespace MemService

/-- How a daemon was started: with a store path, with a storage root, and its limits. -/
structure Config where
  storePath : Bool
  storageRoot : Bool
  limits : Option DaemonLimits

/-- The durable files; `none` is a file that does not exist. -/
structure Disk where
  store : Option Bytes
  journal : Option Bytes
  deriving DecidableEq

/-- The daemon between two requests. -/
structure Daemon where
  state : ServiceState
  disk : Disk

/-- A request as it reaches the handler. -/
structure Request where
  operation : UInt32
  payload : Payload
  deriving DecidableEq

/-! ## Requests that change the service -/

/-- `mem_service_operation_mutates`. -/
def operationMutates (operation : UInt32) (p : Payload) : Bool :=
  match WireOperation.ofCode operation with
  | some .restoreSnapshot => true
  | some .restoreSnapshotPage => p.getString "action" 32 == some (ascii "commit")
  | some .putObject => true
  | some .registerPrefixEntry => true
  | some .publishKvSegment => true
  | some .publishRuntimeHandoff => true
  | some .registerExecutionArtifact => true
  | some .registerTrainingArtifact => true
  | _ => false

/-! ## The record quota -/

section Quota

variable (svc : Service) (p : Payload)

/-- A key that is not in the table would take one slot. -/
def newRecords (key : Bytes) : ℕ := if svc.findRecord key = none then 1 else 0

/-- `mem_service_estimate_new_key_record_count`; `none` stands for `UINT64_MAX`. -/
def estimateNewKeyRecordCount : Option ℕ := (p.getString "key" 96).map (newRecords svc)

/-- `mem_service_estimate_new_kv_record_count`. -/
def estimateNewKvRecordCount : Option ℕ :=
  (p.getString "block_hash" 96).map fun h =>
    newRecords svc (keyOrEmpty (buildBlockKeyFromHash h)).bytes

/-- `mem_service_estimate_new_prefix_record_count`. -/
def estimateNewPrefixRecordCount : Option ℕ :=
  match p.getString "request_id" 64, p.getString "prefix_group" 64 with
  | some requestId, some prefixGroup =>
      (estimateNewKvRecordCount svc p).map fun n =>
        newRecords svc (keyOrEmpty (buildPrefixKeyFromParts requestId prefixGroup)).bytes + n
  | _, _ => none

/-- `mem_service_estimate_new_record_count`. -/
def estimateNewRecordCount (operation : UInt32) : Option ℕ :=
  match WireOperation.ofCode operation with
  | some .putObject => estimateNewKeyRecordCount svc p
  | some .publishRuntimeHandoff => estimateNewKeyRecordCount svc p
  | some .registerExecutionArtifact => estimateNewKeyRecordCount svc p
  | some .registerTrainingArtifact => estimateNewKeyRecordCount svc p
  | some .publishKvSegment => estimateNewKvRecordCount svc p
  | some .registerPrefixEntry => estimateNewPrefixRecordCount svc p
  | _ => if operationMutates operation p then none else some 0

/-- The quota admission of `mem_service_handle_operation_with_limits` refuses the request. -/
def quotaRefuses (limits : Option DaemonLimits) (newRecords : Option ℕ) : Bool :=
  match limits with
  | none => false
  | some l =>
      l.maxRecords > 0 && newRecords != some 0 &&
        match newRecords with
        | none => true
        | some n => decide (svc.recordCount ≥ l.maxRecords.toNat ∨
            n > l.maxRecords.toNat - svc.recordCount)

/-- The answer to a request the quota refuses. -/
def quotaReply (limits : Option DaemonLimits) (newRecords : Option ℕ) : Reply :=
  ⟨WireStatus.capacityExceeded, respond
    [fieldLine "status" (ascii "capacity_exceeded"), fieldLine "quota" (ascii "max_records"),
      fieldLine "max_records" (showU64 (limits.elim 0 DaemonLimits.maxRecords)),
      fieldLine "record_count" (decimal svc.recordCount),
      fieldLine "required_records" (decimal (newRecords.getD 0))]⟩

end Quota

/-! ## Idempotency -/

/-- `mem_service_payload_get_idempotency_key`. -/
def idempotencyKey (p : Payload) : Option (FieldText 96) := p.getHeaderField "idempotency_key" 96

/-- What looking the idempotency key up decides: the request is executed, with a slot for its
outcome if it has a key, or it is answered at once. -/
inductive Replay
  | execute (pending : Option (ℕ × FieldText 96))
  | handled (reply : Reply)

/-- `mem_service_try_idempotency_replay`. -/
def tryIdempotencyReplay (svc : Service) (operation : UInt32) (p : Payload) : Replay :=
  if !operationMutates operation p then .execute none
  else
    match idempotencyKey p with
    | none => .execute none
    | some key =>
        match svc.findIdempotencyRecord key.bytes with
        | none =>
            match svc.allocIdempotencyRecord with
            | none =>
                .handled ⟨WireStatus.capacityExceeded, respond
                  [fieldLine "status" (ascii "capacity_exceeded"),
                    fieldLine "idempotency_key" key.bytes]⟩
            | some slot => .execute (some (slot, key))
        | some r =>
            if r.operation ≠ operation ∨ r.requestChecksum ≠ wireChecksum p.bytes then
              .handled ⟨WireStatus.versionConflict, respond
                [fieldLine "status" (ascii "version_conflict"),
                  fieldLine "idempotency_key" key.bytes]⟩
            else .handled ⟨r.status, r.response.bytes⟩

/-- The record `mem_service_complete_idempotency_record` writes. -/
def completedRecord (key : FieldText 96) (req : Request) (reply : Reply) : IdempotencyRecord :=
  { key := key
    operation := req.operation
    requestChecksum := wireChecksum req.payload.bytes
    status := reply.status
    response := .copy reply.response }

/-- `mem_service_complete_idempotency_record`, into the slot that was found free. -/
def Service.complete (svc : Service) (pending : Option (ℕ × FieldText 96)) (req : Request)
    (reply : Reply) : Service :=
  match pending with
  | none => svc
  | some (slot, key) =>
      { svc with idempotency := svc.idempotency.put slot (completedRecord key req reply) }

/-! ## Answering -/

/-- A request's answer before it is audited and made durable. -/
structure Answer where
  state : ServiceState
  reply : Reply
  pending : Option (ℕ × FieldText 96)
  replayed : Bool
  checkpointPruned : Bool
  recordPruned : Bool

/-- Dispatch and retention, for a request that passed the quota. -/
def executeOperation (cfg : Config) (env : Env) (s : ServiceState) (req : Request) :
    ServiceState × Reply × Bool × Bool :=
  let (s₁, reply) := dispatchOperation env cfg.storageRoot s req.operation req.payload
  match cfg.limits with
  | none => (s₁, reply, false, false)
  | some limits =>
      let checkpoint :=
        if reply.status = WireStatus.ok ∧
            req.operation = WireOperation.registerTrainingArtifact.code then
          s₁.svc.applyCheckpointRetention limits.maxCheckpointRecords
        else (s₁.svc, false)
      let retained :=
        if reply.status = WireStatus.ok ∧ operationMutates req.operation req.payload then
          checkpoint.1.applyRecordRetention limits env.retentionNowMs
        else (checkpoint.1, false)
      ({ s₁ with svc := retained.1 }, reply, checkpoint.2, retained.2)

/-- The first stage of `mem_service_handle_operation_with_limits`. -/
def answerRequest (cfg : Config) (env : Env) (s : ServiceState) (req : Request) : Answer :=
  match tryIdempotencyReplay s.svc req.operation req.payload with
  | .handled reply => ⟨s, reply, none, true, false, false⟩
  | .execute pending =>
      let newRecords := estimateNewRecordCount s.svc req.payload req.operation
      let executed :=
        if quotaRefuses s.svc cfg.limits newRecords then
          (s, quotaReply s.svc cfg.limits newRecords, false, false)
        else executeOperation cfg env s req
      { state := { executed.1 with
          svc := executed.1.svc.complete pending req executed.2.1 }
        reply := executed.2.1
        pending := pending
        replayed := false
        checkpointPruned := executed.2.2.1
        recordPruned := executed.2.2.2 }

/-! ## Auditing -/

/-- `mem_service_payload_get_audit_string`. -/
def auditString (p : Payload) (primary : String) (fallback : Option String) (cap : ℕ)
    [NeZero cap] : FieldText cap :=
  ((p.getHeaderField primary cap).or (fallback.bind fun f => p.getHeaderField f cap)).getD
    FieldText.blank

/-- `mem_service_payload_get_audit_u64`. -/
def auditU64 (p : Payload) (primary fallback : String) : UInt64 :=
  match (payloadGetHeaderString p (ascii primary) 64).or
      (payloadGetHeaderString p (ascii fallback) 64) with
  | some v => parseU64Value v 0
  | none => 0

/-- The event `mem_service_append_audit_event` writes. -/
def auditEvent (sequence monotonicMs : UInt64) (req : Request) (reply : Reply) (replayed : Bool) :
    AuditEvent :=
  let p := req.payload
  { sequence := sequence
    monotonicMs := monotonicMs
    operation := req.operation
    status := reply.status
    requestChecksum := wireChecksum p.bytes
    responseChecksum := wireChecksum reply.response
    idempotencyReplay := if replayed then 1 else 0
    key := auditString p "key" none 96
    sessionId := auditString p "session_id" (some "expected_session_id") 64
    modelKey := auditString p "model_key" (some "expected_model_key") 64
    artifactKind := auditString p "artifact_kind" (some "expected_artifact_kind") 64
    artifactId := auditString p "artifact_id" (some "expected_artifact_id") 96
    idempotencyKey := auditString p "idempotency_key" none 96
    version := auditU64 p "version" "expected_version"
    checksum := auditU64 p "checksum" "expected_checksum" }

/-- `mem_service_should_audit_operation`. -/
def shouldAudit (req : Request) (reply : Reply) : Bool :=
  operationMutates req.operation req.payload || reply.status.isFailClosed

/-- The number the next audit event gets. -/
def Service.nextSequence (svc : Service) : UInt64 :=
  if svc.auditNextSequence = 0 then 1 else svc.auditNextSequence

/-- The ring with one more event. -/
def Service.recordAudit (svc : Service) (e : AuditEvent) : Service :=
  { svc with
    audit := svc.audit.put (Service.auditSlot e.sequence) e
    auditNextSequence := e.sequence + 1
    auditEventCount :=
      if svc.auditEventCount < 256 then svc.auditEventCount + 1 else svc.auditEventCount }

/-- `mem_service_append_audit_event`: the service and the event, if the request is audited. -/
def Service.appendAuditEvent (svc : Service) (monotonicMs : UInt64) (req : Request)
    (reply : Reply) (replayed : Bool) : Service × Option AuditEvent :=
  if shouldAudit req reply then
    let e := auditEvent svc.nextSequence monotonicMs req reply replayed
    (svc.recordAudit e, some e)
  else (svc, none)

/-! ## The durable files -/

/-- How the durable writes of one request go, in the order in which the code may make them. -/
structure Writes where
  append : AppendOutcome
  save : Bool
  appendAgain : AppendOutcome
  saveAgain : Bool
  compact : Bool
  compactAudit : Bool
  saveCheckpoint : Bool
  compactCheckpoint : Bool
  saveRetention : Bool
  compactRetention : Bool

/-- Every write succeeds. -/
def Writes.allDone : Writes :=
  { append := .done, save := true, appendAgain := .done, saveAgain := true, compact := true
    compactAudit := true, saveCheckpoint := true, compactCheckpoint := true
    saveRetention := true, compactRetention := true }

namespace Disk

/-- `mem_service_append_journal`. -/
def append (d : Disk) (idempotency : Option IdempotencyRecord) (event : Option AuditEvent)
    (outcome : AppendOutcome) : Disk × Bool :=
  let (journal, ok) := appendJournal d.journal idempotency event outcome
  ({ d with journal := journal }, ok)

/-- `mem_service_save_store`: written to a temporary file and renamed, so a failure leaves the old
file. -/
def save (d : Disk) (svc : Service) (ok : Bool) : Disk :=
  if ok then { d with store := some (saveStore svc) } else d

/-- `mem_service_compact_journal_now`: the files afterwards, and the files a header replaced. -/
def compactNow (d : Disk) (ok : Bool) : Disk × List Disk :=
  if ok then ({ d with journal := some headerOnly }, [d]) else (d, [])

/-- `mem_service_compact_journal`: only past the threshold. -/
def compact (d : Disk) (ok : Bool) : Disk × List Disk :=
  match d.journal with
  | none => (d, [])
  | some j => if j.length ≤ journalCompactionThresholdBytes then (d, []) else d.compactNow ok

/-- The durable sync after a retention pass: the journal is cut only if the store was saved. -/
def syncRetention (d : Disk) (svc : Service) (saved compacted : Bool) : Disk × List Disk :=
  if saved then (d.save svc true).compactNow compacted else (d, [])

end Disk

/-- The outcome of one request. -/
structure Handled where
  daemon : Daemon
  reply : Reply
  truncated : List Disk

/-- A service with its files and the answer as they stand. -/
structure Persisted where
  svc : Service
  disk : Disk
  reply : Reply

/-- The record behind the pending pointer. -/
def pendingRecord (pending : Option (ℕ × FieldText 96)) (req : Request) (reply : Reply) :
    Option IdempotencyRecord :=
  pending.map fun s => completedRecord s.2 req reply

/-- `"durable_store_save_failed\n"`. -/
def saveFailedReply : Reply := ⟨WireStatus.internal, unlines [ascii "durable_store_save_failed"]⟩

/-- The first durable step: append to the journal, then save the store; if one of them fails, a
successful mutating request is answered as failed, audited again and written again. -/
def persist (env : Env) (w : Writes) (svc : Service) (disk : Disk) (a : Answer) (req : Request)
    (event : AuditEvent) : Persisted :=
  let (disk₁, appended) := disk.append (pendingRecord a.pending req a.reply) (some event) w.append
  let disk₂ := if appended then disk₁.save svc w.save else disk₁
  if appended && w.save then ⟨svc, disk₂, a.reply⟩
  else if a.reply.status = WireStatus.ok ∧ operationMutates req.operation req.payload then
    let (svc', event') := (svc.complete a.pending req saveFailedReply).appendAuditEvent
      env.failureMonotonicMs req saveFailedReply a.replayed
    let (disk₃, _) :=
      disk₂.append (pendingRecord a.pending req saveFailedReply) event' w.appendAgain
    ⟨svc', disk₃.save svc' w.saveAgain, saveFailedReply⟩
  else ⟨svc, disk₂, a.reply⟩

/-- The service with the request's audit event, after audit retention. -/
structure Audited where
  svc : Service
  event : Option AuditEvent
  pruned : Bool

/-- The second stage of `mem_service_handle_operation_with_limits`. -/
def auditRequest (cfg : Config) (env : Env) (a : Answer) (req : Request) : Audited :=
  let appended := a.state.svc.appendAuditEvent env.monotonicMs req a.reply a.replayed
  let retained :=
    if appended.2.isSome then
      appended.1.applyAuditRetention (cfg.limits.elim 0 DaemonLimits.maxAuditEvents)
    else (appended.1, false)
  ⟨retained.1, appended.2, retained.2⟩

/-- The durable writes of the third stage, for an audited request of a daemon with a store path. -/
def persistRequest (cfg : Config) (env : Env) (w : Writes) (disk : Disk) (a : Answer)
    (req : Request) (au : Audited) : Persisted :=
  match au.event, cfg.storePath with
  | some e, true => persist env w au.svc disk a req e
  | _, _ => ⟨au.svc, disk, a.reply⟩

/-- The end of the third stage: compaction past the threshold, then the durable sync of the three
retention passes.  The files afterwards, and the files at every moment the journal was cut. -/
def compactRequest (cfg : Config) (w : Writes) (a : Answer) (req : Request) (auditPruned : Bool)
    (p : Persisted) : Disk × List Disk :=
  let compacted :=
    if p.reply.status = WireStatus.ok ∧ operationMutates req.operation req.payload ∧
        cfg.storePath then p.disk.compact w.compact
    else (p.disk, [])
  let audited :=
    if auditPruned ∧ cfg.storePath then compacted.1.compactNow w.compactAudit
    else (compacted.1, [])
  let checkpointed :=
    if a.checkpointPruned ∧ cfg.storePath then
      audited.1.syncRetention p.svc w.saveCheckpoint w.compactCheckpoint
    else (audited.1, [])
  let retained :=
    if a.recordPruned ∧ cfg.storePath then
      checkpointed.1.syncRetention p.svc w.saveRetention w.compactRetention
    else (checkpointed.1, [])
  (retained.1, compacted.2 ++ audited.2 ++ checkpointed.2 ++ retained.2)

/-- `mem_service_handle_operation_with_limits`. -/
def handleOperation (cfg : Config) (d : Daemon) (req : Request) (env : Env) (w : Writes) :
    Handled :=
  let a := answerRequest cfg env d.state req
  let au := auditRequest cfg env a req
  let p := persistRequest cfg env w d.disk a req au
  let files := compactRequest cfg w a req au.pruned p
  { daemon := ⟨{ a.state with svc := p.svc }, files.1⟩
    reply := p.reply
    truncated := files.2 }

/-! ## Runs -/

/-- `mem_service_load_durable_store` into a fresh service.  A store without a schema line is
rewritten at once and the journal compacted. -/
def loadDurableStore (disk : Disk) : Option (Service × Disk) :=
  (loadStore Service.fresh disk.store).bind fun (svc, legacy) =>
    (loadJournal svc disk.journal).map fun svc =>
      (svc, if legacy then ((disk.save svc true).compact true).1 else disk)

/-- The passes `mem_service serve` makes over the loaded tables, and whether they deleted anything. -/
def Service.startRetention (svc : Service) (limits : DaemonLimits) (nowMs : UInt64) :
    Service × Bool :=
  let audited := svc.applyAuditRetention limits.maxAuditEvents
  let checkpoint := audited.1.applyCheckpointRetention limits.maxCheckpointRecords
  let retained := checkpoint.1.applyRecordRetention limits nowMs
  (retained.1, audited.2 || checkpoint.2 || retained.2)

/-- The passes `mem_service serve` makes over the loaded tables, with the files it writes after them. -/
def Daemon.startRetention (cfg : Config) (d : Daemon) (limits : DaemonLimits) (nowMs : UInt64) :
    Daemon :=
  let started := d.state.svc.startRetention limits nowMs
  ⟨{ d.state with svc := started.1 },
    if started.2 ∧ cfg.storePath then ((d.disk.save started.1 true).compactNow true).1 else d.disk⟩

/-- A request together with what the world does during it. -/
structure Step where
  req : Request
  env : Env
  writes : Writes

/-- A world in which the clocks stand still and no block is read or written. -/
def Env.idle : Env :=
  { wallClockMs := 0
    retentionNowMs := 0
    monotonicMs := 0
    failureMonotonicMs := 0
    payloadSource := .error ⟨WireStatus.notFound, by decide⟩
    blockWrite := .done
    blockIntact := true
    materialized := none
    ubSsd := .error ⟨WireStatus.notFound, by decide⟩
    dataPlaneReady := true
    providerCount := 0
    providerReadyCount := 0
    metricsText := [] }

/-- The daemon after a request. -/
def Daemon.step (cfg : Config) (d : Daemon) (s : Step) : Daemon :=
  (handleOperation cfg d s.req s.env s.writes).daemon

/-- The daemon after several requests. -/
def Daemon.run (cfg : Config) (d : Daemon) (steps : List Step) : Daemon :=
  Run.run (Daemon.step cfg) d steps

/-- Every request of the run meets `P` in the state it finds. -/
def Daemon.Along (cfg : Config) (P : Daemon → Step → Prop) (d : Daemon) (steps : List Step) :
    Prop :=
  Run.Along (Daemon.step cfg) P d steps

/-- A daemon that was started without files. -/
def Daemon.fresh : Daemon := ⟨⟨Service.fresh, none⟩, ⟨none, none⟩⟩

/-- The states a daemon can be in: started from any files it can load, then the passes at the start and
any requests. -/
inductive Daemon.Reachable (cfg : Config) : Daemon → Prop
  | start {disk disk' : Disk} {svc : Service} (h : loadDurableStore disk = some (svc, disk')) :
      Daemon.Reachable cfg ⟨⟨svc, none⟩, disk'⟩
  | retention {d : Daemon} (h : Daemon.Reachable cfg d) (limits : DaemonLimits) (nowMs : UInt64) :
      Daemon.Reachable cfg (d.startRetention cfg limits nowMs)
  | step {d : Daemon} (h : Daemon.Reachable cfg d) (s : Step) :
      Daemon.Reachable cfg (d.step cfg s)

lemma Daemon.reachable_fresh (cfg : Config) : Daemon.Reachable cfg Daemon.fresh := by
  have hload : loadDurableStore ⟨none, none⟩ = some (Service.fresh, ⟨none, none⟩) := rfl
  exact Daemon.Reachable.start hload

lemma Daemon.Reachable.run {cfg : Config} {d : Daemon} (h : Daemon.Reachable cfg d)
    (steps : List Step) : Daemon.Reachable cfg (d.run cfg steps) :=
  Run.invariant (I := Daemon.Reachable cfg) (fun _ s hd => hd.step s) h steps

/-- A daemon with a store path and no limits. -/
def Config.durable : Config := ⟨true, true, none⟩

/-- A request in an idle world, with every write done. -/
def Step.idle (operation : WireOperation) (payload : Payload) : Step :=
  ⟨⟨operation.code, payload⟩, Env.idle, Writes.allDone⟩

/-- The daemon after one request in an idle world, with every write done. -/
def Daemon.after (operation : WireOperation) (payload : Payload) : Daemon :=
  Daemon.fresh.run Config.durable [Step.idle operation payload]

lemma Daemon.reachable_after (operation : WireOperation) (payload : Payload) :
    Daemon.Reachable Config.durable (Daemon.after operation payload) :=
  (Daemon.reachable_fresh _).run _

end MemService
