import Mathlib.Data.UInt
import MemService.Idempotency

/-!
# The metrics counters

`struct mem_service_metrics` counts requests by outcome, by operation and by latency.  A request goes
through `mem_service_record_operation_metrics` once: at the one exit of
`mem_service_handle_operation_with_limits`, where `mem_service_handle_client` finds its payload over the
limit of the daemon, or where the metrics listener answers an HTTP request.  So the counters stay in step
with each other: each request is a success or an error, and falls into one latency bucket.

The error counters by status are the exception.  The recording switch knows the ten failures of the
wire and counts any other status as an error only.  A handler never answers with another status, but
a replay answers with the status that stands in the idempotency record, and one read back from a
store, a journal or a snapshot is whatever number stands there.

Counters are 64-bit and wrap; the laws below are equations between 64-bit numbers.
-/

open ByteText CNumeral

namespace MemService

/-! ## The counters -/

/-- `struct mem_service_metrics`. -/
structure Metrics where
  requestCount : UInt64 := 0
  okCount : UInt64 := 0
  errorCount : UInt64 := 0
  notFoundCount : UInt64 := 0
  staleRefCount : UInt64 := 0
  checksumMismatchCount : UInt64 := 0
  versionConflictCount : UInt64 := 0
  invalidModelBindingCount : UInt64 := 0
  invalidSessionCount : UInt64 := 0
  timeoutCount : UInt64 := 0
  capacityExceededCount : UInt64 := 0
  unsupportedCount : UInt64 := 0
  internalCount : UInt64 := 0
  failClosedCount : UInt64 := 0
  healthCount : UInt64 := 0
  readyCount : UInt64 := 0
  statusCount : UInt64 := 0
  listRecordsCount : UInt64 := 0
  metricsCount : UInt64 := 0
  auditLogCount : UInt64 := 0
  exportSnapshotCount : UInt64 := 0
  exportSnapshotPageCount : UInt64 := 0
  restoreSnapshotCount : UInt64 := 0
  restoreSnapshotPageCount : UInt64 := 0
  putObjectCount : UInt64 := 0
  getObjectCount : UInt64 := 0
  inspectObjectCount : UInt64 := 0
  materializeObjectCount : UInt64 := 0
  getObjectHitCount : UInt64 := 0
  getObjectMissCount : UInt64 := 0
  registerPrefixCount : UInt64 := 0
  lookupPrefixCount : UInt64 := 0
  prefixLookupHitCount : UInt64 := 0
  prefixLookupMissCount : UInt64 := 0
  publishKvCount : UInt64 := 0
  resolveKvCount : UInt64 := 0
  kvResolveHitCount : UInt64 := 0
  kvResolveMissCount : UInt64 := 0
  publishRuntimeHandoffCount : UInt64 := 0
  resolveRuntimeHandoffCount : UInt64 := 0
  registerExecutionArtifactCount : UInt64 := 0
  queryExecutionArtifactCount : UInt64 := 0
  registerTrainingArtifactCount : UInt64 := 0
  queryTrainingArtifactCount : UInt64 := 0
  artifactQueryHitCount : UInt64 := 0
  artifactQueryMissCount : UInt64 := 0
  idempotencyReplayCount : UInt64 := 0
  idempotencyConflictCount : UInt64 := 0
  requestLatencyTotalMs : UInt64 := 0
  requestLatencyMaxMs : UInt64 := 0
  requestLatencyBucketCounts : Vector UInt64 6 := Vector.replicate 6 0

/-- `mem_service_latency_bucket_limits_ms`. -/
def latencyBucketLimitsMs : Vector UInt64 6 := #v[1, 5, 10, 50, 100, 18446744073709551615]

/-- A counter that goes up if a condition holds. -/
def tally (n : UInt64) (c : Bool) : UInt64 := if c then n + 1 else n

namespace Metrics

variable (m : Metrics)

/-- `mem_service_record_status_metrics`. -/
def recordStatus (status : WireStatus) : Metrics :=
  if status = WireStatus.ok then { m with okCount := m.okCount + 1 }
  else
    { m with
      errorCount := m.errorCount + 1
      notFoundCount := tally m.notFoundCount (status == WireStatus.notFound)
      staleRefCount := tally m.staleRefCount (status == WireStatus.staleRef)
      checksumMismatchCount :=
        tally m.checksumMismatchCount (status == WireStatus.checksumMismatch)
      versionConflictCount := tally m.versionConflictCount (status == WireStatus.versionConflict)
      invalidModelBindingCount :=
        tally m.invalidModelBindingCount (status == WireStatus.invalidModelBinding)
      invalidSessionCount := tally m.invalidSessionCount (status == WireStatus.invalidSession)
      timeoutCount := tally m.timeoutCount (status == WireStatus.timeout)
      capacityExceededCount :=
        tally m.capacityExceededCount (status == WireStatus.capacityExceeded)
      unsupportedCount := tally m.unsupportedCount (status == WireStatus.unsupported)
      internalCount := tally m.internalCount (status == WireStatus.internal)
      failClosedCount := tally m.failClosedCount status.isFailClosed }

/-- The bucket `mem_service_record_latency_metrics` picks: the first whose limit is not below the
latency. -/
def latencyBucket (latencyMs : UInt64) : Fin 6 :=
  ((List.finRange 6).find? fun i => decide (latencyMs ≤ latencyBucketLimitsMs[i])).getD 5

/-- `mem_service_record_latency_metrics`. -/
def recordLatency (latencyMs : UInt64) : Metrics :=
  { m with
    requestLatencyTotalMs := m.requestLatencyTotalMs + latencyMs
    requestLatencyMaxMs :=
      if latencyMs > m.requestLatencyMaxMs then latencyMs else m.requestLatencyMaxMs
    requestLatencyBucketCounts :=
      m.requestLatencyBucketCounts.set (latencyBucket latencyMs)
        (m.requestLatencyBucketCounts[latencyBucket latencyMs] + 1) }

/-- The counters by operation of `mem_service_record_operation_metrics`. -/
def countOperation (operation : UInt32) (status : WireStatus) : Metrics :=
  let hit := status == WireStatus.ok
  let miss := status == WireStatus.notFound
  match WireOperation.ofCode operation with
  | none => m
  | some .health => { m with healthCount := m.healthCount + 1 }
  | some .ready => { m with readyCount := m.readyCount + 1 }
  | some .status => { m with statusCount := m.statusCount + 1 }
  | some .listRecords => { m with listRecordsCount := m.listRecordsCount + 1 }
  | some .metrics => { m with metricsCount := m.metricsCount + 1 }
  | some .auditLog => { m with auditLogCount := m.auditLogCount + 1 }
  | some .exportSnapshot => { m with exportSnapshotCount := m.exportSnapshotCount + 1 }
  | some .exportSnapshotPage => { m with exportSnapshotPageCount := m.exportSnapshotPageCount + 1 }
  | some .restoreSnapshot => { m with restoreSnapshotCount := m.restoreSnapshotCount + 1 }
  | some .restoreSnapshotPage =>
      { m with restoreSnapshotPageCount := m.restoreSnapshotPageCount + 1 }
  | some .putObject => { m with putObjectCount := m.putObjectCount + 1 }
  | some .getObject =>
      { m with
        getObjectCount := m.getObjectCount + 1
        getObjectHitCount := tally m.getObjectHitCount hit
        getObjectMissCount := tally m.getObjectMissCount miss }
  | some .inspectObject => { m with inspectObjectCount := m.inspectObjectCount + 1 }
  | some .materializeObject => { m with materializeObjectCount := m.materializeObjectCount + 1 }
  | some .registerPrefixEntry => { m with registerPrefixCount := m.registerPrefixCount + 1 }
  | some .lookupPrefixEntry =>
      { m with
        lookupPrefixCount := m.lookupPrefixCount + 1
        prefixLookupHitCount := tally m.prefixLookupHitCount hit
        prefixLookupMissCount := tally m.prefixLookupMissCount miss }
  | some .publishKvSegment => { m with publishKvCount := m.publishKvCount + 1 }
  | some .resolveKvSegment =>
      { m with
        resolveKvCount := m.resolveKvCount + 1
        kvResolveHitCount := tally m.kvResolveHitCount hit
        kvResolveMissCount := tally m.kvResolveMissCount miss }
  | some .publishRuntimeHandoff =>
      { m with publishRuntimeHandoffCount := m.publishRuntimeHandoffCount + 1 }
  | some .resolveRuntimeHandoff =>
      { m with
        resolveRuntimeHandoffCount := m.resolveRuntimeHandoffCount + 1
        artifactQueryHitCount := tally m.artifactQueryHitCount hit
        artifactQueryMissCount := tally m.artifactQueryMissCount miss }
  | some .registerExecutionArtifact =>
      { m with registerExecutionArtifactCount := m.registerExecutionArtifactCount + 1 }
  | some .queryExecutionArtifact =>
      { m with
        queryExecutionArtifactCount := m.queryExecutionArtifactCount + 1
        artifactQueryHitCount := tally m.artifactQueryHitCount hit
        artifactQueryMissCount := tally m.artifactQueryMissCount miss }
  | some .registerTrainingArtifact =>
      { m with registerTrainingArtifactCount := m.registerTrainingArtifactCount + 1 }
  | some .queryTrainingArtifact =>
      { m with
        queryTrainingArtifactCount := m.queryTrainingArtifactCount + 1
        artifactQueryHitCount := tally m.artifactQueryHitCount hit
        artifactQueryMissCount := tally m.artifactQueryMissCount miss }

/-- `mem_service_record_operation_metrics`. -/
def recordOperation (operation : UInt32) (status : WireStatus) (latencyMs : UInt64) : Metrics :=
  (({ m with requestCount := m.requestCount + 1 }.recordStatus status).recordLatency
    latencyMs).countOperation operation status

/-- The lines of `mem_service_metrics`. -/
def fields : List (String × UInt64) :=
  [("request_count", m.requestCount), ("ok_count", m.okCount), ("error_count", m.errorCount),
    ("not_found_count", m.notFoundCount), ("stale_ref_count", m.staleRefCount),
    ("checksum_mismatch_count", m.checksumMismatchCount),
    ("version_conflict_count", m.versionConflictCount),
    ("invalid_model_binding_count", m.invalidModelBindingCount),
    ("invalid_session_count", m.invalidSessionCount), ("timeout_count", m.timeoutCount),
    ("capacity_exceeded_count", m.capacityExceededCount),
    ("unsupported_count", m.unsupportedCount), ("internal_count", m.internalCount),
    ("fail_closed_count", m.failClosedCount), ("health_count", m.healthCount),
    ("ready_count", m.readyCount), ("status_count", m.statusCount),
    ("list_records_count", m.listRecordsCount), ("metrics_count", m.metricsCount),
    ("audit_log_count", m.auditLogCount), ("export_snapshot_count", m.exportSnapshotCount),
    ("export_snapshot_page_count", m.exportSnapshotPageCount),
    ("restore_snapshot_count", m.restoreSnapshotCount),
    ("restore_snapshot_page_count", m.restoreSnapshotPageCount),
    ("put_object_count", m.putObjectCount), ("get_object_count", m.getObjectCount),
    ("inspect_object_count", m.inspectObjectCount),
    ("materialize_object_count", m.materializeObjectCount),
    ("get_object_hit_count", m.getObjectHitCount),
    ("get_object_miss_count", m.getObjectMissCount),
    ("register_prefix_count", m.registerPrefixCount),
    ("lookup_prefix_count", m.lookupPrefixCount),
    ("prefix_lookup_hit_count", m.prefixLookupHitCount),
    ("prefix_lookup_miss_count", m.prefixLookupMissCount),
    ("publish_kv_count", m.publishKvCount), ("resolve_kv_count", m.resolveKvCount),
    ("kv_resolve_hit_count", m.kvResolveHitCount),
    ("kv_resolve_miss_count", m.kvResolveMissCount),
    ("publish_runtime_handoff_count", m.publishRuntimeHandoffCount),
    ("resolve_runtime_handoff_count", m.resolveRuntimeHandoffCount),
    ("register_execution_artifact_count", m.registerExecutionArtifactCount),
    ("query_execution_artifact_count", m.queryExecutionArtifactCount),
    ("register_training_artifact_count", m.registerTrainingArtifactCount),
    ("query_training_artifact_count", m.queryTrainingArtifactCount),
    ("artifact_query_hit_count", m.artifactQueryHitCount),
    ("artifact_query_miss_count", m.artifactQueryMissCount),
    ("idempotency_replay_count", m.idempotencyReplayCount),
    ("idempotency_conflict_count", m.idempotencyConflictCount),
    ("request_latency_total_ms", m.requestLatencyTotalMs),
    ("request_latency_max_ms", m.requestLatencyMaxMs),
    ("request_latency_le_1ms_count", m.requestLatencyBucketCounts[0]),
    ("request_latency_le_5ms_count", m.requestLatencyBucketCounts[1]),
    ("request_latency_le_10ms_count", m.requestLatencyBucketCounts[2]),
    ("request_latency_le_50ms_count", m.requestLatencyBucketCounts[3]),
    ("request_latency_le_100ms_count", m.requestLatencyBucketCounts[4]),
    ("request_latency_gt_100ms_count", m.requestLatencyBucketCounts[5])]

/-- The text `mem_service_metrics` prints into the response buffer. -/
def text : Bytes := unlines (m.fields.map fun f => fieldLine f.1 (showU64 f.2))

/-! ## The laws of the counters -/

/-- The error counters by status. -/
def failureCounts : List UInt64 :=
  [m.notFoundCount, m.staleRefCount, m.checksumMismatchCount, m.versionConflictCount,
    m.invalidModelBindingCount, m.invalidSessionCount, m.timeoutCount, m.capacityExceededCount,
    m.unsupportedCount, m.internalCount]

/-- The counters of the statuses `mem_service_status_is_fail_closed` accepts. -/
def failClosedCounts : List UInt64 :=
  [m.staleRefCount, m.checksumMismatchCount, m.versionConflictCount, m.invalidModelBindingCount,
    m.invalidSessionCount]

/-- The laws that hold whatever the statuses are: every request succeeded or failed, the fail-closed
counter is the sum of its counters by status, and every request is in one latency bucket. -/
structure Settled : Prop where
  outcomes : m.requestCount = m.okCount + m.errorCount
  failClosed : m.failClosedCount = m.failClosedCounts.sum
  buckets : m.requestLatencyBucketCounts.toList.sum = m.requestCount

/-- All four laws. -/
structure Balanced : Prop extends m.Settled where
  errors : m.errorCount = m.failureCounts.sum

end Metrics

/-! ## What recording a request does to the laws -/

/-- A status of the wire's enumeration. -/
def WireStatus.Known (s : WireStatus) : Prop := s.code ≤ 10

instance (s : WireStatus) : Decidable s.Known := inferInstanceAs (Decidable (s.code ≤ 10))

/-- The ten failures of the enumeration. -/
def WireStatus.failures : List WireStatus :=
  [notFound, staleRef, checksumMismatch, versionConflict, invalidModelBinding, invalidSession,
    timeout, capacityExceeded, unsupported, internal]

lemma WireStatus.known_iff {s : WireStatus} : s.Known ↔ s = ok ∨ s ∈ failures := by
  obtain ⟨c⟩ := s
  constructor
  · intro h
    have hc : c.toNat ≤ 10 := h
    obtain ⟨n, hn⟩ : ∃ n, n = c.toNat := ⟨_, rfl⟩
    have hcn : c = UInt32.ofNat n := by rw [hn, UInt32.ofNat_toNat]
    rw [← hn] at hc
    rw [hcn]
    clear hcn hn
    interval_cases n <;> decide
  · rintro (h | h)
    · rw [h]
      decide
    · exact (show ∀ s ∈ failures, s.Known by decide) _ h

namespace Metrics

variable {m m' : Metrics}

/-- The counters the laws are about stay as they were. -/
structure SameOutcomes (m m' : Metrics) : Prop where
  requests : m'.requestCount = m.requestCount
  oks : m'.okCount = m.okCount
  errors : m'.errorCount = m.errorCount
  failures : m'.failureCounts = m.failureCounts
  failClosed : m'.failClosedCount = m.failClosedCount
  buckets : m'.requestLatencyBucketCounts = m.requestLatencyBucketCounts

lemma SameOutcomes.failClosedCounts (h : m.SameOutcomes m') :
    m'.failClosedCounts = m.failClosedCounts := by
  have hf := h.failures
  simp only [failureCounts, List.cons.injEq, and_true] at hf
  obtain ⟨-, h₁, h₂, h₃, h₄, h₅, -⟩ := hf
  simp only [Metrics.failClosedCounts, h₁, h₂, h₃, h₄, h₅]

lemma SameOutcomes.settled (h : m.SameOutcomes m') (hm : m.Settled) : m'.Settled where
  outcomes := by rw [h.requests, h.oks, h.errors, hm.outcomes]
  failClosed := by rw [h.failClosed, h.failClosedCounts, hm.failClosed]
  buckets := by rw [h.buckets, h.requests, hm.buckets]

lemma sameOutcomes_countOperation (m : Metrics) (operation : UInt32) (status : WireStatus) :
    m.SameOutcomes (m.countOperation operation status) := by
  unfold countOperation
  split <;> exact ⟨rfl, rfl, rfl, rfl, rfl, rfl⟩

lemma tally_eq (n : UInt64) (c : Bool) : tally n c = n + tally 0 c := by
  cases c
  · simp [tally]
  · simp [tally]

lemma sum_set_succ {l : List UInt64} {i : ℕ} (h : i < l.length) :
    (l.set i (l[i] + 1)).sum = l.sum + 1 := by
  induction l generalizing i with
  | nil => cases h
  | cons n l ih =>
      cases i with
      | zero =>
          rw [List.set_cons_zero, List.sum_cons, List.sum_cons, List.getElem_cons_zero]
          grind
      | succ i =>
          rw [List.set_cons_succ, List.sum_cons, List.sum_cons, List.getElem_cons_succ,
            ih (Nat.lt_of_succ_lt_succ h), UInt64.add_assoc]

/-- One more request in a bucket is one more request in all. -/
lemma sum_recordLatency (m : Metrics) (latencyMs : UInt64) :
    (m.recordLatency latencyMs).requestLatencyBucketCounts.toList.sum =
      m.requestLatencyBucketCounts.toList.sum + 1 := by
  rw [recordLatency, Vector.toList_set]
  exact sum_set_succ (by simp)

/-- Counters that go up where a status is met, each for a status of its own. -/
lemma sum_tally_zip {ns : List UInt64} {fs : List WireStatus} (hlen : ns.length = fs.length)
    (hnodup : fs.Nodup) (status : WireStatus) :
    ((ns.zip fs).map fun x => tally x.1 (status == x.2)).sum =
      ns.sum + tally 0 (decide (status ∈ fs)) := by
  induction ns generalizing fs with
  | nil =>
      obtain rfl := List.eq_nil_of_length_eq_zero hlen.symm
      simp [tally]
  | cons n ns ih =>
      obtain ⟨f, fs, rfl⟩ := List.exists_cons_of_length_eq_add_one hlen.symm
      obtain ⟨hf, hfs⟩ := List.nodup_cons.mp hnodup
      have hrest := ih (Nat.succ.inj hlen) hfs
      rw [List.zip_cons_cons, List.map_cons, List.sum_cons, hrest, List.sum_cons]
      by_cases hs : status = f
      · subst hs
        simp only [tally, beq_self_eq_true, if_true, hf, decide_false, List.mem_cons, true_or,
          decide_true]
        grind
      · have hmem : (status ∈ f :: fs) = (status ∈ fs) := by simp [hs]
        simp only [tally, beq_eq_false_iff_ne.mpr hs, hmem, UInt64.add_assoc]
        rfl

/-- The error counters by status, with the one the switch picks. -/
lemma sum_failureCounts_recordStatus {status : WireStatus} (h : status ≠ WireStatus.ok) :
    (m.recordStatus status).failureCounts.sum =
      m.failureCounts.sum + tally 0 (decide (status ∈ WireStatus.failures)) := by
  rw [← sum_tally_zip rfl (by decide) status, recordStatus, if_neg h]
  rfl

lemma sum_failClosedCounts_recordStatus {status : WireStatus} (h : status ≠ WireStatus.ok) :
    (m.recordStatus status).failClosedCounts.sum =
      m.failClosedCounts.sum + tally 0 status.isFailClosed := by
  have hclosed : status.isFailClosed = decide (status ∈ [WireStatus.staleRef,
      WireStatus.checksumMismatch, WireStatus.versionConflict, WireStatus.invalidModelBinding,
      WireStatus.invalidSession]) := by
    rw [Bool.eq_iff_iff]
    simp [WireStatus.isFailClosed, or_assoc]
  rw [hclosed, ← sum_tally_zip rfl (by decide) status, recordStatus, if_neg h]
  rfl

/-- Recording a request keeps the three laws that do not depend on its status. -/
lemma Settled.recordOperation (h : m.Settled) (operation : UInt32) (status : WireStatus)
    (latencyMs : UInt64) : (m.recordOperation operation status latencyMs).Settled := by
  unfold Metrics.recordOperation
  refine (sameOutcomes_countOperation _ operation status).settled ?_
  set n : Metrics := { m with requestCount := m.requestCount + 1 } with hn
  have hbuckets : (n.recordStatus status).requestLatencyBucketCounts =
      m.requestLatencyBucketCounts := by
    unfold recordStatus
    split <;> rfl
  have hrequests : (n.recordStatus status).requestCount = m.requestCount + 1 := by
    unfold recordStatus
    split <;> rfl
  refine ⟨?_, ?_, ?_⟩
  · show (n.recordStatus status).requestCount = _
    rw [hrequests, h.outcomes]
    by_cases hok : status = WireStatus.ok
    · simp only [recordLatency, recordStatus, if_pos hok, hn]
      grind
    · simp only [recordLatency, recordStatus, if_neg hok, hn]
      grind
  · show (n.recordStatus status).failClosedCount = (n.recordStatus status).failClosedCounts.sum
    by_cases hok : status = WireStatus.ok
    · simp only [recordStatus, if_pos hok]
      exact h.failClosed
    · rw [sum_failClosedCounts_recordStatus hok]
      simp only [recordStatus, if_neg hok]
      rw [tally_eq]
      exact congrArg (· + _) h.failClosed
  · rw [sum_recordLatency, hbuckets, h.buckets]
    exact hrequests.symm

/-- Recording a request keeps the fourth law just when its status is one of the wire's. -/
lemma errors_recordOperation_iff (h : m.errorCount = m.failureCounts.sum) (operation : UInt32)
    (status : WireStatus) (latencyMs : UInt64) :
    (m.recordOperation operation status latencyMs).errorCount =
        (m.recordOperation operation status latencyMs).failureCounts.sum ↔ status.Known := by
  unfold Metrics.recordOperation
  have hsame := sameOutcomes_countOperation
    (({ m with requestCount := m.requestCount + 1 }.recordStatus status).recordLatency latencyMs)
    operation status
  rw [hsame.errors, hsame.failures]
  show ({ m with requestCount := m.requestCount + 1 }.recordStatus status).errorCount =
    ({ m with requestCount := m.requestCount + 1 }.recordStatus status).failureCounts.sum ↔ _
  by_cases hok : status = WireStatus.ok
  · subst hok
    simp only [recordStatus, if_true]
    exact iff_of_true h (by decide)
  · rw [sum_failureCounts_recordStatus hok, WireStatus.known_iff, or_iff_right hok]
    have hcount : ({ m with requestCount := m.requestCount + 1 }.recordStatus status).errorCount =
        m.failureCounts.sum + 1 := by
      rw [recordStatus, if_neg hok, ← h]
    rw [hcount]
    show m.failureCounts.sum + 1 = m.failureCounts.sum + _ ↔ _
    by_cases hmem : status ∈ WireStatus.failures
    · simp [tally, hmem]
    · simp [tally, hmem]

end Metrics

/-! ## The statuses of the handlers -/

/-- The failures of the outside world are statuses of the wire: the block and device functions
return constants of the enumeration. -/
structure Env.Known (env : Env) : Prop where
  payloadSource : ∀ s, env.payloadSource = .error s → s.val.Known
  blockWriteEarly : ∀ s, env.blockWrite = .failedEarly s → s.val.Known
  blockWriteLate : ∀ s, env.blockWrite = .failedLate s → s.val.Known
  materialized : ∀ s, env.materialized = some s → s.val.Known
  ubSsd : ∀ s, env.ubSsd = .error s → s.val.Known

/-- A step that can only fail with a status of the wire. -/
def FailsKnown {α : Type} : Except WireStatus α → Prop
  | .ok _ => True
  | .error s => s.Known

lemma FailsKnown.guard {α : Type} {c : Prop} [Decidable c] {s : WireStatus}
    {x : Except WireStatus α} (hs : s.Known) (hx : FailsKnown x) :
    FailsKnown (if c then .error s else x) := by
  split
  · exact hs
  · exact hx

lemma FailsKnown.bind {α β : Type} {x : Except WireStatus α} {f : α → Except WireStatus β}
    (hx : FailsKnown x) (hf : ∀ a, FailsKnown (f a)) : FailsKnown (x >>= f) := by
  cases x with
  | error s => exact hx
  | ok a => exact hf a

section Records

variable {env : Env} (henv : env.Known) (storageRoot : Bool) (svc : Service) (p : Payload)
  (r : Record)

include henv

lemma failsKnown_sealPayloadBlock (kind : UInt32) {source : Except FailStatus Bytes}
    (hsource : ∀ s, source = .error s → s.val.Known) :
    FailsKnown (sealPayloadBlock env p kind source r) := by
  unfold sealPayloadBlock
  rcases hw : env.blockWrite with _ | s | s
  · cases source with
    | error s => exact hsource s rfl
    | ok bytes => exact .guard (by decide) (.guard (by decide) trivial)
  · exact henv.blockWriteEarly s hw
  · cases source with
    | error s => exact hsource s rfl
    | ok bytes => exact .guard (by decide) (.guard (by decide) (henv.blockWriteLate s hw))

lemma failsKnown_writePayloadBlock (payloadInline payloadPath : Bytes) :
    FailsKnown (writePayloadBlock env storageRoot p payloadInline payloadPath r) := by
  have hseal : ∀ kind, FailsKnown (sealPayloadBlock env p kind
      (if payloadInline ≠ [] then .ok payloadInline else env.payloadSource) r) := by
    intro kind
    refine failsKnown_sealPayloadBlock henv p r kind fun s hs => ?_
    split at hs
    · cases hs
    · exact henv.payloadSource s hs
  unfold writePayloadBlock
  dsimp only [Bind.bind, Except.bind, pure, Except.pure]
  split
  · trivial
  refine .guard (by decide) (.guard (by decide) ?_)
  split
  · exact hseal _
  split
  · exact .guard (by decide) (hseal _)
  · exact .guard (by decide) (hseal _)

lemma failsKnown_ubSsdSubmit : FailsKnown (ubSsdSubmit env p) := by
  unfold ubSsdSubmit
  split
  · cases hu : env.ubSsd with
    | error s => exact henv.ubSsd s hu
    | ok cpl => trivial
  · show WireStatus.invalidSession.Known
    decide

lemma failsKnown_writeUbSsdBackendBlock : FailsKnown (writeUbSsdBackendBlock env p r) := by
  unfold writeUbSsdBackendBlock
  refine (failsKnown_ubSsdSubmit henv p).bind fun cpl => ?_
  split
  · show WireStatus.internal.Known
    decide
  · trivial

omit henv in
lemma failsKnown_applyUbSsdBackendRef (payloadInline payloadPath : Bytes) :
    FailsKnown (applyUbSsdBackendRef p payloadInline payloadPath r) := by
  have hinvalid : FailsKnown (.error WireStatus.invalidSession : Except WireStatus Record) :=
    show WireStatus.invalidSession.Known by decide
  unfold applyUbSsdBackendRef
  dsimp only [Bind.bind, Except.bind, pure, Except.pure]
  split
  · trivial
  refine .guard (by decide) ?_
  split
  · split
    · split
      · split
        · exact hinvalid
        · trivial
      · split
        · refine .guard (by decide) ?_
          split
          · exact hinvalid
          · trivial
        · exact hinvalid
    · exact hinvalid
  · exact hinvalid

lemma failsKnown_objectRecord (key : FieldText 96) :
    FailsKnown (objectRecord env storageRoot p key) := by
  unfold objectRecord
  refine (failsKnown_applyUbSsdBackendRef p _ _ _).bind fun next => ?_
  split
  · split
    · exact failsKnown_writeUbSsdBackendBlock henv p next
    · trivial
  · exact failsKnown_writePayloadBlock henv storageRoot p next _ _

lemma failsKnown_artifactRecord (kind : RecordKind) (key : FieldText 96) (found : Option Record) :
    FailsKnown (artifactRecord env storageRoot p kind key found) := by
  unfold artifactRecord
  refine (failsKnown_applyUbSsdBackendRef p _ _ _).bind fun next => ?_
  split
  · trivial
  · exact failsKnown_writePayloadBlock henv storageRoot p next _ _

end Records

/-! ## Every handler answers with a status of the wire -/

section Replies

variable {env : Env} (storageRoot : Bool) (svc : Service) (p : Payload) (r : Record)

lemma known_fields (fs : List (String × Bytes)) : (Reply.fields fs).status.Known := by
  show WireStatus.ok.Known
  decide

lemma known_fail {s : WireStatus} (h : s.Known) : (Reply.fail s).status.Known := h

lemma known_ok (response : Bytes) : (Reply.mk WireStatus.ok response).status.Known := by
  show WireStatus.ok.Known
  decide

lemma known_ite {c : Prop} [Decidable c] {s t : WireStatus} (hs : s.Known) (ht : t.Known) :
    (if c then s else t).Known := by
  split
  · exact hs
  · exact ht

lemma known_pieces (ts : List Bytes) : (Reply.pieces ts).status.Known := by
  unfold Reply.pieces
  simp only
  split <;> decide

lemma known_validatePayloadBlock : (validatePayloadBlock env storageRoot r).Known := by
  unfold validatePayloadBlock
  split
  · split <;> decide
  · decide

lemma known_materializePayloadBlock (henv : env.Known) :
    (materializePayloadBlock env storageRoot r).Known := by
  unfold materializePayloadBlock
  split
  · exact known_validatePayloadBlock storageRoot r
  split
  · decide
  · cases hm : env.materialized with
    | none => decide
    | some s => exact henv.materialized s hm

lemma known_putObject (henv : env.Known) : (putObject env storageRoot svc p).2.status.Known := by
  unfold putObject
  split
  · exact known_fail (by decide)
  rename_i key _
  have hrecord := failsKnown_objectRecord henv storageRoot p key
  split
  · rename_i s hs
    rw [hs] at hrecord
    exact hrecord
  split
  · exact known_fail (by decide)
  · exact known_fields _

lemma known_storeArtifact (henv : env.Known) (kind : RecordKind) :
    (storeArtifact env storageRoot svc p kind).2.status.Known := by
  unfold storeArtifact
  split
  · exact known_fail (by decide)
  rename_i key _
  have hrecord := failsKnown_artifactRecord henv storageRoot p kind key (svc.findRecord key.bytes)
  split
  · rename_i s hs
    rw [hs] at hrecord
    exact hrecord
  split
  · exact known_fail (by decide)
  · exact known_fields _

lemma known_getObject (henv : env.Known) : (getObject env storageRoot svc p).status.Known := by
  unfold getObject
  split
  · exact known_fail (by decide)
  split
  · exact known_fail (by decide)
  split
  · exact known_validatePayloadBlock storageRoot _
  split
  · have hsubmit := failsKnown_ubSsdSubmit henv p
    split
    · rename_i s hs
      rw [hs] at hsubmit
      exact hsubmit
    · simp only
      split <;> decide
  · exact known_fields _

lemma known_inspectObject : (inspectObject env storageRoot svc p).status.Known := by
  unfold inspectObject
  split
  · exact known_fail (by decide)
  split
  · exact known_fail (by decide)
  split
  · exact known_validatePayloadBlock storageRoot _
  · exact known_fields _

lemma known_materializeObject (henv : env.Known) :
    (materializeObject env storageRoot svc p).status.Known := by
  unfold materializeObject
  split
  · split
    · exact known_fail (by decide)
    split
    · exact known_fail (by decide)
    split
    · exact known_fail (by decide)
    split
    · exact known_materializePayloadBlock storageRoot _ henv
    · exact known_fields _
  · exact known_fail (by decide)

lemma known_expectedContextStatus : (expectedContextStatus p r).Known := by
  unfold expectedContextStatus
  split_ifs <;> decide

lemma known_queryArtifact (kind : RecordKind) :
    (queryArtifact env storageRoot svc p kind).status.Known := by
  unfold queryArtifact
  split
  · exact known_fail (by decide)
  split
  · exact known_fail (by decide)
  split
  · exact known_expectedContextStatus p _
  split
  · exact known_validatePayloadBlock storageRoot _
  · exact known_fields _

lemma known_publishState (blockKey : FieldText 96) (state : KvcacheState) :
    (publishState svc blockKey state).2.status.Known := by
  unfold publishState
  split
  · exact known_fail (by decide)
  split
  · simp only
    split
    · exact known_fail (by decide)
    · exact known_fields _
  · exact known_fields _

lemma known_publishKv : (publishKv svc p).2.status.Known := by
  unfold publishKv
  simp only
  split
  · exact known_fail (by decide)
  split
  · exact known_fail (by decide)
  split
  · split
    · exact known_fail (by decide)
    · exact known_fail (by decide)
    · exact known_publishState _ _ _
  · exact known_publishState _ _ _

lemma known_resolveKv : (resolveKv svc p).status.Known := by
  unfold resolveKv
  simp only
  split
  · exact known_fail (by decide)
  split
  · exact known_fail (by decide)
  · exact known_fields _

lemma known_registerState (ctx : BlockCtx) (prefixKey : FieldText 96) (state : KvcacheState) :
    (registerState svc ctx prefixKey state).2.status.Known := by
  unfold registerState
  split
  · exact known_fail (by decide)
  split
  · split
    · exact known_fail (by decide)
    simp only
    split
    · exact known_fail (by decide)
    · exact known_fields _
  · exact known_fields _

lemma known_registerPrefix : (registerPrefix svc p).2.status.Known := by
  unfold registerPrefix
  simp only
  split
  · exact known_fail (by decide)
  split
  · exact known_fail (by decide)
  split
  · split
    · exact known_fail (by decide)
    · exact known_registerState _ _ _ _
  split
  · exact known_fail (by decide)
  split
  · exact known_fields _
  split
  · exact known_fail (by decide)
  · exact known_registerState _ _ _ _

lemma known_lookupPrefix : (lookupPrefix svc p).status.Known := by
  unfold lookupPrefix
  split
  · split
    · exact known_fail (by decide)
    · exact known_fields _
  · exact known_fail (by decide)

lemma known_restoreSnapshot : (restoreSnapshot svc p).2.status.Known := by
  unfold restoreSnapshot
  split
  · exact known_fail (by decide)
  split
  · exact known_fail (by decide)
  · exact known_fields _

lemma known_restoreSnapshotPage (stage : Option RestoreStage) :
    (restoreSnapshotPage svc stage p).2.2.status.Known := by
  unfold restoreSnapshotPage
  split
  · exact known_fail (by decide)
  split
  · unfold restorePageBegin
    split
    · exact known_fail (by decide)
    · exact known_fields _
  split
  · unfold restorePageAppend
    split
    · split
      · exact known_fail (by decide)
      split
      · exact known_fail (by decide)
      simp only
      split
      · exact known_fail (by decide)
      · exact known_fields _
    · exact known_fail (by decide)
  split
  · unfold restorePageCommit
    split
    · exact known_fail (by decide)
    split
    · exact known_fail (by decide)
    split
    · exact known_fail (by decide)
    · exact known_fields _
  split
  · exact known_fields _
  · exact known_fail (by decide)

lemma known_exportSnapshotPage : (exportSnapshotPage svc p).status.Known := by
  unfold exportSnapshotPage
  simp only
  split
  · exact known_fail (by decide)
  · exact known_ite (by decide) (by decide)

lemma known_listRecords : (listRecords svc).status.Known := by
  unfold listRecords
  split
  · exact known_fields _
  · exact known_pieces _

/-- **A dispatched request is answered with a status of the wire**, whatever it asks for. -/
lemma known_dispatchOperation (henv : env.Known) (s : ServiceState) (operation : UInt32) :
    (dispatchOperation env storageRoot s operation p).2.status.Known := by
  unfold dispatchOperation
  split
  · exact known_fail (by decide)
  · exact known_ok _
  · simp only [ServiceState.reads]
    split <;> decide
  · exact known_fields _
  · exact known_listRecords s.svc
  · exact known_ok _
  · exact known_pieces _
  · exact known_exportSnapshotPage s.svc p
  · exact known_restoreSnapshot s.svc p
  · exact known_restoreSnapshotPage s.svc p s.stage
  · exact known_pieces _
  · exact known_putObject storageRoot s.svc p henv
  · exact known_getObject storageRoot s.svc p henv
  · exact known_inspectObject storageRoot s.svc p
  · exact known_materializeObject storageRoot s.svc p henv
  · exact known_registerPrefix s.svc p
  · exact known_lookupPrefix s.svc p
  · exact known_publishKv s.svc p
  · exact known_resolveKv s.svc p
  · exact known_storeArtifact storageRoot s.svc p henv _
  · exact known_queryArtifact storageRoot s.svc p _
  · exact known_storeArtifact storageRoot s.svc p henv _
  · exact known_queryArtifact storageRoot s.svc p _
  · exact known_storeArtifact storageRoot s.svc p henv _
  · exact known_queryArtifact storageRoot s.svc p _

end Replies

/-! ## Replayed answers -/

/-- The idempotency record a request finds, if it changes the service and carries a key. -/
def Service.foundReplay (svc : Service) (req : Request) : Option IdempotencyRecord :=
  if operationMutates req.operation req.payload then
    (idempotencyKey req.payload).bind fun key => svc.findIdempotencyRecord key.bytes
  else none

/-- The idempotency record was made by this very request. -/
def IdempotencyRecord.Matches (r : IdempotencyRecord) (req : Request) : Prop :=
  r.operation = req.operation ∧ r.requestChecksum = wireChecksum req.payload.bytes

instance (r : IdempotencyRecord) (req : Request) : Decidable (r.Matches req) :=
  inferInstanceAs (Decidable (_ ∧ _))

/-- The counters of `mem_service_try_idempotency_replay`. -/
def Metrics.recordReplay (m : Metrics) (svc : Service) (req : Request) : Metrics :=
  match svc.foundReplay req with
  | none => m
  | some r =>
      if r.Matches req then { m with idempotencyReplayCount := m.idempotencyReplayCount + 1 }
      else { m with idempotencyConflictCount := m.idempotencyConflictCount + 1 }

lemma Metrics.sameOutcomes_recordReplay (m : Metrics) (svc : Service) (req : Request) :
    m.SameOutcomes (m.recordReplay svc req) := by
  unfold recordReplay
  split
  · exact ⟨rfl, rfl, rfl, rfl, rfl, rfl⟩
  · split <;> exact ⟨rfl, rfl, rfl, rfl, rfl, rfl⟩

/-- The stored answer a request would be given has a status of the wire. -/
def Service.ReplaysKnown (svc : Service) (req : Request) : Prop :=
  ∀ r, svc.foundReplay req = some r → r.Matches req → r.status.Known

lemma known_refusal {s : WireStatus} (h : s.Known) {response : Bytes} :
    (Reply.mk s response).status.Known := h

/-- A request that is not executed is answered with the status that was stored, or is refused. -/
lemma tryIdempotencyReplay_known {svc : Service} {req : Request} {reply : Reply}
    (h : tryIdempotencyReplay svc req.operation req.payload = .handled reply) :
    reply.status.Known ↔ svc.ReplaysKnown req := by
  unfold tryIdempotencyReplay at h
  unfold Service.ReplaysKnown Service.foundReplay
  cases hmut : operationMutates req.operation req.payload with
  | false =>
      rw [hmut] at h
      cases h
  | true =>
      rw [hmut] at h
      cases hkey : idempotencyKey req.payload with
      | none =>
          rw [hkey] at h
          cases h
      | some key =>
          rw [hkey] at h
          cases hfind : svc.findIdempotencyRecord key.bytes with
          | none =>
              simp only [hfind, Bool.not_true, Bool.false_eq_true, if_false] at h
              split at h
              · cases h
                refine iff_of_true (known_refusal (by decide)) ?_
                simp [hfind]
              · cases h
          | some r =>
              simp only [hfind, Bool.not_true, Bool.false_eq_true, if_false] at h
              simp only [if_true, Option.bind_some, hfind, Option.some.injEq, forall_eq']
              split at h
              · rename_i hne
                cases h
                refine iff_of_true (known_refusal (by decide)) fun hm => absurd hm ?_
                rintro ⟨hop, hsum⟩
                rcases hne with hne | hne
                · exact hne hop
                · exact hne hsum
              · rename_i heq
                cases h
                rw [not_or, not_not, not_not] at heq
                exact ⟨fun hk _ => hk, fun hk => hk heq⟩

/-- A request that is executed has no stored answer. -/
lemma replaysKnown_of_execute {svc : Service} {req : Request} {pending : Option (ℕ × FieldText 96)}
    (h : tryIdempotencyReplay svc req.operation req.payload = .execute pending) :
    svc.ReplaysKnown req := by
  unfold Service.ReplaysKnown Service.foundReplay
  obtain ⟨rfl, hno⟩ | ⟨slot, key, rfl, hmut, hkey, hfind, -⟩ := tryIdempotencyReplay_execute h
  · intro r hr
    split at hr
    · rename_i hmut
      rw [hno hmut] at hr
      cases hr
    · cases hr
  · intro r hr
    simp [hmut, hkey, hfind] at hr

/-! ## The daemon with its counters -/

/-- The daemon between two requests, with its counters. -/
structure Metered where
  daemon : Daemon
  metrics : Metrics

/-- A request together with what the world does during it and how long it takes. -/
structure MeteredStep extends Step where
  latencyMs : UInt64
  known : env.Known

/-- What is counted. -/
inductive MeteredInput
  | request (s : MeteredStep)
  /-- A request whose payload is longer than the daemon takes. -/
  | overPayloadLimit (operation : UInt32)
  /-- An HTTP request, which asks for the metrics or not; printing them may fail. -/
  | http (getMetrics rendered : Bool) (latencyMs : UInt64)

/-- The status that `mem_service_handle_metrics_http_client` counts. -/
def metricsHttpStatus (getMetrics rendered : Bool) : WireStatus :=
  if !getMetrics then WireStatus.unsupported
  else if rendered then WireStatus.ok
  else WireStatus.internal

namespace Metered

variable (cfg : Config)

/-- A daemon that has just loaded its files. -/
def start (d : Daemon) : Metered := ⟨d, {}⟩

/-- The step with the counters as the metrics request prints them. -/
def shown (m : Metered) (s : MeteredStep) : Step :=
  { s.toStep with env := { s.env with metricsText := m.metrics.text } }

/-- `mem_service_handle_operation_with_limits`, `mem_service_handle_client` in front of it, and
`mem_service_handle_metrics_http_client`, with the counters. -/
def step (m : Metered) : MeteredInput → Metered
  | .request s =>
      { daemon := m.daemon.step cfg (m.shown s)
        metrics := (m.metrics.recordReplay m.daemon.state.svc s.req).recordOperation s.req.operation
          (m.daemon.answer cfg (m.shown s)).status s.latencyMs }
  | .overPayloadLimit operation =>
      { m with metrics := m.metrics.recordOperation operation WireStatus.capacityExceeded 0 }
  | .http getMetrics rendered latencyMs =>
      { m with
        metrics := m.metrics.recordOperation WireOperation.metrics.code
          (metricsHttpStatus getMetrics rendered) latencyMs }

/-- The daemon after several requests. -/
def run (m : Metered) (is : List MeteredInput) : Metered := Run.run (step cfg) m is

/-- The request, if it is answered from the idempotency table, gets a status of the wire. -/
def ReplayKnown (m : Metered) : MeteredInput → Prop
  | .request s => m.daemon.state.svc.ReplaysKnown s.req
  | _ => True

/-- Every request of the run does. -/
def ReplaysKnown (m : Metered) (is : List MeteredInput) : Prop :=
  Run.Along (step cfg) ReplayKnown m is

end Metered

/-! ## The laws along a run -/

/-- The first stage answers with a status of the wire, except that it hands a stored answer out as it
is. -/
lemma known_answerRequest_iff (cfg : Config) {env : Env} (henv : env.Known) (s : ServiceState)
    (req : Request) :
    (answerRequest cfg env s req).reply.status.Known ↔ s.svc.ReplaysKnown req := by
  have ha := answerRequest_answered cfg env s req
  generalize answerRequest cfg env s req = a at ha ⊢
  rcases ha with h | ⟨h, -, hreply⟩ | ⟨h, -, hout, -⟩
  · exact tryIdempotencyReplay_known h
  · refine iff_of_true ?_ (replaysKnown_of_execute h)
    rw [hreply]
    exact known_refusal (by decide)
  · refine iff_of_true ?_ (replaysKnown_of_execute h)
    rw [← hout]
    exact known_dispatchOperation cfg.storageRoot req.payload henv s req.operation

/-- A request is answered with a status of the wire, except that it may be given a stored one. -/
lemma known_answer_iff (cfg : Config) (d : Daemon) {st : Step} (henv : st.env.Known) :
    (d.answer cfg st).status.Known ↔ d.state.svc.ReplaysKnown st.req := by
  have hfirst := known_answerRequest_iff cfg henv d.state st.req
  rcases d.answer_cases cfg st with heq | ⟨hok, -, -, heq⟩
  · rw [heq]
    exact hfirst
  · rw [heq]
    refine iff_of_true (known_refusal (by decide)) (hfirst.mp ?_)
    rw [hok]
    decide

lemma Env.Known.shown {env : Env} (h : env.Known) (text : Bytes) :
    { env with metricsText := text }.Known :=
  ⟨h.payloadSource, h.blockWriteEarly, h.blockWriteLate, h.materialized, h.ubSsd⟩

namespace Metered

variable {cfg : Config} {m : Metered}

lemma settled_step (h : m.metrics.Settled) (i : MeteredInput) : (m.step cfg i).metrics.Settled := by
  cases i with
  | request s =>
      exact ((m.metrics.sameOutcomes_recordReplay _ _).settled h).recordOperation _ _ _
  | overPayloadLimit operation => exact h.recordOperation _ _ _
  | http getMetrics rendered latencyMs =>
      exact h.recordOperation WireOperation.metrics.code (metricsHttpStatus getMetrics rendered) latencyMs

lemma known_metricsHttpStatus (getMetrics rendered : Bool) :
    (metricsHttpStatus getMetrics rendered).Known := by
  unfold WireStatus.Known
  cases getMetrics <;> cases rendered <;> decide

/-- One input keeps the error counters in step just when it is no request that is given a stored status
that the wire does not have. -/
lemma errors_step_iff (h : m.metrics.errorCount = m.metrics.failureCounts.sum) (i : MeteredInput) :
    (m.step cfg i).metrics.errorCount = (m.step cfg i).metrics.failureCounts.sum ↔
      m.ReplayKnown i := by
  cases i with
  | request s =>
      have hsame := m.metrics.sameOutcomes_recordReplay m.daemon.state.svc s.req
      have herr := Metrics.errors_recordOperation_iff (m := m.metrics.recordReplay m.daemon.state.svc
        s.req) (by rw [hsame.errors, hsame.failures, h]) s.req.operation
        (m.daemon.answer cfg (m.shown s)).status s.latencyMs
      exact herr.trans (known_answer_iff cfg m.daemon (s.known.shown m.metrics.text))
  | overPayloadLimit operation =>
      refine iff_of_true ((Metrics.errors_recordOperation_iff h _ _ _).mpr ?_) trivial
      exact show WireStatus.capacityExceeded.code ≤ 10 by decide
  | http getMetrics rendered latencyMs =>
      refine iff_of_true ((Metrics.errors_recordOperation_iff h _ _ _).mpr ?_) trivial
      exact known_metricsHttpStatus getMetrics rendered

lemma balanced_step_iff (h : m.metrics.Balanced) (i : MeteredInput) :
    (m.step cfg i).metrics.Balanced ↔ m.ReplayKnown i :=
  ⟨fun hb => (errors_step_iff h.errors i).mp hb.errors,
    fun hr => ⟨settled_step h.toSettled i, (errors_step_iff h.errors i).mpr hr⟩⟩

end Metered

lemma Metrics.balanced_zero : ({} : Metrics).Balanced where
  outcomes := by decide
  failClosed := by decide
  buckets := by decide
  errors := by decide

/-- **The metrics counters.**  After any number of requests to a daemon and its metrics listener, in
whatever state it was loaded, every request is a success or an error, the fail-closed counter is the sum of its counters by
status, and the latency buckets add up.  The error counters by status add up too, in every state of
the run, just when no request of the run is answered with a stored status that the wire does not
have. -/
theorem metrics_balance_iff (cfg : Config) (d : Daemon) (is : List MeteredInput) :
    (∀ n, ((Metered.start d).run cfg (is.take n)).metrics.Settled) ∧
    ((∀ n, ((Metered.start d).run cfg (is.take n)).metrics.Balanced) ↔
      (Metered.start d).ReplaysKnown cfg is) := by
  refine ⟨fun n => ?_, ?_⟩
  · exact Run.invariant (I := fun m : Metered => m.metrics.Settled)
      (fun m i h => Metered.settled_step h i) Metrics.balanced_zero.toSettled _
  · exact Run.forall_take_iff_along (I := fun m : Metered => m.metrics.Balanced)
      (fun m i h => Metered.balanced_step_iff h i) Metrics.balanced_zero is

/-- A store with one stored answer, to a put of the key `a` under the idempotency key `i`.  Its status
is 77. -/
def Disk.oddStatus : Disk where
  store := some (unlines
    [storeMagic, ascii "store_schema_version=1", ascii "record_count=0",
      ascii "audit_next_sequence=1", ascii "audit_event_count=0", ascii "idempotency_begin",
      ascii "key=i", ascii "operation=16", fieldLine "request_checksum"
        (decimal (wireChecksum Payload.keyedObject.bytes).toNat), ascii "status=77",
      ascii "idempotency_end"])
  journal := none

/-- The put, in an idle world. -/
def MeteredInput.put : MeteredInput :=
  .request
    { Step.idle .putObject Payload.keyedObject with
      latencyMs := 0
      known :=
        { payloadSource := by rintro _ ⟨⟩; decide
          blockWriteEarly := by rintro _ ⟨⟩
          blockWriteLate := by rintro _ ⟨⟩
          materialized := by rintro _ ⟨⟩
          ubSsd := by rintro _ ⟨⟩; decide } }

/-- A stored answer with an odd status is counted as an error and under no status. -/
theorem odd_status_uncounted :
    ¬ ∀ (cfg : Config) (disk disk' : Disk) (svc : Service),
      loadDurableStore disk = some (svc, disk') → ∀ is : List MeteredInput,
        ((Metered.start ⟨⟨svc, none⟩, disk'⟩).run cfg is).metrics.Balanced := by
  intro hall
  have hsome : (loadDurableStore Disk.oddStatus).isSome = true := by decide +kernel
  obtain ⟨⟨svc, disk'⟩, hload⟩ := Option.isSome_iff_exists.mp hsome
  have hbad : (loadDurableStore Disk.oddStatus).all (fun loaded =>
      let m := ((Metered.start ⟨⟨loaded.1, none⟩, loaded.2⟩).run Config.durable
        [.put]).metrics
      m.errorCount != m.failureCounts.sum) = true := by decide +kernel
  rw [hload, Option.all_some, bne_iff_ne] at hbad
  exact hbad (hall Config.durable Disk.oddStatus disk' svc hload [.put]).errors

end MemService
