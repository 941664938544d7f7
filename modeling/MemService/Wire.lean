import MemService.Lib.ByteText
import MemService.Lib.CNumeral

/-!
# The wire: operations, statuses and text payloads

A request is an operation code and a text payload, a C string of `name=value` lines.  This module
holds the vocabulary of `mem_service_wire.h` and the payload getters of
`mem_service_wire_payload.h`.

Two readers look a field up.  `payloadGetString` takes the first line that starts with `name=`,
wherever it stands, and skips lines of any other shape.  `payloadGetHeaderString`, which reads the
idempotency key and the audit fields, stops at the first line without an equals sign.  Both cut the
value to the caller's buffer and report an empty value as missing.
-/

open ByteText CNumeral

namespace MemService

/-! ## Statuses and operations -/

/-- `enum mem_service_wire_status`.  It is an open enumeration: a status read back from a store is
whatever 32-bit number stands there. -/
structure WireStatus where
  code : UInt32
  deriving DecidableEq, Repr

namespace WireStatus

def ok : WireStatus := ⟨0⟩
def notFound : WireStatus := ⟨1⟩
def staleRef : WireStatus := ⟨2⟩
def checksumMismatch : WireStatus := ⟨3⟩
def versionConflict : WireStatus := ⟨4⟩
def invalidModelBinding : WireStatus := ⟨5⟩
def invalidSession : WireStatus := ⟨6⟩
def timeout : WireStatus := ⟨7⟩
def capacityExceeded : WireStatus := ⟨8⟩
def unsupported : WireStatus := ⟨9⟩
def internal : WireStatus := ⟨10⟩

/-- `mem_service_wire_status_name`. -/
def name (s : WireStatus) : Bytes :=
  if s = ok then ascii "ok"
  else if s = notFound then ascii "not_found"
  else if s = staleRef then ascii "stale_ref"
  else if s = checksumMismatch then ascii "checksum_mismatch"
  else if s = versionConflict then ascii "version_conflict"
  else if s = invalidModelBinding then ascii "invalid_model_binding"
  else if s = invalidSession then ascii "invalid_session"
  else if s = timeout then ascii "timeout"
  else if s = capacityExceeded then ascii "capacity_exceeded"
  else if s = unsupported then ascii "unsupported"
  else if s = internal then ascii "internal"
  else ascii "unknown"

/-- `mem_service_status_is_fail_closed`. -/
def isFailClosed (s : WireStatus) : Bool :=
  s == staleRef || s == checksumMismatch || s == versionConflict || s == invalidModelBinding ||
    s == invalidSession

end WireStatus

/-- `enum mem_service_wire_operation`: the operations the daemon knows. -/
inductive WireOperation
  | health | ready | status | listRecords | metrics
  | exportSnapshot | exportSnapshotPage | restoreSnapshot | restoreSnapshotPage | auditLog
  | putObject | getObject | inspectObject | materializeObject
  | registerPrefixEntry | lookupPrefixEntry
  | publishKvSegment | resolveKvSegment
  | publishRuntimeHandoff | resolveRuntimeHandoff
  | registerExecutionArtifact | queryExecutionArtifact
  | registerTrainingArtifact | queryTrainingArtifact
  deriving DecidableEq, Repr

namespace WireOperation

/-- The operation's number on the wire. -/
def code : WireOperation → UInt32
  | health => 1
  | ready => 2
  | status => 3
  | listRecords => 4
  | metrics => 5
  | exportSnapshot => 6
  | exportSnapshotPage => 7
  | restoreSnapshot => 8
  | restoreSnapshotPage => 9
  | auditLog => 10
  | putObject => 16
  | getObject => 17
  | inspectObject => 18
  | materializeObject => 19
  | registerPrefixEntry => 32
  | lookupPrefixEntry => 33
  | publishKvSegment => 48
  | resolveKvSegment => 49
  | publishRuntimeHandoff => 64
  | resolveRuntimeHandoff => 65
  | registerExecutionArtifact => 80
  | queryExecutionArtifact => 81
  | registerTrainingArtifact => 96
  | queryTrainingArtifact => 97

/-- Every operation, in the order of the enumeration. -/
def all : List WireOperation :=
  [health, ready, status, listRecords, metrics, exportSnapshot, exportSnapshotPage,
    restoreSnapshot, restoreSnapshotPage, auditLog, putObject, getObject, inspectObject,
    materializeObject, registerPrefixEntry, lookupPrefixEntry, publishKvSegment,
    resolveKvSegment, publishRuntimeHandoff, resolveRuntimeHandoff, registerExecutionArtifact,
    queryExecutionArtifact, registerTrainingArtifact, queryTrainingArtifact]

/-- The operation a wire number selects, `none` for a number no `case` label has. -/
def ofCode (c : UInt32) : Option WireOperation := all.find? fun o => o.code == c

lemma code_of_ofCode {c : UInt32} {o : WireOperation} (h : ofCode c = some o) : o.code = c := by
  simpa using List.find?_some h

lemma ofCode_code (o : WireOperation) : ofCode o.code = some o := by
  cases o <;> rfl

lemma code_ne_zero (o : WireOperation) : o.code ≠ 0 := by
  cases o <;> decide

/-- The name in `mem_service_wire_operation_schemas`. -/
def name : WireOperation → Bytes
  | health => ascii "health"
  | ready => ascii "ready"
  | status => ascii "status"
  | listRecords => ascii "list_records"
  | metrics => ascii "metrics"
  | exportSnapshot => ascii "export_snapshot"
  | exportSnapshotPage => ascii "export_snapshot_page"
  | restoreSnapshot => ascii "restore_snapshot"
  | restoreSnapshotPage => ascii "restore_snapshot_page"
  | auditLog => ascii "audit_log"
  | putObject => ascii "put_object"
  | getObject => ascii "get_object"
  | inspectObject => ascii "inspect_object"
  | materializeObject => ascii "materialize_object"
  | registerPrefixEntry => ascii "register_prefix_entry"
  | lookupPrefixEntry => ascii "lookup_prefix_entry"
  | publishKvSegment => ascii "publish_kv_segment"
  | resolveKvSegment => ascii "resolve_kv_segment"
  | publishRuntimeHandoff => ascii "publish_runtime_handoff"
  | resolveRuntimeHandoff => ascii "resolve_runtime_handoff"
  | registerExecutionArtifact => ascii "register_execution_artifact"
  | queryExecutionArtifact => ascii "query_execution_artifact"
  | registerTrainingArtifact => ascii "register_training_artifact"
  | queryTrainingArtifact => ascii "query_training_artifact"

end WireOperation

/-- `mem_service_operation_name`. -/
def operationName (code : UInt32) : Bytes :=
  ((WireOperation.ofCode code).map WireOperation.name).getD (ascii "unknown")

/-- `MEM_SERVICE_WIRE_MAX_PAYLOAD_LEN`: the size of the request and of the response buffer. -/
def maxPayloadLen : ℕ := 4096

/-- `mem_service_wire_checksum`: 32-bit FNV-1a, `0` for the empty text. -/
def wireChecksum (s : Bytes) : UInt32 :=
  if s = [] then 0 else s.foldl (fun h b => (h ^^^ b.toUInt32) * 16777619) 2166136261

/-! ## Payloads -/

/-- A request payload as the handlers see it: a C string that fitted the receive buffer. -/
structure Payload where
  bytes : Bytes
  noNul : NUL ∉ bytes
  length_le : bytes.length ≤ maxPayloadLen
  deriving DecidableEq

instance : Coe Payload Bytes := ⟨Payload.bytes⟩

/-- What a getter makes of the value it found: cut to a buffer of `cap` bytes, and missing when
nothing is left. -/
def fitValue (cap : ℕ) (v : Bytes) : Option Bytes :=
  if v.take (cap - 1) = [] then none else some (v.take (cap - 1))

/-- `mem_service_wire_payload_get_string`. -/
def payloadGetString (payload name : Bytes) (cap : ℕ) : Option Bytes :=
  ((lines payload).find? fun l => (name ++ [EQ]).isPrefixOf l).bind fun l =>
    fitValue cap (l.drop (name.length + 1))

/-- The value of `name` among the lines in front of the first one without an equals sign. -/
def headerValue (name : Bytes) : List Bytes → Option Bytes
  | [] => none
  | l :: ls =>
      match splitEq l with
      | none => none
      | some (n, v) => if n = name then some v else headerValue name ls

/-- `mem_service_payload_get_header_string`. -/
def payloadGetHeaderString (payload name : Bytes) (cap : ℕ) : Option Bytes :=
  (headerValue name (lines payload)).bind (fitValue cap)

/-- `mem_service_wire_payload_get_u64_checked`: the value goes through a buffer of 48 bytes. -/
def payloadGetU64Checked (payload name : Bytes) : Option UInt64 :=
  (payloadGetString payload name 48).bind (readU64 0)

/-- `mem_service_payload_get_u32_checked`. -/
def payloadGetU32Checked (payload name : Bytes) : Option UInt32 :=
  (payloadGetU64Checked payload name).bind fun n =>
    if n.toNat < 2 ^ 32 then some n.toUInt32 else none

/-- `mem_service_wire_payload_get_u64`. -/
def payloadGetU64 (payload name : Bytes) (dflt : UInt64) : UInt64 :=
  (payloadGetU64Checked payload name).getD dflt

/-- `mem_service_wire_payload_get_u32`. -/
def payloadGetU32 (payload name : Bytes) (dflt : UInt32) : UInt32 :=
  (payloadGetU32Checked payload name).getD dflt

/-- `snprintf` into a buffer of `cap` bytes. -/
def snprintf (cap : ℕ) (s : Bytes) : Bytes := s.take (cap - 1)

/-- A `name=value` line, without its line feed. -/
def fieldLine (name : String) (v : Bytes) : Bytes := ascii name ++ EQ :: v

/-! ## Facts about the getters -/

lemma fitValue_eq_some {cap : ℕ} {v w : Bytes} (h : fitValue cap v = some w) :
    w = v.take (cap - 1) ∧ w ≠ [] := by
  unfold fitValue at h
  split at h
  · cases h
  · rename_i hne
    cases h
    exact ⟨rfl, hne⟩

lemma headerValue_mem {name v : Bytes} {ls : List Bytes} (h : headerValue name ls = some v) :
    ∃ l ∈ ls, l = name ++ EQ :: v := by
  induction ls with
  | nil => cases h
  | cons l ls ih =>
      unfold headerValue at h
      split at h
      · cases h
      · rename_i n w hsplit
        split at h
        · rename_i hn
          cases h
          subst hn
          exact ⟨l, by simp, (eq_of_splitEq hsplit).1⟩
        · obtain ⟨m, hm, heq⟩ := ih h
          exact ⟨m, by simp [hm], heq⟩

/-- What the getters return: bytes of one line of the payload, and at least one of them. -/
lemma payloadGetString_subset {payload name v : Bytes} {cap : ℕ}
    (h : payloadGetString payload name cap = some v) :
    v ≠ [] ∧ ∃ l ∈ lines payload, v ⊆ l := by
  obtain ⟨l, hl, hfit⟩ := Option.bind_eq_some_iff.mp h
  obtain ⟨rfl, hne⟩ := fitValue_eq_some hfit
  exact ⟨hne, l, List.mem_of_find?_eq_some hl,
    List.Subset.trans (List.take_subset _ _) (List.drop_subset _ _)⟩

lemma payloadGetHeaderString_subset {payload name v : Bytes} {cap : ℕ}
    (h : payloadGetHeaderString payload name cap = some v) :
    v ≠ [] ∧ ∃ l ∈ lines payload, v ⊆ l := by
  obtain ⟨w, hw, hfit⟩ := Option.bind_eq_some_iff.mp h
  obtain ⟨rfl, hne⟩ := fitValue_eq_some hfit
  obtain ⟨l, hl, rfl⟩ := headerValue_mem hw
  refine ⟨hne, _, hl, fun b hb => ?_⟩
  have := List.take_subset _ _ hb
  simp [this]

lemma length_payloadGetString {payload name v : Bytes} {cap : ℕ}
    (h : payloadGetString payload name cap = some v) : v.length < cap := by
  obtain ⟨l, -, hfit⟩ := Option.bind_eq_some_iff.mp h
  obtain ⟨rfl, hne⟩ := fitValue_eq_some hfit
  have := List.length_take_le (cap - 1) (l.drop (name.length + 1))
  have := List.length_pos_of_ne_nil hne
  omega

end MemService
