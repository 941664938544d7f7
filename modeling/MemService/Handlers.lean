import MemService.Metadata

/-!
# The request handlers

The handlers of `mem_service_daemon.c` that read and write single records: objects, artifacts,
key-value segments and prefix entries.  A handler gets the service and the payload, and gives back
the service with a status and a response text.

What a handler learns from outside the process (clocks, the block files, the SSD, the provider
registry) is an `Env`, one for each request.  The block layer is represented by its answers only:
the bytes that were read from a payload file, whether writing the block succeeded, whether a stored
block is intact.
-/

open ByteText CNumeral

namespace MemService

/-! ## Payload getters -/

namespace Payload

variable (p : Payload)

/-- `mem_service_payload_get_string`. -/
def getString (name : String) (cap : ℕ) : Option Bytes := payloadGetString p (ascii name) cap

/-- `mem_service_payload_get_string` into a text field. -/
def getField (name : String) (cap : ℕ) [NeZero cap] : Option (FieldText cap) :=
  (p.getString name cap).map FieldText.copy

/-- `mem_service_payload_get_header_string` into a text field. -/
def getHeaderField (name : String) (cap : ℕ) [NeZero cap] : Option (FieldText cap) :=
  (payloadGetHeaderString p (ascii name) cap).map FieldText.copy

/-- `mem_service_payload_get_u64_checked`. -/
def getU64Checked (name : String) : Option UInt64 := payloadGetU64Checked p (ascii name)

/-- `mem_service_payload_get_u32_checked`. -/
def getU32Checked (name : String) : Option UInt32 := payloadGetU32Checked p (ascii name)

/-- `mem_service_payload_get_u64`. -/
def getU64 (name : String) (dflt : UInt64) : UInt64 := payloadGetU64 p (ascii name) dflt

/-- `mem_service_payload_get_u32`. -/
def getU32 (name : String) (dflt : UInt32) : UInt32 := payloadGetU32 p (ascii name) dflt

/-- `mem_service_payload_get_state`. -/
def getState (dflt : KvcacheState) : KvcacheState :=
  match p.getString "state" 32 with
  | none => dflt
  | some s =>
      if s = ascii "missing" then KvcacheState.missing
      else if s = ascii "filled" then KvcacheState.filled
      else if s = ascii "hot" then KvcacheState.hot
      else if s = ascii "reloaded" then KvcacheState.reloaded
      else dflt

/-- `mem_service_set_optional_record_string`: through a buffer of 96 bytes into the field. -/
def getOptionalField (name : String) (cap : ℕ) [NeZero cap] : FieldText cap :=
  ((p.getString name 96).map FieldText.copy).getD FieldText.blank

/-- `mem_service_payload_string_mismatch`. -/
def stringMismatch (name : String) (actual : Bytes) : Bool :=
  (p.getString name 96).any fun expected => actual != expected

end Payload

/-! ## The world outside -/

/-- A status that reports a failure. -/
abbrev FailStatus := { s : WireStatus // s ≠ WireStatus.ok }

/-- `struct mem_service_ub_ssd_gsva_block_ref`. -/
structure UbSsdBlockRef where
  blockHi : UInt64
  blockLo : UInt64
  version : UInt64
  offset : UInt64
  bytes : UInt64
  checksum64 : UInt64

/-- The fields of `struct mem_service_ub_ssd_gsva_io_completion` that are read. -/
structure UbSsdCompletion where
  committedRef : UbSsdBlockRef
  bytesRead : UInt64
  checksum64 : UInt64

/-- How writing a payload block ends: done, or failed before or after its length and checksum were
compared with the payload's. -/
inductive BlockWrite
  | done
  | failedEarly (s : FailStatus)
  | failedLate (s : FailStatus)

/-- What one request learns from outside the service. -/
structure Env where
  wallClockMs : UInt64
  retentionNowMs : UInt64
  monotonicMs : UInt64
  failureMonotonicMs : UInt64
  /-- The bytes behind `payload_path`, read from a file or over TCP. -/
  payloadSource : Except FailStatus Bytes
  blockWrite : BlockWrite
  /-- The stored block has the length and the checksum of its record. -/
  blockIntact : Bool
  /-- How copying a block to its destination ends. -/
  materialized : Option FailStatus
  ubSsd : Except FailStatus UbSsdCompletion
  dataPlaneReady : Bool
  providerCount : ℕ
  providerReadyCount : ℕ
  /-- The text of the metrics counters, which are kept apart from the service. -/
  metricsText : Bytes

/-! ## Replies -/

/-- What goes back to the client. -/
structure Reply where
  status : WireStatus
  response : Bytes
  deriving DecidableEq

/-- A refusal leaves the response buffer as dispatch cleared it. -/
def Reply.fail (s : WireStatus) : Reply := ⟨s, []⟩

/-- An `snprintf` of whole lines into the response buffer. -/
def respond (ls : List Bytes) : Bytes := snprintf maxPayloadLen (unlines ls)

/-- A successful answer of `name=value` lines. -/
def Reply.fields (fs : List (String × Bytes)) : Reply :=
  ⟨WireStatus.ok, respond (fs.map fun f => fieldLine f.1 f.2)⟩

/-- `%u` and `%PRIu64`. -/
def showU32 (n : UInt32) : Bytes := decimal n.toNat
@[inherit_doc showU32] def showU64 (n : UInt64) : Bytes := decimal n.toNat

/-- `mem_service_object_backend_name`. -/
def objectBackendName (kind : UInt32) : Bytes :=
  if kind = objectBackendUbSsdGsva then ascii "ub-ssd-gsva-v1"
  else if kind = objectBackendObmmPool then ascii "obmm-pool-v1"
  else ascii "unknown"

namespace Record

variable (r : Record)

/-- The lines after the kind that `mem_service_format_record_payload` and the inspect format
share. -/
def placementFields : List (String × Bytes) :=
  [("request_id", r.requestId.bytes), ("prefix_group", r.prefixGroup.bytes),
    ("group_id", r.groupId.bytes), ("session_id", r.sessionIdOr), ("model_key", r.modelKeyOr),
    ("artifact_kind", r.artifactKindOr), ("artifact_id", r.artifactIdOr),
    ("block_hash", r.blockHash.bytes), ("placement_node", showU32 r.placementNode),
    ("placement_level", showU32 r.placementLevel), ("hot_segment_id", showU64 r.hotSegmentId),
    ("state", r.state.name), ("version", showU64 r.version),
    ("last_result_segment", showU64 r.lastResultSegment),
    ("object_owner_node", showU32 r.objectOwnerNode),
    ("object_payload_kind", showU32 r.objectPayloadKind),
    ("object_backing_offset", showU64 r.objectBackingOffset),
    ("object_backing_len", showU64 r.objectBackingLen),
    ("object_payload_checksum", showU64 r.objectPayloadChecksum)]

/-- The lines of the backend reference, absent for the default backend. -/
def backendFields : List (String × Bytes) :=
  if r.objectBackend.kind = objectBackendObmmPool then []
  else
    [("object_backend", objectBackendName r.objectBackend.kind),
      ("object_backend_kind", showU32 r.objectBackend.kind),
      ("object_backend_node", showU32 r.objectBackend.node),
      ("object_backend_device_cna", showU32 r.objectBackend.deviceCna),
      ("object_backend_flags", showU32 r.objectBackend.flags),
      ("object_backend_block_hi", showU64 r.objectBackend.blockHi),
      ("object_backend_block_lo", showU64 r.objectBackend.blockLo),
      ("object_backend_block_version", showU64 r.objectBackend.blockVersion),
      ("object_backend_block_offset", showU64 r.objectBackend.blockOffset),
      ("object_backend_block_bytes", showU64 r.objectBackend.blockBytes),
      ("object_backend_block_checksum", showU64 r.objectBackend.blockChecksum)]

/-- The lines of `mem_service_format_record_payload`. -/
def payloadFields : List (String × Bytes) :=
  [("key", r.key.bytes), ("kind", showU32 r.kind.code)] ++ r.placementFields ++ r.backendFields

/-- The lines of `mem_service_format_inspect_record_payload`. -/
def inspectFields : List (String × Bytes) :=
  [("key", r.key.bytes), ("kind", showU32 r.kind.code), ("kind_name", r.kind.name)] ++
    r.placementFields ++ r.backendFields ++ [("member_count", decimal r.memberCount.val)]

end Record

/-! ## Payload blocks and backend references -/

/-- `MEM_SERVICE_PAYLOAD_KIND_SEALED_LOCAL_BLOCK` to `..._TRANSPORT_TCP_BLOCK`. -/
def payloadKindSealedLocal : UInt32 := 64
@[inherit_doc payloadKindSealedLocal] def payloadKindSealedChunked : UInt32 := 65
@[inherit_doc payloadKindSealedLocal] def payloadKindTransportLoopback : UInt32 := 66
@[inherit_doc payloadKindSealedLocal] def payloadKindTransportTcp : UInt32 := 67
/-- `MEM_SERVICE_PAYLOAD_KIND_UB_SSD_GSVA_BLOCK`. -/
def payloadKindUbSsdGsva : UInt32 := 68

/-- The kinds whose payload is a block file. -/
def isBlockKind (kind : UInt32) : Bool :=
  kind == payloadKindSealedLocal || kind == payloadKindSealedChunked ||
    kind == payloadKindTransportLoopback || kind == payloadKindTransportTcp

/-- `mem_service_checksum_bytes`: 64-bit FNV-1a. -/
def checksumBytes (s : Bytes) : UInt64 :=
  s.foldl (fun h b => (h ^^^ b.toUInt64) * 1099511628211) 1469598103934665603

section Blocks

variable (env : Env) (storageRoot : Bool) (p : Payload)

/-- The four block writers, once their own preconditions hold: take the bytes, compare length and
checksum with the payload's, store them, and describe them in the record. -/
def sealPayloadBlock (kind : UInt32) (source : Except FailStatus Bytes) (next : Record) :
    Except WireStatus Record := do
  if let .failedEarly s := env.blockWrite then throw s.val
  let bytes ← source.mapError Subtype.val
  let len := UInt64.ofNat bytes.length
  if (p.getU64Checked "backing_len").any (· != len) then throw WireStatus.checksumMismatch
  if (p.getU64Checked "checksum").any (· != checksumBytes bytes) then
    throw WireStatus.checksumMismatch
  if let .failedLate s := env.blockWrite then throw s.val
  return { next with
    objectPayloadKind := kind
    objectBackingOffset := 0
    objectBackingLen := len
    objectPayloadChecksum := checksumBytes bytes }

/-- `mem_service_write_payload_block`. -/
def writePayloadBlock (payloadInline payloadPath : Bytes) (next : Record) :
    Except WireStatus Record := do
  if payloadInline = [] ∧ payloadPath = [] then return next
  if payloadInline ≠ [] ∧ payloadPath ≠ [] then throw WireStatus.unsupported
  if !storageRoot then throw WireStatus.unsupported
  let kind := p.getU32 "payload_kind" 0
  let source := if payloadInline ≠ [] then .ok payloadInline else env.payloadSource
  if kind = payloadKindSealedChunked ∨ kind = payloadKindTransportLoopback then
    sealPayloadBlock env p kind source next
  else if kind = payloadKindTransportTcp then
    -- the TCP backend fetches the payload itself
    if payloadInline ≠ [] ∨ ¬ ascii "tcp:" <+: payloadPath then throw WireStatus.unsupported
    sealPayloadBlock env p kind source next
  else if kind ≠ 0 ∧ kind ≠ payloadKindSealedLocal then throw WireStatus.unsupported
  else sealPayloadBlock env p payloadKindSealedLocal source next

/-- `mem_service_validate_payload_block`. -/
def validatePayloadBlock (r : Record) : WireStatus :=
  if isBlockKind r.objectPayloadKind then
    if storageRoot ∧ r.objectPayloadChecksum ≠ 0 ∧ env.blockIntact then WireStatus.ok
    else WireStatus.checksumMismatch
  else WireStatus.ok

/-- `mem_service_materialize_payload_block`. -/
def materializePayloadBlock (r : Record) : WireStatus :=
  if validatePayloadBlock env storageRoot r ≠ WireStatus.ok then
    validatePayloadBlock env storageRoot r
  else if !(isBlockKind r.objectPayloadKind && r.objectPayloadChecksum != 0) then
    WireStatus.unsupported
  else (env.materialized.map Subtype.val).getD WireStatus.ok

/-- `mem_service_payload_selects_ub_ssd_backend`. -/
def selectsUbSsdBackend : Bool :=
  p.getU32 "backend_kind" 0 == objectBackendUbSsdGsva ||
    (p.getString "backend" 64).any fun b =>
      b == ascii "ub-ssd-gsva-v1" || b == ascii "ub_ssd_gsva_v1"

/-- `mem_service_payload_ub_ssd_write_requested`. -/
def ubSsdWriteRequested : Bool := p.getU32 "backend_write" 0 != 0

/-- `mem_service_payload_ub_ssd_read_requested`. -/
def ubSsdReadRequested : Bool := p.getU32 "backend_read" 0 != 0

/-- `mem_service_payload_get_ub_ssd_buffer_desc` finds a usable description. -/
def hasUbSsdBufferDesc : Bool :=
  ["backend_buffer_gsva_base", "backend_buffer_bytes", "backend_buffer_key_segment_id",
    "backend_buffer_key_home_va", "backend_buffer_key_size",
    "backend_buffer_key_epoch"].all (fun n => (p.getU64Checked n).any (· != 0)) &&
  ["backend_buffer_token_id", "backend_buffer_token_value"].all
    (fun n => (p.getU32Checked n).any (· != 0)) &&
  ["backend_buffer_key_p_tag", "backend_buffer_key_cache_policy"].all
    (fun n => !(p.getU64Checked n).any (fun v => decide (v.toNat ≥ 2 ^ 32))) &&
  p.getU32 "backend_buffer_key_version" 1 == 1

/-- `mem_service_ub_ssd_submit`. -/
def ubSsdSubmit : Except WireStatus UbSsdCompletion :=
  if hasUbSsdBufferDesc p then env.ubSsd.mapError Subtype.val
  else .error WireStatus.invalidSession

/-- `mem_service_record_attach_ub_ssd_gsva_backend_ref`, always as the primary payload. -/
def attachUbSsdBackendRef (r : Record) (node deviceCna flags : UInt32) (ref : UbSsdBlockRef) :
    Option Record :=
  if ref.bytes = 0 then none
  else some { r with
    objectBackend :=
      { kind := objectBackendUbSsdGsva
        node := node
        deviceCna := deviceCna
        flags := flags
        blockHi := ref.blockHi
        blockLo := ref.blockLo
        blockVersion := ref.version
        blockOffset := ref.offset
        blockBytes := ref.bytes
        blockChecksum := ref.checksum64 }
    objectPayloadKind := payloadKindUbSsdGsva
    objectBackingOffset := ref.offset
    objectBackingLen := ref.bytes
    objectPayloadChecksum := ref.checksum64 }

/-- `mem_service_apply_ub_ssd_backend_ref`. -/
def applyUbSsdBackendRef (payloadInline payloadPath : Bytes) (next : Record) :
    Except WireStatus Record := do
  if !selectsUbSsdBackend p then return next
  if payloadInline ≠ [] ∨ payloadPath ≠ [] then throw WireStatus.unsupported
  let some blockHi := p.getU64Checked "backend_block_hi" | throw WireStatus.invalidSession
  let some blockLo := p.getU64Checked "backend_block_lo" | throw WireStatus.invalidSession
  let (blockBytes, blockChecksum) ←
    if ubSsdWriteRequested p then
      pure (p.getU64 "backend_block_bytes" (p.getU64 "backend_buffer_bytes" 0),
        p.getU64 "backend_block_checksum" 0)
    else
      match p.getU64Checked "backend_block_bytes", p.getU64Checked "backend_block_checksum" with
      | some b, some c =>
          if b = 0 ∨ c = 0 then throw WireStatus.invalidSession else pure (b, c)
      | _, _ => throw WireStatus.invalidSession
  let ref : UbSsdBlockRef :=
    { blockHi, blockLo
      version := p.getU64 "backend_block_version" next.version
      offset := p.getU64 "backend_block_offset" 0
      bytes := blockBytes
      checksum64 := blockChecksum }
  match attachUbSsdBackendRef next (p.getU32 "backend_node" next.objectOwnerNode)
    (p.getU32 "backend_device_cna" 0) (p.getU32 "backend_flags" 0) ref with
  | none => throw WireStatus.invalidSession
  | some next => return next

/-- `mem_service_write_ub_ssd_backend_block`. -/
def writeUbSsdBackendBlock (next : Record) : Except WireStatus Record := do
  let cpl ← ubSsdSubmit env p
  match attachUbSsdBackendRef next next.objectBackend.node next.objectBackend.deviceCna
    next.objectBackend.flags cpl.committedRef with
  | none => throw WireStatus.internal
  | some next => return next

end Blocks

/-! ## Objects -/

section Objects

variable (env : Env) (storageRoot : Bool) (svc : Service) (p : Payload)

/-- The record `mem_service_put_object` starts from. -/
def newObject (key : FieldText 96) : Record :=
  { kind := RecordKind.kvcacheObject
    key := key
    version := p.getU64 "version" 1
    objectOwnerNode := p.getU32 "owner" 0
    objectPayloadKind := p.getU32 "payload_kind" 0
    objectBackingOffset := p.getU64 "backing_offset" 0
    objectBackingLen := p.getU64 "backing_len" 0
    objectPayloadChecksum := p.getU64 "checksum" 0
    objectPublishMonotonicMs := env.wallClockMs }

/-- The record `mem_service_put_object` assembles before it touches the table. -/
def objectRecord (key : FieldText 96) : Except WireStatus Record := do
  let payloadInline := (p.getString "payload_inline" 1024).getD []
  let payloadPath := (p.getString "payload_path" 512).getD []
  let next ← applyUbSsdBackendRef p payloadInline payloadPath (newObject env p key)
  if next.objectBackend.kind = objectBackendUbSsdGsva then
    if ubSsdWriteRequested p then writeUbSsdBackendBlock env p next else return next
  else writePayloadBlock env storageRoot p payloadInline payloadPath next

/-- `mem_service_put_object`. -/
def putObject : Service × Reply :=
  match p.getField "key" 96 with
  | none => (svc, .fail WireStatus.invalidSession)
  | some key =>
      match objectRecord env storageRoot p key with
      | .error s => (svc, .fail s)
      | .ok next =>
          match svc.putRecord next with
          | none => (svc, .fail WireStatus.capacityExceeded)
          | some svc' =>
              (svc', .fields [("status", ascii "ok"), ("key", next.key.bytes),
                ("version", showU64 next.version)])

/-- The record a read of `key` is about, if it has the kind the operation serves. -/
def findKind (key : Bytes) (kind : RecordKind) : Option Record :=
  (svc.findRecord key).filter fun r => r.kind == kind

/-- `mem_service_get_object`. -/
def getObject : Reply :=
  match p.getString "key" 96 with
  | none => .fail WireStatus.invalidSession
  | some key =>
      match findKind svc key RecordKind.kvcacheObject with
      | none => .fail WireStatus.notFound
      | some r =>
          if validatePayloadBlock env storageRoot r ≠ WireStatus.ok then
            .fail (validatePayloadBlock env storageRoot r)
          else if r.objectBackend.kind = objectBackendUbSsdGsva ∧ ubSsdReadRequested p then
            match ubSsdSubmit env p with
            | .error s => .fail s
            | .ok cpl =>
                let text := unlines ((r.payloadFields ++
                  [("object_backend_read_bytes", showU64 cpl.bytesRead),
                    ("object_backend_read_checksum", showU64 cpl.checksum64),
                    ("object_backend_read_version", showU64 cpl.committedRef.version)]).map
                  fun f => fieldLine f.1 f.2)
                ⟨if text.length ≥ maxPayloadLen then WireStatus.internal else WireStatus.ok,
                  snprintf maxPayloadLen text⟩
          else .fields r.payloadFields

/-- `mem_service_inspect_object`. -/
def inspectObject : Reply :=
  match p.getString "key" 96 with
  | none => .fail WireStatus.invalidSession
  | some key =>
      match findKind svc key RecordKind.kvcacheObject with
      | none => .fail WireStatus.notFound
      | some r =>
          if validatePayloadBlock env storageRoot r ≠ WireStatus.ok then
            .fail (validatePayloadBlock env storageRoot r)
          else .fields r.inspectFields

/-- `mem_service_materialize_object`. -/
def materializeObject : Reply :=
  match p.getString "key" 96, p.getString "destination_path" 512 with
  | some key, some _ =>
      match findKind svc key RecordKind.kvcacheObject with
      | none => .fail WireStatus.notFound
      | some r =>
          if (p.getU64Checked "expected_version").any (r.version != ·) then
            .fail WireStatus.staleRef
          else if (p.getU64Checked "expected_checksum").any (r.objectPayloadChecksum != ·) then
            .fail WireStatus.checksumMismatch
          else if materializePayloadBlock env storageRoot r ≠ WireStatus.ok then
            .fail (materializePayloadBlock env storageRoot r)
          else .fields r.payloadFields
  | _, _ => .fail WireStatus.invalidSession

end Objects

/-! ## Artifacts -/

section Artifacts

variable (env : Env) (storageRoot : Bool) (svc : Service) (p : Payload) (kind : RecordKind)

/-- The record `mem_service_store_artifact` starts from, given the one found under its key. -/
def newArtifact (key : FieldText 96) (found : Option Record) : Record :=
  let version := (p.getU64Checked "version").getD ((found.elim 0 Record.version) + 1)
  let modelKey := p.getOptionalField "model_key" 64
  let artifactKind := p.getOptionalField "artifact_kind" 64
  let artifactId := p.getOptionalField "artifact_id" 96
  let blockHash := p.getOptionalField "block_hash" 96
  { kind := kind
    key := key
    version := if version = 0 then 1 else version
    sessionId := p.getOptionalField "session_id" 64
    requestId := p.getOptionalField "request_id" 64
    prefixGroup := modelKey
    groupId := artifactKind
    modelKey := modelKey
    artifactKind := artifactKind
    artifactId := artifactId
    blockHash := if blockHash.bytes = [] then artifactId else blockHash
    objectOwnerNode := p.getU32 "owner" 0
    objectPayloadKind := p.getU32 "payload_kind" 0
    objectBackingOffset := p.getU64 "backing_offset" 0
    objectBackingLen := p.getU64 "backing_len" 0
    objectPayloadChecksum := p.getU64 "checksum" 0
    objectPublishMonotonicMs := env.wallClockMs }

/-- The record `mem_service_store_artifact` assembles before it touches the table. -/
def artifactRecord (key : FieldText 96) (found : Option Record) : Except WireStatus Record := do
  let payloadInline := (p.getString "payload_inline" 1024).getD []
  let payloadPath := (p.getString "payload_path" 512).getD []
  let next ← applyUbSsdBackendRef p payloadInline payloadPath (newArtifact env p kind key found)
  if next.objectBackend.kind = objectBackendUbSsdGsva then return next
  else writePayloadBlock env storageRoot p payloadInline payloadPath next

/-- `mem_service_store_artifact`. -/
def storeArtifact : Service × Reply :=
  match p.getField "key" 96 with
  | none => (svc, .fail WireStatus.invalidSession)
  | some key =>
      match artifactRecord env storageRoot p kind key (svc.findRecord key.bytes) with
      | .error s => (svc, .fail s)
      | .ok next =>
          match svc.putRecord next with
          | none => (svc, .fail WireStatus.capacityExceeded)
          | some svc' => (svc', .fields next.payloadFields)

/-- The checks of `mem_service_query_artifact` on the client's expectations. -/
def expectedContextStatus (r : Record) : WireStatus :=
  if p.stringMismatch "expected_session_id" r.sessionIdOr then WireStatus.invalidSession
  else if p.stringMismatch "expected_model_key" r.modelKeyOr then WireStatus.invalidModelBinding
  else if p.stringMismatch "expected_artifact_kind" r.artifactKindOr ||
      p.stringMismatch "expected_artifact_id" r.artifactIdOr then WireStatus.staleRef
  else if (p.getU32Checked "expected_owner").any (r.objectOwnerNode != ·) then
    WireStatus.invalidModelBinding
  else if (p.getU64Checked "expected_version").any (r.version != ·) then WireStatus.staleRef
  else if (p.getU64Checked "expected_checksum").any (r.objectPayloadChecksum != ·) then
    WireStatus.checksumMismatch
  else WireStatus.ok

/-- `mem_service_query_artifact`. -/
def queryArtifact : Reply :=
  match p.getString "key" 96 with
  | none => .fail WireStatus.invalidSession
  | some key =>
      match findKind svc key kind with
      | none => .fail WireStatus.notFound
      | some r =>
          if svc.enforceExpectedContext ∧ expectedContextStatus p r ≠ WireStatus.ok then
            .fail (expectedContextStatus p r)
          else if validatePayloadBlock env storageRoot r ≠ WireStatus.ok then
            .fail (validatePayloadBlock env storageRoot r)
          else .fields r.payloadFields

end Artifacts

/-! ## Key-value segments and prefix entries -/

section Segments

variable (svc : Service) (p : Payload)

/-- `mem_service_fill_block_ctx`. -/
def fillBlockCtx : Option BlockCtx := do
  let requestId ← p.getField "request_id" 64
  let prefixGroup ← p.getField "prefix_group" 64
  let groupId ← p.getField "group_id" 64
  let blockHash ← p.getField "block_hash" 96
  return {
    requestId, prefixGroup, groupId, blockHash
    placementNode := p.getU32 "placement_node" 0
    placementLevel := p.getU32 "placement_level" 0
    hotSegmentId := p.getU64 "hot_segment_id" 0
    resultSegmentId := p.getU64 "result_segment_id" 0 }

/-- The key an unchecked builder leaves: empty when the parts do not fit. -/
def keyOrEmpty (key : Option (FieldText 96)) : FieldText 96 := key.getD FieldText.blank

/-- Assign a state through the pointer a key finds, and count the change. -/
def bumpState (svc : Service) (r : Record) (state : KvcacheState) : Service :=
  svc.setRecord { r with state := state, version := r.version + 1 }

/-- The answer of `mem_service_publish_kv`. -/
def publishReply (blockKey : Bytes) (r : Record) : Reply :=
  .fields [("status", ascii "ok"), ("key", blockKey), ("block_hash", r.blockHash.bytes),
    ("state", r.state.name), ("version", showU64 r.version)]

/-- The end of `mem_service_publish_kv`: the block takes the requested state. -/
def publishState (svc : Service) (blockKey : FieldText 96) (state : KvcacheState) :
    Service × Reply :=
  match svc.findRecord blockKey.bytes with
  | none => (svc, .fail WireStatus.internal)
  | some record =>
      if record.state ≠ state then
        let svc' := bumpState svc record state
        match svc'.findRecord blockKey.bytes with
        | none => (svc', .fail WireStatus.internal)
        | some record' => (svc', publishReply blockKey.bytes record')
      else (svc, publishReply blockKey.bytes record)

/-- `mem_service_publish_kv`. -/
def publishKv : Service × Reply :=
  let state := p.getState KvcacheState.filled
  match fillBlockCtx p with
  | none => (svc, .fail WireStatus.invalidSession)
  | some ctx =>
      match svc.bootstrapKvcache ctx with
      | .error svc₁ => (svc₁, .fail WireStatus.internal)
      | .ok (svc₁, record) =>
          let blockKey := keyOrEmpty ctx.buildBlockKey
          if ctx.resultSegmentId ≠ 0 ∧ ctx.resultSegmentId > record.lastResultSegment then
            match svc₁.applyBlockResult ctx ctx.resultSegmentId state with
            | (svc₂, .failed) => (svc₂, .fail WireStatus.versionConflict)
            | (svc₂, .wrongOwner) => (svc₂, .fail WireStatus.versionConflict)
            | (svc₂, _) => publishState svc₂ blockKey state
          else publishState svc₁ blockKey state

/-- `mem_service_resolve_kv`. -/
def resolveKv : Reply :=
  let key := match p.getString "key" 96 with
    | some key => some key
    | none => (p.getString "block_hash" 96).map fun h =>
        (keyOrEmpty (buildBlockKeyFromHash h)).bytes
  match key with
  | none => .fail WireStatus.invalidSession
  | some key =>
      match findKind svc key RecordKind.blockMeta with
      | none => .fail WireStatus.notFound
      | some r => .fields r.payloadFields

/-- The end of `mem_service_register_prefix`: prefix entry and block take the requested state. -/
def registerState (svc : Service) (ctx : BlockCtx) (prefixKey : FieldText 96)
    (state : KvcacheState) : Service × Reply :=
  match svc.findRecord prefixKey.bytes with
  | none => (svc, .fail WireStatus.internal)
  | some entry =>
      if entry.state ≠ state then
        match svc.findRecord (keyOrEmpty ctx.buildBlockKey).bytes with
        | none => (svc, .fail WireStatus.internal)
        | some block =>
            let svc' := bumpState (bumpState svc entry state) block state
            match svc'.findRecord prefixKey.bytes with
            | none => (svc', .fail WireStatus.internal)
            | some entry' => (svc', .fields entry'.payloadFields)
      else (svc, .fields entry.payloadFields)

/-- `mem_service_register_prefix`. -/
def registerPrefix : Service × Reply :=
  let state := p.getState KvcacheState.filled
  match fillBlockCtx p with
  | none => (svc, .fail WireStatus.invalidSession)
  | some ctx =>
      if ctx.resultSegmentId = 0 then (svc, .fail WireStatus.invalidSession)
      else
        let prefixKey := keyOrEmpty ctx.buildPrefixKey
        let bootstrap : Service × Reply :=
          match svc.bootstrapKvcache ctx with
          | .error svc₁ => (svc₁, .fail WireStatus.internal)
          | .ok (svc₁, _) => registerState svc₁ ctx prefixKey state
        match svc.findRecord prefixKey.bytes with
        | none => bootstrap
        | some entry =>
            if entry.kind ≠ RecordKind.requestPrefix ∨
                entry.lastResultSegment > ctx.resultSegmentId ∨
                (entry.lastResultSegment = ctx.resultSegmentId ∧
                  entry.blockHash ≠ ctx.blockHash) then
              (svc, .fail WireStatus.versionConflict)
            else if entry.lastResultSegment = ctx.resultSegmentId ∧
                entry.blockHash = ctx.blockHash then
              (svc, .fields entry.payloadFields)
            else bootstrap

/-- `mem_service_lookup_prefix`. -/
def lookupPrefix : Reply :=
  match p.getString "request_id" 64, p.getString "prefix_group" 64 with
  | some requestId, some prefixGroup =>
      match findKind svc (keyOrEmpty (buildPrefixKeyFromParts requestId prefixGroup)).bytes
        RecordKind.requestPrefix with
      | none => .fail WireStatus.notFound
      | some r => .fields r.payloadFields
  | _, _ => .fail WireStatus.invalidSession

end Segments

end MemService
