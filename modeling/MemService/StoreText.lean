import MemService.Record

/-!
# The store's text: writing it and importing it

The store file, the journal and the snapshot payloads share one line format.  A record, an
idempotency record or an audit event is a *frame*: a `_begin` line, `name=value` lines, and an
`_end` line.  The writers are `mem_service_save_record` and its siblings; the reader is
`mem_service_import_store_line`, one line at a time, with at most one frame open.

A record has over thirty fields, and the source spells each of them twice, once in the format
string and once in a chain of `strcmp`.  Here a field is a `RecordField`, which carries its name,
its printed text and its assignment; the writer prints a list of fields and the reader looks the
name up, so a missing field is one missing entry of a list.

The three loaders differ in how they cut the text into lines and in what they demand at the end.
The store file and the journal are read through a line buffer of 512 bytes, a snapshot payload is
walked with `strchr` and a line that would not fit the buffer is an error.  The store file and the
snapshot must not end inside a frame; the journal may.
-/

open ByteText CNumeral

namespace MemService

/-! ## Parsing one line -/

/-- `MEM_SERVICE_STORE_MAGIC`. -/
def storeMagic : Bytes := ascii "mem_service_store_v1"
/-- `MEM_SERVICE_JOURNAL_MAGIC`. -/
def journalMagic : Bytes := ascii "mem_service_journal_v1"

/-- The bytes `fgets` puts into a `char line[512]`. -/
abbrev lineCap : ℕ := 511

/-- `mem_service_parse_line_field`: a name buffer of 96 bytes, a value buffer of 512. -/
def parseLineField (line : Bytes) : Option (Bytes × Bytes) :=
  match splitEq line with
  | some ([], _) => none
  | some (n, v) => some (n.take 95, v.take 511)
  | none => none

/-- `mem_service_parse_u64_value`. -/
def parseU64Value (v : Bytes) (dflt : UInt64) : UInt64 := (readU64 0 v).getD dflt

/-- `mem_service_parse_i64_value`. -/
def parseI64Value (v : Bytes) (dflt : Int64) : Int64 := (readI64 0 v).getD dflt

/-- `mem_service_parse_u32_value`. -/
def parseU32Value (v : Bytes) (dflt : UInt32) : UInt32 :=
  if (parseU64Value v dflt.toUInt64).toNat < 2 ^ 32 then (parseU64Value v dflt.toUInt64).toUInt32
  else dflt

/-- `mem_service_member_index_from_name`. -/
def memberIndexFromName (name : Bytes) : Option (Fin maxGroupMembers) :=
  if (ascii "member").isPrefixOf name then
    (readU64 10 (name.drop 6)).bind fun n =>
      if h : n.toNat < maxGroupMembers then some ⟨n.toNat, h⟩ else none
  else none

/-! ## Record fields -/

/-- The named fields of a record, in the order of `mem_service_parse_store_record_field`. -/
inductive RecordField
  | kind | key | requestId | prefixGroup | groupId | blockHash | sessionId | modelKey
  | artifactKind | artifactId | placementNode | placementLevel | hotSegmentId | state | version
  | lastResultSegment | objectOwnerNode | objectPayloadKind | objectBackingOffset
  | objectBackingLen | objectPayloadChecksum | objectBackendKind | objectBackendNode
  | objectBackendDeviceCna | objectBackendFlags | objectBackendBlockHi | objectBackendBlockLo
  | objectBackendBlockVersion | objectBackendBlockOffset | objectBackendBlockBytes
  | objectBackendBlockChecksum | objectPublishMonotonicMs | objectPublishSupernodeMs
  | objectPublishSupernodeOffsetMs | memberCount
  deriving DecidableEq, Repr

namespace RecordField

def all : List RecordField :=
  [kind, key, requestId, prefixGroup, groupId, blockHash, sessionId, modelKey, artifactKind,
    artifactId, placementNode, placementLevel, hotSegmentId, state, version, lastResultSegment,
    objectOwnerNode, objectPayloadKind, objectBackingOffset, objectBackingLen,
    objectPayloadChecksum, objectBackendKind, objectBackendNode, objectBackendDeviceCna,
    objectBackendFlags, objectBackendBlockHi, objectBackendBlockLo, objectBackendBlockVersion,
    objectBackendBlockOffset, objectBackendBlockBytes, objectBackendBlockChecksum,
    objectPublishMonotonicMs, objectPublishSupernodeMs, objectPublishSupernodeOffsetMs,
    memberCount]

/-- The field's name in the text. -/
def name : RecordField → String
  | kind => "kind"
  | key => "key"
  | requestId => "request_id"
  | prefixGroup => "prefix_group"
  | groupId => "group_id"
  | blockHash => "block_hash"
  | sessionId => "session_id"
  | modelKey => "model_key"
  | artifactKind => "artifact_kind"
  | artifactId => "artifact_id"
  | placementNode => "placement_node"
  | placementLevel => "placement_level"
  | hotSegmentId => "hot_segment_id"
  | state => "state"
  | version => "version"
  | lastResultSegment => "last_result_segment"
  | objectOwnerNode => "object_owner_node"
  | objectPayloadKind => "object_payload_kind"
  | objectBackingOffset => "object_backing_offset"
  | objectBackingLen => "object_backing_len"
  | objectPayloadChecksum => "object_payload_checksum"
  | objectBackendKind => "object_backend_kind"
  | objectBackendNode => "object_backend_node"
  | objectBackendDeviceCna => "object_backend_device_cna"
  | objectBackendFlags => "object_backend_flags"
  | objectBackendBlockHi => "object_backend_block_hi"
  | objectBackendBlockLo => "object_backend_block_lo"
  | objectBackendBlockVersion => "object_backend_block_version"
  | objectBackendBlockOffset => "object_backend_block_offset"
  | objectBackendBlockBytes => "object_backend_block_bytes"
  | objectBackendBlockChecksum => "object_backend_block_checksum"
  | objectPublishMonotonicMs => "object_publish_monotonic_ms"
  | objectPublishSupernodeMs => "object_publish_supernode_ms"
  | objectPublishSupernodeOffsetMs => "object_publish_supernode_offset_ms"
  | memberCount => "member_count"

/-- The field's text, as the writers print it. -/
def text (f : RecordField) (r : Record) : Bytes :=
  match f with
  | kind => decimal r.kind.code.toNat
  | key => r.key.bytes
  | requestId => r.requestId.bytes
  | prefixGroup => r.prefixGroup.bytes
  | groupId => r.groupId.bytes
  | blockHash => r.blockHash.bytes
  | sessionId => r.sessionId.bytes
  | modelKey => r.modelKey.bytes
  | artifactKind => r.artifactKind.bytes
  | artifactId => r.artifactId.bytes
  | placementNode => decimal r.placementNode.toNat
  | placementLevel => decimal r.placementLevel.toNat
  | hotSegmentId => decimal r.hotSegmentId.toNat
  | state => decimal r.state.code.toNat
  | version => decimal r.version.toNat
  | lastResultSegment => decimal r.lastResultSegment.toNat
  | objectOwnerNode => decimal r.objectOwnerNode.toNat
  | objectPayloadKind => decimal r.objectPayloadKind.toNat
  | objectBackingOffset => decimal r.objectBackingOffset.toNat
  | objectBackingLen => decimal r.objectBackingLen.toNat
  | objectPayloadChecksum => decimal r.objectPayloadChecksum.toNat
  | objectBackendKind => decimal r.objectBackend.kind.toNat
  | objectBackendNode => decimal r.objectBackend.node.toNat
  | objectBackendDeviceCna => decimal r.objectBackend.deviceCna.toNat
  | objectBackendFlags => decimal r.objectBackend.flags.toNat
  | objectBackendBlockHi => decimal r.objectBackend.blockHi.toNat
  | objectBackendBlockLo => decimal r.objectBackend.blockLo.toNat
  | objectBackendBlockVersion => decimal r.objectBackend.blockVersion.toNat
  | objectBackendBlockOffset => decimal r.objectBackend.blockOffset.toNat
  | objectBackendBlockBytes => decimal r.objectBackend.blockBytes.toNat
  | objectBackendBlockChecksum => decimal r.objectBackend.blockChecksum.toNat
  | objectPublishMonotonicMs => decimal r.objectPublishMonotonicMs.toNat
  | objectPublishSupernodeMs => decimal r.objectPublishSupernodeMs.toNat
  | objectPublishSupernodeOffsetMs => signedDecimal r.objectPublishSupernodeOffsetMs.toInt
  | memberCount => decimal r.memberCount.val

/-- The field's assignment, as the importer makes it. -/
def assign (f : RecordField) (v : Bytes) (r : Record) : Record :=
  match f with
  | kind => { r with kind := ⟨parseU32Value v 0⟩ }
  | key => { r with key := .copy v }
  | requestId => { r with requestId := .copy v }
  | prefixGroup => { r with prefixGroup := .copy v }
  | groupId => { r with groupId := .copy v }
  | blockHash => { r with blockHash := .copy v }
  | sessionId => { r with sessionId := .copy v }
  | modelKey => { r with modelKey := .copy v }
  | artifactKind => { r with artifactKind := .copy v }
  | artifactId => { r with artifactId := .copy v }
  | placementNode => { r with placementNode := parseU32Value v 0 }
  | placementLevel => { r with placementLevel := parseU32Value v 0 }
  | hotSegmentId => { r with hotSegmentId := parseU64Value v 0 }
  | state => { r with state := ⟨parseU32Value v 0⟩ }
  | version => { r with version := parseU64Value v 0 }
  | lastResultSegment => { r with lastResultSegment := parseU64Value v 0 }
  | objectOwnerNode => { r with objectOwnerNode := parseU32Value v 0 }
  | objectPayloadKind => { r with objectPayloadKind := parseU32Value v 0 }
  | objectBackingOffset => { r with objectBackingOffset := parseU64Value v 0 }
  | objectBackingLen => { r with objectBackingLen := parseU64Value v 0 }
  | objectPayloadChecksum => { r with objectPayloadChecksum := parseU64Value v 0 }
  | objectBackendKind => { r with objectBackend.kind := parseU32Value v 0 }
  | objectBackendNode => { r with objectBackend.node := parseU32Value v 0 }
  | objectBackendDeviceCna => { r with objectBackend.deviceCna := parseU32Value v 0 }
  | objectBackendFlags => { r with objectBackend.flags := parseU32Value v 0 }
  | objectBackendBlockHi => { r with objectBackend.blockHi := parseU64Value v 0 }
  | objectBackendBlockLo => { r with objectBackend.blockLo := parseU64Value v 0 }
  | objectBackendBlockVersion => { r with objectBackend.blockVersion := parseU64Value v 0 }
  | objectBackendBlockOffset => { r with objectBackend.blockOffset := parseU64Value v 0 }
  | objectBackendBlockBytes => { r with objectBackend.blockBytes := parseU64Value v 0 }
  | objectBackendBlockChecksum => { r with objectBackend.blockChecksum := parseU64Value v 0 }
  | objectPublishMonotonicMs => { r with objectPublishMonotonicMs := parseU64Value v 0 }
  | objectPublishSupernodeMs => { r with objectPublishSupernodeMs := parseU64Value v 0 }
  | objectPublishSupernodeOffsetMs =>
      { r with objectPublishSupernodeOffsetMs := parseI64Value v 0 }
  | memberCount =>
      -- a count past the member slots is clamped to them
      { r with memberCount := ⟨min (parseU32Value v 0).toNat maxGroupMembers, by omega⟩ }

/-- The fields both writers print, in the order of their format strings. -/
def printed : List RecordField :=
  [kind, key, requestId, prefixGroup, groupId, blockHash, sessionId, modelKey, artifactKind,
    artifactId, placementNode, placementLevel, hotSegmentId, state, version, lastResultSegment,
    objectOwnerNode, objectPayloadKind, objectBackingOffset, objectBackingLen,
    objectPayloadChecksum, objectPublishMonotonicMs, objectPublishSupernodeMs,
    objectPublishSupernodeOffsetMs, memberCount]

/-- The fields only the store writer prints, and only for a record with a backend. -/
def backend : List RecordField :=
  [objectBackendKind, objectBackendNode, objectBackendDeviceCna, objectBackendFlags,
    objectBackendBlockHi, objectBackendBlockLo, objectBackendBlockVersion,
    objectBackendBlockOffset, objectBackendBlockBytes, objectBackendBlockChecksum]

end RecordField

/-! ## Writing frames -/

/-- The lines of one record's named fields. -/
def recordFieldLines (fs : List RecordField) (r : Record) : List Bytes :=
  fs.map fun f => fieldLine f.name (f.text r)

/-- The lines of a record's members, those its member count covers. -/
def memberLines (r : Record) : List Bytes :=
  ((List.finRange maxGroupMembers).filter fun i => i.val < r.memberCount.val).map fun i =>
    ascii "member" ++ decimal i.val ++ EQ :: (r.memberBlockHashes i).bytes

/-- The lines of `mem_service_save_record`. -/
def saveRecord (r : Record) : List Bytes :=
  [ascii "record_begin"] ++ recordFieldLines RecordField.printed r ++
    (if r.objectBackend.kind ≠ objectBackendObmmPool then
      recordFieldLines RecordField.backend r else []) ++
    memberLines r ++ [ascii "record_end"]

/-- The lines of `mem_service_append_snapshot_record_text`. -/
def snapshotRecord (r : Record) : List Bytes :=
  [ascii "record_begin"] ++ recordFieldLines RecordField.printed r ++
    memberLines r ++ [ascii "record_end"]

/-- The lines of `mem_service_save_idempotency_record` and of its snapshot sibling. -/
def saveIdempotencyRecord (r : IdempotencyRecord) : List Bytes :=
  [ascii "idempotency_begin",
    fieldLine "key" r.key.bytes,
    fieldLine "operation" (decimal r.operation.toNat),
    fieldLine "request_checksum" (decimal r.requestChecksum.toNat),
    fieldLine "status" (decimal r.status.code.toNat),
    fieldLine "response_len" (decimal r.response.bytes.length)] ++
    (lines r.response.bytes).map (fieldLine "response_line") ++ [ascii "idempotency_end"]

/-- The lines of `mem_service_save_audit_event` and of its snapshot sibling. -/
def saveAuditEvent (e : AuditEvent) : List Bytes :=
  [ascii "audit_begin",
    fieldLine "sequence" (decimal e.sequence.toNat),
    fieldLine "monotonic_ms" (decimal e.monotonicMs.toNat),
    fieldLine "operation" (decimal e.operation.toNat),
    fieldLine "status" (decimal e.status.code.toNat),
    fieldLine "request_checksum" (decimal e.requestChecksum.toNat),
    fieldLine "response_checksum" (decimal e.responseChecksum.toNat),
    fieldLine "idempotency_replay" (decimal e.idempotencyReplay.toNat),
    fieldLine "key" e.key.bytes,
    fieldLine "session_id" e.sessionId.bytes,
    fieldLine "model_key" e.modelKey.bytes,
    fieldLine "artifact_kind" e.artifactKind.bytes,
    fieldLine "artifact_id" e.artifactId.bytes,
    fieldLine "idempotency_key" e.idempotencyKey.bytes,
    fieldLine "version" (decimal e.version.toNat),
    fieldLine "checksum" (decimal e.checksum.toNat),
    ascii "audit_end"]

/-! ## Writing the store -/

/-- `mem_service_find_audit_sequence`. -/
def Service.findAuditSequence (svc : Service) (sequence : ℕ) : Option AuditEvent :=
  svc.audit.find? fun e => decide (e.sequence.toNat = sequence)

/-- The audit events a `for (sequence = first; sequence < next; ++sequence)` loop finds. -/
def Service.auditWindow (svc : Service) (first : ℕ) : List AuditEvent :=
  (List.range' first (svc.auditNextSequence.toNat - first)).filterMap svc.findAuditSequence

/-- The first sequence number `mem_service_save_store` looks for. -/
def Service.savedFrom (svc : Service) : ℕ :=
  if svc.auditNextSequence.toNat > maxAuditEvents + 1 then
    svc.auditNextSequence.toNat - maxAuditEvents
  else 1

/-- The lines in front of the frames. -/
def storeHeader (svc : Service) : List Bytes :=
  [storeMagic,
    fieldLine "store_schema_version" (decimal 1),
    fieldLine "record_count" (decimal svc.recordCount),
    fieldLine "audit_next_sequence" (decimal svc.auditNextSequence.toNat),
    fieldLine "audit_event_count" (decimal svc.auditEventCount.toNat)]

/-- The text `mem_service_save_store` writes. -/
def saveStore (svc : Service) : Bytes :=
  unlines (storeHeader svc ++ svc.records.entries.flatMap saveRecord ++
    svc.idempotency.entries.flatMap saveIdempotencyRecord ++
    (svc.auditWindow svc.savedFrom).flatMap saveAuditEvent)

/-! ## Importing frames -/

/-- `mem_service_parse_store_record_field`; an unknown name is skipped. -/
def parseStoreRecordField (r : Record) (name v : Bytes) : Record :=
  match memberIndexFromName name with
  | some i =>
      { r with
        memberBlockHashes := Function.update r.memberBlockHashes i (.copy v)
        memberCount := if r.memberCount.val ≤ i.val then i.succ else r.memberCount }
  | none =>
      match RecordField.all.find? fun f => ascii f.name == name with
      | some f => f.assign v r
      | none => r

/-- `mem_service_append_idempotency_response_line`. -/
def appendIdempotencyResponseLine (r : IdempotencyRecord) (line : Bytes) :
    Option IdempotencyRecord :=
  if r.response.bytes.length + line.length + 1 ≥ maxPayloadLen then none
  else some { r with response := .copy (r.response.bytes ++ line ++ [LF]) }

/-- `mem_service_parse_store_idempotency_field`. -/
def parseStoreIdempotencyField (r : IdempotencyRecord) (name v : Bytes) :
    Option IdempotencyRecord :=
  if name = ascii "key" then some { r with key := .copy v }
  else if name = ascii "operation" then some { r with operation := parseU32Value v 0 }
  else if name = ascii "request_checksum" then
    some { r with requestChecksum := parseU32Value v 0 }
  else if name = ascii "status" then some { r with status := ⟨parseU32Value v 0⟩ }
  else if name = ascii "response_len" then some r
  else if name = ascii "response_line" then appendIdempotencyResponseLine r v
  else some r

/-- `mem_service_parse_store_audit_field`. -/
def parseStoreAuditField (e : AuditEvent) (name v : Bytes) : AuditEvent :=
  if name = ascii "sequence" then { e with sequence := parseU64Value v 0 }
  else if name = ascii "monotonic_ms" then { e with monotonicMs := parseU64Value v 0 }
  else if name = ascii "operation" then { e with operation := parseU32Value v 0 }
  else if name = ascii "status" then { e with status := ⟨parseU32Value v 0⟩ }
  else if name = ascii "request_checksum" then { e with requestChecksum := parseU32Value v 0 }
  else if name = ascii "response_checksum" then { e with responseChecksum := parseU32Value v 0 }
  else if name = ascii "idempotency_replay" then { e with idempotencyReplay := parseU32Value v 0 }
  else if name = ascii "key" then { e with key := .copy v }
  else if name = ascii "session_id" then { e with sessionId := .copy v }
  else if name = ascii "model_key" then { e with modelKey := .copy v }
  else if name = ascii "artifact_kind" then { e with artifactKind := .copy v }
  else if name = ascii "artifact_id" then { e with artifactId := .copy v }
  else if name = ascii "idempotency_key" then { e with idempotencyKey := .copy v }
  else if name = ascii "version" then { e with version := parseU64Value v 0 }
  else if name = ascii "checksum" then { e with checksum := parseU64Value v 0 }
  else e

namespace Service

variable (svc : Service)

/-- `mem_service_store_import_record`. -/
def storeImportRecord (r : Record) : Option Service :=
  if r.key.bytes = [] ∨ r.kind = RecordKind.none then none else svc.putRecord r

/-- `mem_service_store_import_idempotency`. -/
def storeImportIdempotency (r : IdempotencyRecord) : Option Service :=
  if r.key.bytes = [] ∨ r.operation = 0 then none
  else (svc.idempotency.upsert IdempotencyRecord.keyBytes r).map fun t =>
    { svc with idempotency := t }

/-- The ring slot of a sequence number. -/
def auditSlot (sequence : UInt64) : ℕ := ((sequence - 1) % 256).toNat

/-- `mem_service_store_import_audit`. -/
def storeImportAudit (e : AuditEvent) : Option Service :=
  if e.sequence = 0 ∨ e.operation = 0 then none
  else
    let duplicateSequence :=
      (svc.audit.get (auditSlot e.sequence)).any fun old => old.sequence == e.sequence
    some { svc with
      audit := svc.audit.put (auditSlot e.sequence) e
      auditNextSequence :=
        if svc.auditNextSequence ≤ e.sequence then e.sequence + 1 else svc.auditNextSequence
      auditEventCount :=
        if !duplicateSequence && svc.auditEventCount < 256 then svc.auditEventCount + 1
        else svc.auditEventCount }

end Service

/-- The frame an import is inside of.  The three flags of `struct mem_service_store_import_state`
exclude each other, since every `_begin` line checks all of them. -/
inductive OpenFrame
  | closed
  | record (r : Record)
  | idempotency (r : IdempotencyRecord)
  | audit (e : AuditEvent)
  deriving DecidableEq

/-- `mem_service_import_store_line`. -/
def importStoreLine (s : Service × OpenFrame) (line : Bytes) : Option (Service × OpenFrame) :=
  if line = [] then some s
  else if line = ascii "record_begin" then
    match s.2 with
    | .closed => some (s.1, .record {})
    | _ => none
  else if line = ascii "record_end" then
    match s.2 with
    | .record r => (s.1.storeImportRecord r).map fun svc => (svc, .closed)
    | _ => none
  else if line = ascii "idempotency_begin" then
    match s.2 with
    | .closed => some (s.1, .idempotency {})
    | _ => none
  else if line = ascii "idempotency_end" then
    match s.2 with
    | .idempotency r => (s.1.storeImportIdempotency r).map fun svc => (svc, .closed)
    | _ => none
  else if line = ascii "audit_begin" then
    match s.2 with
    | .closed => some (s.1, .audit {})
    | _ => none
  else if line = ascii "audit_end" then
    match s.2 with
    | .audit e => (s.1.storeImportAudit e).map fun svc => (svc, .closed)
    | _ => none
  else
    match parseLineField line with
    | none => none
    | some (n, v) =>
        match s.2 with
        | .record r => some (s.1, .record (parseStoreRecordField r n v))
        | .idempotency r => (parseStoreIdempotencyField r n v).map fun r => (s.1, .idempotency r)
        | .audit e => some (s.1, .audit (parseStoreAuditField e n v))
        | .closed => some s

/-- The import of several lines, up to the first one that is refused. -/
def importStoreLines (s : Service × OpenFrame) (ls : List Bytes) : Option (Service × OpenFrame) :=
  ls.foldlM importStoreLine s

/-! ## The schema line -/

/-- What `mem_service_parse_schema_version_line` makes of a line. -/
inductive SchemaLine
  | other | known | bad
  deriving DecidableEq

/-- `mem_service_parse_schema_version_line` for `store_schema_version=`, whose greatest known
version is `1`. -/
def parseSchemaVersionLine (line : Bytes) : SchemaLine :=
  if (ascii "store_schema_version=").isPrefixOf line then
    if (readBounded 1 (line.drop 21)).isSome then .known else .bad
  else .other

/-- One line of a store or of a snapshot: outside every frame the schema line is recognised first.
The flag says whether one was seen. -/
def importVersionedLine (s : (Service × OpenFrame) × Bool) (line : Bytes) :
    Option ((Service × OpenFrame) × Bool) :=
  match s.1.2, parseSchemaVersionLine line with
  | .closed, .bad => none
  | .closed, .known => some (s.1, true)
  | _, _ => (importStoreLine s.1 line).map fun s' => (s', s.2)

/-! ## Loading -/

/-- A finished import must not stand inside a frame. -/
def closedService (s : Service × OpenFrame) : Option Service :=
  match s.2 with
  | .closed => some s.1
  | _ => none

/-- `mem_service_load_store`: the service, and whether the store had no schema line.  A missing
file is an empty store. -/
def loadStore (svc : Service) (file : Option Bytes) : Option (Service × Bool) :=
  match file with
  | none => some (svc, false)
  | some text =>
      match fileLines lineCap text with
      | [] => none
      | l :: ls =>
          if l = storeMagic then
            ((ls.filter (· ≠ [])).foldlM importVersionedLine ((svc, .closed), false)).bind fun s =>
              (closedService s.1).map fun svc => (svc, !s.2)
          else none

/-- `mem_service_load_journal`.  A frame left open at the end of the file is dropped. -/
def loadJournal (svc : Service) (file : Option Bytes) : Option Service :=
  match file with
  | none => some svc
  | some text =>
      match fileLines lineCap text with
      | [] => none
      | l :: ls =>
          if l = journalMagic then
            (importStoreLines (svc, .closed) (ls.filter (· ≠ []))).map Prod.fst
          else none

/-- One line of a snapshot payload; it has to fit a `char line[512]`. -/
def importSnapshotLine (s : (Service × OpenFrame) × Bool) (l : Bytes) :
    Option ((Service × OpenFrame) × Bool) :=
  if l.length ≥ 512 then none else importVersionedLine s (trimLine l)

/-- `mem_service_import_snapshot_text`. -/
def importSnapshotText (svc : Service) (snapshot : Bytes) : Option Service :=
  match lines snapshot with
  | [] => none
  | l :: ls =>
      if l.length < 512 ∧ trimLine l = storeMagic then
        (ls.foldlM importSnapshotLine ((svc, .closed), false)).bind fun s => closedService s.1
      else none

/-- One line of a snapshot page, with the number of records the page closed so far. -/
def importPageLine (s : ((Service × OpenFrame) × Bool) × ℕ) (l : Bytes) :
    Option (((Service × OpenFrame) × Bool) × ℕ) :=
  (importSnapshotLine s.1 l).map fun s' =>
    (s', s.2 + if trimLine l = ascii "record_end" then 1 else 0)

/-- `mem_service_import_snapshot_records_text`: the service and the number of records. -/
def importSnapshotRecordsText (svc : Service) (page : Bytes) : Option (Service × ℕ) :=
  if page = [] then none
  else
    ((lines page).foldlM importPageLine (((svc, .closed), false), 0)).bind fun s =>
      (closedService s.1.1).map fun svc => (svc, s.2)

end MemService
