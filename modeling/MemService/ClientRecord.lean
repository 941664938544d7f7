import MemService.FieldLines
import MemService.Reachable

/-!
# What the client reads of a response

`mem_service_client.c` parses the response about a record into a structure of its own, field by field,
with the getters the daemon uses for requests.  The names on both sides agree, and so do the widths of
the numbers; what does not are the width of one text and the fields of the backend reference.  The
daemon's artifact identifier has 96 bytes, the client's 64, and the reference is printed only for a
record with a backend other than the default one.
-/

open ByteText CNumeral

namespace MemService

/-! ## The parser -/

/-- `struct mem_service_client_record`. -/
structure ClientRecord where
  key : Bytes
  kind : UInt32
  requestId : Bytes
  prefixGroup : Bytes
  groupId : Bytes
  sessionId : Bytes
  modelKey : Bytes
  artifactKind : Bytes
  artifactId : Bytes
  blockHash : Bytes
  placementNode : UInt32
  placementLevel : UInt32
  hotSegmentId : UInt64
  state : Bytes
  version : UInt64
  lastResultSegment : UInt64
  objectOwnerNode : UInt32
  objectPayloadKind : UInt32
  objectBackingOffset : UInt64
  objectBackingLen : UInt64
  objectPayloadChecksum : UInt64
  objectBackend : BackendRef
  deriving DecidableEq

section Parser

variable (payload : Bytes)

/-- `mem_service_client_payload_copy`. -/
def clientPayloadCopy (name : String) (cap : ℕ) : Bytes :=
  (payloadGetString payload (ascii name) cap).getD []

/-- The checksum of the record, or else a plain `checksum` field. -/
def clientChecksum : UInt64 :=
  let checksum := payloadGetU64 payload (ascii "object_payload_checksum") 0
  if checksum = 0 then payloadGetU64 payload (ascii "checksum") 0 else checksum

/-- The backend reference. -/
def clientBackend : BackendRef where
  kind := payloadGetU32 payload (ascii "object_backend_kind") 0
  node := payloadGetU32 payload (ascii "object_backend_node") 0
  deviceCna := payloadGetU32 payload (ascii "object_backend_device_cna") 0
  flags := payloadGetU32 payload (ascii "object_backend_flags") 0
  blockHi := payloadGetU64 payload (ascii "object_backend_block_hi") 0
  blockLo := payloadGetU64 payload (ascii "object_backend_block_lo") 0
  blockVersion := payloadGetU64 payload (ascii "object_backend_block_version") 0
  blockOffset := payloadGetU64 payload (ascii "object_backend_block_offset") 0
  blockBytes := payloadGetU64 payload (ascii "object_backend_block_bytes") 0
  blockChecksum := payloadGetU64 payload (ascii "object_backend_block_checksum") 0

/-- The fields of `mem_service_client_parse_record`. -/
def clientFields : ClientRecord where
  key := clientPayloadCopy payload "key" 96
  kind := payloadGetU32 payload (ascii "kind") 0
  requestId := clientPayloadCopy payload "request_id" 64
  prefixGroup := clientPayloadCopy payload "prefix_group" 64
  groupId := clientPayloadCopy payload "group_id" 64
  sessionId := clientPayloadCopy payload "session_id" 64
  modelKey := clientPayloadCopy payload "model_key" 64
  artifactKind := clientPayloadCopy payload "artifact_kind" 64
  artifactId := clientPayloadCopy payload "artifact_id" 64
  blockHash := clientPayloadCopy payload "block_hash" 96
  placementNode := payloadGetU32 payload (ascii "placement_node") 0
  placementLevel := payloadGetU32 payload (ascii "placement_level") 0
  hotSegmentId := payloadGetU64 payload (ascii "hot_segment_id") 0
  state := clientPayloadCopy payload "state" 32
  version := payloadGetU64 payload (ascii "version") 0
  lastResultSegment := payloadGetU64 payload (ascii "last_result_segment") 0
  objectOwnerNode := payloadGetU32 payload (ascii "object_owner_node") 0
  objectPayloadKind := payloadGetU32 payload (ascii "object_payload_kind") 0
  objectBackingOffset := payloadGetU64 payload (ascii "object_backing_offset") 0
  objectBackingLen := payloadGetU64 payload (ascii "object_backing_len") 0
  objectPayloadChecksum := clientChecksum payload
  objectBackend := clientBackend payload

/-- `mem_service_client_parse_record`. -/
def clientParseRecord : Option ClientRecord :=
  if payload = [] ∨ (clientFields payload).key = [] then none else some (clientFields payload)

end Parser

/-! ## The record as it should arrive -/

/-- What the client should get of a record: its fields, where the session, the model, the artifact kind
and the artifact identifier fall back as `mem_service_record_session_id` and its siblings say. -/
def Record.clientView (r : Record) : ClientRecord where
  key := r.key.bytes
  kind := r.kind.code
  requestId := r.requestId.bytes
  prefixGroup := r.prefixGroup.bytes
  groupId := r.groupId.bytes
  sessionId := r.sessionIdOr
  modelKey := r.modelKeyOr
  artifactKind := r.artifactKindOr
  artifactId := r.artifactIdOr
  blockHash := r.blockHash.bytes
  placementNode := r.placementNode
  placementLevel := r.placementLevel
  hotSegmentId := r.hotSegmentId
  state := r.state.name
  version := r.version
  lastResultSegment := r.lastResultSegment
  objectOwnerNode := r.objectOwnerNode
  objectPayloadKind := r.objectPayloadKind
  objectBackingOffset := r.objectBackingOffset
  objectBackingLen := r.objectBackingLen
  objectPayloadChecksum := r.objectPayloadChecksum
  objectBackend := r.objectBackend

/-- `mem_service_format_record_payload`: what every handler answers with that describes a record. -/
def formatRecordPayload (r : Record) : Bytes := (Reply.fields r.payloadFields).response

/-! ## One field at a time -/

section Fields

variable {r : Record}

/-- What the getters read of the response. -/
lemma payloadGetString_format {name : Bytes} (hname : EQ ∉ name) (cap : ℕ) :
    payloadGetString (formatRecordPayload r) name cap =
      (r.payloadFields.find? fun f => decide (name = ascii f.1)).bind fun f => fitValue cap f.2 := by
  have hfields := fun f hf => (fieldOf_payloadFields r f hf).1
  rw [formatRecordPayload, (Reply.fields_fits hfields (length_payloadFields r)).1]
  exact payloadGetString_block cap hname fun f hf =>
    ⟨names_payloadFields r f hf, (hfields f hf).1.1, (hfields f hf).2.1⟩

variable {name : String}

/-- A text is cut to the client's field. -/
lemma copy_format {cap : ℕ} {f : String × Bytes} (hname : EQ ∉ ascii name)
    (hfind : r.payloadFields.find? (fun f => decide (ascii name = ascii f.1)) = some f) :
    clientPayloadCopy (formatRecordPayload r) name cap = f.2.take (cap - 1) := by
  rw [clientPayloadCopy, payloadGetString_format hname, hfind, Option.bind_some, fitValue]
  split
  · rename_i hnil
    rw [hnil]
    rfl
  · rfl

/-- A text that is short enough is not cut. -/
lemma copy_format_field {n : String} {v : Bytes} {cap : ℕ} (hname : EQ ∉ ascii name)
    (hfind : r.payloadFields.find? (fun f => decide (ascii name = ascii f.1)) = some (n, v))
    (hv : v.length < cap) : clientPayloadCopy (formatRecordPayload r) name cap = v := by
  rw [copy_format hname hfind, List.take_of_length_le (by simp only; omega)]

lemma u64Checked_format {n : String} {x : UInt64} (hname : EQ ∉ ascii name)
    (hfind : r.payloadFields.find? (fun f => decide (ascii name = ascii f.1)) = some (n, showU64 x)) :
    payloadGetU64Checked (formatRecordPayload r) (ascii name) = some x := by
  have hlen := length_decimal_u64 x
  rw [payloadGetU64Checked, payloadGetString_format hname, hfind, Option.bind_some, showU64,
    fitValue_decimal (by omega), Option.bind_some, readU64_decimal]

lemma u64_format {n : String} {x : UInt64} (hname : EQ ∉ ascii name)
    (hfind : r.payloadFields.find? (fun f => decide (ascii name = ascii f.1)) = some (n, showU64 x)) :
    payloadGetU64 (formatRecordPayload r) (ascii name) 0 = x := by
  rw [payloadGetU64, u64Checked_format hname hfind, Option.getD_some]

lemma u32_format {n : String} {x : UInt32} (hname : EQ ∉ ascii name)
    (hfind : r.payloadFields.find? (fun f => decide (ascii name = ascii f.1)) = some (n, showU32 x)) :
    payloadGetU32 (formatRecordPayload r) (ascii name) 0 = x := by
  rw [showU32_eq] at hfind
  rw [payloadGetU32, payloadGetU32Checked, u64Checked_format hname hfind, Option.bind_some,
    if_pos (by rw [UInt32.toNat_toUInt64]; exact x.toNat_lt), Option.getD_some]
  simp

/-- A number that is not printed is zero. -/
lemma number_format_absent (hname : EQ ∉ ascii name)
    (hfind : r.payloadFields.find? (fun f => decide (ascii name = ascii f.1)) = none) :
    payloadGetU64 (formatRecordPayload r) (ascii name) 0 = 0 ∧
      payloadGetU32 (formatRecordPayload r) (ascii name) 0 = 0 := by
  have hnone : payloadGetU64Checked (formatRecordPayload r) (ascii name) = none := by
    rw [payloadGetU64Checked, payloadGetString_format hname, hfind]
    rfl
  rw [payloadGetU64, payloadGetU32, payloadGetU32Checked, hnone]
  exact ⟨rfl, rfl⟩

end Fields

/-! ## The whole record -/

/-- The checksum falls back to nothing: no field of the response is called `checksum`. -/
lemma clientChecksum_format (r : Record) :
    clientChecksum (formatRecordPayload r) = r.objectPayloadChecksum := by
  have hnone : r.payloadFields.find? (fun f => decide (ascii "checksum" = ascii f.1)) = none := by
    unfold Record.payloadFields Record.backendFields
    split <;> rfl
  have hown : payloadGetU64 (formatRecordPayload r) (ascii "object_payload_checksum") 0 =
      r.objectPayloadChecksum := u64_format (by decide) rfl
  rw [clientChecksum, hown]
  split
  · rename_i hzero
    rw [hzero]
    exact (number_format_absent (by decide) hnone).1
  · rfl

/-- A name that does not stand before the backend reference is looked up there. -/
lemma find_payloadFields_backend {r : Record} {p : String × Bytes → Bool}
    (hfront : ([("key", r.key.bytes), ("kind", showU32 r.kind.code)] ++ r.placementFields).find? p =
      none) : r.payloadFields.find? p = r.backendFields.find? p := by
  rw [Record.payloadFields, List.find?_append, hfront, Option.none_or]

/-- The backend reference arrives if it is printed. -/
lemma clientBackend_format (r : Record) :
    clientBackend (formatRecordPayload r) =
      if r.objectBackend.kind = objectBackendObmmPool then {} else r.objectBackend := by
  split
  · rename_i hpool
    have hnone : ∀ name, EQ ∉ ascii name →
        ([("key", r.key.bytes), ("kind", showU32 r.kind.code)] ++ r.placementFields).find?
          (fun f => decide (ascii name = ascii f.1)) = none →
        payloadGetU64 (formatRecordPayload r) (ascii name) 0 = 0 ∧
          payloadGetU32 (formatRecordPayload r) (ascii name) 0 = 0 := by
      intro name hname hfront
      refine number_format_absent hname ?_
      rw [find_payloadFields_backend hfront, Record.backendFields, if_pos hpool]
      rfl
    rw [clientBackend, (hnone "object_backend_kind" (by decide) rfl).2,
      (hnone "object_backend_node" (by decide) rfl).2,
      (hnone "object_backend_device_cna" (by decide) rfl).2,
      (hnone "object_backend_flags" (by decide) rfl).2,
      (hnone "object_backend_block_hi" (by decide) rfl).1,
      (hnone "object_backend_block_lo" (by decide) rfl).1,
      (hnone "object_backend_block_version" (by decide) rfl).1,
      (hnone "object_backend_block_offset" (by decide) rfl).1,
      (hnone "object_backend_block_bytes" (by decide) rfl).1,
      (hnone "object_backend_block_checksum" (by decide) rfl).1]
  · rename_i hpool
    have hbackend : r.backendFields = _ := if_neg hpool
    have hu64 : ∀ name n x, EQ ∉ ascii name →
        ([("key", r.key.bytes), ("kind", showU32 r.kind.code)] ++ r.placementFields).find?
          (fun f => decide (ascii name = ascii f.1)) = none →
        r.backendFields.find? (fun f => decide (ascii name = ascii f.1)) = some (n, showU64 x) →
        payloadGetU64 (formatRecordPayload r) (ascii name) 0 = x :=
      fun name n x hname hfront hfind =>
        u64_format hname ((find_payloadFields_backend hfront).trans hfind)
    have hu32 : ∀ name n x, EQ ∉ ascii name →
        ([("key", r.key.bytes), ("kind", showU32 r.kind.code)] ++ r.placementFields).find?
          (fun f => decide (ascii name = ascii f.1)) = none →
        r.backendFields.find? (fun f => decide (ascii name = ascii f.1)) = some (n, showU32 x) →
        payloadGetU32 (formatRecordPayload r) (ascii name) 0 = x :=
      fun name n x hname hfront hfind =>
        u32_format hname ((find_payloadFields_backend hfront).trans hfind)
    rw [hbackend] at hu64 hu32
    rw [clientBackend, hu32 "object_backend_kind" _ _ (by decide) rfl rfl,
      hu32 "object_backend_node" _ _ (by decide) rfl rfl,
      hu32 "object_backend_device_cna" _ _ (by decide) rfl rfl,
      hu32 "object_backend_flags" _ _ (by decide) rfl rfl,
      hu64 "object_backend_block_hi" _ _ (by decide) rfl rfl,
      hu64 "object_backend_block_lo" _ _ (by decide) rfl rfl,
      hu64 "object_backend_block_version" _ _ (by decide) rfl rfl,
      hu64 "object_backend_block_offset" _ _ (by decide) rfl rfl,
      hu64 "object_backend_block_bytes" _ _ (by decide) rfl rfl,
      hu64 "object_backend_block_checksum" _ _ (by decide) rfl rfl]

lemma length_stateName (s : KvcacheState) : s.name.length < 32 := by
  unfold KvcacheState.name
  split_ifs <;> decide

section Fallbacks

variable (r : Record)

lemma length_sessionIdOr : r.sessionIdOr.length < 64 := by
  unfold Record.sessionIdOr
  split
  · exact r.sessionId.length_lt
  · exact r.requestId.length_lt

lemma length_modelKeyOr : r.modelKeyOr.length < 64 := by
  unfold Record.modelKeyOr
  split
  · exact r.modelKey.length_lt
  · exact r.prefixGroup.length_lt

lemma length_artifactKindOr : r.artifactKindOr.length < 64 := by
  unfold Record.artifactKindOr
  split
  · exact r.artifactKind.length_lt
  · exact r.groupId.length_lt

end Fallbacks

/-- What the client makes of a response: the record, up to the two fields. -/
lemma clientFields_format (r : Record) :
    clientFields (formatRecordPayload r) =
      { r.clientView with
        artifactId := r.artifactIdOr.take 63
        objectBackend := if r.objectBackend.kind = objectBackendObmmPool then {} else r.objectBackend } := by
  rw [clientFields, clientChecksum_format, clientBackend_format, Record.clientView,
    @copy_format_field r "key" _ _ 96 (by decide) rfl r.key.length_lt,
    @copy_format_field r "request_id" _ _ 64 (by decide) rfl r.requestId.length_lt,
    @copy_format_field r "prefix_group" _ _ 64 (by decide) rfl r.prefixGroup.length_lt,
    @copy_format_field r "group_id" _ _ 64 (by decide) rfl r.groupId.length_lt,
    @copy_format_field r "session_id" _ _ 64 (by decide) rfl (length_sessionIdOr r),
    @copy_format_field r "model_key" _ _ 64 (by decide) rfl (length_modelKeyOr r),
    @copy_format_field r "artifact_kind" _ _ 64 (by decide) rfl (length_artifactKindOr r),
    @copy_format r "artifact_id" 64 _ (by decide) rfl,
    @copy_format_field r "block_hash" _ _ 96 (by decide) rfl r.blockHash.length_lt,
    @copy_format_field r "state" _ _ 32 (by decide) rfl (length_stateName r.state),
    @u32_format r "kind" _ _ (by decide) rfl,
    @u32_format r "placement_node" _ _ (by decide) rfl,
    @u32_format r "placement_level" _ _ (by decide) rfl,
    @u32_format r "object_owner_node" _ _ (by decide) rfl,
    @u32_format r "object_payload_kind" _ _ (by decide) rfl,
    @u64_format r "hot_segment_id" _ _ (by decide) rfl,
    @u64_format r "version" _ _ (by decide) rfl,
    @u64_format r "last_result_segment" _ _ (by decide) rfl,
    @u64_format r "object_backing_offset" _ _ (by decide) rfl,
    @u64_format r "object_backing_len" _ _ (by decide) rfl]

/-- **Responses arrive as they are.**  For every record of every reachable daemon: the client reads the
record's own fields off the response about it, if and only if the artifact identifier (or the block hash
it falls back to) has at most 63 bytes and a record of the default backend has no backend reference. -/
theorem client_reads_record_iff {cfg : Config} {d : Daemon} (h : Daemon.Reachable cfg d) {r : Record}
    (hr : r ∈ d.state.svc.records.entries) :
    clientParseRecord (formatRecordPayload r) = some r.clientView ↔
      r.artifactIdOr.length < 64 ∧
        (r.objectBackend.kind = objectBackendObmmPool → r.objectBackend = {}) := by
  have hkey : r.key.bytes ≠ [] := (h.wellFormed.1.recordValid r hr).1
  have hread : (clientFields (formatRecordPayload r)).key ≠ [] := by
    rw [clientFields_format]
    exact hkey
  have hne : formatRecordPayload r ≠ [] := by
    intro hnil
    rw [hnil] at hread
    exact hread rfl
  have hparse : clientParseRecord (formatRecordPayload r) =
      some (clientFields (formatRecordPayload r)) := if_neg (not_or.mpr ⟨hne, hread⟩)
  rw [hparse, clientFields_format, Option.some_inj]
  constructor
  · intro heq
    have hid : r.artifactIdOr.take 63 = r.artifactIdOr := congrArg ClientRecord.artifactId heq
    have hbackend := congrArg ClientRecord.objectBackend heq
    dsimp only [Record.clientView] at hbackend
    constructor
    · have := congrArg List.length hid
      rw [List.length_take] at this
      omega
    · intro hpool
      rw [if_pos hpool] at hbackend
      exact hbackend.symm
  · rintro ⟨hid, hbackend⟩
    have hnone : (if r.objectBackend.kind = objectBackendObmmPool then {} else r.objectBackend) =
        r.objectBackend := by
      split
      · exact (hbackend ‹_›).symm
      · rfl
    rw [List.take_of_length_le (by omega), hnone]
    rfl

/-- A request to register an artifact with an identifier of `n` bytes. -/
def Payload.artifact (n : Fin 96) : Payload where
  bytes := unlines [ascii "key=a", ascii "artifact_id=" ++ List.replicate n.val 98]
  noNul := by revert n; decide +kernel
  length_le := by revert n; decide +kernel

theorem client_reads_record_iff_short :
    ∃ r ∈ (Daemon.after .registerExecutionArtifact (.artifact 63)).state.svc.records.entries,
      clientParseRecord (formatRecordPayload r) = some r.clientView ∧
        r.artifactIdOr = List.replicate 63 98 := by
  have hfound : ((Daemon.after .registerExecutionArtifact (.artifact 63)).state.svc.findRecord
      (ascii "a")).any (fun r => r.artifactIdOr == List.replicate 63 98 && r.objectBackend == {}) := by
    decide +kernel
  obtain ⟨r, hr, hfields⟩ := (Option.any_eq_true _ _).mp hfound
  rw [Bool.and_eq_true, beq_iff_eq, beq_iff_eq] at hfields
  have hmem := SlotTable.lookup_mem hr
  refine ⟨r, hmem, ?_, hfields.1⟩
  refine (client_reads_record_iff (Daemon.reachable_after _ _) hmem).mpr ⟨?_, fun _ => hfields.2⟩
  rw [hfields.1]
  decide

/-- **One byte is lost.**  An artifact is registered with an identifier of 64 bytes, and the client reads
63 of them. -/
theorem client_cuts_artifact_id :
    Daemon.Reachable Config.durable (Daemon.after .registerExecutionArtifact (.artifact 64)) ∧
    ((Daemon.after .registerExecutionArtifact (.artifact 64)).state.svc.findRecord (ascii "a")).any
      (fun r => r.artifactIdOr == List.replicate 64 98 &&
        (clientParseRecord (formatRecordPayload r)).any fun c =>
          c.artifactId == List.replicate 63 98 && c != r.clientView) :=
  ⟨Daemon.reachable_after _ _, by decide +kernel⟩

end MemService
