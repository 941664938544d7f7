import MemService.Lib.SlotTable
import MemService.Wire
import Mathlib.Data.Fintype.Pi

/-!
# The service's data: records, idempotency records, audit events

The structures of `mem_service.h` and the record table of `mem_service_records.c`.

A C string field `char name[cap]` is a `FieldText cap`: fewer than `cap` bytes, no terminator and
no line feed.  The last point is a fact about this program and not about C: every text field is
filled from one line of a payload or of a store file, from another field, or from a key builder
that joins fields, so a line feed never gets in.  Carriage returns, equals signs and blanks do.

`in_use` flags are the `Option` of the slot tables.  `Service.putRecord` is the "find the key, else
allocate, else fail, then assign the whole record" step that all record writers of the daemon are
made of, and `Service.setRecord` the assignment through a pointer `mem_service_find_record`
returned.
-/

open ByteText CNumeral

namespace MemService

/-! ## Text fields -/

/-- The value of a C string field of `cap` bytes. -/
structure FieldText (cap : ℕ) where
  bytes : Bytes
  length_lt : bytes.length < cap
  plain : Plain bytes
  deriving DecidableEq

-- the two sizes of the text fields
instance neZero_idLen : NeZero 64 := ⟨by decide⟩
instance neZero_keyLen : NeZero 96 := ⟨by decide⟩

namespace FieldText

variable {cap : ℕ}

@[ext] lemma ext {s t : FieldText cap} (h : s.bytes = t.bytes) : s = t := by
  cases s
  cases t
  cases h
  rfl

/-- The leading plain bytes of a text, at most `n` of them. -/
def fit (n : ℕ) (s : Bytes) : Bytes := (s.takeWhile fun b => b ≠ NUL ∧ b ≠ LF).take n

lemma length_fit_le (n : ℕ) (s : Bytes) : (fit n s).length ≤ n := List.length_take_le _ _

lemma plain_fit (n : ℕ) (s : Bytes) : Plain (fit n s) := by
  intro b hb
  have := List.mem_takeWhile_imp (List.mem_of_mem_take hb)
  simpa using this

lemma fit_eq_take {n : ℕ} {s : Bytes} (h : Plain s) : fit n s = s.take n := by
  rw [fit, List.takeWhile_eq_self_iff.mpr]
  intro b hb
  simpa using h b hb

/-- The field as it comes back from a file: without the carriage returns at its end. -/
def trim (t : FieldText cap) : FieldText cap where
  bytes := trimLine t.bytes
  length_lt := Nat.lt_of_le_of_lt
    (List.rdropWhile_prefix (p := isEol) t.bytes).length_le t.length_lt
  plain := t.plain.of_subset (trimLine_subset _)

@[simp] lemma bytes_trim (t : FieldText cap) : t.trim.bytes = trimLine t.bytes := rfl

/-- A field whose text the line reader leaves alone. -/
def Clean (t : FieldText cap) : Prop := NoTrailingCR t.bytes

instance (t : FieldText cap) : Decidable t.Clean := inferInstanceAs (Decidable (NoTrailingCR _))

lemma trim_eq_self_iff {t : FieldText cap} : t.trim = t ↔ t.Clean := by
  rw [Clean, ← trimLine_eq_self_iff t.plain.lf]
  constructor
  · intro h
    exact congrArg bytes h
  · intro h
    exact ext h

variable [NeZero cap]

/-- `snprintf(out, cap, "%s", s)` and `mem_service_copy_store_string`. -/
def copy (s : Bytes) : FieldText cap where
  bytes := fit (cap - 1) s
  length_lt := by
    have := length_fit_le (cap - 1) s
    have := NeZero.pos cap
    omega
  plain := plain_fit _ s

/-- The zeroed field. -/
def blank : FieldText cap := ⟨[], NeZero.pos cap, plain_nil⟩

instance : Inhabited (FieldText cap) := ⟨blank⟩

lemma bytes_copy {s : Bytes} (h : Plain s) : (copy s : FieldText cap).bytes = s.take (cap - 1) :=
  fit_eq_take h

lemma copy_bytes (t : FieldText cap) : copy t.bytes = t := by
  apply ext
  rw [bytes_copy t.plain, List.take_of_length_le]
  have := t.length_lt
  omega

@[simp] lemma bytes_blank : (blank : FieldText cap).bytes = [] := rfl

lemma clean_blank : (blank : FieldText cap).Clean := noTrailingCR_nil

lemma copy_trimLine (t : FieldText cap) : copy (trimLine t.bytes) = t.trim := copy_bytes t.trim

end FieldText

/-! ## Records -/

/-- `enum mem_service_record_kind`, open like every enumeration a store can hold. -/
structure RecordKind where
  code : UInt32
  deriving DecidableEq, Repr

namespace RecordKind

def none : RecordKind := ⟨0⟩
def prefixGroup : RecordKind := ⟨1⟩
def requestPrefix : RecordKind := ⟨2⟩
def blockMeta : RecordKind := ⟨3⟩
def weightTile : RecordKind := ⟨4⟩
def kvcacheObject : RecordKind := ⟨5⟩
def hiddenRangeInput : RecordKind := ⟨6⟩
def hiddenRangeOutput : RecordKind := ⟨7⟩
def layerRangePlacement : RecordKind := ⟨8⟩
def modelTokenResult : RecordKind := ⟨9⟩
def modelEngramHistory : RecordKind := ⟨10⟩
def modelEngramCandidates : RecordKind := ⟨11⟩
def modelEngramSelected : RecordKind := ⟨12⟩
def modelEngramState : RecordKind := ⟨13⟩
def runtimeHandoff : RecordKind := ⟨14⟩
def executionArtifact : RecordKind := ⟨15⟩
def trainingArtifact : RecordKind := ⟨16⟩

/-- `mem_service_record_kind_name`. -/
def name (k : RecordKind) : Bytes :=
  if k = prefixGroup then ascii "prefix_group"
  else if k = requestPrefix then ascii "request_prefix"
  else if k = blockMeta then ascii "block_meta"
  else if k = weightTile then ascii "weight_tile"
  else if k = kvcacheObject then ascii "kvcache_object"
  else if k = hiddenRangeInput then ascii "hidden_range_input"
  else if k = hiddenRangeOutput then ascii "hidden_range_output"
  else if k = layerRangePlacement then ascii "layer_range_placement"
  else if k = modelTokenResult then ascii "model_token_result"
  else if k = modelEngramHistory then ascii "model_engram_history"
  else if k = modelEngramCandidates then ascii "model_engram_candidates"
  else if k = modelEngramSelected then ascii "model_engram_selected"
  else if k = modelEngramState then ascii "model_engram_state"
  else if k = runtimeHandoff then ascii "runtime_handoff"
  else if k = executionArtifact then ascii "execution_artifact"
  else if k = trainingArtifact then ascii "training_artifact"
  else ascii "unknown"

end RecordKind

/-- `enum mem_service_kvcache_state`. -/
structure KvcacheState where
  code : UInt32
  deriving DecidableEq, Repr

namespace KvcacheState

def missing : KvcacheState := ⟨0⟩
def filled : KvcacheState := ⟨1⟩
def hot : KvcacheState := ⟨2⟩
def reloaded : KvcacheState := ⟨3⟩

/-- `mem_service_kvcache_state_name`. -/
def name (s : KvcacheState) : Bytes :=
  if s = missing then ascii "missing"
  else if s = filled then ascii "filled"
  else if s = hot then ascii "hot"
  else if s = reloaded then ascii "reloaded"
  else ascii "unknown"

end KvcacheState

/-- `MEM_SERVICE_MAX_GROUP_MEMBERS`. -/
abbrev maxGroupMembers : ℕ := 4

/-- The member count of a record that is no group. -/
def noMembers : Fin (maxGroupMembers + 1) := 0

@[simp] lemma val_noMembers : noMembers.val = 0 := rfl

/-- The `object_backend_*` fields of a record. -/
structure BackendRef where
  kind : UInt32 := 0
  node : UInt32 := 0
  deviceCna : UInt32 := 0
  flags : UInt32 := 0
  blockHi : UInt64 := 0
  blockLo : UInt64 := 0
  blockVersion : UInt64 := 0
  blockOffset : UInt64 := 0
  blockBytes : UInt64 := 0
  blockChecksum : UInt64 := 0
  deriving DecidableEq, Repr

/-- `MEM_SERVICE_OBJECT_BACKEND_OBMM_POOL`. -/
def objectBackendObmmPool : UInt32 := 0
/-- `MEM_SERVICE_OBJECT_BACKEND_UB_SSD_GSVA`. -/
def objectBackendUbSsdGsva : UInt32 := 1

/-- `struct mem_service_record`, zeroed by default.  `member_count` never passes the number of
member slots: the one writer that raises it checks, and the importer clamps it. -/
structure Record where
  kind : RecordKind := RecordKind.none
  key : FieldText 96 := FieldText.blank
  requestId : FieldText 64 := FieldText.blank
  prefixGroup : FieldText 64 := FieldText.blank
  groupId : FieldText 64 := FieldText.blank
  blockHash : FieldText 96 := FieldText.blank
  sessionId : FieldText 64 := FieldText.blank
  modelKey : FieldText 64 := FieldText.blank
  artifactKind : FieldText 64 := FieldText.blank
  artifactId : FieldText 96 := FieldText.blank
  placementNode : UInt32 := 0
  placementLevel : UInt32 := 0
  hotSegmentId : UInt64 := 0
  state : KvcacheState := KvcacheState.missing
  version : UInt64 := 0
  lastResultSegment : UInt64 := 0
  objectOwnerNode : UInt32 := 0
  objectPayloadKind : UInt32 := 0
  objectBackingOffset : UInt64 := 0
  objectBackingLen : UInt64 := 0
  objectPayloadChecksum : UInt64 := 0
  objectBackend : BackendRef := {}
  objectPublishMonotonicMs : UInt64 := 0
  objectPublishSupernodeMs : UInt64 := 0
  objectPublishSupernodeOffsetMs : Int64 := 0
  memberCount : Fin (maxGroupMembers + 1) := noMembers
  memberBlockHashes : Fin maxGroupMembers → FieldText 96 := fun _ => FieldText.blank
  deriving DecidableEq

namespace Record

/-- The key a record is found by. -/
def keyBytes (r : Record) : Bytes := r.key.bytes

/-- `mem_service_record_has_member`. -/
def hasMember (r : Record) (blockHash : Bytes) : Bool :=
  decide (∃ i : Fin maxGroupMembers, i.val < r.memberCount.val ∧
    (r.memberBlockHashes i).bytes = blockHash)

/-- The group with one more member, in the first free member slot. -/
def withMember (r : Record) (blockHash : FieldText 96) (h : r.memberCount.val < maxGroupMembers) :
    Record :=
  { r with
    memberBlockHashes := Function.update r.memberBlockHashes ⟨r.memberCount.val, h⟩ blockHash
    memberCount := ⟨r.memberCount.val + 1, by omega⟩ }

/-- `mem_service_add_member`: `none` when a fifth member would be needed. -/
def addMember (r : Record) (blockHash : FieldText 96) : Option Record :=
  if r.hasMember blockHash.bytes then some r
  else if h : r.memberCount.val < maxGroupMembers then some (r.withMember blockHash h)
  else none

/-- `mem_service_record_session_id`. -/
def sessionIdOr (r : Record) : Bytes :=
  if r.sessionId.bytes ≠ [] then r.sessionId.bytes else r.requestId.bytes

/-- `mem_service_record_model_key`. -/
def modelKeyOr (r : Record) : Bytes :=
  if r.modelKey.bytes ≠ [] then r.modelKey.bytes else r.prefixGroup.bytes

/-- `mem_service_record_artifact_kind`. -/
def artifactKindOr (r : Record) : Bytes :=
  if r.artifactKind.bytes ≠ [] then r.artifactKind.bytes else r.groupId.bytes

/-- `mem_service_record_artifact_id`. -/
def artifactIdOr (r : Record) : Bytes :=
  if r.artifactId.bytes ≠ [] then r.artifactId.bytes else r.blockHash.bytes

end Record

/-! ## Idempotency records and audit events -/

/-- A response text: a C string that fits the response buffer. -/
structure ResponseText where
  bytes : Bytes
  length_lt : bytes.length < maxPayloadLen
  noNul : NUL ∉ bytes

namespace ResponseText

@[ext] lemma ext {s t : ResponseText} (h : s.bytes = t.bytes) : s = t := by
  cases s
  cases t
  cases h
  rfl

instance : DecidableEq ResponseText := fun s t =>
  decidable_of_iff (s.bytes = t.bytes) ⟨ext, congrArg bytes⟩

/-- Copy a text into the response buffer. -/
def copy (s : Bytes) : ResponseText where
  bytes := (cstr s).take (maxPayloadLen - 1)
  length_lt := by
    have := List.length_take_le (maxPayloadLen - 1) (cstr s)
    simp only [maxPayloadLen] at *
    omega
  noNul := by
    intro h
    have := List.mem_takeWhile_imp (List.mem_of_mem_take h)
    simp at this

/-- The empty response. -/
def empty : ResponseText := ⟨[], by decide, by decide⟩

lemma bytes_copy {s : Bytes} (hnul : NUL ∉ s) (hlen : s.length < maxPayloadLen) :
    (copy s).bytes = s := by
  simp only [copy, cstr_eq_self hnul]
  rw [List.take_of_length_le]
  omega

@[simp] lemma copy_bytes (t : ResponseText) : copy t.bytes = t :=
  ext (bytes_copy t.noNul t.length_lt)

end ResponseText

/-- `struct mem_service_idempotency_record`.  `response_len` is the length of the response. -/
structure IdempotencyRecord where
  key : FieldText 96 := FieldText.blank
  operation : UInt32 := 0
  requestChecksum : UInt32 := 0
  status : WireStatus := WireStatus.ok
  response : ResponseText := ResponseText.empty
  deriving DecidableEq

/-- The key an idempotency record is found by. -/
def IdempotencyRecord.keyBytes (r : IdempotencyRecord) : Bytes := r.key.bytes

/-- `struct mem_service_audit_event`. -/
structure AuditEvent where
  sequence : UInt64 := 0
  monotonicMs : UInt64 := 0
  operation : UInt32 := 0
  status : WireStatus := WireStatus.ok
  requestChecksum : UInt32 := 0
  responseChecksum : UInt32 := 0
  idempotencyReplay : UInt32 := 0
  key : FieldText 96 := FieldText.blank
  sessionId : FieldText 64 := FieldText.blank
  modelKey : FieldText 64 := FieldText.blank
  artifactKind : FieldText 64 := FieldText.blank
  artifactId : FieldText 96 := FieldText.blank
  idempotencyKey : FieldText 96 := FieldText.blank
  version : UInt64 := 0
  checksum : UInt64 := 0
  deriving DecidableEq

/-! ## The service -/

/-- `MEM_SERVICE_MAX_RECORDS`. -/
abbrev maxRecords : ℕ := 1024
/-- `MEM_SERVICE_MAX_IDEMPOTENCY_RECORDS`. -/
abbrev maxIdempotencyRecords : ℕ := 64
/-- `MEM_SERVICE_MAX_AUDIT_EVENTS`. -/
abbrev maxAuditEvents : ℕ := 256

/-- `struct mem_service`, less the provider registry and the request counters. -/
structure Service where
  controlPlaneReady : Bool
  providerRegistryReady : Bool
  durableReady : Bool
  enforceExpectedContext : Bool
  recordCount : ℕ
  auditNextSequence : UInt64
  auditEventCount : UInt64
  records : SlotTable Record maxRecords
  idempotency : SlotTable IdempotencyRecord maxIdempotencyRecords
  audit : SlotTable AuditEvent maxAuditEvents
  deriving DecidableEq

namespace Service

/-- `mem_service_init`: it fails unless the three planes are ready. -/
def init (controlPlaneReady providerRegistryReady durableReady : Bool) : Option Service :=
  if controlPlaneReady && providerRegistryReady && durableReady then
    some
      { controlPlaneReady, providerRegistryReady, durableReady
        enforceExpectedContext := true
        recordCount := 0
        auditNextSequence := 1
        auditEventCount := 0
        records := SlotTable.empty
        idempotency := SlotTable.empty
        audit := SlotTable.empty }
  else none

/-- The service of a daemon that has just started with every plane ready. -/
def fresh : Service :=
  { controlPlaneReady := true, providerRegistryReady := true, durableReady := true
    enforceExpectedContext := true
    recordCount := 0
    auditNextSequence := 1
    auditEventCount := 0
    records := SlotTable.empty
    idempotency := SlotTable.empty
    audit := SlotTable.empty }

lemma init_eq_some {c p d : Bool} {svc : Service} (h : init c p d = some svc) : svc = fresh := by
  unfold init at h
  split at h
  · rename_i hr
    simp only [Bool.and_eq_true] at hr
    obtain ⟨⟨rfl, rfl⟩, rfl⟩ := hr
    exact (Option.some.inj h).symm
  · cases h

variable (svc : Service)

/-- `mem_service_find_record` and `mem_service_get_record`. -/
def findRecord (key : Bytes) : Option Record := svc.records.lookup Record.keyBytes key

/-- Find the record's key or allocate a slot, then assign the record; `none` when the table is
full. -/
def putRecord (r : Record) : Option Service :=
  match svc.records.findIdx? fun b => decide (b.keyBytes = r.keyBytes) with
  | some i => some { svc with records := svc.records.put i r }
  | none =>
      -- `mem_service_alloc_record` counts the slot it hands out
      svc.records.firstFree?.map fun i =>
        { svc with records := svc.records.put i r, recordCount := svc.recordCount + 1 }

/-- Assign through the pointer that finding the record's key returned. -/
def setRecord (r : Record) : Service :=
  match svc.records.findIdx? fun b => decide (b.keyBytes = r.keyBytes) with
  | some i => { svc with records := svc.records.put i r }
  | none => svc

/-- `mem_service_find_idempotency_record`. -/
def findIdempotencyRecord (key : Bytes) : Option IdempotencyRecord :=
  svc.idempotency.lookup IdempotencyRecord.keyBytes key

/-- `mem_service_alloc_idempotency_record`: the index of a free slot, which stays free until the
record is completed. -/
def allocIdempotencyRecord : Option ℕ := svc.idempotency.firstFree?

/-! ## Facts about the writers -/

variable {svc} {svc' : Service} {r : Record}

/-- One `putRecord` is one `upsert` of the record table, and it counts the record when the key is
new. -/
lemma putRecord_eq :
    svc.putRecord r = (svc.records.upsert Record.keyBytes r).map fun t =>
      { svc with
        records := t
        recordCount := svc.recordCount + if svc.findRecord r.keyBytes = none then 1 else 0 } := by
  unfold putRecord SlotTable.upsert findRecord
  cases hf : svc.records.findIdx? fun b => decide (b.keyBytes = r.keyBytes) with
  | some i =>
      obtain ⟨b, -, hb, -⟩ := SlotTable.get_of_findIdx? hf
      have hl : svc.records.lookup Record.keyBytes r.keyBytes = some b := hb
      simp [hl]
  | none =>
      have hl : svc.records.lookup Record.keyBytes r.keyBytes = none := by
        rw [SlotTable.lookup_eq_none_iff]
        simpa using SlotTable.findIdx?_eq_none_iff.mp hf
      simp [hl, Option.map_map, Function.comp_def]

lemma putRecord_eq_some (h : svc.putRecord r = some svc') :
    ∃ t, svc.records.upsert Record.keyBytes r = some t ∧ svc' = { svc with
      records := t
      recordCount := svc.recordCount + if svc.findRecord r.keyBytes = none then 1 else 0 } := by
  rw [putRecord_eq] at h
  obtain ⟨t, ht, rfl⟩ := Option.map_eq_some_iff.mp h
  exact ⟨t, ht, rfl⟩

lemma putRecord_eq_none_iff :
    svc.putRecord r = none ↔ svc.findRecord r.keyBytes = none ∧ svc.records.count = maxRecords := by
  rw [putRecord_eq, Option.map_eq_none_iff, SlotTable.upsert_eq_none_iff]
  rfl

/-- Assigning through a found pointer is a `putRecord`. -/
lemma setRecord_of_found (h : svc.findRecord r.keyBytes ≠ none) :
    svc.putRecord r = some (svc.setRecord r) := by
  unfold putRecord setRecord
  cases hf : svc.records.findIdx? fun b => decide (b.keyBytes = r.keyBytes) with
  | some i => rfl
  | none =>
      exfalso
      refine h (SlotTable.lookup_eq_none_iff.mpr ?_)
      simpa using SlotTable.findIdx?_eq_none_iff.mp hf

/-- Writing the record that is there changes nothing. -/
lemma putRecord_self (h : svc.findRecord r.keyBytes = some r) : svc.putRecord r = some svc := by
  unfold putRecord
  cases hf : svc.records.findIdx? fun b => decide (b.keyBytes = r.keyBytes) with
  | some i =>
      obtain ⟨b, hget, hb, -⟩ := SlotTable.get_of_findIdx? hf
      have hl : svc.records.lookup Record.keyBytes r.keyBytes = some b := hb
      obtain rfl : r = b := Option.some.inj (h.symm.trans hl)
      simp only [SlotTable.put_self hget]
  | none =>
      have hl : svc.records.lookup Record.keyBytes r.keyBytes = none := by
        rw [SlotTable.lookup_eq_none_iff]
        simpa using SlotTable.findIdx?_eq_none_iff.mp hf
      cases h.symm.trans hl

/-- After a write the key finds the new record and every other key what it found before. -/
lemma findRecord_putRecord (hu : svc.records.UniqueKeys Record.keyBytes)
    (h : svc.putRecord r = some svc') (k : Bytes) :
    svc'.findRecord k = if k = r.keyBytes then some r else svc.findRecord k := by
  obtain ⟨t, ht, rfl⟩ := putRecord_eq_some h
  exact SlotTable.lookup_upsert hu ht k

lemma uniqueKeys_putRecord (hu : svc.records.UniqueKeys Record.keyBytes)
    (h : svc.putRecord r = some svc') : svc'.records.UniqueKeys Record.keyBytes := by
  obtain ⟨t, ht, rfl⟩ := putRecord_eq_some h
  exact hu.upsert ht

lemma count_putRecord (h : svc.putRecord r = some svc') :
    svc'.records.count =
      svc.records.count + if svc.findRecord r.keyBytes = none then 1 else 0 := by
  obtain ⟨t, ht, rfl⟩ := putRecord_eq_some h
  exact SlotTable.count_upsert ht

/-! ## Chains of record writes -/

/-- Several record writes, one after the other. -/
def putAll (svc : Service) (rs : List Record) : Option Service := rs.foldlM putRecord svc

@[simp] lemma putAll_nil : svc.putAll [] = some svc := rfl

lemma putAll_cons {rs : List Record} :
    svc.putAll (r :: rs) = (svc.putRecord r).bind fun svc => svc.putAll rs := rfl

lemma putAll_append {rs qs : List Record} :
    svc.putAll (rs ++ qs) = (svc.putAll rs).bind fun svc => svc.putAll qs :=
  List.foldlM_append

/-- A chain extended by one write. -/
lemma putAll_concat {rs : List Record} {svc'' : Service} (h : svc.putAll rs = some svc')
    (hr : svc'.putRecord r = some svc'') : svc.putAll (rs ++ [r]) = some svc'' := by
  rw [putAll_append, h, Option.bind_some, putAll_cons, hr]
  rfl

/-- What one write preserves a chain of writes preserves. -/
lemma putAll_induction {P : Service → Prop} {rs : List Record} (h : svc.putAll rs = some svc')
    (h0 : P svc) (hstep : ∀ a b : Service, ∀ r ∈ rs, P a → a.putRecord r = some b → P b) :
    P svc' :=
  SlotTable.foldlM_induction h h0 hstep

/-- A chain of writes changes the record table and its count and nothing else. -/
lemma putAll_frame {rs : List Record} (h : svc.putAll rs = some svc') :
    svc' = { svc with records := svc'.records, recordCount := svc'.recordCount } := by
  refine putAll_induction (P := fun s =>
    s = { svc with records := s.records, recordCount := s.recordCount }) h rfl ?_
  intro a b r _ ha hb
  obtain ⟨t, -, rfl⟩ := putRecord_eq_some hb
  rw [ha]

lemma uniqueKeys_putAll {rs : List Record} (hu : svc.records.UniqueKeys Record.keyBytes)
    (h : svc.putAll rs = some svc') : svc'.records.UniqueKeys Record.keyBytes :=
  putAll_induction (P := fun s => s.records.UniqueKeys Record.keyBytes) h hu
    fun _ _ _ _ ha hb => uniqueKeys_putRecord ha hb

/-- After a chain of writes a key finds the last record written to it. -/
lemma findRecord_putAll {rs : List Record} (hu : svc.records.UniqueKeys Record.keyBytes)
    (h : svc.putAll rs = some svc') (k : Bytes) :
    svc'.findRecord k = (rs.reverse.find? fun r => r.keyBytes = k).or (svc.findRecord k) := by
  induction rs generalizing svc with
  | nil =>
      obtain rfl := Option.some.inj h
      rfl
  | cons r rs ih =>
      rw [putAll_cons] at h
      obtain ⟨svc₁, h₁, h⟩ := Option.bind_eq_some_iff.mp h
      rw [ih (uniqueKeys_putRecord hu h₁) h, findRecord_putRecord hu h₁, List.reverse_cons,
        List.find?_append]
      cases rs.reverse.find? fun r => r.keyBytes = k with
      | some q => rfl
      | none =>
          by_cases hk : k = r.keyBytes
          · simp [hk]
          · have hk' : ¬ r.keyBytes = k := fun h => hk h.symm
            simp [hk, hk']

/-- Records of the table after a chain of writes are old ones or written ones. -/
lemma mem_entries_putAll {rs : List Record} (hu : svc.records.UniqueKeys Record.keyBytes)
    (h : svc.putAll rs = some svc') {q : Record} (hq : q ∈ svc'.records.entries) :
    q ∈ rs ∨ q ∈ svc.records.entries := by
  refine (putAll_induction (P := fun s => s.records.UniqueKeys Record.keyBytes ∧
    ∀ q ∈ s.records.entries, q ∈ rs ∨ q ∈ svc.records.entries) h
    ⟨hu, fun q hq => .inr hq⟩ ?_).2 q hq
  intro a b r hr ⟨hua, ha⟩ hb
  refine ⟨uniqueKeys_putRecord hua hb, fun q hq => ?_⟩
  obtain ⟨t, ht, rfl⟩ := putRecord_eq_some hb
  rcases (SlotTable.mem_entries_upsert hua ht).mp hq with rfl | ⟨hq, -⟩
  · exact .inl hr
  · exact ha q hq

end Service

end MemService
