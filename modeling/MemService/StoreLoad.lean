import MemService.StoreCodec

/-!
# Loading a whole store

The frame lemmas of the codec, chained: what importing a text made of many frames does to a
service.  `importFrames` is the import as a program on values, and `importStoreLines_frames` says
that the text does the same.

The second half evaluates that program on the tables of a live service.  A table with distinct keys,
read into an empty one, comes back packed into the first slots, so every lookup is unchanged.  The
audit ring comes back slot by slot (`foldlM_storeImportAudit`), because an event's slot is computed
from its sequence number and not from its position in the file.
-/

open ByteText CNumeral

namespace MemService

/-! ## Many frames -/

/-- Import records, then idempotency records, then audit events. -/
def importFrames (svc : Service) (rs : List Record) (is : List IdempotencyRecord)
    (es : List AuditEvent) : Option Service :=
  (rs.foldlM Service.storeImportRecord svc).bind fun svc =>
    (is.foldlM Service.storeImportIdempotency svc).bind fun svc =>
      es.foldlM Service.storeImportAudit svc

/-- One spec lemma for a frame writer chains over a list of frames. -/
lemma importStoreLines_flatMap {α : Type*} (save : α → List Bytes)
    (step : Service → α → Option Service) (l : List α)
    (h : ∀ a ∈ l, ∀ svc, importStoreLines (svc, .closed) (readBack (save a)) =
      (step svc a).map fun svc => (svc, .closed)) (svc : Service) :
    importStoreLines (svc, .closed) (readBack (l.flatMap save)) =
      (l.foldlM step svc).map fun svc => (svc, .closed) := by
  induction l generalizing svc with
  | nil => rfl
  | cons a l ih =>
      rw [List.flatMap_cons, readBack_append, importStoreLines_append, h a (by simp),
        List.foldlM_cons]
      cases hs : step svc a with
      | none => simp
      | some svc' =>
          simp only [Option.map_some, Option.bind_some, Option.bind_eq_bind]
          exact ih (fun b hb => h b (by simp [hb])) svc'

lemma importStoreLines_frames (svc : Service) {rs : List Record} (save : Record → List Bytes)
    (norm : Record → Record) (hsave : ∀ svc r, importStoreLines (svc, .closed) (readBack (save r)) =
      (svc.storeImportRecord (norm r)).map fun svc => (svc, .closed))
    {is : List IdempotencyRecord} (his : ∀ r ∈ is, ResponseLines r.response.bytes)
    (es : List AuditEvent) :
    importStoreLines (svc, .closed) (readBack (rs.flatMap save ++
        is.flatMap saveIdempotencyRecord ++ es.flatMap saveAuditEvent)) =
      (importFrames svc (rs.map norm) (is.map IdempotencyRecord.stored)
        (es.map AuditEvent.stored)).map fun svc => (svc, .closed) := by
  rw [readBack_append, readBack_append, importStoreLines_append, importStoreLines_append,
    importStoreLines_flatMap save (fun svc r => svc.storeImportRecord (norm r)) rs
      fun r _ svc => hsave svc r]
  simp only [importFrames, List.foldlM_map]
  cases hr : rs.foldlM (fun s a => s.storeImportRecord (norm a)) svc with
  | none => simp
  | some svc₁ =>
      simp only [Option.map_some, Option.bind_some]
      rw [importStoreLines_flatMap saveIdempotencyRecord
        (fun svc r => svc.storeImportIdempotency r.stored) is
        fun r hr svc => importStoreLines_saveIdempotencyRecord svc (his r hr)]
      cases hi : is.foldlM (fun s a => s.storeImportIdempotency a.stored) svc₁ with
      | none => simp
      | some svc₂ =>
          simp only [Option.map_some, Option.bind_some]
          exact importStoreLines_flatMap saveAuditEvent
            (fun svc e => svc.storeImportAudit e.stored) es
            (fun e _ svc => importStoreLines_saveAuditEvent svc e) svc₂

/-! ## The schema line -/

lemma importVersionedLine_other {s : Service × OpenFrame} {b : Bool} {l : Bytes}
    (h : parseSchemaVersionLine l = .other) :
    importVersionedLine (s, b) l = (importStoreLine s l).map fun s' => (s', b) := by
  unfold importVersionedLine
  rw [h]
  split <;> simp_all

lemma foldlM_importVersionedLine {ls : List Bytes}
    (h : ∀ l ∈ ls, parseSchemaVersionLine l = .other) (s : Service × OpenFrame) (b : Bool) :
    ls.foldlM importVersionedLine (s, b) = (importStoreLines s ls).map fun s' => (s', b) := by
  induction ls generalizing s with
  | nil => rfl
  | cons l ls ih =>
      rw [List.foldlM_cons, importVersionedLine_other (h l (by simp)), importStoreLines_cons]
      cases importStoreLine s l with
      | none => rfl
      | some s' => exact ih (fun m hm => h m (by simp [hm])) s'

/-- A line that is no schema line. -/
def NotSchema (l : Bytes) : Prop := parseSchemaVersionLine l = .other

lemma notSchema_readBack {ls : List Bytes} (h : ∀ l ∈ ls, NotSchema (trimLine l)) :
    ∀ l ∈ readBack ls, parseSchemaVersionLine l = .other := by
  intro l hl
  obtain ⟨hl, -⟩ := List.mem_filter.mp hl
  obtain ⟨m, hm, rfl⟩ := List.mem_map.mp hl
  exact h m hm

lemma notSchema_recordField (f : RecordField) (v : Bytes) :
    NotSchema (trimLine (fieldLine f.name v)) := by
  rw [fieldLine, trimLine_field]
  cases f <;> rfl

lemma notSchema_memberLines {r : Record} {l : Bytes} (h : l ∈ memberLines r) :
    NotSchema (trimLine l) := by
  obtain ⟨i, -, rfl⟩ := List.mem_map.mp h
  rw [trimLine_field, List.append_assoc]
  rfl

lemma notSchema_snapshotRecord {r : Record} {l : Bytes} (h : l ∈ snapshotRecord r) :
    NotSchema (trimLine l) := by
  simp only [snapshotRecord, List.mem_append, List.mem_singleton, recordFieldLines,
    List.mem_map] at h
  rcases h with ((rfl | ⟨f, -, rfl⟩) | h) | rfl
  · rfl
  · exact notSchema_recordField f _
  · exact notSchema_memberLines h
  · rfl

lemma notSchema_saveRecord {r : Record} {l : Bytes} (h : l ∈ saveRecord r) :
    NotSchema (trimLine l) := by
  simp only [saveRecord, List.mem_append, List.mem_singleton, recordFieldLines,
    List.mem_map] at h
  rcases h with (((rfl | ⟨f, -, rfl⟩) | h) | h) | rfl
  · rfl
  · exact notSchema_recordField f _
  · split at h
    · obtain ⟨f, -, rfl⟩ := List.mem_map.mp h
      exact notSchema_recordField f _
    · cases h
  · exact notSchema_memberLines h
  · rfl

lemma notSchema_saveIdempotencyRecord {r : IdempotencyRecord} {l : Bytes}
    (h : l ∈ saveIdempotencyRecord r) : NotSchema (trimLine l) := by
  simp only [saveIdempotencyRecord, List.mem_append, List.mem_cons, List.not_mem_nil, or_false,
    List.mem_map] at h
  rcases h with ((rfl | rfl | rfl | rfl | rfl | rfl) | ⟨m, -, rfl⟩) | rfl
  · rfl
  all_goals first
    | (rw [fieldLine, trimLine_field]; rfl)
    | rfl

lemma notSchema_saveAuditEvent {e : AuditEvent} {l : Bytes} (h : l ∈ saveAuditEvent e) :
    NotSchema (trimLine l) := by
  simp only [AuditEvent.saveAuditEvent_eq, List.mem_append, List.mem_map, AuditEvent.fields,
    List.mem_cons, List.not_mem_nil, or_false] at h
  rcases h with (rfl | ⟨p, hp, rfl⟩) | rfl
  · rfl
  · rw [fieldLine, trimLine_field]
    rcases hp with rfl | rfl | rfl | rfl | rfl | rfl | rfl | rfl | rfl | rfl | rfl | rfl | rfl |
      rfl | rfl <;> rfl
  · rfl

/-- The frames of a store or a snapshot. -/
def frameLines (save : Record → List Bytes) (rs : List Record) (is : List IdempotencyRecord)
    (es : List AuditEvent) : List Bytes :=
  rs.flatMap save ++ is.flatMap saveIdempotencyRecord ++ es.flatMap saveAuditEvent

lemma mem_frameLines {save : Record → List Bytes} {rs : List Record}
    {is : List IdempotencyRecord} {es : List AuditEvent} {l : Bytes} :
    l ∈ frameLines save rs is es ↔ (∃ r ∈ rs, l ∈ save r) ∨
      (∃ r ∈ is, l ∈ saveIdempotencyRecord r) ∨ (∃ e ∈ es, l ∈ saveAuditEvent e) := by
  simp [frameLines]

/-! ## The store file -/

lemma header_readBack (svc : Service) :
    readBack (storeHeader svc).tail = [fieldLine "store_schema_version" (decimal 1),
      fieldLine "record_count" (decimal svc.recordCount),
      fieldLine "audit_next_sequence" (decimal svc.auditNextSequence.toNat),
      fieldLine "audit_event_count" (decimal svc.auditEventCount.toNat)] := by
  have h := readBack_fields (fun p : String × Bytes => p.1) (fun p => p.2)
    [("store_schema_version", decimal 1), ("record_count", decimal svc.recordCount),
      ("audit_next_sequence", decimal svc.auditNextSequence.toNat),
      ("audit_event_count", decimal svc.auditEventCount.toNat)]
  simp only [List.map_cons, List.map_nil, trimLine_decimal] at h
  exact h

/-- The header's counters are not read back: outside every frame a field line is skipped. -/
lemma foldlM_header (svc base : Service) (hc : svc.recordCount < 10 ^ 95) :
    (readBack (storeHeader svc).tail).foldlM importVersionedLine ((base, .closed), false) =
      some ((base, .closed), true) := by
  have hskip : ∀ (name : String) (v : Bytes) (b : Bool), NotSchema (fieldLine name v) →
      FieldName (ascii name) → v.length ≤ 511 →
      importVersionedLine ((base, .closed), b) (fieldLine name v) =
        some ((base, .closed), b) := by
    intro name v b hs hn hv
    rw [importVersionedLine_other hs, fieldLine, importStoreLine_field _ hn hv]
    rfl
  have hschema : importVersionedLine ((base, .closed), false)
      (fieldLine "store_schema_version" (decimal 1)) = some ((base, .closed), true) := by
    have : parseSchemaVersionLine (fieldLine "store_schema_version" (decimal 1)) = .known := by
      decide
    simp [importVersionedLine, this]
  rw [header_readBack]
  simp only [List.foldlM_cons, List.foldlM_nil, hschema, Option.bind_eq_bind, Option.bind_some]
  rw [hskip "record_count" _ _ rfl (by decide)
    (Nat.le_trans (length_decimal_le (k := 95) (by norm_num) hc) (by norm_num)), Option.bind_some,
    hskip "audit_next_sequence" _ _ rfl (by decide)
    (Nat.le_trans (length_decimal_u64 _) (by norm_num)), Option.bind_some,
    hskip "audit_event_count" _ _ rfl (by decide)
    (Nat.le_trans (length_decimal_u64 _) (by norm_num)), Option.bind_some]
  rfl

lemma fitsLine_storeHeader {svc : Service} (hc : svc.recordCount < 10 ^ 95) {l : Bytes}
    (h : l ∈ storeHeader svc) : FitsLine l := by
  simp only [storeHeader, List.mem_cons, List.not_mem_nil, or_false] at h
  rcases h with rfl | rfl | rfl | rfl | rfl
  · decide
  · decide
  · exact (fieldFits_of_le (by decide) (plain_decimal _)
      (length_decimal_le (by norm_num) hc) : FieldFits ("record_count", _)).fitsLine
  · exact (fieldFits_u64 (by decide) _ : FieldFits ("audit_next_sequence", _)).fitsLine
  · exact (fieldFits_u64 (by decide) _ : FieldFits ("audit_event_count", _)).fitsLine

/-- The lines of a store or a snapshot, read back, import the normal forms of the printed values. -/
lemma foldlM_frameLines (svc base : Service) (hc : svc.recordCount < 10 ^ 95)
    {save : Record → List Bytes} (norm : Record → Record)
    (hsave : ∀ svc r, importStoreLines (svc, .closed) (readBack (save r)) =
      (svc.storeImportRecord (norm r)).map fun svc => (svc, .closed))
    (hschema : ∀ r, ∀ l ∈ save r, NotSchema (trimLine l)) (rs : List Record)
    {is : List IdempotencyRecord} (his : ∀ r ∈ is, ResponseLines r.response.bytes)
    (es : List AuditEvent) :
    (readBack ((storeHeader svc).tail ++ frameLines save rs is es)).foldlM importVersionedLine
        ((base, .closed), false) =
      (importFrames base (rs.map norm) (is.map IdempotencyRecord.stored)
        (es.map AuditEvent.stored)).map fun svc => ((svc, .closed), true) := by
  have hframes : ∀ l ∈ frameLines save rs is es, NotSchema (trimLine l) := by
    intro l hl
    rcases mem_frameLines.mp hl with ⟨r, -, h⟩ | ⟨r, hr, h⟩ | ⟨e, -, h⟩
    · exact hschema r l h
    · exact notSchema_saveIdempotencyRecord h
    · exact notSchema_saveAuditEvent h
  rw [readBack_append, List.foldlM_append, foldlM_header svc base hc]
  simp only [Option.bind_eq_bind, Option.bind_some]
  rw [foldlM_importVersionedLine (notSchema_readBack hframes), frameLines,
    importStoreLines_frames base save norm hsave his]
  cases importFrames base (rs.map norm) (is.map IdempotencyRecord.stored)
    (es.map AuditEvent.stored) <;> rfl

/-- Loading the file that `saveStore` wrote imports the normal forms of the saved values. -/
lemma loadStore_saveStore {svc : Service} (hc : svc.recordCount < 10 ^ 95)
    (hi : ∀ r ∈ svc.idempotency.entries, ResponseLines r.response.bytes) (base : Service) :
    loadStore base (some (saveStore svc)) =
      (importFrames base (svc.records.entries.map Record.stored)
        (svc.idempotency.entries.map IdempotencyRecord.stored)
        ((svc.auditWindow svc.savedFrom).map AuditEvent.stored)).map fun svc => (svc, false) := by
  have hfits : ∀ l ∈ (storeHeader svc).tail ++ frameLines saveRecord svc.records.entries
      svc.idempotency.entries (svc.auditWindow svc.savedFrom), FitsLine l := by
    intro l hl
    rcases List.mem_append.mp hl with h | h
    · exact fitsLine_storeHeader hc (List.mem_of_mem_tail h)
    · rcases mem_frameLines.mp h with ⟨r, -, h⟩ | ⟨r, hr, h⟩ | ⟨e, -, h⟩
      · exact fitsLine_saveRecord h
      · exact fitsLine_saveIdempotencyRecord (hi r hr) h
      · exact fitsLine_saveAuditEvent h
  have htext : saveStore svc = storeMagic ++ LF :: unlines ((storeHeader svc).tail ++
      frameLines saveRecord svc.records.entries svc.idempotency.entries
        (svc.auditWindow svc.savedFrom)) := by
    rw [saveStore, ← unlines_cons]
    simp [storeHeader, frameLines]
  have hbody := nonBlank_unlines_fits hfits []
  rw [List.append_nil, nonBlank_nil, List.append_nil, nonBlank] at hbody
  have hmagic : trimLine storeMagic = storeMagic := by decide
  simp only [loadStore, htext]
  rw [fileLines_line (by decide) (by decide)]
  simp only [hmagic, if_true]
  rw [hbody, foldlM_frameLines svc base hc Record.stored importStoreLines_saveRecord
    (fun r l hl => notSchema_saveRecord hl) _ hi]
  cases importFrames base (svc.records.entries.map Record.stored)
    (svc.idempotency.entries.map IdempotencyRecord.stored)
    ((svc.auditWindow svc.savedFrom).map AuditEvent.stored) <;> rfl

/-! ## Importing whole tables -/

/-- Importing records is upserting them, and the count follows the table. -/
lemma foldlM_storeImportRecord {rs : List Record}
    (hvalid : ∀ r ∈ rs, r.key.bytes ≠ [] ∧ r.kind ≠ RecordKind.none) {svc : Service}
    (hcount : svc.recordCount = svc.records.count) :
    rs.foldlM Service.storeImportRecord svc =
      (svc.records.upsertAll Record.keyBytes rs).map fun t =>
        { svc with records := t, recordCount := t.count } := by
  induction rs generalizing svc with
  | nil =>
      simp only [List.foldlM_nil, SlotTable.upsertAll, Option.pure_def, Option.map_some, ← hcount]
  | cons r rs ih =>
      obtain ⟨hkey, hkind⟩ := hvalid r (by simp)
      have hstep : svc.storeImportRecord r = svc.putRecord r := by
        rw [Service.storeImportRecord, if_neg (by simp [hkey, hkind])]
      rw [List.foldlM_cons, hstep, Service.putRecord_eq, SlotTable.upsertAll, List.foldlM_cons]
      cases hu : svc.records.upsert Record.keyBytes r with
      | none => rfl
      | some t =>
          simp only [Option.map_some, Option.bind_eq_bind, Option.bind_some]
          rw [ih (fun q hq => hvalid q (by simp [hq]))]
          · rfl
          · rw [SlotTable.count_upsert hu, hcount]
            rfl

lemma foldlM_storeImportIdempotency {is : List IdempotencyRecord}
    (hvalid : ∀ r ∈ is, r.key.bytes ≠ [] ∧ r.operation ≠ 0) (svc : Service) :
    is.foldlM Service.storeImportIdempotency svc =
      (svc.idempotency.upsertAll IdempotencyRecord.keyBytes is).map fun t =>
        { svc with idempotency := t } := by
  induction is generalizing svc with
  | nil => rfl
  | cons r is ih =>
      obtain ⟨hkey, hop⟩ := hvalid r (by simp)
      rw [List.foldlM_cons, Service.storeImportIdempotency, if_neg (by simp [hkey, hop]),
        SlotTable.upsertAll, List.foldlM_cons]
      cases hu : svc.idempotency.upsert IdempotencyRecord.keyBytes r with
      | none => rfl
      | some t =>
          simp only [Option.map_some, Option.bind_eq_bind, Option.bind_some]
          exact ih (fun q hq => hvalid q (by simp [hq])) _

lemma Service.auditSlot_lt (sequence : UInt64) : Service.auditSlot sequence < maxAuditEvents := by
  rw [Service.auditSlot, UInt64.toNat_mod]
  exact Nat.mod_lt _ (by decide)

/-- The next sequence number after importing events. -/
def nextAfter (n : UInt64) (es : List AuditEvent) : UInt64 :=
  es.foldl (fun n e => if n ≤ e.sequence then e.sequence + 1 else n) n

/-- Importing audit events: every slot holds the last event of its sequence class, and only the
ring, its next number and its count move. -/
lemma foldlM_storeImportAudit {es : List AuditEvent}
    (hvalid : ∀ e ∈ es, e.sequence ≠ 0 ∧ e.operation ≠ 0) (svc : Service) :
    ∃ ring c, es.foldlM Service.storeImportAudit svc =
        some { svc with
          audit := ring
          auditNextSequence := nextAfter svc.auditNextSequence es
          auditEventCount := c } ∧
      ∀ i, ring.get i = (es.reverse.find? fun e => Service.auditSlot e.sequence = i).or
        (svc.audit.get i) := by
  induction es generalizing svc with
  | nil => exact ⟨svc.audit, svc.auditEventCount, rfl, fun i => rfl⟩
  | cons e es ih =>
      obtain ⟨hseq, hop⟩ := hvalid e (by simp)
      rw [List.foldlM_cons, Service.storeImportAudit, if_neg (by simp [hseq, hop])]
      simp only [Option.bind_eq_bind, Option.bind_some]
      obtain ⟨ring, c, hfold, hget⟩ := ih (fun q hq => hvalid q (by simp [hq])) _
      refine ⟨ring, c, hfold, fun i => ?_⟩
      rw [hget, List.reverse_cons, List.find?_append, SlotTable.get_put (Service.auditSlot_lt _)]
      cases es.reverse.find? fun e => Service.auditSlot e.sequence = i with
      | some q => rfl
      | none =>
          by_cases hi : Service.auditSlot e.sequence = i
          · simp [hi]
          · have hi' : ¬ i = Service.auditSlot e.sequence := fun h => hi h.symm
            simp [hi, hi']

lemma toNat_succ_of_lt {a b : UInt64} (h : a < b) : (a + 1).toNat = a.toNat + 1 := by
  have h₁ : a.toNat < b.toNat := UInt64.lt_iff_toNat_lt.mp h
  have h₂ := b.toNat_lt
  rw [UInt64.toNat_add]
  have : (1 : UInt64).toNat = 1 := rfl
  omega

/-- The next number only grows, passes every imported event, and stays below any bound on both. -/
lemma nextAfter_bounds {es : List AuditEvent} {n m : UInt64}
    (hes : ∀ e ∈ es, e.sequence < m) (hn : n ≤ m) :
    n ≤ nextAfter n es ∧ nextAfter n es ≤ m ∧
      ∀ e ∈ es, e.sequence + 1 ≤ nextAfter n es := by
  induction es generalizing n with
  | nil => exact ⟨UInt64.le_refl n, hn, by simp⟩
  | cons e es ih =>
      have he := hes e (by simp)
      have hsucc := toNat_succ_of_lt he
      have hlt := UInt64.lt_iff_toNat_lt.mp he
      have hle : (if n ≤ e.sequence then e.sequence + 1 else n) ≤ m := by
        split
        · rw [UInt64.le_iff_toNat_le]
          omega
        · exact hn
      obtain ⟨h₁, h₂, h₃⟩ := ih (fun q hq => hes q (by simp [hq])) hle
      have hgrow : n ≤ (if n ≤ e.sequence then e.sequence + 1 else n) ∧
          e.sequence + 1 ≤ (if n ≤ e.sequence then e.sequence + 1 else n) := by
        split
        · rename_i hns
          rw [UInt64.le_iff_toNat_le] at hns
          rw [UInt64.le_iff_toNat_le, UInt64.le_iff_toNat_le]
          omega
        · rename_i hns
          rw [UInt64.not_le, UInt64.lt_iff_toNat_lt] at hns
          rw [UInt64.le_iff_toNat_le, UInt64.le_iff_toNat_le]
          omega
      refine ⟨UInt64.le_trans hgrow.1 h₁, h₂, ?_⟩
      intro q hq
      rcases List.mem_cons.mp hq with rfl | hq
      · exact UInt64.le_trans hgrow.2 h₁
      · exact h₃ q hq

/-! ## Well-formed services -/

/-- `mem_service_init` refuses to start a service with a plane missing. -/
def Service.Ready (svc : Service) : Prop :=
  svc.controlPlaneReady = true ∧ svc.providerRegistryReady = true ∧ svc.durableReady = true

/-- The invariant of a service: every plane ready, and in the three tables distinct non-empty keys, a
correct count, events in the slots of their numbers, and responses a store can carry. -/
structure Service.WellFormed (svc : Service) : Prop where
  ready : svc.Ready
  recordKeys : svc.records.UniqueKeys Record.keyBytes
  recordValid : ∀ r ∈ svc.records.entries, r.key.bytes ≠ [] ∧ r.kind ≠ RecordKind.none
  recordCount : svc.recordCount = svc.records.count
  idempotencyKeys : svc.idempotency.UniqueKeys IdempotencyRecord.keyBytes
  idempotencyValid : ∀ r ∈ svc.idempotency.entries, r.key.bytes ≠ [] ∧ r.operation ≠ 0
  responseLines : ∀ r ∈ svc.idempotency.entries, ResponseLines r.response.bytes
  auditSlots : ∀ i e, svc.audit.get i = some e → i = Service.auditSlot e.sequence
  auditValid : ∀ e ∈ svc.audit.entries, e.sequence ≠ 0 ∧ e.operation ≠ 0

/-- Every value of the three tables comes back from a store as it is. -/
structure Service.Storable (svc : Service) : Prop where
  records : ∀ r ∈ svc.records.entries, r.Storable
  idempotency : ∀ r ∈ svc.idempotency.entries, r.Storable
  audit : ∀ e ∈ svc.audit.entries, e.Storable

/-- The window from `first` to the next number covers the ring, and the newest event is still
there. -/
structure Service.Covers (svc : Service) (first : ℕ) : Prop where
  since : ∀ e ∈ svc.audit.entries, first ≤ e.sequence.toNat
  below : ∀ e ∈ svc.audit.entries, e.sequence < svc.auditNextSequence
  newest : svc.auditNextSequence = 1 ∨
    ∃ e ∈ svc.audit.entries, e.sequence + 1 = svc.auditNextSequence

/-- The live audit events are those a saved store looks for. -/
abbrev Service.AuditCurrent (svc : Service) : Prop := svc.Covers svc.savedFrom

namespace Service

variable {svc : Service}

lemma wellFormed_fresh : fresh.WellFormed where
  ready := ⟨rfl, rfl, rfl⟩
  recordKeys := SlotTable.uniqueKeys_empty _
  recordValid := by simp [fresh]
  recordCount := rfl
  idempotencyKeys := SlotTable.uniqueKeys_empty _
  idempotencyValid := by simp [fresh]
  responseLines := by simp [fresh]
  auditSlots := by simp [fresh]
  auditValid := by simp [fresh]

lemma storable_fresh : fresh.Storable := ⟨by simp [fresh], by simp [fresh], by simp [fresh]⟩

lemma auditCurrent_fresh : fresh.AuditCurrent := ⟨by simp [fresh], by simp [fresh], .inl rfl⟩

/-- No two live events have one number, since they would share a slot. -/
lemma WellFormed.audit_eq (h : svc.WellFormed) {e q : AuditEvent} (he : e ∈ svc.audit.entries)
    (hq : q ∈ svc.audit.entries) (hs : auditSlot e.sequence = auditSlot q.sequence) : e = q := by
  obtain ⟨i, hi⟩ := SlotTable.mem_entries.mp he
  obtain ⟨j, hj⟩ := SlotTable.mem_entries.mp hq
  have hij : i = j := by rw [h.auditSlots i e hi, h.auditSlots j q hj, hs]
  rw [hij, hj] at hi
  exact (Option.some.inj hi).symm

lemma WellFormed.get_auditSlot (h : svc.WellFormed) {e : AuditEvent}
    (he : e ∈ svc.audit.entries) : svc.audit.get (auditSlot e.sequence) = some e := by
  obtain ⟨i, hi⟩ := SlotTable.mem_entries.mp he
  rwa [← h.auditSlots i e hi]

lemma mem_of_findAuditSequence {n : ℕ} {e : AuditEvent} (h : svc.findAuditSequence n = some e) :
    e ∈ svc.audit.entries ∧ e.sequence.toNat = n :=
  ⟨SlotTable.find?_mem h, by simpa using SlotTable.find?_pass h⟩

lemma WellFormed.findAuditSequence (h : svc.WellFormed) {e : AuditEvent}
    (he : e ∈ svc.audit.entries) : svc.findAuditSequence e.sequence.toNat = some e := by
  cases hf : svc.findAuditSequence e.sequence.toNat with
  | none =>
      have := List.find?_eq_none.mp hf e he
      simp at this
  | some q =>
      obtain ⟨hq, hseq⟩ := mem_of_findAuditSequence hf
      rw [h.audit_eq hq he (by rw [UInt64.toNat_inj.mp hseq])]

lemma WellFormed.mem_auditWindow (h : svc.WellFormed) {first : ℕ} {e : AuditEvent} :
    e ∈ svc.auditWindow first ↔ e ∈ svc.audit.entries ∧ first ≤ e.sequence.toNat ∧
      e.sequence < svc.auditNextSequence := by
  rw [auditWindow, List.mem_filterMap]
  constructor
  · rintro ⟨n, hn, hf⟩
    obtain ⟨hm, rfl⟩ := mem_of_findAuditSequence hf
    rw [List.mem_range'_1] at hn
    exact ⟨hm, hn.1, UInt64.lt_iff_toNat_lt.mpr (by omega)⟩
  · rintro ⟨hm, hlo, hhi⟩
    rw [UInt64.lt_iff_toNat_lt] at hhi
    exact ⟨e.sequence.toNat, List.mem_range'_1.mpr (by omega), h.findAuditSequence hm⟩

lemma map_eq_self {α : Type*} {f : α → α} {l : List α} (h : ∀ a ∈ l, f a = a) : l.map f = l := by
  conv_rhs => rw [← List.map_id l]
  exact List.map_congr_left h

/-- What the ring holds after the saved window has been imported into an empty one. -/
lemma WellFormed.get_of_window (h : svc.WellFormed) {es : List AuditEvent}
    (hes : ∀ e, e ∈ es ↔ e ∈ svc.audit.entries) (i : ℕ) :
    (es.reverse.find? fun e => auditSlot e.sequence = i) = svc.audit.get i := by
  cases hf : es.reverse.find? fun e => auditSlot e.sequence = i with
  | none =>
      cases hg : svc.audit.get i with
      | none => rfl
      | some e =>
          have hm := SlotTable.mem_entries_of_get hg
          have := List.find?_eq_none.mp hf e (by simpa using (hes e).mpr hm)
          simp [← h.auditSlots i e hg] at this
  | some e =>
      have hm := (hes e).mp (by simpa using List.mem_of_find?_eq_some hf)
      have hs : auditSlot e.sequence = i := by simpa using List.find?_some hf
      rw [← hs, h.get_auditSlot hm]

/-- The tables of `svc`, imported frame by frame into an empty service, are the tables of `svc`:
record and idempotency tables packed, the ring slot by slot. -/
lemma importFrames_tables (h : svc.WellFormed) {first : ℕ}
    (hcover : svc.Covers first) :
    ∃ ring c, importFrames fresh svc.records.entries svc.idempotency.entries
        (svc.auditWindow first) = some { fresh with
          records := svc.records.pack
          recordCount := svc.recordCount
          idempotency := svc.idempotency.pack
          audit := ring
          auditNextSequence := svc.auditNextSequence
          auditEventCount := c } ∧ ∀ i, ring.get i = svc.audit.get i := by
  have hes : ∀ e, e ∈ svc.auditWindow first ↔ e ∈ svc.audit.entries := by
    intro e
    rw [h.mem_auditWindow]
    exact ⟨fun he => he.1, fun he => ⟨he, hcover.since e he, hcover.below e he⟩⟩
  have hrec : svc.records.entries.foldlM storeImportRecord fresh = some { fresh with
      records := svc.records.pack, recordCount := svc.recordCount } := by
    rw [foldlM_storeImportRecord h.recordValid rfl]
    have : fresh.records = SlotTable.empty := rfl
    rw [this, SlotTable.upsertAll_entries h.recordKeys, Option.map_some, SlotTable.count_pack,
      h.recordCount]
  have hidem : ∀ base : Service, base.idempotency = SlotTable.empty →
      svc.idempotency.entries.foldlM storeImportIdempotency base =
        some { base with idempotency := svc.idempotency.pack } := by
    intro base hbase
    rw [foldlM_storeImportIdempotency h.idempotencyValid, hbase,
      SlotTable.upsertAll_entries h.idempotencyKeys, Option.map_some]
  have hvalid : ∀ e ∈ svc.auditWindow first, e.sequence ≠ 0 ∧ e.operation ≠ 0 :=
    fun e he => h.auditValid e ((hes e).mp he)
  obtain ⟨ring, c, hfold, hget⟩ := foldlM_storeImportAudit hvalid { fresh with
    records := svc.records.pack
    recordCount := svc.recordCount
    idempotency := svc.idempotency.pack }
  refine ⟨ring, c, ?_, ?_⟩
  · rw [importFrames, hrec, Option.bind_some, hidem _ rfl, Option.bind_some, hfold]
    have hnext : nextAfter 1 (svc.auditWindow first) = svc.auditNextSequence := by
      rcases hcover.newest with hone | ⟨e, he, hlast⟩
      · have hnil : svc.auditWindow first = [] := by
          rw [List.eq_nil_iff_forall_not_mem]
          intro e he
          have hm := (hes e).mp he
          have hlt := UInt64.lt_iff_toNat_lt.mp (hone ▸ hcover.below e hm)
          have hz : e.sequence.toNat = 0 := Nat.lt_one_iff.mp hlt
          exact (h.auditValid e hm).1 (UInt64.toNat_inj.mp hz)
        rw [hnil, hone]
        rfl
      · have hpos : (1 : UInt64) ≤ svc.auditNextSequence := by
          rw [← hlast, UInt64.le_iff_toNat_le, toNat_succ_of_lt (hcover.below e he)]
          have : (1 : UInt64).toNat = 1 := rfl
          omega
        obtain ⟨-, hle, hge⟩ := nextAfter_bounds
          (fun q hq => hcover.below q ((hes q).mp hq)) hpos
        have := hge e ((hes e).mpr he)
        rw [hlast] at this
        exact UInt64.le_antisymm hle this
    have hone : fresh.auditNextSequence = 1 := rfl
    simp only [hone, hnext]
  · intro i
    rw [hget, h.get_of_window hes]
    have : fresh.audit.get i = none := SlotTable.get_empty i
    rw [this, Option.or_none]

lemma WellFormed.recordCount_lt (h : svc.WellFormed) : svc.recordCount < 10 ^ 95 := by
  rw [h.recordCount]
  exact Nat.lt_of_le_of_lt svc.records.count_le (by norm_num)

/-- **A saved store loads back.**  Into a fresh service, the file `saveStore` writes loads the same
records, the same idempotency records, the same ring and the same next number. -/
lemma loadStore_saveStore_fresh (h : svc.WellFormed) (hs : svc.Storable)
    (hcur : svc.AuditCurrent) :
    ∃ ring c, loadStore fresh (some (saveStore svc)) = some ({ fresh with
        records := svc.records.pack
        recordCount := svc.recordCount
        idempotency := svc.idempotency.pack
        audit := ring
        auditNextSequence := svc.auditNextSequence
        auditEventCount := c }, false) ∧ ∀ i, ring.get i = svc.audit.get i := by
  obtain ⟨ring, c, hframes, hget⟩ := importFrames_tables h hcur
  refine ⟨ring, c, ?_, hget⟩
  rw [loadStore_saveStore h.recordCount_lt h.responseLines,
    map_eq_self fun r hr => Record.stored_eq_self_iff.mpr (hs.records r hr),
    map_eq_self fun r hr => (IdempotencyRecord.stored_eq_self_iff (h.responseLines r hr)).mpr
      (hs.idempotency r hr),
    map_eq_self fun e he => AuditEvent.stored_eq_self_iff.mpr
      (hs.audit e (h.mem_auditWindow.mp he).1), hframes, Option.map_some]

end Service

end MemService
