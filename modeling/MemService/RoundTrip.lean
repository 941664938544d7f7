import MemService.Reachable

/-!
# What survives the text formats

Records, idempotency records and audit events leave the daemon as text, in the store and journal
files and in snapshot payloads.  Both formats are line based, and the one importer takes carriage
returns off the end of every line before it looks at it.

`savedLines_readBack_iff` is about single frames of the store.  A record comes back exactly if no text
field of it ends in a carriage return, nothing is held past its member count, and the default backend
comes with an all-zero reference.

`restoreSnapshot_exportSnapshot_iff` is about whole snapshots.  The snapshot writer has no lines for
the backend reference at all, and it prints the audit events of a window computed from the event
count, so a snapshot comes back exactly if there is no backend reference and the window covers the
ring.
-/

open ByteText CNumeral

namespace MemService

/-! ## Single frames -/

/-- Written to a file and read from it into a fresh service, the record is installed as it was. -/
def Record.ReadsBack (r : Record) : Prop :=
  ∃ svc, importStoreLines (Service.fresh, .closed) (nonBlank lineCap (unlines (saveRecord r))) =
    some (svc, .closed) ∧ svc.records.entries = [r]

/-- Written to a file and read from it into a fresh service, the idempotency record is installed
with the same status, checksum, operation and response. -/
def IdempotencyRecord.ReadsBack (r : IdempotencyRecord) : Prop :=
  ∃ svc q, importStoreLines (Service.fresh, .closed)
      (nonBlank lineCap (unlines (saveIdempotencyRecord r))) = some (svc, .closed) ∧
    svc.idempotency.entries = [q] ∧ q.status = r.status ∧
    q.requestChecksum = r.requestChecksum ∧ q.operation = r.operation ∧
    q.response.bytes = r.response.bytes

lemma nonBlank_frame {ls : List Bytes} (h : ∀ l ∈ ls, FitsLine l) :
    nonBlank lineCap (unlines ls) = readBack ls := by
  have := nonBlank_unlines_fits h []
  rwa [List.append_nil, nonBlank_nil, List.append_nil] at this

lemma entries_storeImportRecord_fresh {r : Record} {svc : Service}
    (h : Service.fresh.storeImportRecord r = some svc) : svc.records.entries = [r] := by
  unfold Service.storeImportRecord at h
  split at h
  · cases h
  · rw [Service.putRecord_eq] at h
    obtain ⟨t, ht, rfl⟩ := Option.map_eq_some_iff.mp h
    have hput : (SlotTable.empty : SlotTable Record maxRecords).upsert Record.keyBytes r =
        some ((SlotTable.empty : SlotTable Record maxRecords).put 0 r) := rfl
    have : Service.fresh.records = SlotTable.empty := rfl
    rw [this, hput] at ht
    obtain rfl := Option.some.inj ht
    rfl

/-- A valid record reads back exactly if the store text carries it whole. -/
lemma Record.readsBack_iff {r : Record} (hr : Service.ValidRecord r) :
    r.ReadsBack ↔ r.Storable := by
  rw [Record.ReadsBack, nonBlank_frame fun l hl => fitsLine_saveRecord hl,
    importStoreLines_saveRecord, ← Record.stored_eq_self_iff]
  constructor
  · rintro ⟨svc, himp, hentries⟩
    obtain ⟨svc', hsvc', heq⟩ := Option.map_eq_some_iff.mp himp
    obtain ⟨rfl, -⟩ := Prod.mk.inj heq
    rw [entries_storeImportRecord_fresh hsvc'] at hentries
    exact (List.cons.inj hentries).1
  · intro hstored
    rw [hstored]
    have himp : ∃ svc, Service.fresh.storeImportRecord r = some svc := by
      rw [Service.storeImportRecord, if_neg (by rw [not_or]; exact hr), ← Option.isSome_iff_exists,
        Option.isSome_iff_ne_none]
      intro hnone
      have hfull := (Service.putRecord_eq_none_iff.mp hnone).2
      exact absurd hfull (by decide)
    obtain ⟨svc, hsvc⟩ := himp
    exact ⟨svc, by rw [hsvc]; rfl, entries_storeImportRecord_fresh hsvc⟩

lemma entries_storeImportIdempotency_fresh (r : IdempotencyRecord) :
    (r.key.bytes ≠ [] ∧ r.operation ≠ 0 ∧
      ∃ svc, Service.fresh.storeImportIdempotency r = some svc ∧ svc.idempotency.entries = [r]) ∨
    ((r.key.bytes = [] ∨ r.operation = 0) ∧ Service.fresh.storeImportIdempotency r = none) := by
  unfold Service.storeImportIdempotency
  by_cases hr : r.key.bytes = [] ∨ r.operation = 0
  · exact .inr ⟨hr, if_pos hr⟩
  · rw [if_neg hr]
    rw [not_or] at hr
    exact .inl ⟨hr.1, hr.2, _, rfl, rfl⟩

/-- A valid idempotency record reads back exactly if its key is not made of carriage returns and no
line of its response ends in one. -/
lemma IdempotencyRecord.readsBack_iff {r : IdempotencyRecord} (hr : Service.ValidIdempotency r) :
    r.ReadsBack ↔ trimLine r.key.bytes ≠ [] ∧ ∀ l ∈ lines r.response.bytes, NoTrailingCR l := by
  rw [IdempotencyRecord.ReadsBack,
    nonBlank_frame fun l hl => fitsLine_saveIdempotencyRecord hr.response hl,
    importStoreLines_saveIdempotencyRecord _ hr.response,
    ← IdempotencyRecord.stored_response_eq_iff hr.response]
  obtain ⟨hkey, -, svc, hsvc, hentries⟩ | ⟨hbad, hnone⟩ :=
    entries_storeImportIdempotency_fresh r.stored
  · rw [hsvc]
    constructor
    · rintro ⟨svc', q, heq, hq, -, -, -, hresp⟩
      obtain ⟨rfl, -⟩ := Prod.mk.inj (Option.some.inj heq)
      rw [hentries] at hq
      obtain rfl := (List.cons.inj hq).1
      exact ⟨hkey, hresp⟩
    · rintro ⟨-, hresp⟩
      exact ⟨svc, r.stored, rfl, hentries, rfl, rfl, rfl, hresp⟩
  · rw [hnone]
    constructor
    · rintro ⟨svc', q, heq, -⟩
      cases heq
    · rintro ⟨hkey, -⟩
      rcases hbad with hbad | hbad
      · exact absurd hbad hkey
      · exact absurd hbad hr.operation

/-- **Frames of the store.**  In every reachable state, a record reads back whole exactly if its text
fields are free of trailing carriage returns, its unused member slots are blank, and a default backend
has a zero reference; an idempotency record exactly if its key is more than carriage returns and its
response lines are free of trailing ones. -/
theorem savedLines_readBack_iff {cfg : Config} {d : Daemon} (h : Daemon.Reachable cfg d) :
    (∀ r ∈ d.state.svc.records.entries, r.ReadsBack ↔ r.Storable) ∧
    (∀ r ∈ d.state.svc.idempotency.entries, r.ReadsBack ↔
      trimLine r.key.bytes ≠ [] ∧ ∀ l ∈ lines r.response.bytes, NoTrailingCR l) := by
  obtain ⟨hw, -⟩ := h.wellFormed
  exact ⟨fun r hr => Record.readsBack_iff (hw.recordValid r hr),
    fun r hr => IdempotencyRecord.readsBack_iff (hw.validIdempotency hr)⟩

/-- One plain put, with an idempotency key: its record and its idempotency record read back. -/
theorem savedLines_readBack_plain :
    (∃ r ∈ (Daemon.after .putObject ⟨ascii "idempotency_key=i\nkey=a", by decide,
      by decide⟩).state.svc.records.entries, r.ReadsBack) ∧
    (∃ r ∈ (Daemon.after .putObject ⟨ascii "idempotency_key=i\nkey=a", by decide,
      by decide⟩).state.svc.idempotency.entries, r.ReadsBack) := by
  have hall := savedLines_readBack_iff (Daemon.reachable_after .putObject
    ⟨ascii "idempotency_key=i\nkey=a", by decide, by decide⟩)
  constructor
  · have hmem : ∃ r ∈ (Daemon.after .putObject ⟨ascii "idempotency_key=i\nkey=a", by decide,
        by decide⟩).state.svc.records.entries, r.stored = r := by
      decide +kernel
    obtain ⟨r, hr, hs⟩ := hmem
    exact ⟨r, hr, (hall.1 r hr).mpr (Record.stored_eq_self_iff.mp hs)⟩
  · have hmem : ∃ r ∈ (Daemon.after .putObject ⟨ascii "idempotency_key=i\nkey=a", by decide,
        by decide⟩).state.svc.idempotency.entries, trimLine r.key.bytes ≠ [] ∧
          ∀ l ∈ lines r.response.bytes, NoTrailingCR l := by
      decide +kernel
    obtain ⟨r, hr, hs⟩ := hmem
    exact ⟨r, hr, (hall.2 r hr).mpr hs⟩

/-- A key that ends in a carriage return is accepted from the wire and lost in the file. -/
theorem savedLines_lose_carriageReturn :
    Daemon.Reachable Config.durable
      (Daemon.after .putObject ⟨ascii "key=a\r", by decide, by decide⟩) ∧
    ∃ r ∈ (Daemon.after .putObject ⟨ascii "key=a\r", by decide,
      by decide⟩).state.svc.records.entries, ¬ r.ReadsBack := by
  refine ⟨Daemon.reachable_after _ _, ?_⟩
  have hmem : ∃ r ∈ (Daemon.after .putObject ⟨ascii "key=a\r", by decide,
      by decide⟩).state.svc.records.entries,
      (r.key.bytes ≠ [] ∧ r.kind ≠ RecordKind.none) ∧ r.stored ≠ r := by
    decide +kernel
  obtain ⟨r, hr, hvalid, hs⟩ := hmem
  refine ⟨r, hr, fun hback => hs ?_⟩
  exact Record.stored_eq_self_iff.mpr ((Record.readsBack_iff hvalid).mp hback)

/-! ## The text of a snapshot -/

lemma fillBuffer_complete {cap : ℕ} {ts : List Bytes} {used : Bytes}
    (h : (fillBuffer cap used ts).2 = true) : (fillBuffer cap used ts).1 = used ++ ts.flatten := by
  induction ts generalizing used with
  | nil => simp [fillBuffer]
  | cons t ts ih =>
      unfold fillBuffer at h ⊢
      split
      · rename_i hfull
        rw [if_pos hfull] at h
        cases h
      · rename_i hfits
        rw [if_neg hfits] at h
        rw [ih h, List.flatten_cons, List.append_assoc]

lemma flatten_map_unlines (ls : List Bytes) :
    (ls.map fun l => unlines [l]).flatten = unlines ls := by
  simp [unlines]

lemma flatten_recordPieces (r : Record) : (recordPieces r).flatten = unlines (snapshotRecord r) := by
  rw [recordPieces, List.cons_append, List.flatten_cons, List.flatten_append, flatten_map_unlines,
    List.flatten_cons, List.flatten_nil, List.append_nil, ← unlines_append, ← unlines_append]
  rfl

lemma flatten_idempotencyPieces (r : IdempotencyRecord) :
    (idempotencyPieces r).flatten = unlines (saveIdempotencyRecord r) := by
  have hresponse : ((lines r.response.bytes).map fun l => unlines [fieldLine "response_line" l]) =
      (((lines r.response.bytes).map (fieldLine "response_line")).map fun l => unlines [l]) := by
    rw [List.map_map]
    rfl
  rw [idempotencyPieces, List.cons_append, List.flatten_cons, List.flatten_append, hresponse,
    flatten_map_unlines, List.flatten_cons, List.flatten_nil, List.append_nil, ← unlines_append,
    ← unlines_append]
  rfl

/-- Pieces that flatten to lines, one value after the other. -/
lemma flatten_flatMap_pieces {α : Type*} {pieces : α → List Bytes} {save : α → List Bytes}
    (h : ∀ a, (pieces a).flatten = unlines (save a)) (l : List α) :
    (l.flatMap pieces).flatten = unlines (l.flatMap save) := by
  induction l with
  | nil => rfl
  | cons a l ih =>
      rw [List.flatMap_cons, List.flatten_append, h, ih, List.flatMap_cons, unlines_append]

/-- An export that fits is the text of its header and its frames. -/
lemma exportSnapshot_response {svc : Service} (h : (exportSnapshot svc).status = WireStatus.ok) :
    (exportSnapshot svc).response = unlines (storeHeader svc ++
      frameLines snapshotRecord svc.records.entries svc.idempotency.entries svc.exportedAudit) := by
  have hfull : (fillBuffer maxPayloadLen [] (snapshotPieces svc)).2 = true := by
    cases hf : (fillBuffer maxPayloadLen [] (snapshotPieces svc)).2 with
    | true => rfl
    | false =>
        simp only [exportSnapshot, Reply.pieces, hf] at h
        exact absurd h (by decide)
  have haudit : (svc.exportedAudit.map fun e => unlines (saveAuditEvent e)).flatten =
      unlines (svc.exportedAudit.flatMap saveAuditEvent) := by
    induction svc.exportedAudit with
    | nil => rfl
    | cons e es ih =>
        rw [List.map_cons, List.flatten_cons, ih, List.flatMap_cons, unlines_append]
  show (fillBuffer maxPayloadLen [] (snapshotPieces svc)).1 = _
  rw [fillBuffer_complete hfull, List.nil_append, snapshotPieces, List.flatten_append,
    List.cons_append, List.flatten_cons, List.flatten_append,
    flatten_flatMap_pieces flatten_recordPieces, flatten_flatMap_pieces flatten_idempotencyPieces,
    haudit, frameLines, unlines_append, unlines_append, unlines_append]
  simp only [List.append_assoc]

/-! ## Importing a snapshot -/

/-- A blank line changes nothing, so the importer may as well skip it. -/
lemma foldlM_importVersionedLine_nonBlank (ls : List Bytes)
    (s : (Service × OpenFrame) × Bool) :
    (ls.filter (· ≠ [])).foldlM importVersionedLine s = ls.foldlM importVersionedLine s := by
  have hblank : ∀ s, importVersionedLine s [] = some s := by
    intro s
    rw [importVersionedLine_other rfl]
    rfl
  induction ls generalizing s with
  | nil => rfl
  | cons l ls ih =>
      by_cases hl : l = []
      · subst hl
        rw [List.filter_cons_of_neg (by simp), List.foldlM_cons, hblank]
        exact ih s
      · rw [List.filter_cons_of_pos (by simpa using hl), List.foldlM_cons, List.foldlM_cons]
        cases importVersionedLine s l with
        | none => rfl
        | some s' => exact ih s'

/-- Lines that fit the buffer are imported like lines of a file. -/
lemma foldlM_importSnapshotLine {ls : List Bytes} (h : ∀ l ∈ ls, FitsLine l)
    (s : (Service × OpenFrame) × Bool) :
    ls.foldlM importSnapshotLine s = (readBack ls).foldlM importVersionedLine s := by
  rw [readBack, foldlM_importVersionedLine_nonBlank]
  induction ls generalizing s with
  | nil => rfl
  | cons l ls ih =>
      have hl : ¬ l.length ≥ 512 := by
        have : l.length ≤ 511 := (h l (by simp)).2
        omega
      rw [List.map_cons, List.foldlM_cons, List.foldlM_cons, importSnapshotLine, if_neg hl]
      cases importVersionedLine s (trimLine l) with
      | none => rfl
      | some s' => exact ih (fun m hm => h m (by simp [hm])) s'

/-- Importing an exported snapshot imports the normal forms of the exported values. -/
lemma importSnapshotText_exportSnapshot {svc : Service} (hw : svc.WellFormed)
    (hok : (exportSnapshot svc).status = WireStatus.ok) (base : Service) :
    importSnapshotText base (exportSnapshot svc).response =
      importFrames base (svc.records.entries.map Record.snapshotted)
        (svc.idempotency.entries.map IdempotencyRecord.stored)
        (svc.exportedAudit.map AuditEvent.stored) := by
  have hfits : ∀ l ∈ (storeHeader svc).tail ++ frameLines snapshotRecord svc.records.entries
      svc.idempotency.entries svc.exportedAudit, FitsLine l := by
    intro l hl
    rcases List.mem_append.mp hl with h | h
    · exact fitsLine_storeHeader hw.recordCount_lt (List.mem_of_mem_tail h)
    · rcases mem_frameLines.mp h with ⟨r, -, h⟩ | ⟨r, hr, h⟩ | ⟨e, -, h⟩
      · exact fitsLine_snapshotRecord h
      · exact fitsLine_saveIdempotencyRecord (hw.responseLines r hr) h
      · exact fitsLine_saveAuditEvent h
  have hcons : storeHeader svc ++ frameLines snapshotRecord svc.records.entries
      svc.idempotency.entries svc.exportedAudit = storeMagic :: ((storeHeader svc).tail ++
        frameLines snapshotRecord svc.records.entries svc.idempotency.entries
          svc.exportedAudit) := rfl
  have hlines : lines (exportSnapshot svc).response = storeMagic :: ((storeHeader svc).tail ++
      frameLines snapshotRecord svc.records.entries svc.idempotency.entries
        svc.exportedAudit) := by
    rw [exportSnapshot_response hok, hcons, ← List.append_nil (unlines _), lines_unlines,
      lines_nil, List.append_nil]
    intro l hl
    rcases List.mem_cons.mp hl with rfl | hl
    · decide
    · exact (hfits l hl).1.lf
  have hmagic : storeMagic.length < 512 ∧ trimLine storeMagic = storeMagic := by decide
  rw [importSnapshotText, hlines]
  simp only
  rw [if_pos hmagic, foldlM_importSnapshotLine hfits,
    foldlM_frameLines svc base hw.recordCount_lt Record.snapshotted
      importStoreLines_snapshotRecord (fun r l hl => notSchema_snapshotRecord hl) _
      hw.responseLines]
  cases importFrames base (svc.records.entries.map Record.snapshotted)
    (svc.idempotency.entries.map IdempotencyRecord.stored)
    (svc.exportedAudit.map AuditEvent.stored) <;> rfl

/-! ## Whole services -/

/-- Two services hold the same: the same record and the same idempotency record under every key, the
same audit events and the same next sequence number. -/
structure SameTables (svc svc' : Service) : Prop where
  records : ∀ k, svc'.findRecord k = svc.findRecord k
  idempotency : ∀ k, svc'.findIdempotencyRecord k = svc.findIdempotencyRecord k
  audit : ∀ e, e ∈ svc'.audit.entries ↔ e ∈ svc.audit.entries
  nextSequence : svc'.auditNextSequence = svc.auditNextSequence

/-- What an import of frames can have put into an empty service. -/
structure ImportedFrom (rs : List Record) (is : List IdempotencyRecord) (es : List AuditEvent)
    (svc : Service) : Prop where
  recordKeys : svc.records.UniqueKeys Record.keyBytes
  records : ∀ r ∈ svc.records.entries, r ∈ rs
  idempotencyKeys : svc.idempotency.UniqueKeys IdempotencyRecord.keyBytes
  idempotency : ∀ r ∈ svc.idempotency.entries, r ∈ is
  audit : ∀ e ∈ svc.audit.entries, e ∈ es
  nextSequence : svc.auditNextSequence = 1 ∨ ∃ e ∈ es, svc.auditNextSequence = e.sequence + 1

namespace ImportedFrom

variable {rs : List Record} {is : List IdempotencyRecord} {es : List AuditEvent}
  {svc svc' : Service}

lemma storeImportRecord (h : ImportedFrom rs is es svc) {r : Record} (hr : r ∈ rs)
    (himp : svc.storeImportRecord r = some svc') : ImportedFrom rs is es svc' := by
  unfold Service.storeImportRecord at himp
  split at himp
  · cases himp
  · obtain ⟨t, ht, rfl⟩ := Service.putRecord_eq_some himp
    refine { h with recordKeys := h.recordKeys.upsert ht, records := fun q hq => ?_ }
    rcases (SlotTable.mem_entries_upsert h.recordKeys ht).mp hq with rfl | ⟨hq, -⟩
    · exact hr
    · exact h.records q hq

lemma storeImportIdempotency (h : ImportedFrom rs is es svc) {r : IdempotencyRecord} (hr : r ∈ is)
    (himp : svc.storeImportIdempotency r = some svc') : ImportedFrom rs is es svc' := by
  unfold Service.storeImportIdempotency at himp
  split at himp
  · cases himp
  · obtain ⟨t, ht, rfl⟩ := Option.map_eq_some_iff.mp himp
    refine { h with
      idempotencyKeys := h.idempotencyKeys.upsert ht
      idempotency := fun q hq => ?_ }
    rcases (SlotTable.mem_entries_upsert h.idempotencyKeys ht).mp hq with rfl | ⟨hq, -⟩
    · exact hr
    · exact h.idempotency q hq

lemma storeImportAudit (h : ImportedFrom rs is es svc) {e : AuditEvent} (he : e ∈ es)
    (himp : svc.storeImportAudit e = some svc') : ImportedFrom rs is es svc' := by
  unfold Service.storeImportAudit at himp
  split at himp
  · cases himp
  · obtain rfl := Option.some.inj himp
    refine { h with audit := fun q hq => ?_, nextSequence := ?_ }
    · obtain ⟨i, hi⟩ := SlotTable.mem_entries.mp hq
      rw [SlotTable.get_put (Service.auditSlot_lt e.sequence)] at hi
      split at hi
      · cases hi
        exact he
      · exact h.audit q (SlotTable.mem_entries_of_get hi)
    · simp only
      split
      · exact .inr ⟨e, he, rfl⟩
      · exact h.nextSequence

/-- Nothing but the imported values gets into the tables. -/
lemma importFrames (himp : MemService.importFrames Service.fresh rs is es = some svc) :
    ImportedFrom rs is es svc := by
  obtain ⟨svc₁, h₁, himp⟩ := Option.bind_eq_some_iff.mp himp
  obtain ⟨svc₂, h₂, h₃⟩ := Option.bind_eq_some_iff.mp himp
  have h0 : ImportedFrom rs is es Service.fresh :=
    ⟨SlotTable.uniqueKeys_empty _, by simp [Service.fresh], SlotTable.uniqueKeys_empty _,
      by simp [Service.fresh], by simp [Service.fresh], .inl rfl⟩
  have hrecords := SlotTable.foldlM_induction h₁ h0
    fun _ _ r hr ha hb => ha.storeImportRecord hr hb
  have hidempotency := SlotTable.foldlM_induction h₂ hrecords
    fun _ _ r hr ha hb => ha.storeImportIdempotency hr hb
  exact SlotTable.foldlM_induction h₃ hidempotency
    fun _ _ e he ha hb => ha.storeImportAudit he hb

end ImportedFrom

/-- What a snapshot must not meet to be whole: a text that ends in a carriage return, a hidden member,
a backend reference, an audit event outside the window that the event count spans. -/
structure Service.SnapshotWhole (svc : Service) : Prop where
  records : ∀ r ∈ svc.records.entries, r.TextClean ∧ r.objectBackend = {}
  idempotency : ∀ r ∈ svc.idempotency.entries, r.Storable
  audit : ∀ e ∈ svc.audit.entries, e.Storable
  counted : svc.auditEventCount = 0 → svc.audit.entries = []
  covers : svc.Covers svc.auditFirstSequence.toNat

lemma FieldText.trim_trim {cap : ℕ} (t : FieldText cap) : t.trim.trim = t.trim :=
  FieldText.trim_eq_self_iff.mpr (noTrailingCR_trimLine t.bytes)

lemma Record.snapshotted_snapshotted (r : Record) : r.snapshotted.snapshotted = r.snapshotted := by
  simp only [Record.snapshotted, FieldText.trim_trim]
  congr 1
  funext i
  split
  · exact FieldText.trim_trim _
  · rfl

lemma AuditEvent.stored_stored (e : AuditEvent) : e.stored.stored = e.stored := by
  simp only [AuditEvent.stored, FieldText.trim_trim]

lemma mem_exportedAudit {svc : Service} (hw : svc.WellFormed) {e : AuditEvent}
    (h : e ∈ svc.exportedAudit) : svc.auditEventCount ≠ 0 ∧ e ∈ svc.audit.entries ∧
      svc.auditFirstSequence.toNat ≤ e.sequence.toNat ∧ e.sequence < svc.auditNextSequence := by
  unfold Service.exportedAudit at h
  split at h
  · rename_i hpos
    refine ⟨fun hz => ?_, hw.mem_auditWindow.mp h⟩
    rw [hz] at hpos
    exact absurd hpos (by decide)
  · cases h

lemma Service.SnapshotWhole.exportedAudit {svc : Service} (hw : svc.WellFormed)
    (h : svc.SnapshotWhole) :
    svc.exportedAudit = svc.auditWindow svc.auditFirstSequence.toNat := by
  unfold Service.exportedAudit
  split
  · rfl
  · rename_i hz
    have hcount : svc.auditEventCount = 0 := by
      rw [gt_iff_lt, UInt64.not_lt, UInt64.le_zero_iff] at hz
      exact hz
    symm
    rw [List.eq_nil_iff_forall_not_mem]
    intro e he
    have := (hw.mem_auditWindow.mp he).1
    rw [h.counted hcount] at this
    cases this

/-- Two tables with the same audit slots hold the same events. -/
lemma mem_entries_congr {t u : SlotTable AuditEvent maxAuditEvents}
    (h : ∀ i, t.get i = u.get i) (e : AuditEvent) : e ∈ t.entries ↔ e ∈ u.entries := by
  simp only [SlotTable.mem_entries, h]

/-- A whole snapshot, imported into a fresh service, gives the same tables. -/
lemma Service.SnapshotWhole.import {svc : Service} (hw : svc.WellFormed) (h : svc.SnapshotWhole) :
    ∃ restored, importFrames Service.fresh (svc.records.entries.map Record.snapshotted)
        (svc.idempotency.entries.map IdempotencyRecord.stored)
        (svc.exportedAudit.map AuditEvent.stored) = some restored ∧ SameTables svc restored := by
  obtain ⟨ring, c, hframes, hget⟩ := Service.importFrames_tables hw h.covers
  rw [Service.map_eq_self fun r hr => Record.snapshotted_eq_self_iff.mpr (h.records r hr),
    Service.map_eq_self fun r hr =>
      (IdempotencyRecord.stored_eq_self_iff (hw.responseLines r hr)).mpr (h.idempotency r hr),
    Service.map_eq_self fun e he => AuditEvent.stored_eq_self_iff.mpr
      (h.audit e (mem_exportedAudit hw he).2.1), h.exportedAudit hw]
  exact ⟨_, hframes, SlotTable.lookup_pack Record.keyBytes svc.records,
    SlotTable.lookup_pack IdempotencyRecord.keyBytes svc.idempotency, mem_entries_congr hget, rfl⟩

/-- An import that gives the same tables came from a whole snapshot. -/
lemma Service.snapshotWhole_of_import {svc restored : Service} (hw : svc.WellFormed)
    (himp : importFrames Service.fresh (svc.records.entries.map Record.snapshotted)
        (svc.idempotency.entries.map IdempotencyRecord.stored)
        (svc.exportedAudit.map AuditEvent.stored) = some restored)
    (hsame : SameTables svc restored) : svc.SnapshotWhole := by
  have hfrom := ImportedFrom.importFrames himp
  -- every live event was exported
  have haudit : ∀ e ∈ svc.audit.entries, ∃ q ∈ svc.exportedAudit, q.stored = e := by
    intro e he
    exact List.mem_map.mp (hfrom.audit e ((hsame.audit e).mpr he))
  have hwindow : ∀ e ∈ svc.audit.entries, svc.auditEventCount ≠ 0 ∧
      svc.auditFirstSequence.toNat ≤ e.sequence.toNat ∧ e.sequence < svc.auditNextSequence := by
    intro e he
    obtain ⟨q, hq, rfl⟩ := haudit e he
    obtain ⟨hcount, -, hlo, hhi⟩ := mem_exportedAudit hw hq
    exact ⟨hcount, hlo, hhi⟩
  refine ⟨?_, ?_, ?_, ?_, ?_, ?_, ?_⟩
  · intro r hr
    have hfound := (hw.recordKeys.lookup_eq_some_iff).mpr ⟨hr, rfl⟩
    have hrestored := hsame.records r.keyBytes
    rw [show svc.findRecord r.keyBytes = some r from hfound] at hrestored
    obtain ⟨q, -, rfl⟩ := List.mem_map.mp (hfrom.records r (SlotTable.lookup_mem hrestored))
    exact Record.snapshotted_eq_self_iff.mp q.snapshotted_snapshotted
  · intro r hr
    have hfound := (hw.idempotencyKeys.lookup_eq_some_iff).mpr ⟨hr, rfl⟩
    have hrestored := hsame.idempotency r.keyBytes
    rw [show svc.findIdempotencyRecord r.keyBytes = some r from hfound] at hrestored
    obtain ⟨q, hq, hqr⟩ :=
      List.mem_map.mp (hfrom.idempotency r (SlotTable.lookup_mem hrestored))
    refine ⟨hqr ▸ noTrailingCR_trimLine q.key.bytes, fun l hl => ?_⟩
    rw [← hqr, IdempotencyRecord.bytes_stored_response (hw.responseLines q hq),
      ← List.append_nil (unlines _), lines_unlines, lines_nil, List.append_nil] at hl
    · obtain ⟨m, -, rfl⟩ := List.mem_map.mp hl
      exact noTrailingCR_trimLine m
    · intro m hm hlf
      obtain ⟨m', hm', rfl⟩ := List.mem_map.mp hm
      exact lf_notMem_of_mem_lines hm' (trimLine_subset _ hlf)
  · intro e he
    obtain ⟨q, -, rfl⟩ := haudit e he
    exact AuditEvent.stored_eq_self_iff.mp q.stored_stored
  · intro hcount
    rw [List.eq_nil_iff_forall_not_mem]
    exact fun e he => (hwindow e he).1 hcount
  · exact fun e he => (hwindow e he).2.1
  · exact fun e he => (hwindow e he).2.2
  · have hnext := hfrom.nextSequence
    rw [hsame.nextSequence] at hnext
    rcases hnext with hone | ⟨e, he, hlast⟩
    · exact .inl hone
    · obtain ⟨q, hq, rfl⟩ := List.mem_map.mp he
      exact .inr ⟨q, (mem_exportedAudit hw hq).2.1, hlast.symm⟩

/-- **Snapshots.**  A snapshot that was exported from a reachable state and fits the response buffer
restores the same tables, into whichever live service, exactly if no text ends in a carriage return,
no member is hidden, no record has a backend reference, and the audit window covers the ring. -/
theorem restoreSnapshot_exportSnapshot_iff {cfg cfg' : Config} {d target : Daemon}
    (h : Daemon.Reachable cfg d) (ht : Daemon.Reachable cfg' target)
    (hok : (exportSnapshot d.state.svc).status = WireStatus.ok) {p : Payload}
    (hp : p.bytes = (exportSnapshot d.state.svc).response) :
    ((restoreSnapshot target.state.svc p).2.status = WireStatus.ok ∧
      SameTables d.state.svc (restoreSnapshot target.state.svc p).1) ↔
    d.state.svc.SnapshotWhole := by
  obtain ⟨hw, -⟩ := h.wellFormed
  have hready := ht.wellFormed.1.ready
  have hinit : target.state.svc.initLike = some Service.fresh := by
    rw [Service.initLike, hready.1, hready.2.1, hready.2.2]
    rfl
  have hne : p.bytes ≠ [] := by
    rw [hp, exportSnapshot_response hok]
    exact fun hnil => absurd (unlines_eq_nil_iff.mp hnil) (by simp [storeHeader])
  have himport := importSnapshotText_exportSnapshot hw hok
  rw [← hp] at himport
  cases himp : importFrames Service.fresh (d.state.svc.records.entries.map Record.snapshotted)
      (d.state.svc.idempotency.entries.map IdempotencyRecord.stored)
      (d.state.svc.exportedAudit.map AuditEvent.stored) with
  | none =>
      have hrestore : restoreSnapshot target.state.svc p =
          (target.state.svc, .fail WireStatus.invalidSession) := by
        simp only [restoreSnapshot, hne, if_false, hinit, Option.bind_some, himport, himp]
      rw [hrestore]
      constructor
      · rintro ⟨hstatus, -⟩
        have hbad : WireStatus.invalidSession = WireStatus.ok := hstatus
        exact absurd hbad (by decide)
      · intro hwhole
        obtain ⟨restored, hsome, -⟩ := hwhole.import hw
        rw [himp] at hsome
        cases hsome
  | some restored =>
      have hrestore : restoreSnapshot target.state.svc p = (target.state.svc.install restored,
          restoredReply (target.state.svc.install restored)) := by
        simp only [restoreSnapshot, hne, if_false, hinit, Option.bind_some, himport, himp]
      rw [hrestore]
      constructor
      · rintro ⟨-, hsame⟩
        exact Service.snapshotWhole_of_import hw himp
          ⟨hsame.records, hsame.idempotency, hsame.audit, hsame.nextSequence⟩
      · intro hwhole
        obtain ⟨restored', hsome, hsame⟩ := hwhole.import hw
        rw [himp] at hsome
        cases hsome
        exact ⟨rfl, hsame.records, hsame.idempotency, hsame.audit, hsame.nextSequence⟩

/-- A put of a plain object, under an idempotency key. -/
def Payload.plainPut : Payload :=
  ⟨unlines [ascii "key=a", ascii "idempotency_key=i"], by decide, by decide⟩

/-- The daemon after one put of a plain object. -/
def Daemon.plainObject : Daemon := Daemon.after .putObject Payload.plainPut

/-- The snapshot of a plain object. -/
def Payload.plainSnapshot : Payload :=
  ⟨(exportSnapshot Daemon.plainObject.state.svc).response, by decide +kernel, by decide +kernel⟩

/-- A plain object with its answer and its audit event survives a snapshot. -/
theorem restoreSnapshot_plain_object :
    (exportSnapshot Daemon.plainObject.state.svc).status = WireStatus.ok ∧
    (restoreSnapshot Daemon.fresh.state.svc Payload.plainSnapshot).2.status = WireStatus.ok ∧
    SameTables Daemon.plainObject.state.svc
      (restoreSnapshot Daemon.fresh.state.svc Payload.plainSnapshot).1 := by
  have hok : (exportSnapshot Daemon.plainObject.state.svc).status = WireStatus.ok := by
    decide +kernel
  have hreach : Daemon.Reachable Config.durable Daemon.plainObject :=
    Daemon.reachable_after .putObject Payload.plainPut
  have hbytes : Payload.plainSnapshot.bytes =
      (exportSnapshot Daemon.plainObject.state.svc).response := by
    rw [Payload.plainSnapshot]
  have hrecords : ∀ r ∈ Daemon.plainObject.state.svc.records.entries, r.snapshotted = r := by
    decide +kernel
  have hidempotency : ∀ r ∈ Daemon.plainObject.state.svc.idempotency.entries, r.stored = r := by
    decide +kernel
  have haudit : ∀ e ∈ Daemon.plainObject.state.svc.audit.entries, e.stored = e := by
    decide +kernel
  refine ⟨hok, (restoreSnapshot_exportSnapshot_iff hreach
    (Daemon.reachable_fresh Config.durable) hok hbytes).mpr ?_⟩
  exact ⟨fun r hr => Record.snapshotted_eq_self_iff.mp (hrecords r hr),
    fun r hr => (IdempotencyRecord.stored_eq_self_iff
      (hreach.wellFormed.1.responseLines r hr)).mp (hidempotency r hr),
    fun e he => AuditEvent.stored_eq_self_iff.mp (haudit e he), by decide +kernel,
    by decide +kernel, by decide +kernel, by decide +kernel⟩

/-- A put of an object that is kept on the SSD. -/
def Payload.ssdPut : Payload :=
  ⟨ascii ("key=a\nbackend=ub-ssd-gsva-v1\nbackend_block_hi=1\nbackend_block_lo=1\n" ++
    "backend_block_bytes=8\nbackend_block_checksum=5"), by decide +kernel, by decide +kernel⟩

/-- The daemon after one put of an object that is kept on the SSD. -/
def Daemon.ssdObject : Daemon := Daemon.after .putObject Payload.ssdPut

/-- The snapshot of an object that is kept on the SSD. -/
def Payload.ssdSnapshot : Payload :=
  ⟨(exportSnapshot Daemon.ssdObject.state.svc).response, by decide +kernel, by decide +kernel⟩

/-- A snapshot loses the reference to the block on the SSD. -/
theorem restoreSnapshot_loses_backend :
    Daemon.Reachable Config.durable Daemon.ssdObject ∧
    (exportSnapshot Daemon.ssdObject.state.svc).status = WireStatus.ok ∧
    ¬ ((restoreSnapshot Daemon.fresh.state.svc Payload.ssdSnapshot).2.status = WireStatus.ok ∧
      SameTables Daemon.ssdObject.state.svc
        (restoreSnapshot Daemon.fresh.state.svc Payload.ssdSnapshot).1) := by
  refine ⟨Daemon.reachable_after .putObject Payload.ssdPut, by decide +kernel,
    fun hsame => ?_⟩
  have hlost : (restoreSnapshot Daemon.fresh.state.svc Payload.ssdSnapshot).1.findRecord
      (ascii "a") ≠ Daemon.ssdObject.state.svc.findRecord (ascii "a") := by
    decide +kernel
  exact hlost (hsame.2.records _)

end MemService
