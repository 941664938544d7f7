import MemService.Daemon

/-!
# The invariant of the tables

`Service.WellFormed` holds of every state a daemon can reach: distinct non-empty keys, a correct
count, audit events in the slots of their numbers, responses made of lines.  The argument goes table
by table: what one write to a table preserves, then what an import, a handler, a retention pass and
a whole request make of it.

The import needs a second invariant, since a frame is read field by field: the response collected in
an open idempotency frame is made of lines that fit.
-/

open ByteText CNumeral

namespace MemService

/-! ## Responses made of lines -/

lemma responseLines_unlines {ls : List Bytes} (h : ∀ l ∈ ls, LF ∉ l ∧ l.length ≤ 497) :
    ResponseLines (unlines ls) := by
  refine ⟨?_, fun l hl => ?_⟩
  · rcases List.eq_nil_or_concat ls with rfl | ⟨init, l, rfl⟩
    · exact .inl rfl
    · right
      rw [List.concat_eq_append, unlines_append, unlines_cons, unlines_nil,
        List.getLast?_append_of_ne_nil _ (by simp)]
      exact List.getLast?_concat
  · have hlines := lines_unlines (fun l hl => (h l hl).1) []
    simp only [List.append_nil, lines_nil] at hlines
    rw [hlines] at hl
    exact (h l hl).2

lemma ResponseLines.eq_unlines {s : Bytes} (h : ResponseLines s) : unlines (lines s) = s := by
  have := unlines_lines s
  rcases h.ended with rfl | hlast
  · rfl
  · simpa [hlast] using this

lemma ResponseLines.concat {s l : Bytes} (h : ResponseLines s) (hl : LF ∉ l)
    (hlen : l.length ≤ 497) : ResponseLines (s ++ l ++ [LF]) := by
  have heq : s ++ l ++ [LF] = unlines (lines s ++ [l]) := by
    rw [unlines_append, h.eq_unlines, unlines_cons, unlines_nil, List.append_assoc]
  rw [heq]
  refine responseLines_unlines fun m hm => ?_
  rcases List.mem_append.mp hm with hm | hm
  · exact ⟨lf_notMem_of_mem_lines hm, h.fits m hm⟩
  · obtain rfl := List.mem_singleton.mp hm
    exact ⟨hl, hlen⟩

/-! ## Writes to one table -/

namespace Service

variable {svc svc' : Service}

/-- A record the tables may hold. -/
def ValidRecord (r : Record) : Prop := r.key.bytes ≠ [] ∧ r.kind ≠ RecordKind.none

lemma WellFormed.putRecord (h : svc.WellFormed) {r : Record} (hr : ValidRecord r)
    (hput : svc.putRecord r = some svc') : svc'.WellFormed := by
  obtain ⟨t, ht, rfl⟩ := putRecord_eq_some hput
  refine { h with recordKeys := ?_, recordValid := ?_, recordCount := ?_ }
  · exact h.recordKeys.upsert ht
  · intro q hq
    rcases (SlotTable.mem_entries_upsert h.recordKeys ht).mp hq with rfl | ⟨hq, -⟩
    · exact hr
    · exact h.recordValid q hq
  · show svc.recordCount + _ = t.count
    rw [SlotTable.count_upsert ht, h.recordCount]
    rfl

lemma WellFormed.putAll (h : svc.WellFormed) {rs : List Record} (hrs : ∀ r ∈ rs, ValidRecord r)
    (hput : svc.putAll rs = some svc') : svc'.WellFormed :=
  putAll_induction hput h fun _ _ r hr ha hb => ha.putRecord (hrs r hr) hb

/-- An idempotency record the tables may hold. -/
structure ValidIdempotency (r : IdempotencyRecord) : Prop where
  key : r.key.bytes ≠ []
  operation : r.operation ≠ 0
  response : ResponseLines r.response.bytes

lemma WellFormed.withIdempotency (h : svc.WellFormed)
    {t : SlotTable IdempotencyRecord maxIdempotencyRecords}
    (hkeys : t.UniqueKeys IdempotencyRecord.keyBytes)
    (hvalid : ∀ r ∈ t.entries, ValidIdempotency r) :
    ({ svc with idempotency := t } : Service).WellFormed :=
  { h with
    idempotencyKeys := hkeys
    idempotencyValid := fun r hr => ⟨(hvalid r hr).key, (hvalid r hr).operation⟩
    responseLines := fun r hr => (hvalid r hr).response }

lemma WellFormed.validIdempotency (h : svc.WellFormed) {r : IdempotencyRecord}
    (hr : r ∈ svc.idempotency.entries) : ValidIdempotency r :=
  ⟨(h.idempotencyValid r hr).1, (h.idempotencyValid r hr).2, h.responseLines r hr⟩

lemma WellFormed.storeImportIdempotency (h : svc.WellFormed) {r : IdempotencyRecord}
    (hr : ResponseLines r.response.bytes) (himp : svc.storeImportIdempotency r = some svc') :
    svc'.WellFormed := by
  unfold Service.storeImportIdempotency at himp
  split at himp
  · cases himp
  · rename_i hvalid
    rw [not_or] at hvalid
    obtain ⟨t, ht, rfl⟩ := Option.map_eq_some_iff.mp himp
    refine h.withIdempotency (h.idempotencyKeys.upsert ht) fun q hq => ?_
    rcases (SlotTable.mem_entries_upsert h.idempotencyKeys ht).mp hq with rfl | ⟨hq, -⟩
    · exact ⟨hvalid.1, hvalid.2, hr⟩
    · exact h.validIdempotency hq

/-- A ring the tables may hold. -/
structure ValidAudit (t : SlotTable AuditEvent maxAuditEvents) : Prop where
  slots : ∀ i e, t.get i = some e → i = auditSlot e.sequence
  valid : ∀ e ∈ t.entries, e.sequence ≠ 0 ∧ e.operation ≠ 0

lemma WellFormed.validAudit (h : svc.WellFormed) : ValidAudit svc.audit :=
  ⟨h.auditSlots, h.auditValid⟩

lemma WellFormed.withAudit (h : svc.WellFormed) {t : SlotTable AuditEvent maxAuditEvents}
    (ht : ValidAudit t) (next count : UInt64) :
    ({ svc with audit := t, auditNextSequence := next, auditEventCount := count } :
      Service).WellFormed :=
  { h with auditSlots := ht.slots, auditValid := ht.valid }

lemma ValidAudit.put {t : SlotTable AuditEvent maxAuditEvents} (h : ValidAudit t)
    {e : AuditEvent} (hseq : e.sequence ≠ 0) (hop : e.operation ≠ 0) :
    ValidAudit (t.put (auditSlot e.sequence) e) := by
  have hget := SlotTable.get_put (t := t) (auditSlot_lt e.sequence) e
  refine ⟨fun i q hq => ?_, fun q hq => ?_⟩
  · rw [hget] at hq
    split at hq
    · rename_i hi
      cases hq
      exact hi
    · exact h.slots i q hq
  · obtain ⟨i, hi⟩ := SlotTable.mem_entries.mp hq
    rw [hget] at hi
    split at hi
    · cases hi
      exact ⟨hseq, hop⟩
    · exact h.valid q (SlotTable.mem_entries_of_get hi)

lemma ValidAudit.keep {t : SlotTable AuditEvent maxAuditEvents} (h : ValidAudit t)
    (p : AuditEvent → Bool) : ValidAudit (t.keep p) := by
  refine ⟨fun i e he => ?_, fun e he => h.valid e (SlotTable.mem_entries_keep.mp he).1⟩
  rw [SlotTable.get_keep, Option.filter_eq_some_iff] at he
  exact h.slots i e he.1

lemma WellFormed.storeImportAudit (h : svc.WellFormed) {e : AuditEvent}
    (himp : svc.storeImportAudit e = some svc') : svc'.WellFormed := by
  unfold Service.storeImportAudit at himp
  split at himp
  · cases himp
  · rename_i hvalid
    rw [not_or] at hvalid
    obtain rfl := Option.some.inj himp
    exact h.withAudit (h.validAudit.put hvalid.1 hvalid.2) _ _

end Service

/-! ## Imports -/

/-- The response collected in an open frame is made of lines that fit. -/
def OpenFrame.Fits : OpenFrame → Prop
  | .idempotency r => ResponseLines r.response.bytes
  | _ => True

lemma parseLineField_bounds {line n v : Bytes} (h : parseLineField line = some (n, v)) :
    v ⊆ line ∧ (n.length < 95 → n.length + 1 + v.length ≤ line.length) := by
  unfold parseLineField at h
  split at h
  · cases h
  · rename_i n' v' hsplit
    cases h
    have heq := (eq_of_splitEq hsplit).1
    constructor
    · intro b hb
      rw [heq]
      simp [List.take_subset _ _ hb]
    · intro hn
      rw [List.length_take] at hn
      rw [heq, List.length_append, List.length_cons, List.length_take, List.length_take]
      omega
  · cases h

lemma fits_parseStoreIdempotencyField {r r' : IdempotencyRecord} {line n v : Bytes}
    (hline : FitsLine line) (hfield : parseLineField line = some (n, v))
    (h : parseStoreIdempotencyField r n v = some r') (hr : ResponseLines r.response.bytes) :
    ResponseLines r'.response.bytes := by
  obtain ⟨hsub, hlen⟩ := parseLineField_bounds hfield
  unfold parseStoreIdempotencyField at h
  split at h; · cases h; exact hr
  split at h; · cases h; exact hr
  split at h; · cases h; exact hr
  split at h; · cases h; exact hr
  split at h; · cases h; exact hr
  split at h
  · rename_i hn
    unfold appendIdempotencyResponseLine at h
    split at h
    · cases h
    · rename_i hfit
      cases h
      have hplain := hline.1.of_subset hsub
      have hname : n.length = 13 := by rw [hn]; decide
      have hv : v.length ≤ 497 := by
        have := hlen (by omega)
        have : line.length ≤ 511 := hline.2
        omega
      show ResponseLines (ResponseText.copy (r.response.bytes ++ v ++ [LF])).bytes
      rw [ResponseText.bytes_copy]
      · exact hr.concat hplain.lf hv
      · simp only [List.mem_append, List.mem_singleton, not_or]
        exact ⟨⟨r.response.noNul, hplain.nul⟩, by decide⟩
      · simp only [List.length_append, List.length_singleton]
        omega
  · cases h; exact hr

/-- One imported line keeps the invariant. -/
lemma wellFormed_importStoreLine {s s' : Service × OpenFrame} {line : Bytes}
    (hline : FitsLine line) (h : importStoreLine s line = some s') (hs : s.1.WellFormed)
    (ho : s.2.Fits) : s'.1.WellFormed ∧ s'.2.Fits := by
  obtain ⟨svc, o⟩ := s
  unfold importStoreLine at h
  dsimp only at h hs ho
  split at h
  · cases h
    exact ⟨hs, ho⟩
  split at h
  · split at h <;> cases h
    exact ⟨hs, trivial⟩
  split at h
  · split at h
    · obtain ⟨svc', hsvc', rfl⟩ := Option.map_eq_some_iff.mp h
      unfold Service.storeImportRecord at hsvc'
      split at hsvc'
      · cases hsvc'
      · rename_i hvalid
        rw [not_or] at hvalid
        exact ⟨hs.putRecord hvalid hsvc', trivial⟩
    · cases h
  split at h
  · split at h <;> cases h
    exact ⟨hs, .inl rfl, by simp [ResponseText.empty]⟩
  split at h
  · split at h
    · obtain ⟨svc', hsvc', rfl⟩ := Option.map_eq_some_iff.mp h
      exact ⟨hs.storeImportIdempotency ho hsvc', trivial⟩
    · cases h
  split at h
  · split at h <;> cases h
    exact ⟨hs, trivial⟩
  split at h
  · split at h
    · obtain ⟨svc', hsvc', rfl⟩ := Option.map_eq_some_iff.mp h
      exact ⟨hs.storeImportAudit hsvc', trivial⟩
    · cases h
  split at h
  · cases h
  · rename_i n v hfield
    split at h
    · cases h
      exact ⟨hs, trivial⟩
    · obtain ⟨r', hr', rfl⟩ := Option.map_eq_some_iff.mp h
      exact ⟨hs, fits_parseStoreIdempotencyField hline hfield hr' ho⟩
    · cases h
      exact ⟨hs, trivial⟩
    · cases h
      exact ⟨hs, ho⟩

lemma wellFormed_importStoreLines {s s' : Service × OpenFrame} {ls : List Bytes}
    (hls : ∀ l ∈ ls, FitsLine l) (h : importStoreLines s ls = some s') (hs : s.1.WellFormed)
    (ho : s.2.Fits) : s'.1.WellFormed ∧ s'.2.Fits :=
  SlotTable.foldlM_induction (P := fun s : Service × OpenFrame => s.1.WellFormed ∧ s.2.Fits) h
    ⟨hs, ho⟩ fun _ _ l hl ha hb => wellFormed_importStoreLine (hls l hl) hb ha.1 ha.2

lemma wellFormed_importVersionedLine {s s' : (Service × OpenFrame) × Bool} {line : Bytes}
    (hline : FitsLine line) (h : importVersionedLine s line = some s')
    (hs : s.1.1.WellFormed ∧ s.1.2.Fits) : s'.1.1.WellFormed ∧ s'.1.2.Fits := by
  unfold importVersionedLine at h
  split at h
  · cases h
  · cases h
    exact hs
  · obtain ⟨t, ht, rfl⟩ := Option.map_eq_some_iff.mp h
    exact wellFormed_importStoreLine hline ht hs.1 hs.2

lemma eq_of_closedService {s : Service × OpenFrame} {svc : Service}
    (h : closedService s = some svc) : svc = s.1 := by
  unfold closedService at h
  split at h
  · exact (Option.some.inj h).symm
  · cases h

lemma fitsLine_fileLines {text l : Bytes} (h : l ∈ fileLines lineCap text) : FitsLine l :=
  plain_of_mem_fileLines (by decide) h

lemma wellFormed_loadStore {svc : Service} {file : Option Bytes} {r : Service × Bool}
    (h : loadStore svc file = some r) (hs : svc.WellFormed) : r.1.WellFormed := by
  unfold loadStore at h
  split at h
  · cases h
    exact hs
  · split at h
    · cases h
    · rename_i text l ls hfile
      split at h
      · obtain ⟨s, hfold, hclosed⟩ := Option.bind_eq_some_iff.mp h
        obtain ⟨svc', hsvc', rfl⟩ := Option.map_eq_some_iff.mp hclosed
        obtain rfl := eq_of_closedService hsvc'
        refine (SlotTable.foldlM_induction
          (P := fun s : (Service × OpenFrame) × Bool => s.1.1.WellFormed ∧ s.1.2.Fits) hfold
          ⟨hs, trivial⟩ fun a b m hm ha hb => wellFormed_importVersionedLine ?_ hb ha).1
        exact fitsLine_fileLines (by rw [hfile]; simp [List.mem_of_mem_filter hm])
      · cases h

lemma wellFormed_loadJournal {svc svc' : Service} {file : Option Bytes}
    (h : loadJournal svc file = some svc') (hs : svc.WellFormed) : svc'.WellFormed := by
  unfold loadJournal at h
  split at h
  · cases h
    exact hs
  · split at h
    · cases h
    · rename_i text l ls hfile
      split at h
      · obtain ⟨s, hfold, rfl⟩ := Option.map_eq_some_iff.mp h
        refine (wellFormed_importStoreLines (fun m hm => ?_) hfold hs trivial).1
        exact fitsLine_fileLines (by rw [hfile]; simp [List.mem_of_mem_filter hm])
      · cases h

lemma wellFormed_loadDurableStore {disk disk' : Disk} {svc : Service}
    (h : loadDurableStore disk = some (svc, disk')) : svc.WellFormed := by
  obtain ⟨⟨svc₁, legacy⟩, h₁, h⟩ := Option.bind_eq_some_iff.mp h
  obtain ⟨svc₂, h₂, heq⟩ := Option.map_eq_some_iff.mp h
  obtain ⟨rfl, -⟩ := Prod.mk.inj heq
  exact wellFormed_loadJournal h₂ (wellFormed_loadStore h₁ Service.wellFormed_fresh)

lemma wellFormed_importSnapshotLine {s s' : (Service × OpenFrame) × Bool} {l : Bytes}
    (hl : Plain l) (h : importSnapshotLine s l = some s')
    (hs : s.1.1.WellFormed ∧ s.1.2.Fits) : s'.1.1.WellFormed ∧ s'.1.2.Fits := by
  unfold importSnapshotLine at h
  split at h
  · cases h
  · rename_i hlen
    refine wellFormed_importVersionedLine ⟨hl.of_subset (trimLine_subset l), ?_⟩ h hs
    have := (List.rdropWhile_prefix isEol l).length_le
    show (trimLine l).length ≤ 511
    rw [trimLine]
    omega

lemma plain_of_mem_lines {s l : Bytes} (hs : NUL ∉ s) (h : l ∈ lines s) : Plain l :=
  fun _ hb => ⟨fun he => hs (he ▸ subset_of_mem_lines h hb),
    fun he => lf_notMem_of_mem_lines h (he ▸ hb)⟩

lemma wellFormed_importSnapshotText {svc svc' : Service} {text : Bytes} (hnul : NUL ∉ text)
    (h : importSnapshotText svc text = some svc') (hs : svc.WellFormed) : svc'.WellFormed := by
  unfold importSnapshotText at h
  split at h
  · cases h
  · rename_i l ls hlines
    split at h
    · obtain ⟨s, hfold, hclosed⟩ := Option.bind_eq_some_iff.mp h
      obtain rfl := eq_of_closedService hclosed
      refine (SlotTable.foldlM_induction
        (P := fun s : (Service × OpenFrame) × Bool => s.1.1.WellFormed ∧ s.1.2.Fits) hfold
        ⟨hs, trivial⟩ fun a b m hm ha hb => wellFormed_importSnapshotLine ?_ hb ha).1
      exact plain_of_mem_lines hnul (by rw [hlines]; simp [hm])
    · cases h

lemma wellFormed_importSnapshotRecordsText {svc : Service} {text : Bytes} {r : Service × ℕ}
    (hnul : NUL ∉ text) (h : importSnapshotRecordsText svc text = some r)
    (hs : svc.WellFormed) : r.1.WellFormed := by
  unfold importSnapshotRecordsText at h
  split at h
  · cases h
  · obtain ⟨s, hfold, hclosed⟩ := Option.bind_eq_some_iff.mp h
    obtain ⟨svc', hsvc', rfl⟩ := Option.map_eq_some_iff.mp hclosed
    obtain rfl := eq_of_closedService hsvc'
    refine (SlotTable.foldlM_induction
      (P := fun s : ((Service × OpenFrame) × Bool) × ℕ => s.1.1.1.WellFormed ∧ s.1.1.2.Fits) hfold
      ⟨hs, trivial⟩ fun a b m hm ha hb => ?_).1
    obtain ⟨t, ht, rfl⟩ := Option.map_eq_some_iff.mp hb
    exact wellFormed_importSnapshotLine (plain_of_mem_lines hnul hm) ht ha

end MemService
