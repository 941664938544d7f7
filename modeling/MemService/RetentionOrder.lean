import MemService.Lib.Eviction
import MemService.Retention

/-!
# Retention keeps the newest

The two count passes are evictions in the order of version, then publish time: each turn takes out a
least record of those the pass is about, and they stop when few enough are left.  So what goes is
never newer than what stays.  The record pass counts by `record_count` when its policy names neither
a kind nor a tenant, which is the same number as long as the counter is right, and every deletion
keeps it right.

The age pass looks at each record once, and what it does to one does not depend on the others.

What the passes leave is also said without their turns, as filters of the list of records
(`leftByCheckpoints`, `leftByRecords`).
-/

open Eviction

namespace MemService

namespace Service

/-! ## The order of eviction -/

/-- What records are ordered by: the version, then the publish time. -/
def retentionKey (r : Record) : ℕ ×ₗ ℕ :=
  toLex (r.version.toNat, r.objectPublishMonotonicMs.toNat)

lemma olderThan_iff (r old : Record) :
    olderThan r old = true ↔ retentionKey r < retentionKey old := by
  simp only [olderThan, retentionKey, Prod.Lex.lt_iff, Bool.or_eq_true, Bool.and_eq_true,
    decide_eq_true_eq, beq_iff_eq, UInt64.lt_iff_toNat_lt, ← UInt64.toNat_inj, ofLex_toLex]

lemma keepOldest_eq (select : Record → Bool) :
    keepOldest select = keepLeast (fun s => select s.2) fun s => retentionKey s.2 := by
  funext best s
  unfold keepOldest keepLeast
  cases best with
  | none => rfl
  | some b => simp only [olderThan_iff]

lemma findOldest_eq (svc : Service) (select : Record → Bool) :
    svc.findOldest select = least? select retentionKey svc.records := by
  rw [findOldest, keepOldest_eq, least?]

/-! ## The count passes -/

/-- The counter of the record table is right. -/
def CountsRecords (svc : Service) : Prop := svc.recordCount = svc.records.count

lemma recordCount_deleteRecord (svc : Service) (i : ℕ) (r : Record) :
    (svc.deleteRecord i r).recordCount = svc.recordCount - 1 := by
  unfold deleteRecord pruneIdempotency
  split <;> rfl

lemma CountsRecords.deleteRecord {svc : Service} (h : svc.CountsRecords) {i : ℕ} {r : Record}
    (hr : svc.records.get i = some r) : (svc.deleteRecord i r).CountsRecords := by
  have hcount := SlotTable.count_clear_of_used hr
  unfold CountsRecords at h ⊢
  rw [recordCount_deleteRecord, records_deleteRecord]
  omega

lemma CountsRecords.pruned {svc svc' : Service} (h : svc.CountsRecords) (hp : Pruned svc svc') :
    svc'.CountsRecords := by
  induction hp with
  | refl => exact h
  | delete _ hget ih => exact ih.deleteRecord hget

/-- A way of counting that a count pass can rest on: right while `Good` holds, which deletions do not
change. -/
structure CountsSelected (select : Record → Bool) (count : Service → ℕ) (Good : Service → Prop) :
    Prop where
  count_eq : ∀ svc, Good svc → count svc = svc.records.entries.countP select
  delete : ∀ svc i r, Good svc → svc.records.get i = some r → Good (svc.deleteRecord i r)

section CountPass

variable {select : Record → Bool} {count : Service → ℕ} {limit turns : ℕ} {Good : Service → Prop}

/-- A count pass is an eviction, and ends with few enough. -/
lemma evicts_pruneOldest (hcount : CountsSelected select count Good) {svc : Service} (h : Good svc)
    (hturns : svc.records.entries.countP select ≤ turns + limit) :
    (∃ n, Evicts select retentionKey n svc.records
      (pruneOldest select count limit turns svc).1.records) ∧
    (pruneOldest select count limit turns svc).1.records.entries.countP select =
      min limit (svc.records.entries.countP select) := by
  have hdone : svc.records.entries.countP select ≤ limit →
      (∃ n, Evicts select retentionKey n svc.records (svc, false).1.records) ∧
        (svc, false).1.records.entries.countP select =
          min limit (svc.records.entries.countP select) :=
    fun hfew => ⟨⟨0, .refl _⟩, (Nat.min_eq_right hfew).symm⟩
  induction turns generalizing svc with
  | zero => exact hdone (by omega)
  | succ turns ih =>
      unfold pruneOldest
      rw [hcount.count_eq svc h]
      split
      · rename_i hmore
        rw [findOldest_eq]
        cases hleast : least? select retentionKey svc.records with
        | none =>
            have hnone := least?_eq_none hleast
            omega
        | some s =>
            obtain ⟨i, r⟩ := s
            have hr := isLeast_of_least? hleast
            have hless := SlotTable.countP_clear_of_selected hr.get hr.selected
            have hrest := ih (hcount.delete svc i r h hr.get)
              (by rw [records_deleteRecord]; omega)
              fun hfew => ⟨⟨0, .refl _⟩, (Nat.min_eq_right hfew).symm⟩
            rw [records_deleteRecord] at hrest
            obtain ⟨⟨n, hevicts⟩, hfew⟩ := hrest
            refine ⟨⟨n + 1, .step hr hevicts⟩, ?_⟩
            rw [hfew]
            omega
      · exact hdone (by omega)

/-- The bound on the turns is never what ends a pass. -/
lemma pruneOldest_more_turns (hcount : CountsSelected select count Good) {svc : Service}
    (h : Good svc) (hturns : svc.records.entries.countP select ≤ turns + limit) (more : ℕ) :
    pruneOldest select count limit (turns + more) svc =
      pruneOldest select count limit turns svc := by
  induction turns generalizing svc with
  | zero =>
      cases more with
      | zero => rfl
      | succ more =>
          simp only [pruneOldest, hcount.count_eq svc h]
          rw [if_neg (by omega)]
  | succ turns ih =>
      rw [show turns + 1 + more = (turns + more) + 1 by omega]
      simp only [pruneOldest]
      split
      · rw [findOldest_eq]
        cases hleast : least? select retentionKey svc.records with
        | none => rfl
        | some s =>
            obtain ⟨i, r⟩ := s
            have hr := isLeast_of_least? hleast
            have hless := SlotTable.countP_clear_of_selected hr.get hr.selected
            simp only
            rw [ih (hcount.delete svc i r h hr.get) (by rw [records_deleteRecord]; omega)]
      · rfl

end CountPass

/-- The record pass counts its records, by the counter where its policy is about all of them. -/
lemma countRetained_eq {svc : Service} (h : svc.CountsRecords) (limits : DaemonLimits) :
    countRetained limits svc = svc.records.entries.countP (matchesRetentionKind limits) := by
  unfold countRetained
  split
  · rename_i hall
    have hevery : ∀ r ∈ svc.records.entries, matchesRetentionKind limits r = true := by
      intro r _
      obtain ⟨hkind, htenant⟩ := hall
      simp only [Bool.not_eq_true'] at htenant
      simp [matchesRetentionKind, hkind, htenant]
    rw [h, SlotTable.count, List.countP_eq_length.mpr hevery]
  · rfl

/-- What a count pass owes: as few of its records as it may keep and no fewer, none of them older
than one that went, and everything else as it was. -/
structure KeepsNewest (select : Record → Bool) (limit : ℕ) (svc svc' : Service) : Prop where
  few : svc'.records.entries.countP select = min limit (svc.records.entries.countP select)
  newest : ∀ i r j kept, svc.records.get i = some r → svc'.records.get i = none →
    svc'.records.get j = some kept → select kept = true → retentionKey r ≤ retentionKey kept
  others : ∀ i r, svc.records.get i = some r → select r = false → svc'.records.get i = some r
  subset : ∀ i r, svc'.records.get i = some r → svc.records.get i = some r
  counts : svc.CountsRecords → svc'.CountsRecords

lemma keepsNewest_of_evicts {select : Record → Bool} {limit n : ℕ} {svc svc' : Service}
    (h : Evicts select retentionKey n svc.records svc'.records)
    (hfew : svc'.records.entries.countP select = min limit (svc.records.entries.countP select))
    (hcounts : svc.CountsRecords → svc'.CountsRecords) : KeepsNewest select limit svc svc' where
  few := hfew
  newest _ _ _ _ hr hgone hkept hselected := h.newest hr hgone hkept hselected
  others _ _ hr hno := h.get_of_not_selected hr hno
  subset _ _ hr := h.get_of_get hr
  counts := hcounts

lemma countP_le_count (svc : Service) (select : Record → Bool) :
    svc.records.entries.countP select ≤ svc.records.count := List.countP_le_length

/-- Checkpoints are counted one by one. -/
lemma countsSelected_checkpoints :
    CountsSelected isCheckpoint (fun s => s.records.entries.countP isCheckpoint) fun _ => True :=
  ⟨fun _ _ => rfl, fun _ _ _ _ _ => trivial⟩

lemma countsSelected_retained (limits : DaemonLimits) :
    CountsSelected (matchesRetentionKind limits) (countRetained limits) CountsRecords :=
  ⟨fun _ h => countRetained_eq h limits, fun _ _ _ h hr => h.deleteRecord hr⟩

/-- A count pass with as many turns as there are records. -/
lemma keepsNewest_pruneOldest {select : Record → Bool} {count : Service → ℕ}
    {Good : Service → Prop} (hcount : CountsSelected select count Good) {svc : Service}
    (h : Good svc) (limit : ℕ) :
    KeepsNewest select limit svc (pruneOldest select count limit svc.records.count svc).1 := by
  have hturns : svc.records.entries.countP select ≤ svc.records.count + limit :=
    (svc.countP_le_count select).trans (Nat.le_add_right _ _)
  obtain ⟨⟨n, hevicts⟩, hfew⟩ := evicts_pruneOldest hcount h hturns
  exact keepsNewest_of_evicts hevicts hfew fun hc => hc.pruned (passed_pruneOldest _ _ _ _ svc).pruned

/-! ## The age pass -/

/-- A record of the policy that is too old: its publish time is set, not in the future, and further
back than the maximum age. -/
def PastAge (limits : DaemonLimits) (nowMs : UInt64) (r : Record) : Prop :=
  matchesRetentionKind limits r = true ∧ 0 < r.objectPublishMonotonicMs.toNat ∧
    r.objectPublishMonotonicMs.toNat ≤ nowMs.toNat ∧
    limits.maxRetainedRecordAgeMs.toNat < nowMs.toNat - r.objectPublishMonotonicMs.toNat

lemma expired_iff (limits : DaemonLimits) (nowMs : UInt64) (r : Record) :
    expired limits nowMs r = true ↔ PastAge limits nowMs r := by
  simp only [expired, PastAge, Bool.and_eq_true, bne_iff_ne, ne_eq, decide_eq_true_eq,
    UInt64.le_iff_toNat_le, gt_iff_lt, UInt64.lt_iff_toNat_lt, ← UInt64.toNat_inj, UInt64.toNat_zero,
    and_assoc, Nat.pos_iff_ne_zero]
  refine and_congr_right fun _ => and_congr_right fun _ => and_congr_right fun hle => ?_
  rw [UInt64.toNat_sub_of_le _ _ (UInt64.le_iff_toNat_le.mpr hle)]

/-- What the age pass owes: it deletes the records that are too old, and those only. -/
structure RemovesPastAge (limits : DaemonLimits) (nowMs : UInt64) (svc svc' : Service) : Prop where
  removed : ∀ i r, svc.records.get i = some r → PastAge limits nowMs r → svc'.records.get i = none
  kept : ∀ i r, svc.records.get i = some r → ¬PastAge limits nowMs r → svc'.records.get i = some r
  subset : ∀ i r, svc'.records.get i = some r → svc.records.get i = some r
  counts : svc.CountsRecords → svc'.CountsRecords

lemma get_deleteAll (l : List (ℕ × Record)) (svc : Service) (j : ℕ) :
    (l.foldl (fun svc s => svc.deleteRecord s.1 s.2) svc).records.get j =
      if j ∈ l.map Prod.fst then none else svc.records.get j := by
  induction l generalizing svc with
  | nil => simp
  | cons a l ih =>
      rw [List.foldl_cons, ih, records_deleteRecord, SlotTable.get_clear]
      by_cases hl : j ∈ l.map Prod.fst
      · simp [hl]
      · by_cases ha : j = a.1 <;> simp [hl, ha]

lemma removesPastAge_pruneExpired (limits : DaemonLimits) (nowMs : UInt64) (svc : Service) :
    RemovesPastAge limits nowMs svc (pruneExpired limits nowMs svc).1 := by
  have hget : ∀ j, (pruneExpired limits nowMs svc).1.records.get j =
      if j ∈ ((svc.records.indexedFrom 0).filter fun s => expired limits nowMs s.2).map Prod.fst
        then none else svc.records.get j := get_deleteAll _ svc
  have hmem : ∀ i r, svc.records.get i = some r →
      (i ∈ ((svc.records.indexedFrom 0).filter fun s => expired limits nowMs s.2).map Prod.fst ↔
        PastAge limits nowMs r) := by
    intro i r hr
    rw [List.mem_map]
    constructor
    · rintro ⟨⟨j, q⟩, hq, rfl⟩
      obtain ⟨hq, hexpired⟩ := List.mem_filter.mp hq
      have hqr := Option.some.inj ((SlotTable.get_of_mem_indexedFrom hq).symm.trans hr)
      exact hqr ▸ (expired_iff limits nowMs q).mp hexpired
    · intro hpast
      exact ⟨(i, r), List.mem_filter.mpr ⟨SlotTable.mem_indexedFrom_of_get hr,
        (expired_iff limits nowMs r).mpr hpast⟩, rfl⟩
  refine ⟨fun i r hr hpast => ?_, fun i r hr hpast => ?_, fun i r hr => ?_, fun hc =>
    hc.pruned (passed_pruneExpired limits nowMs svc).pruned⟩
  · rw [hget, if_pos ((hmem i r hr).mpr hpast)]
  · rw [hget, if_neg fun h => hpast ((hmem i r hr).mp h), hr]
  · rw [hget] at hr
    split at hr
    · cases hr
    · exact hr

/-! ## Both passes -/

/-- The record pass: its count phase, where the policy has a number, and then its age phase, where it
has an age. -/
def RetainsRecords (limits : DaemonLimits) (nowMs : UInt64) (svc svc' : Service) : Prop :=
  ∃ counted : Service,
    (limits.maxRetainedRecords = 0 → counted = svc) ∧
    (limits.maxRetainedRecords ≠ 0 →
      KeepsNewest (matchesRetentionKind limits) limits.maxRetainedRecords.toNat svc counted) ∧
    (limits.maxRetainedRecordAgeMs = 0 → svc' = counted) ∧
    (limits.maxRetainedRecordAgeMs ≠ 0 → RemovesPastAge limits nowMs counted svc')

lemma retainsRecords {svc : Service} (h : svc.CountsRecords) (limits : DaemonLimits)
    (nowMs : UInt64) :
    RetainsRecords limits nowMs svc (svc.applyRecordRetention limits nowMs).1 := by
  refine ⟨(if limits.maxRetainedRecords = 0 then (svc, false)
    else pruneOldest (matchesRetentionKind limits) (countRetained limits)
      limits.maxRetainedRecords.toNat svc.records.count svc).1, fun hzero => ?_, fun hlimit => ?_,
    fun hzero => ?_, fun hage => ?_⟩
  · rw [if_pos hzero]
  · rw [if_neg hlimit]
    exact keepsNewest_pruneOldest (countsSelected_retained limits) h _
  · simp only [applyRecordRetention, if_pos hzero]
  · simp only [applyRecordRetention, if_neg hage]
    exact removesPastAge_pruneExpired limits nowMs _

/-- **Retention keeps the newest.**  For every record table whose counter is right and every policy:
the two count passes end by themselves and leave the newest of their records, the age phase removes
what is too old and nothing else, and the counter stays right. -/
theorem retention_keeps_newest (svc : Service) (h : svc.recordCount = svc.records.count)
    (limits : DaemonLimits) (maxCheckpoints nowMs : UInt64) :
    (∀ more, pruneOldest (matchesRetentionKind limits) (countRetained limits)
        limits.maxRetainedRecords.toNat (svc.records.count + more) svc =
      pruneOldest (matchesRetentionKind limits) (countRetained limits)
        limits.maxRetainedRecords.toNat svc.records.count svc) ∧
    (∀ more, pruneOldest isCheckpoint (fun s => s.records.entries.countP isCheckpoint)
        maxCheckpoints.toNat (svc.records.count + more) svc =
      pruneOldest isCheckpoint (fun s => s.records.entries.countP isCheckpoint)
        maxCheckpoints.toNat svc.records.count svc) ∧
    RetainsRecords limits nowMs svc (svc.applyRecordRetention limits nowMs).1 ∧
    (maxCheckpoints = 0 → (svc.applyCheckpointRetention maxCheckpoints).1 = svc) ∧
    (maxCheckpoints ≠ 0 → KeepsNewest isCheckpoint maxCheckpoints.toNat svc
      (svc.applyCheckpointRetention maxCheckpoints).1) ∧
    (svc.applyRecordRetention limits nowMs).1.recordCount =
      (svc.applyRecordRetention limits nowMs).1.records.count ∧
    (svc.applyCheckpointRetention maxCheckpoints).1.recordCount =
      (svc.applyCheckpointRetention maxCheckpoints).1.records.count := by
  have hturns : ∀ (select : Record → Bool) (limit : ℕ),
      svc.records.entries.countP select ≤ svc.records.count + limit :=
    fun select limit => (svc.countP_le_count select).trans (Nat.le_add_right _ _)
  refine ⟨pruneOldest_more_turns (countsSelected_retained limits) h (hturns _ _),
    pruneOldest_more_turns countsSelected_checkpoints trivial (hturns _ _),
    retainsRecords h limits nowMs, fun hzero => ?_, fun hlimit => ?_,
    CountsRecords.pruned h (passed_applyRecordRetention svc limits nowMs).pruned,
    CountsRecords.pruned h (passed_applyCheckpointRetention svc maxCheckpoints).pruned⟩
  · rw [applyCheckpointRetention, if_pos hzero]
  · rw [applyCheckpointRetention, if_neg hlimit]
    exact keepsNewest_pruneOldest countsSelected_checkpoints trivial _

/-! ## What the passes leave -/

/-- The records that the checkpoint pass leaves, of those listed with their slots. -/
def leftByCheckpoints (maxCheckpoints : UInt64) (l : List (ℕ × Record)) : List (ℕ × Record) :=
  if maxCheckpoints = 0 then l else spared isCheckpoint retentionKey maxCheckpoints.toNat l

/-- The records that the record pass leaves. -/
def leftByRecords (limits : DaemonLimits) (nowMs : UInt64) (l : List (ℕ × Record)) :
    List (ℕ × Record) :=
  let counted :=
    if limits.maxRetainedRecords = 0 then l
    else spared (matchesRetentionKind limits) retentionKey limits.maxRetainedRecords.toNat l
  if limits.maxRetainedRecordAgeMs = 0 then counted
  else counted.filter fun s => !expired limits nowMs s.2

/-- A count pass leaves the records that few enough others go after. -/
lemma indexedFrom_pruneOldest {select : Record → Bool} {count : Service → ℕ}
    {Good : Service → Prop} (hcount : CountsSelected select count Good) {svc : Service}
    (h : Good svc) (limit : ℕ) :
    (pruneOldest select count limit svc.records.count svc).1.records.indexedFrom 0 =
      spared select retentionKey limit (svc.records.indexedFrom 0) := by
  obtain ⟨⟨n, hevicts⟩, hfew⟩ := evicts_pruneOldest hcount h
    ((svc.countP_le_count select).trans (Nat.le_add_right _ limit))
  exact hevicts.indexedFrom_eq hfew

lemma indexedFrom_applyCheckpointRetention (svc : Service) (maxCheckpoints : UInt64) :
    (svc.applyCheckpointRetention maxCheckpoints).1.records.indexedFrom 0 =
      leftByCheckpoints maxCheckpoints (svc.records.indexedFrom 0) := by
  unfold applyCheckpointRetention leftByCheckpoints
  split
  · rfl
  · exact indexedFrom_pruneOldest countsSelected_checkpoints trivial _

lemma indexedFrom_pruneExpired (limits : DaemonLimits) (nowMs : UInt64) (svc : Service) :
    (pruneExpired limits nowMs svc).1.records.indexedFrom 0 =
      (svc.records.indexedFrom 0).filter fun s => !expired limits nowMs s.2 := by
  have h := removesPastAge_pruneExpired limits nowMs svc
  refine SlotTable.indexedFrom_eq_filter h.subset fun i r hr => ?_
  cases hexpired : expired limits nowMs r with
  | true =>
      have hgone := h.removed i r hr ((expired_iff limits nowMs r).mp hexpired)
      simp [hgone]
  | false =>
      have hkept := h.kept i r hr fun hpast => by
        rw [(expired_iff limits nowMs r).mpr hpast] at hexpired
        cases hexpired
      simp [hkept]

lemma indexedFrom_applyRecordRetention {svc : Service} (h : svc.CountsRecords)
    (limits : DaemonLimits) (nowMs : UInt64) :
    (svc.applyRecordRetention limits nowMs).1.records.indexedFrom 0 =
      leftByRecords limits nowMs (svc.records.indexedFrom 0) := by
  have hcounted : (if limits.maxRetainedRecords = 0 then (svc, false)
      else pruneOldest (matchesRetentionKind limits) (countRetained limits)
        limits.maxRetainedRecords.toNat svc.records.count svc).1.records.indexedFrom 0 =
      if limits.maxRetainedRecords = 0 then svc.records.indexedFrom 0
      else spared (matchesRetentionKind limits) retentionKey limits.maxRetainedRecords.toNat
        (svc.records.indexedFrom 0) := by
    split
    · rfl
    · exact indexedFrom_pruneOldest (countsSelected_retained limits) h _
  unfold applyRecordRetention leftByRecords
  dsimp only
  rw [← hcounted]
  split
  · rfl
  · exact indexedFrom_pruneExpired limits nowMs _

/-- Three records, of versions 5, 1 and 3. -/
def threeVersions : Service :=
  { Service.fresh with
    records := ((SlotTable.empty.put 0 { version := 5 }).put 1 { version := 1 }).put 2
      { version := 3 }
    recordCount := 3 }

theorem retention_keeps_newest_two :
    RetainsRecords { maxRetainedRecords := 2 } 0 threeVersions
        (threeVersions.applyRecordRetention { maxRetainedRecords := 2 } 0).1 ∧
      (threeVersions.applyRecordRetention { maxRetainedRecords := 2 } 0).1.recordCount =
        (threeVersions.applyRecordRetention { maxRetainedRecords := 2 } 0).1.records.count := by
  have h := retention_keeps_newest threeVersions (by decide) { maxRetainedRecords := 2 } 0 0
  exact ⟨h.2.2.1, h.2.2.2.2.2.1⟩

end Service

end MemService
