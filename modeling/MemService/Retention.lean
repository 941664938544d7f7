import MemService.Handlers

/-!
# Retention

The three passes that delete by policy: audit events past a limit, checkpoint records past a limit,
and records past a limit or an age.  Deleting a record frees its slot, lowers the count, and drops
every idempotency record whose stored response names the record's key.

The two count passes are `while` loops that delete the oldest matching record; here they are bounded
by the number of records, since every turn deletes one.
-/

open ByteText CNumeral

namespace MemService

/-- `struct mem_service_daemon_limits`; zero switches a limit off. -/
structure DaemonLimits where
  maxRecords : UInt64 := 0
  maxPayloadBytes : UInt64 := 0
  maxAuditEvents : UInt64 := 0
  maxCheckpointRecords : UInt64 := 0
  maxRetainedRecords : UInt64 := 0
  maxRetainedRecordAgeMs : UInt64 := 0
  maxRetainedRecordKind : UInt32 := 0
  maxRetainedRecordTenantEnabled : Bool := false
  maxRetainedRecordTenant : UInt32 := 0
  deriving DecidableEq

namespace Service

/-! ## Audit events -/

/-- `mem_service_apply_audit_retention`: the service and whether an event was pruned. -/
def applyAuditRetention (svc : Service) (maxEvents : UInt64) : Service × Bool :=
  if maxEvents = 0 ∨ maxEvents ≥ 256 ∨ svc.auditEventCount ≤ maxEvents ∨
      svc.auditNextSequence = 0 then (svc, false)
  else
    let firstKept :=
      if svc.auditNextSequence > maxEvents then svc.auditNextSequence - maxEvents else 1
    let kept := svc.audit.keep fun e => decide (firstKept ≤ e.sequence)
    ({ svc with audit := kept, auditEventCount := UInt64.ofNat kept.count },
      svc.audit.entries.any fun e => decide (e.sequence < firstKept))

/-! ## Records -/

/-- The key an idempotency record's response names. -/
def responseKey (r : IdempotencyRecord) : Option Bytes :=
  payloadGetString r.response.bytes (ascii "key") 96

/-- `mem_service_prune_idempotency_for_record_key`. -/
def pruneIdempotency (svc : Service) (key : Bytes) : Service :=
  if key = [] then svc
  else { svc with idempotency := svc.idempotency.keep fun r => responseKey r != some key }

/-- One deletion of the retention loops. -/
def deleteRecord (svc : Service) (i : ℕ) (r : Record) : Service :=
  pruneIdempotency
    { svc with records := svc.records.clear i, recordCount := svc.recordCount - 1 } r.key.bytes

/-- `mem_service_record_is_checkpoint`. -/
def isCheckpoint (r : Record) : Bool :=
  r.kind == RecordKind.trainingArtifact && r.artifactKind.bytes == ascii "checkpoint"

/-- `mem_service_record_matches_retention_kind`. -/
def matchesRetentionKind (limits : DaemonLimits) (r : Record) : Bool :=
  (limits.maxRetainedRecordKind == 0 || r.kind.code == limits.maxRetainedRecordKind) &&
    (!limits.maxRetainedRecordTenantEnabled ||
      r.objectOwnerNode == limits.maxRetainedRecordTenant)

/-- A record precedes another for retention: by version, then by publish time. -/
def olderThan (r old : Record) : Bool :=
  r.version < old.version ||
    (r.version == old.version && r.objectPublishMonotonicMs < old.objectPublishMonotonicMs)

/-- One slot of the scan for the oldest record that `select` picks; the first of equals stays. -/
def keepOldest (select : Record → Bool) (best : Option (ℕ × Record)) (s : ℕ × Record) :
    Option (ℕ × Record) :=
  if select s.2 then
    match best with
    | none => some s
    | some b => if olderThan s.2 b.2 then some s else some b
  else best

/-- `mem_service_find_oldest_record_index` and its checkpoint sibling. -/
def findOldest (svc : Service) (select : Record → Bool) : Option (ℕ × Record) :=
  (svc.records.indexedFrom 0).foldl (keepOldest select) none

/-- A count pass, with a bound on its turns: while there are more than `limit` records by `count`,
delete the oldest that `select` picks. -/
def pruneOldest (select : Record → Bool) (count : Service → ℕ) (limit : ℕ) :
    ℕ → Service → Service × Bool
  | 0, svc => (svc, false)
  | turns + 1, svc =>
      if count svc > limit then
        match svc.findOldest select with
        | none => (svc, false)
        | some (i, r) =>
            ((pruneOldest select count limit turns (svc.deleteRecord i r)).1, true)
      else (svc, false)

/-- `mem_service_apply_checkpoint_retention`. -/
def applyCheckpointRetention (svc : Service) (maxCheckpoints : UInt64) : Service × Bool :=
  if maxCheckpoints = 0 then (svc, false)
  else
    pruneOldest isCheckpoint (fun s => s.records.entries.countP isCheckpoint)
      maxCheckpoints.toNat svc.records.count svc

/-- `mem_service_count_retained_kind_records`. -/
def countRetained (limits : DaemonLimits) (svc : Service) : ℕ :=
  if limits.maxRetainedRecordKind = 0 ∧ !limits.maxRetainedRecordTenantEnabled then
    svc.recordCount
  else svc.records.entries.countP (matchesRetentionKind limits)

/-- A record the age pass deletes. -/
def expired (limits : DaemonLimits) (nowMs : UInt64) (r : Record) : Bool :=
  matchesRetentionKind limits r && r.objectPublishMonotonicMs != 0 &&
    decide (r.objectPublishMonotonicMs ≤ nowMs) &&
    decide (nowMs - r.objectPublishMonotonicMs > limits.maxRetainedRecordAgeMs)

/-- The age pass of `mem_service_apply_record_retention`. -/
def pruneExpired (limits : DaemonLimits) (nowMs : UInt64) (svc : Service) : Service × Bool :=
  let doomed := (svc.records.indexedFrom 0).filter fun s => expired limits nowMs s.2
  (doomed.foldl (fun svc s => svc.deleteRecord s.1 s.2) svc, !doomed.isEmpty)

/-- `mem_service_apply_record_retention`. -/
def applyRecordRetention (svc : Service) (limits : DaemonLimits) (nowMs : UInt64) :
    Service × Bool :=
  let counted :=
    if limits.maxRetainedRecords = 0 then (svc, false)
    else
      pruneOldest (matchesRetentionKind limits) (countRetained limits)
        limits.maxRetainedRecords.toNat svc.records.count svc
  let aged :=
    if limits.maxRetainedRecordAgeMs = 0 then (counted.1, false)
    else pruneExpired limits nowMs counted.1
  (aged.1, counted.2 || aged.2)

/-! ## What the record passes can do -/

/-- `svc'` comes from `svc` by deletions of records that were there. -/
inductive Pruned (svc : Service) : Service → Prop
  | refl : Pruned svc svc
  | delete {svc' : Service} {i : ℕ} {r : Record} (h : Pruned svc svc')
      (hget : svc'.records.get i = some r) : Pruned svc (svc'.deleteRecord i r)

lemma Pruned.trans {svc svc₁ svc₂ : Service} (h : Pruned svc svc₁) (h' : Pruned svc₁ svc₂) :
    Pruned svc svc₂ := by
  induction h' with
  | refl => exact h
  | delete _ hget ih => exact ih.delete hget

lemma records_deleteRecord (svc : Service) (i : ℕ) (r : Record) :
    (svc.deleteRecord i r).records = svc.records.clear i := by
  unfold deleteRecord pruneIdempotency
  split <;> rfl

lemma keepOldest_eq_some {select : Record → Bool} {best : Option (ℕ × Record)}
    {s q : ℕ × Record} (h : keepOldest select best s = some q) : q = s ∨ best = some q := by
  unfold keepOldest at h
  split at h
  · split at h
    · exact .inl (Option.some.inj h).symm
    · split at h
      · exact .inl (Option.some.inj h).symm
      · exact .inr h
  · exact .inr h

lemma findOldest_get {svc : Service} {select : Record → Bool} {i : ℕ} {r : Record}
    (h : svc.findOldest select = some (i, r)) : svc.records.get i = some r := by
  have hfold : ∀ (l : List (ℕ × Record)) (best : Option (ℕ × Record)) (q : ℕ × Record),
      l.foldl (keepOldest select) best = some q → q ∈ l ∨ best = some q := by
    intro l
    induction l with
    | nil => exact fun best q hq => .inr hq
    | cons a l ih =>
        intro best q hq
        rcases ih _ q hq with hm | hb
        · exact .inl (by simp [hm])
        · rcases keepOldest_eq_some hb with rfl | hb
          · exact .inl (by simp)
          · exact .inr hb
  rcases hfold _ _ _ h with hm | hb
  · exact SlotTable.get_of_mem_indexedFrom hm
  · cases hb

/-- What a pass does: deletions, and none if it does not report any. -/
structure Passed (svc : Service) (res : Service × Bool) : Prop where
  pruned : Pruned svc res.1
  kept : res.2 = false → res.1 = svc

lemma passed_refl (svc : Service) : Passed svc (svc, false) := ⟨.refl, fun _ => rfl⟩

lemma Passed.trans {svc : Service} {res res' : Service × Bool} (h : Passed svc res)
    (h' : Passed res.1 res') : Passed svc (res'.1, res.2 || res'.2) := by
  refine ⟨h.pruned.trans h'.pruned, fun hno => ?_⟩
  obtain ⟨h₁, h₂⟩ := Bool.or_eq_false_iff.mp hno
  exact (h'.kept h₂).trans (h.kept h₁)

lemma passed_pruneOldest (select : Record → Bool) (count : Service → ℕ) (limit turns : ℕ)
    (svc : Service) : Passed svc (pruneOldest select count limit turns svc) := by
  induction turns generalizing svc with
  | zero => exact passed_refl svc
  | succ turns ih =>
      unfold pruneOldest
      split
      · split
        · exact passed_refl svc
        · rename_i i r hold
          exact ⟨Pruned.trans (.delete .refl (findOldest_get hold)) (ih _).pruned, by simp⟩
      · exact passed_refl svc

lemma passed_applyCheckpointRetention (svc : Service) (maxCheckpoints : UInt64) :
    Passed svc (svc.applyCheckpointRetention maxCheckpoints) := by
  unfold applyCheckpointRetention
  split
  · exact passed_refl svc
  · exact passed_pruneOldest _ _ _ _ svc

lemma pruned_deleteAll {svc : Service} {l : List (ℕ × Record)}
    (hdistinct : l.Pairwise fun s u => s.1 ≠ u.1)
    (hl : ∀ s ∈ l, svc.records.get s.1 = some s.2) :
    Pruned svc (l.foldl (fun svc s => svc.deleteRecord s.1 s.2) svc) := by
  induction l generalizing svc with
  | nil => exact .refl
  | cons a l ih =>
      obtain ⟨ha, hdistinct⟩ := List.pairwise_cons.mp hdistinct
      refine Pruned.trans (.delete .refl (hl a (by simp))) (ih hdistinct fun s hs => ?_)
      rw [records_deleteRecord, SlotTable.get_clear, if_neg (Ne.symm (ha s hs))]
      exact hl s (by simp [hs])

lemma passed_pruneExpired (limits : DaemonLimits) (nowMs : UInt64) (svc : Service) :
    Passed svc (pruneExpired limits nowMs svc) := by
  refine ⟨pruned_deleteAll ((svc.records.pairwise_indexedFrom 0).filter _)
    fun s hs => SlotTable.get_of_mem_indexedFrom (List.mem_of_mem_filter hs), fun hno => ?_⟩
  have hnil : (svc.records.indexedFrom 0).filter (fun s => expired limits nowMs s.2) = [] := by
    simpa [pruneExpired] using hno
  simp only [pruneExpired, hnil, List.foldl_nil]

lemma passed_applyRecordRetention (svc : Service) (limits : DaemonLimits) (nowMs : UInt64) :
    Passed svc (svc.applyRecordRetention limits nowMs) := by
  have hcounted : Passed svc (if limits.maxRetainedRecords = 0 then (svc, false)
      else pruneOldest (matchesRetentionKind limits) (countRetained limits)
        limits.maxRetainedRecords.toNat svc.records.count svc) := by
    split
    · exact passed_refl svc
    · exact passed_pruneOldest _ _ _ _ svc
  have haged : ∀ svc : Service, Passed svc (if limits.maxRetainedRecordAgeMs = 0 then (svc, false)
      else pruneExpired limits nowMs svc) := by
    intro svc
    split
    · exact passed_refl svc
    · exact passed_pruneExpired limits nowMs svc
  exact hcounted.trans (haged _)

end Service

end MemService
