import MemService.Effects

/-!
# Every reachable state is well formed

The invariant of the tables, carried through the stages of a request: dispatch and retention, the
idempotency record, the audit event, and the second writing of both when the durable write failed.
Each stage has an inversion lemma that says what it can do (`Answered`, `audited_cases`,
`persist_cases`); the invariant and all later results about requests use those.

The delicate point is the pending slot.  It is found free before the operation runs and filled
afterwards, so no operation in between may put the key elsewhere.  A record writer does not touch the
table, retention only frees slots, a staged commit empties the table, and a snapshot restore never
has a pending slot, because a payload that starts with the store's magic line has no header fields.
-/

open ByteText CNumeral

namespace MemService

/-! ## Replaced and pruned tables -/

namespace Service

variable {svc svc' : Service}

lemma WellFormed.install (hs : svc.WellFormed) {restored : Service} (h : restored.WellFormed) :
    (svc.install restored).WellFormed :=
  ⟨hs.ready, h.recordKeys, h.recordValid, h.recordCount, h.idempotencyKeys, h.idempotencyValid,
    h.responseLines, h.auditSlots, h.auditValid⟩

lemma WellFormed.committed {st : RestoreStage} (h : st.svc.WellFormed) :
    st.committed.WellFormed where
  ready := h.ready
  recordKeys := h.recordKeys
  recordValid := h.recordValid
  recordCount := h.recordCount
  idempotencyKeys := SlotTable.uniqueKeys_empty _
  idempotencyValid := by simp [RestoreStage.committed]
  responseLines := by simp [RestoreStage.committed]
  auditSlots := by simp [RestoreStage.committed]
  auditValid := by simp [RestoreStage.committed]

lemma WellFormed.pruneIdempotency (h : svc.WellFormed) (key : Bytes) :
    (svc.pruneIdempotency key).WellFormed := by
  unfold Service.pruneIdempotency
  split
  · exact h
  · exact h.withIdempotency (h.idempotencyKeys.keep _)
      fun r hr => h.validIdempotency (SlotTable.mem_entries_keep.mp hr).1

lemma WellFormed.deleteRecord (h : svc.WellFormed) {i : ℕ} {r : Record}
    (hget : svc.records.get i = some r) : (svc.deleteRecord i r).WellFormed := by
  refine WellFormed.pruneIdempotency ?_ _
  refine { h with recordKeys := ?_, recordValid := ?_, recordCount := ?_ }
  · exact h.recordKeys.clear i
  · exact fun q hq => h.recordValid q (SlotTable.mem_entries_clear hq)
  · have := SlotTable.count_clear_of_used hget
    show svc.recordCount - 1 = (svc.records.clear i).count
    rw [h.recordCount]
    omega

lemma Pruned.wellFormed (h : svc.Pruned svc') (hw : svc.WellFormed) : svc'.WellFormed := by
  induction h with
  | refl => exact hw
  | delete _ hget ih => exact ih.deleteRecord hget

lemma Pruned.recordCount_le (h : svc.Pruned svc') : svc'.recordCount ≤ svc.recordCount := by
  induction h with
  | refl => exact le_rfl
  | @delete svc' i r _ _ ih =>
      have hone : (svc'.deleteRecord i r).recordCount = svc'.recordCount - 1 := by
        unfold Service.deleteRecord Service.pruneIdempotency
        split <;> rfl
      omega

/-- The audit part of a service: the ring, its next number and its count. -/
def auditPart (svc : Service) : SlotTable AuditEvent maxAuditEvents × UInt64 × UInt64 :=
  (svc.audit, svc.auditNextSequence, svc.auditEventCount)

/-- What deletions leave of the tables. -/
structure Shrinks (svc svc' : Service) : Prop where
  records : ∀ i r, svc'.records.get i = some r → svc.records.get i = some r
  idempotency : ∀ i r, svc'.idempotency.get i = some r → svc.idempotency.get i = some r
  audit : svc'.auditPart = svc.auditPart

lemma shrinks_deleteRecord (svc : Service) (i : ℕ) (r : Record) :
    svc.Shrinks (svc.deleteRecord i r) := by
  refine ⟨?_, ?_, ?_⟩
  · intro j q hq
    rw [records_deleteRecord, SlotTable.get_clear] at hq
    split at hq
    · cases hq
    · exact hq
  · intro j q hq
    unfold deleteRecord pruneIdempotency at hq
    split at hq
    · exact hq
    · rw [SlotTable.get_keep, Option.filter_eq_some_iff] at hq
      exact hq.1
  · unfold deleteRecord pruneIdempotency
    split <;> rfl

lemma Pruned.shrinks (h : svc.Pruned svc') : svc.Shrinks svc' := by
  induction h with
  | refl => exact ⟨fun _ _ h => h, fun _ _ h => h, rfl⟩
  | @delete svc' i r _ _ ih =>
      have hd := svc'.shrinks_deleteRecord i r
      exact ⟨fun i r h => ih.records i r (hd.records i r h),
        fun i r h => ih.idempotency i r (hd.idempotency i r h), hd.audit.trans ih.audit⟩

end Service

/-! ## Dispatched requests -/

lemma replyOf_restoredReply {svc : Service} (h : svc.WellFormed) :
    ReplyOf {} (restoredReply svc) := by
  refine replyOf_fields ?_ (by simp)
  simp only [List.forall_mem_cons, List.not_mem_nil, false_implies, implies_true, and_true]
  exact ⟨fieldOf_const (by decide) (by decide), fieldOf_decimal (by decide) (by norm_num),
    fieldOf_decimal (by decide) h.recordCount_lt⟩

namespace Effect

variable {s : ServiceState} {req : Request} {out : ServiceState × Reply}

lemma wellFormed (h : Effect s req out) (hs : s.svc.WellFormed) (hst : StageWellFormed s.stage) :
    out.1.svc.WellFormed ∧ StageWellFormed out.1.stage := by
  cases h with
  | unchanged _ => exact ⟨hs, hst⟩
  | staged _ hstage => exact ⟨hs, hstage hst⟩
  | wrote _ hw _ =>
      obtain ⟨rs, hchain⟩ := hw.chain
      exact ⟨hs.putAll hchain.valid hchain.put, hst⟩
  | restored _ _ hbase himp =>
      exact ⟨hs.install (wellFormed_importSnapshotText req.payload.noNul himp
        (wellFormed_initLike hbase)), hst⟩
  | committed _ _ hstage => exact ⟨hs.install (.committed (hst _ hstage)), by rintro _ ⟨⟩⟩

lemma svc_eq (h : Effect s req out) (hmut : operationMutates req.operation req.payload = false) :
    out.1.svc = s.svc := by
  have hno : ¬ operationMutates req.operation req.payload = true := by simp [hmut]
  cases h with
  | unchanged _ => rfl
  | staged _ _ => rfl
  | wrote hm _ _ => exact absurd hm hno
  | restored hm _ _ _ => exact absurd hm hno
  | committed hm _ _ => exact absurd hm hno

/-- The reply to a mutating request fits an idempotency record. -/
lemma response (h : Effect s req out) (hs : s.svc.WellFormed) (hst : StageWellFormed s.stage)
    (hmut : operationMutates req.operation req.payload) : ResponseFits out.2.response := by
  have hw := h.wellFormed hs hst
  cases h with
  | unchanged hfail =>
      obtain ⟨st, -, rfl⟩ := hfail hmut
      exact .nil
  | staged hno _ =>
      rw [hno] at hmut
      cases hmut
  | wrote _ hwrite _ =>
      rcases hwrite.reply with ⟨st, -, hreply⟩ | ⟨r, -, hreply⟩
      · rw [hreply]
        exact .nil
      · exact hreply.fits
  | restored _ _ _ _ => exact (replyOf_restoredReply hw.1).fits
  | committed _ _ _ => exact (replyOf_restoredReply hw.1).fits

end Effect

/-- A payload that is a snapshot has no header fields. -/
lemma idempotencyKey_of_importSnapshotText {base restored : Service} {p : Payload}
    (h : importSnapshotText base p.bytes = some restored) : idempotencyKey p = none := by
  unfold importSnapshotText at h
  split at h
  · cases h
  · rename_i l ls hlines
    split at h
    · rename_i hmagic
      have hno : EQ ∉ l := by
        intro hmem
        -- the magic has no equals sign, and trimming takes off line ends only
        have htrim : EQ ∈ trimLine l := by
          rw [trimLine, List.rdropWhile, List.mem_reverse]
          have hrev : EQ ∈ l.reverse := List.mem_reverse.mpr hmem
          rw [← List.takeWhile_append_dropWhile (p := isEol) (l := l.reverse),
            List.mem_append] at hrev
          rcases hrev with hrev | hrev
          · have := List.mem_takeWhile_imp hrev
            exact absurd this (by decide)
          · exact hrev
        rw [hmagic.2] at htrim
        exact absurd htrim (by decide)
      have hnone : splitEq l = none := splitEq_eq_none_iff.mpr hno
      simp [idempotencyKey, Payload.getHeaderField, payloadGetHeaderString, hlines, headerValue,
        hnone]
    · cases h

/-! ## The pending slot -/

/-- The slot for the outcome of a request: it exists, and no other slot holds the key. -/
def Service.Reserves (svc : Service) (pending : Option (ℕ × FieldText 96)) : Prop :=
  ∀ slot key, pending = some (slot, key) → slot < maxIdempotencyRecords ∧ key.bytes ≠ [] ∧
    ∀ i r, svc.idempotency.get i = some r → r.keyBytes = key.bytes → i = slot

namespace Service

variable {svc svc' : Service} {pending : Option (ℕ × FieldText 96)} {req : Request} {reply : Reply}

lemma reserves_none (svc : Service) : svc.Reserves none := by
  rintro _ _ ⟨⟩

lemma Reserves.mono (h : svc.Reserves pending)
    (hsub : ∀ i r, svc'.idempotency.get i = some r → svc.idempotency.get i = some r) :
    svc'.Reserves pending := by
  intro slot key hp
  obtain ⟨hslot, hkey, hother⟩ := h slot key hp
  exact ⟨hslot, hkey, fun i r hr => hother i r (hsub i r hr)⟩

/-- Filling the slot keeps it reserved, so it can be filled again. -/
lemma Reserves.complete (h : svc.Reserves pending) :
    (svc.complete pending req reply).Reserves pending := by
  rintro slot key rfl
  obtain ⟨hslot, hkey, hother⟩ := h slot key rfl
  refine ⟨hslot, hkey, fun i r hr hk => ?_⟩
  simp only [Service.complete] at hr
  rw [SlotTable.get_put hslot] at hr
  split at hr
  · rename_i hi
    exact hi
  · exact hother i r hr hk

lemma WellFormed.complete (hw : svc.WellFormed) (h : svc.Reserves pending)
    (hreq : pending ≠ none → req.operation ≠ 0 ∧ ResponseFits reply.response) :
    (svc.complete pending req reply).WellFormed := by
  cases pending with
  | none => exact hw
  | some sk =>
      obtain ⟨slot, key⟩ := sk
      obtain ⟨hop, hreply⟩ := hreq (by simp)
      obtain ⟨hslot, hkey, hother⟩ := h slot key rfl
      refine hw.withIdempotency (hw.idempotencyKeys.put hslot fun j b hb hk => hother j b hb hk) ?_
      intro r hr
      obtain ⟨i, hi⟩ := SlotTable.mem_entries.mp hr
      rw [SlotTable.get_put hslot] at hi
      split at hi
      · cases hi
        refine ⟨hkey, hop, ?_⟩
        show ResponseLines (ResponseText.copy reply.response).bytes
        rw [ResponseText.bytes_copy hreply.noNul hreply.short]
        exact hreply.lines
      · exact hw.validIdempotency (SlotTable.mem_entries_of_get hi)

end Service

/-- What looking the key up decides, when the request is executed. -/
lemma tryIdempotencyReplay_execute {svc : Service} {operation : UInt32} {p : Payload}
    {pending : Option (ℕ × FieldText 96)}
    (h : tryIdempotencyReplay svc operation p = .execute pending) :
    (pending = none ∧ (operationMutates operation p → idempotencyKey p = none)) ∨
    ∃ slot key, pending = some (slot, key) ∧ operationMutates operation p ∧
      idempotencyKey p = some key ∧ svc.findIdempotencyRecord key.bytes = none ∧
      svc.allocIdempotencyRecord = some slot := by
  unfold tryIdempotencyReplay at h
  split at h
  · rename_i hmut
    cases h
    refine .inl ⟨rfl, fun hm => ?_⟩
    rw [hm] at hmut
    cases hmut
  rename_i hmut
  have hmut : operationMutates operation p = true := by simpa using hmut
  split at h
  · rename_i hkey
    cases h
    exact .inl ⟨rfl, fun _ => hkey⟩
  rename_i key hkey
  split at h
  · rename_i hfind
    split at h
    · cases h
    · rename_i slot halloc
      cases h
      exact .inr ⟨slot, key, rfl, hmut, hkey, hfind, halloc⟩
  · split at h
    · cases h
    · cases h

lemma idempotencyKey_ne_nil {p : Payload} {key : FieldText 96} (h : idempotencyKey p = some key) :
    key.bytes ≠ [] := by
  obtain ⟨v, hv, rfl⟩ := Option.map_eq_some_iff.mp h
  obtain ⟨hne, l, hl, hsub⟩ := payloadGetHeaderString_subset hv
  have hplain : Plain v := (plain_of_mem_lines p.noNul hl).of_subset hsub
  rw [FieldText.bytes_copy hplain]
  cases v with
  | nil => exact absurd rfl hne
  | cons b v => simp

lemma reserves_of_execute {svc : Service} {operation : UInt32} {p : Payload}
    {pending : Option (ℕ × FieldText 96)}
    (h : tryIdempotencyReplay svc operation p = .execute pending) : svc.Reserves pending := by
  obtain ⟨rfl, -⟩ | ⟨slot, key, rfl, -, hkey, hfind, halloc⟩ := tryIdempotencyReplay_execute h
  · exact svc.reserves_none
  · rintro _ _ ⟨⟩
    obtain ⟨hslot, -⟩ := SlotTable.firstFree?_eq_some halloc
    refine ⟨hslot, idempotencyKey_ne_nil hkey, fun i r hr hk => ?_⟩
    exact absurd hk (SlotTable.lookup_eq_none_iff.mp hfind r (SlotTable.mem_entries_of_get hr))

/-! ## Answers -/

/-- What the answer to an executed request consists of: the outcome of dispatch, then deletions if
it was a success and a pass reports them. -/
structure Executed (req : Request) (out : ServiceState × Reply)
    (res : ServiceState × Reply × Bool × Bool) : Prop where
  reply : res.2.1 = out.2
  stage : res.1.stage = out.1.stage
  pruned : out.1.svc.Pruned res.1.svc
  success : res.2.2.1 ∨ res.2.2.2 → out.2.status = WireStatus.ok ∧
    operationMutates req.operation req.payload
  kept : res.2.2.1 = false → res.2.2.2 = false → res.1.svc = out.1.svc

lemma Executed.kept_of_error {req : Request} {out : ServiceState × Reply}
    {res : ServiceState × Reply × Bool × Bool} (h : Executed req out res)
    (herr : out.2.status ≠ WireStatus.ok) : res.1.svc = out.1.svc := by
  refine h.kept ?_ ?_
  · exact Bool.eq_false_iff.mpr fun hp => herr (h.success (.inl hp)).1
  · exact Bool.eq_false_iff.mpr fun hp => herr (h.success (.inr hp)).1

lemma executeOperation_executed (cfg : Config) (env : Env) (s : ServiceState) (req : Request) :
    Executed req (dispatchOperation env cfg.storageRoot s req.operation req.payload)
      (executeOperation cfg env s req) := by
  unfold executeOperation
  generalize dispatchOperation env cfg.storageRoot s req.operation req.payload = out
  obtain ⟨s₁, reply⟩ := out
  simp only
  cases cfg.limits with
  | none =>
      simp only
      exact ⟨rfl, rfl, .refl, by simp, fun _ _ => rfl⟩
  | some limits =>
      simp only
      have hcheck : ∀ c, c = (if reply.status = WireStatus.ok ∧
          req.operation = WireOperation.registerTrainingArtifact.code then
          s₁.svc.applyCheckpointRetention limits.maxCheckpointRecords else (s₁.svc, false)) →
          s₁.svc.Passed c ∧ (c.2 → reply.status = WireStatus.ok ∧
            operationMutates req.operation req.payload) := by
        rintro _ rfl
        split
        · rename_i hop
          refine ⟨Service.passed_applyCheckpointRetention _ _, fun _ => ⟨hop.1, ?_⟩⟩
          rw [hop.2, operationMutates, WireOperation.ofCode_code]
        · exact ⟨s₁.svc.passed_refl, by simp⟩
      generalize (if reply.status = WireStatus.ok ∧
        req.operation = WireOperation.registerTrainingArtifact.code then
        s₁.svc.applyCheckpointRetention limits.maxCheckpointRecords else (s₁.svc, false)) = c
        at hcheck
      obtain ⟨hpassed, hflag⟩ := hcheck c rfl
      by_cases hok : reply.status = WireStatus.ok ∧ operationMutates req.operation req.payload = true
      · rw [if_pos hok]
        have hretained := Service.passed_applyRecordRetention c.1 limits env.retentionNowMs
        exact ⟨rfl, rfl, hpassed.pruned.trans hretained.pruned, fun _ => hok,
          fun h₁ h₂ => (hretained.kept h₂).trans (hpassed.kept h₁)⟩
      · rw [if_neg hok]
        refine ⟨rfl, rfl, hpassed.pruned, fun h => ?_, fun h₁ _ => hpassed.kept h₁⟩
        exact hflag (h.resolve_right (by simp))

/-- How a request is answered. -/
inductive Answered (cfg : Config) (env : Env) (s : ServiceState) (req : Request) : Answer → Prop
  | replayed {reply : Reply}
      (h : tryIdempotencyReplay s.svc req.operation req.payload = .handled reply) :
      Answered cfg env s req ⟨s, reply, none, true, false, false⟩
  | overQuota {pending : Option (ℕ × FieldText 96)} {reply : Reply}
      (h : tryIdempotencyReplay s.svc req.operation req.payload = .execute pending)
      (hq : quotaRefuses s.svc cfg.limits
        (estimateNewRecordCount s.svc req.payload req.operation) = true)
      (hreply : reply = quotaReply s.svc cfg.limits
        (estimateNewRecordCount s.svc req.payload req.operation)) :
      Answered cfg env s req
        ⟨⟨s.svc.complete pending req reply, s.stage⟩, reply, pending, false, false, false⟩
  | executed {pending : Option (ℕ × FieldText 96)} {out : ServiceState × Reply} {svc : Service}
      {checkpointPruned recordPruned : Bool}
      (h : tryIdempotencyReplay s.svc req.operation req.payload = .execute pending)
      (hq : quotaRefuses s.svc cfg.limits
        (estimateNewRecordCount s.svc req.payload req.operation) = false)
      (hout : dispatchOperation env cfg.storageRoot s req.operation req.payload = out)
      (hexec : Executed req out (⟨svc, out.1.stage⟩, out.2, checkpointPruned, recordPruned)) :
      Answered cfg env s req ⟨⟨svc.complete pending req out.2, out.1.stage⟩, out.2, pending, false,
        checkpointPruned, recordPruned⟩

/-- The request is executed: no stored answer decides it, and the quota admits it. -/
def Executes (cfg : Config) (svc : Service) (req : Request) : Prop :=
  (∃ pending, tryIdempotencyReplay svc req.operation req.payload = .execute pending) ∧
    quotaRefuses svc cfg.limits (estimateNewRecordCount svc req.payload req.operation) = false

lemma answerRequest_answered (cfg : Config) (env : Env) (s : ServiceState) (req : Request) :
    Answered cfg env s req (answerRequest cfg env s req) := by
  unfold answerRequest
  split
  · rename_i reply h
    exact .replayed h
  · rename_i pending h
    simp only
    cases hq : quotaRefuses s.svc cfg.limits
        (estimateNewRecordCount s.svc req.payload req.operation) with
    | true => exact .overQuota h hq rfl
    | false =>
        simp only [Bool.false_eq_true, if_false]
        have hexec := executeOperation_executed cfg env s req
        generalize hres : executeOperation cfg env s req = res at hexec
        obtain ⟨⟨svc, stage⟩, reply, cp, rp⟩ := res
        obtain rfl : reply = _ := hexec.reply
        obtain rfl : stage = _ := hexec.stage
        exact .executed h hq rfl hexec

lemma operation_ne_zero {req : Request} (h : operationMutates req.operation req.payload) :
    req.operation ≠ 0 := by
  unfold operationMutates at h
  split at h
  all_goals first
    | cases h; done
    | (rename_i hop
       rw [← WireOperation.code_of_ofCode hop]
       exact WireOperation.code_ne_zero _)

lemma responseFits_quotaReply {svc : Service} (h : svc.WellFormed) (limits : Option DaemonLimits)
    {n : Option ℕ} (hn : n.getD 0 < 10 ^ 95) :
    ResponseFits (quotaReply svc limits n).response := by
  have hfields : ∀ f ∈ [("status", ascii "capacity_exceeded"), ("quota", ascii "max_records"),
      ("max_records", showU64 (limits.elim 0 DaemonLimits.maxRecords)),
      ("record_count", decimal svc.recordCount), ("required_records", decimal (n.getD 0))],
      FieldOf {} f := by
    simp only [List.forall_mem_cons, List.not_mem_nil, false_implies, implies_true, and_true]
    exact ⟨fieldOf_const (by decide) (by decide), fieldOf_const (by decide) (by decide),
      fieldOf_u64 (by decide) _, fieldOf_decimal (by decide) h.recordCount_lt,
      fieldOf_decimal (by decide) hn⟩
  exact (replyOf_fields hfields (by simp)).fits

lemma estimateNewRecordCount_le (svc : Service) (p : Payload) (operation : UInt32) :
    (estimateNewRecordCount svc p operation).getD 0 ≤ 2 := by
  have hkey : ∀ k, newRecords svc k ≤ 1 := by
    intro k
    unfold newRecords
    split <;> omega
  have hone : (estimateNewKeyRecordCount svc p).getD 0 ≤ 1 := by
    unfold estimateNewKeyRecordCount
    cases p.getString "key" 96 with
    | none => simp
    | some k => simpa using hkey k
  have hkv : ∀ n, estimateNewKvRecordCount svc p = some n → n ≤ 1 := by
    intro n hn
    obtain ⟨h, -, rfl⟩ := Option.map_eq_some_iff.mp hn
    exact hkey _
  have hkv' : (estimateNewKvRecordCount svc p).getD 0 ≤ 1 := by
    cases h : estimateNewKvRecordCount svc p with
    | none => simp
    | some n => simpa using hkv n h
  have hentry : (estimateNewPrefixRecordCount svc p).getD 0 ≤ 2 := by
    unfold estimateNewPrefixRecordCount
    split
    · rename_i requestId prefixGroup _ _
      cases h : estimateNewKvRecordCount svc p with
      | none => simp
      | some n =>
          have := hkv n h
          have := hkey (keyOrEmpty (buildPrefixKeyFromParts requestId prefixGroup)).bytes
          simp only [Option.map_some, Option.getD_some]
          omega
    · simp
  unfold estimateNewRecordCount
  split
  all_goals first
    | exact hentry
    | omega
    | (split <;> simp)

namespace Answered

variable {cfg : Config} {env : Env} {s : ServiceState} {req : Request} {a : Answer}

/-- An answer that is to be kept is to a mutating request, and fits an idempotency record. -/
lemma responseFits (h : Answered cfg env s req a) (hs : s.svc.WellFormed)
    (hst : StageWellFormed s.stage) (hp : a.pending ≠ none) :
    operationMutates req.operation req.payload ∧ ResponseFits a.reply.response := by
  have hmutates : ∀ {pending}, tryIdempotencyReplay s.svc req.operation req.payload =
      .execute pending → pending ≠ none → operationMutates req.operation req.payload := by
    intro pending h hp
    obtain ⟨rfl, -⟩ | ⟨slot, key, rfl, hmut, -⟩ := tryIdempotencyReplay_execute h
    · exact absurd rfl hp
    · exact hmut
  cases h with
  | replayed _ => exact absurd rfl hp
  | overQuota h _ hreply =>
      refine ⟨hmutates h hp, hreply ▸ responseFits_quotaReply hs _ ?_⟩
      have hle := estimateNewRecordCount_le s.svc req.payload req.operation
      exact Nat.lt_of_le_of_lt hle (by norm_num)
  | executed h _ hout _ =>
      have hmut := hmutates h hp
      have heff := dispatchOperation_effect env cfg.storageRoot hs.recordKeys req
      rw [hout] at heff
      exact ⟨hmut, heff.response hs hst hmut⟩

/-- An answered request leaves well-formed tables, and the slot of its outcome to itself. -/
lemma wellFormed (h : Answered cfg env s req a) (hs : s.svc.WellFormed)
    (hst : StageWellFormed s.stage) : a.state.svc.WellFormed ∧ StageWellFormed a.state.stage ∧
      a.state.svc.Reserves a.pending := by
  have hfits : a.pending ≠ none → req.operation ≠ 0 ∧ ResponseFits a.reply.response := by
    intro hp
    obtain ⟨hmut, hfits⟩ := h.responseFits hs hst hp
    exact ⟨operation_ne_zero hmut, hfits⟩
  cases h with
  | replayed _ => exact ⟨hs, hst, s.svc.reserves_none⟩
  | @overQuota pending reply h _ hreply =>
      have hres := reserves_of_execute h
      exact ⟨hs.complete hres hfits, hst, hres.complete⟩
  | @executed pending out svc cp rp h _ hout hexec =>
      have heff := dispatchOperation_effect env cfg.storageRoot hs.recordKeys req
      rw [hout] at heff
      obtain ⟨hwout, hstage⟩ := heff.wellFormed hs hst
      have hshrinks := hexec.pruned.shrinks
      have hres : svc.Reserves pending := by
        have hbefore := reserves_of_execute h
        cases heff with
        | unchanged _ => exact hbefore.mono hshrinks.idempotency
        | staged _ _ => exact hbefore.mono hshrinks.idempotency
        | wrote _ hw _ =>
            obtain ⟨rs, hchain⟩ := hw.chain
            have hframe := Service.putAll_frame hchain.put
            refine hbefore.mono fun i r hr => ?_
            have := hshrinks.idempotency i r hr
            rw [hframe] at this
            exact this
        | restored _ _ _ himp =>
            have hkey := idempotencyKey_of_importSnapshotText himp
            obtain ⟨rfl, -⟩ | ⟨slot, key, -, -, hk, -⟩ := tryIdempotencyReplay_execute h
            · exact svc.reserves_none
            · rw [hkey] at hk
              cases hk
        | committed _ _ _ =>
            intro slot key hp
            obtain ⟨hslot, hne, -⟩ := hbefore slot key hp
            refine ⟨hslot, hne, fun i r hr => ?_⟩
            have := hshrinks.idempotency i r hr
            rw [show ∀ svc st, (Service.install svc (RestoreStage.committed st)).idempotency =
              SlotTable.empty from fun _ _ => rfl, SlotTable.get_empty] at this
            cases this
      exact ⟨(hexec.pruned.wellFormed hwout).complete hres hfits, hstage, hres.complete⟩

/-- An audited request has an operation. -/
lemma operation_ne_zero_of_audit (h : Answered cfg env s req a) (haudit : shouldAudit req a.reply) :
    req.operation ≠ 0 := by
  cases hop : WireOperation.ofCode req.operation with
  | some o => exact WireOperation.code_of_ofCode hop ▸ o.code_ne_zero
  | none =>
      have hmut : operationMutates req.operation req.payload = false := by
        simp only [operationMutates, hop]
      rw [shouldAudit, hmut, Bool.false_or] at haudit
      cases h with
      | replayed h => simp [tryIdempotencyReplay, hmut] at h
      | overQuota _ _ hreply =>
          rw [hreply] at haudit
          exact absurd haudit (by show ¬ WireStatus.capacityExceeded.isFailClosed = true; decide)
      | executed _ _ hout _ =>
          rw [← hout] at haudit
          simp only [dispatchOperation, hop] at haudit
          exact absurd haudit (by show ¬ WireStatus.unsupported.isFailClosed = true; decide)

end Answered

/-! ## Audit events -/

namespace Service

variable {svc : Service}

lemma nextSequence_ne_zero (svc : Service) : svc.nextSequence ≠ 0 := by
  unfold nextSequence
  split
  · decide
  · assumption

lemma WellFormed.recordAudit (h : svc.WellFormed) {e : AuditEvent} (hseq : e.sequence ≠ 0)
    (hop : e.operation ≠ 0) : (svc.recordAudit e).WellFormed :=
  h.withAudit (h.validAudit.put hseq hop) _ _

lemma WellFormed.applyAuditRetention (h : svc.WellFormed) (maxEvents : UInt64) :
    (svc.applyAuditRetention maxEvents).1.WellFormed := by
  unfold Service.applyAuditRetention
  split
  · exact h
  · exact h.withAudit (h.validAudit.keep _) _ _

/-- Audit retention touches the ring and its count. -/
lemma applyAuditRetention_frame (svc : Service) (maxEvents : UInt64) :
    (svc.applyAuditRetention maxEvents).1 =
      { svc with
        audit := (svc.applyAuditRetention maxEvents).1.audit
        auditEventCount := (svc.applyAuditRetention maxEvents).1.auditEventCount } := by
  unfold applyAuditRetention
  split <;> rfl

end Service

/-- What the audit stage does: nothing, or one event and a retention pass. -/
lemma auditRequest_cases (cfg : Config) (env : Env) (a : Answer) (req : Request) :
    (shouldAudit req a.reply = false ∧ auditRequest cfg env a req = ⟨a.state.svc, none, false⟩) ∨
    (shouldAudit req a.reply = true ∧ ∃ e, e = auditEvent a.state.svc.nextSequence env.monotonicMs
        req a.reply a.replayed ∧ auditRequest cfg env a req =
        ⟨((a.state.svc.recordAudit e).applyAuditRetention
            (cfg.limits.elim 0 DaemonLimits.maxAuditEvents)).1, some e,
          ((a.state.svc.recordAudit e).applyAuditRetention
            (cfg.limits.elim 0 DaemonLimits.maxAuditEvents)).2⟩) := by
  unfold auditRequest Service.appendAuditEvent
  cases h : shouldAudit req a.reply with
  | false => exact .inl ⟨rfl, rfl⟩
  | true => exact .inr ⟨rfl, _, rfl, rfl⟩

/-! ## Durable writes -/

/-- What the durable writes leave of the service: nothing changed, or the request was answered as
failed and audited again. -/
lemma persistRequest_cases (cfg : Config) (env : Env) (w : Writes) (disk : Disk) (a : Answer)
    (req : Request) (au : Audited) :
    ((persistRequest cfg env w disk a req au).svc = au.svc ∧
      (persistRequest cfg env w disk a req au).reply = a.reply) ∨
    (operationMutates req.operation req.payload ∧ a.reply.status = WireStatus.ok ∧
      cfg.storePath = true ∧ au.event ≠ none ∧
      (persistRequest cfg env w disk a req au).svc =
        (au.svc.complete a.pending req saveFailedReply).recordAudit
          (auditEvent au.svc.nextSequence env.failureMonotonicMs req saveFailedReply a.replayed) ∧
      (persistRequest cfg env w disk a req au).reply = saveFailedReply) := by
  unfold persistRequest
  split
  · rename_i e hevent hpath
    unfold persist
    simp only
    split
    · exact .inl ⟨rfl, rfl⟩
    split
    · rename_i hfail
      refine .inr ⟨hfail.2, hfail.1, hpath, by simp [hevent], ?_, rfl⟩
      have hshould : shouldAudit req saveFailedReply = true := by
        rw [shouldAudit, hfail.2, Bool.true_or]
      have hseq : (au.svc.complete a.pending req saveFailedReply).nextSequence =
          au.svc.nextSequence := by
        unfold Service.complete
        split <;> rfl
      simp only [Service.appendAuditEvent, hshould, if_true, hseq]
    · exact .inl ⟨rfl, rfl⟩
  · exact .inl ⟨rfl, rfl⟩

lemma responseFits_saveFailedReply : ResponseFits saveFailedReply.response :=
  responseFits_unlines (by decide) (by decide)

/-! ## Requests and runs -/

/-- The tables of a daemon, live and staged, are well formed. -/
def Daemon.WellFormed (d : Daemon) : Prop :=
  d.state.svc.WellFormed ∧ StageWellFormed d.state.stage

lemma Service.Reserves.audited {svc svc' : Service} {pending : Option (ℕ × FieldText 96)}
    (h : svc.Reserves pending) (heq : svc'.idempotency = svc.idempotency) :
    svc'.Reserves pending :=
  h.mono fun _ _ hr => heq ▸ hr

lemma wellFormed_auditRequest {cfg : Config} {env : Env} {s : ServiceState} {req : Request}
    {a : Answer} (h : Answered cfg env s req a) (hs : a.state.svc.WellFormed) :
    (auditRequest cfg env a req).svc.WellFormed ∧
      (auditRequest cfg env a req).svc.idempotency = a.state.svc.idempotency := by
  obtain ⟨-, heq⟩ | ⟨haudit, e, he, heq⟩ := auditRequest_cases cfg env a req
  · rw [heq]
    exact ⟨hs, rfl⟩
  · rw [heq]
    refine ⟨(hs.recordAudit ?_ ?_).applyAuditRetention _, ?_⟩
    · rw [he]
      exact Service.nextSequence_ne_zero _
    · rw [he]
      exact h.operation_ne_zero_of_audit haudit
    · simp only
      rw [Service.applyAuditRetention_frame]
      rfl

/-- One request keeps the tables well formed. -/
lemma Daemon.WellFormed.step {cfg : Config} {d : Daemon} (h : d.WellFormed) (st : Step) :
    (d.step cfg st).WellFormed := by
  have ha := answerRequest_answered cfg st.env d.state st.req
  obtain ⟨hw, hstage, hres⟩ := ha.wellFormed h.1 h.2
  obtain ⟨hau, hidem⟩ := wellFormed_auditRequest ha hw
  refine ⟨?_, hstage⟩
  show (persistRequest cfg st.env st.writes d.disk _ st.req _).svc.WellFormed
  obtain ⟨hsvc, -⟩ | ⟨hmut, -, -, -, hsvc, -⟩ := persistRequest_cases cfg st.env st.writes d.disk
    (answerRequest cfg st.env d.state st.req) st.req
    (auditRequest cfg st.env (answerRequest cfg st.env d.state st.req) st.req)
  · rw [hsvc]
    exact hau
  · rw [hsvc]
    refine (hau.complete (hres.audited hidem) fun _ => ?_).recordAudit
      (Service.nextSequence_ne_zero _) (operation_ne_zero hmut)
    exact ⟨operation_ne_zero hmut, responseFits_saveFailedReply⟩

lemma Service.WellFormed.startRetention {svc : Service} (h : svc.WellFormed) (limits : DaemonLimits)
    (nowMs : UInt64) : (svc.startRetention limits nowMs).1.WellFormed :=
  (Service.passed_applyRecordRetention _ limits nowMs).pruned.wellFormed
    ((Service.passed_applyCheckpointRetention _ _).pruned.wellFormed (h.applyAuditRetention _))

/-- **Every reachable state is well formed.** -/
theorem Daemon.Reachable.wellFormed {cfg : Config} {d : Daemon} (h : Daemon.Reachable cfg d) :
    d.WellFormed := by
  induction h with
  | start h => exact ⟨wellFormed_loadDurableStore h, by rintro _ ⟨⟩⟩
  | retention _ limits nowMs ih => exact ⟨ih.1.startRetention limits nowMs, ih.2⟩
  | step _ st ih => exact ih.step st

/-- **The record table.**  In every reachable state, in the live service and in a staged one, the count
is the number of used slots and at most 1024, every record has a key, and no key is used twice. -/
theorem record_table_sound {cfg : Config} {d : Daemon} (h : Daemon.Reachable cfg d) {svc : Service}
    (hsvc : svc = d.state.svc ∨ ∃ st, d.state.stage = some st ∧ svc = st.svc) :
    svc.recordCount = svc.records.count ∧ svc.recordCount ≤ 1024 ∧
      (∀ i r, svc.records.get i = some r → r.key.bytes ≠ []) ∧
      (∀ i j r q, svc.records.get i = some r → svc.records.get j = some q →
        r.key.bytes = q.key.bytes → i = j) := by
  have hw : svc.WellFormed := by
    rcases hsvc with rfl | ⟨st, hst, rfl⟩
    · exact h.wellFormed.1
    · exact h.wellFormed.2 st hst
  refine ⟨hw.recordCount, ?_, fun i r hr => ?_, hw.recordKeys⟩
  · rw [hw.recordCount]
    exact SlotTable.count_le _
  · exact (hw.recordValid r (SlotTable.mem_entries_of_get hr)).1

/-- Puts of two objects. -/
def Step.putA : Step := .idle .putObject ⟨ascii "key=a", by decide, by decide⟩

def Step.putB : Step :=
  .idle .putObject ⟨unlines [ascii "key=b", ascii "version=7"], by decide, by decide⟩

/-- Two objects, and a start that keeps one of them and one audit event. -/
def Daemon.keptOne : Daemon :=
  (Daemon.fresh.run .durable [.putA, .putB]).startRetention .durable
    { maxRetainedRecords := 1, maxAuditEvents := 1 } 0

theorem record_table_sound_keptOne :
    Daemon.keptOne.state.svc.records.entries.map (·.key.bytes) = [ascii "b"] ∧
    Daemon.keptOne.state.svc.recordCount = Daemon.keptOne.state.svc.records.count ∧
    Daemon.keptOne.state.svc.recordCount ≤ 1024 := by
  have hreach : Daemon.Reachable .durable Daemon.keptOne :=
    ((Daemon.reachable_fresh .durable).run [.putA, .putB]).retention _ 0
  have h := record_table_sound hreach (.inl rfl)
  exact ⟨by decide +kernel, h.1, h.2.1⟩

/-! ## The record table after a request -/

/-- The same record table. -/
def SameRecords (svc svc' : Service) : Prop :=
  svc'.records = svc.records ∧ svc'.recordCount = svc.recordCount

lemma SameRecords.trans {svc svc₁ svc₂ : Service} (h : SameRecords svc svc₁)
    (h' : SameRecords svc₁ svc₂) : SameRecords svc svc₂ :=
  ⟨h'.1.trans h.1, h'.2.trans h.2⟩

lemma records_complete (svc : Service) (pending : Option (ℕ × FieldText 96)) (req : Request)
    (reply : Reply) : (svc.complete pending req reply).records = svc.records ∧
      (svc.complete pending req reply).recordCount = svc.recordCount := by
  unfold Service.complete
  split <;> exact ⟨rfl, rfl⟩

/-- Auditing and the durable writes leave the record table as the answer left it. -/
lemma Daemon.step_records (cfg : Config) (d : Daemon) (st : Step) :
    (d.step cfg st).state.svc.records =
        (answerRequest cfg st.env d.state st.req).state.svc.records ∧
      (d.step cfg st).state.svc.recordCount =
        (answerRequest cfg st.env d.state st.req).state.svc.recordCount := by
  have haudit : ∀ a, (auditRequest cfg st.env a st.req).svc.records = a.state.svc.records ∧
      (auditRequest cfg st.env a st.req).svc.recordCount = a.state.svc.recordCount := by
    intro a
    obtain ⟨-, heq⟩ | ⟨-, e, -, heq⟩ := auditRequest_cases cfg st.env a st.req
    · rw [heq]
      exact ⟨rfl, rfl⟩
    · rw [heq]
      simp only
      rw [Service.applyAuditRetention_frame]
      exact ⟨rfl, rfl⟩
  have hshow : (d.step cfg st).state.svc = (persistRequest cfg st.env st.writes d.disk
    (answerRequest cfg st.env d.state st.req) st.req
    (auditRequest cfg st.env (answerRequest cfg st.env d.state st.req) st.req)).svc := rfl
  rw [hshow]
  obtain ⟨hsvc, -⟩ | ⟨-, -, -, -, hsvc, -⟩ := persistRequest_cases cfg st.env st.writes d.disk
    (answerRequest cfg st.env d.state st.req) st.req
    (auditRequest cfg st.env (answerRequest cfg st.env d.state st.req) st.req)
  · rw [hsvc]
    exact haudit _
  · rw [hsvc]
    have hc := records_complete
      (auditRequest cfg st.env (answerRequest cfg st.env d.state st.req) st.req).svc
      (answerRequest cfg st.env d.state st.req).pending st.req saveFailedReply
    exact ⟨hc.1.trans (haudit _).1, hc.2.trans (haudit _).2⟩

/-- A request that is not executed keeps the records. -/
lemma sameRecords_of_not_executes {cfg : Config} {d : Daemon} {st : Step}
    (h : ¬ Executes cfg d.state.svc st.req) :
    SameRecords d.state.svc (d.step cfg st).state.svc := by
  have hsame : SameRecords (answerRequest cfg st.env d.state st.req).state.svc
      (d.step cfg st).state.svc := d.step_records cfg st
  have ha := answerRequest_answered cfg st.env d.state st.req
  generalize answerRequest cfg st.env d.state st.req = a at ha hsame
  cases ha with
  | replayed _ => exact hsame
  | overQuota _ _ _ => exact SameRecords.trans (records_complete _ _ _ _) hsame
  | executed hexec hq _ _ => exact absurd ⟨⟨_, hexec⟩, hq⟩ h

/-! ## The answer -/

/-- The journal takes the request's append, and its append and its save succeed. -/
def Writes.Land (w : Writes) (disk : Disk) : Prop :=
  journalNeedsHeader disk.journal ≠ none ∧ w.append = .done ∧ w.save = true

/-- An answer that is made durable at once stands. -/
lemma persistRequest_reply (cfg : Config) (env : Env) {w : Writes} {disk : Disk} {a : Answer}
    {req : Request} (au : Audited)
    (h : cfg.storePath = true → a.reply.status = WireStatus.ok → w.Land disk) :
    (persistRequest cfg env w disk a req au).reply = a.reply := by
  unfold persistRequest
  split
  · rename_i e _ hpath
    unfold persist
    by_cases hok : a.reply.status = WireStatus.ok
    · obtain ⟨hheader, happend, hsave⟩ := h hpath hok
      obtain ⟨needs, hneeds⟩ := Option.ne_none_iff_exists'.mp hheader
      simp only [Disk.append, appendJournal, hneeds, happend, hsave, Bool.and_self, if_true]
    · simp only [hok, false_and, if_false]
      split <;> rfl
  · rfl

/-- The answer the client gets. -/
def Daemon.answer (cfg : Config) (d : Daemon) (st : Step) : Reply :=
  (handleOperation cfg d st.req st.env st.writes).reply

/-- The answer of the first stage stands, unless a success could not be made durable. -/
lemma Daemon.answer_cases (cfg : Config) (d : Daemon) (st : Step) :
    d.answer cfg st = (answerRequest cfg st.env d.state st.req).reply ∨
    ((answerRequest cfg st.env d.state st.req).reply.status = WireStatus.ok ∧
      cfg.storePath = true ∧ ¬ st.writes.Land d.disk ∧ d.answer cfg st = saveFailedReply) := by
  have hanswer : d.answer cfg st = (persistRequest cfg st.env st.writes d.disk
    (answerRequest cfg st.env d.state st.req) st.req
    (auditRequest cfg st.env (answerRequest cfg st.env d.state st.req) st.req)).reply := rfl
  rw [hanswer]
  by_cases hland : cfg.storePath = true →
      (answerRequest cfg st.env d.state st.req).reply.status = WireStatus.ok →
        st.writes.Land d.disk
  · exact .inl (persistRequest_reply cfg st.env _ hland)
  · obtain ⟨-, hreply⟩ | ⟨-, hok, hpath, -, -, hreply⟩ := persistRequest_cases cfg st.env st.writes
      d.disk (answerRequest cfg st.env d.state st.req) st.req
      (auditRequest cfg st.env (answerRequest cfg st.env d.state st.req) st.req)
    · exact .inl hreply
    · exact .inr ⟨hok, hpath, fun h => hland fun _ _ => h, hreply⟩

end MemService
