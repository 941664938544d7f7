import MemService.Room

/-!
# The record quota

Before it executes a request, the daemon estimates how many records the request will add and refuses
it if the record count would pass the limit.  For a put the estimate is exact.  For a published or
registered block it leaves the group record out, and for a published block the prefix entry too,
although the bootstrap chain allocates both.  `recordCount_le_quota` says that this is the only way
past the limit.
-/

open ByteText CNumeral

namespace MemService

/-! ## How many records a request adds -/

lemma ChainOutcome.recordCount_le {svc : Service} {req : Request} {out : Service × Reply}
    (hw : svc.WellFormed) (h : ChainOutcome svc req out) :
    out.1.recordCount ≤ svc.recordCount ∨ ∃ ctx, Bootstraps svc req ctx ∧
      out.1.recordCount ≤ svc.recordCount + svc.missing ctx := by
  cases h with
  | untouched => exact .inl le_rfl
  | @cutShort ctx rs svc₁ hboot hcut hput =>
      refine .inr ⟨ctx, hboot, ?_⟩
      cases hcut with
      | beforePrefix hp hg hb hgroup _ _ =>
          have hof : GroupOf _ ctx.blockHash _ :=
            Service.groupOf_prefixGroupRecord (fun _ hr => Service.key_of_findRecord hr) hgroup
          refine recordCount_putAll_le hw hp hg hb ?_ ?_ hput
          · intro r hr
            obtain rfl := List.mem_singleton.mp hr
            exact Service.valid_groupEntry hg hgroup
          · intro r hr
            obtain rfl := List.mem_singleton.mp hr
            exact .inl (congrArg FieldText.bytes hof.key)
      | beforeBlock hp hg hb hgroup _ _ =>
          have hof : GroupOf _ ctx.blockHash _ :=
            Service.groupOf_prefixGroupRecord (fun _ hr => Service.key_of_findRecord hr) hgroup
          refine recordCount_putAll_le hw hp hg hb ?_ ?_ hput
          · simp only [List.forall_mem_cons, List.not_mem_nil, false_implies, implies_true,
              and_true]
            exact ⟨Service.valid_groupEntry hg hgroup, Service.valid_prefixEntry hp⟩
          · simp only [List.forall_mem_cons, List.not_mem_nil, false_implies, implies_true,
              and_true]
            exact ⟨.inl (congrArg FieldText.bytes hof.key), .inr (.inl rfl)⟩
  | @done ctx extra svc' reply hboot c hextra hput _ =>
      refine .inr ⟨ctx, hboot, ?_⟩
      have hwrites : ∀ r ∈ c.records ++ extra,
          c.Writes (req.payload.getState KvcacheState.filled) r := by
        intro r hr
        rcases hextra with ⟨-, rfl⟩ | ⟨-, rfl⟩
        · exact c.writes_published _ hr
        · exact c.writes_registered _ hr
      exact recordCount_putAll_le hw c.buildPrefixKey c.buildGroupKey c.buildBlockKey
        (fun r hr => c.valid _ (hwrites r hr)) (fun r hr => c.keyBytes _ (hwrites r hr)) hput

/-! ## Admission -/

/-- An admitted request with an estimate stays within the limit, if the estimate is right. -/
lemma quota_admits {svc : Service} {l : DaemonLimits} {n : ℕ} (hpos : l.maxRecords > 0)
    (hcount : svc.recordCount ≤ l.maxRecords.toNat)
    (h : quotaRefuses svc (some l) (some n) = false) :
    svc.recordCount + n ≤ l.maxRecords.toNat := by
  by_cases hn : n = 0
  · omega
  · simp only [quotaRefuses, hpos, decide_true, Bool.true_and, Bool.and_eq_false_iff,
      bne_eq_false_iff_eq, Option.some.injEq, hn, false_or, decide_eq_false_iff_not] at h
    omega

lemma quota_refuses_none {svc : Service} {l : DaemonLimits} (hpos : l.maxRecords > 0) :
    quotaRefuses svc (some l) none = true := by
  simp [quotaRefuses, hpos]

lemma SingleWrite.recordCount_le {svc : Service} {p : Payload} {kind : RecordKind} {clean : Prop}
    {out : Service × Reply} (h : SingleWrite svc p kind clean out) :
    out.1.recordCount ≤ svc.recordCount ∨ ∃ n, estimateNewKeyRecordCount svc p = some n ∧
      out.1.recordCount ≤ svc.recordCount + n := by
  cases h with
  | refused _ => exact .inl le_rfl
  | @wrote r svc' reply hkey _ hput _ _ =>
      refine .inr ⟨newRecords svc r.keyBytes, ?_, ?_⟩
      · rw [estimateNewKeyRecordCount, (Payload.getField_eq_some hkey).1]
        rfl
      · obtain ⟨t, -, rfl⟩ := Service.putRecord_eq_some hput
        exact le_rfl

/-- A block request that is executed finds room under the limit for every record of its block that
does not exist yet, the group record and the prefix entry included. -/
def QuotaCovers (cfg : Config) (max : ℕ) (d : Daemon) (st : Step) : Prop :=
  max < maxRecords → Executes cfg d.state.svc st.req →
    ∀ ctx, Bootstraps d.state.svc st.req ctx →
      d.state.svc.recordCount + d.state.svc.missing ctx ≤ max

/-- What an admitted request dispatches to stays within the limit. -/
lemma recordCount_dispatch_le {cfg : Config} {l : DaemonLimits} (hl : cfg.limits = some l)
    (hpos : l.maxRecords > 0) (env : Env) {s : ServiceState} {req : Request}
    (hw : s.svc.WellFormed) (hcount : s.svc.recordCount ≤ l.maxRecords.toNat)
    (hq : quotaRefuses s.svc cfg.limits
      (estimateNewRecordCount s.svc req.payload req.operation) = false)
    (hcover : ∀ ctx, Bootstraps s.svc req ctx →
      s.svc.recordCount + s.svc.missing ctx ≤ l.maxRecords.toNat) :
    (dispatchOperation env cfg.storageRoot s req.operation req.payload).1.svc.recordCount ≤
      l.maxRecords.toNat := by
  have heff := dispatchOperation_effect env cfg.storageRoot hw.recordKeys req
  generalize dispatchOperation env cfg.storageRoot s req.operation req.payload = out at heff
  rw [hl] at hq
  -- a request that replaces the tables has no estimate and is refused
  have hrefused : estimateNewRecordCount s.svc req.payload req.operation ≠ none := by
    intro hnone
    rw [hnone, quota_refuses_none hpos] at hq
    cases hq
  cases heff with
  | unchanged _ => exact hcount
  | staged _ _ => exact hcount
  | wrote _ _ hwritten =>
      cases hwritten with
      | single hest hsw =>
          rcases hsw.recordCount_le with hle | ⟨n, hn, hle⟩
          · exact hle.trans hcount
          · rw [hest, hn] at hq
            exact hle.trans (quota_admits hpos hcount hq)
      | chain hout =>
          rcases hout.recordCount_le hw with hle | ⟨ctx, hboot, hle⟩
          · exact hle.trans hcount
          · exact hle.trans (hcover ctx hboot)
  | restored hmut hop _ _ =>
      refine absurd ?_ hrefused
      rw [hop] at hmut ⊢
      simp only [estimateNewRecordCount, WireOperation.ofCode_code, hmut, if_true]
  | committed hmut hop _ =>
      refine absurd ?_ hrefused
      rw [hop] at hmut ⊢
      simp only [estimateNewRecordCount, WireOperation.ofCode_code, hmut, if_true]

/-- One request stays within the limit. -/
lemma recordCount_step_le {cfg : Config} {l : DaemonLimits} (hl : cfg.limits = some l)
    (hpos : l.maxRecords > 0) {d : Daemon} {st : Step} (hw : d.WellFormed)
    (hcount : d.state.svc.recordCount ≤ l.maxRecords.toNat)
    (hcover : QuotaCovers cfg l.maxRecords.toNat d st) :
    (d.step cfg st).state.svc.recordCount ≤ l.maxRecords.toNat := by
  by_cases hbig : maxRecords ≤ l.maxRecords.toNat
  · rw [(hw.step st).1.recordCount]
    exact (SlotTable.count_le _).trans hbig
  rw [(d.step_records cfg st).2]
  have ha := answerRequest_answered cfg st.env d.state st.req
  generalize answerRequest cfg st.env d.state st.req = a at ha
  cases ha with
  | replayed _ => exact hcount
  | overQuota _ _ _ =>
      rw [(records_complete _ _ _ _).2]
      exact hcount
  | executed h hq hout hexec =>
      rw [(records_complete _ _ _ _).2]
      refine hexec.pruned.recordCount_le.trans ?_
      rw [← hout]
      exact recordCount_dispatch_le hl hpos st.env hw.1 hcount hq
        fun ctx hboot => hcover (by omega) ⟨⟨_, h⟩, hq⟩ ctx hboot

/-- **The quota.**  In a run that starts within a configured limit and whose block requests all find
room under it for the records they lack, the record count never passes the limit. -/
theorem recordCount_le_quota {cfg : Config} {l : DaemonLimits} (hl : cfg.limits = some l)
    (hpos : l.maxRecords > 0) {d : Daemon} (h : Daemon.Reachable cfg d)
    (hcount : d.state.svc.recordCount ≤ l.maxRecords.toNat) {steps : List Step}
    (hsteps : d.Along cfg (QuotaCovers cfg l.maxRecords.toNat) steps) (n : ℕ) :
    (d.run cfg (steps.take n)).state.svc.recordCount ≤ l.maxRecords.toNat := by
  refine (Run.Along.invariant (I := fun d : Daemon =>
    d.WellFormed ∧ d.state.svc.recordCount ≤ l.maxRecords.toNat) hsteps ⟨h.wellFormed, hcount⟩
    (fun d st hd hcover => ⟨hd.1.step st, ?_⟩) n).2
  exact recordCount_step_le hl hpos hd.1 hd.2 hcover

/-- A daemon that may hold `max` records. -/
def Config.holding (max : UInt64) : Config :=
  ⟨true, true, some { maxRecords := max }⟩

/-- Three records are room enough for a first block. -/
theorem recordCount_le_quota_first_block :
    (Daemon.fresh.run (Config.holding 3) [Step.publishBlock]).state.svc.recordCount ≤ 3 := by
  have hcovered : Daemon.fresh.Along (Config.holding 3) (QuotaCovers (Config.holding 3) 3)
      [Step.publishBlock] := by
    refine ⟨fun _ _ ctx _ => ?_, trivial⟩
    have hzero : Daemon.fresh.state.svc.recordCount = 0 := rfl
    rw [hzero, Nat.zero_add]
    exact Service.missing_le_three _ ctx
  have hlimits : (Config.holding 3).limits = some { maxRecords := 3 } := rfl
  exact recordCount_le_quota hlimits (by decide) (Daemon.reachable_fresh (Config.holding 3))
    (by decide) hcovered 1

/-- With room for one record the estimate admits a first block, whose group and prefix entry then
take the table to three. -/
theorem recordCount_passes_quota :
    Daemon.Reachable (Config.holding 1) Daemon.fresh ∧
    Daemon.fresh.state.svc.recordCount = 0 ∧
    (Daemon.fresh.run (Config.holding 1) [Step.publishBlock]).state.svc.recordCount = 3 :=
  ⟨Daemon.reachable_fresh _, rfl, by decide +kernel⟩

end MemService
