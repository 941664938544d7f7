import MemService.MonotoneResults
import MemService.StagedRestore

/-!
# The three records of a block

The prefix entry, the group record and the block record of a request mirror one another: state,
placement, hot view and result.  `mem_service_prefix_matches_block_meta` is what it means for a prefix
entry to mirror a block, and the updates of the metadata core carry every change of a block over to
the group.

The bootstrap chain leaves the three of them hot and in agreement.  The two handlers then set the
state the request asks for by hand: a publication on the block alone, a registration on the prefix
entry and the block.  Neither carries it over to the group, so the three agree after a request exactly
if it asks for the state the chain has left.
-/

open ByteText CNumeral

namespace MemService

/-! ## Agreement -/

/-- `mem_service_prefix_matches_block_meta`. -/
def prefixMatchesBlockMeta (prefixMeta blockMeta : Record) : Bool :=
  if prefixMeta.kind ≠ RecordKind.requestPrefix ∨ blockMeta.kind ≠ RecordKind.blockMeta then false
  else decide (prefixMeta.lastResultSegment ≠ 0 ∧ blockMeta.lastResultSegment ≠ 0 ∧
    prefixMeta.blockHash = blockMeta.blockHash ∧
    prefixMeta.hotSegmentId = blockMeta.hotSegmentId ∧
    prefixMeta.placementNode = blockMeta.placementNode ∧
    prefixMeta.placementLevel = blockMeta.placementLevel ∧
    prefixMeta.state = blockMeta.state)

/-- The group record says of its last block what the block record says. -/
structure Record.Mirrors (group block : Record) : Prop where
  state : group.state = block.state
  placementNode : group.placementNode = block.placementNode
  placementLevel : group.placementLevel = block.placementLevel
  hotSegmentId : group.hotSegmentId = block.hotSegmentId
  lastResultSegment : group.lastResultSegment = block.lastResultSegment

/-- The three records of a block agree. -/
def Coherent (entry group block : Record) : Prop :=
  prefixMatchesBlockMeta entry block = true ∧ group.Mirrors block

/-- The records a request finds under the three keys of its block. -/
structure Service.HoldsBlock (svc : Service) (ctx : BlockCtx) (entry group block : Record) :
    Prop where
  entry : svc.findRecord (keyOrEmpty ctx.buildPrefixKey).bytes = some entry
  group : svc.findRecord (keyOrEmpty ctx.buildGroupKey).bytes = some group
  block : svc.findRecord (keyOrEmpty ctx.buildBlockKey).bytes = some block

/-! ## What the handlers leave -/

namespace Service.BootstrapChain

variable {svc svc' : Service} {ctx : BlockCtx} (c : svc.BootstrapChain ctx)

/-- After the chain the group mirrors the block. -/
lemma groupWithResult_mirrors : c.groupWithResult.Mirrors (ctx.blockResult c.blockKey) := by
  obtain ⟨base, group, v, -, -, -, hg⟩ := Service.prefixGroupRecord_cases c.groupResult
  rw [hg]
  exact ⟨rfl, rfl, rfl, rfl, rfl⟩

variable {c} in
/-- The finished records agree exactly if the request asks for the state of the chain. -/
lemma Finished.coherent_iff {req : Request} {entry block : Record}
    (h : c.Finished req entry block) (hres : ctx.resultSegmentId ≠ 0) :
    Coherent entry c.groupWithResult block ↔
      req.payload.getState KvcacheState.filled = KvcacheState.hot := by
  have hchain := c.groupWithResult_mirrors
  -- the group stays hot, whatever the request asks for
  have hgroup : c.groupWithResult.state = KvcacheState.hot := hchain.state
  cases h with
  | hot hhot =>
      refine iff_of_true ⟨?_, hchain⟩ hhot
      simp [prefixMatchesBlockMeta, BlockCtx.prefixResult, BlockCtx.prefixEntry,
        BlockCtx.blockResult, BlockCtx.blockEntry, hres]
  | published _ hhot => exact iff_of_false (fun h => hhot (h.2.state.symm.trans hgroup)) hhot
  | registered _ hhot => exact iff_of_false (fun h => hhot (h.2.state.symm.trans hgroup)) hhot

end Service.BootstrapChain

/-- A request that takes its block through the bootstrap chain: a publication, or a registration that
gets past the checks. -/
structure TakesChain (svc : Service) (req : Request) (ctx : BlockCtx) : Prop where
  context : fillBlockCtx req.payload = some ctx
  operation : req.operation = WireOperation.publishKvSegment.code ∨
    (req.operation = WireOperation.registerPrefixEntry.code ∧ RegisterAdmits svc ctx)

lemma registerPrefix_of_admits {svc : Service} {p : Payload} {ctx : BlockCtx}
    (hctx : fillBlockCtx p = some ctx) (hadm : RegisterAdmits svc ctx) :
    (∀ svc₁, svc.bootstrapKvcache ctx = .error svc₁ →
      registerPrefix svc p = (svc₁, .fail WireStatus.internal)) ∧
    (∀ svc₁ r, svc.bootstrapKvcache ctx = .ok (svc₁, r) →
      registerPrefix svc p = registerState svc₁ ctx (keyOrEmpty ctx.buildPrefixKey)
        (p.getState KvcacheState.filled)) := by
  unfold registerPrefix
  simp only [hctx, if_neg hadm.1]
  cases hentry : svc.findRecord (keyOrEmpty ctx.buildPrefixKey).bytes with
  | none => exact ⟨fun _ hb => by rw [hb], fun _ _ hb => by rw [hb]⟩
  | some entry =>
      obtain ⟨hkind, hlt⟩ := hadm.2 entry hentry
      have hne : entry.lastResultSegment ≠ ctx.resultSegmentId := UInt64.ne_of_lt hlt
      have hle : ¬ entry.lastResultSegment > ctx.resultSegmentId := UInt64.lt_asymm hlt
      simp only [hkind, hne, hle, ne_eq, not_true_eq_false, false_and, or_self, if_false]
      exact ⟨fun _ hb => by rw [hb], fun _ _ hb => by rw [hb]⟩

/-- A request that is dispatched with success has gone through the whole chain. -/
lemma TakesChain.finished {svc : Service} (hu : svc.records.UniqueKeys Record.keyBytes)
    {req : Request} {ctx : BlockCtx} (h : TakesChain svc req ctx) {env : Env} {storageRoot : Bool}
    {stage : Option RestoreStage} {out : ServiceState × Reply}
    (hout : dispatchOperation env storageRoot ⟨svc, stage⟩ req.operation req.payload = out)
    (hok : out.2.status = WireStatus.ok) :
    ∃ (c : svc.BootstrapChain ctx) (entry block : Record), c.Finished req entry block ∧
      out.1.svc.HoldsBlock ctx entry c.groupWithResult block := by
  have hdone : ∃ (c : svc.BootstrapChain ctx) (extra : List Record),
      ((req.operation = WireOperation.publishKvSegment.code ∧
          extra = c.published (req.payload.getState KvcacheState.filled)) ∨
        (req.operation = WireOperation.registerPrefixEntry.code ∧
          extra = c.registered (req.payload.getState KvcacheState.filled))) ∧
      svc.putAll (c.records ++ extra) = some out.1.svc := by
    rcases h.operation with hop | ⟨hop, hadm⟩
    · have hpublish := publishKv_outcome hu req.payload
      rw [hop] at hout
      obtain rfl : (⟨(publishKv svc req.payload).1, stage⟩, (publishKv svc req.payload).2) = out :=
        hout
      generalize publishKv svc req.payload = res at hpublish hok
      cases hpublish with
      | noContext hnone =>
          rw [h.context] at hnone
          cases hnone
      | failed _ _ => exact absurd hok (show ¬ WireStatus.internal = WireStatus.ok by decide)
      | done hctx c hput _ _ =>
          rw [h.context] at hctx
          cases hctx
          exact ⟨c, _, .inl ⟨hop, rfl⟩, hput⟩
    · obtain ⟨herror, hreached⟩ := registerPrefix_of_admits h.context hadm
      have hchain := Service.bootstrapKvcache_outcome hu ctx
      rw [hop] at hout
      obtain rfl : (⟨(registerPrefix svc req.payload).1, stage⟩,
        (registerPrefix svc req.payload).2) = out := hout
      rcases hb : svc.bootstrapKvcache ctx with svc₁ | ⟨svc₁, r⟩
      · rw [herror svc₁ hb] at hok
        exact absurd hok (show ¬ WireStatus.internal = WireStatus.ok by decide)
      · have hregister := hreached svc₁ r hb
        rw [hb] at hchain
        cases hchain with
        | done c hput =>
            obtain ⟨_, hput', -, -⟩ :=
              registerState_writes hu c hput (req.payload.getState KvcacheState.filled)
            simp only [c.buildPrefixKey] at hregister
            rw [hregister]
            exact ⟨c, _, .inr ⟨hop, rfl⟩, hput'⟩
  obtain ⟨c, extra, hextra, hput⟩ := hdone
  obtain ⟨entry, block, hfinished, hfound⟩ := c.findRecord_finished hu hextra hput
  have hpg := BlockCtx.prefixKey_ne_groupKey c.buildPrefixKey c.buildGroupKey
  have hpb := BlockCtx.prefixKey_ne_blockKey c.buildPrefixKey c.buildBlockKey
  have hgb := BlockCtx.groupKey_ne_blockKey c.buildGroupKey c.buildBlockKey
  refine ⟨c, entry, block, hfinished, ?_, ?_, ?_⟩
  · rw [c.buildPrefixKey, hfound, keyOrEmpty, Option.getD_some, if_pos rfl]
  · rw [c.buildGroupKey, hfound, keyOrEmpty, Option.getD_some, if_neg (Ne.symm hpg), if_pos rfl]
  · rw [c.buildBlockKey, hfound, keyOrEmpty, Option.getD_some, if_neg (Ne.symm hpb),
      if_neg (Ne.symm hgb), if_pos rfl]

/-! ## Requests -/

/-- A request that is executed and answered as a success: its operation succeeds, the retention passes
may delete records, and nothing else touches them. -/
lemma step_of_success {cfg : Config} {d : Daemon} {st : Step}
    (hex : Executes cfg d.state.svc st.req) (hok : (d.answer cfg st).status = WireStatus.ok) :
    ∃ out svc, dispatchOperation st.env cfg.storageRoot d.state st.req.operation st.req.payload =
        out ∧ out.2.status = WireStatus.ok ∧ out.1.svc.Pruned svc ∧
      SameRecords svc (d.step cfg st).state.svc ∧
      ((answerRequest cfg st.env d.state st.req).checkpointPruned = false →
        (answerRequest cfg st.env d.state st.req).recordPruned = false → svc = out.1.svc) := by
  have hrecords : SameRecords (answerRequest cfg st.env d.state st.req).state.svc
    (d.step cfg st).state.svc := d.step_records cfg st
  have hreply : (answerRequest cfg st.env d.state st.req).reply.status = WireStatus.ok := by
    rcases d.answer_cases cfg st with h | ⟨h, -, -, -⟩
    · rw [← h]
      exact hok
    · exact h
  have ha := answerRequest_answered cfg st.env d.state st.req
  generalize answerRequest cfg st.env d.state st.req = a at ha hrecords hreply
  obtain ⟨⟨pending', hexec'⟩, hq'⟩ := hex
  cases ha with
  | replayed hr =>
      rw [hexec'] at hr
      cases hr
  | overQuota _ hq _ =>
      rw [hq'] at hq
      cases hq
  | @executed pending out svc cp rp hreplay hq hout hexec =>
      exact ⟨out, svc, hout, hreply, hexec.pruned,
        SameRecords.trans (records_complete svc pending st.req out.2) hrecords, hexec.kept⟩

/-- **The three records of a block.**  After every publication or registration that takes the
bootstrap chain with a result and is answered as a success, the prefix entry matches the block and the
group mirrors it if and only if the request asks for the state hot; and the three records are there,
unless the retention pass of the request has deleted some. -/
theorem coherent_iff_hot {cfg : Config} {d : Daemon} (h : Daemon.Reachable cfg d) (st : Step)
    {ctx : BlockCtx} (hex : Executes cfg d.state.svc st.req)
    (hchain : TakesChain d.state.svc st.req ctx) (hres : ctx.resultSegmentId ≠ 0)
    (hok : (d.answer cfg st).status = WireStatus.ok) :
    (∀ entry group block, (d.step cfg st).state.svc.HoldsBlock ctx entry group block →
      (Coherent entry group block ↔
        st.req.payload.getState KvcacheState.filled = KvcacheState.hot)) ∧
    (cfg.RetainsRecords → ∃ entry group block,
      (d.step cfg st).state.svc.HoldsBlock ctx entry group block) := by
  have hu := h.wellFormed.1.recordKeys
  obtain ⟨out, svc, hout, hdone, hpruned, hsame, hkept⟩ := step_of_success hex hok
  obtain ⟨c, entry, block, hfinished, hholds⟩ := hchain.finished hu hout hdone
  have hwout : out.1.svc.WellFormed := by
    have heff := dispatchOperation_effect st.env cfg.storageRoot hu st.req
    rw [hout] at heff
    exact (heff.wellFormed h.wellFormed.1 h.wellFormed.2).1
  have hfind : ∀ k, (d.step cfg st).state.svc.findRecord k = svc.findRecord k := by
    intro k
    rw [Service.findRecord, Service.findRecord, hsame.1]
  refine ⟨fun entry' group' block' hholds' => ?_, fun hret => ?_⟩
  · have hback : ∀ {k : Bytes} {r r' : Record}, (d.step cfg st).state.svc.findRecord k = some r' →
        out.1.svc.findRecord k = some r → r' = r := by
      intro k r r' hr' hr
      rw [hfind] at hr'
      rw [findRecord_of_pruned hwout.recordKeys hpruned hr'] at hr
      exact Option.some.inj hr
    rw [hback hholds'.entry hholds.entry, hback hholds'.group hholds.group,
      hback hholds'.block hholds.block]
    exact hfinished.coherent_iff hres
  · have hno : st.req.operation ≠ WireOperation.registerTrainingArtifact.code := by
      rcases hchain.operation with hop | ⟨hop, -⟩
      · rw [hop]
        decide
      · rw [hop]
        decide
    obtain ⟨hcheckpoint, hrecord⟩ := @answerRequest_retains cfg st.env d.state st.req hno hret
    have heq := hkept hcheckpoint hrecord
    subst heq
    exact ⟨entry, _, block, by rw [hfind]; exact hholds.entry, by rw [hfind]; exact hholds.group,
      by rw [hfind]; exact hholds.block⟩

/-- The block of a publication that asks for nothing but its result. -/
def BlockCtx.third : BlockCtx :=
  ⟨.copy (ascii "r"), .copy (ascii "p"), .copy (ascii "g"), .copy (ascii "h"), 0, 0, 0, 3⟩

/-- The same block, published hot. -/
def Payload.hotResult : Payload :=
  ⟨unlines [ascii "request_id=r", ascii "prefix_group=p", ascii "group_id=g", ascii "block_hash=h",
    ascii "result_segment_id=3", ascii "state=hot"], by decide, by decide⟩

theorem coherent_iff_hot_published : ∃ entry group block,
    (Daemon.after .publishKvSegment .hotResult).state.svc.HoldsBlock .third entry group block ∧
      Coherent entry group block := by
  have hkey : idempotencyKey Payload.hotResult = none := by decide +kernel
  have hreplay : tryIdempotencyReplay Daemon.fresh.state.svc WireOperation.publishKvSegment.code
      Payload.hotResult = .execute none := by
    rw [tryIdempotencyReplay, hkey, ite_self]
  obtain ⟨hiff, hholds⟩ := @coherent_iff_hot Config.durable Daemon.fresh (Daemon.reachable_fresh _)
    (Step.idle .publishKvSegment .hotResult) .third ⟨⟨none, hreplay⟩, by decide +kernel⟩
    ⟨by decide +kernel, .inl rfl⟩ (by decide) (by decide +kernel)
  obtain ⟨entry, group, block, h⟩ := hholds (by rintro l ⟨⟩)
  exact ⟨entry, group, block, h, (hiff entry group block h).mpr (by decide +kernel)⟩

/-- A publication that says nothing about the state leaves the prefix entry hot over a filled
block. -/
theorem published_block_incoherent :
    TakesChain Daemon.fresh.state.svc (Step.idle .publishKvSegment .thirdResult).req .third ∧
    (Daemon.fresh.answer Config.durable (Step.idle .publishKvSegment .thirdResult)).status =
      WireStatus.ok ∧
    ∃ entry group block,
      (Daemon.after .publishKvSegment .thirdResult).state.svc.HoldsBlock .third entry group block ∧
        prefixMatchesBlockMeta entry block = false ∧ group.state ≠ block.state := by
  refine ⟨⟨by decide +kernel, .inl rfl⟩, by decide +kernel, ?_⟩
  have hall : ((Daemon.after .publishKvSegment .thirdResult).state.svc.findRecord
      (keyOrEmpty BlockCtx.third.buildPrefixKey).bytes).any (fun entry =>
    ((Daemon.after .publishKvSegment .thirdResult).state.svc.findRecord
      (keyOrEmpty BlockCtx.third.buildGroupKey).bytes).any fun group =>
    ((Daemon.after .publishKvSegment .thirdResult).state.svc.findRecord
      (keyOrEmpty BlockCtx.third.buildBlockKey).bytes).any fun block =>
        !prefixMatchesBlockMeta entry block && decide (group.state ≠ block.state)) = true := by
    decide +kernel
  simp only [Option.any_eq_true, Bool.and_eq_true, Bool.not_eq_true', decide_eq_true_eq] at hall
  obtain ⟨entry, hentry, group, hgroup, block, hblock, hmatch, hstate⟩ := hall
  exact ⟨entry, group, block, ⟨hentry, hgroup, hblock⟩, hmatch, hstate⟩

end MemService
