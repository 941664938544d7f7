import MemService.Room

/-!
# Results of blocks and prefixes over a run

`mem_service_update_block_result` guards a block against stale results, but the bootstrap chain
writes the prefix entry and the block record anew before it comes to the guard.  What a finished
chain leaves therefore does not depend on what was there: the result of the request, under version 2,
or 3 if the request asks for a state other than hot.  A chain that runs out of slots at the block
leaves the prefix entry at version 1 with no result.

So a request lowers a version or a result exactly if the record it rewrites was further on, and
`results_grow` says that no run of publications and registrations lowers one in any other way.
-/

open ByteText CNumeral

namespace MemService

/-! ## What a chain leaves under each key -/

/-- The version a finished chain leaves on the block record. -/
def Request.blockVersion (req : Request) : UInt64 :=
  if req.payload.getState KvcacheState.filled = KvcacheState.hot then 2 else 3

/-- The version a finished chain leaves on the prefix entry: only a registration sets its state. -/
def Request.prefixVersion (req : Request) : UInt64 :=
  if req.operation = WireOperation.registerPrefixEntry.code then req.blockVersion else 2

/-- A record with the given version and result. -/
def Record.At (r : Record) (version result : UInt64) : Prop :=
  r.version = version ∧ r.lastResultSegment = result

/-- A record that is not further on than the given version and result. -/
def Record.AtMost (r : Record) (version result : UInt64) : Prop :=
  r.version ≤ version ∧ r.lastResultSegment ≤ result

namespace Service.BootstrapChain

variable {svc svc' : Service} {ctx : BlockCtx} (c : svc.BootstrapChain ctx)

/-- The prefix entry and the block record a finished request leaves. -/
inductive Finished (req : Request) : Record → Record → Prop
  | hot (h : req.payload.getState KvcacheState.filled = KvcacheState.hot) :
      Finished req (ctx.prefixResult c.prefixKey) (ctx.blockResult c.blockKey)
  | published (hop : req.operation = WireOperation.publishKvSegment.code)
      (h : req.payload.getState KvcacheState.filled ≠ KvcacheState.hot) :
      Finished req (ctx.prefixResult c.prefixKey)
        (ctx.publishedBlock c.blockKey (req.payload.getState KvcacheState.filled))
  | registered (hop : req.operation = WireOperation.registerPrefixEntry.code)
      (h : req.payload.getState KvcacheState.filled ≠ KvcacheState.hot) :
      Finished req
        (ctx.registeredPrefix c.prefixKey (req.payload.getState KvcacheState.filled))
        (ctx.publishedBlock c.blockKey (req.payload.getState KvcacheState.filled))

variable {c} in
/-- Both carry the request's result. -/
lemma Finished.at {req : Request} {p b : Record} (h : c.Finished req p b) :
    p.At req.prefixVersion ctx.resultSegmentId ∧ b.At req.blockVersion ctx.resultSegmentId := by
  cases h with
  | hot hhot =>
      have hbv : req.blockVersion = 2 := by rw [Request.blockVersion, if_pos hhot]
      have hpv : req.prefixVersion = 2 := by rw [Request.prefixVersion, hbv, ite_self]
      exact ⟨⟨hpv.symm, rfl⟩, ⟨hbv.symm, rfl⟩⟩
  | published hop hhot =>
      have hbv : req.blockVersion = 3 := by rw [Request.blockVersion, if_neg hhot]
      have hpv : req.prefixVersion = 2 := by
        rw [Request.prefixVersion, hop, if_neg (by decide)]
      exact ⟨⟨hpv.symm, rfl⟩, ⟨hbv.symm, rfl⟩⟩
  | registered hop hhot =>
      have hbv : req.blockVersion = 3 := by rw [Request.blockVersion, if_neg hhot]
      have hpv : req.prefixVersion = 3 := by rw [Request.prefixVersion, if_pos hop, hbv]
      exact ⟨⟨hpv.symm, rfl⟩, ⟨hbv.symm, rfl⟩⟩

/-- After a finished chain and the state the request asks for, the prefix key and the block key find
the finished records. -/
lemma findRecord_finished (hu : svc.records.UniqueKeys Record.keyBytes) {req : Request}
    {extra : List Record}
    (hextra : (req.operation = WireOperation.publishKvSegment.code ∧
        extra = c.published (req.payload.getState KvcacheState.filled)) ∨
      (req.operation = WireOperation.registerPrefixEntry.code ∧
        extra = c.registered (req.payload.getState KvcacheState.filled)))
    (h : svc.putAll (c.records ++ extra) = some svc') :
    ∃ p b : Record, c.Finished req p b ∧ ∀ k, svc'.findRecord k =
        if k = c.prefixKey.bytes then some p
        else if k = c.groupKey.bytes then some c.groupWithResult
        else if k = c.blockKey.bytes then some b
        else svc.findRecord k := by
  have hpb := BlockCtx.prefixKey_ne_blockKey c.buildPrefixKey c.buildBlockKey
  have hgb := BlockCtx.groupKey_ne_blockKey c.buildGroupKey c.buildBlockKey
  rw [Service.putAll_append] at h
  obtain ⟨svc₁, h₁, h₂⟩ := Option.bind_eq_some_iff.mp h
  have hfound : ∀ k, svc'.findRecord k =
      (extra.reverse.find? fun r => r.keyBytes = k).or (svc₁.findRecord k) :=
    Service.findRecord_putAll (Service.uniqueKeys_putAll hu h₁) h₂
  have hchain := c.findRecord hu h₁
  have hkr : (ctx.registeredPrefix c.prefixKey
    (req.payload.getState KvcacheState.filled)).keyBytes = c.prefixKey.bytes := rfl
  have hkq : (ctx.publishedBlock c.blockKey
    (req.payload.getState KvcacheState.filled)).keyBytes = c.blockKey.bytes := rfl
  by_cases hhot : req.payload.getState KvcacheState.filled = KvcacheState.hot
  · -- nothing more to write: the chain has left the state the request asks for
    obtain rfl : extra = [] := by
      rcases hextra with ⟨-, rfl⟩ | ⟨-, rfl⟩
      · rw [BootstrapChain.published, if_pos hhot]
      · rw [BootstrapChain.registered, if_pos hhot]
    refine ⟨_, _, .hot hhot, fun k => ?_⟩
    rw [hfound, hchain]
    rfl
  rcases hextra with ⟨hop, rfl⟩ | ⟨hop, rfl⟩
  · refine ⟨_, _, .published hop hhot, fun k => ?_⟩
    rw [hfound, hchain, BootstrapChain.published, if_neg hhot]
    by_cases hb : k = c.blockKey.bytes
    · subst hb
      simp [hkq, Ne.symm hpb, Ne.symm hgb]
    · simp [hkq, hb, Ne.symm hb]
  · refine ⟨_, _, .registered hop hhot, fun k => ?_⟩
    rw [hfound, hchain, BootstrapChain.registered, if_neg hhot]
    by_cases hb : k = c.blockKey.bytes
    · subst hb
      simp [hkq, Ne.symm hpb, Ne.symm hgb]
    by_cases hp : k = c.prefixKey.bytes
    · subst hp
      simp [hkq, hkr, Ne.symm hb]
    · simp [hkq, hkr, hb, hp, Ne.symm hb, Ne.symm hp]

end Service.BootstrapChain

/-! ## One request -/

/-- A record of a block or a prefix. -/
def Record.CarriesResult (r : Record) : Prop :=
  r.kind = RecordKind.requestPrefix ∨ r.kind = RecordKind.blockMeta

/-- No block record and no prefix entry that is still there has fallen back. -/
def ResultsGrow (svc svc' : Service) : Prop :=
  ∀ k r r', svc.findRecord k = some r → r.CarriesResult → svc'.findRecord k = some r' →
    r.version ≤ r'.version ∧ r.lastResultSegment ≤ r'.lastResultSegment

/-- What a block request finds under its prefix key and its block key is not further on than what it
will leave there: its result, under the version its state calls for, if the table has room for the
block, and a bare prefix entry if not. -/
structure ChainGrows (svc : Service) (req : Request) (ctx : BlockCtx) : Prop where
  finished : svc.HasRoom ctx →
    (∀ r, svc.findRecord (keyOrEmpty ctx.buildPrefixKey).bytes = some r → r.CarriesResult →
      r.AtMost req.prefixVersion ctx.resultSegmentId) ∧
    (∀ r, svc.findRecord (keyOrEmpty ctx.buildBlockKey).bytes = some r → r.CarriesResult →
      r.AtMost req.blockVersion ctx.resultSegmentId)
  cutShort : ¬ svc.HasRoom ctx →
    ∀ r, svc.findRecord (keyOrEmpty ctx.buildPrefixKey).bytes = some r → r.CarriesResult →
      r.AtMost 1 0

/-- The condition on a request of a run. -/
def StepGrows (cfg : Config) (d : Daemon) (st : Step) : Prop :=
  Executes cfg d.state.svc st.req → ∀ ctx, Bootstraps d.state.svc st.req ctx →
    ChainGrows d.state.svc st.req ctx

/-- The group of a chain that starts is a group record already, so no result is kept under its
key. -/
lemma not_carriesResult_group {svc : Service} {ctx : BlockCtx} {gk : FieldText 96} {g r : Record}
    (hgroup : ctx.groupEntry (svc.findRecord gk.bytes) gk = some g)
    (hr : svc.findRecord gk.bytes = some r) : ¬ r.CarriesResult := by
  obtain ⟨base, group, v, hbase, hkind, -, -⟩ := Service.prefixGroupRecord_cases hgroup
  rw [hr, Option.getD_some] at hbase
  subst hbase
  rintro (h | h) <;> rw [hkind] at h <;> exact absurd h (by decide)

lemma Record.AtMost.grows {r r' : Record} {version result : UInt64} (h : r.AtMost version result)
    (h' : r'.At version result) :
    r.version ≤ r'.version ∧ r.lastResultSegment ≤ r'.lastResultSegment := by
  rw [h'.1, h'.2]
  exact h

lemma resultsGrow_refl (svc : Service) : ResultsGrow svc svc := by
  intro k r r' hr _ hr'
  rw [hr] at hr'
  cases hr'
  exact ⟨UInt64.le_refl _, UInt64.le_refl _⟩

/-- A chain that was cut short leaves every result alone, but for a prefix entry it has written
anew. -/
lemma Service.CutShort.result {svc svc₁ : Service} {ctx : BlockCtx} {rs : List Record}
    (hu : svc.records.UniqueKeys Record.keyBytes) (hcut : svc.CutShort ctx rs)
    (hput : svc.putAll rs = some svc₁) {k : Bytes} {r r' : Record}
    (hr : svc.findRecord k = some r) (hc : r.CarriesResult) (hr' : svc₁.findRecord k = some r') :
    r' = r ∨ (k = (keyOrEmpty ctx.buildPrefixKey).bytes ∧ r'.At 1 0) := by
  rw [Service.findRecord_putAll hu hput, hr] at hr'
  have hgroupKey : ∀ {gk : FieldText 96} {g : Record},
      ctx.groupEntry (svc.findRecord gk.bytes) gk = some g → ¬ g.keyBytes = k := by
    rintro gk g hgroup rfl
    have hof : GroupOf gk ctx.blockHash g :=
      groupOf_prefixGroupRecord (fun _ hr => key_of_findRecord hr) hgroup
    rw [Record.keyBytes, hof.key] at hr
    exact not_carriesResult_group hgroup hr hc
  cases hcut with
  | beforePrefix _ _ _ hgroup _ _ =>
      simp only [List.reverse_cons, List.reverse_nil, List.nil_append, List.find?_cons,
        hgroupKey hgroup, decide_false, List.find?_nil, Option.none_or] at hr'
      exact .inl (Option.some.inj hr').symm
  | @beforeBlock pk gk bk g _ hp _ _ hgroup _ _ =>
      have hkp : (ctx.prefixEntry pk).keyBytes = pk.bytes := rfl
      simp only [List.reverse_cons, List.reverse_nil, List.nil_append, List.cons_append,
        List.find?_cons, hgroupKey hgroup, decide_false, List.find?_nil, hkp] at hr'
      rw [hp]
      by_cases hk : pk.bytes = k
      · simp only [hk, decide_true, Option.some_or] at hr'
        cases hr'
        exact .inr ⟨hk.symm, rfl, rfl⟩
      · simp only [hk, decide_false, Option.none_or] at hr'
        exact .inl (Option.some.inj hr').symm

/-- A publication or registration that meets the condition lowers nothing. -/
lemma ChainOutcome.resultsGrow {svc : Service} {req : Request} {out : Service × Reply}
    (hw : svc.WellFormed) (h : ChainOutcome svc req out)
    (hgrow : ∀ ctx, Bootstraps svc req ctx → ChainGrows svc req ctx) :
    ResultsGrow svc out.1 := by
  have hu := hw.recordKeys
  cases h with
  | untouched => exact resultsGrow_refl svc
  | @cutShort ctx rs svc₁ hboot hcut hput =>
      have hbare := (hgrow ctx hboot).cutShort (hcut.not_hasRoom hw)
      intro k r r' hr hc hr'
      rcases hcut.result hu hput hr hc hr' with rfl | ⟨rfl, hat⟩
      · exact ⟨UInt64.le_refl _, UInt64.le_refl _⟩
      · exact (hbare r hr hc).grows hat
  | @done ctx extra svc' reply hboot c hextra hput _ =>
      obtain ⟨hentry, hblock⟩ := (hgrow ctx hboot).finished (c.hasRoom hw hput)
      obtain ⟨p, b, hfinished, hfound⟩ := c.findRecord_finished hu hextra hput
      obtain ⟨hp, hb⟩ := hfinished.at
      rw [c.buildPrefixKey] at hentry
      rw [c.buildBlockKey] at hblock
      intro k r r' hr hc hr'
      rw [hfound] at hr'
      by_cases hkp : k = c.prefixKey.bytes
      · subst hkp
        rw [if_pos rfl] at hr'
        cases hr'
        exact (hentry r hr hc).grows hp
      rw [if_neg hkp] at hr'
      by_cases hkg : k = c.groupKey.bytes
      · subst hkg
        exact absurd hc (not_carriesResult_group c.groupEntry hr)
      rw [if_neg hkg] at hr'
      by_cases hkb : k = c.blockKey.bytes
      · subst hkb
        rw [if_pos rfl] at hr'
        cases hr'
        exact (hblock r hr hc).grows hb
      · rw [if_neg hkb] at hr'
        exact resultsGrow_refl svc k r r' hr hc hr'

/-! ## Runs -/

/-- A request that publishes or registers a block. -/
def Step.IsBlockRequest (st : Step) : Prop :=
  st.req.operation = WireOperation.publishKvSegment.code ∨
    st.req.operation = WireOperation.registerPrefixEntry.code

/-- Records that survive a retention pass are the records of before. -/
lemma findRecord_of_pruned {svc svc' : Service} (hu : svc.records.UniqueKeys Record.keyBytes)
    (h : svc.Pruned svc') {k : Bytes} {r : Record} (hr : svc'.findRecord k = some r) :
    svc.findRecord k = some r := by
  obtain ⟨i, hi⟩ := SlotTable.mem_entries.mp (SlotTable.lookup_mem hr)
  exact (hu.lookup_eq_some_iff).mpr
    ⟨SlotTable.mem_entries_of_get (h.shrinks.records i r hi), SlotTable.lookup_key hr⟩

lemma ResultsGrow.congr {svc svc₁ svc₂ : Service} (h : ResultsGrow svc svc₁)
    (hsub : ∀ k r, svc₂.findRecord k = some r → svc₁.findRecord k = some r) :
    ResultsGrow svc svc₂ :=
  fun k r r' hr hc hr' => h k r r' hr hc (hsub k r' hr')

/-- One publication or registration. -/
lemma resultsGrow_step {cfg : Config} {d : Daemon} {st : Step} (hw : d.WellFormed)
    (hop : st.IsBlockRequest) (hgrow : StepGrows cfg d st) :
    ResultsGrow d.state.svc (d.step cfg st).state.svc := by
  have hfind : ∀ {svc : Service}, (d.step cfg st).state.svc.records = svc.records →
      ∀ k r, (d.step cfg st).state.svc.findRecord k = some r → svc.findRecord k = some r := by
    intro svc heq k r hr
    rwa [Service.findRecord, heq] at hr
  have hrecords := (d.step_records cfg st).1
  have ha := answerRequest_answered cfg st.env d.state st.req
  generalize answerRequest cfg st.env d.state st.req = a at ha hrecords
  cases ha with
  | replayed _ => exact (resultsGrow_refl _).congr (hfind hrecords)
  | overQuota _ _ _ =>
      rw [(records_complete _ _ _ _).1] at hrecords
      exact (resultsGrow_refl _).congr (hfind hrecords)
  | @executed pending out svc cp rp h hq hout hexec =>
      rw [(records_complete _ _ _ _).1] at hrecords
      have hchain : ChainOutcome d.state.svc st.req (out.1.svc, out.2) := by
        rcases hop with hop | hop
        · have := publishKv_chain hw.1.recordKeys hop
          rw [← hout, hop]
          exact this
        · have := registerPrefix_chain hw.1.recordKeys hop
          rw [← hout, hop]
          exact this
      have hgrown := hchain.resultsGrow hw.1 fun ctx => hgrow ⟨⟨_, h⟩, hq⟩ ctx
      have hwout : out.1.svc.WellFormed := by
        have heff := dispatchOperation_effect st.env cfg.storageRoot hw.1.recordKeys st.req
        rw [hout] at heff
        exact (heff.wellFormed hw.1 hw.2).1
      exact hgrown.congr fun k r hr =>
        findRecord_of_pruned hwout.recordKeys hexec.pruned (hfind hrecords k r hr)

/-- **Monotone results.**  In a run of publications and registrations, over any requests and blocks
and in any order, whose requests never find a record further on than they leave it, no version and no
result of a block record or a prefix entry decreases from one state to the next. -/
theorem results_grow {cfg : Config} {d : Daemon} (h : Daemon.Reachable cfg d) {steps : List Step}
    (hsteps : d.Along cfg (fun d st => st.IsBlockRequest ∧ StepGrows cfg d st) steps) {n : ℕ}
    (hn : n < steps.length) :
    ResultsGrow (d.run cfg (steps.take n)).state.svc (d.run cfg (steps.take (n + 1))).state.svc :=
  Run.Along.chain (I := Daemon.WellFormed)
    (R := fun d d' => ResultsGrow d.state.svc d'.state.svc) hsteps h.wellFormed
    (fun _ st hd => hd.step st) (fun _ _ hd hst => resultsGrow_step hd hst.1 hst.2) hn

/-- A block with its third result. -/
def Payload.thirdResult : Payload :=
  ⟨ascii "request_id=r\nprefix_group=p\ngroup_id=g\nblock_hash=h\nresult_segment_id=3",
    by decide, by decide⟩

/-- The same block with its fifth result. -/
def Payload.fifthResult : Payload :=
  ⟨ascii "request_id=r\nprefix_group=p\ngroup_id=g\nblock_hash=h\nresult_segment_id=5",
    by decide, by decide⟩

/-- The daemon after the publication of a block with its third result. -/
def Daemon.atThirdResult : Daemon := Daemon.after .publishKvSegment Payload.thirdResult

/-- The publication of the fifth result. -/
def Step.publishFifth : Step := Step.idle .publishKvSegment Payload.fifthResult

/-- A later result of the same block lowers nothing. -/
theorem results_grow_later_result :
    ResultsGrow Daemon.atThirdResult.state.svc
      (Daemon.atThirdResult.run Config.durable [Step.publishFifth]).state.svc := by
  have hbehind : (fillBlockCtx Payload.fifthResult).all (fun ctx =>
      decide (Daemon.atThirdResult.state.svc.recordCount +
        Daemon.atThirdResult.state.svc.missing ctx ≤ maxRecords ∧
      ∀ r ∈ Daemon.atThirdResult.state.svc.records.entries,
        (r.keyBytes = (keyOrEmpty ctx.buildPrefixKey).bytes →
          r.version ≤ Step.publishFifth.req.prefixVersion ∧
            r.lastResultSegment ≤ ctx.resultSegmentId) ∧
        (r.keyBytes = (keyOrEmpty ctx.buildBlockKey).bytes →
          r.version ≤ Step.publishFifth.req.blockVersion ∧
            r.lastResultSegment ≤ ctx.resultSegmentId))) = true := by
    decide +kernel
  have hreach : Daemon.Reachable Config.durable Daemon.atThirdResult :=
    Daemon.reachable_after .publishKvSegment Payload.thirdResult
  have hsteps : Daemon.atThirdResult.Along Config.durable
      (fun d st => st.IsBlockRequest ∧ StepGrows Config.durable d st) [Step.publishFifth] := by
    refine ⟨⟨.inl rfl, fun _ ctx hboot => ?_⟩, trivial⟩
    have hctx : fillBlockCtx Payload.fifthResult = some ctx := hboot.context
    rw [hctx, Option.all_some, decide_eq_true_eq] at hbehind
    obtain ⟨hroom, hall⟩ := hbehind
    refine ⟨fun _ => ⟨fun r hr _ => ?_, fun r hr _ => ?_⟩, fun hno => absurd hroom hno⟩
    · exact (hall r (SlotTable.lookup_mem hr)).1 (SlotTable.lookup_key hr)
    · exact (hall r (SlotTable.lookup_mem hr)).2 (SlotTable.lookup_key hr)
  exact results_grow (n := 0) hreach hsteps (by decide)

/-- The daemon after the publication of a block with its fifth result. -/
def Daemon.atFifthResult : Daemon := Daemon.after .publishKvSegment Payload.fifthResult

/-- The publication of the third result. -/
def Step.publishThird : Step := Step.idle .publishKvSegment Payload.thirdResult

/-- A late third result is stored over the fifth. -/
theorem results_fall_stale_result :
    Daemon.Reachable Config.durable Daemon.atFifthResult ∧
    Step.publishThird.IsBlockRequest ∧
    ¬ ResultsGrow Daemon.atFifthResult.state.svc
      (Daemon.atFifthResult.step Config.durable Step.publishThird).state.svc := by
  refine ⟨Daemon.reachable_after .publishKvSegment Payload.fifthResult, .inl rfl, fun hgrow => ?_⟩
  have hbefore : (Daemon.atFifthResult.state.svc.findRecord (ascii "block/h")).map
      (fun r => (r.kind, r.lastResultSegment)) = some (RecordKind.blockMeta, 5) := by
    decide +kernel
  have hafter : ((Daemon.atFifthResult.step Config.durable Step.publishThird).state.svc.findRecord
      (ascii "block/h")).map (fun r => r.lastResultSegment) = some 3 := by
    decide +kernel
  obtain ⟨r, hr, hkind⟩ := Option.map_eq_some_iff.mp hbefore
  obtain ⟨r', hr', hlast'⟩ := Option.map_eq_some_iff.mp hafter
  obtain ⟨hkind, hlast⟩ := Prod.mk.inj hkind
  have hle := (hgrow _ r r' hr (.inr hkind) hr').2
  rw [hlast, hlast'] at hle
  exact absurd hle (by decide)

end MemService
