import MemService.Room

/-!
# Failed requests and the record table

A handler that writes one record checks everything before it writes, a restore builds its tables
aside, and the quota and the idempotency table refuse before anything runs: these requests leave the
records alone when they fail.  Two places do not.  The bootstrap chain writes the group record and the
prefix entry before it learns that the table has no slot for the next record.  And a request that
succeeded is answered as failed when it cannot be made durable, with its records in place.

`records_kept_on_error_iff` puts the second aside and says exactly when the first happens.
-/

open ByteText CNumeral

namespace MemService

/-! ## A chain without room -/

namespace Service

variable {svc svc' : Service} {ctx : BlockCtx}

/-- A chain that is cut short without a trace: the table is full, so that nothing is allocated, and
the group record and the prefix entry, as far as they exist, are what the chain would make of them. -/
structure CutHarmless (svc : Service) (ctx : BlockCtx) : Prop where
  full : svc.records.count = maxRecords
  group : ∀ gk r, ctx.buildGroupKey = some gk → svc.findRecord gk.bytes = some r →
    ctx.groupEntry (some r) gk = some r
  prefixEntry : ∀ gk pk r q, ctx.buildGroupKey = some gk → ctx.buildPrefixKey = some pk →
    svc.findRecord gk.bytes = some r → svc.findRecord pk.bytes = some q → q = ctx.prefixEntry pk

lemma findRecord_of_full {r : Record} (hfull : svc.records.count = maxRecords)
    (h : svc.putRecord r = some svc') : ∃ q, svc.findRecord r.keyBytes = some q := by
  refine Option.ne_none_iff_exists'.mp fun hnone => ?_
  rw [putRecord_eq_none_iff.mpr ⟨hnone, hfull⟩] at h
  cases h

/-- A write that leaves the table as it was wrote what was there. -/
lemma findRecord_of_sameRecords {rs : List Record} (hu : svc.records.UniqueKeys Record.keyBytes)
    (h : svc.putAll rs = some svc') (hsame : svc'.records = svc.records) (k : Bytes) :
    (rs.reverse.find? fun r => r.keyBytes = k).or (svc.findRecord k) = svc.findRecord k := by
  rw [← findRecord_putAll hu h k]
  exact congrArg (fun t => SlotTable.lookup Record.keyBytes t k) hsame

/-- The group record is rewritten as it is. -/
lemma group_of_sameRecords {gk : FieldText 96} {g : Record} {rs : List Record}
    (hu : svc.records.UniqueKeys Record.keyBytes) (hg : ctx.buildGroupKey = some gk)
    (hgroup : ctx.groupEntry (svc.findRecord gk.bytes) gk = some g)
    (hfind : rs.reverse.find? (fun r => r.keyBytes = gk.bytes) = some g)
    (h : svc.putAll rs = some svc') (hsame : svc'.records = svc.records) :
    ∀ gk' r, ctx.buildGroupKey = some gk' → svc.findRecord gk'.bytes = some r →
      ctx.groupEntry (some r) gk' = some r := by
  intro gk' r hg' hr
  obtain rfl : gk = gk' := Option.some.inj (hg.symm.trans hg')
  have hsame := findRecord_of_sameRecords hu h hsame gk.bytes
  rw [hfind, Option.some_or] at hsame
  rw [← hr, hgroup, hsame, hr]

lemma keyBytes_groupEntry {gk : FieldText 96} {g : Record}
    (hgroup : ctx.groupEntry (svc.findRecord gk.bytes) gk = some g) : g.keyBytes = gk.bytes := by
  have hof : GroupOf gk ctx.blockHash g :=
    groupOf_prefixGroupRecord (fun _ hr => key_of_findRecord hr) hgroup
  exact congrArg FieldText.bytes hof.key

namespace CutHarmless

/-- The chain's first write rewrites the group record as it is. -/
lemma putGroup (hcut : svc.CutHarmless ctx) {gk : FieldText 96} {g : Record}
    (hg : ctx.buildGroupKey = some gk)
    (hgroup : ctx.groupEntry (svc.findRecord gk.bytes) gk = some g)
    (hput : svc.putRecord g = some svc') :
    svc' = svc ∧ ∃ r, svc.findRecord gk.bytes = some r := by
  have hkg := keyBytes_groupEntry hgroup
  obtain ⟨r, hr⟩ := findRecord_of_full hcut.full hput
  rw [hkg] at hr
  rw [hr, hcut.group gk r hg hr] at hgroup
  obtain rfl := Option.some.inj hgroup
  rw [putRecord_self (by rw [hkg, hr])] at hput
  exact ⟨(Option.some.inj hput).symm, r, hr⟩

/-- Its second write rewrites the prefix entry as it is. -/
lemma putPrefix (hcut : svc.CutHarmless ctx) {gk pk : FieldText 96} {r : Record}
    (hg : ctx.buildGroupKey = some gk) (hp : ctx.buildPrefixKey = some pk)
    (hr : svc.findRecord gk.bytes = some r)
    (hput : svc.putRecord (ctx.prefixEntry pk) = some svc') : svc' = svc := by
  have hkp : (ctx.prefixEntry pk).keyBytes = pk.bytes := rfl
  obtain ⟨q, hq⟩ := findRecord_of_full hcut.full hput
  rw [hkp] at hq
  rw [hcut.prefixEntry gk pk r q hg hp hr hq] at hq
  rw [putRecord_self (by rw [hkp, hq])] at hput
  exact (Option.some.inj hput).symm

end CutHarmless

/-- A chain that starts without room for its records fails, and leaves the table alone exactly if it
is cut short without a trace. -/
lemma bootstrapKvcache_without_room (hw : svc.WellFormed) (hstarts : svc.ChainStarts ctx)
    (hroom : ¬ svc.HasRoom ctx) :
    ∃ svc₁, svc.bootstrapKvcache ctx = .error svc₁ ∧
      (SameRecords svc svc₁ ↔ svc.CutHarmless ctx) := by
  have hu := hw.recordKeys
  obtain ⟨pk, gk, bk, g, hp, hg, hb, hgroup⟩ := hstarts
  have hkg := keyBytes_groupEntry hgroup
  have hkp : (ctx.prefixEntry pk).keyBytes = pk.bytes := rfl
  have hpg := BlockCtx.prefixKey_ne_groupKey hp hg
  have hout := bootstrapKvcache_outcome hu ctx
  generalize svc.bootstrapKvcache ctx = out at hout
  cases hout with
  | keyTooLong h =>
      rw [hp, hg, hb] at h
      rcases h with h | h | h <;> cases h
  | groupRefused hp' hg' hb' h =>
      obtain rfl : gk = _ := Option.some.inj (hg.symm.trans hg')
      rw [hgroup, Option.bind_some, putRecord_eq_none_iff, hkg] at h
      refine ⟨svc, rfl, ⟨fun _ => ⟨h.2, ?_, ?_⟩, fun _ => ⟨rfl, rfl⟩⟩⟩
      · intro gk' r hgk hr
        obtain rfl : gk = gk' := Option.some.inj (hg.symm.trans hgk)
        rw [h.1] at hr
        cases hr
      · intro gk' pk' r q hgk _ hr _
        obtain rfl : gk = gk' := Option.some.inj (hg.symm.trans hgk)
        rw [h.1] at hr
        cases hr
  | @noRoomForPrefix pk' gk' bk' g' svc₁ hp' hg' hb' hgroup' h₁ h =>
      obtain rfl : pk = pk' := Option.some.inj (hp.symm.trans hp')
      obtain rfl : gk = gk' := Option.some.inj (hg.symm.trans hg')
      obtain rfl : g = g' := Option.some.inj (hgroup.symm.trans hgroup')
      have hput : svc.putRecord g = some svc₁ := by
        rw [putAll_cons] at h₁
        obtain ⟨_, hput, heq⟩ := Option.bind_eq_some_iff.mp h₁
        rwa [← Option.some.inj heq]
      obtain ⟨hnone, hcount⟩ := putRecord_eq_none_iff.mp h
      rw [findRecord_putRecord hu hput, hkp, hkg, if_neg hpg] at hnone
      refine ⟨svc₁, rfl, ⟨fun hsame => ⟨hsame.1 ▸ hcount, ?_, ?_⟩, fun hcut => ?_⟩⟩
      · exact group_of_sameRecords hu hg hgroup (by simp [hkg]) h₁ hsame.1
      · intro _ pk' _ q _ hpk _ hq
        obtain rfl : pk = pk' := Option.some.inj (hp.symm.trans hpk)
        rw [hnone] at hq
        cases hq
      · obtain ⟨rfl, -⟩ := hcut.putGroup hg hgroup hput
        exact ⟨rfl, rfl⟩
  | @noRoomForBlock pk' gk' bk' g' svc₂ hp' hg' hb' hgroup' h₂ h =>
      obtain rfl : pk = pk' := Option.some.inj (hp.symm.trans hp')
      obtain rfl : gk = gk' := Option.some.inj (hg.symm.trans hg')
      obtain rfl : g = g' := Option.some.inj (hgroup.symm.trans hgroup')
      obtain ⟨-, hcount⟩ := putRecord_eq_none_iff.mp h
      refine ⟨svc₂, rfl, ⟨fun hsame => ⟨hsame.1 ▸ hcount, ?_, ?_⟩, fun hcut => ?_⟩⟩
      · exact group_of_sameRecords hu hg hgroup (by simp [hkg, hkp, hpg]) h₂ hsame.1
      · intro _ pk' _ q _ hpk _ hq
        obtain rfl : pk = pk' := Option.some.inj (hp.symm.trans hpk)
        have hfound := findRecord_of_sameRecords hu h₂ hsame.1 pk.bytes
        rw [hq] at hfound
        simpa [hkp] using hfound.symm
      · rw [putAll_cons] at h₂
        obtain ⟨svc₁, hput₁, hrest⟩ := Option.bind_eq_some_iff.mp h₂
        obtain ⟨heq, r, hr⟩ := hcut.putGroup hg hgroup hput₁
        rw [heq, putAll_cons] at hrest
        obtain ⟨svc₂', hput₂, hlast⟩ := Option.bind_eq_some_iff.mp hrest
        rw [hcut.putPrefix hg hp hr hput₂] at hlast
        obtain rfl := Option.some.inj hlast
        exact ⟨rfl, rfl⟩
  | done c h =>
      rw [← List.append_nil c.records] at h
      exact absurd (c.hasRoom hw h) hroom

end Service

/-! ## Block requests -/

/-- A publication that reaches a failing chain. -/
lemma publishKv_error {svc svc₁ : Service} {p : Payload} {ctx : BlockCtx}
    (hctx : fillBlockCtx p = some ctx) (h : svc.bootstrapKvcache ctx = .error svc₁) :
    publishKv svc p = (svc₁, .fail WireStatus.internal) := by
  simp only [publishKv, hctx, h]

/-- A registration that reaches a failing chain. -/
lemma registerPrefix_error {svc svc₁ : Service} {p : Payload} {ctx : BlockCtx}
    (hctx : fillBlockCtx p = some ctx) (hadm : RegisterAdmits svc ctx)
    (h : svc.bootstrapKvcache ctx = .error svc₁) :
    registerPrefix svc p = (svc₁, .fail WireStatus.internal) := by
  simp only [registerPrefix, hctx, if_neg hadm.1, h]
  split
  · rfl
  · rename_i entry hentry
    obtain ⟨hkind, hlt⟩ := hadm.2 entry hentry
    have hne : entry.lastResultSegment ≠ ctx.resultSegmentId := UInt64.ne_of_lt hlt
    have hngt : ¬ entry.lastResultSegment > ctx.resultSegmentId :=
      UInt64.not_lt.mpr (UInt64.le_of_lt hlt)
    rw [if_neg (by simp [hkind, hne, hngt]), if_neg (by simp [hne])]

/-- What a failing dispatch leaves behind: nothing, or the first records of a chain. -/
lemma dispatchOperation_error (env : Env) (storageRoot : Bool) {s : ServiceState} {req : Request}
    (hw : s.svc.WellFormed)
    (herr : (dispatchOperation env storageRoot s req.operation req.payload).2.status ≠
      WireStatus.ok) :
    (dispatchOperation env storageRoot s req.operation req.payload).1.svc = s.svc ∨
      ∃ ctx, Bootstraps s.svc req ctx ∧ ¬ s.svc.HasRoom ctx := by
  have hsingle : ∀ {kind : RecordKind} {clean : Prop} {out : Service × Reply},
      SingleWrite s.svc req.payload kind clean out → out.2.status ≠ WireStatus.ok →
      out.1 = s.svc := by
    intro kind clean out hsw hne
    cases hsw with
    | refused _ => rfl
    | wrote _ _ _ _ hreply => exact absurd hreply.status hne
  have hchain : ∀ {out : Service × Reply}, ChainOutcome s.svc req out →
      out.2.status ≠ WireStatus.ok →
      out.1 = s.svc ∨ ∃ ctx, Bootstraps s.svc req ctx ∧ ¬ s.svc.HasRoom ctx := by
    intro out hout hne
    cases hout with
    | untouched => exact .inl rfl
    | cutShort hboot hcut _ => exact .inr ⟨_, hboot, hcut.not_hasRoom hw⟩
    | done _ _ _ _ hok => exact absurd hok hne
  have heff := dispatchOperation_effect env storageRoot hw.recordKeys req
  generalize dispatchOperation env storageRoot s req.operation req.payload = out at heff herr
  cases heff with
  | unchanged _ => exact .inl rfl
  | staged _ _ => exact .inl rfl
  | wrote _ _ hwritten =>
      cases hwritten with
      | single _ hsw => exact .inl (hsingle hsw herr)
      | chain hout => exact hchain hout herr
  | restored _ _ _ _ => exact absurd rfl herr
  | committed _ _ _ => exact absurd rfl herr

/-- A block request that starts its chain without room fails, and keeps the records exactly if the
chain is cut short without a trace. -/
lemma dispatchOperation_without_room (env : Env) (storageRoot : Bool) {s : ServiceState}
    {req : Request} {ctx : BlockCtx} (hw : s.svc.WellFormed) (hboot : Bootstraps s.svc req ctx)
    (hroom : ¬ s.svc.HasRoom ctx) :
    (dispatchOperation env storageRoot s req.operation req.payload).2.status ≠ WireStatus.ok ∧
    (SameRecords s.svc (dispatchOperation env storageRoot s req.operation req.payload).1.svc ↔
      s.svc.CutHarmless ctx) := by
  obtain ⟨svc₁, herror, hiff⟩ := Service.bootstrapKvcache_without_room hw hboot.starts hroom
  have hne : WireStatus.internal ≠ WireStatus.ok := by decide
  rcases hboot.operation with hop | ⟨hop, hadm⟩
  · have hout : dispatchOperation env storageRoot s req.operation req.payload =
        s.writes (svc₁, .fail WireStatus.internal) := by
      rw [hop, ← publishKv_error hboot.context herror]
      rfl
    rw [hout]
    exact ⟨hne, hiff⟩
  · have hout : dispatchOperation env storageRoot s req.operation req.payload =
        s.writes (svc₁, .fail WireStatus.internal) := by
      rw [hop, ← registerPrefix_error hboot.context hadm herror]
      rfl
    rw [hout]
    exact ⟨hne, hiff⟩

/-! ## Requests -/

/-- If the request is answered with an error, the record table and its count are as before. -/
def ErrorAtomic (cfg : Config) (d : Daemon) (st : Step) : Prop :=
  (d.answer cfg st).status ≠ WireStatus.ok →
    SameRecords d.state.svc (d.step cfg st).state.svc

/-- An operation that is executed with success is made durable: the journal takes the append, and the
journal and the store are written. -/
def DurableWhenExecuted (cfg : Config) (d : Daemon) (st : Step) : Prop :=
  cfg.storePath = true → Executes cfg d.state.svc st.req →
    (dispatchOperation st.env cfg.storageRoot d.state st.req.operation
      st.req.payload).2.status = WireStatus.ok →
    st.writes.Land d.disk

/-- A block request that is executed finds a slot for every record its block lacks, or a full table
in which the records it would write first are there already. -/
def RoomWhenExecuted (cfg : Config) (d : Daemon) (st : Step) : Prop :=
  Executes cfg d.state.svc st.req → ∀ ctx, Bootstraps d.state.svc st.req ctx →
    d.state.svc.HasRoom ctx ∨ d.state.svc.CutHarmless ctx

/-- An executed operation that is answered with an error keeps the records exactly if no chain is
cut short with a trace. -/
lemma dispatchOperation_errorAtomic_iff (env : Env) (storageRoot : Bool) {s : ServiceState}
    (req : Request) (hw : s.svc.WellFormed) :
    ((dispatchOperation env storageRoot s req.operation req.payload).2.status ≠ WireStatus.ok →
      SameRecords s.svc (dispatchOperation env storageRoot s req.operation req.payload).1.svc) ↔
    ∀ ctx, Bootstraps s.svc req ctx → s.svc.HasRoom ctx ∨ s.svc.CutHarmless ctx := by
  constructor
  · intro hatomic ctx hboot
    by_cases hroom : s.svc.HasRoom ctx
    · exact .inl hroom
    · obtain ⟨herr, hiff⟩ := dispatchOperation_without_room env storageRoot hw hboot hroom
      exact .inr (hiff.mp (hatomic herr))
  · intro hcover herr
    rcases dispatchOperation_error env storageRoot hw herr with heq | ⟨ctx, hboot, hroom⟩
    · rw [heq]
      exact ⟨rfl, rfl⟩
    · obtain ⟨-, hiff⟩ := dispatchOperation_without_room env storageRoot hw hboot hroom
      exact hiff.mpr ((hcover ctx hboot).resolve_left hroom)

/-- An executed request that is made durable if it succeeds answers as its operation does, and keeps
the records if the operation failed and kept them. -/
lemma errorAtomic_iff_of_executes {cfg : Config} {d : Daemon} {st : Step}
    (hdurable : DurableWhenExecuted cfg d st) (h : Executes cfg d.state.svc st.req) :
    ErrorAtomic cfg d st ↔
      ((dispatchOperation st.env cfg.storageRoot d.state st.req.operation
          st.req.payload).2.status ≠ WireStatus.ok →
        SameRecords d.state.svc (dispatchOperation st.env cfg.storageRoot d.state
          st.req.operation st.req.payload).1.svc) := by
  have hsame : SameRecords (answerRequest cfg st.env d.state st.req).state.svc
      (d.step cfg st).state.svc := d.step_records cfg st
  have ha := answerRequest_answered cfg st.env d.state st.req
  have hreply : d.answer cfg st =
      (persistRequest cfg st.env st.writes d.disk (answerRequest cfg st.env d.state st.req) st.req
        (auditRequest cfg st.env (answerRequest cfg st.env d.state st.req) st.req)).reply := rfl
  unfold ErrorAtomic
  rw [hreply]
  generalize answerRequest cfg st.env d.state st.req = a at ha hsame
  cases ha with
  | replayed hreplay =>
      obtain ⟨⟨pending, hexec⟩, -⟩ := h
      rw [hreplay] at hexec
      cases hexec
  | overQuota _ hq _ =>
      rw [h.2] at hq
      cases hq
  | @executed pending out svc cp rp hexec hq hout hdone =>
      rw [persistRequest_reply _ _ _ fun hpath hok => hdurable hpath h (by rw [hout]; exact hok),
        hout]
      refine imp_congr_right fun herr => ?_
      have heq : svc = out.1.svc := hdone.kept_of_error herr
      have hkept : SameRecords out.1.svc (d.step cfg st).state.svc :=
        heq ▸ SameRecords.trans (records_complete _ _ _ _) hsame
      exact ⟨fun hs => ⟨hkept.1.symm.trans hs.1, hkept.2.symm.trans hs.2⟩,
        fun hs => hs.trans hkept⟩

/-- **Error atomicity.**  Where every successful operation is made durable, a request that is
answered with an error keeps the record table exactly if no block request is cut short with a
trace. -/
theorem records_kept_on_error_iff {cfg : Config} {d : Daemon} (h : Daemon.Reachable cfg d)
    {st : Step} (hdurable : DurableWhenExecuted cfg d st) :
    ErrorAtomic cfg d st ↔ RoomWhenExecuted cfg d st := by
  by_cases hexec : Executes cfg d.state.svc st.req
  · rw [errorAtomic_iff_of_executes hdurable hexec,
      dispatchOperation_errorAtomic_iff _ _ _ h.wellFormed.1]
    exact ⟨fun hcover _ => hcover, fun hcover => hcover hexec⟩
  · exact iff_of_true (fun _ => sameRecords_of_not_executes hexec) fun h => absurd h hexec

/-- A registration without a result. -/
def Payload.noResult : Payload :=
  ⟨ascii "request_id=r\nprefix_group=p\ngroup_id=g\nblock_hash=h", by decide, by decide⟩

/-- The daemon after the publication of one block. -/
def Daemon.withBlock : Daemon := Daemon.after .publishKvSegment Payload.oneBlock

/-- A registration that is refused for its missing result keeps the three records of the block. -/
theorem records_kept_without_result :
    (Daemon.withBlock.answer Config.durable
      (Step.idle .registerPrefixEntry Payload.noResult)).status = WireStatus.invalidSession ∧
    ErrorAtomic Config.durable Daemon.withBlock
      (Step.idle .registerPrefixEntry Payload.noResult) := by
  have hreach : Daemon.Reachable Config.durable Daemon.withBlock :=
    Daemon.reachable_after .publishKvSegment Payload.oneBlock
  have hcount : Daemon.withBlock.state.svc.recordCount = 3 := by decide +kernel
  have hdurable : DurableWhenExecuted Config.durable Daemon.withBlock
      (Step.idle .registerPrefixEntry Payload.noResult) := by
    have hheader : journalNeedsHeader Daemon.withBlock.disk.journal ≠ none := by decide +kernel
    exact fun _ _ _ => ⟨hheader, rfl, rfl⟩
  refine ⟨by decide +kernel, (records_kept_on_error_iff hreach hdurable).mpr fun _ ctx _ => ?_⟩
  have hmissing := Daemon.withBlock.state.svc.missing_le_three ctx
  left
  rw [Service.HasRoom, hcount, maxRecords]
  omega

/-! ## A table with two free slots -/

/-- An object under the key `i`. -/
def Record.numbered (i : ℕ) : Record :=
  { kind := RecordKind.kvcacheObject, key := .copy (decimal i) }

/-- A service that holds the objects below `n`. -/
def Service.holding (n : ℕ) (hn : n ≤ maxRecords) : Service :=
  { Service.fresh with
    records := ⟨(List.range n).map fun i => some (Record.numbered i), by simpa using hn⟩
    recordCount := n }

section Holding

variable {n : ℕ} {hn : n ≤ maxRecords}

lemma keyBytes_numbered {i : ℕ} (hi : i < maxRecords) :
    (Record.numbered i).keyBytes = decimal i := by
  have hlen : (decimal i).length ≤ 95 :=
    length_decimal_le (by norm_num) (Nat.lt_trans hi (by norm_num [maxRecords]))
  show (FieldText.copy (decimal i) : FieldText 96).bytes = decimal i
  rw [FieldText.bytes_copy (plain_decimal i), List.take_of_length_le hlen]

lemma get_holding {i : ℕ} {r : Record} (h : (Service.holding n hn).records.get i = some r) :
    i < maxRecords ∧ r = Record.numbered i := by
  have hget : (((List.range n).map fun i => some (Record.numbered i))[i]?).join = some r := h
  rw [List.getElem?_map, Option.join_eq_some_iff, Option.map_eq_some_iff] at hget
  obtain ⟨j, hj, hr⟩ := hget
  obtain ⟨hlt, rfl⟩ := List.getElem?_eq_some_iff.mp hj
  rw [List.length_range] at hlt
  rw [List.getElem_range] at hr
  exact ⟨Nat.lt_of_lt_of_le hlt hn, (Option.some.inj hr).symm⟩

lemma mem_holding {r : Record} (h : r ∈ (Service.holding n hn).records.entries) :
    ∃ i < maxRecords, r = Record.numbered i := by
  obtain ⟨i, hi⟩ := SlotTable.mem_entries.mp h
  exact ⟨i, get_holding hi⟩

lemma wellFormed_holding : (Service.holding n hn).WellFormed := by
  refine { Service.wellFormed_fresh with recordKeys := ?_, recordValid := ?_, recordCount := ?_ }
  · intro i j a b ha hb hkey
    obtain ⟨hi, rfl⟩ := get_holding ha
    obtain ⟨hj, rfl⟩ := get_holding hb
    rw [keyBytes_numbered hi, keyBytes_numbered hj] at hkey
    exact decimal_injective hkey
  · intro r hr
    obtain ⟨i, hi, rfl⟩ := mem_holding hr
    refine ⟨?_, by show RecordKind.kvcacheObject ≠ RecordKind.none; decide⟩
    have hkey : (Record.numbered i).key.bytes = decimal i := keyBytes_numbered hi
    rw [hkey]
    exact decimal_ne_nil i
  · simp [Service.holding, SlotTable.count, SlotTable.entries, List.reduceOption]

lemma storable_holding : (Service.holding n hn).Storable := by
  refine ⟨fun r hr => ?_, Service.storable_fresh.idempotency, Service.storable_fresh.audit⟩
  obtain ⟨i, hi, rfl⟩ := mem_holding hr
  have hkey : (Record.numbered i).key.Clean := by
    have hbytes : (Record.numbered i).key.bytes = decimal i := keyBytes_numbered hi
    rw [FieldText.Clean, hbytes]
    exact (trimLine_eq_self_iff (plain_decimal i).lf).mp (trimLine_decimal i)
  exact ⟨⟨hkey, FieldText.clean_blank, FieldText.clean_blank, FieldText.clean_blank,
    FieldText.clean_blank, FieldText.clean_blank, FieldText.clean_blank, FieldText.clean_blank,
    FieldText.clean_blank, fun _ _ => FieldText.clean_blank, fun _ _ => rfl⟩, fun _ => rfl⟩

/-- A key with a byte that is no digit is free. -/
lemma findRecord_holding {svc : Service} (h : svc.records = (Service.holding n hn).records.pack)
    {k : Bytes} (hk : ∃ b ∈ k, 57 < b) : svc.findRecord k = none := by
  obtain ⟨b, hb, hlt⟩ := hk
  rw [Service.findRecord, h, SlotTable.lookup_pack, SlotTable.lookup_eq_none_iff]
  intro r hr heq
  obtain ⟨i, hi, rfl⟩ := mem_holding hr
  rw [keyBytes_numbered hi] at heq
  rw [← heq] at hb
  exact absurd (mem_decimal hb).2 (UInt8.not_le.mpr hlt)

/-- The daemon that is started from the store of these objects. -/
def Daemon.holding (n : ℕ) (hn : n ≤ maxRecords) : Daemon :=
  ((loadDurableStore ⟨some (saveStore (Service.holding n hn)), none⟩).map fun loaded =>
    (⟨⟨loaded.1, none⟩, loaded.2⟩ : Daemon)).getD Daemon.fresh

lemma holding_spec (n : ℕ) (hn : n ≤ maxRecords) (cfg : Config) :
    Daemon.Reachable cfg (Daemon.holding n hn) ∧ (Daemon.holding n hn).disk.journal = none ∧
    (Daemon.holding n hn).state.svc.recordCount = n ∧
    (Daemon.holding n hn).state.svc.records = (Service.holding n hn).records.pack := by
  have hcurrent : (Service.holding n hn).AuditCurrent :=
    ⟨Service.auditCurrent_fresh.since, Service.auditCurrent_fresh.below,
      Service.auditCurrent_fresh.newest⟩
  obtain ⟨ring, c, hload, -⟩ :=
    Service.loadStore_saveStore_fresh wellFormed_holding storable_holding hcurrent
  obtain ⟨svc, disk, hdurable, hjournal, hcount, hrecords⟩ : ∃ svc disk,
      loadDurableStore ⟨some (saveStore (Service.holding n hn)), none⟩ = some (svc, disk) ∧
      disk.journal = none ∧ svc.recordCount = n ∧
      svc.records = (Service.holding n hn).records.pack := by
    unfold loadDurableStore
    rw [hload]
    exact ⟨_, _, rfl, rfl, rfl, rfl⟩
  have hd : Daemon.holding n hn = ⟨⟨svc, none⟩, disk⟩ := by
    unfold Daemon.holding
    rw [hdurable]
    rfl
  rw [hd]
  exact ⟨.start hdurable, hjournal, hcount, hrecords⟩

end Holding

/-- A new group takes its first block. -/
lemma exists_groupEntry_none (ctx : BlockCtx) (gk : FieldText 96) :
    ∃ g, ctx.groupEntry none gk = some g := by
  simp [BlockCtx.groupEntry, Service.prefixGroupRecord, Service.newPrefixGroup, Record.addMember,
    Record.hasMember, maxGroupMembers]

/-- The keys of the block. -/
lemma oneBlock_keys : ∃ ctx pk gk bk, fillBlockCtx Payload.oneBlock = some ctx ∧
    ctx.buildPrefixKey = some pk ∧ ctx.buildGroupKey = some gk ∧ ctx.buildBlockKey = some bk ∧
    (∃ b ∈ pk.bytes, 57 < b) ∧ (∃ b ∈ gk.bytes, 57 < b) ∧ ∃ b ∈ bk.bytes, 57 < b := by
  have hkeys : ∃ ctx ∈ fillBlockCtx Payload.oneBlock, ∃ pk ∈ ctx.buildPrefixKey,
      ∃ gk ∈ ctx.buildGroupKey, ∃ bk ∈ ctx.buildBlockKey, (∃ b ∈ pk.bytes, 57 < b) ∧
        (∃ b ∈ gk.bytes, 57 < b) ∧ ∃ b ∈ bk.bytes, 57 < b := by
    decide +kernel
  obtain ⟨ctx, hctx, pk, hp, gk, hg, bk, hb, hbytes⟩ := hkeys
  exact ⟨ctx, pk, gk, bk, hctx, hp, hg, hb, hbytes⟩

/-- A publication into a table with two free slots is answered as failed at the block record, with the
group record and the prefix entry in place. -/
theorem records_left_by_failed_publish :
    Daemon.Reachable Config.durable (Daemon.holding 1022 (by decide)) ∧
    ¬ ErrorAtomic Config.durable (Daemon.holding 1022 (by decide)) Step.publishBlock := by
  obtain ⟨hreach, hjournal, hcount, hrecords⟩ := holding_spec 1022 (by decide) Config.durable
  obtain ⟨ctx, pk, gk, bk, hctx, hp, hg, hb, hpd, hgd, hbd⟩ := oneBlock_keys
  obtain ⟨hw, -⟩ := hreach.wellFormed
  refine ⟨hreach, ?_⟩
  generalize Daemon.holding 1022 (by decide) = d at hreach hjournal hcount hrecords hw
  have hexec : Executes Config.durable d.state.svc Step.publishBlock.req := by
    have hkey : idempotencyKey Payload.oneBlock = none := by decide
    refine ⟨⟨none, ?_⟩, rfl⟩
    show tryIdempotencyReplay d.state.svc WireOperation.publishKvSegment.code Payload.oneBlock = _
    rw [tryIdempotencyReplay, hkey]
    rfl
  have hdurable : DurableWhenExecuted Config.durable d Step.publishBlock := by
    have hheader : journalNeedsHeader none ≠ none := by decide
    exact fun _ _ _ => ⟨by rw [hjournal]; exact hheader, rfl, rfl⟩
  obtain ⟨g, hgroup⟩ := exists_groupEntry_none ctx gk
  have hnone := findRecord_holding hrecords hgd
  have hboot : Bootstraps d.state.svc Step.publishBlock.req ctx :=
    ⟨hctx, .inl rfl, pk, gk, bk, g, hp, hg, hb, by rw [hnone, hgroup]⟩
  have hroom : ¬ d.state.svc.HasRoom ctx := by
    rw [Service.HasRoom, Service.missing_eq hp hg hb, hcount, newRecords, newRecords, newRecords,
      if_pos hnone, if_pos (findRecord_holding hrecords hpd),
      if_pos (findRecord_holding hrecords hbd)]
    decide
  obtain ⟨herr, hiff⟩ := dispatchOperation_without_room Step.publishBlock.env
    Config.durable.storageRoot hw hboot hroom
  rw [errorAtomic_iff_of_executes hdurable hexec]
  intro hatomic
  have hfull := (hiff.mp (hatomic herr)).full
  rw [← hw.recordCount, hcount] at hfull
  exact absurd hfull (by decide)

end MemService
