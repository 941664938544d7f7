import MemService.Reachable

/-!
# Room in the record table

How many records a chain of writes adds, and when the bootstrap chain of a block finds the slots it
needs.  The chain checks for a free slot only when it comes to each record, so a table with too few
of them cuts it short after its first writes; `Service.HasRoom` is the check it does not make.
-/

open ByteText CNumeral

namespace MemService

/-! ## How many records a chain of writes adds -/

lemma newRecords_le_one (svc : Service) (k : Bytes) : newRecords svc k ≤ 1 := by
  unfold newRecords
  split <;> omega

lemma sum_map_le_of_mem {f g : Bytes → ℕ} {ks : List Bytes} {k : Bytes} (hk : k ∈ ks)
    (hle : ∀ j, g j ≤ f j) (hg : g k = 0) : (ks.map g).sum + f k ≤ (ks.map f).sum := by
  have hsum : ∀ js : List Bytes, (js.map g).sum ≤ (js.map f).sum := by
    intro js
    induction js with
    | nil => rfl
    | cons j js ih =>
        have := hle j
        simp only [List.map_cons, List.sum_cons]
        omega
  induction ks with
  | nil => cases hk
  | cons j js ih =>
      simp only [List.map_cons, List.sum_cons]
      rcases List.mem_cons.mp hk with rfl | hk
      · have := hsum js
        omega
      · have := ih hk
        have := hle j
        omega

/-- A chain of writes under the keys `ks` adds at most the keys that are not in the table. -/
lemma count_putAll_le {svc svc' : Service} {rs : List Record} {ks : List Bytes}
    (hu : svc.records.UniqueKeys Record.keyBytes) (hks : ∀ r ∈ rs, r.keyBytes ∈ ks)
    (h : svc.putAll rs = some svc') :
    svc'.records.count ≤ svc.records.count + (ks.map (newRecords svc)).sum := by
  induction rs generalizing svc with
  | nil =>
      obtain rfl := Option.some.inj h
      exact Nat.le_add_right _ _
  | cons r rs ih =>
      rw [Service.putAll_cons] at h
      obtain ⟨svc₁, h₁, h⟩ := Option.bind_eq_some_iff.mp h
      have hcount := Service.count_putRecord h₁
      have hrest := ih (Service.uniqueKeys_putRecord hu h₁) (fun q hq => hks q (by simp [hq])) h
      have hf := Service.findRecord_putRecord hu h₁
      have hsum := sum_map_le_of_mem (f := newRecords svc) (g := newRecords svc₁)
        (hks r (by simp)) (fun j => by
          unfold newRecords
          rw [hf]
          by_cases hj : j = r.keyBytes
          · simp [hj]
          · simp [hj]) (by
          unfold newRecords
          rw [hf, if_pos rfl]
          simp)
      have hnew : newRecords svc r.keyBytes =
          if svc.findRecord r.keyBytes = none then 1 else 0 := rfl
      omega

/-- The records a block's three keys still lack. -/
def Service.missing (svc : Service) (ctx : BlockCtx) : ℕ :=
  newRecords svc (keyOrEmpty ctx.buildGroupKey).bytes +
    newRecords svc (keyOrEmpty ctx.buildPrefixKey).bytes +
    newRecords svc (keyOrEmpty ctx.buildBlockKey).bytes

lemma Service.missing_le_three (svc : Service) (ctx : BlockCtx) : svc.missing ctx ≤ 3 := by
  have hgroup := newRecords_le_one svc (keyOrEmpty ctx.buildGroupKey).bytes
  have hentry := newRecords_le_one svc (keyOrEmpty ctx.buildPrefixKey).bytes
  have hblock := newRecords_le_one svc (keyOrEmpty ctx.buildBlockKey).bytes
  unfold missing
  omega

lemma recordCount_putAll_le {svc svc' : Service} {ctx : BlockCtx} {rs : List Record}
    {pk gk bk : FieldText 96} (hw : svc.WellFormed) (hp : ctx.buildPrefixKey = some pk)
    (hg : ctx.buildGroupKey = some gk) (hb : ctx.buildBlockKey = some bk)
    (hvalid : ∀ r ∈ rs, Service.ValidRecord r)
    (hkeys : ∀ r ∈ rs, r.keyBytes = gk.bytes ∨ r.keyBytes = pk.bytes ∨ r.keyBytes = bk.bytes)
    (h : svc.putAll rs = some svc') : svc'.recordCount ≤ svc.recordCount + svc.missing ctx := by
  have hin : ∀ r ∈ rs, r.keyBytes ∈ [gk.bytes, pk.bytes, bk.bytes] :=
    fun r hr => by simpa using hkeys r hr
  have hle := count_putAll_le hw.recordKeys hin h
  rw [hw.recordCount, (hw.putAll hvalid h).recordCount, Service.missing, hp, hg, hb]
  simp only [List.map_cons, List.map_nil, List.sum_cons, List.sum_nil] at hle
  simp only [keyOrEmpty, Option.getD_some]
  omega

/-! ## When the chain goes through -/

/-- A chain of writes under different keys adds exactly the keys that are not in the table. -/
lemma count_putAll_of_nodup {svc svc' : Service} {rs : List Record}
    (hu : svc.records.UniqueKeys Record.keyBytes) (hnd : (rs.map Record.keyBytes).Nodup)
    (h : svc.putAll rs = some svc') :
    svc'.records.count = svc.records.count + (rs.map fun r => newRecords svc r.keyBytes).sum := by
  induction rs generalizing svc with
  | nil =>
      obtain rfl := Option.some.inj h
      rfl
  | cons r rs ih =>
      rw [Service.putAll_cons] at h
      obtain ⟨svc₁, h₁, h⟩ := Option.bind_eq_some_iff.mp h
      rw [List.map_cons, List.nodup_cons] at hnd
      have hcount := Service.count_putRecord h₁
      have hrest := ih (Service.uniqueKeys_putRecord hu h₁) hnd.2 h
      have hsame : rs.map (fun q => newRecords svc₁ q.keyBytes) =
          rs.map (fun q => newRecords svc q.keyBytes) := by
        refine List.map_congr_left fun q hq => ?_
        have hne : q.keyBytes ≠ r.keyBytes := fun heq =>
          hnd.1 (heq ▸ List.mem_map_of_mem hq)
        simp only [newRecords, Service.findRecord_putRecord hu h₁, if_neg hne]
      have hnew : newRecords svc r.keyBytes =
          if svc.findRecord r.keyBytes = none then 1 else 0 := rfl
      rw [hsame] at hrest
      rw [List.map_cons, List.sum_cons]
      omega

namespace Service

variable {svc svc' : Service} {ctx : BlockCtx}

/-- The table has a slot for every record the block still lacks. -/
def HasRoom (svc : Service) (ctx : BlockCtx) : Prop :=
  svc.recordCount + svc.missing ctx ≤ maxRecords

/-- A full table that refuses a record had no slot left for it before the chain either. -/
lemma full_of_refused {rs : List Record} {r : Record} (hu : svc.records.UniqueKeys Record.keyBytes)
    (hnd : ((rs ++ [r]).map Record.keyBytes).Nodup) (h : svc.putAll rs = some svc')
    (hfull : svc'.putRecord r = none) :
    maxRecords < svc.records.count + ((rs ++ [r]).map fun q => newRecords svc q.keyBytes).sum := by
  rw [List.map_append, List.nodup_append] at hnd
  have hcount := count_putAll_of_nodup hu hnd.1 h
  obtain ⟨hnone, hcap⟩ := Service.putRecord_eq_none_iff.mp hfull
  have hbefore : svc.findRecord r.keyBytes = none := by
    rw [Service.findRecord_putAll hu h, Option.or_eq_none_iff] at hnone
    exact hnone.2
  have hone : newRecords svc r.keyBytes = 1 := if_pos hbefore
  simp only [List.map_append, List.sum_append, List.map_cons, List.map_nil, List.sum_cons,
    List.sum_nil, hone]
  omega

lemma missing_eq {pk gk bk : FieldText 96} (hp : ctx.buildPrefixKey = some pk)
    (hg : ctx.buildGroupKey = some gk) (hb : ctx.buildBlockKey = some bk) :
    svc.missing ctx =
      newRecords svc gk.bytes + newRecords svc pk.bytes + newRecords svc bk.bytes := by
  rw [missing, hp, hg, hb]
  rfl

/-- A chain that was cut short had no room. -/
lemma CutShort.not_hasRoom {rs : List Record} (hw : svc.WellFormed) (h : svc.CutShort ctx rs) :
    ¬ svc.HasRoom ctx := by
  rw [HasRoom, hw.recordCount]
  cases h with
  | @beforePrefix pk gk bk g svc₁ hp hg hb hgroup hput hfull =>
      have hof : GroupOf gk ctx.blockHash g :=
        groupOf_prefixGroupRecord (fun _ hr => key_of_findRecord hr) hgroup
      have hkg : g.keyBytes = gk.bytes := congrArg FieldText.bytes hof.key
      have hkp : (ctx.prefixEntry pk).keyBytes = pk.bytes := rfl
      have hpg := BlockCtx.prefixKey_ne_groupKey hp hg
      have hlt := full_of_refused hw.recordKeys (by simp [hkg, hkp, Ne.symm hpg]) hput hfull
      simp only [List.cons_append, List.nil_append, List.map_cons, List.map_nil, List.sum_cons,
        List.sum_nil, hkg, hkp] at hlt
      rw [missing_eq hp hg hb]
      omega
  | @beforeBlock pk gk bk g svc₁ hp hg hb hgroup hput hfull =>
      have hof : GroupOf gk ctx.blockHash g :=
        groupOf_prefixGroupRecord (fun _ hr => key_of_findRecord hr) hgroup
      have hkg : g.keyBytes = gk.bytes := congrArg FieldText.bytes hof.key
      have hkp : (ctx.prefixEntry pk).keyBytes = pk.bytes := rfl
      have hkb : (ctx.blockEntry bk).keyBytes = bk.bytes := rfl
      have hpg := BlockCtx.prefixKey_ne_groupKey hp hg
      have hpb := BlockCtx.prefixKey_ne_blockKey hp hb
      have hgb := BlockCtx.groupKey_ne_blockKey hg hb
      have hlt := full_of_refused hw.recordKeys
        (by simp [hkg, hkp, hkb, Ne.symm hpg, hpb, hgb]) hput hfull
      simp only [List.cons_append, List.nil_append, List.map_cons, List.map_nil, List.sum_cons,
        List.sum_nil, hkg, hkp, hkb] at hlt
      rw [missing_eq hp hg hb]
      omega

/-- A chain that went through had room. -/
lemma BootstrapChain.hasRoom (hw : svc.WellFormed) (c : svc.BootstrapChain ctx)
    {rs : List Record} (h : svc.putAll (c.records ++ rs) = some svc') : svc.HasRoom ctx := by
  have hsplit : c.records ++ rs =
      [c.group, ctx.prefixEntry c.prefixKey, ctx.blockEntry c.blockKey] ++
        ([ctx.blockResult c.blockKey, c.groupWithResult, ctx.prefixResult c.prefixKey] ++ rs) := rfl
  rw [hsplit, putAll_append] at h
  obtain ⟨svc₃, h₃, -⟩ := Option.bind_eq_some_iff.mp h
  have hkg : c.group.keyBytes = c.groupKey.bytes := congrArg FieldText.bytes c.groupOf.key
  have hkp : (ctx.prefixEntry c.prefixKey).keyBytes = c.prefixKey.bytes := rfl
  have hkb : (ctx.blockEntry c.blockKey).keyBytes = c.blockKey.bytes := rfl
  have hpg := BlockCtx.prefixKey_ne_groupKey c.buildPrefixKey c.buildGroupKey
  have hpb := BlockCtx.prefixKey_ne_blockKey c.buildPrefixKey c.buildBlockKey
  have hgb := BlockCtx.groupKey_ne_blockKey c.buildGroupKey c.buildBlockKey
  have hcount := count_putAll_of_nodup hw.recordKeys
    (by simp [hkg, hkp, hkb, Ne.symm hpg, hpb, hgb]) h₃
  have hcap := svc₃.records.count_le
  simp only [List.map_cons, List.map_nil, List.sum_cons, List.sum_nil, hkg, hkp, hkb] at hcount
  rw [HasRoom, hw.recordCount, missing_eq c.buildPrefixKey c.buildGroupKey c.buildBlockKey]
  omega

end Service

/-- A block of a prefix, with its first result. -/
def Payload.oneBlock : Payload :=
  ⟨ascii "request_id=r\nprefix_group=p\ngroup_id=g\nblock_hash=h\nresult_segment_id=1",
    by decide, by decide⟩

/-- The publication of one block, in an idle world. -/
def Step.publishBlock : Step := Step.idle .publishKvSegment Payload.oneBlock

end MemService
