import MemService.ErrorAtomicity
import MemService.MetadataUpdates

/-!
# The members of a prefix group

A prefix group keeps the hashes of its blocks in the order in which they joined, four at most.  The
bootstrap chain rewrites the group record twice, each time from the record it finds, so the members it
has stay and the block of the request joins at the end.  A fifth block is refused by the chain's first
write, before anything is stored.

Keys are joined from request texts with slashes in between, and a text may itself have slashes.  So the
prefix entry of one request can have the key of another request's group.  A registration refuses that
case; a publication does not, and writes its prefix entry over the group record.
`group_members_kept` is about the runs without such a publication, and `group_overwritten` is one with it.
-/

open ByteText CNumeral

namespace MemService

/-! ## Member lists -/

namespace Record

/-- The blocks of a group, in the order in which they joined. -/
def members (r : Record) : List (FieldText 96) :=
  List.ofFn fun i : Fin r.memberCount.val =>
    r.memberBlockHashes (i.castLE (Nat.lt_succ_iff.mp r.memberCount.isLt))

lemma length_members (r : Record) : r.members.length = r.memberCount.val := List.length_ofFn

lemma length_members_le (r : Record) : r.members.length ≤ maxGroupMembers := by
  rw [length_members]
  exact Nat.lt_succ_iff.mp r.memberCount.isLt

lemma hasMember_iff {r : Record} {blockHash : FieldText 96} :
    r.hasMember blockHash.bytes = true ↔ blockHash ∈ r.members := by
  simp only [hasMember, decide_eq_true_eq, members, List.mem_ofFn]
  constructor
  · rintro ⟨i, hi, hbytes⟩
    exact ⟨⟨i.val, hi⟩, FieldText.ext hbytes⟩
  · rintro ⟨i, rfl⟩
    exact ⟨_, i.isLt, rfl⟩

lemma members_withMember (r : Record) (blockHash : FieldText 96)
    (h : r.memberCount.val < maxGroupMembers) :
    (r.withMember blockHash h).members = r.members ++ [blockHash] := by
  apply List.ext_getElem
  · simp [length_members, withMember]
  · intro i h₁ h₂
    have hi : i < r.memberCount.val + 1 := by simpa [length_members, withMember] using h₁
    simp only [members, List.getElem_ofFn, withMember]
    by_cases hlast : i = r.memberCount.val
    · subst hlast
      rw [List.getElem_append_right (by simp)]
      simp only [List.getElem_singleton]
      exact Function.update_self _ _ _
    · have hlt : i < r.memberCount.val := by omega
      rw [List.getElem_append_left (by simpa using hlt), List.getElem_ofFn,
        Function.update_of_ne (fun heq => hlast (congrArg Fin.val heq))]
      rfl

/-- A block joins a group at the end, unless it is there. -/
lemma members_addMember {r r' : Record} {blockHash : FieldText 96}
    (h : r.addMember blockHash = some r') :
    r'.members = if blockHash ∈ r.members then r.members else r.members ++ [blockHash] := by
  unfold addMember at h
  split at h
  · rename_i hmember
    obtain rfl := Option.some.inj h
    rw [if_pos (hasMember_iff.mp hmember)]
  · rename_i hmember
    split at h
    · obtain rfl := Option.some.inj h
      rw [members_withMember, if_neg (fun hmem => hmember (hasMember_iff.mpr hmem))]
    · cases h

lemma members_prefix_addMember {r r' : Record} {blockHash : FieldText 96}
    (h : r.addMember blockHash = some r') : r.members <+: r'.members := by
  rw [members_addMember h]
  split
  · exact List.prefix_rfl
  · exact List.prefix_append _ _

lemma nodup_addMember {r r' : Record} {blockHash : FieldText 96}
    (h : r.addMember blockHash = some r') (hr : r.members.Nodup) : r'.members.Nodup := by
  rw [members_addMember h]
  split
  · exact hr
  · rename_i hnot
    refine List.nodup_append.mpr ⟨hr, List.nodup_singleton _, fun a ha b hb => ?_⟩
    obtain rfl := List.mem_singleton.mp hb
    exact fun hab => hnot (hab ▸ ha)

/-- A sound record: if it is a group, its blocks are distinct and its key is a request's. -/
structure SoundGroup (r : Record) : Prop where
  nodup : r.kind = RecordKind.prefixGroup → r.members.Nodup
  key : r.kind = RecordKind.prefixGroup → ∃ rest, r.key.bytes = ascii "request/" ++ rest

lemma soundGroup_of_kind {r : Record} (h : r.kind ≠ RecordKind.prefixGroup) : r.SoundGroup :=
  ⟨fun hk => absurd hk h, fun hk => absurd hk h⟩

end Record

namespace Service

/-- Every record of the table is sound. -/
def GroupsSound (svc : Service) : Prop := ∀ r ∈ svc.records.entries, r.SoundGroup

/-- A record that may stand where the service has a group: a group with the same blocks first. -/
def Extends (svc : Service) (r : Record) : Prop :=
  ∀ g, svc.findRecord r.keyBytes = some g → g.kind = RecordKind.prefixGroup →
    r.kind = RecordKind.prefixGroup ∧ g.members <+: r.members

/-- Every group is still there and has kept its blocks in their order. -/
def KeepsMembers (svc svc' : Service) : Prop :=
  ∀ k g, svc.findRecord k = some g → g.kind = RecordKind.prefixGroup →
    ∃ g', svc'.findRecord k = some g' ∧ g'.kind = RecordKind.prefixGroup ∧ g.members <+: g'.members

lemma keepsMembers_refl (svc : Service) : svc.KeepsMembers svc :=
  fun _ g hg hk => ⟨g, hg, hk, List.prefix_rfl⟩

variable {svc svc' : Service} {ctx : BlockCtx}

/-- Writes of sound records that extend the groups they replace. -/
lemma putAll_groups {rs : List Record} (hu : svc.records.UniqueKeys Record.keyBytes)
    (hs : svc.GroupsSound) (hrs : ∀ r ∈ rs, svc.Extends r ∧ r.SoundGroup)
    (h : svc.putAll rs = some svc') : svc.KeepsMembers svc' ∧ svc'.GroupsSound := by
  constructor
  · intro k g hg hk
    rw [findRecord_putAll hu h, hg]
    cases hfind : rs.reverse.find? fun r => r.keyBytes = k with
    | none => exact ⟨g, by simp, hk, List.prefix_rfl⟩
    | some r =>
        have hkey : r.keyBytes = k := by simpa using List.find?_some hfind
        have hmem : r ∈ rs := List.mem_reverse.mp (List.mem_of_find?_eq_some hfind)
        obtain ⟨hkind, hprefix⟩ := (hrs r hmem).1 g (hkey ▸ hg) hk
        exact ⟨r, by simp, hkind, hprefix⟩
  · intro r hr
    rcases mem_entries_putAll hu h hr with hmem | hmem
    · exact (hrs r hmem).2
    · exact hs r hmem

/-! ## What the chain writes -/

lemma members_prefixGroupRecord {found : Option Record} {key : FieldText 96}
    {requestId groupId : FieldText 64} {blockHash : FieldText 96} {node level : UInt32}
    {hot last : UInt64} {state : KvcacheState} {g : Record}
    (h : prefixGroupRecord found key requestId groupId blockHash node level hot state last =
      some g) :
    g.kind = RecordKind.prefixGroup ∧
      (found.getD (newPrefixGroup key requestId groupId)).members <+: g.members ∧
      ((found.getD (newPrefixGroup key requestId groupId)).members.Nodup → g.members.Nodup) := by
  obtain ⟨base, group, v, rfl, hkind, hadd, rfl⟩ := prefixGroupRecord_cases h
  have hprefix := Record.members_prefix_addMember hadd
  have hnodup := fun h => Record.nodup_addMember hadd h
  refine ⟨?_, hprefix, hnodup⟩
  obtain ⟨-, rfl⟩ | ⟨hlt, rfl⟩ := Record.addMember_cases hadd
  · exact hkind
  · exact hkind

/-- The key of a group record starts as every request's key does. -/
lemma request_of_groupKey {gk : FieldText 96} (hg : ctx.buildGroupKey = some gk) :
    ∃ rest, gk.bytes = ascii "request/" ++ rest :=
  ⟨ctx.requestId.bytes ++ (ascii "/prefix-group/" ++ ctx.groupId.bytes), by
    rw [BlockCtx.bytes_buildGroupKey hg, List.append_assoc, List.append_assoc]⟩

/-- The first group record of a chain. -/
lemma groupEntry_extends (hs : svc.GroupsSound) {gk : FieldText 96} {g : Record}
    (hg : ctx.buildGroupKey = some gk)
    (h : ctx.groupEntry (svc.findRecord gk.bytes) gk = some g) : svc.Extends g ∧ g.SoundGroup := by
  obtain ⟨hkind, hprefix, hnodup⟩ := members_prefixGroupRecord h
  have hof : GroupOf gk ctx.blockHash g :=
    groupOf_prefixGroupRecord (fun _ hr => key_of_findRecord hr) h
  refine ⟨fun g₀ hg₀ _ => ⟨hkind, ?_⟩, fun _ => hnodup ?_, fun _ => ?_⟩
  · have hkey : g.keyBytes = gk.bytes := congrArg FieldText.bytes hof.key
    rw [hkey] at hg₀
    rwa [hg₀] at hprefix
  · cases hfound : svc.findRecord gk.bytes with
    | none => exact List.nodup_nil
    | some g₀ =>
        obtain ⟨base, -, -, hbase, hbaseKind, -, -⟩ := prefixGroupRecord_cases h
        rw [hfound] at hbase
        obtain rfl : base = g₀ := hbase
        exact (hs base (SlotTable.lookup_mem hfound)).nodup hbaseKind
  · rw [hof.key]
    exact request_of_groupKey hg

/-- A record that is no group, under a key where there is none. -/
lemma extends_of_key {r : Record} (hkind : r.kind ≠ RecordKind.prefixGroup)
    (h : ∀ g, svc.findRecord r.keyBytes = some g → g.kind ≠ RecordKind.prefixGroup) :
    svc.Extends r ∧ r.SoundGroup :=
  ⟨fun g hg hk => absurd hk (h g hg), Record.soundGroup_of_kind hkind⟩

/-- A group is never under the key of a block. -/
lemma kind_of_blockKey (hs : svc.GroupsSound) {bk : FieldText 96} (hb : ctx.buildBlockKey = some bk)
    {g : Record} (hg : svc.findRecord bk.bytes = some g) : g.kind ≠ RecordKind.prefixGroup := by
  intro hkind
  obtain ⟨rest, hrest⟩ := (hs g (SlotTable.lookup_mem hg)).key hkind
  rw [key_of_findRecord hg, BlockCtx.bytes_buildBlockKey hb] at hrest
  exact BlockCtx.append_ne_append 1 (by decide) (by decide) (by decide) _ _ hrest

/-- The chain of a context gets as far as its prefix entry, and the entry's key is that of a group:
its keys fit, its group takes the block, and the entry finds a group. -/
def Overwrites (svc : Service) (ctx : BlockCtx) : Prop :=
  ∃ pk bk g, ctx.buildPrefixKey = some pk ∧ ctx.buildBlockKey = some bk ∧
    svc.GroupTakes ctx ctx.blockHash ∧ svc.findRecord pk.bytes = some g ∧
    g.kind = RecordKind.prefixGroup

/-- A group record that the chain can write. -/
lemma groupTakes_of_groupEntry {gk : FieldText 96} {g : Record} (hg : ctx.buildGroupKey = some gk)
    (h : ctx.groupEntry (svc.findRecord gk.bytes) gk = some g) (hput : svc.putRecord g = some svc') :
    svc.GroupTakes ctx ctx.blockHash := by
  refine (groupTakes_iff_putPrefixGroup hg ctx.placementNode ctx.placementLevel ctx.hotSegmentId
    KvcacheState.filled 0).mpr ⟨svc', ?_⟩
  exact Option.bind_eq_some_iff.mpr ⟨g, h, hput⟩

/-- The prefix entry of a chain that gets to it extends what it finds. -/
lemma prefixEntry_extends (hover : ¬ svc.Overwrites ctx) {pk gk bk : FieldText 96} {g : Record}
    (hp : ctx.buildPrefixKey = some pk) (hg : ctx.buildGroupKey = some gk)
    (hb : ctx.buildBlockKey = some bk)
    (hgroup : ctx.groupEntry (svc.findRecord gk.bytes) gk = some g)
    (hput : svc.putRecord g = some svc') {r : Record} (hkind : r.kind = RecordKind.requestPrefix)
    (hkey : r.keyBytes = pk.bytes) : svc.Extends r ∧ r.SoundGroup := by
  refine extends_of_key (by rw [hkind]; decide) fun g₀ hg₀ hk => hover ?_
  exact ⟨pk, bk, g₀, hp, hb, groupTakes_of_groupEntry hg hgroup hput, hkey ▸ hg₀, hk⟩

/-- Everything a chain writes extends the groups, if its prefix entry spares them. -/
lemma BootstrapChain.extends (hs : svc.GroupsSound) (hover : ¬ svc.Overwrites ctx)
    (c : svc.BootstrapChain ctx) {svc₁ : Service} (hput : svc.putRecord c.group = some svc₁)
    (state : KvcacheState) {r : Record} (h : c.Writes state r) : svc.Extends r ∧ r.SoundGroup := by
  have hgroup := groupEntry_extends hs c.buildGroupKey c.groupEntry
  have hgroup' : svc.Extends c.groupWithResult ∧ c.groupWithResult.SoundGroup := by
    obtain ⟨hkind, hprefix, hnodup⟩ := members_prefixGroupRecord c.groupResult
    have hkey : c.groupWithResult.keyBytes = c.group.keyBytes :=
      congrArg FieldText.bytes (c.groupOf_result.key.trans c.groupOf.key.symm)
    refine ⟨fun g₀ hg₀ hk => ⟨hkind, ?_⟩, fun _ => hnodup (hgroup.2.nodup c.groupOf.kind),
      fun _ => ?_⟩
    · exact (hgroup.1 g₀ (hkey ▸ hg₀) hk).2.trans hprefix
    · rw [c.groupOf_result.key]
      exact request_of_groupKey c.buildGroupKey
  have hentry : ∀ r : Record, r.kind = RecordKind.requestPrefix →
      r.keyBytes = c.prefixKey.bytes → svc.Extends r ∧ r.SoundGroup := fun r =>
    prefixEntry_extends hover c.buildPrefixKey c.buildGroupKey c.buildBlockKey c.groupEntry hput
  have hblock : ∀ r : Record, r.kind = RecordKind.blockMeta →
      r.keyBytes = c.blockKey.bytes → svc.Extends r ∧ r.SoundGroup := by
    intro r hk hkey
    refine extends_of_key (by rw [hk]; decide) fun g hg => ?_
    exact kind_of_blockKey hs c.buildBlockKey (hkey ▸ hg)
  simp only [BootstrapChain.Writes, BootstrapChain.records, List.mem_cons, List.not_mem_nil,
    or_false] at h
  rcases h with (rfl | rfl | rfl | rfl | rfl | rfl) | rfl | rfl
  · exact hgroup
  · exact hentry _ rfl rfl
  · exact hblock _ rfl rfl
  · exact hblock _ rfl rfl
  · exact hgroup'
  · exact hentry _ rfl rfl
  · exact hentry _ rfl rfl
  · exact hblock _ rfl rfl

lemma exists_putRecord_of_putAll {r : Record} {rs : List Record}
    (h : svc.putAll (r :: rs) = some svc') : ∃ svc₁, svc.putRecord r = some svc₁ := by
  rw [putAll_cons] at h
  obtain ⟨svc₁, h₁, -⟩ := Option.bind_eq_some_iff.mp h
  exact ⟨svc₁, h₁⟩

end Service

/-! ## One request -/

/-- A registration never overwrites a group: it looks at what its prefix entry finds. -/
lemma RegisterAdmits.not_overwrites {svc : Service} {ctx : BlockCtx} (h : RegisterAdmits svc ctx) :
    ¬ svc.Overwrites ctx := by
  rintro ⟨pk, -, g, hp, -, -, hg, hkind⟩
  have hkey : keyOrEmpty ctx.buildPrefixKey = pk := by
    rw [hp]
    rfl
  have hentry := (h.2 g (by rw [hkey, hg])).1
  rw [hkind] at hentry
  exact absurd hentry (by decide)

/-- A publish or register request that does not overwrite a group keeps the members of every group. -/
lemma ChainOutcome.groups {svc : Service} {req : Request} {out : Service × Reply}
    (h : ChainOutcome svc req out) (hu : svc.records.UniqueKeys Record.keyBytes)
    (hs : svc.GroupsSound)
    (hover : req.operation = WireOperation.publishKvSegment.code →
      ∀ ctx, fillBlockCtx req.payload = some ctx → ¬ svc.Overwrites ctx) :
    svc.KeepsMembers out.1 ∧ out.1.GroupsSound := by
  have hspares : ∀ ctx, Bootstraps svc req ctx → ¬ svc.Overwrites ctx := by
    intro ctx hboot
    rcases hboot.operation with hop | ⟨-, hadm⟩
    · exact hover hop ctx hboot.context
    · exact hadm.not_overwrites
  cases h with
  | untouched => exact ⟨svc.keepsMembers_refl, hs⟩
  | cutShort hboot hcut hput =>
      refine Service.putAll_groups hu hs ?_ hput
      cases hcut with
      | beforePrefix _ hg _ hgroup _ _ =>
          simp only [List.forall_mem_cons, List.not_mem_nil, false_implies, implies_true, and_true]
          exact Service.groupEntry_extends hs hg hgroup
      | beforeBlock hp hg hb hgroup _ _ =>
          obtain ⟨svc₁, hfirst⟩ := Service.exists_putRecord_of_putAll hput
          simp only [List.forall_mem_cons, List.not_mem_nil, false_implies, implies_true, and_true]
          exact ⟨Service.groupEntry_extends hs hg hgroup,
            Service.prefixEntry_extends (hspares _ hboot) hp hg hb hgroup hfirst rfl rfl⟩
  | done hboot c hextra hput hok =>
      obtain ⟨svc₁, hfirst⟩ := Service.exists_putRecord_of_putAll hput
      refine Service.putAll_groups hu hs (fun r hr => ?_) hput
      refine c.extends hs (hspares _ hboot) hfirst (req.payload.getState KvcacheState.filled) ?_
      rcases hextra with ⟨-, rfl⟩ | ⟨-, rfl⟩
      · exact c.writes_published _ hr
      · exact c.writes_registered _ hr

/-- A request to publish a block or to register a prefix entry. -/
def Step.BlockRequest (st : Step) : Prop :=
  st.req.operation = WireOperation.publishKvSegment.code ∨
    st.req.operation = WireOperation.registerPrefixEntry.code

/-- The step is not an executed publication whose prefix entry takes the place of a group. -/
def SparesGroups (cfg : Config) (d : Daemon) (st : Step) : Prop :=
  st.req.operation = WireOperation.publishKvSegment.code → Executes cfg d.state.svc st.req →
    ∀ ctx, fillBlockCtx st.req.payload = some ctx → ¬ d.state.svc.Overwrites ctx

/-- The group of a context has four blocks, and the context's is not one of them. -/
def Service.FifthBlock (svc : Service) (ctx : BlockCtx) : Prop :=
  ∃ gk g, ctx.buildGroupKey = some gk ∧ svc.findRecord gk.bytes = some g ∧
    g.kind = RecordKind.prefixGroup ∧ g.members.length = maxGroupMembers ∧
    ctx.blockHash ∉ g.members

/-- What a step does to groups.  Afterwards the blocks of every group are distinct and at most four;
every group has kept its blocks in their order, unless a retention pass deleted its record; and a
request that would add a fifth block, as every publication and every admitted registration of it would,
has changed no record, and is refused unless a stored answer is repeated. -/
structure GroupStep (cfg : Config) (d : Daemon) (st : Step) : Prop where
  distinct : ∀ r ∈ (d.step cfg st).state.svc.records.entries, r.kind = RecordKind.prefixGroup →
    r.members.Nodup ∧ r.members.length ≤ maxGroupMembers
  kept : ∀ k g, d.state.svc.findRecord k = some g → g.kind = RecordKind.prefixGroup →
    (∃ g', (d.step cfg st).state.svc.findRecord k = some g' ∧ g'.kind = RecordKind.prefixGroup ∧
      g.members <+: g'.members) ∨
    (cfg.limits ≠ none ∧ (d.step cfg st).state.svc.findRecord k = none)
  fifth : ∀ ctx, fillBlockCtx st.req.payload = some ctx → d.state.svc.FifthBlock ctx →
    (st.req.operation = WireOperation.publishKvSegment.code ∨ RegisterAdmits d.state.svc ctx) →
    SameRecords d.state.svc (d.step cfg st).state.svc ∧
    ((∃ pending, tryIdempotencyReplay d.state.svc st.req.operation st.req.payload =
      .execute pending) → (d.answer cfg st).status ≠ WireStatus.ok)

/-! ## Deletions and members -/

namespace Service

variable {svc svc' : Service}

lemma Shrinks.groupsSound (h : svc.Shrinks svc') (hs : svc.GroupsSound) : svc'.GroupsSound := by
  intro r hr
  obtain ⟨i, hi⟩ := SlotTable.mem_entries.mp hr
  exact hs r (SlotTable.mem_entries_of_get (h.records i r hi))

/-- A record that is found after deletions was found before. -/
lemma Shrinks.findRecord (h : svc.Shrinks svc') (hu : svc.records.UniqueKeys Record.keyBytes)
    {k : Bytes} {r : Record} (hr : svc'.findRecord k = some r) : svc.findRecord k = some r := by
  obtain ⟨i, hi⟩ := SlotTable.mem_entries.mp (SlotTable.lookup_mem hr)
  exact hu.lookup_eq_some_iff.mpr
    ⟨SlotTable.mem_entries_of_get (h.records i r hi), SlotTable.lookup_key hr⟩

lemma findRecord_congr {svc svc' : Service} (h : svc'.records = svc.records) (k : Bytes) :
    svc'.findRecord k = svc.findRecord k := by
  unfold findRecord
  rw [h]

end Service

/-- Without limits no retention pass runs. -/
lemma limits_of_pruned {cfg : Config} {env : Env} {s : ServiceState} {req : Request}
    (h : (answerRequest cfg env s req).checkpointPruned = true ∨
      (answerRequest cfg env s req).recordPruned = true) : cfg.limits ≠ none := by
  intro hnone
  revert h
  unfold answerRequest
  split
  · simp
  · simp only [executeOperation, hnone]
    split <;> simp

/-! ## A fifth block -/

/-- A chain with a fifth block stops at its group. -/
lemma Service.FifthBlock.bootstrapKvcache {svc : Service} {ctx : BlockCtx} (h : svc.FifthBlock ctx) :
    svc.bootstrapKvcache ctx = .error svc := by
  obtain ⟨gk, g, hgk, hg, hkind, hfull, hnot⟩ := h
  have hrefused : svc.putPrefixGroup gk ctx.requestId ctx.groupId ctx.blockHash ctx.placementNode
      ctx.placementLevel ctx.hotSegmentId KvcacheState.filled 0 = none := by
    rw [putPrefixGroup, hg, prefixGroupRecord_eq_none_iff.mpr (.inr ?_), Option.bind_none]
    refine addMember_eq_none_iff.mpr ⟨?_, ?_⟩
    · exact Bool.eq_false_iff.mpr fun hmember => hnot (Record.hasMember_iff.mp hmember)
    · rw [Record.length_members] at hfull
      exact hfull.not_lt
  unfold Service.bootstrapKvcache
  rw [hgk]
  cases ctx.buildPrefixKey with
  | none => rfl
  | some pk =>
      cases ctx.buildBlockKey with
      | none => rfl
      | some bk =>
          simp only [hrefused]
          rfl

lemma Service.FifthBlock.not_chainStarts {svc : Service} {ctx : BlockCtx} (h : svc.FifthBlock ctx) :
    ¬ svc.ChainStarts ctx := by
  rintro ⟨pk, gk, bk, g', -, hgk, -, hentry⟩
  obtain ⟨gk', g, hgk', hg, hkind, hfull, hnot⟩ := h
  obtain rfl : gk = gk' := Option.some.inj (hgk.symm.trans hgk')
  rw [hg] at hentry
  obtain ⟨base, group, v, rfl, -, hadd, -⟩ := Service.prefixGroupRecord_cases hentry
  have hlen := group.length_members_le
  rw [Record.members_addMember hadd] at hlen
  simp only [if_neg hnot, List.length_append, List.length_singleton, hfull] at hlen
  omega

lemma ChainOutcome.fifth {svc : Service} {req : Request} {out : Service × Reply}
    (h : ChainOutcome svc req out) {ctx : BlockCtx} (hctx : fillBlockCtx req.payload = some ctx)
    (hfifth : svc.FifthBlock ctx) : out.1 = svc := by
  have hno : ∀ ctx', ¬ Bootstraps svc req ctx' := by
    intro ctx' hboot
    obtain rfl : ctx = ctx' := Option.some.inj (hctx.symm.trans hboot.context)
    exact hfifth.not_chainStarts hboot.starts
  cases h with
  | untouched => rfl
  | cutShort hboot _ _ => exact absurd hboot (hno _)
  | done hboot _ _ _ _ => exact absurd hboot (hno _)

/-! ## Dispatched block requests -/

/-- The dispatch of a block request is the outcome of its chain. -/
lemma dispatchOperation_block (env : Env) (storageRoot : Bool) {s : ServiceState} {st : Step}
    (hu : s.svc.records.UniqueKeys Record.keyBytes) (h : st.BlockRequest) :
    ∃ out, ChainOutcome s.svc st.req out ∧
      dispatchOperation env storageRoot s st.req.operation st.req.payload = s.writes out := by
  rcases h with hop | hop
  · refine ⟨publishKv s.svc st.req.payload, publishKv_chain hu hop, ?_⟩
    rw [hop]
    rfl
  · refine ⟨registerPrefix s.svc st.req.payload, registerPrefix_chain hu hop, ?_⟩
    rw [hop]
    rfl

/-- A fifth block that gets to its group is refused. -/
lemma dispatchOperation_fifth (env : Env) (storageRoot : Bool) {s : ServiceState} {st : Step}
    {ctx : BlockCtx} (h : st.BlockRequest) (hctx : fillBlockCtx st.req.payload = some ctx)
    (hfifth : s.svc.FifthBlock ctx)
    (hadm : st.req.operation = WireOperation.publishKvSegment.code ∨ RegisterAdmits s.svc ctx) :
    (dispatchOperation env storageRoot s st.req.operation st.req.payload).2.status =
      WireStatus.internal := by
  have hpublish : st.req.operation = WireOperation.publishKvSegment.code →
      (dispatchOperation env storageRoot s st.req.operation st.req.payload).2.status =
        WireStatus.internal := by
    intro hop
    rw [hop]
    show (publishKv s.svc st.req.payload).2.status = _
    rw [publishKv_error hctx hfifth.bootstrapKvcache]
    rfl
  rcases h with hop | hop
  · exact hpublish hop
  · rcases hadm with hop' | hadm
    · exact hpublish hop'
    · rw [hop]
      show (registerPrefix s.svc st.req.payload).2.status = _
      rw [registerPrefix_error hctx hadm hfifth.bootstrapKvcache]
      rfl

/-! ## One step, and runs -/

/-- The groups that are found after deletions. -/
lemma Service.KeepsMembers.pruned {svc svc₁ svc₂ : Service} (h : svc.KeepsMembers svc₁)
    (hp : svc₁.Pruned svc₂) (hu : svc₁.records.UniqueKeys Record.keyBytes) {k : Bytes} {g : Record}
    (hg : svc.findRecord k = some g) (hk : g.kind = RecordKind.prefixGroup) :
    (∃ g', svc₂.findRecord k = some g' ∧ g'.kind = RecordKind.prefixGroup ∧
      g.members <+: g'.members) ∨ svc₂.findRecord k = none := by
  cases hfind : svc₂.findRecord k with
  | none => exact .inr rfl
  | some g' =>
      obtain ⟨g₁, hg₁, hkind, hprefix⟩ := h k g hg hk
      obtain rfl : g₁ = g' := Option.some.inj (hg₁.symm.trans (hp.shrinks.findRecord hu hfind))
      exact .inl ⟨g₁, rfl, hkind, hprefix⟩

/-- The tables of a daemon whose groups are sound. -/
structure Daemon.GroupsSound (d : Daemon) : Prop where
  wellFormed : d.WellFormed
  groups : d.state.svc.GroupsSound

/-- What a block request does to the record table before retention, and after it. -/
lemma answerRequest_groups {cfg : Config} {d : Daemon} {st : Step} (hd : d.GroupsSound)
    (hblock : st.BlockRequest) (hspares : SparesGroups cfg d st) :
    ∃ svc₁ svc₂ : Service, d.state.svc.KeepsMembers svc₁ ∧ svc₁.GroupsSound ∧
      svc₁.records.UniqueKeys Record.keyBytes ∧ svc₁.Pruned svc₂ ∧
      (svc₁ ≠ svc₂ → cfg.limits ≠ none) ∧ (d.step cfg st).state.svc.records = svc₂.records := by
  have hrecords := (d.step_records cfg st).1
  have hu := hd.wellFormed.1.recordKeys
  have ha := answerRequest_answered cfg st.env d.state st.req
  have hlimits := @limits_of_pruned cfg st.env d.state st.req
  generalize answerRequest cfg st.env d.state st.req = a at ha hrecords hlimits
  cases ha with
  | replayed _ =>
      exact ⟨_, _, d.state.svc.keepsMembers_refl, hd.groups, hu, .refl, fun h => absurd rfl h, hrecords⟩
  | overQuota _ _ _ =>
      refine ⟨_, _, d.state.svc.keepsMembers_refl, hd.groups, hu, .refl, fun h => absurd rfl h, ?_⟩
      exact hrecords.trans (records_complete _ _ _ _).1
  | @executed pending out svc cp rp hexec hq hout hdone =>
      obtain ⟨o, hchain, hdispatch⟩ :=
        dispatchOperation_block st.env cfg.storageRoot (s := d.state) hu hblock
      obtain rfl : d.state.writes o = out := hdispatch.symm.trans hout
      obtain ⟨hkeeps, hsound⟩ := hchain.groups hu hd.groups
        fun hop => hspares hop ⟨⟨pending, hexec⟩, hq⟩
      have hu₁ : o.1.records.UniqueKeys Record.keyBytes := by
        have heff := dispatchOperation_effect st.env cfg.storageRoot hu st.req
        rw [hdispatch] at heff
        exact (heff.wellFormed hd.wellFormed.1 hd.wellFormed.2).1.recordKeys
      refine ⟨o.1, svc, hkeeps, hsound, hu₁, hdone.pruned, fun hne => hlimits ?_, ?_⟩
      · by_contra hflags
        obtain ⟨hc, hr⟩ := not_or.mp hflags
        exact hne (hdone.kept (Bool.eq_false_iff.mpr hc) (Bool.eq_false_iff.mpr hr)).symm
      · exact hrecords.trans (records_complete _ _ _ _).1

lemma Daemon.GroupsSound.step {cfg : Config} {d : Daemon} {st : Step} (hd : d.GroupsSound)
    (hblock : st.BlockRequest) (hspares : SparesGroups cfg d st) : (d.step cfg st).GroupsSound := by
  obtain ⟨svc₁, svc₂, -, hsound, -, hpruned, -, hrecords⟩ := answerRequest_groups hd hblock hspares
  refine ⟨hd.wellFormed.step st, fun r hr => ?_⟩
  rw [hrecords] at hr
  exact hpruned.shrinks.groupsSound hsound r hr

/-- A block request that spares the groups does to them what it should. -/
lemma Daemon.GroupsSound.groupStep {cfg : Config} {d : Daemon} {st : Step} (hd : d.GroupsSound)
    (hblock : st.BlockRequest) (hspares : SparesGroups cfg d st) : GroupStep cfg d st where
  distinct r hr hk := ⟨((hd.step hblock hspares).groups r hr).nodup hk, r.length_members_le⟩
  kept k g hg hk := by
    obtain ⟨svc₁, svc₂, hkeeps, -, hu, hpruned, hlimits, hrecords⟩ :=
      answerRequest_groups hd hblock hspares
    rw [Service.findRecord_congr hrecords]
    by_cases hsame : svc₁ = svc₂
    · subst hsame
      exact .inl (hkeeps k g hg hk)
    · rcases hkeeps.pruned hpruned hu hg hk with hfound | hnone
      · exact .inl hfound
      · exact .inr ⟨hlimits hsame, hnone⟩
  fifth ctx hctx hfifth hadm := by
    have hrecords := d.step_records cfg st
    have hanswer := d.answer_cases cfg st
    have ha := answerRequest_answered cfg st.env d.state st.req
    generalize answerRequest cfg st.env d.state st.req = a at ha hrecords hanswer
    have hstatus : a.reply.status ≠ WireStatus.ok → (d.answer cfg st).status ≠ WireStatus.ok := by
      intro hne
      rcases hanswer with heq | ⟨hok, -⟩
      · rwa [heq]
      · exact absurd hok hne
    cases ha with
    | replayed hreplay =>
        refine ⟨hrecords, fun ⟨pending, hexec⟩ => ?_⟩
        rw [hreplay] at hexec
        cases hexec
    | overQuota _ _ hreply =>
        refine ⟨SameRecords.trans (records_complete _ _ _ _) hrecords, fun _ => hstatus ?_⟩
        rw [hreply]
        show WireStatus.capacityExceeded ≠ WireStatus.ok
        decide
    | @executed pending out svc cp rp hexec hq hout hdone =>
        obtain ⟨o, hchain, hdispatch⟩ := dispatchOperation_block st.env cfg.storageRoot
          (s := d.state) hd.wellFormed.1.recordKeys hblock
        obtain rfl : d.state.writes o = out := hdispatch.symm.trans hout
        have hkept : o.1 = d.state.svc := hchain.fifth hctx hfifth
        have hne : o.2.status ≠ WireStatus.ok := by
          have hint := dispatchOperation_fifth st.env cfg.storageRoot hblock hctx hfifth hadm
          rw [hout] at hint
          rw [show o.2.status = WireStatus.internal from hint]
          decide
        refine ⟨?_, fun _ => hstatus hne⟩
        have hsvc : svc = d.state.svc := (hdone.kept_of_error hne).trans hkept
        exact SameRecords.trans (hsvc ▸ records_complete _ _ _ _) hrecords

lemma Daemon.groupsSound_fresh : Daemon.fresh.GroupsSound :=
  ⟨(Daemon.reachable_fresh Config.durable).wellFormed, by rintro r ⟨⟩⟩

/-- **Groups keep their members.**  In every run of publish and register requests from a fresh daemon
none of which writes its prefix entry over a group, every request leaves the blocks of every group
distinct, at most four and in the order in which they joined, and a fifth block is refused without a
trace. -/
theorem group_members_kept {cfg : Config} {steps : List Step} (hblocks : ∀ st ∈ steps, st.BlockRequest)
    (hspares : Daemon.Along cfg (SparesGroups cfg) Daemon.fresh steps) :
    Daemon.Along cfg (GroupStep cfg) Daemon.fresh steps := by
  have hrun : ∀ d : Daemon, d.GroupsSound → Daemon.Along cfg (SparesGroups cfg) d steps →
      Daemon.Along cfg (GroupStep cfg) d steps := by
    clear hspares
    induction steps with
    | nil => exact fun _ _ _ => trivial
    | cons st steps ih =>
        intro d hd ⟨hfirst, hrest⟩
        have hblock := hblocks st (by simp)
        exact ⟨hd.groupStep hblock hfirst,
          ih (fun s hs => hblocks s (by simp [hs])) _ (hd.step hblock hfirst) hrest⟩
  exact hrun _ Daemon.groupsSound_fresh hspares

/-- A publication finds no group under the key of its prefix entry. -/
lemma sparesGroups_of_noGroup {cfg : Config} {d : Daemon} {st : Step}
    (h : (fillBlockCtx st.req.payload).all (fun ctx => ctx.buildPrefixKey.all fun pk =>
      (d.state.svc.findRecord pk.bytes).all fun r => r.kind != RecordKind.prefixGroup) = true) :
    SparesGroups cfg d st := by
  rintro - - ctx hctx ⟨pk, bk, g, hpk, -, -, hg, hkind⟩
  rw [hctx, Option.all_some, hpk, Option.all_some, hg, Option.all_some] at h
  simp [hkind] at h

/-- Five blocks of one group, one after the other. -/
def fiveBlocks : List Step :=
  (List.finRange 5).map fun i => .idle .publishKvSegment
    ⟨ascii "request_id=r
prefix_group=p
group_id=g
result_segment_id=1
block_hash=" ++
        decimal i.val,
      by revert i; decide, by revert i; decide⟩

/-- Four of them join, and the fifth is refused. -/
theorem group_members_kept_fiveBlocks :
    Daemon.Along .durable (GroupStep .durable) Daemon.fresh fiveBlocks ∧
      (fiveBlocks[4]?.map fun st =>
        ((Daemon.fresh.run .durable (fiveBlocks.take 4)).answer .durable st).status) =
          some WireStatus.internal := by
  refine ⟨group_members_kept (fun st hst => ?_) ?_, by decide +kernel⟩
  · obtain ⟨i, -, rfl⟩ := List.mem_map.mp hst
    exact .inl rfl
  · exact ⟨sparesGroups_of_noGroup (by decide +kernel), sparesGroups_of_noGroup (by decide +kernel),
      sparesGroups_of_noGroup (by decide +kernel), sparesGroups_of_noGroup (by decide +kernel),
      sparesGroups_of_noGroup (by decide +kernel), trivial⟩

/-! ## A group that is overwritten -/

/-- The publication of block `b` in the group `y/prefix/p` of request `x`. -/
def Payload.groupWithSlash : Payload :=
  ⟨ascii "request_id=x\nprefix_group=q\ngroup_id=y/prefix/p\nblock_hash=b\nresult_segment_id=1",
    by decide, by decide⟩

/-- A publication of the request `x/prefix-group/y` with prefix `p`. -/
def Payload.entryWithSlash : Payload :=
  ⟨ascii "request_id=x/prefix-group/y\nprefix_group=p\ngroup_id=g\nblock_hash=c\nresult_segment_id=1",
    by decide, by decide⟩

/-- The two publications, in an idle world. -/
def overwritingRun : List Step :=
  [Step.idle .publishKvSegment Payload.groupWithSlash, Step.idle .publishKvSegment Payload.entryWithSlash]

/-- The second publication writes its prefix entry over the group of the first, and the group's block
is lost. -/
theorem group_overwritten :
    (∀ st ∈ overwritingRun, st.BlockRequest) ∧
      ¬ Daemon.Along Config.durable (GroupStep Config.durable) Daemon.fresh overwritingRun := by
  refine ⟨fun st hst => ?_, ?_⟩
  · simp only [overwritingRun, List.mem_cons, List.not_mem_nil, or_false] at hst
    rcases hst with rfl | rfl
    · exact .inl rfl
    · exact .inl rfl
  · rintro ⟨-, hstep, -⟩
    have hbefore : ((Daemon.fresh.run Config.durable (overwritingRun.take 1)).state.svc.findRecord
        (ascii "request/x/prefix-group/y/prefix/p")).map Record.kind =
        some RecordKind.prefixGroup := by decide +kernel
    have hafter : ((Daemon.fresh.run Config.durable overwritingRun).state.svc.findRecord
        (ascii "request/x/prefix-group/y/prefix/p")).map Record.kind =
        some RecordKind.requestPrefix := by decide +kernel
    obtain ⟨g, hg, hkind⟩ := Option.map_eq_some_iff.mp hbefore
    obtain ⟨r, hr, hentry⟩ := Option.map_eq_some_iff.mp hafter
    rcases hstep.kept _ g hg hkind with ⟨g', hg', hkind', -⟩ | ⟨hlimits, -⟩
    · obtain rfl : r = g' := Option.some.inj (hr.symm.trans hg')
      rw [hentry] at hkind'
      exact absurd hkind' (by decide)
    · exact hlimits rfl

end MemService
