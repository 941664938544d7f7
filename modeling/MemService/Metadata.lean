import MemService.Record

/-!
# The metadata core: prefix, group and block records

`mem_service_keys.c` and `mem_service_metadata.c`.  A block is described by three records, kept under
three keys: the request's prefix entry, the prefix group with its member blocks, and the block's own
metadata.  `bootstrapKvcache` writes all three.

The C functions report failure by a return code after they may have written to the service.  Each
single writer here leaves the service alone when it fails, so it returns an `Option`; the bootstrap
chain does not, so its failures carry the service they leave behind.
-/

open ByteText CNumeral

namespace MemService

/-! ## Keys -/

/-- `mem_service_build_two_part_key` for the 96-byte key buffers. -/
def buildTwoPartKey (pre first middle second : Bytes) : Option (FieldText 96) :=
  let key := pre ++ first ++ middle ++ second
  if key.length + 1 > 96 then none else some (.copy key)

/-- `mem_service_build_prefix_key_from_parts_checked`. -/
def buildPrefixKeyFromParts (requestId prefixGroup : Bytes) : Option (FieldText 96) :=
  buildTwoPartKey (ascii "request/") requestId (ascii "/prefix/") prefixGroup

/-- `mem_service_build_group_key_from_parts_checked`. -/
def buildGroupKeyFromParts (requestId groupId : Bytes) : Option (FieldText 96) :=
  buildTwoPartKey (ascii "request/") requestId (ascii "/prefix-group/") groupId

/-- `mem_service_build_block_key_from_hash_checked`. -/
def buildBlockKeyFromHash (blockHash : Bytes) : Option (FieldText 96) :=
  buildTwoPartKey (ascii "block/") blockHash [] []

/-- `struct mem_service_block_ctx`. -/
structure BlockCtx where
  requestId : FieldText 64
  prefixGroup : FieldText 64
  groupId : FieldText 64
  blockHash : FieldText 96
  placementNode : UInt32
  placementLevel : UInt32
  hotSegmentId : UInt64
  resultSegmentId : UInt64
  deriving DecidableEq

namespace BlockCtx

variable (ctx : BlockCtx)

/-- `mem_service_build_prefix_key`. -/
def buildPrefixKey : Option (FieldText 96) :=
  buildPrefixKeyFromParts ctx.requestId.bytes ctx.prefixGroup.bytes

/-- `mem_service_build_group_key`. -/
def buildGroupKey : Option (FieldText 96) :=
  buildGroupKeyFromParts ctx.requestId.bytes ctx.groupId.bytes

/-- `mem_service_build_block_key`. -/
def buildBlockKey : Option (FieldText 96) := buildBlockKeyFromHash ctx.blockHash.bytes

end BlockCtx

/-! ## Writers of single records -/

/-- How an update of an existing record ends: return codes `-1`, `1`, `2` and `0`. -/
inductive UpdateResult
  | failed
  | unchanged
  | wrongOwner
  | updated (svc : Service)

namespace Service

variable (svc : Service)

/-- `mem_service_put_request_prefix`. -/
def putRequestPrefix (key : FieldText 96) (ctx : BlockCtx) : Option Service :=
  svc.putRecord
    { kind := RecordKind.requestPrefix
      key := key
      requestId := ctx.requestId
      prefixGroup := ctx.prefixGroup
      groupId := ctx.groupId
      blockHash := ctx.blockHash
      version := 1 }

/-- A group record as `mem_service_put_prefix_group` allocates it. -/
def newPrefixGroup (key : FieldText 96) (requestId groupId : FieldText 64) : Record :=
  { kind := RecordKind.prefixGroup
    key := key
    requestId := requestId
    groupId := groupId
    version := 1 }

/-- The record `mem_service_put_prefix_group` leaves under `key`, given the one it found; `none`
when a record of another kind is in the way or a fifth member would be needed. -/
def prefixGroupRecord (found : Option Record) (key : FieldText 96) (requestId groupId : FieldText 64)
    (blockHash : FieldText 96) (placementNode placementLevel : UInt32) (hotSegmentId : UInt64)
    (state : KvcacheState) (lastResultSegment : UInt64) : Option Record :=
  let isNew := found.isNone
  let group := found.getD (newPrefixGroup key requestId groupId)
  if group.kind ≠ RecordKind.prefixGroup then none
  else
    (group.addMember blockHash).map fun group =>
      let differs := group.placementNode ≠ placementNode ∨ group.placementLevel ≠ placementLevel ∨
        group.hotSegmentId ≠ hotSegmentId ∨ group.state ≠ state ∨
        group.lastResultSegment ≠ lastResultSegment
      let next := { group with
        placementNode := placementNode
        placementLevel := placementLevel
        hotSegmentId := hotSegmentId
        state := state
        lastResultSegment := lastResultSegment }
      if differs ∧ !isNew ∧ group.version > 0 then { next with version := group.version + 1 }
      else next

/-- `mem_service_put_prefix_group`. -/
def putPrefixGroup (key : FieldText 96) (requestId groupId : FieldText 64)
    (blockHash : FieldText 96) (placementNode placementLevel : UInt32) (hotSegmentId : UInt64)
    (state : KvcacheState) (lastResultSegment : UInt64) : Option Service :=
  (prefixGroupRecord (svc.findRecord key.bytes) key requestId groupId blockHash placementNode
    placementLevel hotSegmentId state lastResultSegment).bind svc.putRecord

/-- `mem_service_put_block_meta`. -/
def putBlockMeta (key : FieldText 96) (ctx : BlockCtx) (state : KvcacheState) : Option Service :=
  svc.putRecord
    { kind := RecordKind.blockMeta
      key := key
      requestId := ctx.requestId
      prefixGroup := ctx.prefixGroup
      groupId := ctx.groupId
      blockHash := ctx.blockHash
      placementNode := ctx.placementNode
      placementLevel := ctx.placementLevel
      hotSegmentId := ctx.hotSegmentId
      state := state
      version := 1 }

/-- `mem_service_update_block_result`: the guard against stale results. -/
def updateBlockResult (key : Bytes) (lastResultSegment : UInt64) (nextState : KvcacheState) :
    UpdateResult :=
  match svc.findRecord key with
  | none => .failed
  | some rec =>
      if rec.kind ≠ RecordKind.blockMeta then .failed
      else if rec.lastResultSegment ≠ 0 ∧ lastResultSegment ≤ rec.lastResultSegment then .unchanged
      else .updated (svc.setRecord { rec with
        lastResultSegment := lastResultSegment
        state := nextState
        version := rec.version + 1 })

/-- `mem_service_update_prefix_result`. -/
def updatePrefixResult (key : Bytes) (ctx : BlockCtx) (block : Record) : UpdateResult :=
  match svc.findRecord key with
  | none => .failed
  | some rec =>
      if rec.kind ≠ RecordKind.requestPrefix then .failed
      else if rec.lastResultSegment ≠ 0 ∧ rec.blockHash = block.blockHash ∧
          block.lastResultSegment < rec.lastResultSegment then .unchanged
      else if rec.lastResultSegment = block.lastResultSegment ∧
          rec.placementNode = ctx.placementNode ∧ rec.placementLevel = ctx.placementLevel ∧
          rec.hotSegmentId = block.hotSegmentId ∧ rec.state = block.state ∧
          rec.blockHash = block.blockHash then .unchanged
      else .updated (svc.setRecord { rec with
        placementNode := block.placementNode
        placementLevel := block.placementLevel
        hotSegmentId := block.hotSegmentId
        state := block.state
        lastResultSegment := block.lastResultSegment
        blockHash := block.blockHash
        version := rec.version + 1 })

/-- `mem_service_update_prefix_group_from_block`. -/
def updatePrefixGroupFromBlock (ctx : BlockCtx) (block : Record) : Option Service :=
  ctx.buildGroupKey.bind fun groupKey =>
    svc.putPrefixGroup groupKey ctx.requestId ctx.groupId block.blockHash block.placementNode
      block.placementLevel block.hotSegmentId block.state block.lastResultSegment

/-! ## The bootstrap chain -/

/-- `mem_service_bootstrap_kvcache`: the service and the block record it resolves to, or the
service it leaves behind when a link of the chain fails. -/
def bootstrapKvcache (ctx : BlockCtx) : Except Service (Service × Record) := do
  let some prefixKey := ctx.buildPrefixKey | throw svc
  let some groupKey := ctx.buildGroupKey | throw svc
  let some blockKey := ctx.buildBlockKey | throw svc
  let some svc₁ := svc.putPrefixGroup groupKey ctx.requestId ctx.groupId ctx.blockHash
    ctx.placementNode ctx.placementLevel ctx.hotSegmentId KvcacheState.filled 0 | throw svc
  let some svc₂ := svc₁.putRequestPrefix prefixKey ctx | throw svc₁
  let some svc₃ := svc₂.putBlockMeta blockKey ctx KvcacheState.filled | throw svc₂
  let .updated svc₄ := svc₃.updateBlockResult blockKey.bytes ctx.resultSegmentId KvcacheState.hot
    | throw svc₃
  let some block := svc₄.findRecord blockKey.bytes | throw svc₄
  let some svc₅ := svc₄.updatePrefixGroupFromBlock ctx block | throw svc₄
  let .updated svc₆ := svc₅.updatePrefixResult prefixKey.bytes ctx block | throw svc₅
  let some block := svc₆.findRecord blockKey.bytes | throw svc₆
  return (svc₆, block)

/-- `mem_service_apply_block_result`: the code and the resolved block, with the service it leaves. -/
def applyBlockResult (ctx : BlockCtx) (resultSegmentId : UInt64) (nextState : KvcacheState) :
    Service × UpdateResult :=
  match ctx.buildBlockKey with
  | none => (svc, .failed)
  | some blockKey =>
      match svc.findRecord blockKey.bytes with
      | none => (svc, .failed)
      | some current =>
          if current.placementNode ≠ ctx.placementNode then (svc, .wrongOwner)
          else
            match svc.updateBlockResult blockKey.bytes resultSegmentId nextState with
            | .updated svc₁ =>
                match svc₁.findRecord blockKey.bytes with
                | none => (svc₁, .failed)
                | some block =>
                    match svc₁.updatePrefixGroupFromBlock ctx block with
                    | none => (svc₁, .failed)
                    | some svc₂ => (svc₂, .updated svc₂)
            | other => (svc, other)

end Service

/-! ## Facts about the keys -/

lemma bytes_buildTwoPartKey {pre first middle second : Bytes} {key : FieldText 96}
    (hpre : Plain pre) (hfirst : Plain first) (hmiddle : Plain middle) (hsecond : Plain second)
    (h : buildTwoPartKey pre first middle second = some key) :
    key.bytes = pre ++ first ++ middle ++ second := by
  simp only [buildTwoPartKey] at h
  split at h
  · cases h
  · rename_i hlen
    cases h
    rw [FieldText.bytes_copy, List.take_of_length_le (by omega)]
    intro b hb
    simp only [List.mem_append] at hb
    rcases hb with ((hb | hb) | hb) | hb
    · exact hpre b hb
    · exact hfirst b hb
    · exact hmiddle b hb
    · exact hsecond b hb

namespace BlockCtx

variable {ctx : BlockCtx} {pk gk bk : FieldText 96}

lemma bytes_buildPrefixKey (h : ctx.buildPrefixKey = some pk) : pk.bytes =
    ascii "request/" ++ ctx.requestId.bytes ++ ascii "/prefix/" ++ ctx.prefixGroup.bytes :=
  bytes_buildTwoPartKey (by decide) ctx.requestId.plain (by decide) ctx.prefixGroup.plain h

lemma bytes_buildGroupKey (h : ctx.buildGroupKey = some gk) : gk.bytes =
    ascii "request/" ++ ctx.requestId.bytes ++ ascii "/prefix-group/" ++ ctx.groupId.bytes :=
  bytes_buildTwoPartKey (by decide) ctx.requestId.plain (by decide) ctx.groupId.plain h

lemma bytes_buildBlockKey (h : ctx.buildBlockKey = some bk) :
    bk.bytes = ascii "block/" ++ ctx.blockHash.bytes := by
  have := bytes_buildTwoPartKey (by decide) ctx.blockHash.plain plain_nil plain_nil h
  simpa using this

/-- Texts that differ within their first bytes differ. -/
lemma append_ne_append {a b : Bytes} (n : ℕ) (ha : n ≤ a.length) (hb : n ≤ b.length)
    (hne : a.take n ≠ b.take n) (x y : Bytes) : a ++ x ≠ b ++ y := by
  intro h
  have := congrArg (List.take n) h
  rw [List.take_append_of_le_length ha, List.take_append_of_le_length hb] at this
  exact hne this

lemma prefixKey_ne_groupKey (hp : ctx.buildPrefixKey = some pk)
    (hg : ctx.buildGroupKey = some gk) : pk.bytes ≠ gk.bytes := by
  rw [bytes_buildPrefixKey hp, bytes_buildGroupKey hg]
  simp only [List.append_assoc]
  intro h
  exact append_ne_append 8 (by decide) (by decide) (by decide) _ _
    (List.append_cancel_left (List.append_cancel_left h))

lemma prefixKey_ne_blockKey (hp : ctx.buildPrefixKey = some pk)
    (hb : ctx.buildBlockKey = some bk) : pk.bytes ≠ bk.bytes := by
  rw [bytes_buildPrefixKey hp, bytes_buildBlockKey hb]
  simp only [List.append_assoc]
  exact append_ne_append 1 (by decide) (by decide) (by decide) _ _

lemma groupKey_ne_blockKey (hg : ctx.buildGroupKey = some gk)
    (hb : ctx.buildBlockKey = some bk) : gk.bytes ≠ bk.bytes := by
  rw [bytes_buildGroupKey hg, bytes_buildBlockKey hb]
  simp only [List.append_assoc]
  exact append_ne_append 1 (by decide) (by decide) (by decide) _ _

end BlockCtx

/-! ## What the bootstrap chain writes -/

namespace BlockCtx

variable (ctx : BlockCtx)

/-- The prefix entry as `mem_service_put_request_prefix` writes it. -/
def prefixEntry (key : FieldText 96) : Record :=
  { kind := RecordKind.requestPrefix
    key := key
    requestId := ctx.requestId
    prefixGroup := ctx.prefixGroup
    groupId := ctx.groupId
    blockHash := ctx.blockHash
    version := 1 }

/-- The block record as `mem_service_put_block_meta` writes it. -/
def blockEntry (key : FieldText 96) : Record :=
  { kind := RecordKind.blockMeta
    key := key
    requestId := ctx.requestId
    prefixGroup := ctx.prefixGroup
    groupId := ctx.groupId
    blockHash := ctx.blockHash
    placementNode := ctx.placementNode
    placementLevel := ctx.placementLevel
    hotSegmentId := ctx.hotSegmentId
    state := KvcacheState.filled
    version := 1 }

/-- The block record with its result. -/
def blockResult (key : FieldText 96) : Record :=
  { ctx.blockEntry key with
    lastResultSegment := ctx.resultSegmentId
    state := KvcacheState.hot
    version := 2 }

/-- The prefix entry with the block's result. -/
def prefixResult (key : FieldText 96) : Record :=
  { ctx.prefixEntry key with
    placementNode := ctx.placementNode
    placementLevel := ctx.placementLevel
    hotSegmentId := ctx.hotSegmentId
    state := KvcacheState.hot
    lastResultSegment := ctx.resultSegmentId
    version := 2 }

/-- The group record after the chain's first link, given the one that was found. -/
def groupEntry (found : Option Record) (key : FieldText 96) : Option Record :=
  Service.prefixGroupRecord found key ctx.requestId ctx.groupId ctx.blockHash ctx.placementNode
    ctx.placementLevel ctx.hotSegmentId KvcacheState.filled 0

/-- The group record with the block's result. -/
def groupResult (group : Record) (key : FieldText 96) : Option Record :=
  Service.prefixGroupRecord (some group) key ctx.requestId ctx.groupId ctx.blockHash
    ctx.placementNode ctx.placementLevel ctx.hotSegmentId KvcacheState.hot ctx.resultSegmentId

end BlockCtx

/-- A group record in its place: of its kind, under its key, and with the block among its
members. -/
structure GroupOf (key : FieldText 96) (blockHash : FieldText 96) (g : Record) : Prop where
  kind : g.kind = RecordKind.prefixGroup
  key : g.key = key
  member : g.hasMember blockHash.bytes

lemma Record.addMember_cases {r r' : Record} {blockHash : FieldText 96}
    (h : r.addMember blockHash = some r') :
    (r.hasMember blockHash.bytes ∧ r' = r) ∨
    ∃ hlt : r.memberCount.val < maxGroupMembers, r' = r.withMember blockHash hlt := by
  unfold Record.addMember at h
  split at h
  · rename_i hm
    exact .inl ⟨hm, (Option.some.inj h).symm⟩
  · split at h
    · rename_i hlt
      exact .inr ⟨hlt, (Option.some.inj h).symm⟩
    · cases h

lemma Record.hasMember_addMember {r r' : Record} {blockHash : FieldText 96}
    (h : r.addMember blockHash = some r') : r'.hasMember blockHash.bytes := by
  obtain ⟨hm, rfl⟩ | ⟨hlt, rfl⟩ := addMember_cases h
  · exact hm
  · simp only [Record.hasMember, decide_eq_true_eq]
    exact ⟨⟨r.memberCount.val, hlt⟩, Nat.lt_succ_self _, by simp [Record.withMember]⟩

namespace Service

/-- What `mem_service_put_prefix_group` leaves: the found or the new group with the block added,
its placement assigned and its version possibly raised. -/
lemma prefixGroupRecord_cases {found : Option Record} {key : FieldText 96}
    {requestId groupId : FieldText 64} {blockHash : FieldText 96} {node level : UInt32}
    {hot last : UInt64} {state : KvcacheState} {g : Record}
    (h : prefixGroupRecord found key requestId groupId blockHash node level hot state last =
      some g) :
    ∃ base group v, base = found.getD (newPrefixGroup key requestId groupId) ∧
      base.kind = RecordKind.prefixGroup ∧ base.addMember blockHash = some group ∧
      g = { group with
        placementNode := node
        placementLevel := level
        hotSegmentId := hot
        state := state
        lastResultSegment := last
        version := v } := by
  simp only [prefixGroupRecord] at h
  split at h
  · cases h
  · rename_i hkind
    obtain ⟨group, hgroup, hg⟩ := Option.map_eq_some_iff.mp h
    refine ⟨_, group, g.version, rfl, not_not.mp hkind, hgroup, ?_⟩
    split at hg <;> subst hg <;> rfl

lemma groupOf_prefixGroupRecord {found : Option Record} {key : FieldText 96}
    {requestId groupId : FieldText 64} {blockHash : FieldText 96} {node level : UInt32}
    {hot last : UInt64} {state : KvcacheState} {g : Record}
    (hfound : ∀ r, found = some r → r.key = key)
    (h : prefixGroupRecord found key requestId groupId blockHash node level hot state last =
      some g) : GroupOf key blockHash g := by
  obtain ⟨base, group, v, hbase, hkind, hadd, rfl⟩ := prefixGroupRecord_cases h
  have hkey : base.key = key := by
    subst hbase
    cases found with
    | none => rfl
    | some r => exact hfound r rfl
  have hmember := Record.hasMember_addMember hadd
  obtain ⟨-, rfl⟩ | ⟨hlt, rfl⟩ := Record.addMember_cases hadd
  · exact ⟨hkind, hkey, hmember⟩
  · exact ⟨hkind, hkey, hmember⟩

/-- A group that has the block already is never refused. -/
lemma exists_prefixGroupRecord {key : FieldText 96} {requestId groupId : FieldText 64}
    {blockHash : FieldText 96} {g : Record} (hg : GroupOf key blockHash g) (node level : UInt32)
    (hot : UInt64) (state : KvcacheState) (last : UInt64) :
    ∃ g', prefixGroupRecord (some g) key requestId groupId blockHash node level hot state last =
      some g' := by
  have hadd : g.addMember blockHash = some g := by
    unfold Record.addMember
    rw [if_pos hg.member]
  simp only [prefixGroupRecord, Option.getD_some, hg.kind, ne_eq, not_true_eq_false, if_false,
    hadd, Option.map_some]
  exact ⟨_, rfl⟩

variable {svc svc' : Service}

lemma key_of_findRecord {key : FieldText 96} {r : Record}
    (h : svc.findRecord key.bytes = some r) : r.key = key := by
  have hkey : r.keyBytes = key.bytes := SlotTable.lookup_key h
  exact FieldText.ext hkey

/-- The keys and the group records of a bootstrap chain that goes through. -/
structure BootstrapChain (svc : Service) (ctx : BlockCtx) where
  prefixKey : FieldText 96
  groupKey : FieldText 96
  blockKey : FieldText 96
  group : Record
  groupWithResult : Record
  buildPrefixKey : ctx.buildPrefixKey = some prefixKey
  buildGroupKey : ctx.buildGroupKey = some groupKey
  buildBlockKey : ctx.buildBlockKey = some blockKey
  groupEntry : ctx.groupEntry (svc.findRecord groupKey.bytes) groupKey = some group
  groupResult : ctx.groupResult group groupKey = some groupWithResult

/-- The records of the chain, in the order in which they are written. -/
def BootstrapChain.records {svc : Service} {ctx : BlockCtx} (c : BootstrapChain svc ctx) :
    List Record :=
  [c.group, ctx.prefixEntry c.prefixKey, ctx.blockEntry c.blockKey, ctx.blockResult c.blockKey,
    c.groupWithResult, ctx.prefixResult c.prefixKey]

/-- The ways the bootstrap chain ends. -/
inductive BootstrapOutcome (svc : Service) (ctx : BlockCtx) :
    Except Service (Service × Record) → Prop
  | keyTooLong (h : ctx.buildPrefixKey = none ∨ ctx.buildGroupKey = none ∨
      ctx.buildBlockKey = none) : BootstrapOutcome svc ctx (.error svc)
  | groupRefused {pk gk bk : FieldText 96} (hp : ctx.buildPrefixKey = some pk)
      (hg : ctx.buildGroupKey = some gk) (hb : ctx.buildBlockKey = some bk)
      (h : (ctx.groupEntry (svc.findRecord gk.bytes) gk).bind svc.putRecord = none) :
      BootstrapOutcome svc ctx (.error svc)
  | noRoomForPrefix {pk gk bk : FieldText 96} {g : Record} {svc₁ : Service}
      (hp : ctx.buildPrefixKey = some pk) (hg : ctx.buildGroupKey = some gk)
      (hb : ctx.buildBlockKey = some bk)
      (hgroup : ctx.groupEntry (svc.findRecord gk.bytes) gk = some g)
      (h₁ : svc.putAll [g] = some svc₁) (h : svc₁.putRecord (ctx.prefixEntry pk) = none) :
      BootstrapOutcome svc ctx (.error svc₁)
  | noRoomForBlock {pk gk bk : FieldText 96} {g : Record} {svc₂ : Service}
      (hp : ctx.buildPrefixKey = some pk) (hg : ctx.buildGroupKey = some gk)
      (hb : ctx.buildBlockKey = some bk)
      (hgroup : ctx.groupEntry (svc.findRecord gk.bytes) gk = some g)
      (h₂ : svc.putAll [g, ctx.prefixEntry pk] = some svc₂)
      (h : svc₂.putRecord (ctx.blockEntry bk) = none) :
      BootstrapOutcome svc ctx (.error svc₂)
  | done {svc' : Service} (c : BootstrapChain svc ctx) (h : svc.putAll c.records = some svc') :
      BootstrapOutcome svc ctx (.ok (svc', ctx.blockResult c.blockKey))

/-- Once the three records are in place, the rest of the chain cannot fail. -/
lemma bootstrap_results (hu : svc.records.UniqueKeys Record.keyBytes) {ctx : BlockCtx}
    {pk gk bk : FieldText 96} (hp : ctx.buildPrefixKey = some pk)
    (hg : ctx.buildGroupKey = some gk) (hb : ctx.buildBlockKey = some bk) {g : Record}
    (hgroup : GroupOf gk ctx.blockHash g)
    (hfp : svc.findRecord pk.bytes = some (ctx.prefixEntry pk))
    (hfg : svc.findRecord gk.bytes = some g)
    (hfb : svc.findRecord bk.bytes = some (ctx.blockEntry bk)) :
    ∃ g' svc₄ svc₅ svc₆, ctx.groupResult g gk = some g' ∧
      svc.putAll [ctx.blockResult bk, g', ctx.prefixResult pk] = some svc₆ ∧
      svc.updateBlockResult bk.bytes ctx.resultSegmentId KvcacheState.hot = .updated svc₄ ∧
      svc₄.findRecord bk.bytes = some (ctx.blockResult bk) ∧
      svc₄.updatePrefixGroupFromBlock ctx (ctx.blockResult bk) = some svc₅ ∧
      svc₅.updatePrefixResult pk.bytes ctx (ctx.blockResult bk) = .updated svc₆ ∧
      svc₆.findRecord bk.bytes = some (ctx.blockResult bk) := by
  have hpg := BlockCtx.prefixKey_ne_groupKey hp hg
  have hpb := BlockCtx.prefixKey_ne_blockKey hp hb
  have hgb := BlockCtx.groupKey_ne_blockKey hg hb
  have hkb : (ctx.blockResult bk).keyBytes = bk.bytes := rfl
  have hkp : (ctx.prefixResult pk).keyBytes = pk.bytes := rfl
  -- the block's result
  have hput₄ : svc.putRecord (ctx.blockResult bk) = some (svc.setRecord (ctx.blockResult bk)) :=
    setRecord_of_found (by rw [hkb, hfb]; simp)
  set svc₄ := svc.setRecord (ctx.blockResult bk) with hsvc₄
  have hblock : svc.updateBlockResult bk.bytes ctx.resultSegmentId KvcacheState.hot =
      .updated svc₄ := by
    simp only [updateBlockResult, hfb]
    rfl
  have hf₄ := findRecord_putRecord hu hput₄
  have hu₄ := uniqueKeys_putRecord hu hput₄
  -- the group follows
  obtain ⟨g', hg'⟩ : ∃ g', ctx.groupResult g gk = some g' :=
    exists_prefixGroupRecord hgroup ctx.placementNode ctx.placementLevel ctx.hotSegmentId
      KvcacheState.hot ctx.resultSegmentId
  have hgroup' : GroupOf gk ctx.blockHash g' :=
    groupOf_prefixGroupRecord (fun r hr => by cases hr; exact hgroup.key) hg'
  have hkg : g'.keyBytes = gk.bytes := congrArg FieldText.bytes hgroup'.key
  have hf₄g : svc₄.findRecord gk.bytes = some g := by
    rw [hf₄, if_neg (hkb ▸ hgb), hfg]
  have hput₅ : svc₄.putRecord g' = some (svc₄.setRecord g') :=
    setRecord_of_found (by rw [hkg, hf₄g]; simp)
  set svc₅ := svc₄.setRecord g' with hsvc₅
  have hfrom : svc₄.updatePrefixGroupFromBlock ctx (ctx.blockResult bk) = some svc₅ := by
    rw [updatePrefixGroupFromBlock, hg, Option.bind_some, putPrefixGroup, hf₄g]
    exact (Option.bind_eq_some_iff.mpr ⟨g', hg', hput₅⟩)
  have hf₅ := findRecord_putRecord hu₄ hput₅
  have hu₅ := uniqueKeys_putRecord hu₄ hput₅
  -- the prefix entry follows
  have hf₅p : svc₅.findRecord pk.bytes = some (ctx.prefixEntry pk) := by
    rw [hf₅, hkg, if_neg hpg, hf₄, hkb, if_neg hpb, hfp]
  have hput₆ : svc₅.putRecord (ctx.prefixResult pk) =
      some (svc₅.setRecord (ctx.prefixResult pk)) :=
    setRecord_of_found (by rw [hkp, hf₅p]; simp)
  set svc₆ := svc₅.setRecord (ctx.prefixResult pk) with hsvc₆
  have hentry : svc₅.updatePrefixResult pk.bytes ctx (ctx.blockResult bk) = .updated svc₆ := by
    simp only [updatePrefixResult, hf₅p]
    have hstate : ¬ (ctx.prefixEntry pk).state = (ctx.blockResult bk).state := by
      show ¬ KvcacheState.missing = KvcacheState.hot
      decide
    rw [if_neg (by exact not_not.mpr rfl), if_neg (by simp [BlockCtx.prefixEntry]),
      if_neg (fun h => hstate h.2.2.2.2.1)]
    rfl
  refine ⟨g', svc₄, svc₅, svc₆, hg', ?_, hblock, ?_, hfrom, hentry, ?_⟩
  · rw [putAll_cons, hput₄, Option.bind_some, putAll_cons, hput₅, Option.bind_some, putAll_cons,
      hput₆]
    rfl
  · rw [hf₄, hkb, if_pos rfl]
  · rw [findRecord_putRecord hu₅ hput₆, hkp, if_neg (Ne.symm hpb), hf₅, hkg, if_neg (Ne.symm hgb),
      hf₄, hkb, if_pos rfl]

/-- **The bootstrap chain.**  It ends in one of five ways: a key does not fit its buffer or the
group refuses the block, and nothing is written; the table is full when the prefix entry or the
block record is to be allocated, and what was written before stays; or all six writes are made. -/
lemma bootstrapKvcache_outcome (hu : svc.records.UniqueKeys Record.keyBytes) (ctx : BlockCtx) :
    BootstrapOutcome svc ctx (svc.bootstrapKvcache ctx) := by
  unfold bootstrapKvcache
  cases hp : ctx.buildPrefixKey with
  | none => exact .keyTooLong (.inl hp)
  | some pk =>
  cases hg : ctx.buildGroupKey with
  | none => exact .keyTooLong (.inr (.inl hg))
  | some gk =>
  cases hb : ctx.buildBlockKey with
  | none => exact .keyTooLong (.inr (.inr hb))
  | some bk =>
  have hpg := BlockCtx.prefixKey_ne_groupKey hp hg
  have hpb := BlockCtx.prefixKey_ne_blockKey hp hb
  have hgb := BlockCtx.groupKey_ne_blockKey hg hb
  simp only
  cases h₁ : svc.putPrefixGroup gk ctx.requestId ctx.groupId ctx.blockHash ctx.placementNode
      ctx.placementLevel ctx.hotSegmentId KvcacheState.filled 0 with
  | none => exact .groupRefused hp hg hb h₁
  | some svc₁ =>
  obtain ⟨g, hgroup, hput₁⟩ := Option.bind_eq_some_iff.mp h₁
  have hof : GroupOf gk ctx.blockHash g :=
    groupOf_prefixGroupRecord (fun r hr => key_of_findRecord hr) hgroup
  have hkg : g.keyBytes = gk.bytes := congrArg FieldText.bytes hof.key
  have hall₁ : svc.putAll [g] = some svc₁ := by rw [putAll_cons, hput₁]; rfl
  have hu₁ := uniqueKeys_putRecord hu hput₁
  simp only
  cases h₂ : svc₁.putRequestPrefix pk ctx with
  | none => exact .noRoomForPrefix hp hg hb hgroup hall₁ h₂
  | some svc₂ =>
  have hput₂ : svc₁.putRecord (ctx.prefixEntry pk) = some svc₂ := h₂
  have hall₂ : svc.putAll [g, ctx.prefixEntry pk] = some svc₂ := putAll_concat hall₁ hput₂
  have hu₂ := uniqueKeys_putRecord hu₁ hput₂
  simp only
  cases h₃ : svc₂.putBlockMeta bk ctx KvcacheState.filled with
  | none => exact .noRoomForBlock hp hg hb hgroup hall₂ h₃
  | some svc₃ =>
  have hput₃ : svc₂.putRecord (ctx.blockEntry bk) = some svc₃ := h₃
  have hall₃ : svc.putAll [g, ctx.prefixEntry pk, ctx.blockEntry bk] = some svc₃ :=
    putAll_concat hall₂ hput₃
  have hkp : (ctx.prefixEntry pk).keyBytes = pk.bytes := rfl
  have hkb : (ctx.blockEntry bk).keyBytes = bk.bytes := rfl
  have hf := findRecord_putAll hu hall₃
  obtain ⟨g', svc₄, svc₅, svc₆, hgroup', hall, hblock, hf₄, hfrom, hentry, hf₆⟩ :=
    bootstrap_results (uniqueKeys_putRecord hu₂ hput₃) hp hg hb hof
      (by rw [hf]; simp [List.find?, hkp, hkb, Ne.symm hpb])
      (by rw [hf]; simp [List.find?, hkp, hkb, hkg, Ne.symm hgb, hpg])
      (by rw [hf]; simp [hkb])
  simp only [hblock, hf₄, hfrom, hentry, hf₆]
  refine .done ⟨pk, gk, bk, g, g', hp, hg, hb, hgroup, hgroup'⟩ ?_
  have happend : svc.putAll ([g, ctx.prefixEntry pk, ctx.blockEntry bk] ++
      [ctx.blockResult bk, g', ctx.prefixResult pk]) = some svc₆ := by
    rw [putAll_append, hall₃, Option.bind_some, hall]
  exact happend

namespace BootstrapChain

variable {ctx : BlockCtx} (c : BootstrapChain svc ctx)

lemma groupOf : GroupOf c.groupKey ctx.blockHash c.group :=
  groupOf_prefixGroupRecord (fun _ hr => key_of_findRecord hr) c.groupEntry

lemma groupOf_result : GroupOf c.groupKey ctx.blockHash c.groupWithResult :=
  groupOf_prefixGroupRecord (fun r hr => by cases hr; exact c.groupOf.key) c.groupResult

/-- After the chain the three keys find the three finished records, and every other key what it
found before. -/
lemma findRecord (hu : svc.records.UniqueKeys Record.keyBytes)
    (h : svc.putAll c.records = some svc') (k : Bytes) :
    svc'.findRecord k =
      if k = c.prefixKey.bytes then some (ctx.prefixResult c.prefixKey)
      else if k = c.groupKey.bytes then some c.groupWithResult
      else if k = c.blockKey.bytes then some (ctx.blockResult c.blockKey)
      else svc.findRecord k := by
  have hkg : c.group.keyBytes = c.groupKey.bytes := congrArg FieldText.bytes c.groupOf.key
  have hkg' : c.groupWithResult.keyBytes = c.groupKey.bytes :=
    congrArg FieldText.bytes c.groupOf_result.key
  have hkp : (ctx.prefixEntry c.prefixKey).keyBytes = c.prefixKey.bytes := rfl
  have hkp' : (ctx.prefixResult c.prefixKey).keyBytes = c.prefixKey.bytes := rfl
  have hkb : (ctx.blockEntry c.blockKey).keyBytes = c.blockKey.bytes := rfl
  have hkb' : (ctx.blockResult c.blockKey).keyBytes = c.blockKey.bytes := rfl
  rw [findRecord_putAll hu h]
  simp only [records, List.reverse_cons, List.reverse_nil, List.nil_append, List.cons_append,
    List.find?_cons, List.find?_nil, hkg, hkg', hkp, hkp', hkb, hkb']
  by_cases hp : k = c.prefixKey.bytes
  · simp [hp]
  by_cases hg : k = c.groupKey.bytes
  · subst hg
    simp [hp, Ne.symm hp]
  by_cases hb : k = c.blockKey.bytes
  · subst hb
    simp [hp, hg, Ne.symm hp, Ne.symm hg]
  · simp [hp, hg, hb, Ne.symm hp, Ne.symm hg, Ne.symm hb]

end BootstrapChain

end Service

end MemService
