import MemService.Metadata

/-!
# Updates of a block, and the group that follows it

`mem_service_apply_block_result`, `mem_service_rebind_block_view`, `mem_service_handoff_block_owner`
and `mem_service_update_prefix_metadata`.  Each checks a record, rewrites it in place, and then makes
the prefix group of its context follow.  The four differ in the record they rewrite and in what they
write into it, so they are set against one account of such a call, `MetadataCall.follow`.

The group comes last and may refuse: its key may not fit, the table may have no slot for it, a record
of another kind may stand under its key, or its four member slots may be taken by other blocks.  The
record is not put back then.  `metadataCall_atomic_iff` says that these refusals, and a version counter
that starts over, are the only ways in which a call is less than atomic.

Nothing here asks the keys of the table to be distinct.
-/

open ByteText CNumeral

namespace MemService

/-! ## The updates of single records -/

namespace Service

variable (svc : Service)

/-- The shape of the `mem_service_update_*` functions: find the record of the kind, refuse a change
that is stale, else write it and count it. -/
def updateRecord (key : Bytes) (kind : RecordKind) (stale : Record → Bool) (next : Record → Record) :
    UpdateResult :=
  match svc.findRecord key with
  | none => .failed
  | some rec =>
      if rec.kind ≠ kind then .failed
      else if stale rec then .unchanged
      else .updated (svc.setRecord { next rec with version := rec.version + 1 })

/-- `mem_service_update_block_view`. -/
def updateBlockView (key : Bytes) (hotSegmentId : UInt64) (placementLevel : UInt32) : UpdateResult :=
  svc.updateRecord key RecordKind.blockMeta
    (fun rec => rec.hotSegmentId = hotSegmentId ∧ rec.placementLevel = placementLevel)
    fun rec => { rec with hotSegmentId := hotSegmentId, placementLevel := placementLevel }

/-- `mem_service_update_block_owner`. -/
def updateBlockOwner (key : Bytes) (placementNode placementLevel : UInt32) (hotSegmentId : UInt64) :
    UpdateResult :=
  svc.updateRecord key RecordKind.blockMeta
    (fun rec => rec.placementNode = placementNode ∧ rec.placementLevel = placementLevel ∧
      rec.hotSegmentId = hotSegmentId)
    fun rec => { rec with
      placementNode := placementNode
      placementLevel := placementLevel
      hotSegmentId := hotSegmentId }

/-! ## The calls of the core API -/

/-- The calls on a block that is placed on the caller's node, less the update they make. -/
def updateOwnedBlock (ctx : BlockCtx) (update : Bytes → UpdateResult) : Service × UpdateResult :=
  match ctx.buildBlockKey with
  | none => (svc, .failed)
  | some blockKey =>
      match svc.findRecord blockKey.bytes with
      | none => (svc, .failed)
      | some current =>
          if current.placementNode ≠ ctx.placementNode then (svc, .wrongOwner)
          else
            match update blockKey.bytes with
            | .updated svc₁ =>
                match svc₁.findRecord blockKey.bytes with
                | none => (svc₁, .failed)
                | some block =>
                    match svc₁.updatePrefixGroupFromBlock ctx block with
                    | none => (svc₁, .failed)
                    | some svc₂ => (svc₂, .updated svc₂)
            | other => (svc, other)

/-- `mem_service_rebind_block_view`. -/
def rebindBlockView (ctx : BlockCtx) (hotSegmentId : UInt64) (placementLevel : UInt32) :
    Service × UpdateResult :=
  svc.updateOwnedBlock ctx fun key => svc.updateBlockView key hotSegmentId placementLevel

/-- `mem_service_handoff_block_owner`. -/
def handoffBlockOwner (ctx : BlockCtx) (placementNode placementLevel : UInt32)
    (hotSegmentId : UInt64) : Service × UpdateResult :=
  svc.updateOwnedBlock ctx fun key =>
    svc.updateBlockOwner key placementNode placementLevel hotSegmentId

/-- `mem_service_update_prefix_metadata`. -/
def updatePrefixMetadata (ctx : BlockCtx) (blockRecord : Record) : Service × UpdateResult :=
  match ctx.buildPrefixKey with
  | none => (svc, .failed)
  | some prefixKey =>
      match svc.updatePrefixResult prefixKey.bytes ctx blockRecord with
      | .updated svc₁ =>
          match svc₁.updatePrefixGroupFromBlock ctx blockRecord with
          | none => (svc₁, .failed)
          | some svc₂ =>
              match svc₂.findRecord prefixKey.bytes with
              | none => (svc₂, .failed)
              | some _ => (svc₂, .updated svc₂)
      | other => (svc, other)

end Service

/-- Return code `0`. -/
@[simp] def UpdateResult.isUpdated : UpdateResult → Bool
  | .updated _ => true
  | _ => false

/-- A call of the core API that updates a record and its group. -/
inductive MetadataCall
  | applyBlockResult (ctx : BlockCtx) (resultSegmentId : UInt64) (nextState : KvcacheState)
  | rebindBlockView (ctx : BlockCtx) (hotSegmentId : UInt64) (placementLevel : UInt32)
  | handoffBlockOwner (ctx : BlockCtx) (placementNode placementLevel : UInt32)
      (hotSegmentId : UInt64)
  | updatePrefixMetadata (ctx : BlockCtx) (blockRecord : Record)

namespace MetadataCall

/-- The service a call leaves and its return code. -/
def run (svc : Service) : MetadataCall → Service × UpdateResult
  | .applyBlockResult ctx result next => svc.applyBlockResult ctx result next
  | .rebindBlockView ctx hot level => svc.rebindBlockView ctx hot level
  | .handoffBlockOwner ctx node level hot => svc.handoffBlockOwner ctx node level hot
  | .updatePrefixMetadata ctx block => svc.updatePrefixMetadata ctx block

/-! ## One account of the four calls -/

/-- The context of a call. -/
def ctx : MetadataCall → BlockCtx
  | .applyBlockResult ctx _ _ => ctx
  | .rebindBlockView ctx _ _ => ctx
  | .handoffBlockOwner ctx _ _ _ => ctx
  | .updatePrefixMetadata ctx _ => ctx

/-- The key of the record a call updates. -/
def targetKey : MetadataCall → Option (FieldText 96)
  | .updatePrefixMetadata ctx _ => ctx.buildPrefixKey
  | call => call.ctx.buildBlockKey

/-- The kind of the record a call updates. -/
def kind : MetadataCall → RecordKind
  | .updatePrefixMetadata _ _ => RecordKind.requestPrefix
  | _ => RecordKind.blockMeta

/-- Whether the caller may update the record: a block has to be placed on the caller's node. -/
def owned (call : MetadataCall) (r : Record) : Bool :=
  match call with
  | .updatePrefixMetadata _ _ => true
  | call => r.placementNode = call.ctx.placementNode

/-- Whether the update would be stale or change nothing. -/
def stale (call : MetadataCall) (r : Record) : Bool :=
  match call with
  | .applyBlockResult _ result _ => r.lastResultSegment ≠ 0 ∧ result ≤ r.lastResultSegment
  | .rebindBlockView _ hot level => r.hotSegmentId = hot ∧ r.placementLevel = level
  | .handoffBlockOwner _ node level hot =>
      r.placementNode = node ∧ r.placementLevel = level ∧ r.hotSegmentId = hot
  | .updatePrefixMetadata ctx block =>
      r.lastResultSegment ≠ 0 ∧ r.blockHash = block.blockHash ∧
          block.lastResultSegment < r.lastResultSegment ∨
        r.lastResultSegment = block.lastResultSegment ∧ r.placementNode = ctx.placementNode ∧
          r.placementLevel = ctx.placementLevel ∧ r.hotSegmentId = block.hotSegmentId ∧
          r.state = block.state ∧ r.blockHash = block.blockHash

/-- The record with the call's fields written into it. -/
def next (call : MetadataCall) (r : Record) : Record :=
  match call with
  | .applyBlockResult _ result state => { r with lastResultSegment := result, state := state }
  | .rebindBlockView _ hot level => { r with hotSegmentId := hot, placementLevel := level }
  | .handoffBlockOwner _ node level hot =>
      { r with placementNode := node, placementLevel := level, hotSegmentId := hot }
  | .updatePrefixMetadata _ block => { r with
      placementNode := block.placementNode
      placementLevel := block.placementLevel
      hotSegmentId := block.hotSegmentId
      state := block.state
      lastResultSegment := block.lastResultSegment
      blockHash := block.blockHash }

/-- The record a call leaves under its target key. -/
def updated (call : MetadataCall) (r : Record) : Record :=
  { call.next r with version := r.version + 1 }

/-- The block whose state, placement and result the group takes over. -/
def block (call : MetadataCall) (updated : Record) : Record :=
  match call with
  | .updatePrefixMetadata _ block => block
  | _ => updated

variable (call : MetadataCall) (svc : Service)

/-- The calls as one: check the record, write it, let the group follow. -/
def follow : Service × UpdateResult :=
  match call.targetKey with
  | none => (svc, .failed)
  | some key =>
      match svc.findRecord key.bytes with
      | none => (svc, .failed)
      | some target =>
          if ¬ call.owned target then (svc, .wrongOwner)
          else if target.kind ≠ call.kind then (svc, .failed)
          else if call.stale target then (svc, .unchanged)
          else
            let svc₁ := svc.setRecord (call.updated target)
            match svc₁.updatePrefixGroupFromBlock call.ctx (call.block (call.updated target)) with
            | none => (svc₁, .failed)
            | some svc₂ => (svc₂, .updated svc₂)

end MetadataCall

/-- A group record that carries a block's placement, state and result, and has it as a member. -/
structure Record.CarriesBlock (group block : Record) : Prop where
  member : group.hasMember block.blockHash.bytes
  placementNode : group.placementNode = block.placementNode
  placementLevel : group.placementLevel = block.placementLevel
  hotSegmentId : group.hotSegmentId = block.hotSegmentId
  state : group.state = block.state
  lastResultSegment : group.lastResultSegment = block.lastResultSegment

/-! ## Single writes, keys repeating or not -/

namespace Service

variable {svc svc' : Service} {r : Record}

lemma findRecord_putRecord_self (h : svc.putRecord r = some svc') :
    svc'.findRecord r.keyBytes = some r := by
  obtain ⟨t, ht, rfl⟩ := putRecord_eq_some h
  exact SlotTable.lookup_upsert_self ht

lemma findRecord_putRecord_of_ne (h : svc.putRecord r = some svc') {k : Bytes}
    (hk : r.keyBytes ≠ k) : svc'.findRecord k = svc.findRecord k := by
  obtain ⟨t, ht, rfl⟩ := putRecord_eq_some h
  exact SlotTable.lookup_upsert_of_ne ht hk

lemma get_putRecord_of_ne (h : svc.putRecord r = some svc') {b : Record}
    (hb : b.keyBytes ≠ r.keyBytes) (i : ℕ) :
    svc'.records.get i = some b ↔ svc.records.get i = some b := by
  obtain ⟨t, ht, rfl⟩ := putRecord_eq_some h
  exact SlotTable.get_upsert_of_ne ht hb i

/-- A group that follows is one record written under the group's key. -/
lemma exists_of_updatePrefixGroupFromBlock {ctx : BlockCtx} {block : Record}
    (h : svc.updatePrefixGroupFromBlock ctx block = some svc') :
    ∃ groupKey group, ctx.buildGroupKey = some groupKey ∧ group.keyBytes = groupKey.bytes ∧
      svc.putRecord group = some svc' ∧ group.CarriesBlock block := by
  obtain ⟨groupKey, hgk, h⟩ := Option.bind_eq_some_iff.mp h
  obtain ⟨group, hgroup, hput⟩ := Option.bind_eq_some_iff.mp h
  have hof := groupOf_prefixGroupRecord (fun _ hr => key_of_findRecord hr) hgroup
  refine ⟨groupKey, group, hgk, congrArg FieldText.bytes hof.key, hput, ?_⟩
  have hmember := hof.member
  obtain ⟨_, _, _, -, -, -, rfl⟩ := prefixGroupRecord_cases hgroup
  exact ⟨hmember, rfl, rfl, rfl, rfl, rfl⟩

lemma updateBlockResult_eq (key : Bytes) (last : UInt64) (next : KvcacheState) :
    svc.updateBlockResult key last next = svc.updateRecord key RecordKind.blockMeta
      (fun rec => rec.lastResultSegment ≠ 0 ∧ last ≤ rec.lastResultSegment)
      (fun rec => { rec with lastResultSegment := last, state := next }) := by
  unfold updateBlockResult updateRecord
  cases svc.findRecord key with
  | none => rfl
  | some rec => simp only [decide_eq_true_eq]

lemma updatePrefixResult_eq (key : Bytes) (ctx : BlockCtx) (block : Record) :
    svc.updatePrefixResult key ctx block = svc.updateRecord key RecordKind.requestPrefix
      (MetadataCall.updatePrefixMetadata ctx block).stale
      (MetadataCall.updatePrefixMetadata ctx block).next := by
  unfold updatePrefixResult updateRecord
  cases svc.findRecord key with
  | none => rfl
  | some rec =>
      simp only [MetadataCall.stale, MetadataCall.next, decide_eq_true_eq]
      by_cases hkind : rec.kind ≠ RecordKind.requestPrefix
      · simp only [if_pos hkind]
      · simp only [if_neg hkind]
        split
        · rename_i hold
          rw [if_pos (.inl hold)]
        · rename_i hold
          split
          · rename_i hsame
            rw [if_pos (.inr hsame)]
          · rename_i hsame
            rw [if_neg (not_or.mpr ⟨hold, hsame⟩)]

end Service

/-! ## The four calls are instances of the one -/

namespace MetadataCall

variable {call : MetadataCall} {svc : Service}

lemma keyBytes_updated (r : Record) : (call.updated r).keyBytes = r.keyBytes := by
  cases call <;> rfl

lemma blockHash_block_updated (r : Record) :
    (call.block (call.updated r)).blockHash = (call.block r).blockHash := by
  cases call <;> rfl

variable (call) in
/-- The record is written in place, and its key finds it. -/
lemma putRecord_updated {key : FieldText 96} {target : Record}
    (h : svc.findRecord key.bytes = some target) :
    svc.putRecord (call.updated target) = some (svc.setRecord (call.updated target)) ∧
      (svc.setRecord (call.updated target)).findRecord key.bytes = some (call.updated target) := by
  have hkey : (call.updated target).keyBytes = key.bytes := by
    rw [keyBytes_updated]
    exact SlotTable.lookup_key h
  have hput : svc.putRecord (call.updated target) = some (svc.setRecord (call.updated target)) :=
    Service.setRecord_of_found (by rw [hkey, h]; simp)
  refine ⟨hput, ?_⟩
  rw [← hkey]
  exact Service.findRecord_putRecord_self hput

/-- The record a call updates is not its group. -/
lemma targetKey_ne_groupKey {key groupKey : FieldText 96} (hkey : call.targetKey = some key)
    (hgroup : call.ctx.buildGroupKey = some groupKey) : key.bytes ≠ groupKey.bytes := by
  cases call with
  | applyBlockResult ctx _ _ => exact (BlockCtx.groupKey_ne_blockKey hgroup hkey).symm
  | rebindBlockView ctx _ _ => exact (BlockCtx.groupKey_ne_blockKey hgroup hkey).symm
  | handoffBlockOwner ctx _ _ _ => exact (BlockCtx.groupKey_ne_blockKey hgroup hkey).symm
  | updatePrefixMetadata ctx _ => exact BlockCtx.prefixKey_ne_groupKey hkey hgroup

variable (call) in
lemma updateRecord_of_found {key : Bytes} {target : Record} (h : svc.findRecord key = some target) :
    svc.updateRecord key call.kind call.stale call.next =
      if target.kind ≠ call.kind then .failed
      else if call.stale target then .unchanged
      else .updated (svc.setRecord (call.updated target)) := by
  simp only [Service.updateRecord, h, updated]

variable (call) in
lemma updateOwnedBlock_eq_follow {u : Bytes → UpdateResult}
    (hkey : call.targetKey = call.ctx.buildBlockKey)
    (howned : ∀ r, call.owned r = decide (r.placementNode = call.ctx.placementNode))
    (hblock : ∀ r, call.block r = r)
    (hupdate : ∀ key, u key = svc.updateRecord key call.kind call.stale call.next) :
    svc.updateOwnedBlock call.ctx u = call.follow svc := by
  unfold Service.updateOwnedBlock follow
  rw [hkey]
  cases call.ctx.buildBlockKey with
  | none => rfl
  | some key =>
      simp only
      cases hfind : svc.findRecord key.bytes with
      | none => rfl
      | some target =>
          simp only [howned, decide_eq_true_eq, hupdate, updateRecord_of_found call hfind, hblock]
          by_cases howner : target.placementNode = call.ctx.placementNode
          · by_cases hkind : target.kind = call.kind
            · cases hstale : call.stale target with
              | true => simp [howner, hkind]
              | false =>
                  have hset := (putRecord_updated call hfind).2
                  simp only [howner, hkind, hset, ne_eq, not_true_eq_false, if_false,
                    Bool.false_eq_true]
            · simp [howner, hkind]
          · simp [howner]

lemma updatePrefixMetadata_eq_follow (ctx : BlockCtx) (blockRecord : Record) :
    svc.updatePrefixMetadata ctx blockRecord =
      (updatePrefixMetadata ctx blockRecord).follow svc := by
  unfold Service.updatePrefixMetadata follow
  simp only [targetKey]
  cases hpk : ctx.buildPrefixKey with
  | none => rfl
  | some key =>
      simp only [Service.updatePrefixResult_eq]
      cases hfind : svc.findRecord key.bytes with
      | none => simp only [Service.updateRecord, hfind]
      | some target =>
          have hupdate := updateRecord_of_found (updatePrefixMetadata ctx blockRecord) hfind
          rw [show (updatePrefixMetadata ctx blockRecord).kind = RecordKind.requestPrefix from rfl]
            at hupdate
          simp only [hupdate, owned, kind, not_true_eq_false, if_false]
          by_cases hkind : target.kind = RecordKind.requestPrefix
          · cases hstale : (updatePrefixMetadata ctx blockRecord).stale target with
            | true => simp [hkind]
            | false =>
                have hset := (putRecord_updated (updatePrefixMetadata ctx blockRecord) hfind).2
                simp only [hkind, ne_eq, not_true_eq_false, if_false, Bool.false_eq_true,
                  MetadataCall.ctx, block]
                cases hg : Service.updatePrefixGroupFromBlock _ ctx blockRecord with
                | none => rfl
                | some svc₂ =>
                    -- the group is written under a key of its own, so the entry is still found
                    obtain ⟨groupKey, group, hgk, hkey, hput, -⟩ :=
                      Service.exists_of_updatePrefixGroupFromBlock hg
                    have hne := BlockCtx.prefixKey_ne_groupKey hpk hgk
                    simp only [Service.findRecord_putRecord_of_ne hput (hkey ▸ hne.symm), hset]
          · simp [hkind]

/-- **The four calls follow one account.** -/
lemma run_eq_follow (call : MetadataCall) (svc : Service) : call.run svc = call.follow svc := by
  cases call with
  | applyBlockResult ctx result next =>
      exact updateOwnedBlock_eq_follow (applyBlockResult ctx result next)
        (u := fun key => svc.updateBlockResult key result next) rfl (fun _ => rfl)
        (fun _ => rfl) fun key => Service.updateBlockResult_eq key result next
  | rebindBlockView ctx hot level =>
      exact updateOwnedBlock_eq_follow (rebindBlockView ctx hot level) rfl (fun _ => rfl)
        (fun _ => rfl) fun _ => rfl
  | handoffBlockOwner ctx node level hot =>
      exact updateOwnedBlock_eq_follow (handoffBlockOwner ctx node level hot) rfl
        (fun _ => rfl) (fun _ => rfl) fun _ => rfl
  | updatePrefixMetadata ctx block => exact updatePrefixMetadata_eq_follow ctx block

end MetadataCall

/-! ## When the group can follow -/

/-- The group of a context can take a block: its key fits the buffer, and under it there is either
nothing and a slot for it, or a group that has the block or a member slot left. -/
def Service.GroupTakes (svc : Service) (ctx : BlockCtx) (blockHash : FieldText 96) : Prop :=
  ∃ groupKey, ctx.buildGroupKey = some groupKey ∧
    match svc.findRecord groupKey.bytes with
    | none => svc.records.count < maxRecords
    | some group => group.kind = RecordKind.prefixGroup ∧
        (group.hasMember blockHash.bytes ∨ group.memberCount.val < maxGroupMembers)

namespace Service

variable {svc svc' : Service}

lemma addMember_eq_none_iff {r : Record} {blockHash : FieldText 96} :
    r.addMember blockHash = none ↔
      r.hasMember blockHash.bytes = false ∧ ¬ r.memberCount.val < maxGroupMembers := by
  unfold Record.addMember
  cases r.hasMember blockHash.bytes with
  | true => simp
  | false =>
      simp only [Bool.false_eq_true, if_false, true_and]
      split <;> simp_all

lemma prefixGroupRecord_eq_none_iff {found : Option Record} {key : FieldText 96}
    {requestId groupId : FieldText 64} {blockHash : FieldText 96} {node level : UInt32}
    {hot last : UInt64} {state : KvcacheState} :
    prefixGroupRecord found key requestId groupId blockHash node level hot state last = none ↔
      (found.getD (newPrefixGroup key requestId groupId)).kind ≠ RecordKind.prefixGroup ∨
        (found.getD (newPrefixGroup key requestId groupId)).addMember blockHash = none := by
  simp only [prefixGroupRecord]
  split
  · rename_i hkind
    simp [hkind]
  · rename_i hkind
    simp [not_not.mp hkind]

/-- A record under a key that is there, or for which there is a slot, is written. -/
lemma exists_putRecord_iff {r : Record} :
    (∃ svc', svc.putRecord r = some svc') ↔
      (svc.findRecord r.keyBytes = none → svc.records.count < maxRecords) := by
  have hle := svc.records.count_le
  rw [← Option.ne_none_iff_exists', ne_eq, putRecord_eq_none_iff]
  constructor
  · intro h hnone
    exact lt_of_le_of_ne hle fun hfull => h ⟨hnone, hfull⟩
  · rintro h ⟨hnone, hfull⟩
    exact absurd hfull (h hnone).ne

/-- A group can take a block just when it can be written with it, whatever else is written. -/
lemma groupTakes_iff_putPrefixGroup {ctx : BlockCtx} {groupKey : FieldText 96}
    (hgk : ctx.buildGroupKey = some groupKey) {blockHash : FieldText 96} (node level : UInt32)
    (hot : UInt64) (state : KvcacheState) (last : UInt64) :
    svc.GroupTakes ctx blockHash ↔ ∃ svc', svc.putPrefixGroup groupKey ctx.requestId ctx.groupId
      blockHash node level hot state last = some svc' := by
  unfold GroupTakes putPrefixGroup
  simp only [hgk, Option.some.injEq, exists_eq_left']
  cases hrecord : prefixGroupRecord (svc.findRecord groupKey.bytes) groupKey ctx.requestId
      ctx.groupId blockHash node level hot state last with
  | none =>
      -- a group record that is refused was found, and is of another kind or full
      simp only [Option.bind_none, reduceCtorEq, exists_false, iff_false]
      rw [prefixGroupRecord_eq_none_iff] at hrecord
      cases hfind : svc.findRecord groupKey.bytes with
      | none =>
          rw [hfind, addMember_eq_none_iff] at hrecord
          rcases hrecord with hkind | ⟨-, hfull⟩
          · exact absurd rfl hkind
          · exact absurd (Nat.zero_lt_succ 3) hfull
      | some group =>
          rw [hfind, addMember_eq_none_iff] at hrecord
          rintro ⟨hkind, hroom⟩
          rcases hrecord with hne | ⟨hnot, hfull⟩
          · exact hne hkind
          · rcases hroom with hmember | hlt
            · exact absurd (hmember.symm.trans hnot) (by decide)
            · exact hfull hlt
  | some group =>
      have hof := groupOf_prefixGroupRecord (fun _ hr => key_of_findRecord hr) hrecord
      have hkey : group.keyBytes = groupKey.bytes := congrArg FieldText.bytes hof.key
      rw [Option.bind_some, exists_putRecord_iff, hkey]
      cases hfind : svc.findRecord groupKey.bytes with
      | none => simp
      | some found =>
          have hsome : ¬ prefixGroupRecord (svc.findRecord groupKey.bytes) groupKey ctx.requestId
              ctx.groupId blockHash node level hot state last = none := by
            rw [hrecord]
            exact Option.some_ne_none _
          rw [prefixGroupRecord_eq_none_iff, hfind, addMember_eq_none_iff] at hsome
          simp only [Option.getD_some, not_or, not_and, ne_eq, not_not] at hsome
          simp only [reduceCtorEq, false_implies, iff_true]
          refine ⟨hsome.1, ?_⟩
          cases hmember : found.hasMember blockHash.bytes with
          | true => exact .inl rfl
          | false => exact .inr (hsome.2 hmember)

/-- A group follows a block when it can take it, and not otherwise. -/
lemma groupTakes_iff {ctx : BlockCtx} {block : Record} :
    svc.GroupTakes ctx block.blockHash ↔
      ∃ svc', svc.updatePrefixGroupFromBlock ctx block = some svc' := by
  unfold updatePrefixGroupFromBlock
  cases hgk : ctx.buildGroupKey with
  | none => simp [GroupTakes, hgk]
  | some groupKey =>
      simp only [Option.bind_some]
      exact groupTakes_iff_putPrefixGroup hgk _ _ _ _ _

end Service

/-! ## Atomic calls -/

namespace MetadataCall

/-- What a successful call does: the target's version goes up by one, the group carries what the
block carries, and no other record and nothing but records changes. -/
structure Done (call : MetadataCall) (svc svc' : Service) (key groupKey : FieldText 96)
    (before after group : Record) : Prop where
  targetKey : call.targetKey = some key
  buildGroupKey : call.ctx.buildGroupKey = some groupKey
  foundBefore : svc.findRecord key.bytes = some before
  foundAfter : svc'.findRecord key.bytes = some after
  version : after.version.toNat = before.version.toNat + 1
  foundGroup : svc'.findRecord groupKey.bytes = some group
  carries : group.CarriesBlock (call.block after)
  others : ∀ i r, r.keyBytes ≠ key.bytes → r.keyBytes ≠ groupKey.bytes →
    (svc'.records.get i = some r ↔ svc.records.get i = some r)
  rest : svc' = { svc with records := svc'.records, recordCount := svc'.recordCount }

/-- All or nothing: a call that fails leaves the service as it was, and one that succeeds has updated
the record and its group. -/
structure Atomic (call : MetadataCall) (svc : Service) : Prop where
  refused : (call.run svc).2.isUpdated = false → (call.run svc).1 = svc
  done : ∀ svc', (call.run svc).2 = .updated svc' → (call.run svc).1 = svc' ∧
    ∃ key groupKey before after group, call.Done svc svc' key groupKey before after group

/-- A call gets as far as writing its target. -/
structure Writes (call : MetadataCall) (svc : Service) (key : FieldText 96) (target : Record) :
    Prop where
  targetKey : call.targetKey = some key
  found : svc.findRecord key.bytes = some target
  owned : call.owned target = true
  kind : target.kind = call.kind
  fresh : call.stale target = false

variable {call : MetadataCall} {svc : Service} {key : FieldText 96} {target : Record}

lemma follow_of_writes (h : call.Writes svc key target) :
    call.follow svc =
      match (svc.setRecord (call.updated target)).updatePrefixGroupFromBlock call.ctx
        (call.block (call.updated target)) with
      | none => (svc.setRecord (call.updated target), .failed)
      | some svc₂ => (svc₂, .updated svc₂) := by
  unfold follow
  simp only [h.targetKey, h.found, h.owned, h.kind, h.fresh, ne_eq, not_true_eq_false, if_false,
    Bool.false_eq_true]

/-- A call that does not get as far fails and leaves the service as it was. -/
lemma follow_of_not_writes (h : ∀ key target, ¬ call.Writes svc key target) :
    (call.follow svc).1 = svc ∧ (call.follow svc).2.isUpdated = false := by
  unfold follow
  cases hkey : call.targetKey with
  | none => simp
  | some key =>
      cases hfound : svc.findRecord key.bytes with
      | none => simp [hfound]
      | some target =>
          cases howned : call.owned target with
          | false => simp [hfound, howned]
          | true =>
              by_cases hkind : target.kind = call.kind
              · cases hstale : call.stale target with
                | true => simp [hfound, howned, hkind, hstale]
                | false => exact absurd ⟨hkey, hfound, howned, hkind, hstale⟩ (h key target)
              · simp [hfound, howned, hkind]

/-- Writing the target is no matter to its group. -/
lemma groupTakes_setRecord (h : call.Writes svc key target) (blockHash : FieldText 96) :
    (svc.setRecord (call.updated target)).GroupTakes call.ctx blockHash ↔
      svc.GroupTakes call.ctx blockHash := by
  obtain ⟨hput, -⟩ := putRecord_updated call h.found
  have hkey : (call.updated target).keyBytes = key.bytes := by
    rw [keyBytes_updated]
    exact SlotTable.lookup_key h.found
  have hcount : (svc.setRecord (call.updated target)).records.count = svc.records.count := by
    rw [Service.count_putRecord hput, hkey, h.found]
    rfl
  refine exists_congr fun groupKey => and_congr_right fun hgk => ?_
  have hne := targetKey_ne_groupKey h.targetKey hgk
  rw [Service.findRecord_putRecord_of_ne hput (hkey ▸ hne), hcount]

/-- The condition for a call to be atomic: if it gets as far as writing its target, the version can
be raised and the group can take the block. -/
def CanFollow (call : MetadataCall) (svc : Service) : Prop :=
  ∀ key target, call.Writes svc key target →
    target.version.toNat + 1 < 2 ^ 64 ∧ svc.GroupTakes call.ctx (call.block target).blockHash

lemma version_add_one {v : UInt64} : (v + 1).toNat = v.toNat + 1 ↔ v.toNat + 1 < 2 ^ 64 := by
  have := v.toNat_lt
  rw [UInt64.toNat_add]
  simp only [UInt64.toNat_one]
  omega

/-- The target stays written when the group follows. -/
lemma findRecord_of_follow {svc' : Service} (h : call.Writes svc key target)
    (hgroup : (svc.setRecord (call.updated target)).updatePrefixGroupFromBlock call.ctx
      (call.block (call.updated target)) = some svc') :
    svc'.findRecord key.bytes = some (call.updated target) := by
  obtain ⟨groupKey, group, hgk, hgroupKey, hput, -⟩ :=
    Service.exists_of_updatePrefixGroupFromBlock hgroup
  have hne := targetKey_ne_groupKey h.targetKey hgk
  rw [Service.findRecord_putRecord_of_ne hput (hgroupKey ▸ hne.symm)]
  exact (putRecord_updated call h.found).2

/-- A call whose group follows has updated both records. -/
lemma done_of_follow {svc' : Service} (h : call.Writes svc key target)
    (hversion : target.version.toNat + 1 < 2 ^ 64)
    (hgroup : (svc.setRecord (call.updated target)).updatePrefixGroupFromBlock call.ctx
      (call.block (call.updated target)) = some svc') :
    ∃ groupKey group, call.Done svc svc' key groupKey target (call.updated target) group := by
  obtain ⟨hput, -⟩ := putRecord_updated call h.found
  have hkey : (call.updated target).keyBytes = key.bytes := by
    rw [keyBytes_updated]
    exact SlotTable.lookup_key h.found
  obtain ⟨groupKey, group, hgk, hgroupKey, hput', hcarries⟩ :=
    Service.exists_of_updatePrefixGroupFromBlock hgroup
  refine ⟨groupKey, group, h.targetKey, hgk, h.found, findRecord_of_follow h hgroup,
    version_add_one.mpr hversion, ?_, hcarries, ?_, ?_⟩
  · rw [← hgroupKey]
    exact Service.findRecord_putRecord_self hput'
  · intro i r htarget hother
    rw [Service.get_putRecord_of_ne hput' (hgroupKey ▸ hother),
      Service.get_putRecord_of_ne hput (hkey ▸ htarget)]
  · have hall : svc.putAll [call.updated target, group] = some svc' := by
      rw [Service.putAll_cons, hput, Option.bind_some, Service.putAll_cons, hput']
      rfl
    exact Service.putAll_frame hall

/-- The version of a record that a call has written is another one. -/
lemma setRecord_ne (h : call.Writes svc key target) : svc.setRecord (call.updated target) ≠ svc := by
  intro hsame
  have hset := (putRecord_updated call h.found).2
  rw [hsame, h.found] at hset
  have hversion : target.version = target.version + 1 :=
    congrArg Record.version (Option.some.inj hset)
  simp at hversion

end MetadataCall

/-- **Metadata updates are atomic as far as the group can follow.**  For every table of records and
every one of the four calls: it is all or nothing if and only if, in case it gets as far as writing its
record, the record's version can be raised and the group of its context can take the block. -/
theorem metadataCall_atomic_iff (svc : Service) (call : MetadataCall) :
    call.Atomic svc ↔ call.CanFollow svc := by
  have hrun := call.run_eq_follow svc
  constructor
  · intro hatomic key target hwrites
    have hfollow := MetadataCall.follow_of_writes hwrites
    rw [← MetadataCall.groupTakes_setRecord hwrites, ← MetadataCall.blockHash_block_updated,
      Service.groupTakes_iff]
    cases hgroup : (svc.setRecord (call.updated target)).updatePrefixGroupFromBlock call.ctx
        (call.block (call.updated target)) with
    | none =>
        -- the call fails with its record written
        rw [hgroup, ← hrun] at hfollow
        have hsame := hatomic.refused (by rw [hfollow]; rfl)
        rw [hfollow] at hsame
        exact absurd hsame (MetadataCall.setRecord_ne hwrites)
    | some svc' =>
        rw [hgroup, ← hrun] at hfollow
        obtain ⟨-, key', groupKey, before, after, group, hdone⟩ :=
          hatomic.done svc' (by rw [hfollow])
        obtain rfl : key = key' := Option.some.inj (hwrites.targetKey.symm.trans hdone.targetKey)
        obtain rfl : target = before := Option.some.inj (hwrites.found.symm.trans hdone.foundBefore)
        refine ⟨?_, svc', rfl⟩
        obtain rfl : call.updated target = after :=
          Option.some.inj ((MetadataCall.findRecord_of_follow hwrites hgroup).symm.trans hdone.foundAfter)
        exact MetadataCall.version_add_one.mp hdone.version
  · intro hcan
    by_cases hwrites : ∃ key target, call.Writes svc key target
    · obtain ⟨key, target, hwrites⟩ := hwrites
      obtain ⟨hversion, htakes⟩ := hcan key target hwrites
      rw [← MetadataCall.groupTakes_setRecord hwrites, ← MetadataCall.blockHash_block_updated,
        Service.groupTakes_iff] at htakes
      obtain ⟨svc', hgroup⟩ := htakes
      have hfollow := MetadataCall.follow_of_writes hwrites
      rw [hgroup, ← hrun] at hfollow
      obtain ⟨groupKey, group, hdone⟩ := MetadataCall.done_of_follow hwrites hversion hgroup
      refine ⟨fun hfail => ?_, fun svc'' h => ?_⟩
      · rw [hfollow] at hfail
        cases hfail
      rw [hfollow] at h
      obtain rfl : svc' = svc'' := UpdateResult.updated.inj h
      exact ⟨by rw [hfollow], key, groupKey, target, _, group, hdone⟩
    · push Not at hwrites
      obtain ⟨hsame, hfail⟩ := MetadataCall.follow_of_not_writes hwrites
      rw [← hrun] at hsame hfail
      refine ⟨fun _ => hsame, fun svc' h => ?_⟩
      rw [h] at hfail
      cases hfail

/-! ## A group without room -/

/-- The context of a block of request `r`. -/
def blockOfRequest (groupId blockHash : Bytes) : BlockCtx where
  requestId := .copy (ascii "r")
  prefixGroup := .copy (ascii "p")
  groupId := .copy groupId
  blockHash := .copy blockHash
  placementNode := 0
  placementLevel := 0
  hotSegmentId := 0
  resultSegmentId := 1

/-- A service after five bootstraps: four blocks in the group `g`, and a fifth in the group `h`. -/
def crowdedService : Service :=
  [blockOfRequest (ascii "g") (ascii "a"), blockOfRequest (ascii "g") (ascii "b"),
    blockOfRequest (ascii "g") (ascii "c"), blockOfRequest (ascii "g") (ascii "d"),
    blockOfRequest (ascii "h") (ascii "e")].foldl
      (fun svc ctx =>
        match svc.bootstrapKvcache ctx with
        | .error svc => svc
        | .ok (svc, _) => svc) Service.fresh

/-- A new result of the fifth block is reported under the group `g`.  The call fails, because the group
is full, and the block keeps the result. -/
theorem refused_result_stays :
    ¬ (MetadataCall.applyBlockResult (blockOfRequest (ascii "g") (ascii "e")) 2
      KvcacheState.hot).Atomic crowdedService := by
  intro hatomic
  have hrefused : (crowdedService.applyBlockResult (blockOfRequest (ascii "g") (ascii "e")) 2
      KvcacheState.hot).1 = crowdedService := hatomic.refused (by decide +kernel)
  exact absurd hrefused (by decide +kernel)

end MemService
