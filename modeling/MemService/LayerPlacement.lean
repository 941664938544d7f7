import MemService.MetadataUpdates
import MemService.ObjectRecords

/-!
# Where the layers of a model are placed

A model's layers are split over a ring of nodes.  What the model looks like is the library's to say:
its key, the number of nodes, and the range of layers and the next node for each node.  The service
publishes one record for each node, under a key made from the model's key and the node's number, and
reads them back by the same keys.

The flag of the last node, `terminal`, is not in the record.  The reader makes it up again from the
order of the two nodes that are, and checks it through the checksum the writer made.  The writer has
`i + 1 = n`, the reader `next < owner`, and the range flow a third formula.  They agree on every ring
but that of one node, whose node is the next of itself.
-/

open ByteText CNumeral

namespace MemService

/-! ## The model's library -/

/-- What the service asks of the library that knows the model. -/
structure Qwen3Library where
  modelKey : Bytes
  modelKey_plain : Plain modelKey
  totalLayers : UInt64
  pipelineNodes : UInt64
  hiddenRangeBytes : UInt64
  rangeKvStateBytes : UInt32 → UInt32 → UInt64
  layerRangeForNode : UInt32 → UInt32 → Option (UInt32 × UInt32 × UInt32)

/-- `struct mem_service_layer_range_placement`, and its twin of the runtime. -/
structure LayerRangePlacement where
  ownerNode : UInt32
  layerStart : UInt32
  layerEnd : UInt32
  nextOwnerNode : UInt32
  layerCount : UInt32
  terminal : Bool
  deriving DecidableEq, Repr

/-- `struct mem_service_obmm_range_flow_request`, as far as it is set up from the model. -/
structure RangeFlowRequest where
  modelKey : Bytes
  totalLayers : UInt32
  rangeNodes : UInt32
  hiddenRangeBytes : UInt64
  kvStateBytes : UInt64
  localPlacement : LayerRangePlacement
  nextPlacement : LayerRangePlacement
  predecessorPlacement : Option LayerRangePlacement
  recycleRuntimeRecord : Service → Bytes → Option ℕ

section

variable (lib : Qwen3Library)

/-- `mem_service_qwen3_layer_count`. -/
def qwen3LayerCount : UInt32 :=
  if lib.totalLayers.toNat > 2 ^ 32 - 1 then 28 else lib.totalLayers.toUInt32

/-- `mem_service_qwen3_range_nodes`. -/
def qwen3RangeNodes : UInt32 :=
  if lib.pipelineNodes = 0 ∨ lib.pipelineNodes.toNat > 2 ^ 32 - 1 then 8
  else lib.pipelineNodes.toUInt32

/-- `mem_service_qwen3_layer_range_for_node`. -/
def qwen3LayerRangeForNode (localNode clusterNodeCount : UInt32) :
    Option (UInt32 × UInt32 × UInt32) :=
  if clusterNodeCount ≠ qwen3RangeNodes lib then none
  else lib.layerRangeForNode localNode clusterNodeCount

/-- `mem_service_qwen3_node_range`. -/
def qwen3NodeRange (node nodeCount : UInt32) : UInt32 × UInt32 :=
  match qwen3LayerRangeForNode lib node nodeCount with
  | some (start, stop, _) => (start, stop)
  | none => (0, 0)

/-- The text that `mem_service_qwen3_placement_key` prints. -/
def qwen3PlacementKeyText (ownerNode : UInt32) : Bytes :=
  ascii "placement/" ++ lib.modelKey ++ ascii "/layer-range/node" ++ decimal (ownerNode + 1).toNat

/-- `mem_service_qwen3_placement_key`, into a buffer of 96 bytes. -/
def qwen3PlacementKey (ownerNode : UInt32) : Bytes := (qwen3PlacementKeyText lib ownerNode).take 95

end

/-- `mem_service_qwen3_placement_checksum`. -/
def qwen3PlacementChecksum (owner start stop nextOwner : UInt32) (terminal : Bool) : UInt64 :=
  let mix (hash value : UInt64) : UInt64 := (hash ^^^ value) * 1099511628211
  mix (mix (mix (mix (mix 1469598103934665603 (owner + 1).toUInt64) start.toUInt64) stop.toUInt64)
    (nextOwner + 1).toUInt64) (if terminal then 1 else 0)

/-! ## Publishing -/

section

variable (lib : Qwen3Library)

/-- The record that a put writes. -/
def layerRangeRecord (placement : LayerRangePlacement) : Record where
  kind := RecordKind.layerRangePlacement
  key := .copy (qwen3PlacementKeyText lib placement.ownerNode)
  placementNode := placement.ownerNode
  placementLevel := 2
  hotSegmentId := placement.layerStart.toUInt64
  state := KvcacheState.hot
  version := 1
  lastResultSegment := placement.layerEnd.toUInt64
  objectOwnerNode := placement.nextOwnerNode
  objectBackingLen := placement.layerCount.toUInt64
  objectPayloadChecksum := qwen3PlacementChecksum placement.ownerNode placement.layerStart
    placement.layerEnd placement.nextOwnerNode placement.terminal

/-- `mem_service_put_qwen3_layer_range_placement`. -/
def putLayerRangePlacement (svc : Service) (placement : LayerRangePlacement) : Option Service :=
  if placement.layerStart ≥ placement.layerEnd then none
  else svc.putRecord (layerRangeRecord lib placement)

/-- The placement that is published for a node. -/
def publishedPlacement (nodeCount i : UInt32) : LayerRangePlacement where
  ownerNode := i
  layerStart := (qwen3NodeRange lib i nodeCount).1
  layerEnd := (qwen3NodeRange lib i nodeCount).2
  nextOwnerNode := (i + 1) % nodeCount
  layerCount := (qwen3NodeRange lib i nodeCount).2 - (qwen3NodeRange lib i nodeCount).1
  terminal := i + 1 == nodeCount

/-- The nodes of a cluster, in order. -/
def nodesBelow (nodeCount : UInt32) : List UInt32 := (List.range nodeCount.toNat).map UInt32.ofNat

/-- The loop of `mem_service_publish_qwen3_layer_range_placements`. -/
def publishEach (nodeCount : UInt32) : List UInt32 → Service → Service × Bool
  | [], svc => (svc, true)
  | i :: is, svc =>
      match putLayerRangePlacement lib svc (publishedPlacement lib nodeCount i) with
      | none => (svc, false)
      | some svc' => publishEach nodeCount is svc'

/-- `mem_service_publish_qwen3_layer_range_placements`: the service in either case, and whether all
were put. -/
def publishLayerRangePlacements (svc : Service) (nodeCount : UInt32) : Service × Bool :=
  if nodeCount ≠ qwen3RangeNodes lib then (svc, false)
  else publishEach lib nodeCount (nodesBelow nodeCount) svc

/-! ## Reading -/

/-- `mem_service_read_qwen3_layer_range_placement`. -/
def readLayerRangePlacement (svc : Service) (ownerNode : UInt32) : Option LayerRangePlacement :=
  match svc.findRecord (qwen3PlacementKey lib ownerNode) with
  | none => none
  | some rec =>
      if rec.kind ≠ RecordKind.layerRangePlacement ∨ rec.hotSegmentId ≥ rec.lastResultSegment ∨
          rec.objectBackingLen ≠ rec.lastResultSegment - rec.hotSegmentId then none
      else
        let placement : LayerRangePlacement :=
          { ownerNode := rec.placementNode
            layerStart := rec.hotSegmentId.toUInt32
            layerEnd := rec.lastResultSegment.toUInt32
            nextOwnerNode := rec.objectOwnerNode
            layerCount := rec.objectBackingLen.toUInt32
            terminal := decide (rec.objectOwnerNode < rec.placementNode) }
        if rec.objectPayloadChecksum = qwen3PlacementChecksum placement.ownerNode
            placement.layerStart placement.layerEnd placement.nextOwnerNode placement.terminal then
          some placement
        else none

/-- The loop of `mem_service_find_qwen3_layer_range_predecessor`: it ends at the first placement
that cannot be read. -/
def predecessorAmong (svc : Service) (ownerNode : UInt32) : List UInt32 → Option LayerRangePlacement
  | [] => none
  | i :: is =>
      match readLayerRangePlacement lib svc i with
      | none => none
      | some candidate =>
          if !candidate.terminal && candidate.nextOwnerNode == ownerNode then some candidate
          else predecessorAmong svc ownerNode is

/-- `mem_service_find_qwen3_layer_range_predecessor`. -/
def findLayerRangePredecessor (svc : Service) (ownerNode : UInt32) : Option LayerRangePlacement :=
  predecessorAmong lib svc ownerNode (nodesBelow (qwen3RangeNodes lib))

end

/-! ## The range flow -/

/-- `mem_service_copy_layer_range`. -/
def copyLayerRange (ownerNode layerStart layerEnd nextOwnerNode rangeNodes : UInt32) :
    Option LayerRangePlacement :=
  if layerEnd ≤ layerStart ∨ ownerNode ≥ rangeNodes ∨ nextOwnerNode ≥ rangeNodes then none
  else
    some
      { ownerNode := ownerNode
        layerStart := layerStart
        layerEnd := layerEnd
        nextOwnerNode := nextOwnerNode
        layerCount := layerEnd - layerStart
        terminal := nextOwnerNode == ownerNode || nextOwnerNode == 0 }

/-- The loop of `mem_service_init_obmm_range_flow_request`: the first other node whose range ends
where the local one starts and whose next node is the local one. -/
def flowPredecessor (layerRangeForNode : UInt32 → UInt32 → Option (UInt32 × UInt32 × UInt32))
    (rangeNodes localNode localStart : UInt32) : Option LayerRangePlacement :=
  (nodesBelow rangeNodes).findSome? fun node =>
    if node = localNode then none
    else
      match layerRangeForNode node rangeNodes with
      | none => none
      | some (start, stop, next) =>
          if next = localNode ∧ stop = localStart then copyLayerRange node start stop next rangeNodes
          else none

/-- `mem_service_init_obmm_range_flow_request`. -/
def initObmmRangeFlowRequest (modelKey : Bytes) (totalLayers rangeNodes : UInt32)
    (hiddenRangeBytes kvStateBytes : UInt64) (localNode : UInt32)
    (layerRangeForNode : UInt32 → UInt32 → Option (UInt32 × UInt32 × UInt32))
    (recycleRuntimeRecord : Service → Bytes → Option ℕ) : Option RangeFlowRequest :=
  if modelKey = [] ∨ totalLayers = 0 ∨ rangeNodes = 0 ∨ localNode ≥ rangeNodes ∨
      hiddenRangeBytes = 0 then none
  else do
    let (localStart, localEnd, nextNode) ← layerRangeForNode localNode rangeNodes
    let (remoteStart, remoteEnd, afterRemote) ← layerRangeForNode nextNode rangeNodes
    if localEnd > totalLayers ∨ remoteEnd > totalLayers then none
    else do
      let localPlacement ← copyLayerRange localNode localStart localEnd nextNode rangeNodes
      let nextPlacement ← copyLayerRange nextNode remoteStart remoteEnd afterRemote rangeNodes
      let predecessor := flowPredecessor layerRangeForNode rangeNodes localNode localStart
      if localStart ≠ 0 ∧ predecessor.isNone then none
      else
        some
          { modelKey := modelKey
            totalLayers := totalLayers
            rangeNodes := rangeNodes
            hiddenRangeBytes := hiddenRangeBytes
            kvStateBytes := kvStateBytes
            localPlacement := localPlacement
            nextPlacement := nextPlacement
            predecessorPlacement := predecessor
            recycleRuntimeRecord := recycleRuntimeRecord }

/-- `mem_service_qwen3_init_obmm_range_flow_request`. -/
def qwen3InitObmmRangeFlowRequest (lib : Qwen3Library) (localNode clusterNodeCount : UInt32) :
    Option RangeFlowRequest := do
  let (layerStart, layerEnd, _) ← qwen3LayerRangeForNode lib localNode clusterNodeCount
  initObmmRangeFlowRequest lib.modelKey (qwen3LayerCount lib) (qwen3RangeNodes lib)
    lib.hiddenRangeBytes (lib.rangeKvStateBytes layerStart layerEnd) localNode
    (qwen3LayerRangeForNode lib) recycleQwen3RuntimeRecord

/-! ## What is published is there -/

section Published

variable {lib : Qwen3Library} {nodeCount : UInt32}

lemma plain_placementKeyText (lib : Qwen3Library) (ownerNode : UInt32) :
    Plain (qwen3PlacementKeyText lib ownerNode) := by
  have hhead : Plain (ascii "placement/") := by decide
  have htail : Plain (ascii "/layer-range/node") := by decide
  exact ((hhead.append lib.modelKey_plain).append htail).append (plain_decimal _)

lemma keyBytes_layerRangeRecord (placement : LayerRangePlacement) :
    (layerRangeRecord lib placement).keyBytes = qwen3PlacementKey lib placement.ownerNode :=
  FieldText.bytes_copy (plain_placementKeyText lib _)

/-- After the loop every placement is under its key, if the keys differ, and other keys are as they
were. -/
lemma findRecord_publishEach {is : List UInt32} {svc svc' : Service}
    (h : publishEach lib nodeCount is svc = (svc', true))
    (hkeys : (is.map (qwen3PlacementKey lib)).Nodup) :
    (∀ i ∈ is, svc'.findRecord (qwen3PlacementKey lib i) =
      some (layerRangeRecord lib (publishedPlacement lib nodeCount i))) ∧
    ∀ k, k ∉ is.map (qwen3PlacementKey lib) → svc'.findRecord k = svc.findRecord k := by
  induction is generalizing svc with
  | nil =>
      cases h
      exact ⟨nofun, fun _ _ => rfl⟩
  | cons i is ih =>
      obtain ⟨hi, hkeys⟩ := List.nodup_cons.mp hkeys
      unfold publishEach at h
      cases hput : putLayerRangePlacement lib svc (publishedPlacement lib nodeCount i) with
      | none =>
          rw [hput] at h
          cases h
      | some svc₁ =>
          rw [hput] at h
          obtain ⟨hfound, hframe⟩ := ih h hkeys
          have hrecord : svc.putRecord (layerRangeRecord lib (publishedPlacement lib nodeCount i)) =
              some svc₁ := by
            unfold putLayerRangePlacement at hput
            split at hput
            · cases hput
            · exact hput
          have hkey : (layerRangeRecord lib (publishedPlacement lib nodeCount i)).keyBytes =
              qwen3PlacementKey lib i := keyBytes_layerRangeRecord _
          constructor
          · intro j hj
            rcases List.mem_cons.mp hj with rfl | hj
            · rw [hframe _ hi, ← hkey]
              exact Service.findRecord_putRecord_self hrecord
            · exact hfound j hj
          · intro k hk
            simp only [List.map_cons, List.mem_cons, not_or] at hk
            rw [hframe k hk.2]
            exact Service.findRecord_putRecord_of_ne hrecord (hkey ▸ Ne.symm hk.1)

lemma mem_nodesBelow {i : UInt32} : i ∈ nodesBelow nodeCount ↔ i < nodeCount := by
  simp only [nodesBelow, List.mem_map, List.mem_range, UInt32.lt_iff_toNat_lt]
  constructor
  · rintro ⟨n, hn, rfl⟩
    rwa [UInt32.toNat_ofNat_of_lt' (hn.trans nodeCount.toNat_lt)]
  · exact fun h => ⟨i.toNat, h, UInt32.ofNat_toNat⟩

lemma nodup_nodesBelow : (nodesBelow nodeCount).Nodup := by
  refine List.Nodup.map_on (fun a ha b hb hab => ?_) List.nodup_range
  have h := congrArg UInt32.toNat hab
  rwa [UInt32.toNat_ofNat_of_lt' ((List.mem_range.mp ha).trans nodeCount.toNat_lt),
    UInt32.toNat_ofNat_of_lt' ((List.mem_range.mp hb).trans nodeCount.toNat_lt)] at h

/-! ## The three formulas for the last node -/

lemma rangeNodes_pos (lib : Qwen3Library) : 0 < (qwen3RangeNodes lib).toNat := by
  unfold qwen3RangeNodes
  split
  · decide
  · rename_i h
    simp only [not_or, not_lt] at h
    obtain ⟨hzero, hbound⟩ := h
    have hpos : 0 < lib.pipelineNodes.toNat :=
      Nat.pos_of_ne_zero fun h0 => hzero (UInt64.toNat_inj.mp h0)
    rw [UInt64.toNat_toUInt32, Nat.mod_eq_of_lt (by omega)]
    exact hpos

/-- The next node of a ring. -/
lemma toNat_next {i : UInt32} (hi : i < nodeCount) :
    ((i + 1) % nodeCount).toNat = if i.toNat + 1 = nodeCount.toNat then 0 else i.toNat + 1 := by
  have hlt := UInt32.lt_iff_toNat_lt.mp hi
  have hmax := nodeCount.toNat_lt
  rw [UInt32.toNat_mod, UInt32.toNat_add, UInt32.toNat_one,
    Nat.mod_eq_of_lt (show i.toNat + 1 < 2 ^ 32 by omega)]
  split
  · rename_i h
    rw [h, Nat.mod_self]
  · exact Nat.mod_eq_of_lt (by omega)

variable (lib) in
lemma published_terminal_iff {i : UInt32} (hi : i < nodeCount) :
    (publishedPlacement lib nodeCount i).terminal = true ↔ i.toNat + 1 = nodeCount.toNat := by
  have hlt := UInt32.lt_iff_toNat_lt.mp hi
  have hmax := nodeCount.toNat_lt
  rw [publishedPlacement, beq_iff_eq, ← UInt32.toNat_inj, UInt32.toNat_add, UInt32.toNat_one,
    Nat.mod_eq_of_lt (show i.toNat + 1 < 2 ^ 32 by omega)]

variable (lib) in
/-- The reader's formula is the writer's on a ring of two nodes or more. -/
lemma read_terminal_eq {i : UInt32} (hi : i < nodeCount) (htwo : 2 ≤ nodeCount.toNat) :
    decide ((i + 1) % nodeCount < i) = (publishedPlacement lib nodeCount i).terminal := by
  rw [Bool.eq_iff_iff, published_terminal_iff lib hi, decide_eq_true_eq, UInt32.lt_iff_toNat_lt,
    toNat_next hi]
  split <;> omega

variable (lib) in
/-- The range flow's formula is the writer's on every ring. -/
lemma flow_terminal_eq {i : UInt32} (hi : i < nodeCount) :
    ((i + 1) % nodeCount == i || (i + 1) % nodeCount == 0) =
      (publishedPlacement lib nodeCount i).terminal := by
  have hlt := UInt32.lt_iff_toNat_lt.mp hi
  rw [Bool.eq_iff_iff, published_terminal_iff lib hi, Bool.or_eq_true, beq_iff_eq, beq_iff_eq,
    ← UInt32.toNat_inj, ← UInt32.toNat_inj, toNat_next hi, UInt32.toNat_zero]
  split <;> omega

/-! ## The round trip -/

/-- The library splits the layers over a ring: every node has a range with a layer in it, and the node
behind it is the next. -/
def Qwen3Library.IsRing (lib : Qwen3Library) : Prop :=
  ∀ i, i < qwen3RangeNodes lib → ∃ start stop,
    lib.layerRangeForNode i (qwen3RangeNodes lib) =
      some (start, stop, (i + 1) % qwen3RangeNodes lib) ∧ start < stop

/-- What is read from the service for each node is what is published for it, the flow of that node has
the same placement, and the predecessor of a node is the one before it, of the first node none. -/
def PlacementsReadBack (lib : Qwen3Library) (svc : Service) : Prop :=
  ∀ i, i < qwen3RangeNodes lib →
    readLayerRangePlacement lib svc i = some (publishedPlacement lib (qwen3RangeNodes lib) i) ∧
    (∀ request, qwen3InitObmmRangeFlowRequest lib i (qwen3RangeNodes lib) = some request →
      request.localPlacement = publishedPlacement lib (qwen3RangeNodes lib) i) ∧
    findLayerRangePredecessor lib svc i =
      if i = 0 then none else some (publishedPlacement lib (qwen3RangeNodes lib) (i - 1))

/-- The nodes have keys of their own, cut to the key field as they are. -/
def Qwen3Library.KeysDiffer (lib : Qwen3Library) : Prop :=
  ∀ i j, i < qwen3RangeNodes lib → j < qwen3RangeNodes lib →
    qwen3PlacementKey lib i = qwen3PlacementKey lib j → i = j

lemma nodeRange_of_ring (hring : lib.IsRing) {i : UInt32} (hi : i < qwen3RangeNodes lib) :
    (qwen3NodeRange lib i (qwen3RangeNodes lib)).1 <
      (qwen3NodeRange lib i (qwen3RangeNodes lib)).2 := by
  obtain ⟨start, stop, hrange, hlt⟩ := hring i hi
  simpa [qwen3NodeRange, qwen3LayerRangeForNode, hrange] using hlt

/-- A record that was written for a placement reads as that placement, if the reader's formula for
the last node gives what was written. -/
lemma read_published {svc : Service} {i : UInt32}
    (hrange : (qwen3NodeRange lib i nodeCount).1 < (qwen3NodeRange lib i nodeCount).2)
    (hfound : svc.findRecord (qwen3PlacementKey lib i) =
      some (layerRangeRecord lib (publishedPlacement lib nodeCount i)))
    (hterminal : decide ((i + 1) % nodeCount < i) =
      (publishedPlacement lib nodeCount i).terminal) :
    readLayerRangePlacement lib svc i = some (publishedPlacement lib nodeCount i) := by
  have hle := UInt32.le_of_lt hrange
  have hlen : ((qwen3NodeRange lib i nodeCount).2 - (qwen3NodeRange lib i nodeCount).1).toUInt64 =
      (qwen3NodeRange lib i nodeCount).2.toUInt64 - (qwen3NodeRange lib i nodeCount).1.toUInt64 := by
    rw [← UInt64.toNat_inj, UInt32.toNat_toUInt64, UInt32.toNat_sub_of_le _ _ hle,
      UInt64.toNat_sub_of_le, UInt32.toNat_toUInt64, UInt32.toNat_toUInt64]
    simpa [UInt64.le_iff_toNat_le, UInt32.le_iff_toNat_le] using hle
  have hpassed : ¬((layerRangeRecord lib (publishedPlacement lib nodeCount i)).kind ≠
      RecordKind.layerRangePlacement ∨
      (layerRangeRecord lib (publishedPlacement lib nodeCount i)).hotSegmentId ≥
        (layerRangeRecord lib (publishedPlacement lib nodeCount i)).lastResultSegment ∨
      (layerRangeRecord lib (publishedPlacement lib nodeCount i)).objectBackingLen ≠
        (layerRangeRecord lib (publishedPlacement lib nodeCount i)).lastResultSegment -
          (layerRangeRecord lib (publishedPlacement lib nodeCount i)).hotSegmentId) := by
    simp only [layerRangeRecord, publishedPlacement, ne_eq, not_true_eq_false, false_or, not_or,
      not_not, ge_iff_le, UInt64.not_le]
    exact ⟨by simpa [UInt64.lt_iff_toNat_lt, UInt32.lt_iff_toNat_lt] using hrange, hlen⟩
  have hplacement : (publishedPlacement lib nodeCount i).terminal =
      decide ((i + 1) % nodeCount < i) := hterminal.symm
  unfold readLayerRangePlacement
  rw [hfound]
  simp only [if_neg hpassed]
  simp only [layerRangeRecord, publishedPlacement, UInt32.toUInt32_toUInt64] at hplacement ⊢
  rw [hplacement]
  exact if_pos rfl

/-- What is read has the reader's formula for the last node. -/
lemma terminal_of_read {svc : Service} {i : UInt32} {p : LayerRangePlacement}
    (h : readLayerRangePlacement lib svc i = some p) :
    p.terminal = decide (p.nextOwnerNode < p.ownerNode) := by
  unfold readLayerRangePlacement at h
  split at h
  · cases h
  · split at h
    · cases h
    · simp only at h
      split at h
      · cases h
        rfl
      · cases h

/-- The flow's placement of a node. -/
lemma localPlacement_of_init (hring : lib.IsRing) {i : UInt32} (hi : i < qwen3RangeNodes lib)
    {request : RangeFlowRequest}
    (h : qwen3InitObmmRangeFlowRequest lib i (qwen3RangeNodes lib) = some request) :
    request.localPlacement = publishedPlacement lib (qwen3RangeNodes lib) i := by
  obtain ⟨start, stop, hrange, hlt⟩ := hring i hi
  have hfor : qwen3LayerRangeForNode lib i (qwen3RangeNodes lib) =
      some (start, stop, (i + 1) % qwen3RangeNodes lib) := by
    simp [qwen3LayerRangeForNode, hrange]
  have hnode : qwen3NodeRange lib i (qwen3RangeNodes lib) = (start, stop) := by
    simp [qwen3NodeRange, hfor]
  obtain ⟨placement, hcopy, hlocal⟩ : ∃ placement,
      copyLayerRange i start stop ((i + 1) % qwen3RangeNodes lib) (qwen3RangeNodes lib) =
        some placement ∧ request.localPlacement = placement := by
    simp only [qwen3InitObmmRangeFlowRequest, hfor, Option.bind_eq_bind, Option.bind_some,
      initObmmRangeFlowRequest] at h
    split at h
    · cases h
    obtain ⟨remote, -, h⟩ := Option.bind_eq_some_iff.mp h
    split at h
    · cases h
    obtain ⟨placement, hcopy, h⟩ := Option.bind_eq_some_iff.mp h
    obtain ⟨next, -, h⟩ := Option.bind_eq_some_iff.mp h
    split at h
    · cases h
    · cases h
      exact ⟨placement, hcopy, rfl⟩
  rw [hlocal]
  unfold copyLayerRange at hcopy
  split at hcopy
  · cases hcopy
  · cases hcopy
    rw [publishedPlacement, hnode, LayerRangePlacement.mk.injEq]
    exact ⟨rfl, rfl, rfl, rfl, rfl, flow_terminal_eq lib hi⟩

/-- The search stops at the first candidate, and all before it are read. -/
lemma predecessorAmong_eq {svc : Service} {ownerNode : UInt32} {is : List UInt32}
    (hread : ∀ i ∈ is, readLayerRangePlacement lib svc i =
      some (publishedPlacement lib nodeCount i)) :
    predecessorAmong lib svc ownerNode is =
      (is.find? fun i => !(publishedPlacement lib nodeCount i).terminal &&
        (publishedPlacement lib nodeCount i).nextOwnerNode == ownerNode).map
          (publishedPlacement lib nodeCount) := by
  induction is with
  | nil => rfl
  | cons i is ih =>
      unfold predecessorAmong
      rw [hread i List.mem_cons_self]
      simp only [List.find?_cons]
      cases !(publishedPlacement lib nodeCount i).terminal &&
          (publishedPlacement lib nodeCount i).nextOwnerNode == ownerNode with
      | true => rfl
      | false => exact ih fun j hj => hread j (List.mem_cons_of_mem _ hj)

/-- A candidate is the node before the owner. -/
lemma candidate_iff {i k : UInt32} (hi : i < nodeCount) :
    (!(publishedPlacement lib nodeCount i).terminal &&
      (publishedPlacement lib nodeCount i).nextOwnerNode == k) = true ↔
      i.toNat + 1 < nodeCount.toNat ∧ k.toNat = i.toNat + 1 := by
  have hlt := UInt32.lt_iff_toNat_lt.mp hi
  have hterminal := published_terminal_iff lib hi
  rw [Bool.and_eq_true, Bool.not_eq_true', beq_iff_eq, ← Bool.not_eq_true, hterminal,
    publishedPlacement, ← UInt32.toNat_inj, toNat_next hi]
  constructor
  · rintro ⟨hlast, hnext⟩
    rw [if_neg hlast] at hnext
    exact ⟨by omega, hnext.symm⟩
  · rintro ⟨hlast, hnext⟩
    rw [if_neg (by omega)]
    exact ⟨by omega, hnext.symm⟩

lemma findPredecessor_published {svc : Service}
    (hread : ∀ i, i < qwen3RangeNodes lib → readLayerRangePlacement lib svc i =
      some (publishedPlacement lib (qwen3RangeNodes lib) i)) {k : UInt32}
    (hk : k < qwen3RangeNodes lib) :
    findLayerRangePredecessor lib svc k =
      if k = 0 then none else some (publishedPlacement lib (qwen3RangeNodes lib) (k - 1)) := by
  have hklt := UInt32.lt_iff_toNat_lt.mp hk
  rw [findLayerRangePredecessor, predecessorAmong_eq fun i hi => hread i (mem_nodesBelow.mp hi)]
  split
  · rename_i hzero
    rw [Option.map_eq_none_iff, List.find?_eq_none]
    intro i hi hcandidate
    obtain ⟨-, hnext⟩ := (candidate_iff (mem_nodesBelow.mp hi)).mp hcandidate
    rw [hzero, UInt32.toNat_zero] at hnext
    omega
  · rename_i hzero
    have hpos : 0 < k.toNat := Nat.pos_of_ne_zero fun h => hzero (UInt32.toNat_inj.mp h)
    have hbefore : (k - 1).toNat = k.toNat - 1 :=
      UInt32.toNat_sub_of_le _ _ (UInt32.le_iff_toNat_le.mpr hpos)
    have hin : k - 1 < qwen3RangeNodes lib := UInt32.lt_iff_toNat_lt.mpr (by omega)
    cases hfind : (nodesBelow (qwen3RangeNodes lib)).find? fun i =>
        !(publishedPlacement lib (qwen3RangeNodes lib) i).terminal &&
          (publishedPlacement lib (qwen3RangeNodes lib) i).nextOwnerNode == k with
    | none =>
        have hno := List.find?_eq_none.mp hfind (k - 1) (mem_nodesBelow.mpr hin)
        exact absurd ((candidate_iff hin).mpr ⟨by omega, by omega⟩) hno
    | some i =>
        have hi := mem_nodesBelow.mp (List.mem_of_find?_eq_some hfind)
        have hpass := List.find?_some hfind
        obtain ⟨-, hnext⟩ := (candidate_iff hi).mp hpass
        have hik : i = k - 1 := UInt32.toNat_inj.mp (by omega)
        rw [hik, Option.map_some]

end Published

/-- **Placements are read back.**  After a publication that succeeds, every node's placement is read
back as it was published and the predecessors are found, exactly if the ring has two nodes or more and
their keys, cut to the key field, differ. -/
theorem placements_readBack_iff {lib : Qwen3Library} (hring : lib.IsRing) {svc svc' : Service}
    (hpublish : publishLayerRangePlacements lib svc (qwen3RangeNodes lib) = (svc', true)) :
    PlacementsReadBack lib svc' ↔ 2 ≤ (qwen3RangeNodes lib).toNat ∧ lib.KeysDiffer := by
  constructor
  · intro hback
    constructor
    · -- the one node of a ring of one is the last, and not below itself
      by_contra hone
      have hpos := rangeNodes_pos lib
      have hzero : (0 : UInt32) < qwen3RangeNodes lib := UInt32.lt_iff_toNat_lt.mpr hpos
      have hterminal := terminal_of_read (hback 0 hzero).1
      have hlast := (published_terminal_iff lib hzero).mpr
        (by rw [UInt32.toNat_zero]; omega)
      rw [hlast] at hterminal
      have hlt := of_decide_eq_true hterminal.symm
      exact absurd (UInt32.lt_iff_toNat_lt.mp hlt) (by simp [publishedPlacement])
    · -- what is read under one key has one owner
      intro i j hi hj hkey
      have hri := (hback i hi).1
      have hrj := (hback j hj).1
      unfold readLayerRangePlacement at hri hrj
      rw [hkey] at hri
      have hsame := Option.some.inj (hri.symm.trans hrj)
      exact congrArg LayerRangePlacement.ownerNode hsame
  · rintro ⟨htwo, hkeys⟩
    have hpublish' : publishEach lib (qwen3RangeNodes lib) (nodesBelow (qwen3RangeNodes lib)) svc =
        (svc', true) := by
      simpa [publishLayerRangePlacements] using hpublish
    have hnodup : ((nodesBelow (qwen3RangeNodes lib)).map (qwen3PlacementKey lib)).Nodup :=
      List.Nodup.map_on (fun i hi j hj => hkeys i j (mem_nodesBelow.mp hi) (mem_nodesBelow.mp hj))
        nodup_nodesBelow
    have hfound := (findRecord_publishEach hpublish' hnodup).1
    have hread : ∀ i, i < qwen3RangeNodes lib → readLayerRangePlacement lib svc' i =
        some (publishedPlacement lib (qwen3RangeNodes lib) i) := fun i hi =>
      read_published (nodeRange_of_ring hring hi) (hfound i (mem_nodesBelow.mpr hi))
        (read_terminal_eq lib hi htwo)
    exact fun i hi => ⟨hread i hi, fun _ h => localPlacement_of_init hring hi h,
      findPredecessor_published hread hi⟩

/-- A model key of at most 58 bytes leaves room for every node's number. -/
lemma keysDiffer_of_short {lib : Qwen3Library} (h : lib.modelKey.length ≤ 58) : lib.KeysDiffer := by
  have hwhole : ∀ i, qwen3PlacementKey lib i = qwen3PlacementKeyText lib i := by
    intro i
    have hdigits : (decimal (i + 1).toNat).length ≤ 10 :=
      length_decimal_le (by norm_num) ((i + 1).toNat_lt.trans (by norm_num))
    refine List.take_of_length_le ?_
    simp only [qwen3PlacementKeyText, List.length_append]
    have hhead : (ascii "placement/").length = 10 := by decide
    have htail : (ascii "/layer-range/node").length = 17 := by decide
    omega
  intro i j hi hj hkey
  rw [hwhole, hwhole] at hkey
  have hnumber := decimal_injective (List.append_cancel_left hkey)
  have hlast := (qwen3RangeNodes lib).toNat_lt
  rw [UInt32.lt_iff_toNat_lt] at hi hj
  rw [UInt32.toNat_add, UInt32.toNat_add, UInt32.toNat_one, Nat.mod_eq_of_lt (by omega),
    Nat.mod_eq_of_lt (by omega)] at hnumber
  exact UInt32.toNat_inj.mp (by omega)

/-- A library for one node with the layers 0 and 1, or for two, of which the second has 2 and 3. -/
def ringOf (nodes : UInt64) : Qwen3Library where
  modelKey := ascii "m"
  modelKey_plain := by decide
  totalLayers := 4
  pipelineNodes := nodes
  hiddenRangeBytes := 64
  rangeKvStateBytes := fun _ _ => 0
  layerRangeForNode := fun i n =>
    if i = 0 then some (0, 2, (i + 1) % n) else some (2, 4, (i + 1) % n)

lemma isRing_ringOf (nodes : UInt64) : (ringOf nodes).IsRing := by
  intro i _
  by_cases hi : i = 0
  · exact ⟨0, 2, if_pos hi, by decide⟩
  · exact ⟨2, 4, if_neg hi, by decide⟩

lemma rangeNodes_ringOf_one : qwen3RangeNodes (ringOf 1) = 1 := by decide +kernel

lemma rangeNodes_ringOf_two : qwen3RangeNodes (ringOf 2) = 2 := by decide +kernel

theorem placements_readBack_two :
    PlacementsReadBack (ringOf 2) (publishLayerRangePlacements (ringOf 2) Service.fresh 2).1 ∧
      (qwen3InitObmmRangeFlowRequest (ringOf 2) 1 2).isSome = true := by
  have hdone : (publishLayerRangePlacements (ringOf 2) Service.fresh 2).2 = true := by
    decide +kernel
  have hpublish : publishLayerRangePlacements (ringOf 2) Service.fresh (qwen3RangeNodes (ringOf 2)) =
      ((publishLayerRangePlacements (ringOf 2) Service.fresh 2).1, true) := by
    rw [rangeNodes_ringOf_two, ← hdone]
  refine ⟨(placements_readBack_iff (isRing_ringOf 2) hpublish).mpr ⟨?_, ?_⟩, by decide +kernel⟩
  · rw [rangeNodes_ringOf_two]
    decide
  · exact keysDiffer_of_short (by decide)

/-- A ring of one node: its placement is published, and cannot be read. -/
theorem single_placement_unread :
    (ringOf 1).IsRing ∧ qwen3RangeNodes (ringOf 1) = 1 ∧
      (publishLayerRangePlacements (ringOf 1) Service.fresh 1).2 = true ∧
      readLayerRangePlacement (ringOf 1)
        (publishLayerRangePlacements (ringOf 1) Service.fresh 1).1 0 = none :=
  ⟨isRing_ringOf 1, rangeNodes_ringOf_one, by decide +kernel, by decide +kernel⟩

end MemService
