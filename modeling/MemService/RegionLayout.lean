import MemService.Handlers
import MemService.Lib.BigEndian
import MemService.Lib.ByteRegion
import MemService.Lib.Run

/-!
# The payload region of a node

Every node of a cluster has a region of memory that its peers read.  Four things are published in it: the
record table, in one piece at the start of the region; a weight tile and a block of the key-value cache,
at fixed offsets; a marker for each decode round, in one of 1024 slots; and objects in the dynamic arena,
which a bump allocator hands out from 2 MiB on.

The layout is a matter of constants.  Weight tile, cache block and markers have areas of their own, and
the arena is behind all of them.  But the record table is not: with 1024 records of 1232 bytes it covers
the first 1.2 MiB of the region, and the areas of weight tile, cache block and markers lie inside it.
`mem_service_write_cluster_payload` writes the whole table whatever the number of records, so it clears
them, and publishing one of them writes into the table.

`published_intact` says that this is the only way in which one publication damages another.
-/

open ByteText CNumeral BigEndian

namespace MemService

/-! ## Sizes -/

/-- The size of a C struct whose members have the given sizes and alignments. -/
def structSize (members : List (ℕ × ℕ)) : ℕ :=
  let roundUp (n align : ℕ) := (n + align - 1) / align * align
  roundUp (members.foldl (fun n m => roundUp n m.2 + m.1) 0) ((members.map Prod.snd).foldl max 1)

/-- The members of `struct mem_service_record`, in order. -/
def recordMembers : List (ℕ × ℕ) :=
  [(1, 1), (4, 4), (96, 1), (64, 1), (64, 1), (64, 1), (96, 1), (64, 1), (64, 1), (64, 1), (96, 1),
    (4, 4), (4, 4), (8, 8), (4, 4), (8, 8), (8, 8), (4, 4), (4, 4), (8, 8), (8, 8), (8, 8), (4, 4),
    (4, 4), (4, 4), (4, 4), (8, 8), (8, 8), (8, 8), (8, 8), (8, 8), (8, 8), (8, 8), (8, 8), (8, 8),
    (4, 4), (4 * 96, 1)]

/-- `sizeof(struct mem_service_record)`. -/
def recordSize : ℕ := 1232

lemma structSize_recordMembers : structSize recordMembers = recordSize := by decide +kernel

/-- `MEM_SERVICE_CLUSTER_MAX_RECORDS`. -/
def clusterMaxRecords : ℕ := 1024
/-- `sizeof(struct mem_service_cluster_payload)`: header, pad and records. -/
def clusterPayloadSize : ℕ := 64 + clusterMaxRecords * recordSize
/-- `MEM_SERVICE_OBMM_SERVICE_OBJECT_BYTES`. -/
def obmmServiceObjectBytes : ℕ := 8192
/-- `MEM_SERVICE_OBMM_WEIGHT_OFFSET`. -/
def obmmWeightOffset : ℕ := 0x10000
/-- `MEM_SERVICE_OBMM_KVCACHE_OFFSET`. -/
def obmmKvcacheOffset : ℕ := 0x14000
/-- `MEM_SERVICE_OBMM_ROUND_DONE_OFFSET`. -/
def obmmRoundDoneOffset : ℕ := 0xda000
/-- `MEM_SERVICE_OBMM_ROUND_DONE_SLOTS`. -/
def obmmRoundDoneSlots : ℕ := 1024
/-- `MEM_SERVICE_OBMM_ROUND_DONE_BYTES`. -/
def obmmRoundDoneBytes : ℕ := 64
/-- `MEM_SERVICE_OBMM_DYNAMIC_ARENA_OFFSET`. -/
def obmmDynamicArenaOffset : UInt64 := 0x200000
/-- `MEM_SERVICE_OBMM_KIND_WEIGHT_TILE`. -/
def obmmKindWeightTile : UInt32 := 1
/-- `MEM_SERVICE_OBMM_KIND_KVCACHE_BLOCK`. -/
def obmmKindKvcacheBlock : UInt32 := 2

/-- A word in memory, least significant byte first. -/
def wordLE (width n : ℕ) : Bytes := (bytes width n).reverse

@[simp] lemma length_wordLE (width n : ℕ) : (wordLE width n).length = width := by
  simp [wordLE]

/-! ## The node -/

/-- One node's runtime, `struct mem_service_cluster_runtime` with its own slot, and its service.  The
region is what `region.addr` points to; no mapping is longer than half the address space. -/
structure ClusterNode where
  nodeCount : ℕ
  localIdx : ℕ
  active : Bool
  regionBytes : ℕ → UInt8
  regionLen : ℕ
  regionLen_lt : regionLen < 2 ^ 63
  publishSeq : UInt32
  observeEpoch : UInt16
  arenaBase : UInt64
  arenaNext : UInt64
  arenaHighWater : UInt64
  svc : Service

/-- `mem_service_cluster_runtime_require`. -/
def ClusterNode.ready (node : ClusterNode) : Bool :=
  node.active && node.nodeCount > 0 && node.localIdx < node.nodeCount

/-! ## The record table -/

/-- `struct mem_service_cluster_payload_compact_summary`. -/
structure CompactSummary where
  recordCount : UInt16 := 0
  prefixCount : UInt16 := 0
  blockCount : UInt16 := 0
  groupCount : UInt16 := 0
  weightTileCount : UInt16 := 0
  kvcacheObjectCount : UInt16 := 0
  flags : UInt16 := 0
  hiddenRangeCount : UInt16 := 0
  blockVersionFloor : UInt64 := 0
  blockResultFloor : UInt64 := 0
  prefixVersionFloor : UInt64 := 0
  prefixResultFloor : UInt64 := 0

/-- `MEM_SERVICE_COMPACT_PREFIX_STATE_READY`. -/
def compactPrefixStateReady : UInt16 := 1
/-- `MEM_SERVICE_COMPACT_PREFIX_VIEW_READY`. -/
def compactPrefixViewReady : UInt16 := 2

/-- The lower of a floor and a value, where 0 is no floor yet. -/
def lowerFloor (floor value : UInt64) : UInt64 := if floor = 0 || value < floor then value else floor

/-- One round of the loop of `mem_service_build_compact_summary`. -/
def CompactSummary.add (s : CompactSummary) (rec : Record) : CompactSummary :=
  if rec.kind = RecordKind.requestPrefix then
    let stateFlags := if rec.state ≠ KvcacheState.reloaded then
      s.flags &&& ~~~compactPrefixStateReady else s.flags
    { s with
      prefixCount := s.prefixCount + 1
      prefixVersionFloor := lowerFloor s.prefixVersionFloor rec.version
      prefixResultFloor := lowerFloor s.prefixResultFloor rec.lastResultSegment
      flags := if rec.hotSegmentId = 0 || rec.lastResultSegment = 0 then
        stateFlags &&& ~~~compactPrefixViewReady else stateFlags }
  else if rec.kind = RecordKind.prefixGroup then { s with groupCount := s.groupCount + 1 }
  else if rec.kind = RecordKind.blockMeta then
    { s with
      blockCount := s.blockCount + 1
      blockVersionFloor := lowerFloor s.blockVersionFloor rec.version
      blockResultFloor := lowerFloor s.blockResultFloor rec.lastResultSegment }
  else if rec.kind = RecordKind.weightTile then { s with weightTileCount := s.weightTileCount + 1 }
  else if rec.kind = RecordKind.kvcacheObject then
    { s with kvcacheObjectCount := s.kvcacheObjectCount + 1 }
  else if rec.kind = RecordKind.hiddenRangeInput || rec.kind = RecordKind.hiddenRangeOutput ||
      rec.kind = RecordKind.layerRangePlacement then
    { s with hiddenRangeCount := s.hiddenRangeCount + 1 }
  else if rec.kind = RecordKind.runtimeHandoff || rec.kind = RecordKind.executionArtifact ||
      rec.kind = RecordKind.trainingArtifact then s
  else
    { s with flags := s.flags &&& ~~~(compactPrefixStateReady ||| compactPrefixViewReady) }

/-- `mem_service_build_compact_summary`, for records in use. -/
def buildCompactSummary (records : List Record) : CompactSummary :=
  records.foldl CompactSummary.add
    { recordCount := UInt16.ofNat records.length
      flags := compactPrefixStateReady ||| compactPrefixViewReady }

/-- The summary in memory. -/
def CompactSummary.image (s : CompactSummary) : Bytes :=
  wordLE 2 s.recordCount.toNat ++ wordLE 2 s.prefixCount.toNat ++ wordLE 2 s.blockCount.toNat ++
    wordLE 2 s.groupCount.toNat ++ wordLE 2 s.weightTileCount.toNat ++
    wordLE 2 s.kvcacheObjectCount.toNat ++ wordLE 2 s.flags.toNat ++
    wordLE 2 s.hiddenRangeCount.toNat ++ wordLE 8 s.blockVersionFloor.toNat ++
    wordLE 8 s.blockResultFloor.toNat ++ wordLE 8 s.prefixVersionFloor.toNat ++
    wordLE 8 s.prefixResultFloor.toNat

lemma CompactSummary.length_image (s : CompactSummary) : s.image.length = 48 := by
  simp [CompactSummary.image]

section Table

-- how the compiler lays a record out
variable (image : Record → Vector UInt8 recordSize)

/-- `mem_service_snapshot_metadata_records`. -/
def snapshotMetadataRecords (svc : Service) : List Record := svc.records.entries.take clusterMaxRecords

/-- The table as `mem_service_write_cluster_payload` leaves it in the region. -/
def clusterPayload (svc : Service) (seq : UInt32) : Bytes :=
  let records := snapshotMetadataRecords svc
  wordLE 4 0x57344450 ++ wordLE 2 1 ++ wordLE 2 records.length ++ wordLE 4 seq.toNat ++
    wordLE 4 seq.toNat ++ (buildCompactSummary records).image ++
    (records.map fun r => (image r).toList).flatten ++
    List.replicate ((clusterMaxRecords - records.length) * recordSize) 0

/-- `mem_service_write_cluster_payload`: the table covers the start of the region, whatever the region's
length. -/
def writeClusterPayload (node : ClusterNode) : ClusterNode :=
  let next := node.publishSeq + 1
  let seq := if next = 0 then next + 1 else next
  { node with
    publishSeq := seq
    regionBytes := ByteRegion.write node.regionBytes 0 (clusterPayload image node.svc seq) }

lemma length_clusterPayload (svc : Service) (seq : UInt32) :
    (clusterPayload image svc seq).length = clusterPayloadSize := by
  have hle : (snapshotMetadataRecords svc).length ≤ clusterMaxRecords := List.length_take_le _ _
  have hrecords : ((snapshotMetadataRecords svc).map fun r => (image r).toList).flatten.length =
      (snapshotMetadataRecords svc).length * recordSize := by
    rw [List.length_flatten, List.map_map,
      show (List.length ∘ fun r => (image r).toList) = fun _ => recordSize from by
        funext r
        simp]
    simp
  simp only [clusterPayload, List.length_append, length_wordLE, CompactSummary.length_image, hrecords,
    List.length_replicate]
  have hsum : (snapshotMetadataRecords svc).length * recordSize +
      (clusterMaxRecords - (snapshotMetadataRecords svc).length) * recordSize =
      clusterMaxRecords * recordSize := by
    rw [← Nat.add_mul]
    congr 1
    omega
  unfold clusterPayloadSize
  omega

/-- Behind its records the table is zeros, up to the room for 1024 of them. -/
lemma clusterPayload_free (svc : Service) (seq : UInt32) {i : ℕ}
    (hrecords : 64 + (snapshotMetadataRecords svc).length * recordSize ≤ i)
    (hi : i < clusterPayloadSize) :
    (clusterPayload image svc seq)[i]? = some 0 := by
  have hlen := length_clusterPayload image svc seq
  unfold clusterPayload at hlen ⊢
  dsimp only at hlen ⊢
  rw [List.length_append, List.length_replicate] at hlen
  rw [List.getElem?_append_right, List.getElem?_replicate, if_pos]
  all_goals
    have hle : (snapshotMetadataRecords svc).length ≤ clusterMaxRecords := List.length_take_le _ _
    have hsum : (snapshotMetadataRecords svc).length * recordSize +
        (clusterMaxRecords - (snapshotMetadataRecords svc).length) * recordSize =
        clusterMaxRecords * recordSize := by
      rw [← Nat.add_mul, Nat.add_sub_cancel' hle]
    unfold clusterPayloadSize at hlen hi
    omega

end Table

/-! ## Objects -/

/-- Bytes laid over a list. -/
def patch (bs : Bytes) (off : ℕ) (text : Bytes) : Bytes :=
  bs.take off ++ text ++ bs.drop (off + text.length)

/-- The bytes that `mem_service_fill_obmm_object_payload` writes. -/
def objectPattern (len : ℕ) (ownerNode payloadKind : UInt32) : Bytes :=
  let plain := (List.range len).map fun i =>
    UInt8.ofNat (i * 17 + (ownerNode + 1).toNat * 29 + payloadKind.toNat * 53)
  if len ≥ 4104 then
    patch (patch (patch (patch (patch plain 0 (ascii "MSOBMM00")) 248 (ascii "MSOBMM248"))
      256 (ascii "MSOBMM256")) 4088 (ascii "MSOBMM4088")) 4096 (ascii "MSOBMM4096")
  else plain

/-- The two checksums of published objects: `mem_service_checksum_bytes` and
`mem_service_model_payload_checksum`. -/
inductive PayloadSum
  | plain
  | model
  deriving DecidableEq

/-- `mem_service_model_payload_checksum`. -/
def modelPayloadChecksum (s : Bytes) : UInt64 :=
  (s.foldl (fun (acc : UInt64 × UInt64) b =>
    ((acc.1 ^^^ (b.toUInt64 ||| (acc.2 <<< 8))) * 0x00000100000001b3, acc.2 + 1))
    (0xcbf29ce484222325, 0)).1

def PayloadSum.of : PayloadSum → Bytes → UInt64
  | .plain => checksumBytes
  | .model => modelPayloadChecksum

/-- `obmm_align_up_u64`. -/
def alignUp (v align : UInt64) : UInt64 := (v + align - 1) &&& ~~~(align - 1)

/-- The alignments that allocations ask for: 64 bytes, or the block size of a key-value state. -/
inductive ArenaAlign
  | cacheLine
  | tier0
  | tier1
  | tier2
  | tier3
  deriving DecidableEq

def ArenaAlign.bytes : ArenaAlign → UInt64
  | .cacheLine => 64
  | .tier0 => 0x40000
  | .tier1 => 0x80000
  | .tier2 => 0x100000
  | .tier3 => 0x200000

/-- `mem_service_payload_arena_alloc`, with the node it leaves behind. -/
def payloadArenaAlloc (node : ClusterNode) (bytes align : UInt64) : ClusterNode × Option UInt64 :=
  if node.localIdx ≥ node.nodeCount || bytes == 0 then (node, none)
  else
    let align := if align = 0 then 64 else align
    let node :=
      if node.arenaBase = 0 then
        let base := alignUp obmmDynamicArenaOffset align
        { node with arenaBase := base, arenaNext := base, arenaHighWater := base }
      else node
    let offset := alignUp node.arenaNext align
    let stop := offset + bytes
    if stop < offset || stop.toNat > node.regionLen then (node, none)
    else
      ({ node with
         arenaNext := stop
         arenaHighWater := if stop > node.arenaHighWater then stop else node.arenaHighWater },
        some offset)

/-- What a publication says about its object's record. -/
structure ObjectRecord where
  recordKind : RecordKind
  key : Bytes
  payloadKind : UInt32
  -- the slot that the recycler of the request gives up in a full table
  recycle : Service → Bytes → Option ℕ

/-- `mem_service_put_obmm_object_record`: the service and the record. -/
def putObmmObjectRecord (svc : Service) (object : ObjectRecord) (ownerNode : UInt32)
    (offset len checksum : UInt64) : Option (Service × Record) :=
  if len = 0 then none
  else
    let version := match svc.findRecord object.key with
      | some rec => if rec.version ≠ UInt64.ofNat (2 ^ 64 - 1) then rec.version + 1 else 1
      | none => 1
    let record : Record :=
      { kind := object.recordKind
        key := .copy object.key
        placementNode := ownerNode
        placementLevel := 2
        hotSegmentId := offset
        state := KvcacheState.hot
        version := version
        lastResultSegment := offset + len
        objectOwnerNode := ownerNode
        objectPayloadKind := object.payloadKind
        objectBackingOffset := offset
        objectBackingLen := len
        objectPayloadChecksum := checksum }
    match svc.records.findIdx? fun b => decide (b.keyBytes = object.key) with
    | some i => some ({ svc with records := svc.records.put i record }, record)
    | none =>
        match svc.records.firstFree? with
        | some i =>
            some ({ svc with
                records := svc.records.put i record
                recordCount := svc.recordCount + 1 }, record)
        | none => (object.recycle svc object.key).map fun i =>
            ({ svc with records := svc.records.put i record }, record)

/-- The end of a publication: the written range is flushed, and the object gets its record. -/
def putPublished (node : ClusterNode) (object : ObjectRecord) (offset len checksum : UInt64)
    (synced : Bool) : ClusterNode × Option Record :=
  if !synced then (node, none)
  else
    match putObmmObjectRecord node.svc object (UInt32.ofNat node.localIdx) offset len checksum with
    | none => (node, none)
    | some (svc, record) => ({ node with svc := svc }, some record)

/-! ## Markers -/

/-- The slot of a decode round. -/
def roundDoneSlot (decodeStep roundScopeHash : UInt64) : Fin obmmRoundDoneSlots :=
  ⟨((decodeStep ^^^ (roundScopeHash * 11400714819323198485)) &&& 1023).toNat, by
    rw [UInt64.toNat_and]
    exact Nat.lt_of_le_of_lt Nat.and_le_right (by decide)⟩

/-- The marker of a decode round: eight words, the last of which is the checksum of the others. -/
def roundDoneMarker (node : ClusterNode) (localNode clusterNodeCount : UInt32)
    (decodeStep roundScopeHash : UInt64) : Bytes :=
  let words := wordLE 8 0x71336465636f6465 ++ wordLE 8 decodeStep.toNat ++ wordLE 8 localNode.toNat ++
    wordLE 8 clusterNodeCount.toNat ++ wordLE 8 node.publishSeq.toNat ++
    wordLE 8 node.observeEpoch.toNat ++ wordLE 8 roundScopeHash.toNat
  words ++ wordLE 8 (checksumBytes words).toNat

/-- What `mem_service_publish_decode_round_done` checks before it writes. -/
def roundDoneAccepted (node : ClusterNode) (localNode clusterNodeCount : UInt32) : Bool :=
  !(clusterNodeCount == 0 || clusterNodeCount > 31 || localNode ≥ clusterNodeCount) &&
    node.ready && clusterNodeCount.toNat == node.nodeCount && localNode.toNat == node.localIdx &&
    node.regionLen ≥ obmmRoundDoneOffset + obmmRoundDoneSlots * obmmRoundDoneBytes

/-! ## Publications -/

/-- An object at a fixed offset: filled in, summed up, flushed and recorded. -/
def publishFixedObject (node : ClusterNode) (offset : ℕ) (object : ObjectRecord) (synced : Bool) :
    ClusterNode × Option Record :=
  let pattern := objectPattern obmmServiceObjectBytes (UInt32.ofNat node.localIdx) object.payloadKind
  let region := ByteRegion.write node.regionBytes offset pattern
  let checksum := checksumBytes (ByteRegion.read region offset obmmServiceObjectBytes)
  putPublished { node with regionBytes := region } object (UInt64.ofNat offset)
    (UInt64.ofNat obmmServiceObjectBytes) checksum synced

/-- What `mem_service_obmm_service_v0_publish_resolve` checks of the region before it writes. -/
def fixedObjectsAccepted (node : ClusterNode) (hiddenRangeBytes : UInt64) : Bool :=
  node.ready && hiddenRangeBytes != 0 && node.regionLen ≥ 0x98000 + hiddenRangeBytes.toNat

/-- The record of a node's weight tile, `weights/<model>/node<n>/tile0`. -/
def weightTileRecord (node : ClusterNode) (modelKey : Bytes)
    (recycle : Service → Bytes → Option ℕ) : ObjectRecord where
  recordKind := RecordKind.weightTile
  key := (ascii "weights/" ++ modelKey ++ ascii "/node" ++ decimal (node.localIdx + 1) ++
    ascii "/tile0").take 95
  payloadKind := obmmKindWeightTile
  recycle := recycle

/-- The record of a node's cache block, `kvcache/mem_service/node<n>/block0`. -/
def kvcacheBlockRecord (node : ClusterNode) (recycle : Service → Bytes → Option ℕ) :
    ObjectRecord where
  recordKind := RecordKind.kvcacheObject
  key := (ascii "kvcache/mem_service/node" ++ decimal (node.localIdx + 1) ++ ascii "/block0").take 95
  payloadKind := obmmKindKvcacheBlock
  recycle := recycle

/-- An object for the arena: the allocation asked for, and the payload, which fits it. -/
structure ArenaObject where
  object : ObjectRecord
  reserve : UInt64
  align : ArenaAlign
  payload : Bytes
  fits : payload.length ≤ reserve.toNat
  sum : PayloadSum
  synced : Bool

/-- An arena object copied to the offset it was given. -/
def publishArenaObject (node : ClusterNode) (o : ArenaObject) (offset : UInt64) :
    ClusterNode × Option Record :=
  let region := ByteRegion.write node.regionBytes offset.toNat o.payload
  putPublished { node with regionBytes := region } o.object offset (UInt64.ofNat o.payload.length)
    (o.sum.of o.payload) o.synced

/-- What `mem_service_model_range_publish_runtime_output` checks of a payload that is in the arena
already. -/
def inPlaceAccepted (node : ClusterNode) (offset len : UInt64) : Bool :=
  node.ready && !(offset < node.arenaBase || offset > node.arenaNext ||
    len > node.arenaNext - offset || offset.toNat > node.regionLen ||
    len.toNat > node.regionLen - offset.toNat)

/-- The publications of one node. -/
inductive PublishStep
  | clusterPayload
  | roundDone (localNode clusterNodeCount : UInt32) (decodeStep roundScopeHash : UInt64)
  | weightTile (modelKey : Bytes) (hiddenRangeBytes : UInt64)
      (recycle : Service → Bytes → Option ℕ) (synced : Bool)
  | kvcacheBlock (hiddenRangeBytes : UInt64) (recycle : Service → Bytes → Option ℕ) (synced : Bool)
  | arenaObject (o : ArenaObject)
  | inPlaceObject (object : ObjectRecord) (offset len : UInt64) (sum : PayloadSum) (synced : Bool)

/-- The places of the region that something is published at. -/
inductive Item
  | table
  | weightTile
  | kvcacheBlock
  | marker (slot : Fin obmmRoundDoneSlots)
  | arena (offset : ℕ)
  deriving DecidableEq

def Item.offset : Item → ℕ
  | .table => 0
  | .weightTile => obmmWeightOffset
  | .kvcacheBlock => obmmKvcacheOffset
  | .marker slot => obmmRoundDoneOffset + slot.val * obmmRoundDoneBytes
  | .arena offset => offset

/-- A node with the history of its publications, newest first: the bytes written at each place, and the
objects that got a record. -/
structure PublishState where
  node : ClusterNode
  items : List (Item × Bytes)
  objects : List (Record × PayloadSum)

namespace PublishState

/-- The state after a publication that has written at a place. -/
def publish (s : PublishState) (item : Item) (bytes : Bytes) (sum : PayloadSum)
    (result : ClusterNode × Option Record) : PublishState where
  node := result.1
  items := (item, bytes) :: s.items
  objects := (result.2.toList.map fun record => (record, sum)) ++ s.objects

variable (image : Record → Vector UInt8 recordSize)

/-- One publication. -/
def step (s : PublishState) : PublishStep → PublishState
  | .clusterPayload =>
      let node := writeClusterPayload image s.node
      s.publish .table (clusterPayload image s.node.svc node.publishSeq) .plain (node, none)
  | .roundDone localNode clusterNodeCount decodeStep roundScopeHash =>
      if !roundDoneAccepted s.node localNode clusterNodeCount then s
      else
        let slot := roundDoneSlot decodeStep roundScopeHash
        let marker := roundDoneMarker s.node localNode clusterNodeCount decodeStep roundScopeHash
        s.publish (.marker slot) marker .plain
          ({ s.node with
             regionBytes :=
               ByteRegion.write s.node.regionBytes (Item.offset (.marker slot)) marker }, none)
  | .weightTile modelKey hiddenRangeBytes recycle synced =>
      if !fixedObjectsAccepted s.node hiddenRangeBytes then s
      else
        s.publish .weightTile
          (objectPattern obmmServiceObjectBytes (UInt32.ofNat s.node.localIdx) obmmKindWeightTile)
          .plain
          (publishFixedObject s.node obmmWeightOffset (weightTileRecord s.node modelKey recycle) synced)
  | .kvcacheBlock hiddenRangeBytes recycle synced =>
      if !fixedObjectsAccepted s.node hiddenRangeBytes then s
      else
        s.publish .kvcacheBlock
          (objectPattern obmmServiceObjectBytes (UInt32.ofNat s.node.localIdx) obmmKindKvcacheBlock)
          .plain
          (publishFixedObject s.node obmmKvcacheOffset (kvcacheBlockRecord s.node recycle) synced)
  | .arenaObject o =>
      match payloadArenaAlloc s.node o.reserve o.align.bytes with
      | (node, none) => { s with node := node }
      | (node, some offset) =>
          s.publish (.arena offset.toNat) o.payload o.sum (publishArenaObject node o offset)
  | .inPlaceObject object offset len sum synced =>
      if !inPlaceAccepted s.node offset len then s
      else
        let payload := ByteRegion.read s.node.regionBytes offset.toNat len.toNat
        let result := putPublished s.node object offset len (sum.of payload) synced
        { s with
          node := result.1
          objects := (result.2.toList.map fun record => (record, sum)) ++ s.objects }

end PublishState

/-! ## Records and allocations -/

/-- A record that was put describes the published range; nothing but the service has changed. -/
lemma putPublished_spec (node : ClusterNode) (object : ObjectRecord) (offset len checksum : UInt64)
    (synced : Bool) :
    (∃ svc, (putPublished node object offset len checksum synced).1 = { node with svc := svc }) ∧
      ∀ record, (putPublished node object offset len checksum synced).2 = some record →
        len ≠ 0 ∧ record.objectBackingOffset = offset ∧ record.objectBackingLen = len ∧
          record.objectPayloadChecksum = checksum := by
  unfold putPublished
  split
  · exact ⟨⟨node.svc, rfl⟩, fun _ h => by cases h⟩
  · split
    · exact ⟨⟨node.svc, rfl⟩, fun _ h => by cases h⟩
    · rename_i svc record hput
      refine ⟨⟨svc, rfl⟩, fun r hr => ?_⟩
      cases hr
      unfold putObmmObjectRecord at hput
      split at hput
      · cases hput
      rename_i hlen
      dsimp only at hput
      split at hput
      · cases hput
        exact ⟨hlen, rfl, rfl, rfl⟩
      · split at hput
        · cases hput
          exact ⟨hlen, rfl, rfl, rfl⟩
        · obtain ⟨i, -, hi⟩ := Option.map_eq_some_iff.mp hput
          cases hi
          exact ⟨hlen, rfl, rfl, rfl⟩

/-- Rounding up does not go down, as long as it does not run over. -/
lemma le_alignUp {v align : UInt64} (halign : 0 < align.toNat)
    (hfits : v.toNat + align.toNat ≤ 2 ^ 64) : v.toNat ≤ (alignUp v align).toNat := by
  have hsplit (x m : UInt64) : (x &&& ~~~m).toNat + (x &&& m).toNat = x.toNat := by
    have hzero : (x.toBitVec &&& ~~~m.toBitVec) &&& (x.toBitVec &&& m.toBitVec) = 0#64 := by
      ext i hi
      cases hm : m.toBitVec[i] <;> simp [hm]
    have hor : (x.toBitVec &&& ~~~m.toBitVec) ||| (x.toBitVec &&& m.toBitVec) = x.toBitVec := by
      ext i hi
      cases hm : m.toBitVec[i] <;> simp [hm]
    have hadd := BitVec.toNat_add_of_and_eq_zero hzero
    rw [BitVec.add_eq_or_of_and_eq_zero _ _ hzero, hor] at hadd
    exact hadd.symm
  have hone : (1 : UInt64).toNat = 1 := rfl
  have hmask : (align - 1).toNat = align.toNat - 1 := by
    rw [UInt64.toNat_sub_of_le _ _ (by rw [UInt64.le_iff_toNat_le, hone]; omega), hone]
  have hsum : (v + align - 1).toNat = v.toNat + align.toNat - 1 := by
    rw [UInt64.toNat_sub, UInt64.toNat_add, hone]
    omega
  have hle : ((v + align - 1) &&& (align - 1)).toNat ≤ (align - 1).toNat := by
    rw [UInt64.toNat_and]
    exact Nat.and_le_right
  have hboth := hsplit (v + align - 1) (align - 1)
  unfold alignUp
  omega

lemma alignUp_arena (align : ArenaAlign) :
    (alignUp obmmDynamicArenaOffset align.bytes).toNat = 0x200000 := by
  cases align <;> decide

/-- The bump allocator is not set up yet, or it stands behind its base. -/
def ClusterNode.ArenaReady (node : ClusterNode) : Prop :=
  (node.arenaBase = 0 ∧ node.arenaNext = 0) ∨
    (0x200000 ≤ node.arenaBase.toNat ∧ node.arenaBase.toNat ≤ node.arenaNext.toNat ∧
      node.arenaNext.toNat < 2 ^ 63)

/-- **An allocation.** It moves the allocator on and nothing else; the range it hands out is in the arena,
behind everything handed out before. -/
lemma payloadArenaAlloc_spec {node : ClusterNode} (h : node.ArenaReady) (bytes : UInt64)
    (align : ArenaAlign) :
    (payloadArenaAlloc node bytes align.bytes).1.regionBytes = node.regionBytes ∧
    (payloadArenaAlloc node bytes align.bytes).1.localIdx = node.localIdx ∧
    node.arenaNext.toNat ≤ (payloadArenaAlloc node bytes align.bytes).1.arenaNext.toNat ∧
    (payloadArenaAlloc node bytes align.bytes).1.ArenaReady ∧
    ∀ offset, (payloadArenaAlloc node bytes align.bytes).2 = some offset →
      0x200000 ≤ offset.toNat ∧ node.arenaNext.toNat ≤ offset.toNat ∧
        offset.toNat + bytes.toNat ≤
          (payloadArenaAlloc node bytes align.bytes).1.arenaNext.toNat := by
  have halign : 0 < align.bytes.toNat ∧ align.bytes.toNat ≤ 0x200000 := by
    cases align <;> decide
  have hne : align.bytes ≠ 0 := by
    cases align <;> decide
  -- the node once the arena is set up
  obtain ⟨set, hset, hbase, hle, hnext, hmono⟩ : ∃ set : ClusterNode,
      set = (if node.arenaBase = 0 then
        { node with
          arenaBase := alignUp obmmDynamicArenaOffset align.bytes
          arenaNext := alignUp obmmDynamicArenaOffset align.bytes
          arenaHighWater := alignUp obmmDynamicArenaOffset align.bytes } else node) ∧
      0x200000 ≤ set.arenaBase.toNat ∧ set.arenaBase.toNat ≤ set.arenaNext.toNat ∧
      set.arenaNext.toNat < 2 ^ 63 ∧ node.arenaNext.toNat ≤ set.arenaNext.toNat := by
    refine ⟨_, rfl, ?_⟩
    rcases h with ⟨hzero, hnext⟩ | ⟨hbase, hle, hnext⟩
    · rw [if_pos hzero, hnext]
      dsimp only
      rw [alignUp_arena]
      exact ⟨le_rfl, le_rfl, by decide, by decide⟩
    · have hzero : node.arenaBase ≠ 0 := by
        intro hzero
        rw [hzero] at hbase
        exact absurd hbase (by decide)
      rw [if_neg hzero]
      exact ⟨hbase, hle, hnext, le_rfl⟩
  have hsame : set.regionBytes = node.regionBytes ∧ set.localIdx = node.localIdx := by
    rw [hset]
    split <;> exact ⟨rfl, rfl⟩
  have hoff := le_alignUp halign.1 (show set.arenaNext.toNat + align.bytes.toNat ≤ 2 ^ 64 by omega)
  unfold payloadArenaAlloc
  split
  · exact ⟨rfl, rfl, le_rfl, h, fun _ hnone => by cases hnone⟩
  · dsimp only
    rw [← hset]
    split
    · exact ⟨hsame.1, hsame.2, hmono, .inr ⟨hbase, hle, hnext⟩, fun _ hnone => by cases hnone⟩
    · rename_i hroom
      simp only [Bool.or_eq_true, decide_eq_true_eq, not_or, gt_iff_lt, not_lt] at hroom
      obtain ⟨hwrap, hlen⟩ := hroom
      have hstop : (alignUp set.arenaNext align.bytes + bytes).toNat =
          (alignUp set.arenaNext align.bytes).toNat + bytes.toNat := by
        rw [UInt64.lt_iff_toNat_lt, UInt64.toNat_add] at hwrap
        rw [UInt64.toNat_add]
        have hlt := (alignUp set.arenaNext align.bytes).toNat_lt
        have hlt' := bytes.toNat_lt
        omega
      have hregion := set.regionLen_lt
      refine ⟨hsame.1, hsame.2, ?_, .inr ⟨hbase, ?_, ?_⟩, fun offset hsome => ?_⟩
      · dsimp only
        omega
      · dsimp only
        omega
      · dsimp only
        omega
      · cases hsome
        dsimp only
        omega

/-! ## What overlaps -/

/-- The places whose area lies inside that of the record table. -/
def Item.inTable : Item → Bool
  | .table => false
  | .weightTile => true
  | .kvcacheBlock => true
  | .marker _ => true
  | .arena _ => false

/-- One of the two is the record table and the other lies inside it. -/
def Item.Collides (a b : Item) : Prop :=
  (a = .table ∧ b.inTable = true) ∨ (b = .table ∧ a.inTable = true)

instance (a b : Item) : Decidable (a.Collides b) := inferInstanceAs (Decidable (_ ∨ _))

/-- The number of bytes written at a place, given where the allocator stands. -/
def Item.Sized (next : ℕ) : Item → ℕ → Prop
  | .table, n => n = clusterPayloadSize
  | .weightTile, n => n = obmmServiceObjectBytes
  | .kvcacheBlock, n => n = obmmServiceObjectBytes
  | .marker _, n => n = obmmRoundDoneBytes
  | .arena offset, n => 0x200000 ≤ offset ∧ offset + n ≤ next

/-- Everything before the arena ends before it begins. -/
lemma Item.Sized.below {a : Item} {next n : ℕ} (h : a.Sized next n) (ha : ∀ off, a ≠ .arena off) :
    a.offset + n ≤ 0x200000 := by
  cases a with
  | table =>
      rw [show n = clusterPayloadSize from h]
      decide
  | weightTile =>
      rw [show n = obmmServiceObjectBytes from h]
      decide
  | kvcacheBlock =>
      rw [show n = obmmServiceObjectBytes from h]
      decide
  | marker slot =>
      have hslot : slot.val < 1024 := slot.isLt
      rw [show n = obmmRoundDoneBytes from h]
      simp only [Item.offset, obmmRoundDoneOffset, obmmRoundDoneBytes]
      omega
  | arena off => exact absurd rfl (ha off)

/-- The areas inside the record table are apart from each other. -/
lemma Item.Sized.apart_inTable {a b : Item} {next n m : ℕ} (ha : a.Sized next n) (hb : b.Sized next m)
    (hta : a.inTable = true) (htb : b.inTable = true) (hne : a ≠ b) :
    ByteRegion.Apart a.offset n b.offset m := by
  have hslots (s s' : Fin obmmRoundDoneSlots) (h : Item.marker s ≠ .marker s') : s.val ≠ s'.val :=
    fun heq => h (by rw [Fin.ext heq])
  cases a <;> cases b <;>
    first | exact absurd hta Bool.false_ne_true | exact absurd htb Bool.false_ne_true | skip
  case marker.marker s s' =>
    have hval := hslots s s' hne
    simp only [Item.Sized, Item.offset, ByteRegion.Apart, obmmRoundDoneBytes] at ha hb ⊢
    omega
  all_goals
    first
    | exact absurd rfl hne
    | simp only [Item.Sized, Item.offset, ByteRegion.Apart, obmmRoundDoneBytes, obmmRoundDoneOffset,
        obmmServiceObjectBytes, obmmWeightOffset, obmmKvcacheOffset] at ha hb ⊢
      omega

/-- Two places before the arena are apart, unless they are one or collide. -/
lemma Item.Sized.apart {a b : Item} {next n m : ℕ} (ha : a.Sized next n) (hb : b.Sized next m)
    (hna : ∀ off, a ≠ .arena off) (hnb : ∀ off, b ≠ .arena off) (hne : a ≠ b)
    (hcollide : ¬ a.Collides b) : ByteRegion.Apart a.offset n b.offset m := by
  have htable (c : Item) (hc : ∀ off, c ≠ .arena off) (ht : c ≠ .table) : c.inTable = true := by
    cases c with
    | table => exact absurd rfl ht
    | weightTile => rfl
    | kvcacheBlock => rfl
    | marker slot => rfl
    | arena off => exact absurd rfl (hc off)
  have hta : a ≠ .table := fun h => hcollide (.inl ⟨h, htable b hnb fun hb => hne (h.trans hb.symm)⟩)
  have htb : b ≠ .table := fun h => hcollide (.inr ⟨h, htable a hna hta⟩)
  exact ha.apart_inTable hb (htable a hna hta) (htable b hnb htb) hne

/-! ## Publications and their condition -/

/-- The place before the arena that a publication writes at, if it gets that far. -/
def PublishStep.place (node : ClusterNode) : PublishStep → Option Item
  | .clusterPayload => some .table
  | .roundDone localNode clusterNodeCount decodeStep roundScopeHash =>
      if roundDoneAccepted node localNode clusterNodeCount then
        some (.marker (roundDoneSlot decodeStep roundScopeHash)) else none
  | .weightTile _ hiddenRangeBytes _ _ =>
      if fixedObjectsAccepted node hiddenRangeBytes then some .weightTile else none
  | .kvcacheBlock hiddenRangeBytes _ _ =>
      if fixedObjectsAccepted node hiddenRangeBytes then some .kvcacheBlock else none
  | .arenaObject _ => none
  | .inPlaceObject .. => none

/-- The record table is not published together with anything that lies inside it. -/
def PublishStep.Clear (s : PublishState) (st : PublishStep) : Prop :=
  ∀ item ∈ st.place s.node, ∀ p ∈ s.items, ¬ item.Collides p.1

namespace PublishState

/-- What was published is there: at each place the bytes written last, and under each record bytes of its
checksum. -/
structure Intact (s : PublishState) : Prop where
  items : ∀ item bytes, s.items.lookup item = some bytes →
    ByteRegion.read s.node.regionBytes item.offset bytes.length = bytes
  objects : ∀ o ∈ s.objects, o.2.of (ByteRegion.read s.node.regionBytes
    o.1.objectBackingOffset.toNat o.1.objectBackingLen.toNat) = o.1.objectPayloadChecksum

/-- The pattern of an object at a fixed place. -/
def fixedPattern (node : ClusterNode) : Item → Option Bytes
  | .weightTile => some
      (objectPattern obmmServiceObjectBytes (UInt32.ofNat node.localIdx) obmmKindWeightTile)
  | .kvcacheBlock => some
      (objectPattern obmmServiceObjectBytes (UInt32.ofNat node.localIdx) obmmKindKvcacheBlock)
  | _ => none

/-- Where a record's object lies: in the arena, or at the fixed place of its pattern. -/
def Placed (s : PublishState) (o : Record × PayloadSum) : Prop :=
  (0x200000 ≤ o.1.objectBackingOffset.toNat ∧
    o.1.objectBackingOffset.toNat + o.1.objectBackingLen.toNat ≤ s.node.arenaNext.toNat) ∨
  ∃ item pattern, fixedPattern s.node item = some pattern ∧ item ∈ s.items.map Prod.fst ∧
    o.1.objectBackingOffset.toNat = item.offset ∧ o.1.objectBackingLen.toNat = pattern.length ∧
    o.1.objectPayloadChecksum = o.2.of pattern

/-- **The layout.** The invariant under which publications keep out of each other's way. -/
structure Laid (s : PublishState) : Prop where
  arena : s.node.ArenaReady
  sized : ∀ p ∈ s.items, p.1.Sized s.node.arenaNext.toNat p.2.length
  placed : ∀ o ∈ s.objects, s.Placed o
  apart : ∀ p ∈ s.items, ∀ q ∈ s.items, ¬ p.1.Collides q.1
  intact : s.Intact

lemma length_patch {bs : Bytes} {n : ℕ} (hbs : bs.length = n) (off : ℕ) (text : Bytes)
    (h : off + text.length ≤ n) : (patch bs off text).length = n := by
  simp only [patch, List.length_append, List.length_take, List.length_drop]
  omega

lemma length_objectPattern (ownerNode payloadKind : UInt32) :
    (objectPattern obmmServiceObjectBytes ownerNode payloadKind).length = obmmServiceObjectBytes := by
  have hplain : ((List.range obmmServiceObjectBytes).map fun i => UInt8.ofNat
      (i * 17 + (ownerNode + 1).toNat * 29 + payloadKind.toNat * 53)).length = 8192 := by
    rw [List.length_map, List.length_range]
    rfl
  have h₁ := length_patch hplain 0 (ascii "MSOBMM00") (by decide)
  have h₂ := length_patch h₁ 248 (ascii "MSOBMM248") (by decide)
  have h₃ := length_patch h₂ 256 (ascii "MSOBMM256") (by decide)
  have h₄ := length_patch h₃ 4088 (ascii "MSOBMM4088") (by decide)
  have h₅ := length_patch h₄ 4096 (ascii "MSOBMM4096") (by decide)
  unfold objectPattern
  dsimp only
  rw [if_pos (by decide)]
  exact h₅

lemma fixedPattern_spec {node : ClusterNode} {item : Item} {pattern : Bytes}
    (h : fixedPattern node item = some pattern) :
    (∀ off, item ≠ .arena off) ∧ ∀ next, item.Sized next pattern.length := by
  cases item with
  | weightTile =>
      cases h
      exact ⟨fun _ => Item.noConfusion, fun _ => length_objectPattern _ _⟩
  | kvcacheBlock =>
      cases h
      exact ⟨fun _ => Item.noConfusion, fun _ => length_objectPattern _ _⟩
  | table => cases h
  | marker _ => cases h
  | arena _ => cases h

section Publish

variable {s : PublishState} {item : Item} {bytes : Bytes} {node : ClusterNode}

/-- What a publication needs to keep the layout. -/
structure Fits (s : PublishState) (item : Item) (bytes : Bytes) (node : ClusterNode) : Prop where
  region : node.regionBytes = ByteRegion.write s.node.regionBytes item.offset bytes
  localIdx : node.localIdx = s.node.localIdx
  arena : node.ArenaReady
  mono : s.node.arenaNext.toNat ≤ node.arenaNext.toNat
  sized : item.Sized node.arenaNext.toNat bytes.length
  clear : ∀ p ∈ s.items, ¬ item.Collides p.1
  fresh : ∀ off, item = .arena off → s.node.arenaNext.toNat ≤ off
  pattern : ∀ pattern, fixedPattern s.node item = some pattern → bytes = pattern

/-- The sizes of places keep when the allocator moves on. -/
lemma Item.Sized.mono {a : Item} {next next' n : ℕ} (h : a.Sized next n) (hle : next ≤ next') :
    a.Sized next' n := by
  cases a with
  | arena off => exact ⟨h.1, h.2.trans hle⟩
  | table => exact h
  | weightTile => exact h
  | kvcacheBlock => exact h
  | marker _ => exact h

/-- A published range in the arena is apart from the new one. -/
lemma Fits.apart_arena (h : s.Fits item bytes node) {off n : ℕ} (hoff : 0x200000 ≤ off)
    (hn : off + n ≤ s.node.arenaNext.toNat) :
    ByteRegion.Apart off n item.offset bytes.length := by
  by_cases harena : ∃ o, item = .arena o
  · obtain ⟨o, rfl⟩ := harena
    exact .inl (hn.trans (h.fresh o rfl))
  · push Not at harena
    exact .inr ((h.sized.below harena).trans hoff)

/-- A place that was published at is apart from the new one, unless it is the same. -/
lemma Fits.apart (h : s.Fits item bytes node) {a : Item} {n : ℕ}
    (hsized : a.Sized s.node.arenaNext.toNat n) (hne : a ≠ item) (hclear : ¬ item.Collides a) :
    ByteRegion.Apart a.offset n item.offset bytes.length := by
  by_cases ha : ∃ o, a = .arena o
  · obtain ⟨o, rfl⟩ := ha
    exact h.apart_arena hsized.1 hsized.2
  · push Not at ha
    by_cases harena : ∃ o, item = .arena o
    · obtain ⟨o, rfl⟩ := harena
      exact .inl ((hsized.below ha).trans h.sized.1)
    · push Not at harena
      exact ((h.sized.apart (Item.Sized.mono hsized h.mono) harena ha hne.symm hclear)).symm

/-- **One publication keeps the layout.** -/
lemma Laid.publish (h : s.Laid) (hfits : s.Fits item bytes node) {sum : PayloadSum}
    {record? : Option Record}
    (hrecord : ∀ record, record? = some record →
      record.objectBackingOffset.toNat = item.offset ∧
        record.objectBackingLen.toNat = bytes.length ∧
        record.objectPayloadChecksum = sum.of bytes ∧
        ((∃ off, item = .arena off) ∨ fixedPattern s.node item = some bytes)) :
    (s.publish item bytes sum (node, record?)).Laid := by
  have hpatterns : fixedPattern node = fixedPattern s.node := by
    funext a
    cases a <;> simp only [fixedPattern, hfits.localIdx]
  -- what was written before is still there
  have hkept (a : Item) (old : Bytes) (hold : (a, old) ∈ s.items) (hne : a ≠ item) :
      ByteRegion.read node.regionBytes a.offset old.length =
        ByteRegion.read s.node.regionBytes a.offset old.length := by
    rw [hfits.region]
    exact ByteRegion.read_write_apart
      (hfits.apart (h.sized _ hold) hne (hfits.clear _ hold))
  refine ⟨hfits.arena, ?_, ?_, ?_, ?_, ?_⟩
  · rintro p hp
    rcases List.mem_cons.mp hp with rfl | hp
    · exact hfits.sized
    · exact Item.Sized.mono (h.sized p hp) hfits.mono
  · intro o ho
    rcases List.mem_append.mp ho with ho | ho
    · obtain ⟨record, hsome, rfl⟩ := List.mem_map.mp ho
      obtain ⟨hoff, hlen, hsum, hplace⟩ := hrecord record (Option.mem_toList.mp hsome)
      rcases hplace with ⟨off, rfl⟩ | hpattern
      · left
        rw [hoff, hlen]
        exact hfits.sized
      · right
        exact ⟨item, bytes, by rw [← hpattern]; exact congrFun hpatterns item, List.mem_cons_self,
          hoff, hlen, hsum⟩
    · rcases h.placed o ho with ⟨hoff, hle⟩ | ⟨a, pattern, hpattern, hmem, hrest⟩
      · exact .inl ⟨hoff, hle.trans hfits.mono⟩
      · exact .inr ⟨a, pattern, by rw [← hpattern]; exact congrFun hpatterns a,
          List.mem_cons_of_mem _ hmem, hrest⟩
  · have hself : ¬ item.Collides item := by
      rintro (⟨rfl, ht⟩ | ⟨rfl, ht⟩) <;> cases ht
    have hsymm (a b : Item) (hab : ¬ a.Collides b) : ¬ b.Collides a := fun hba => hab (Or.symm hba)
    intro p hp q hq
    rcases List.mem_cons.mp hp with rfl | hp
    · rcases List.mem_cons.mp hq with rfl | hq
      · exact hself
      · exact hfits.clear q hq
    · rcases List.mem_cons.mp hq with rfl | hq
      · exact hsymm _ _ (hfits.clear p hp)
      · exact h.apart p hp q hq
  · intro a old hlookup
    rw [show (s.publish item bytes sum (node, record?)).items = (item, bytes) :: s.items from rfl,
      List.lookup_cons] at hlookup
    by_cases hne : a = item
    · subst hne
      simp only [beq_self_eq_true, Option.some.injEq] at hlookup
      subst hlookup
      show ByteRegion.read node.regionBytes a.offset bytes.length = bytes
      rw [hfits.region]
      exact ByteRegion.read_write_self
    · rw [beq_false_of_ne hne] at hlookup
      have hold : (a, old) ∈ s.items := by
        obtain ⟨front, back, hsplit, -⟩ := List.lookup_eq_some_iff.mp hlookup
        rw [hsplit]
        simp
      exact (hkept a old hold hne).trans (h.intact.items a old hlookup)
  · intro o ho
    show o.2.of (ByteRegion.read node.regionBytes _ _) = _
    rcases List.mem_append.mp ho with hnew | hold
    · obtain ⟨record, hsome, rfl⟩ := List.mem_map.mp hnew
      obtain ⟨hoff, hlen, hsum, -⟩ := hrecord record (Option.mem_toList.mp hsome)
      rw [hoff, hlen, hsum, hfits.region, ByteRegion.read_write_self]
    · have hbefore := h.intact.objects o hold
      rcases h.placed o hold with ⟨hoff, hle⟩ | ⟨a, pattern, hpattern, hmem, hoff, hlen, hsum⟩
      · rw [hfits.region, ByteRegion.read_write_apart (hfits.apart_arena hoff hle), hbefore]
      · by_cases hne : a = item
        · -- the same object once more: its bytes are the same
          subst hne
          have hbytes := hfits.pattern pattern hpattern
          rw [hoff, hlen, hfits.region, ← hbytes, ByteRegion.read_write_self, hbytes, hsum]
        · obtain ⟨p, hp, rfl⟩ := List.mem_map.mp hmem
          rw [hoff, hlen] at hbefore ⊢
          rw [hfits.region, ByteRegion.read_write_apart
            (hfits.apart ((fixedPattern_spec hpattern).2 _) hne (hfits.clear p hp)), hbefore]

end Publish

section Steps

variable {s : PublishState} {image : Record → Vector UInt8 recordSize}

/-- An object at a fixed place: what is written, and what its record says. -/
lemma publishFixedObject_spec (node : ClusterNode) (offset : ℕ) (object : ObjectRecord)
    (synced : Bool) (hoffset : offset < 2 ^ 64) :
    let pattern := objectPattern obmmServiceObjectBytes (UInt32.ofNat node.localIdx) object.payloadKind
    (∃ svc, (publishFixedObject node offset object synced).1 =
        { node with
          regionBytes := ByteRegion.write node.regionBytes offset pattern
          svc := svc }) ∧
      ∀ record, (publishFixedObject node offset object synced).2 = some record →
        record.objectBackingOffset.toNat = offset ∧
          record.objectBackingLen.toNat = pattern.length ∧
          record.objectPayloadChecksum = checksumBytes pattern := by
  intro pattern
  have hlen : pattern.length = obmmServiceObjectBytes := length_objectPattern _ _
  have hread : ByteRegion.read (ByteRegion.write node.regionBytes offset pattern) offset
      obmmServiceObjectBytes = pattern := by
    rw [← hlen]
    exact ByteRegion.read_write_self
  unfold publishFixedObject
  obtain ⟨⟨svc, hnode⟩, hput⟩ := putPublished_spec
    { node with regionBytes := ByteRegion.write node.regionBytes offset pattern } object
    (UInt64.ofNat offset) (UInt64.ofNat obmmServiceObjectBytes)
    (checksumBytes (ByteRegion.read (ByteRegion.write node.regionBytes offset pattern) offset
      obmmServiceObjectBytes)) synced
  refine ⟨⟨svc, hnode⟩, fun record hrecord => ?_⟩
  obtain ⟨-, hoff, hlen', hsum⟩ := hput record hrecord
  rw [hoff, hlen', hsum, hread, hlen]
  exact ⟨UInt64.toNat_ofNat_of_lt' hoffset, rfl, rfl⟩

/-- A publication at a fixed place keeps the layout. -/
lemma Laid.fixed (h : s.Laid) {item : Item} {object : ObjectRecord}
    (hpattern : fixedPattern s.node item = some
      (objectPattern obmmServiceObjectBytes (UInt32.ofNat s.node.localIdx) object.payloadKind))
    (hoffset : item.offset < 2 ^ 64) (hclear : ∀ p ∈ s.items, ¬ item.Collides p.1) (synced : Bool) :
    (s.publish item
      (objectPattern obmmServiceObjectBytes (UInt32.ofNat s.node.localIdx) object.payloadKind) .plain
      (publishFixedObject s.node item.offset object synced)).Laid := by
  obtain ⟨⟨svc, hnode⟩, hrecord⟩ := publishFixedObject_spec s.node item.offset object synced hoffset
  obtain ⟨harena, hsized⟩ := fixedPattern_spec hpattern
  refine @Laid.publish _ _ _ (publishFixedObject s.node item.offset object synced).1 h ?_ _ _
    fun r hr => ?_
  · rw [hnode]
    exact ⟨rfl, rfl, h.arena, le_rfl, hsized _, hclear, fun off heq => absurd heq (harena off),
      fun pattern hsome => Option.some_inj.mp (hpattern.symm.trans hsome)⟩
  · obtain ⟨hoff, hlen, hsum⟩ := hrecord r hr
    exact ⟨hoff, hlen, hsum, .inr hpattern⟩

lemma Laid.table (h : s.Laid) (hclear : ∀ p ∈ s.items, ¬ Item.table.Collides p.1) :
    (s.publish .table
      (clusterPayload image s.node.svc (writeClusterPayload image s.node).publishSeq) .plain
      (writeClusterPayload image s.node, none)).Laid := by
  have hfits : s.Fits .table
      (clusterPayload image s.node.svc (writeClusterPayload image s.node).publishSeq)
      (writeClusterPayload image s.node) :=
    ⟨rfl, rfl, h.arena, le_rfl, length_clusterPayload image _ _, hclear, fun _ => Item.noConfusion,
      fun _ hsome => by cases hsome⟩
  exact h.publish hfits fun _ hnone => by cases hnone

lemma length_roundDoneMarker (node : ClusterNode) (localNode clusterNodeCount : UInt32)
    (decodeStep roundScopeHash : UInt64) :
    (roundDoneMarker node localNode clusterNodeCount decodeStep roundScopeHash).length =
      obmmRoundDoneBytes := by
  simp [roundDoneMarker, obmmRoundDoneBytes]

lemma Laid.marker (h : s.Laid) {slot : Fin obmmRoundDoneSlots} {marker : Bytes}
    (hlen : marker.length = obmmRoundDoneBytes)
    (hclear : ∀ p ∈ s.items, ¬ (Item.marker slot).Collides p.1) :
    (s.publish (.marker slot) marker .plain
      ({ s.node with
         regionBytes := ByteRegion.write s.node.regionBytes (Item.offset (.marker slot)) marker },
        none)).Laid := by
  have hfits : s.Fits (.marker slot) marker
      { s.node with
        regionBytes := ByteRegion.write s.node.regionBytes (Item.offset (.marker slot)) marker } :=
    ⟨rfl, rfl, h.arena, le_rfl, hlen, hclear, fun _ => Item.noConfusion, fun _ hsome => by cases hsome⟩
  exact h.publish hfits fun _ hnone => by cases hnone

/-- An allocation alone changes nothing that is published. -/
lemma Laid.alloc (h : s.Laid) {node : ClusterNode} (hbytes : node.regionBytes = s.node.regionBytes)
    (hidx : node.localIdx = s.node.localIdx)
    (hmono : s.node.arenaNext.toNat ≤ node.arenaNext.toNat) (hready : node.ArenaReady) :
    ({ s with node := node } : PublishState).Laid := by
  have hpatterns : fixedPattern node = fixedPattern s.node := by
    funext a
    cases a <;> simp only [fixedPattern, hidx]
  refine ⟨hready, fun p hp => Item.Sized.mono (h.sized p hp) hmono,
    fun o ho => ?_, h.apart, ?_, ?_⟩
  · rcases h.placed o ho with ⟨hoff, hle⟩ | ⟨a, pattern, hpattern, hrest⟩
    · exact .inl ⟨hoff, hle.trans hmono⟩
    · exact .inr ⟨a, pattern, by rw [← hpattern]; exact congrFun hpatterns a, hrest⟩
  · intro a old hlookup
    dsimp only
    rw [hbytes]
    exact h.intact.items a old hlookup
  · intro o ho
    dsimp only
    rw [hbytes]
    exact h.intact.objects o ho

lemma Laid.arenaObject (h : s.Laid) {node : ClusterNode} (o : ArenaObject) {offset : UInt64}
    (hbytes : node.regionBytes = s.node.regionBytes) (hidx : node.localIdx = s.node.localIdx)
    (hmono : s.node.arenaNext.toNat ≤ node.arenaNext.toNat) (hready : node.ArenaReady)
    (hlow : 0x200000 ≤ offset.toNat) (hnext : s.node.arenaNext.toNat ≤ offset.toNat)
    (hend : offset.toNat + o.reserve.toNat ≤ node.arenaNext.toNat) :
    (s.publish (.arena offset.toNat) o.payload o.sum (publishArenaObject node o offset)).Laid := by
  have hpayload : o.payload.length < 2 ^ 64 :=
    Nat.lt_of_le_of_lt o.fits o.reserve.toNat_lt
  obtain ⟨⟨svc, hnode⟩, hput⟩ := putPublished_spec
    { node with regionBytes := ByteRegion.write node.regionBytes offset.toNat o.payload } o.object
    offset (UInt64.ofNat o.payload.length) (o.sum.of o.payload) o.synced
  have hfits : s.Fits (.arena offset.toNat) o.payload (publishArenaObject node o offset).1 := by
    rw [publishArenaObject, hnode]
    refine ⟨?_, hidx, hready, hmono, ⟨hlow, ?_⟩, ?_, ?_, fun _ hsome => by cases hsome⟩
    · dsimp only
      rw [hbytes]
      rfl
    · have := o.fits
      dsimp only
      omega
    · rintro p - (⟨hno, -⟩ | ⟨-, hno⟩) <;> cases hno
    · rintro _ ⟨⟩
      exact hnext
  refine h.publish hfits fun record hrecord => ?_
  obtain ⟨-, hoff, hlen, hsum⟩ := hput record hrecord
  rw [hoff, hlen, hsum]
  exact ⟨rfl, UInt64.toNat_ofNat_of_lt' hpayload, rfl, .inl ⟨_, rfl⟩⟩

/-- An object that is in the arena already gets a record and nothing moves. -/
lemma Laid.inPlace (h : s.Laid) {object : ObjectRecord} {offset len : UInt64} (sum : PayloadSum)
    (synced : Bool) (haccept : inPlaceAccepted s.node offset len = true) :
    let payload := ByteRegion.read s.node.regionBytes offset.toNat len.toNat
    let result := putPublished s.node object offset len (sum.of payload) synced
    ({ s with
       node := result.1
       objects := (result.2.toList.map fun record => (record, sum)) ++ s.objects } :
      PublishState).Laid := by
  intro payload result
  obtain ⟨⟨svc, hnode⟩, hput⟩ :=
    putPublished_spec s.node object offset len (sum.of payload) synced
  have hsame : result.1 = { s.node with svc := svc } := hnode
  simp only [inPlaceAccepted, Bool.and_eq_true, Bool.not_eq_true', Bool.or_eq_false_iff,
    decide_eq_false_iff_not, gt_iff_lt, not_lt, UInt64.not_lt] at haccept
  obtain ⟨-, ⟨⟨⟨hbase, hnext⟩, hfits⟩, -⟩, -⟩ := haccept
  rw [UInt64.le_iff_toNat_le] at hbase hnext hfits
  rw [UInt64.toNat_sub_of_le _ _ (UInt64.le_iff_toNat_le.mpr hnext)] at hfits
  have hplaced (record : Record) (hsome : result.2 = some record) :
      0x200000 ≤ record.objectBackingOffset.toNat ∧
        record.objectBackingOffset.toNat + record.objectBackingLen.toNat ≤
          s.node.arenaNext.toNat := by
    obtain ⟨hlen, hoff, hlen', -⟩ := hput record hsome
    rw [hoff, hlen']
    rcases h.arena with ⟨-, hzero⟩ | ⟨hlow, -, -⟩
    · -- an allocator that is not set up has nothing in place
      rw [hzero] at hfits hnext
      have hno : (0 : UInt64).toNat = 0 := rfl
      exact absurd (UInt64.toNat_inj.mp (show len.toNat = (0 : UInt64).toNat by omega)) hlen
    · omega
  refine ⟨by rw [hsame]; exact h.arena, ?_, ?_, h.apart, ?_, ?_⟩
  · dsimp only
    rw [hsame]
    exact h.sized
  · intro o ho
    rcases List.mem_append.mp ho with hnew | hold
    · obtain ⟨record, hsome, rfl⟩ := List.mem_map.mp hnew
      left
      dsimp only
      rw [hsame]
      exact hplaced record (Option.mem_toList.mp hsome)
    · have hplace := h.placed o hold
      unfold Placed at hplace ⊢
      dsimp only
      rw [hsame]
      exact hplace
  · dsimp only
    rw [hsame]
    exact h.intact.items
  · intro o ho
    dsimp only
    rw [hsame]
    rcases List.mem_append.mp ho with hnew | hold
    · obtain ⟨record, hsome, rfl⟩ := List.mem_map.mp hnew
      obtain ⟨-, hoff, hlen, hsum⟩ := hput record (Option.mem_toList.mp hsome)
      rw [hoff, hlen, hsum]
    · exact h.intact.objects o hold

/-- **Every publication that is clear keeps the layout.** -/
lemma Laid.step (h : s.Laid) {st : PublishStep} (hclear : st.Clear s) : (s.step image st).Laid := by
  cases st with
  | clusterPayload => exact h.table (hclear .table rfl)
  | roundDone localNode clusterNodeCount decodeStep roundScopeHash =>
      cases haccept : roundDoneAccepted s.node localNode clusterNodeCount with
      | false => simpa only [PublishState.step, haccept, Bool.not_false, if_true] using h
      | true =>
          have hplace : (PublishStep.roundDone localNode clusterNodeCount decodeStep
              roundScopeHash).place s.node =
              some (.marker (roundDoneSlot decodeStep roundScopeHash)) := by
            simp only [PublishStep.place, haccept, if_true]
          simp only [PublishState.step, haccept, Bool.not_true, Bool.false_eq_true, if_false]
          exact h.marker (length_roundDoneMarker ..) (hclear _ hplace)
  | weightTile modelKey hiddenRangeBytes recycle synced =>
      cases haccept : fixedObjectsAccepted s.node hiddenRangeBytes with
      | false => simpa only [PublishState.step, haccept, Bool.not_false, if_true] using h
      | true =>
          have hplace : (PublishStep.weightTile modelKey hiddenRangeBytes recycle synced).place s.node =
              some .weightTile := by
            simp only [PublishStep.place, haccept, if_true]
          simp only [PublishState.step, haccept, Bool.not_true, Bool.false_eq_true, if_false]
          exact @Laid.fixed _ h _ (weightTileRecord s.node modelKey recycle) rfl (by decide)
            (hclear _ hplace) synced
  | kvcacheBlock hiddenRangeBytes recycle synced =>
      cases haccept : fixedObjectsAccepted s.node hiddenRangeBytes with
      | false => simpa only [PublishState.step, haccept, Bool.not_false, if_true] using h
      | true =>
          have hplace : (PublishStep.kvcacheBlock hiddenRangeBytes recycle synced).place s.node =
              some .kvcacheBlock := by
            simp only [PublishStep.place, haccept, if_true]
          simp only [PublishState.step, haccept, Bool.not_true, Bool.false_eq_true, if_false]
          exact @Laid.fixed _ h _ (kvcacheBlockRecord s.node recycle) rfl (by decide)
            (hclear _ hplace) synced
  | arenaObject o =>
      obtain ⟨hbytes, hidx, hmono, hready, hrange⟩ :=
        payloadArenaAlloc_spec h.arena o.reserve o.align
      unfold PublishState.step
      dsimp only
      split
      · rename_i node halloc
        rw [halloc] at hbytes hidx hmono hready
        exact h.alloc hbytes hidx hmono hready
      · rename_i node offset halloc
        rw [halloc] at hbytes hidx hmono hready hrange
        obtain ⟨hlow, hnext, hend⟩ := hrange offset rfl
        exact h.arenaObject o hbytes hidx hmono hready hlow hnext hend
  | inPlaceObject object offset len sum synced =>
      cases haccept : inPlaceAccepted s.node offset len with
      | false => simpa only [PublishState.step, haccept, Bool.not_false, if_true] using h
      | true =>
          simp only [PublishState.step, haccept, Bool.not_true, Bool.false_eq_true, if_false]
          exact h.inPlace sum synced haccept

lemma payloadArenaAlloc_regionBytes (node : ClusterNode) (bytes align : UInt64) :
    (payloadArenaAlloc node bytes align).1.regionBytes = node.regionBytes := by
  unfold payloadArenaAlloc
  split
  · rfl
  · dsimp only
    generalize (if align = 0 then 64 else align) = align
    by_cases hbase : node.arenaBase = 0
    · rw [if_pos hbase]
      split <;> rfl
    · rw [if_neg hbase]
      split <;> rfl

lemma putPublished_regionBytes (node : ClusterNode) (object : ObjectRecord)
    (offset len checksum : UInt64) (synced : Bool) :
    (putPublished node object offset len checksum synced).1.regionBytes = node.regionBytes := by
  obtain ⟨⟨svc, hnode⟩, -⟩ := putPublished_spec node object offset len checksum synced
  rw [hnode]

/-- **A publication changes only bytes of the place it publishes at.** -/
lemma step_frame (s : PublishState) (st : PublishStep) {i : ℕ}
    (h : (s.step image st).node.regionBytes i ≠ s.node.regionBytes i) :
    ∃ item bytes, (s.step image st).items = (item, bytes) :: s.items ∧
      item.offset ≤ i ∧ i < item.offset + bytes.length := by
  have hwrite (item : Item) (bytes : Bytes)
      (hne : ByteRegion.write s.node.regionBytes item.offset bytes i ≠ s.node.regionBytes i) :
      item.offset ≤ i ∧ i < item.offset + bytes.length := by
    by_contra hout
    exact hne (ByteRegion.write_outside (by omega))
  cases st with
  | clusterPayload => exact ⟨_, _, rfl, hwrite .table _ h⟩
  | roundDone localNode clusterNodeCount decodeStep roundScopeHash =>
      cases haccept : roundDoneAccepted s.node localNode clusterNodeCount with
      | false =>
          simp only [PublishState.step, haccept, Bool.not_false, if_true] at h
          exact absurd rfl h
      | true =>
          simp only [PublishState.step, haccept, Bool.not_true, Bool.false_eq_true, if_false] at h ⊢
          exact ⟨_, _, rfl, hwrite _ _ h⟩
  | weightTile modelKey hiddenRangeBytes recycle synced =>
      cases haccept : fixedObjectsAccepted s.node hiddenRangeBytes with
      | false =>
          simp only [PublishState.step, haccept, Bool.not_false, if_true] at h
          exact absurd rfl h
      | true =>
          simp only [PublishState.step, haccept, Bool.not_true, Bool.false_eq_true, if_false, publish,
            publishFixedObject, putPublished_regionBytes] at h ⊢
          exact ⟨_, _, rfl, hwrite .weightTile _ h⟩
  | kvcacheBlock hiddenRangeBytes recycle synced =>
      cases haccept : fixedObjectsAccepted s.node hiddenRangeBytes with
      | false =>
          simp only [PublishState.step, haccept, Bool.not_false, if_true] at h
          exact absurd rfl h
      | true =>
          simp only [PublishState.step, haccept, Bool.not_true, Bool.false_eq_true, if_false, publish,
            publishFixedObject, putPublished_regionBytes] at h ⊢
          exact ⟨_, _, rfl, hwrite .kvcacheBlock _ h⟩
  | arenaObject o =>
      have hbytes := payloadArenaAlloc_regionBytes s.node o.reserve o.align.bytes
      unfold PublishState.step at h ⊢
      dsimp only at h ⊢
      split at h
      · rename_i node halloc
        rw [halloc] at hbytes
        exact absurd (congrFun hbytes i) h
      · rename_i node offset halloc
        rw [halloc] at hbytes
        simp only [publish, publishArenaObject, putPublished_regionBytes] at h ⊢
        rw [show node.regionBytes = s.node.regionBytes from hbytes] at h
        exact ⟨_, _, rfl, hwrite (.arena offset.toNat) _ h⟩
  | inPlaceObject object offset len sum synced =>
      cases haccept : inPlaceAccepted s.node offset len with
      | false =>
          simp only [PublishState.step, haccept, Bool.not_false, if_true] at h
          exact absurd rfl h
      | true =>
          simp only [PublishState.step, haccept, Bool.not_true, Bool.false_eq_true, if_false,
            putPublished_regionBytes] at h
          exact absurd rfl h

/-- Publishing the table clears the region behind the records. -/
lemma step_table_clears (s : PublishState) {i : ℕ}
    (hrecords : 64 + (snapshotMetadataRecords s.node.svc).length * recordSize ≤ i)
    (hi : i < clusterPayloadSize) : (s.step image .clusterPayload).node.regionBytes i = 0 := by
  have hfree := clusterPayload_free image s.node.svc (writeClusterPayload image s.node).publishSeq
    hrecords hi
  obtain ⟨hlt, hget⟩ := List.getElem?_eq_some_iff.mp hfree
  have hwrite := @ByteRegion.write_inside _ s.node.regionBytes 0 _ _ hlt
  rw [Nat.zero_add, hget] at hwrite
  exact hwrite

end Steps

/-- A node before its first publication. -/
def start (node : ClusterNode) : PublishState := ⟨node, [], []⟩

lemma laid_start {node : ClusterNode} (h : node.ArenaReady) : (start node).Laid where
  arena := h
  sized := by
    intro p hp
    cases hp
  placed := by
    intro o ho
    cases ho
  apart := by
    intro p hp
    cases hp
  intact :=
    { items := by
        intro item bytes hlookup
        cases hlookup
      objects := by
        intro o ho
        cases ho }

end PublishState

/-- **What is published stays.** Take any node, with any service and any contents of its region, and any
run of publications in which the record table is never published together with a weight tile, a cache
block or a marker.  After every number of steps, the region holds at every place the bytes published there
last, the bytes under every published record have its checksum, and whatever is published next changes
only bytes of its own place. -/
theorem published_intact (image : Record → Vector UInt8 recordSize) (node : ClusterNode)
    (hready : node.ArenaReady) (steps : List PublishStep)
    (hclear : Run.Along (PublishState.step image) PublishStep.Clear (.start node) steps) (n : ℕ) :
    let s := Run.run (PublishState.step image) (.start node) (steps.take n)
    s.Intact ∧ ∀ (st : PublishStep) (i : ℕ),
      (s.step image st).node.regionBytes i ≠ s.node.regionBytes i →
        ∃ item bytes, (s.step image st).items = (item, bytes) :: s.items ∧
          item.offset ≤ i ∧ i < item.offset + bytes.length := by
  have hlaid := hclear.invariant (I := PublishState.Laid) (PublishState.laid_start hready)
    (fun s st hs hst => hs.step hst) n
  exact ⟨hlaid.intact, fun st i => PublishState.step_frame _ st⟩

/-- The first of two nodes, with a region of 512 MiB, before it has published anything. -/
def emptyNode : ClusterNode where
  nodeCount := 2
  localIdx := 0
  active := true
  regionBytes := fun _ => 0
  regionLen := 0x20000000
  regionLen_lt := by decide
  publishSeq := 0
  observeEpoch := 0
  arenaBase := 0
  arenaNext := 0
  arenaHighWater := 0
  svc := Service.fresh

/-- The weight tile of model `m`. -/
def publishTile : PublishStep := .weightTile (ascii "m") 0x1000 (fun _ _ => none) true

/-- A decode round after the weight tile: both are there at the end. -/
theorem published_intact_round :
    (Run.run (PublishState.step fun _ => Vector.replicate recordSize 0) (.start emptyNode)
      [publishTile, .roundDone 0 2 0 0]).Intact := by
  refine (published_intact _ emptyNode (.inl ⟨rfl, rfl⟩) [publishTile, .roundDone 0 2 0 0]
    ⟨?_, ?_, trivial⟩ 2).1
  · intro item _ p hp
    cases hp
  · intro item hitem p hp
    have htile : p.1 = .weightTile := by
      rw [List.mem_singleton.mp hp]
    have hmarker : item = .marker (roundDoneSlot 0 0) := by
      have hplace : (PublishStep.roundDone 0 2 0 0).place
          (PublishState.step (fun _ => Vector.replicate recordSize 0) (.start emptyNode)
            publishTile).node = some (.marker (roundDoneSlot 0 0)) := by decide +kernel
      exact (Option.some_inj.mp (hplace.symm.trans hitem)).symm
    rw [htile, hmarker]
    decide +kernel

/-- **The record table wipes out the weight tile.** The node publishes its weight tile and then its
record table, as `mem_service_obmm_service_v0_publish_resolve` does.  The tile's record is there, and its
first byte, an `M`, is gone. -/
theorem table_clears_weight_tile :
    let s := Run.run (PublishState.step fun _ => Vector.replicate recordSize 0) (.start emptyNode)
      [publishTile, .clusterPayload]
    s.objects.map (fun o => o.1.objectBackingOffset.toNat) = [obmmWeightOffset] ∧
      s.node.regionBytes obmmWeightOffset = 0 ∧ ¬ s.Intact := by
  intro s
  have hzero : s.node.regionBytes obmmWeightOffset = 0 := by
    have hone : (snapshotMetadataRecords (PublishState.step (fun _ => Vector.replicate recordSize 0)
        (.start emptyNode) publishTile).node.svc).length = 1 := by decide +kernel
    exact PublishState.step_table_clears _ (by rw [hone]; decide) (by decide)
  refine ⟨by decide +kernel, hzero, fun hintact => ?_⟩
  have hread := congrArg List.head? (hintact.items .weightTile
    (objectPattern obmmServiceObjectBytes 0 obmmKindWeightTile) rfl)
  have hpattern : (objectPattern obmmServiceObjectBytes 0 obmmKindWeightTile).head? = some 77 := by
    decide +kernel
  rw [hpattern, ByteRegion.read, List.head?_map, List.head?_range,
    PublishState.length_objectPattern, if_neg (by decide)] at hread
  have hbyte : s.node.regionBytes obmmWeightOffset = 77 := Option.some_inj.mp hread
  rw [hzero] at hbyte
  exact absurd hbyte (by decide)

end MemService
