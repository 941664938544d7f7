import MemService.Lib.RunningFloor
import MemService.RegionLayout

/-!
# What a node tells the cluster about its records

`mem_service_cluster_payload.c` sums up the record table a node publishes in a few counts, floors
and flags (`mem_service_build_compact_summary`), and `mem_service_publish_observe_cluster` folds
the summaries of all nodes into floors of the cluster.  Both folds use zero for "no floor yet",
and zero is also a value a record can have: a block or a prefix without a result has result
segment 0, and a node without prefixes has prefix count 0.

The barriers of the observation and the reads of the peers' regions are not here: what is modelled
is the loop over the summaries they bring in.  `summary_floors_iff` says for which records and
which nodes the two folds compute what their names say.
-/

open ByteText RunningFloor

namespace MemService

/-! ## The compact summary -/

/-- The records of a payload with their `in_use` flags; their number is a `uint16_t`. -/
structure RecordList where
  entries : List (Option Record)
  length_lt : entries.length < 2 ^ 16

/-- One round of the loop of `mem_service_build_compact_summary`, over entries that need not be in
use. -/
def CompactSummary.addEntry (s : CompactSummary) : Option Record → CompactSummary
  | none => { s with flags := s.flags &&& ~~~(compactPrefixStateReady ||| compactPrefixViewReady) }
  | some r => s.add r

/-- The summary of `n` records before the loop. -/
def CompactSummary.start (n : ℕ) : CompactSummary where
  recordCount := UInt16.ofNat n
  flags := compactPrefixStateReady ||| compactPrefixViewReady

/-- `mem_service_build_compact_summary`. -/
def compactSummaryOf (records : RecordList) : CompactSummary :=
  records.entries.foldl CompactSummary.addEntry (CompactSummary.start records.entries.length)

/-- A node publishes records in use only. -/
lemma compactSummaryOf_map_some (records : List Record) (h : (records.map some).length < 2 ^ 16) :
    compactSummaryOf ⟨records.map some, h⟩ = buildCompactSummary records := by
  simp only [compactSummaryOf, buildCompactSummary, List.length_map, List.foldl_map]
  rfl

namespace CompactSummary

/-- `MEM_SERVICE_COMPACT_PREFIX_STATE_READY` of the flags. -/
def prefixStateReady (s : CompactSummary) : Bool := s.flags &&& compactPrefixStateReady != 0

/-- `MEM_SERVICE_COMPACT_PREFIX_VIEW_READY` of the flags. -/
def prefixViewReady (s : CompactSummary) : Bool := s.flags &&& compactPrefixViewReady != 0

end CompactSummary

/-! ## The cluster summary -/

/-- `struct mem_service_cluster_summary`, less `active`, which is set whenever it is filled. -/
structure ClusterSummary where
  ready : Bool := false
  placementCoherent : Bool := true
  stateCoherent : Bool := true
  prefixStateReady : Bool := true
  prefixViewReady : Bool := true
  nodeCount : ℕ
  peersObserved : ℕ := 0
  peerRecordCountFloor : ℕ := 0
  peerPrefixCountFloor : ℕ := 0
  peerBlockCountFloor : ℕ := 0
  peerGroupCountFloor : ℕ := 0
  localVersion : ℕ
  peerVersionFloor : ℕ
  peerResultFloor : ℕ
  peerPrefixVersionFloor : ℕ := 0
  peerPrefixResultFloor : ℕ := 0
  deriving DecidableEq

namespace ClusterSummary

/-- What the observation takes from one node's summary. -/
def addNode (s : ClusterSummary) (isLocal : Bool) (c : CompactSummary) : ClusterSummary :=
  { s with
    peerRecordCountFloor := lower s.peerRecordCountFloor c.recordCount.toNat
    peersObserved := if isLocal then s.peersObserved else s.peersObserved + 1
    peerVersionFloor := lowerTo s.peerVersionFloor c.blockVersionFloor.toNat
    peerResultFloor := lowerTo s.peerResultFloor c.blockResultFloor.toNat
    peerPrefixVersionFloor := lowerSet s.peerPrefixVersionFloor c.prefixVersionFloor.toNat
    peerPrefixResultFloor := lowerSet s.peerPrefixResultFloor c.prefixResultFloor.toNat
    prefixStateReady := s.prefixStateReady && c.prefixStateReady
    prefixViewReady := s.prefixViewReady && c.prefixViewReady
    peerPrefixCountFloor := lower s.peerPrefixCountFloor c.prefixCount.toNat
    peerBlockCountFloor := lower s.peerBlockCountFloor c.blockCount.toNat
    peerGroupCountFloor := lower s.peerGroupCountFloor c.groupCount.toNat }

/-- The kinds the observation prints and otherwise passes over. -/
def passedOver : List RecordKind :=
  [RecordKind.requestPrefix, RecordKind.prefixGroup, RecordKind.weightTile,
    RecordKind.kvcacheObject, RecordKind.hiddenRangeInput, RecordKind.hiddenRangeOutput,
    RecordKind.modelTokenResult, RecordKind.modelEngramHistory, RecordKind.modelEngramCandidates,
    RecordKind.modelEngramSelected, RecordKind.modelEngramState, RecordKind.runtimeHandoff,
    RecordKind.executionArtifact, RecordKind.trainingArtifact, RecordKind.layerRangePlacement]

/-- One record of the node's own snapshot: a block under the local record's key has to agree with
it; a free entry or an unknown kind ends the observation. -/
def checkOwn (localRecord : Record) (s : ClusterSummary) : Option Record → Option ClusterSummary
  | none => none
  | some r =>
    if r.kind = RecordKind.blockMeta then
      let same := decide (r.keyBytes = localRecord.keyBytes)
      some
        { s with
          placementCoherent := s.placementCoherent &&
            !(same && (decide (r.placementNode ≠ localRecord.placementNode) ||
              decide (r.placementLevel ≠ localRecord.placementLevel) ||
              decide (r.hotSegmentId ≠ localRecord.hotSegmentId)))
          stateCoherent := s.stateCoherent && !(same && decide (r.state ≠ localRecord.state)) }
    else if r.kind ∈ passedOver then some s
    else none

/-- One round of the loop over the nodes. -/
def observeNode (localIdx : ℕ) (localRecord : Record) (snapshot : List (Option Record))
    (s : ClusterSummary) (node : CompactSummary × ℕ) : Option ClusterSummary :=
  if node.1.recordCount = 0 ∨ clusterMaxRecords < node.1.recordCount.toNat then none
  else if node.2 = localIdx then
    snapshot.foldlM (checkOwn localRecord) (s.addNode true node.1)
  else some (s.addNode false node.1)

end ClusterSummary

open ClusterSummary in
/-- The aggregation of `mem_service_publish_observe_cluster`: `nodes` are the summaries of all nodes,
`snapshot` the records of the node itself. -/
def observeCluster (localIdx : ℕ) (localRecord : Record) (snapshot : List (Option Record))
    (nodes : List CompactSummary) : Option ClusterSummary :=
  (nodes.zipIdx.foldlM (observeNode localIdx localRecord snapshot)
      { nodeCount := nodes.length
        localVersion := localRecord.version.toNat
        peerVersionFloor := localRecord.version.toNat
        peerResultFloor := localRecord.lastResultSegment.toNat }).map fun s =>
    { s with ready := decide (s.peersObserved = nodes.length - 1) }

/-! ## What the compact summary computes -/

namespace CompactSummary

/-- The kinds the summary knows. -/
def known : List RecordKind :=
  [RecordKind.requestPrefix, RecordKind.prefixGroup, RecordKind.blockMeta, RecordKind.weightTile,
    RecordKind.kvcacheObject, RecordKind.hiddenRangeInput, RecordKind.hiddenRangeOutput,
    RecordKind.layerRangePlacement, RecordKind.runtimeHandoff, RecordKind.executionArtifact,
    RecordKind.trainingArtifact]

/-- The kinds that count as hidden ranges. -/
def hiddenKinds : List RecordKind :=
  [RecordKind.hiddenRangeInput, RecordKind.hiddenRangeOutput, RecordKind.layerRangePlacement]

/-- A prefix that a reader can use: it has a hot segment and a result. -/
def HasView (r : Record) : Prop := r.hotSegmentId ≠ 0 ∧ r.lastResultSegment ≠ 0

instance (r : Record) : Decidable (HasView r) := inferInstanceAs (Decidable (_ ∧ _))

-- the one case analysis over the kinds: what a record in use does to each count and floor
lemma add_counts (s : CompactSummary) (r : Record) :
    { add s r with flags := 0 } =
      { recordCount := s.recordCount
        prefixCount := if r.kind ∈ [RecordKind.requestPrefix] then s.prefixCount + 1
          else s.prefixCount
        blockCount := if r.kind ∈ [RecordKind.blockMeta] then s.blockCount + 1 else s.blockCount
        groupCount := if r.kind ∈ [RecordKind.prefixGroup] then s.groupCount + 1 else s.groupCount
        weightTileCount := if r.kind ∈ [RecordKind.weightTile] then s.weightTileCount + 1
          else s.weightTileCount
        kvcacheObjectCount := if r.kind ∈ [RecordKind.kvcacheObject] then s.kvcacheObjectCount + 1
          else s.kvcacheObjectCount
        flags := 0
        hiddenRangeCount := if r.kind ∈ hiddenKinds then s.hiddenRangeCount + 1
          else s.hiddenRangeCount
        blockVersionFloor := if r.kind ∈ [RecordKind.blockMeta]
          then lowerFloor s.blockVersionFloor r.version else s.blockVersionFloor
        blockResultFloor := if r.kind ∈ [RecordKind.blockMeta]
          then lowerFloor s.blockResultFloor r.lastResultSegment else s.blockResultFloor
        prefixVersionFloor := if r.kind ∈ [RecordKind.requestPrefix]
          then lowerFloor s.prefixVersionFloor r.version else s.prefixVersionFloor
        prefixResultFloor := if r.kind ∈ [RecordKind.requestPrefix]
          then lowerFloor s.prefixResultFloor r.lastResultSegment
          else s.prefixResultFloor : CompactSummary } := by
  by_cases hk : r.kind ∈ known
  · simp only [known, List.mem_cons, List.not_mem_nil, or_false] at hk
    rcases hk with h | h | h | h | h | h | h | h | h | h | h <;>
      simp [add, h, hiddenKinds, RecordKind.requestPrefix, RecordKind.prefixGroup,
        RecordKind.blockMeta, RecordKind.weightTile, RecordKind.kvcacheObject,
        RecordKind.hiddenRangeInput, RecordKind.hiddenRangeOutput, RecordKind.layerRangePlacement,
        RecordKind.runtimeHandoff, RecordKind.executionArtifact, RecordKind.trainingArtifact]
  · simp only [known, List.mem_cons, List.not_mem_nil, or_false, not_or] at hk
    obtain ⟨h1, h2, h3, h4, h5, h6, h7, h8, h9, h10, h11⟩ := hk
    simp [add, hiddenKinds, h1, h2, h3, h4, h5, h6, h7, h8, h9, h10, h11]

lemma flags_add (s : CompactSummary) (r : Record) :
    (add s r).flags =
      if r.kind ∉ known then s.flags &&& ~~~(compactPrefixStateReady ||| compactPrefixViewReady)
      else if r.kind ≠ RecordKind.requestPrefix then s.flags
      else
        let stateFlags := if r.state ≠ KvcacheState.reloaded then
          s.flags &&& ~~~compactPrefixStateReady else s.flags
        if HasView r then stateFlags else stateFlags &&& ~~~compactPrefixViewReady := by
  by_cases hk : r.kind ∈ known
  · by_cases hp : r.kind = RecordKind.requestPrefix
    · by_cases hv : HasView r
      · simp_all [add, HasView]
      · rw [HasView, not_and_or, not_not, not_not] at hv
        have hreq : RecordKind.requestPrefix ∈ known := List.mem_cons_self
        simp [add, hp, hreq, HasView, hv, ← not_or]
    · simp only [hk, hp, not_true_eq_false, ite_false, ne_eq, not_false_eq_true, ite_true]
      simp only [known, List.mem_cons, List.not_mem_nil, or_false] at hk
      unfold add
      split_ifs <;> simp_all
  · simp only [hk, not_false_eq_true, ite_true]
    simp only [known, List.mem_cons, List.not_mem_nil, or_false, not_or] at hk
    obtain ⟨h1, h2, h3, h4, h5, h6, h7, h8, h9, h10, h11⟩ := hk
    simp [add, h1, h2, h3, h4, h5, h6, h7, h8, h9, h10, h11]

lemma prefixStateReady_add (s : CompactSummary) (r : Record) :
    (add s r).prefixStateReady = (s.prefixStateReady && decide (r.kind ∈ known) &&
      (decide (r.kind ≠ RecordKind.requestPrefix) || decide (r.state = KvcacheState.reloaded))) := by
  have hboth : ~~~(compactPrefixStateReady ||| compactPrefixViewReady) &&& compactPrefixStateReady =
    0 := by decide
  have hstate : ~~~compactPrefixStateReady &&& compactPrefixStateReady = 0 := by decide
  have hview : ~~~compactPrefixViewReady &&& compactPrefixStateReady = compactPrefixStateReady := by
    decide
  simp only [prefixStateReady, flags_add]
  split_ifs <;> simp_all [UInt16.and_assoc]

lemma prefixViewReady_add (s : CompactSummary) (r : Record) :
    (add s r).prefixViewReady = (s.prefixViewReady && decide (r.kind ∈ known) &&
      (decide (r.kind ≠ RecordKind.requestPrefix) || decide (HasView r))) := by
  have hboth : ~~~(compactPrefixStateReady ||| compactPrefixViewReady) &&& compactPrefixViewReady =
    0 := by decide
  have hstate : ~~~compactPrefixStateReady &&& compactPrefixViewReady = compactPrefixViewReady := by
    decide
  have hview : ~~~compactPrefixViewReady &&& compactPrefixViewReady = 0 := by decide
  simp only [prefixViewReady, flags_add]
  split_ifs <;> simp_all [UInt16.and_assoc]

/-- The records in use whose kind is one of `kinds`. -/
def ofKinds (kinds : List RecordKind) (entries : List (Option Record)) : List Record :=
  entries.reduceOption.filter fun r => decide (r.kind ∈ kinds)

/-- A field that only the records of some kinds change is the fold over these. -/
lemma foldl_add {β : Type*} (get : CompactSummary → β) (kinds : List RecordKind)
    (f : β → Record → β) (hfree : ∀ s, get (addEntry s none) = get s)
    (hused : ∀ s r, get (addEntry s (some r)) = if r.kind ∈ kinds then f (get s) r else get s)
    (entries : List (Option Record)) (s : CompactSummary) :
    get (entries.foldl addEntry s) = (ofKinds kinds entries).foldl f (get s) := by
  induction entries generalizing s with
  | nil => rfl
  | cons e entries ih =>
    rw [List.foldl_cons, ih]
    cases e with
    | none => rw [hfree, ofKinds, ofKinds, List.reduceOption_cons_of_none]
    | some r =>
      rw [hused, ofKinds, ofKinds, List.reduceOption_cons_of_some]
      by_cases hk : r.kind ∈ kinds <;> simp [hk]

/-- The number of records of some kinds, when `get` counts them. -/
lemma count_add (get : CompactSummary → UInt16) (kinds : List RecordKind)
    (hfree : ∀ s, get (addEntry s none) = get s)
    (hused : ∀ s r, get (addEntry s (some r)) = if r.kind ∈ kinds then get s + 1 else get s)
    (records : RecordList) {s : CompactSummary} (hs : get s = 0) :
    (get (records.entries.foldl addEntry s)).toNat = (ofKinds kinds records.entries).length := by
  have hlen : (ofKinds kinds records.entries).length < 2 ^ 16 :=
    calc (ofKinds kinds records.entries).length ≤ records.entries.reduceOption.length :=
          List.length_filter_le _ _
      _ ≤ records.entries.length := List.reduceOption_length_le _
      _ < 2 ^ 16 := records.length_lt
  have hcount : ∀ (l : List Record) (n : ℕ),
      l.foldl (fun c _ => c + 1) (UInt16.ofNat n) = UInt16.ofNat (n + l.length) := by
    intro l
    induction l with
    | nil => simp
    | cons _ l ih =>
      intro n
      rw [List.foldl_cons, show UInt16.ofNat n + 1 = UInt16.ofNat (n + 1) by simp, ih]
      congr 1
      simp only [List.length_cons]
      omega
  have hzero := hcount (ofKinds kinds records.entries) 0
  rw [Nat.zero_add] at hzero
  rw [foldl_add get kinds (fun c _ => c + 1) hfree hused, hs,
    show (0 : UInt16) = UInt16.ofNat 0 from rfl, hzero, UInt16.toNat_ofNat_of_lt' hlen]

/-- A record in use, of a known kind. -/
def Known : Option Record → Prop
  | none => False
  | some r => r.kind ∈ known

/-- A flag that a prefix record keeps up when `p` holds of it, and that every entry the summary does
not know takes down. -/
lemma flag_add (get : CompactSummary → Bool) (p : Record → Prop) [DecidablePred p]
    (hfree : ∀ s, get (addEntry s none) = false)
    (hused : ∀ s r, get (addEntry s (some r)) = (get s && decide (r.kind ∈ known) &&
      (decide (r.kind ≠ RecordKind.requestPrefix) || decide (p r))))
    (entries : List (Option Record)) (s : CompactSummary) :
    get (entries.foldl addEntry s) = true ↔ get s = true ∧ (∀ e ∈ entries, Known e) ∧
      ∀ r ∈ ofKinds [RecordKind.requestPrefix] entries, p r := by
  induction entries generalizing s with
  | nil => simp [ofKinds]
  | cons e entries ih =>
    rw [List.foldl_cons, ih]
    cases e with
    | none => simp [hfree, Known]
    | some r =>
      rw [hused, ofKinds, ofKinds, List.reduceOption_cons_of_some]
      by_cases hk : r.kind = RecordKind.requestPrefix <;>
        simp [hk, Known, and_assoc, and_left_comm]

/-- The versions of some records, as numbers. -/
def versions (rs : List Record) : List ℕ := rs.map fun r => r.version.toNat

/-- The result segments of some records, as numbers. -/
def results (rs : List Record) : List ℕ := rs.map fun r => r.lastResultSegment.toNat

end CompactSummary

open CompactSummary

namespace RecordList

/-- The prefix records in use. -/
def prefixes (records : RecordList) : List Record :=
  ofKinds [RecordKind.requestPrefix] records.entries

/-- The block records in use. -/
def blocks (records : RecordList) : List Record :=
  ofKinds [RecordKind.blockMeta] records.entries

end RecordList

section Compact

variable (records : RecordList)

/-- The numbers of a 64-bit floor. -/
lemma toNat_lowerFloor (floor v : UInt64) :
    (lowerFloor floor v).toNat = lower floor.toNat v.toNat := by
  have hzero : floor = 0 ↔ floor.toNat = ⊥ := UInt64.toNat_inj.symm
  simp only [lowerFloor, lower, Bool.or_eq_true, decide_eq_true_eq, hzero, UInt64.lt_iff_toNat_lt]
  split_ifs <;> rfl

lemma toNat_foldl_lowerFloor (get : Record → UInt64) (rs : List Record) (floor : UInt64) :
    (rs.foldl (fun f r => lowerFloor f (get r)) floor).toNat =
      (rs.map fun r => (get r).toNat).foldl lower floor.toNat := by
  induction rs generalizing floor with
  | nil => rfl
  | cons r rs ih => rw [List.foldl_cons, ih, toNat_lowerFloor, List.map_cons, List.foldl_cons]

/-- A floor of the summary, by what one record in use does to it. -/
lemma floor_addEntry (get : CompactSummary → UInt64) (kinds : List RecordKind)
    (value : Record → UInt64)
    (hflags : ∀ (s : CompactSummary) (flags : UInt16), get { s with flags } = get s)
    (hused : ∀ s r, get { add s r with flags := 0 } =
      if r.kind ∈ kinds then lowerFloor (get s) (value r) else get s)
    (hzero : get (CompactSummary.start records.entries.length) = 0) :
    (get (compactSummaryOf records)).toNat =
      floorOf ((ofKinds kinds records.entries).map fun r => (value r).toNat) := by
  rw [compactSummaryOf, foldl_add get kinds (fun f r => lowerFloor f (value r)) (fun s => hflags s _),
    toNat_foldl_lowerFloor, hzero]
  · rfl
  · intro s r
    exact (hflags (add s r) 0).symm.trans (hused s r)

lemma prefixVersionFloor_build :
    (compactSummaryOf records).prefixVersionFloor.toNat = floorOf (versions records.prefixes) :=
  floor_addEntry records prefixVersionFloor _ Record.version (fun _ _ => rfl)
    (fun s r => by rw [add_counts]) rfl

lemma prefixResultFloor_build :
    (compactSummaryOf records).prefixResultFloor.toNat = floorOf (results records.prefixes) :=
  floor_addEntry records prefixResultFloor _ Record.lastResultSegment (fun _ _ => rfl)
    (fun s r => by rw [add_counts]) rfl

lemma blockVersionFloor_build :
    (compactSummaryOf records).blockVersionFloor.toNat = floorOf (versions records.blocks) :=
  floor_addEntry records blockVersionFloor _ Record.version (fun _ _ => rfl)
    (fun s r => by rw [add_counts]) rfl

lemma blockResultFloor_build :
    (compactSummaryOf records).blockResultFloor.toNat = floorOf (results records.blocks) :=
  floor_addEntry records blockResultFloor _ Record.lastResultSegment (fun _ _ => rfl)
    (fun s r => by rw [add_counts]) rfl

lemma recordCount_build : (compactSummaryOf records).recordCount.toNat = records.entries.length := by
  have h := foldl_add recordCount [] (fun c _ => c) (fun _ => rfl)
    (fun s r => by
      rw [← show { add s r with flags := 0 }.recordCount = s.recordCount by rw [add_counts]]
      simp [addEntry])
    records.entries (CompactSummary.start records.entries.length)
  have hkinds : ofKinds [] records.entries = [] := by simp [ofKinds]
  rw [compactSummaryOf, h, hkinds]
  exact UInt16.toNat_ofNat_of_lt' records.length_lt

/-- A count of the summary, by what one record in use does to it. -/
lemma count_addEntry (get : CompactSummary → UInt16) (kinds : List RecordKind)
    (hfree : ∀ s, get (addEntry s none) = get s)
    (hadd : ∀ s r, get (add s r) = get { add s r with flags := 0 })
    (hused : ∀ s r, get { add s r with flags := 0 } = if r.kind ∈ kinds then get s + 1 else get s)
    (hzero : get (CompactSummary.start records.entries.length) = 0) :
    (get (compactSummaryOf records)).toNat = (ofKinds kinds records.entries).length :=
  count_add get kinds hfree (fun s r => (hadd s r).trans (hused s r)) records hzero

/-- The counts of a summary are those of the records. -/
structure CountsExact (s : CompactSummary) (records : RecordList) : Prop where
  records_eq : s.recordCount.toNat = records.entries.length
  prefixes_eq : s.prefixCount.toNat = records.prefixes.length
  blocks_eq : s.blockCount.toNat = records.blocks.length
  groups_eq : s.groupCount.toNat = (ofKinds [RecordKind.prefixGroup] records.entries).length
  weightTiles_eq : s.weightTileCount.toNat = (ofKinds [RecordKind.weightTile] records.entries).length
  kvcacheObjects_eq :
    s.kvcacheObjectCount.toNat = (ofKinds [RecordKind.kvcacheObject] records.entries).length
  hiddenRanges_eq : s.hiddenRangeCount.toNat = (ofKinds hiddenKinds records.entries).length

/-- The counts do not wrap: none of them passes the number of records, a 16-bit number. -/
lemma countsExact_build : CountsExact (compactSummaryOf records) records where
  records_eq := recordCount_build records
  prefixes_eq := count_addEntry records prefixCount _ (fun _ => rfl) (fun _ _ => rfl)
    (fun s r => by rw [add_counts]) rfl
  blocks_eq := count_addEntry records blockCount _ (fun _ => rfl) (fun _ _ => rfl)
    (fun s r => by rw [add_counts]) rfl
  groups_eq := count_addEntry records groupCount _ (fun _ => rfl) (fun _ _ => rfl)
    (fun s r => by rw [add_counts]) rfl
  weightTiles_eq := count_addEntry records weightTileCount _ (fun _ => rfl) (fun _ _ => rfl)
    (fun s r => by rw [add_counts]) rfl
  kvcacheObjects_eq := count_addEntry records kvcacheObjectCount _ (fun _ => rfl) (fun _ _ => rfl)
    (fun s r => by rw [add_counts]) rfl
  hiddenRanges_eq := count_addEntry records hiddenRangeCount _ (fun _ => rfl) (fun _ _ => rfl)
    (fun s r => by rw [add_counts]) rfl

lemma ready_start (n : ℕ) : (CompactSummary.start n).prefixStateReady = true ∧
    (CompactSummary.start n).prefixViewReady = true := by
  have hstate : ((compactPrefixStateReady ||| compactPrefixViewReady) &&& compactPrefixStateReady) ≠
    0 := by decide
  have hview : ((compactPrefixStateReady ||| compactPrefixViewReady) &&& compactPrefixViewReady) ≠
    0 := by decide
  exact ⟨bne_iff_ne.mpr hstate, bne_iff_ne.mpr hview⟩

lemma prefixStateReady_build :
    (compactSummaryOf records).prefixStateReady = true ↔ (∀ e ∈ records.entries, Known e) ∧
      ∀ r ∈ records.prefixes, r.state = KvcacheState.reloaded := by
  have hfree : ∀ s : CompactSummary, (addEntry s none).prefixStateReady = false := by
    intro s
    have hboth : ~~~(compactPrefixStateReady ||| compactPrefixViewReady) &&&
      compactPrefixStateReady = 0 := by decide
    simp [addEntry, CompactSummary.prefixStateReady, UInt16.and_assoc, hboth]
  rw [compactSummaryOf, flag_add CompactSummary.prefixStateReady
    (fun r => r.state = KvcacheState.reloaded) hfree prefixStateReady_add, and_iff_right]
  · rfl
  · exact (ready_start _).1

lemma prefixViewReady_build :
    (compactSummaryOf records).prefixViewReady = true ↔ (∀ e ∈ records.entries, Known e) ∧
      ∀ r ∈ records.prefixes, HasView r := by
  have hfree : ∀ s : CompactSummary, (addEntry s none).prefixViewReady = false := by
    intro s
    have hboth : ~~~(compactPrefixStateReady ||| compactPrefixViewReady) &&&
      compactPrefixViewReady = 0 := by decide
    simp [addEntry, CompactSummary.prefixViewReady, UInt16.and_assoc, hboth]
  rw [compactSummaryOf, flag_add CompactSummary.prefixViewReady HasView hfree prefixViewReady_add,
    and_iff_right]
  · rfl
  · exact (ready_start _).2

end Compact

/-- **What the compact summary is for.** Its floors are the minima of the prefixes' and blocks' values,
its counts are exact, and its flags say that every prefix is reloaded, and that every prefix has a
hot segment and a result. -/
structure CompactExact (records : RecordList) : Prop where
  prefixVersion :
    IsFloor (compactSummaryOf records).prefixVersionFloor.toNat (versions records.prefixes)
  prefixResult : IsFloor (compactSummaryOf records).prefixResultFloor.toNat (results records.prefixes)
  blockVersion : IsFloor (compactSummaryOf records).blockVersionFloor.toNat (versions records.blocks)
  blockResult : IsFloor (compactSummaryOf records).blockResultFloor.toNat (results records.blocks)
  counts : CountsExact (compactSummaryOf records) records
  stateReady : (compactSummaryOf records).prefixStateReady = true ↔
    ∀ r ∈ records.prefixes, r.state = KvcacheState.reloaded
  viewReady : (compactSummaryOf records).prefixViewReady = true ↔
    ∀ r ∈ records.prefixes, HasView r

/-- Zero is not among the values, or is the last of them. -/
def ZeroLast (vs : List ℕ) : Prop := 0 ∉ vs ∨ vs.getLast? = some 0

/-- The records for which the compact summary is exact. -/
structure CompactFit (records : RecordList) : Prop where
  prefixVersion : ZeroLast (versions records.prefixes)
  prefixResult : ZeroLast (results records.prefixes)
  blockVersion : ZeroLast (versions records.blocks)
  blockResult : ZeroLast (results records.blocks)
  known : (∀ e ∈ records.entries, Known e) ∨
    (∃ r ∈ records.prefixes, r.state ≠ KvcacheState.reloaded) ∧ ∃ r ∈ records.prefixes, ¬ HasView r

/-- A flag that also asks for known entries says what it should when they are known or it is down
anyway. -/
lemma flag_iff {known all flag : Prop} (h : flag ↔ known ∧ all) : (flag ↔ all) ↔ known ∨ ¬ all := by
  rw [h]
  tauto

theorem compactExact_iff (records : RecordList) : CompactExact records ↔ CompactFit records := by
  have hstate := flag_iff (prefixStateReady_build records)
  have hview := flag_iff (prefixViewReady_build records)
  constructor
  · intro h
    have hs := hstate.mp h.stateReady
    have hv := hview.mp h.viewReady
    refine ⟨?_, ?_, ?_, ?_, ?_⟩
    · exact floorOf_isFloor_iff.mp (prefixVersionFloor_build records ▸ h.prefixVersion)
    · exact floorOf_isFloor_iff.mp (prefixResultFloor_build records ▸ h.prefixResult)
    · exact floorOf_isFloor_iff.mp (blockVersionFloor_build records ▸ h.blockVersion)
    · exact floorOf_isFloor_iff.mp (blockResultFloor_build records ▸ h.blockResult)
    · push Not at hs hv
      rcases hs with hs | hs
      · exact Or.inl hs
      · exact hv.imp_right fun hv => ⟨hs, hv⟩
  · intro h
    have hknown := h.known
    refine ⟨?_, ?_, ?_, ?_, countsExact_build records, hstate.mpr ?_, hview.mpr ?_⟩
    · exact prefixVersionFloor_build records ▸ floorOf_isFloor_iff.mpr h.prefixVersion
    · exact prefixResultFloor_build records ▸ floorOf_isFloor_iff.mpr h.prefixResult
    · exact blockVersionFloor_build records ▸ floorOf_isFloor_iff.mpr h.blockVersion
    · exact blockResultFloor_build records ▸ floorOf_isFloor_iff.mpr h.blockResult
    · push Not
      exact hknown.imp_right And.left
    · push Not
      exact hknown.imp_right And.right

/-! ## What the cluster observation computes -/

section Cluster

variable {localIdx : ℕ} {localRecord : Record} {snapshot : List (Option Record)}
  {nodes : List CompactSummary} {s : ClusterSummary}

namespace ClusterSummary

/-- The own snapshot touches the two coherence flags only. -/
lemma checkOwn_eq_some {s s' : ClusterSummary} {e : Option Record}
    (h : checkOwn localRecord s e = some s') :
    ∃ p q, s' = { s with placementCoherent := p, stateCoherent := q } := by
  cases e with
  | none => cases h
  | some r =>
    simp only [checkOwn] at h
    split_ifs at h with hblock hpass
    · exact ⟨_, _, (Option.some_inj.mp h).symm⟩
    · exact ⟨s.placementCoherent, s.stateCoherent, (Option.some_inj.mp h).symm⟩

/-- A field that the coherence flags and `ready` do not touch is the fold over the nodes. -/
lemma get_observeCluster {β : Type*} (get : ClusterSummary → β) (f : β → CompactSummary → β)
    (hadd : ∀ s b c, get (addNode s b c) = f (get s) c)
    (hflags : ∀ s p q, get { s with placementCoherent := p, stateCoherent := q } = get s)
    (hready : ∀ s b, get { s with ready := b } = get s)
    (h : observeCluster localIdx localRecord snapshot nodes = some s) :
    get s = nodes.foldl f (get
      { nodeCount := nodes.length
        localVersion := localRecord.version.toNat
        peerVersionFloor := localRecord.version.toNat
        peerResultFloor := localRecord.lastResultSegment.toNat }) := by
  have hown : ∀ (l : List (Option Record)) (t t' : ClusterSummary),
      l.foldlM (checkOwn localRecord) t = some t' → get t' = get t := by
    intro l
    induction l with
    | nil =>
      rintro t t' ⟨⟩
      rfl
    | cons e l ih =>
      intro t t' ht
      rw [List.foldlM_cons, Option.bind_eq_bind, Option.bind_eq_some_iff] at ht
      obtain ⟨u, hu, ht⟩ := ht
      obtain ⟨p, q, rfl⟩ := checkOwn_eq_some hu
      rw [ih _ _ ht, hflags]
  have hrun : ∀ (l : List CompactSummary) (k : ℕ) (t t' : ClusterSummary),
      (l.zipIdx k).foldlM (observeNode localIdx localRecord snapshot) t = some t' →
        get t' = l.foldl f (get t) := by
    intro l
    induction l with
    | nil =>
      rintro k t t' ⟨⟩
      rfl
    | cons c l ih =>
      intro k t t' ht
      rw [List.zipIdx_cons, List.foldlM_cons, Option.bind_eq_bind, Option.bind_eq_some_iff] at ht
      obtain ⟨u, hu, ht⟩ := ht
      rw [ih _ _ _ ht, List.foldl_cons]
      congr 1
      unfold observeNode at hu
      split_ifs at hu with hcount hlocal
      · rw [hown _ _ _ hu, hadd]
      · rw [← Option.some_inj.mp hu, hadd]
  unfold observeCluster at h
  rw [Option.map_eq_some_iff] at h
  obtain ⟨t, ht, rfl⟩ := h
  rw [hready, hrun _ _ _ _ ht]

end ClusterSummary

/-- The records of the own snapshot the observation gets over. -/
def Accepted : Option Record → Prop
  | none => False
  | some r => r.kind = RecordKind.blockMeta ∨ r.kind ∈ ClusterSummary.passedOver

lemma checkOwn_isSome_iff (t : ClusterSummary) (e : Option Record) :
    (ClusterSummary.checkOwn localRecord t e).isSome = true ↔ Accepted e := by
  cases e with
  | none => simp [ClusterSummary.checkOwn, Accepted]
  | some r =>
    simp only [ClusterSummary.checkOwn, Accepted]
    split_ifs with hblock hpass <;> simp_all

/-- A payload has between one record and the most it holds. -/
def InRange (c : CompactSummary) : Prop :=
  c.recordCount ≠ 0 ∧ c.recordCount.toNat ≤ clusterMaxRecords

lemma observeNode_isSome_iff (t : ClusterSummary) (node : CompactSummary × ℕ) :
    (ClusterSummary.observeNode localIdx localRecord snapshot t node).isSome = true ↔
      InRange node.1 ∧ (node.2 = localIdx → ∀ e ∈ snapshot, Accepted e) := by
  unfold ClusterSummary.observeNode InRange
  split_ifs with hcount hlocal
  · simp only [Option.isSome_none, Bool.false_eq_true, false_iff, not_and]
    intro h
    rcases hcount with hcount | hcount
    · exact absurd hcount h.1
    · exact absurd h.2 (by omega)
  · rw [not_or, Nat.not_lt] at hcount
    rw [Run.isSome_foldlM_iff checkOwn_isSome_iff]
    simp only [hcount, hlocal, ne_eq, not_false_eq_true, and_self, forall_const, true_and]
  · rw [not_or, Nat.not_lt] at hcount
    simp only [hcount, hlocal, Option.isSome_some, ne_eq, not_false_eq_true, and_self,
      IsEmpty.forall_iff]

/-- **When the observation succeeds.** Every node's payload is in range, and the node's own snapshot has
only kinds the observation knows. -/
lemma observeCluster_isSome_iff :
    (observeCluster localIdx localRecord snapshot nodes).isSome = true ↔
      (∀ c ∈ nodes, InRange c) ∧ (localIdx < nodes.length → ∀ e ∈ snapshot, Accepted e) := by
  rw [observeCluster, Option.isSome_map, Run.isSome_foldlM_iff observeNode_isSome_iff]
  constructor
  · intro h
    constructor
    · intro c hc
      obtain ⟨i, hi, rfl⟩ := List.getElem_of_mem hc
      exact (h (nodes[i], i) (by simp [List.mk_mem_zipIdx_iff_getElem?, hi])).1
    · intro hi
      exact (h (nodes[localIdx], localIdx)
        (by simp [List.mk_mem_zipIdx_iff_getElem?, hi])).2 rfl
  · rintro ⟨hrange, hsnap⟩ ⟨c, i⟩ hnode
    rw [List.mk_mem_zipIdx_iff_getElem?] at hnode
    obtain ⟨hi, rfl⟩ := List.getElem?_eq_some_iff.mp hnode
    refine ⟨hrange _ (List.getElem_mem hi), ?_⟩
    rintro rfl
    exact hsnap hi

/-- Whether the observation succeeds does not depend on the order of the nodes. -/
lemma observeCluster_perm (h : observeCluster localIdx localRecord snapshot nodes = some s)
    {nodes' : List CompactSummary} (hp : nodes'.Perm nodes) :
    ∃ s', observeCluster localIdx localRecord snapshot nodes' = some s' := by
  have hs := observeCluster_isSome_iff.mp (Option.isSome_iff_exists.mpr ⟨s, h⟩)
  rw [← Option.isSome_iff_exists, observeCluster_isSome_iff, hp.length_eq]
  exact ⟨fun c hc => hs.1 c (hp.mem_iff.mp hc), hs.2⟩

/-- The floors of an observation, each as the fold over the nodes' values that computes it. -/
lemma observeCluster_floors (h : observeCluster localIdx localRecord snapshot nodes = some s) :
    s.peerVersionFloor =
        (nodes.map fun c => c.blockVersionFloor.toNat).foldl lowerTo localRecord.version.toNat ∧
      s.peerResultFloor =
        (nodes.map fun c => c.blockResultFloor.toNat).foldl lowerTo localRecord.lastResultSegment.toNat ∧
      s.peerPrefixVersionFloor = (nodes.map fun c => c.prefixVersionFloor.toNat).foldl lowerSet ⊥ ∧
      s.peerPrefixResultFloor = (nodes.map fun c => c.prefixResultFloor.toNat).foldl lowerSet ⊥ ∧
      s.peerRecordCountFloor = floorOf (nodes.map fun c => c.recordCount.toNat) ∧
      s.peerPrefixCountFloor = floorOf (nodes.map fun c => c.prefixCount.toNat) ∧
      s.peerBlockCountFloor = floorOf (nodes.map fun c => c.blockCount.toNat) ∧
      s.peerGroupCountFloor = floorOf (nodes.map fun c => c.groupCount.toNat) := by
  simp only [floorOf, List.foldl_map]
  refine ⟨?_, ?_, ?_, ?_, ?_, ?_, ?_, ?_⟩
  · exact ClusterSummary.get_observeCluster ClusterSummary.peerVersionFloor _
      (fun _ _ _ => rfl) (fun _ _ _ => rfl) (fun _ _ => rfl) h
  · exact ClusterSummary.get_observeCluster ClusterSummary.peerResultFloor _
      (fun _ _ _ => rfl) (fun _ _ _ => rfl) (fun _ _ => rfl) h
  · exact ClusterSummary.get_observeCluster ClusterSummary.peerPrefixVersionFloor _
      (fun _ _ _ => rfl) (fun _ _ _ => rfl) (fun _ _ => rfl) h
  · exact ClusterSummary.get_observeCluster ClusterSummary.peerPrefixResultFloor _
      (fun _ _ _ => rfl) (fun _ _ _ => rfl) (fun _ _ => rfl) h
  · exact ClusterSummary.get_observeCluster ClusterSummary.peerRecordCountFloor _
      (fun _ _ _ => rfl) (fun _ _ _ => rfl) (fun _ _ => rfl) h
  · exact ClusterSummary.get_observeCluster ClusterSummary.peerPrefixCountFloor _
      (fun _ _ _ => rfl) (fun _ _ _ => rfl) (fun _ _ => rfl) h
  · exact ClusterSummary.get_observeCluster ClusterSummary.peerBlockCountFloor _
      (fun _ _ _ => rfl) (fun _ _ _ => rfl) (fun _ _ => rfl) h
  · exact ClusterSummary.get_observeCluster ClusterSummary.peerGroupCountFloor _
      (fun _ _ _ => rfl) (fun _ _ _ => rfl) (fun _ _ => rfl) h

end Cluster

namespace ClusterSummary

/-- The eight floors. -/
def floors (s : ClusterSummary) : List ℕ :=
  [s.peerVersionFloor, s.peerResultFloor, s.peerPrefixVersionFloor, s.peerPrefixResultFloor,
    s.peerRecordCountFloor, s.peerPrefixCountFloor, s.peerBlockCountFloor, s.peerGroupCountFloor]

/-- The floors of the observation are below the values of every node that has such records. -/
structure Bounds (s : ClusterSummary) (c : CompactSummary) : Prop where
  records_le : s.peerRecordCountFloor ≤ c.recordCount.toNat
  blocks : c.blockCount.toNat ≠ 0 → s.peerVersionFloor ≤ c.blockVersionFloor.toNat ∧
    s.peerResultFloor ≤ c.blockResultFloor.toNat ∧ s.peerBlockCountFloor ≤ c.blockCount.toNat
  prefixes : c.prefixCount.toNat ≠ 0 → s.peerPrefixVersionFloor ≤ c.prefixVersionFloor.toNat ∧
    s.peerPrefixResultFloor ≤ c.prefixResultFloor.toNat ∧ s.peerPrefixCountFloor ≤ c.prefixCount.toNat
  groups : c.groupCount.toNat ≠ 0 → s.peerGroupCountFloor ≤ c.groupCount.toNat

end ClusterSummary

/-- **What the cluster floors are for.** Whichever way the nodes are ordered, the floors are the same and
below the values of every node that has such records. -/
def ClusterSound (localRecord : Record) (nodes : List CompactSummary) (s : ClusterSummary) : Prop :=
  ∀ (localIdx : ℕ) (snapshot : List (Option Record)) (nodes' : List CompactSummary)
    (s' : ClusterSummary), nodes'.Perm nodes →
    observeCluster localIdx localRecord snapshot nodes' = some s' →
      s'.floors = s.floors ∧ ∀ c ∈ nodes, s'.Bounds c

/-- All nodes have some, or none has any. -/
def AllOrNone (count : CompactSummary → UInt16) (nodes : List CompactSummary) : Prop :=
  (∀ c ∈ nodes, (count c).toNat = 0) ∨ ∀ c ∈ nodes, (count c).toNat ≠ 0

/-- The nodes for which the cluster floors are sound. -/
structure ClusterFit (localRecord : Record) (nodes : List CompactSummary) : Prop where
  blockVersion : localRecord.version.toNat = 0 ∨
    ∀ c ∈ nodes, c.blockCount.toNat ≠ 0 → c.blockVersionFloor.toNat ≠ 0
  blockResult : localRecord.lastResultSegment.toNat = 0 ∨
    ∀ c ∈ nodes, c.blockCount.toNat ≠ 0 → c.blockResultFloor.toNat ≠ 0
  prefixVersion : (∀ c ∈ nodes, c.prefixVersionFloor.toNat = 0) ∨
    ∀ c ∈ nodes, c.prefixCount.toNat ≠ 0 → c.prefixVersionFloor.toNat ≠ 0
  prefixResult : (∀ c ∈ nodes, c.prefixResultFloor.toNat = 0) ∨
    ∀ c ∈ nodes, c.prefixCount.toNat ≠ 0 → c.prefixResultFloor.toNat ≠ 0
  prefixes : AllOrNone prefixCount nodes
  blocks : AllOrNone blockCount nodes
  groups : AllOrNone groupCount nodes

section Sound

variable {localIdx : ℕ} {localRecord : Record} {snapshot : List (Option Record)}
  {nodes : List CompactSummary} {s : ClusterSummary}

/-- The node counts of records are never zero in an observation that succeeds. -/
lemma recordCount_ne_zero (h : observeCluster localIdx localRecord snapshot nodes = some s) :
    ∀ c ∈ nodes, c.recordCount.toNat ≠ 0 := by
  intro c hc hzero
  have hrange := (observeCluster_isSome_iff.mp (Option.isSome_iff_exists.mpr ⟨s, h⟩)).1 c hc
  exact hrange.1 (UInt16.toNat_inj.mp hzero)

/-- A count floor bounds the counts of the nodes that have some, when all have or none has. -/
lemma count_floor_le {count : CompactSummary → UInt16} (h : AllOrNone count nodes)
    {c : CompactSummary} (hc : c ∈ nodes) (hne : (count c).toNat ≠ 0) :
    floorOf (nodes.map fun c => (count c).toNat) ≤ (count c).toNat := by
  rcases h with h | h
  · exact absurd (h c hc) hne
  · refine floorOf_le ?_ (List.mem_map_of_mem (f := fun c => (count c).toNat) hc)
    intro hbot
    obtain ⟨d, hd, hzero⟩ := List.mem_map.mp hbot
    exact h d hd hzero

lemma count_floor_perm {count : CompactSummary → UInt16} (h : AllOrNone count nodes)
    {nodes' : List CompactSummary} (hp : nodes'.Perm nodes) :
    floorOf (nodes'.map fun c => (count c).toNat) = floorOf (nodes.map fun c => (count c).toNat) := by
  refine (floorOf_perm (hp.symm.map _) ?_).symm
  simpa only [AllOrNone, Nat.bot_eq_zero, List.mem_map, forall_exists_index, and_imp,
    forall_apply_eq_imp_iff₂] using h

/-- Two orders of the nodes that disagree on a count floor, when some nodes have none and some have. -/
lemma allOrNone_of_perm {count : CompactSummary → UInt16}
    (h : ∀ nodes₁ nodes₂ : List CompactSummary, nodes₁.Perm nodes → nodes₂.Perm nodes →
      floorOf (nodes₁.map fun c => (count c).toNat) = floorOf (nodes₂.map fun c => (count c).toNat)) :
    AllOrNone count nodes := by
  by_contra hcon
  rw [AllOrNone, not_or] at hcon
  push Not at hcon
  obtain ⟨⟨c, hc, hne⟩, d, hd, hzero⟩ := hcon
  obtain ⟨l₁, l₂, hp₁, hp₂, hdiff⟩ :=
    exists_perm_floorOf_ne (g := fun c => (count c).toNat) hd hc hzero hne
  exact hdiff (h l₁ l₂ hp₁ hp₂)

/-- The cluster floors are sound just for the nodes that fit. -/
lemma clusterSound_iff (h : observeCluster localIdx localRecord snapshot nodes = some s) :
    ClusterSound localRecord nodes s ↔ ClusterFit localRecord nodes := by
  obtain ⟨hs1, hs2, hs3, hs4, hs5, hs6, hs7, hs8⟩ := observeCluster_floors h
  constructor
  · intro hsound
    have hb := (hsound localIdx snapshot nodes s (List.Perm.refl _) h).2
    have hcount : ∀ (count : CompactSummary → UInt16) (k : ℕ),
        (∀ nodes' s', nodes'.Perm nodes →
          observeCluster localIdx localRecord snapshot nodes' = some s' →
            s'.floors[k]? = some (floorOf (nodes'.map fun c => (count c).toNat))) →
        AllOrNone count nodes := by
      intro count k hget
      apply allOrNone_of_perm
      intro nodes₁ nodes₂ hp₁ hp₂
      obtain ⟨s₁, h₁⟩ := observeCluster_perm h hp₁
      obtain ⟨s₂, h₂⟩ := observeCluster_perm h hp₂
      have hf₁ := (hsound localIdx snapshot nodes₁ s₁ hp₁ h₁).1
      have hf₂ := (hsound localIdx snapshot nodes₂ s₂ hp₂ h₂).1
      have hk₁ := hget nodes₁ s₁ hp₁ h₁
      have hk₂ := hget nodes₂ s₂ hp₂ h₂
      rw [hf₁] at hk₁
      rw [hf₂, hk₁] at hk₂
      exact Option.some_inj.mp hk₂
    refine ⟨?_, ?_, ?_, ?_, hcount prefixCount 5 ?_, hcount blockCount 6 ?_, hcount groupCount 7 ?_⟩
    · rw [← Nat.bot_eq_zero, ← foldl_lowerTo_bound_iff, ← hs1]
      exact fun c hc hne => ((hb c hc).blocks hne).1
    · rw [← Nat.bot_eq_zero, ← foldl_lowerTo_bound_iff, ← hs2]
      exact fun c hc hne => ((hb c hc).blocks hne).2.1
    · rw [← Nat.bot_eq_zero, ← foldl_lowerSet_bound_iff, ← hs3]
      exact fun c hc hne => ((hb c hc).prefixes hne).1
    · rw [← Nat.bot_eq_zero, ← foldl_lowerSet_bound_iff, ← hs4]
      exact fun c hc hne => ((hb c hc).prefixes hne).2.1
    · intro nodes' s' _ h'
      exact congrArg some (observeCluster_floors h').2.2.2.2.2.1
    · intro nodes' s' _ h'
      exact congrArg some (observeCluster_floors h').2.2.2.2.2.2.1
    · intro nodes' s' _ h'
      exact congrArg some (observeCluster_floors h').2.2.2.2.2.2.2
  · intro hfit idx snap nodes' s' hp h'
    obtain ⟨h1, h2, h3, h4, h5, h6, h7, h8⟩ := observeCluster_floors h'
    have hrec : AllOrNone recordCount nodes := Or.inr (recordCount_ne_zero h)
    have e1 : s'.peerVersionFloor = s.peerVersionFloor := by
      rw [h1, hs1, (hp.map _).foldl_eq]
    have e2 : s'.peerResultFloor = s.peerResultFloor := by
      rw [h2, hs2, (hp.map _).foldl_eq]
    have e3 : s'.peerPrefixVersionFloor = s.peerPrefixVersionFloor := by
      rw [h3, hs3, (hp.map _).foldl_eq]
    have e4 : s'.peerPrefixResultFloor = s.peerPrefixResultFloor := by
      rw [h4, hs4, (hp.map _).foldl_eq]
    have e5 := h5.trans ((count_floor_perm hrec hp).trans hs5.symm)
    have e6 := h6.trans ((count_floor_perm hfit.prefixes hp).trans hs6.symm)
    have e7 := h7.trans ((count_floor_perm hfit.blocks hp).trans hs7.symm)
    have e8 := h8.trans ((count_floor_perm hfit.groups hp).trans hs8.symm)
    refine ⟨by simp only [ClusterSummary.floors, e1, e2, e3, e4, e5, e6, e7, e8], ?_⟩
    intro c hc
    refine ⟨?_, ?_, ?_, ?_⟩
    · rw [e5, hs5]
      exact count_floor_le hrec hc (recordCount_ne_zero h c hc)
    · intro hne
      rw [e1, e2, e7, hs1, hs2, hs7]
      exact ⟨foldl_lowerTo_bound_iff.mpr hfit.blockVersion c hc hne,
        foldl_lowerTo_bound_iff.mpr hfit.blockResult c hc hne, count_floor_le hfit.blocks hc hne⟩
    · intro hne
      rw [e3, e4, e6, hs3, hs4, hs6]
      exact ⟨foldl_lowerSet_bound_iff.mpr hfit.prefixVersion c hc hne,
        foldl_lowerSet_bound_iff.mpr hfit.prefixResult c hc hne, count_floor_le hfit.prefixes hc hne⟩
    · intro hne
      rw [e8, hs8]
      exact count_floor_le hfit.groups hc hne

/-- **Floors of summaries.** The compact summary of a list of records is exact, and the floors of an
observation that succeeds are lower bounds whatever the order of the nodes, just when: no prefix and
no block has a zero version or result but the last one of the list; every entry is in use and of a
kind the summary knows (or both flags are down because of a prefix); no node with blocks or prefixes
has a zero floor for them (or every floor they are compared with is zero); and all nodes have
prefixes, blocks and groups or none has. -/
theorem summary_floors_iff (records : RecordList)
    (h : observeCluster localIdx localRecord snapshot nodes = some s) :
    CompactExact records ∧ ClusterSound localRecord nodes s ↔
      CompactFit records ∧ ClusterFit localRecord nodes :=
  and_congr (compactExact_iff records) (clusterSound_iff h)

end Sound

/-- A block record with a version and a result. -/
def blockOf (version result : UInt64) : Record :=
  { kind := RecordKind.blockMeta, version, lastResultSegment := result }

/-- A block without a result, and one with a result behind it. -/
def freshAndFilled : RecordList := ⟨[some (blockOf 1 0), some (blockOf 1 5)], by decide⟩

/-- Three nodes with three, no and five prefixes. -/
def unevenNodes : List CompactSummary :=
  [{ recordCount := 3, prefixCount := 3, prefixVersionFloor := 1, prefixResultFloor := 1 },
    { recordCount := 1, groupCount := 1 },
    { recordCount := 5, prefixCount := 5, prefixVersionFloor := 1, prefixResultFloor := 1 }]

/-- Two blocks with results. -/
def filledBlocks : RecordList := ⟨[some (blockOf 2 7), some (blockOf 1 5)], by decide⟩

/-- What a cluster of one node with these blocks observes. -/
def filledSummary : ClusterSummary where
  ready := true
  nodeCount := 1
  peerRecordCountFloor := 2
  peerBlockCountFloor := 2
  localVersion := 2
  peerVersionFloor := 1
  peerResultFloor := 5

/-- Two filled blocks on one node: the summary is exact and the floors are sound. -/
theorem summary_floors_filled :
    CompactExact filledBlocks ∧
      ClusterSound (blockOf 2 7) [compactSummaryOf filledBlocks] filledSummary := by
  refine (@summary_floors_iff 0 (blockOf 2 7) filledBlocks.entries _ _ filledBlocks
    (by decide +kernel)).mpr ⟨?_, ?_⟩
  · refine ⟨Or.inl ?_, Or.inl ?_, Or.inl ?_, Or.inl ?_, Or.inl ?_⟩ <;>
      simp [filledBlocks, versions, results, RecordList.prefixes, RecordList.blocks, ofKinds,
        blockOf, Known, known, RecordKind.requestPrefix, RecordKind.blockMeta]
  · refine ⟨Or.inr ?_, Or.inr ?_, Or.inl ?_, Or.inl ?_, Or.inl ?_, Or.inr ?_, Or.inl ?_⟩ <;>
      decide +kernel

/-- **Zero is taken for "unset".** A block without a result is forgotten by the next block: the result
floor is 5, not 0, so the summary is not exact.  A node without prefixes makes the cluster forget the
counts of the nodes before it: the count floor is 5 though a node has three prefixes. -/
theorem floors_forget_at_zero :
    results freshAndFilled.blocks = [0, 5] ∧
      (compactSummaryOf freshAndFilled).blockResultFloor = 5 ∧ ¬ CompactExact freshAndFilled ∧
      ((observeCluster 0 (blockOf 1 1) [] unevenNodes).map fun s => s.peerPrefixCountFloor) = some 5 ∧
      unevenNodes.map (fun c => c.prefixCount.toNat) = [3, 0, 5] := by
  refine ⟨by decide, by decide, ?_, by decide +kernel, by decide⟩
  intro h
  have hfloor := h.blockResult.2 (by decide)
  have hzero : (compactSummaryOf freshAndFilled).blockResultFloor ≤ 0 :=
    hfloor.2 (show (0 : ℕ) ∈ results freshAndFilled.blocks by decide)
  revert hzero
  decide

end MemService
