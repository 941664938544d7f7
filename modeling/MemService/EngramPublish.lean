import MemService.LayerPlacement
import MemService.Lib.Segments
import MemService.Lib.WordArray
import MemService.ObjectWaits

/-!
# What the owner of an engram publishes

`mem_service_qwen3_engram_publish_flow.c`.  For each decode step the owner of an engram publishes the
candidates for the next token, and after the decision the history of tokens, the selected token and the
state.  Each is an array of 64-bit words in the arena of the owner's region, with a record that says where
it lies; then the record table is published, and a descriptor for each object goes to the peers.

A publication can fail half way: with ranges of the arena given out, with the words written, or with the
first records put.  A record that was put stays in the owner's table, and goes out with the next one.

`EngramState.Sound` is what a run of publications keeps: under every record of an engram the region holds
the words it was put for.
-/

open ByteText CNumeral

namespace MemService

/-! ## Sessions and keys -/

/-- A byte that a session may have: a hexadecimal digit, an underscore or a hyphen. -/
def engramSessionByte (b : UInt8) : Bool :=
  (48 ≤ b && b ≤ 57) || (97 ≤ b && b ≤ 102) || (65 ≤ b && b ≤ 70) || b == 95 || b == 45

/-- `mem_service_qwen3_engram_session_id`, into a buffer of 32 bytes. -/
def qwen3EngramSessionId (env : Option Bytes) : Bytes :=
  match env with
  | none => ascii "guest"
  | some s => if s = [] || s.length ≥ 32 || !s.all engramSessionByte then ascii "guest" else s

/-- `mem_service_qwen3_engram_owner_index`, for a cluster that has nodes. -/
def qwen3EngramOwnerIndex (env : Option Bytes) (clusterNodeCount : UInt32) : ℕ :=
  match env.bind (readU64 10) with
  | some parsed =>
      if parsed = 0 || parsed.toNat > clusterNodeCount.toNat then clusterNodeCount.toNat - 1
      else parsed.toNat - 1
  | none => clusterNodeCount.toNat - 1

/-- What the environment says about the engram. -/
structure EngramEnv where
  sessionId : Option Bytes
  ownerNode : Option Bytes

/-- The front of every key of a session. -/
def EngramEnv.sessionKey (env : EngramEnv) : Bytes :=
  ascii "qwen3/session/" ++ qwen3EngramSessionId env.sessionId

/-- The front of the keys of a step. -/
def EngramEnv.stepKey (env : EngramEnv) (decodeStep : UInt64) : Bytes :=
  env.sessionKey ++ ascii "/step/" ++ decimal decodeStep.toNat

/-- `mem_service_qwen3_engram_history_key`.  No key of an engram fills its buffer of 96 bytes. -/
def qwen3EngramHistoryKey (env : EngramEnv) : Bytes := env.sessionKey ++ ascii "/tokens/history"

/-- `mem_service_qwen3_engram_candidates_key`. -/
def qwen3EngramCandidatesKey (env : EngramEnv) (decodeStep : UInt64) : Bytes :=
  env.stepKey decodeStep ++ ascii "/candidates/topk"

/-- `mem_service_qwen3_engram_selected_key`. -/
def qwen3EngramSelectedKey (env : EngramEnv) (decodeStep : UInt64) : Bytes :=
  env.stepKey decodeStep ++ ascii "/tokens/selected"

/-- `mem_service_qwen3_engram_state_key`. -/
def qwen3EngramStateKey (env : EngramEnv) (decodeStep : UInt64) : Bytes :=
  env.stepKey decodeStep ++ ascii "/engram/state"

/-! ## The words -/

/-- An array of `uint64_t` in memory. -/
def wordsImage (words : List UInt64) : Bytes := WordArray.image 8 (words.map UInt64.toNat)

/-- One column of the arrays that `publish_engram_candidates` is given; an array that is missing counts
as zeros. -/
structure EngramCandidate where
  token : UInt64
  logitBits : UInt64
  textChecksum : UInt64
  pieceBytes : UInt64
  pieceWord0 : UInt64
  pieceWord1 : UInt64

/-- What `mem_service_obmm_service_v0_publish_engram_candidates` publishes. -/
structure CandidatesCall where
  decodeStep : UInt64
  candidates : List EngramCandidate

/-- The candidates that are packed: the first four. -/
def CandidatesCall.packed (call : CandidatesCall) : List EngramCandidate := call.candidates.take 4

/-- The words of the `i`-th candidate. -/
def EngramCandidate.words (c : EngramCandidate) (i : ℕ) : List UInt64 :=
  [UInt64.ofNat i, c.token, c.logitBits, c.textChecksum, c.pieceBytes, c.pieceWord0, c.pieceWord1]

/-- Words with their checksum behind them. -/
def sealWords (words : List UInt64) : List UInt64 := words ++ [checksumBytes (wordsImage words)]

/-- The words of the candidates in front of their checksum, those that are not used being zero. -/
def candidateFront (call : CandidatesCall) : List UInt64 :=
  let used := call.decodeStep :: UInt64.ofNat call.packed.length ::
    (call.packed.zipIdx.flatMap fun p => p.1.words p.2)
  used ++ List.replicate (31 - used.length) 0

/-- `mem_service_pack_qwen3_engram_candidates`, into 32 words. -/
def packQwen3EngramCandidates (call : CandidatesCall) : List UInt64 := sealWords (candidateFront call)

/-- What `mem_service_obmm_service_v0_publish_engram_step` publishes.  The scores are signed words. -/
structure DecisionCall where
  decodeStep : UInt64
  historyTokens : List UInt64
  rawSampledToken : UInt64
  runnerUpToken : UInt64
  selectedToken : UInt64
  blockedCount : UInt64
  fallbackUsed : UInt64
  topScoreMilli : Int64
  runnerUpScoreMilli : Int64
  noRepeatNgramSize : UInt64
  repetitionPenaltyMilli : UInt64
  historyWindow : UInt64
  logitsChecksum : UInt64
  textChecksum : UInt64

namespace DecisionCall

variable (call : DecisionCall)

/-- `published_history_token_count`: the selected token comes behind the others. -/
def historyTokenCount : UInt64 := UInt64.ofNat (call.historyTokens.length + 1)

/-- `history_words`, as far as they are published. -/
def historyWords : List UInt64 :=
  (call.decodeStep + 1) :: call.historyTokenCount :: (call.historyTokens ++ [call.selectedToken])

/-- `selected_words`. -/
def selectedWords : List UInt64 :=
  [call.decodeStep, call.selectedToken, call.rawSampledToken, call.runnerUpToken, call.fallbackUsed,
    call.blockedCount, call.logitsChecksum, 0]

/-- `state_words`. -/
def stateWords : List UInt64 :=
  sealWords [call.decodeStep, call.historyTokenCount, call.selectedToken,
    checksumBytes (wordsImage call.historyWords), call.noRepeatNgramSize, call.repetitionPenaltyMilli,
    call.blockedCount, call.fallbackUsed, call.rawSampledToken, call.runnerUpToken,
    call.topScoreMilli.toUInt64, call.runnerUpScoreMilli.toUInt64, call.historyWindow,
    call.logitsChecksum, call.textChecksum]

end DecisionCall

/-! ## Objects -/

/-- `MEM_SERVICE_OBMM_QWEN3_ENGRAM_HISTORY_BYTES`. -/
def engramHistoryBytes : ℕ := 0x2000

/-- The four objects of an engram, with the call that publishes them. -/
inductive EngramObject
  | candidates (call : CandidatesCall)
  | history (call : DecisionCall)
  | selected (call : DecisionCall)
  | state (call : DecisionCall)

namespace EngramObject

/-- The words of an object. -/
def words : EngramObject → List UInt64
  | candidates call => packQwen3EngramCandidates call
  | history call => call.historyWords
  | selected call => call.selectedWords
  | state call => call.stateWords

/-- The bytes of an object in the region. -/
def payload (o : EngramObject) : Bytes := wordsImage o.words

def recordKind : EngramObject → RecordKind
  | candidates _ => RecordKind.modelEngramCandidates
  | history _ => RecordKind.modelEngramHistory
  | selected _ => RecordKind.modelEngramSelected
  | state _ => RecordKind.modelEngramState

def payloadKind : EngramObject → UInt32
  | candidates _ => kindEngramCandidates
  | history _ => kindEngramHistory
  | selected _ => kindEngramSelected
  | state _ => kindEngramState

def key (env : EngramEnv) : EngramObject → Bytes
  | candidates call => qwen3EngramCandidatesKey env call.decodeStep
  | history _ => qwen3EngramHistoryKey env
  | selected call => qwen3EngramSelectedKey env call.decodeStep
  | state call => qwen3EngramStateKey env call.decodeStep

/-- What the calls check of an object. -/
def Fits : EngramObject → Prop
  | candidates call => call.candidates ≠ []
  | history call => (history call).payload.length ≤ engramHistoryBytes
  | _ => True

/-- What is said about an object to `mem_service_put_obmm_object_record`. -/
def object (env : EngramEnv) (o : EngramObject) : ObjectRecord where
  recordKind := o.recordKind
  key := o.key env
  payloadKind := o.payloadKind
  recycle := recycleQwen3RuntimeRecord

/-- The length of an object, as the calls compute it. -/
def len (o : EngramObject) : UInt64 := UInt64.ofNat o.payload.length

end EngramObject

/-! ## A publication -/

/-- The allocations of a publication, one after the other; the first that fails ends it. -/
def allocEach : ClusterNode → List UInt64 → ClusterNode × Option (List UInt64)
  | node, [] => (node, some [])
  | node, len :: lens =>
      match payloadArenaAlloc node len ArenaAlign.cacheLine.bytes with
      | (node, none) => (node, none)
      | (node, some offset) =>
          let (node, offsets) := allocEach node lens
          (node, offsets.map fun offsets => offset :: offsets)

/-- The records of a publication, put one after the other; the first that cannot be put ends it.  The
records that were put, and whether all were. -/
def putEach (env : EngramEnv) : ClusterNode → List (EngramObject × UInt64) →
    ClusterNode × List (Record × EngramObject) × Bool
  | node, [] => (node, [], true)
  | node, (o, offset) :: rest =>
      match putObmmObjectRecord node.svc (o.object env) (UInt32.ofNat node.localIdx) offset o.len
          (checksumBytes o.payload) with
      | none => (node, [], false)
      | some (svc, record) =>
          let (node, records, done) := putEach env { node with svc := svc } rest
          (node, (record, o) :: records, done)

/-- The descriptor that `mem_service_push_obmm_object_descs` pushes to every peer. -/
def objectPutDesc (node : ClusterNode) (epoch : UInt16) (r : Record) : Desc where
  seq := epoch.toUInt64 <<< 48 ||| UInt64.ofNat (node.localIdx + 1) <<< 32 |||
    (r.objectBackingOffset &&& 0xffffffff)
  regionId := r.objectPayloadKind
  payloadLen := r.objectBackingLen.toUInt32
  payloadOffset := r.objectBackingOffset
  type := descObjectPut
  flags := r.objectPayloadKind.toUInt16
  cookie := checksumCookie r.objectPayloadChecksum

/-- Whether the updates of the written ranges succeed, and that of the record table. -/
structure EngramSync where
  ranges : Bool
  table : Bool

/-- What a publication comes to: the records it put, whether it got as far as the record table, and the
descriptors it has for the peers, if it did. -/
structure EngramOutcome where
  node : ClusterNode
  puts : List (Record × EngramObject) := []
  wrote : Bool := false
  descs : Option (List Desc) := none

/-- The next epoch of the node, which is never 0. -/
def nextEpoch (node : ClusterNode) : UInt16 :=
  if node.observeEpoch + 1 = 0 then 1 else node.observeEpoch + 1

section Publication

-- how the compiler lays a record out
variable (image : Record → Vector UInt8 recordSize)

/-- The part that the two publications share. -/
def publishEngramObjects (env : EngramEnv) (node : ClusterNode) (objects : List EngramObject)
    (sync : EngramSync) : EngramOutcome :=
  match allocEach node (objects.map EngramObject.len) with
  | (node, none) => { node := node }
  | (node, some offsets) =>
      let pieces := (offsets.zip objects).map fun p => (p.1.toNat, p.2.payload)
      let node := { node with regionBytes := Segments.writeAll node.regionBytes pieces }
      if !sync.ranges then { node := node }
      else
        match putEach env node (objects.zip offsets) with
        | (node, puts, false) => { node := node, puts := puts }
        | (node, puts, true) =>
            let node := writeClusterPayload image node
            if !sync.table then { node := node, puts := puts, wrote := true }
            else
              let epoch := nextEpoch node
              { node := { node with observeEpoch := epoch }
                puts := puts
                wrote := true
                descs := some (puts.map fun p => objectPutDesc node epoch p.1) }

variable (lib : Qwen3Library)

/-- `mem_service_obmm_service_v0_publish_engram_candidates`. -/
def publishEngramCandidates (env : EngramEnv) (node : ClusterNode)
    (localNode clusterNodeCount : UInt32) (call : CandidatesCall) (sync : EngramSync) : EngramOutcome :=
  if clusterNodeCount ≠ qwen3RangeNodes lib || localNode ≥ clusterNodeCount ||
      call.candidates.isEmpty || !node.ready then { node := node }
  else
    let (svc, placed) := publishLayerRangePlacements lib node.svc clusterNodeCount
    let node := { node with svc := svc }
    if !placed || node.localIdx ≠ localNode.toNat then { node := node }
    else publishEngramObjects image env node [.candidates call] sync

/-- `mem_service_obmm_service_v0_publish_engram_step`.  A node that is not the owner has nothing to
do. -/
def publishEngramStep (env : EngramEnv) (node : ClusterNode) (localNode clusterNodeCount : UInt32)
    (call : DecisionCall) (sync : EngramSync) : EngramOutcome :=
  if clusterNodeCount ≠ qwen3RangeNodes lib || localNode ≥ clusterNodeCount ||
      call.historyTokens.length + 1 > 1024 || !node.ready then { node := node }
  else
    let (svc, placed) := publishLayerRangePlacements lib node.svc clusterNodeCount
    let node := { node with svc := svc }
    if !placed then { node := node }
    else if qwen3EngramOwnerIndex env.ownerNode clusterNodeCount ≠ localNode.toNat then
      { node := node, descs := some [] }
    else if node.localIdx ≠ localNode.toNat ||
        (EngramObject.history call).payload.length > engramHistoryBytes then { node := node }
    else publishEngramObjects image env node [.history call, .selected call, .state call] sync

end Publication

/-! ## Runs -/

/-- A node with what it has put for engrams, newest first, and the record tables it has published, newest
first. -/
structure EngramState where
  node : ClusterNode
  puts : List (Record × EngramObject)
  tables : List (List Record)

/-- What a node publishes: candidates, a decision, or something else. -/
inductive EngramMove
  | candidates (localNode clusterNodeCount : UInt32) (call : CandidatesCall) (sync : EngramSync)
  | decision (localNode clusterNodeCount : UInt32) (call : DecisionCall) (sync : EngramSync)
  | other (st : PublishStep)

/-- The objects a move is about. -/
def EngramMove.objects : EngramMove → List EngramObject
  | candidates _ _ call _ => [.candidates call]
  | decision _ _ call _ => [.history call, .selected call, .state call]
  | other _ => []

namespace EngramState

/-- The state after a publication. -/
def after (s : EngramState) (out : EngramOutcome) : EngramState where
  node := out.node
  puts := out.puts ++ s.puts
  tables := if out.wrote then snapshotMetadataRecords out.node.svc :: s.tables else s.tables

variable (image : Record → Vector UInt8 recordSize) (lib : Qwen3Library) (env : EngramEnv)

/-- One publication. -/
def step (s : EngramState) : EngramMove → EngramState
  | .candidates localNode clusterNodeCount call sync =>
      s.after (publishEngramCandidates image lib env s.node localNode clusterNodeCount call sync)
  | .decision localNode clusterNodeCount call sync =>
      s.after (publishEngramStep image lib env s.node localNode clusterNodeCount call sync)
  | .other st =>
      s.after
        { node := (PublishState.step image (.start s.node) st).node
          wrote := match st with
            | .clusterPayload => true
            | _ => false }

/-- A node before its first publication. -/
def start (node : ClusterNode) : EngramState := ⟨node, [], []⟩

end EngramState

/-! ## Lengths -/

lemma length_payload (o : EngramObject) : o.payload.length = 8 * o.words.length := by
  rw [EngramObject.payload, wordsImage, WordArray.length_image, List.length_map]

lemma length_candidateWords (call : CandidatesCall) :
    (call.packed.zipIdx.flatMap fun p => p.1.words p.2).length = 7 * call.packed.length := by
  simp [List.length_flatMap, EngramCandidate.words, mul_comm]

/-- The front of the packed words has room for four candidates. -/
lemma length_candidateFront (call : CandidatesCall) :
    (candidateFront call).length = 31 := by
  have hpacked : call.packed.length ≤ 4 := List.length_take_le 4 call.candidates
  simp only [candidateFront, List.length_append, List.length_cons, List.length_replicate,
    length_candidateWords]
  omega

lemma length_packQwen3EngramCandidates (call : CandidatesCall) :
    (packQwen3EngramCandidates call).length = 32 := by
  rw [packQwen3EngramCandidates, sealWords, List.length_append, length_candidateFront,
    List.length_singleton]

lemma length_selected (call : DecisionCall) :
    (EngramObject.selected call).payload.length = engramSelectedBytes := by
  rw [length_payload]
  rfl

lemma length_state (call : DecisionCall) :
    (EngramObject.state call).payload.length = engramStateBytes := by
  rw [length_payload]
  rfl

lemma length_candidates (call : CandidatesCall) :
    (EngramObject.candidates call).payload.length = engramCandidatesBytes := by
  rw [length_payload, EngramObject.words, length_packQwen3EngramCandidates]
  rfl

lemma length_history (call : DecisionCall) :
    (EngramObject.history call).payload.length = 8 * (call.historyTokens.length + 3) := by
  rw [length_payload, EngramObject.words, DecisionCall.historyWords, List.length_cons, List.length_cons,
    List.length_append, List.length_singleton]

lemma EngramObject.Fits.short {o : EngramObject} (h : o.Fits) : o.payload.length < 2 ^ 64 := by
  cases o with
  | candidates call =>
    rw [length_candidates]
    decide
  | history call => exact Nat.lt_of_le_of_lt h (by decide)
  | selected call =>
    rw [length_selected]
    decide
  | state call =>
    rw [length_state]
    decide

/-! ## The arena -/

/-- What a publication leaves of a region: the arena only grows, and what was given out of it before is
as it was. -/
structure ClusterNode.Extends (node node' : ClusterNode) : Prop where
  ready : node'.ArenaReady
  next : node.arenaNext.toNat ≤ node'.arenaNext.toNat
  regionLen : node'.regionLen = node.regionLen
  bytes : ∀ i, 0x200000 ≤ i → i < node.arenaNext.toNat → node'.regionBytes i = node.regionBytes i

namespace ClusterNode.Extends

variable {node node' node'' : ClusterNode}

lemma refl (h : node.ArenaReady) : node.Extends node := ⟨h, le_rfl, rfl, fun _ _ _ => rfl⟩

lemma trans (h : node.Extends node') (h' : node'.Extends node'') : node.Extends node'' where
  ready := h'.ready
  next := h.next.trans h'.next
  regionLen := h'.regionLen.trans h.regionLen
  bytes := fun i hlow hi => (h'.bytes i hlow (Nat.lt_of_lt_of_le hi h.next)).trans (h.bytes i hlow hi)

/-- Only bytes in front of the arena are written. -/
lemma write_low (off : ℕ) (text : Bytes) (hlow : off + text.length ≤ 0x200000)
    (hready : node'.ArenaReady) (hnext : node'.arenaNext = node.arenaNext)
    (hlen : node'.regionLen = node.regionLen)
    (hbytes : node'.regionBytes = ByteRegion.write node.regionBytes off text) : node.Extends node' where
  ready := hready
  next := le_of_eq (by rw [hnext])
  regionLen := hlen
  bytes := fun i hi _ => by rw [hbytes, ByteRegion.write_outside (.inr (hlow.trans hi))]

end ClusterNode.Extends

lemma payloadArenaAlloc_frame (node : ClusterNode) (bytes align : UInt64) :
    ∃ base next high, (payloadArenaAlloc node bytes align).1 =
      { node with arenaBase := base, arenaNext := next, arenaHighWater := high } := by
  unfold payloadArenaAlloc
  split
  · exact ⟨_, _, _, rfl⟩
  dsimp only
  generalize (if align = 0 then 64 else align) = align
  by_cases hbase : node.arenaBase = 0
  · rw [if_pos hbase]
    split <;> exact ⟨_, _, _, rfl⟩
  · rw [if_neg hbase]
    split <;> exact ⟨_, _, _, rfl⟩

namespace EngramObject

variable {o : EngramObject}

/-- The pieces of a publication. -/
def pieces (offsets : List UInt64) (objects : List EngramObject) : List (ℕ × Bytes) :=
  (offsets.zip objects).map fun p => (p.1.toNat, p.2.payload)

lemma toNat_len (h : o.payload.length < 2 ^ 64) : o.len.toNat = o.payload.length :=
  UInt64.toNat_ofNat_of_lt' h

end EngramObject

/-- **The allocations of a publication.**  They lay the objects behind one another, behind everything
that was given out before. -/
lemma allocEach_spec {node : ClusterNode} (h : node.ArenaReady) (objects : List EngramObject)
    (hfit : ∀ o ∈ objects, o.Fits) :
    ∃ base next high, (allocEach node (objects.map EngramObject.len)).1 =
        { node with arenaBase := base, arenaNext := next, arenaHighWater := high } ∧
      node.Extends (allocEach node (objects.map EngramObject.len)).1 ∧
      ∀ offsets, (allocEach node (objects.map EngramObject.len)).2 = some offsets →
        offsets.length = objects.length ∧
        Segments.Laid (max 0x200000 node.arenaNext.toNat) (EngramObject.pieces offsets objects)
          (max 0x200000 (allocEach node (objects.map EngramObject.len)).1.arenaNext.toNat) ∧
        ∀ p ∈ EngramObject.pieces offsets objects, p.1 + p.2.length ≤ node.regionLen ∧
          p.1 + p.2.length ≤ (allocEach node (objects.map EngramObject.len)).1.arenaNext.toNat := by
  induction objects generalizing node with
  | nil =>
    refine ⟨_, _, _, rfl, .refl h, fun offsets hsome => ?_⟩
    obtain rfl := Option.some.inj hsome
    exact ⟨rfl, le_rfl, by simp [EngramObject.pieces]⟩
  | cons o objects ih =>
    obtain ⟨base, next, high, hframe⟩ := payloadArenaAlloc_frame node o.len ArenaAlign.cacheLine.bytes
    obtain ⟨-, -, hmono, hready, hrange⟩ := payloadArenaAlloc_spec h o.len .cacheLine
    rw [List.map_cons, allocEach]
    cases halloc : payloadArenaAlloc node o.len ArenaAlign.cacheLine.bytes with
    | mk node₁ out =>
      rw [halloc] at hframe hmono hready hrange
      dsimp only at hframe hmono hready hrange
      have hfirst : node.Extends node₁ := by
        refine ⟨hready, hmono, ?_, fun _ _ _ => ?_⟩
        all_goals rw [hframe]
      cases out with
      | none => exact ⟨base, next, high, hframe, hfirst, nofun⟩
      | some offset =>
        have hinside := le_regionLen_of_alloc (congrArg Prod.snd halloc)
        obtain ⟨hlow, hbehind, hend⟩ := hrange offset rfl
        obtain ⟨base', next', high', hframe', hext, hrest⟩ :=
          ih hready fun q hq => hfit q (List.mem_cons_of_mem _ hq)
        have hlen := EngramObject.toNat_len (hfit o (List.mem_cons_self ..)).short
        rw [hlen] at hend hinside
        refine ⟨base', next', high', ?_, hfirst.trans hext, fun offsets hsome => ?_⟩
        · dsimp only
          rw [hframe', hframe]
        obtain ⟨rest, hsome', rfl⟩ := Option.map_eq_some_iff.mp hsome
        obtain ⟨hcount, hlaid, hfits⟩ := hrest rest hsome'
        refine ⟨by rw [List.length_cons, List.length_cons, hcount], ⟨?_, ?_⟩, ?_⟩
        · exact max_le hlow hbehind
        · exact hlaid.mono (le_max_of_le_right hend)
        · rintro p (_ | ⟨_, hp⟩)
          · exact ⟨hinside, hend.trans hext.next⟩
          · rw [← hfirst.regionLen]
            exact hfits p hp

/-! ## The records -/

/-- The kinds of payload of an engram. -/
def engramKinds : List UInt32 :=
  [kindEngramHistory, kindEngramCandidates, kindEngramSelected, kindEngramState]

/-- A put writes the object's record, and no other. -/
lemma putObmmObjectRecord_eq_some {svc svc' : Service} {object : ObjectRecord} {ownerNode : UInt32}
    {offset len checksum : UInt64} {record : Record}
    (h : putObmmObjectRecord svc object ownerNode offset len checksum = some (svc', record)) :
    record = obmmObjectRecord object ownerNode offset len checksum (nextVersion svc object.key) ∧
      ∀ r ∈ svc'.records.entries, r = record ∨ r ∈ svc.records.entries := by
  unfold putObmmObjectRecord at h
  split at h
  · cases h
  dsimp only at h
  split at h
  · cases h
    exact ⟨rfl, fun r hr => SlotTable.mem_entries_put hr⟩
  split at h
  · cases h
    exact ⟨rfl, fun r hr => SlotTable.mem_entries_put hr⟩
  · obtain ⟨i, -, heq⟩ := Option.map_eq_some_iff.mp h
    cases heq
    exact ⟨rfl, fun r hr => SlotTable.mem_entries_put hr⟩

lemma mem_publishEach {lib : Qwen3Library} {nodeCount : UInt32} {is : List UInt32} {svc : Service}
    {r : Record} (h : r ∈ (publishEach lib nodeCount is svc).1.records.entries) :
    r ∈ svc.records.entries ∨ r.objectPayloadKind = 0 := by
  induction is generalizing svc with
  | nil => exact .inl h
  | cons i is ih =>
    unfold publishEach at h
    split at h
    · exact .inl h
    rename_i svc' hput
    rcases ih h with hr | hr
    swap
    · exact .inr hr
    unfold putLayerRangePlacement at hput
    split at hput
    · cases hput
    obtain ⟨t, ht, rfl⟩ := Service.putRecord_eq_some hput
    obtain ⟨j, -, -, -, -, rfl⟩ | ⟨j, -, -, -, rfl⟩ := SlotTable.upsert_cases ht
    all_goals
      rcases SlotTable.mem_entries_put hr with rfl | hr
      · exact .inr rfl
      · exact .inl hr

/-- The placements are no records of an engram. -/
lemma mem_publishLayerRangePlacements {lib : Qwen3Library} {svc : Service} {nodeCount : UInt32}
    {r : Record} (h : r ∈ (publishLayerRangePlacements lib svc nodeCount).1.records.entries) :
    r ∈ svc.records.entries ∨ r.objectPayloadKind = 0 := by
  unfold publishLayerRangePlacements at h
  split at h
  · exact .inl h
  · exact mem_publishEach h

/-- A record says where an object lies, and the object is there. -/
structure EngramPlaced (env : EngramEnv) (node : ClusterNode) (r : Record) (o : EngramObject) : Prop where
  record : ∃ ownerNode version, r = obmmObjectRecord (o.object env) ownerNode r.objectBackingOffset o.len
    (checksumBytes o.payload) version
  fits : o.Fits
  low : 0x200000 ≤ r.objectBackingOffset.toNat
  below : r.objectBackingOffset.toNat + o.payload.length ≤ node.arenaNext.toNat
  inside : r.objectBackingOffset.toNat + o.payload.length ≤ node.regionLen
  bytes : ByteRegion.read node.regionBytes r.objectBackingOffset.toNat o.payload.length = o.payload

lemma EngramPlaced.grows {env : EngramEnv} {node node' : ClusterNode} {r : Record} {o : EngramObject}
    (h : EngramPlaced env node r o) (hext : node.Extends node') : EngramPlaced env node' r o where
  record := h.record
  fits := h.fits
  low := h.low
  below := h.below.trans hext.next
  inside := by
    rw [hext.regionLen]
    exact h.inside
  bytes := by
    have hbelow := h.below
    have hlow := h.low
    refine (ByteRegion.read_congr fun i hi => hext.bytes _ ?_ ?_).trans h.bytes
    all_goals omega

/-- The records that were put say what their objects are, and the table has no others of an engram. -/
lemma putEach_spec (env : EngramEnv) (node : ClusterNode) (objects : List (EngramObject × UInt64)) :
    (∃ svc, (putEach env node objects).1 = { node with svc := svc }) ∧
    (∀ p ∈ (putEach env node objects).2.1, ∃ offset, (p.2, offset) ∈ objects ∧ ∃ ownerNode version,
      p.1 = obmmObjectRecord (p.2.object env) ownerNode offset p.2.len (checksumBytes p.2.payload)
        version) ∧
    ∀ r ∈ (putEach env node objects).1.svc.records.entries,
      r ∈ node.svc.records.entries ∨ ∃ o, (r, o) ∈ (putEach env node objects).2.1 := by
  induction objects generalizing node with
  | nil => exact ⟨⟨node.svc, rfl⟩, by simp [putEach], fun r hr => .inl hr⟩
  | cons q objects ih =>
    obtain ⟨o, offset⟩ := q
    rw [putEach]
    split
    · exact ⟨⟨node.svc, rfl⟩, by simp, fun r hr => .inl hr⟩
    rename_i svc record hput
    obtain ⟨⟨svc', hnode⟩, hputs, hrecords⟩ := ih { node with svc := svc }
    obtain ⟨hrecord, hmem⟩ := putObmmObjectRecord_eq_some hput
    refine ⟨⟨svc', hnode⟩, ?_, fun r hr => ?_⟩
    · intro p hp
      rcases List.mem_cons.mp hp with rfl | hp
      · exact ⟨offset, List.mem_cons_self .., _, _, hrecord⟩
      · obtain ⟨off, hoff, hrest⟩ := hputs p hp
        exact ⟨off, List.mem_cons_of_mem _ hoff, hrest⟩
    · rcases hrecords r hr with hr | ⟨o', ho'⟩
      · rcases hmem r hr with rfl | hr
        · exact .inr ⟨o, List.mem_cons_self ..⟩
        · exact .inl hr
      · exact .inr ⟨o', List.mem_cons_of_mem _ ho'⟩

/-! ## What a publication keeps -/

/-- A publication keeps the arena, puts records for its objects, and no other record of an engram. -/
structure EngramOutcome.Keeps (env : EngramEnv) (node : ClusterNode) (objects : List EngramObject)
    (out : EngramOutcome) : Prop where
  grows : node.Extends out.node
  puts : ∀ p ∈ out.puts, p.2 ∈ objects ∧ EngramPlaced env out.node p.1 p.2
  records : ∀ r ∈ out.node.svc.records.entries, r.objectPayloadKind ∈ engramKinds →
    r ∈ node.svc.records.entries ∨ ∃ o, (r, o) ∈ out.puts

section Keeps

variable {image : Record → Vector UInt8 recordSize} {env : EngramEnv} {node : ClusterNode}

lemma EngramOutcome.Keeps.nothing {objects : List EngramObject} {node' : ClusterNode}
    {descs : Option (List Desc)} (h : node.Extends node')
    (hrecords : ∀ r ∈ node'.svc.records.entries, r.objectPayloadKind ∈ engramKinds →
      r ∈ node.svc.records.entries) :
    EngramOutcome.Keeps env node objects { node := node', descs := descs } where
  grows := h
  puts := by simp
  records := fun r hr hk => .inl (hrecords r hr hk)

/-- The table lies in front of the arena. -/
lemma extends_writeClusterPayload (image : Record → Vector UInt8 recordSize) (h : node.ArenaReady) :
    node.Extends (writeClusterPayload image node) :=
  .write_low 0 (clusterPayload image node.svc _)
    (by rw [length_clusterPayload]; decide) h rfl rfl rfl

section Written

variable {node₁ : ClusterNode} {offsets : List UInt64} {objects : List EngramObject} {stop : ℕ}

/-- The words of the objects go behind everything that was there before. -/
lemma extends_writeAll (hext : node.Extends node₁) (hregion : node₁.regionBytes = node.regionBytes)
    (hlaid : Segments.Laid (max 0x200000 node.arenaNext.toNat) (EngramObject.pieces offsets objects)
      stop) :
    node.Extends { node₁ with
      regionBytes := Segments.writeAll node₁.regionBytes (EngramObject.pieces offsets objects) } := by
  refine ⟨hext.ready, hext.next, hext.regionLen, fun i hlow hi => ?_⟩
  dsimp only
  rw [hlaid.writeAll_outside (.inl (lt_max_of_lt_right hi)), hregion]

/-- What is written is where a record of the object will say. -/
lemma placed_writeAll {start : ℕ}
    (hlaid : Segments.Laid (max 0x200000 start) (EngramObject.pieces offsets objects) stop)
    (hinside : ∀ q ∈ EngramObject.pieces offsets objects,
      q.1 + q.2.length ≤ node₁.regionLen ∧ q.1 + q.2.length ≤ node₁.arenaNext.toNat)
    (hfit : ∀ o ∈ objects, o.Fits) {p : UInt64 × EngramObject} (hp : p ∈ offsets.zip objects)
    (ownerNode : UInt32) (version : UInt64) :
    EngramPlaced env
      { node₁ with
        regionBytes := Segments.writeAll node₁.regionBytes (EngramObject.pieces offsets objects) }
      (obmmObjectRecord (p.2.object env) ownerNode p.1 p.2.len (checksumBytes p.2.payload) version)
      p.2 := by
  have hpiece : (p.1.toNat, p.2.payload) ∈ EngramObject.pieces offsets objects :=
    List.mem_map_of_mem hp
  obtain ⟨hlow, -⟩ := hlaid.mem hpiece
  obtain ⟨hregionLen, hnext⟩ := hinside _ hpiece
  exact ⟨⟨ownerNode, version, rfl⟩, hfit p.2 (List.of_mem_zip hp).2, (le_max_left _ _).trans hlow,
    hnext, hregionLen, hlaid.read_writeAll hpiece⟩

end Written

/-- A publication of objects whose lengths are those of words. -/
lemma keeps_publishEngramObjects (h : node.ArenaReady) (objects : List EngramObject) (sync : EngramSync)
    (hfit : ∀ o ∈ objects, o.Fits) :
    (publishEngramObjects image env node objects sync).Keeps env node objects := by
  obtain ⟨base, next, high, hframe, hext, hoffsets⟩ := allocEach_spec h objects hfit
  unfold publishEngramObjects
  cases halloc : allocEach node (objects.map EngramObject.len) with
  | mk node₁ out =>
    rw [halloc] at hframe hext hoffsets
    dsimp only at hframe hext hoffsets
    have hsvc : node₁.svc = node.svc := by rw [hframe]
    cases out with
    | none =>
      refine .nothing hext fun r hr _ => ?_
      rwa [hsvc] at hr
    | some offsets =>
      obtain ⟨-, hlaid, hinside⟩ := hoffsets offsets rfl
      have hready := hext.ready
      set pieces := EngramObject.pieces offsets objects with hpieces
      set node₂ : ClusterNode := { node₁ with regionBytes := Segments.writeAll node₁.regionBytes pieces }
        with hnode₂
      have hext₂ : node.Extends node₂ := extends_writeAll hext (by rw [hframe]) hlaid
      rw [← hext.regionLen] at hinside
      dsimp only
      rw [← EngramObject.pieces, ← hpieces, ← hnode₂]
      cases sync.ranges with
      | false =>
        refine .nothing hext₂ fun r hr _ => ?_
        rwa [hnode₂, hsvc] at hr
      | true =>
        obtain ⟨⟨svc', hput⟩, hputs, hrecords⟩ := putEach_spec env node₂ (objects.zip offsets)
        have hkeeps (node' : ClusterNode) (hext' : node₂.Extends node') (hsvc' : node'.svc = svc')
            (wrote : Bool) (descs : Option (List Desc)) : EngramOutcome.Keeps env node objects
            { node := node', puts := (putEach env node₂ (objects.zip offsets)).2.1, wrote := wrote,
              descs := descs } := by
          refine ⟨hext₂.trans hext', fun p hp => ?_, fun r hr _ => ?_⟩
          · obtain ⟨offset, hmem, ownerNode, version, hrecord⟩ := hputs p hp
            have hzip : (offset, p.2) ∈ offsets.zip objects := by
              rw [← List.zip_swap]
              exact List.mem_map_of_mem (f := Prod.swap) hmem
            refine ⟨(List.of_mem_zip hmem).1, ?_⟩
            rw [hrecord]
            have hplaced : EngramPlaced env node₂ _ p.2 :=
              placed_writeAll hlaid hinside hfit hzip ownerNode version
            exact hplaced.grows hext'
          · rw [hsvc'] at hr
            rw [hput] at hrecords
            rcases hrecords r hr with hr | hr
            · rw [hnode₂, hsvc] at hr
              exact .inl hr
            · exact .inr hr
        have hready₂ : node₂.ArenaReady := hready
        cases heach : putEach env node₂ (objects.zip offsets) with
        | mk node₃ rest =>
          obtain ⟨puts, done⟩ := rest
          rw [heach] at hput hkeeps
          dsimp only at hput hkeeps
          have hput₃ : node₂.Extends node₃ := by
            rw [hput]
            exact ⟨hready₂, le_rfl, rfl, fun _ _ _ => rfl⟩
          have hsvc₃ : node₃.svc = svc' := by rw [hput]
          have hready₃ := hput₃.ready
          cases done with
          | false => exact hkeeps node₃ hput₃ hsvc₃ false none
          | true =>
            have hwrite := hput₃.trans (extends_writeClusterPayload image hready₃)
            simp only [Bool.not_true, Bool.false_eq_true, if_false]
            cases sync.table with
            | false => exact hkeeps _ hwrite hsvc₃ true none
            | true =>
              have hepoch : node₂.Extends { writeClusterPayload image node₃ with
                  observeEpoch := nextEpoch (writeClusterPayload image node₃) } :=
                ⟨hwrite.ready, hwrite.next, hwrite.regionLen, hwrite.bytes⟩
              exact hkeeps _ hepoch hsvc₃ true (some _)

/-- A publication after the placements were put. -/
lemma EngramOutcome.Keeps.placed {lib : Qwen3Library} {clusterNodeCount : UInt32}
    {objects : List EngramObject} {out : EngramOutcome}
    (h : out.Keeps env { node with svc := (publishLayerRangePlacements lib node.svc clusterNodeCount).1 }
      objects) : out.Keeps env node objects where
  grows := ⟨h.grows.ready, h.grows.next, h.grows.regionLen, h.grows.bytes⟩
  puts := h.puts
  records := by
    intro r hr hk
    rcases h.records r hr hk with hr | hr
    swap
    · exact .inr hr
    rcases mem_publishLayerRangePlacements hr with hr | hzero
    · exact .inl hr
    · rw [hzero] at hk
      exact absurd hk (by decide)

/-- A publication that ends with the placements. -/
lemma keeps_placements (h : node.ArenaReady) (lib : Qwen3Library) (clusterNodeCount : UInt32)
    (objects : List EngramObject) (descs : Option (List Desc)) :
    EngramOutcome.Keeps env node objects
      { node := { node with svc := (publishLayerRangePlacements lib node.svc clusterNodeCount).1 }
        descs := descs } :=
  have hready : ClusterNode.ArenaReady { node with
      svc := (publishLayerRangePlacements lib node.svc clusterNodeCount).1 } := h
  EngramOutcome.Keeps.placed (.nothing (.refl hready) fun _ hr _ => hr)

lemma keeps_publishEngramCandidates (h : node.ArenaReady) (lib : Qwen3Library)
    (localNode clusterNodeCount : UInt32) (call : CandidatesCall) (sync : EngramSync) :
    (publishEngramCandidates image lib env node localNode clusterNodeCount call sync).Keeps env node
      [.candidates call] := by
  unfold publishEngramCandidates
  split
  · exact .nothing (.refl h) fun _ hr _ => hr
  rename_i hsome
  simp only [Bool.or_eq_true, List.isEmpty_iff, not_or] at hsome
  dsimp only
  split
  · exact keeps_placements h lib clusterNodeCount _ none
  · have hready : ClusterNode.ArenaReady { node with
        svc := (publishLayerRangePlacements lib node.svc clusterNodeCount).1 } := h
    refine EngramOutcome.Keeps.placed (keeps_publishEngramObjects hready _ sync fun o ho => ?_)
    obtain rfl := List.mem_singleton.mp ho
    exact hsome.1.2

lemma keeps_publishEngramStep (h : node.ArenaReady) (lib : Qwen3Library)
    (localNode clusterNodeCount : UInt32) (call : DecisionCall) (sync : EngramSync) :
    (publishEngramStep image lib env node localNode clusterNodeCount call sync).Keeps env node
      [.history call, .selected call, .state call] := by
  unfold publishEngramStep
  split
  · exact .nothing (.refl h) fun _ hr _ => hr
  dsimp only
  split
  · exact keeps_placements h lib clusterNodeCount _ none
  split
  · exact keeps_placements h lib clusterNodeCount _ (some [])
  split
  · exact keeps_placements h lib clusterNodeCount _ none
  · rename_i hfits
    simp only [Bool.or_eq_true, decide_eq_true_eq, not_or, not_lt] at hfits
    have hready : ClusterNode.ArenaReady { node with
        svc := (publishLayerRangePlacements lib node.svc clusterNodeCount).1 } := h
    refine EngramOutcome.Keeps.placed (keeps_publishEngramObjects hready _ sync fun o ho => ?_)
    simp only [List.mem_cons, List.not_mem_nil, or_false] at ho
    rcases ho with rfl | rfl | rfl
    · exact hfits.2
    · trivial
    · trivial

/-- The object of another publication is not one of an engram. -/
def PublishStep.EngramFree : PublishStep → Prop
  | .arenaObject o => o.object.payloadKind ∉ engramKinds
  | .inPlaceObject object _ _ _ _ => object.payloadKind ∉ engramKinds
  | _ => True

/-- The records of an engram that the table has after an object of another kind was put. -/
lemma mem_putPublished {object : ObjectRecord} {offset len checksum : UInt64} {synced : Bool} {r : Record}
    (hkind : object.payloadKind ∉ engramKinds)
    (h : r ∈ (putPublished node object offset len checksum synced).1.svc.records.entries)
    (hk : r.objectPayloadKind ∈ engramKinds) : r ∈ node.svc.records.entries := by
  unfold putPublished at h
  split at h
  · exact h
  split at h
  · exact h
  rename_i svc record hput
  obtain ⟨hrecord, hmem⟩ := putObmmObjectRecord_eq_some hput
  rcases hmem r h with rfl | hr
  · rw [hrecord] at hk
    exact absurd hk hkind
  · exact hr

/-- An object at a fixed place, in front of the arena. -/
lemma keeps_publishFixedObject (h : node.ArenaReady) {offset : ℕ} {object : ObjectRecord} {wrote : Bool}
    (hoffset : offset + obmmServiceObjectBytes ≤ 0x200000) (hkind : object.payloadKind ∉ engramKinds)
    (synced : Bool) : EngramOutcome.Keeps env node []
      { node := (publishFixedObject node offset object synced).1, wrote := wrote } := by
  obtain ⟨⟨svc, hnode⟩, -⟩ := PublishState.publishFixedObject_spec node offset object synced
    (Nat.lt_of_le_of_lt (Nat.le_of_add_right_le hoffset) (by decide))
  have hgrows : node.Extends (publishFixedObject node offset object synced).1 := by
    rw [hnode]
    exact .write_low offset (objectPattern obmmServiceObjectBytes _ _)
      (by rwa [PublishState.length_objectPattern]) h rfl rfl rfl
  refine ⟨hgrows, by simp, fun r hr hk => .inl ?_⟩
  have hold := mem_putPublished hkind hr hk
  exact hold

/-- **Other publications.**  They leave the objects of the engram alone. -/
lemma keeps_other (h : node.ArenaReady) {st : PublishStep} (hfree : st.EngramFree) (wrote : Bool) :
    EngramOutcome.Keeps env node []
      { node := (PublishState.step image (.start node) st).node, wrote := wrote } := by
  have hstay : EngramOutcome.Keeps env node [] { node := node, wrote := wrote } :=
    ⟨.refl h, by simp, fun r hr _ => .inl hr⟩
  cases st with
  | clusterPayload =>
    exact ⟨extends_writeClusterPayload image h, by simp, fun r hr _ => .inl hr⟩
  | roundDone localNode clusterNodeCount decodeStep roundScopeHash =>
    unfold PublishState.step
    dsimp only
    split
    · exact hstay
    · refine ⟨.write_low (Item.offset (.marker (roundDoneSlot decodeStep roundScopeHash)))
        (roundDoneMarker node localNode clusterNodeCount decodeStep roundScopeHash) ?_ h rfl rfl rfl,
        by simp, fun r hr _ => .inl hr⟩
      have hslot : (roundDoneSlot decodeStep roundScopeHash).val < 1024 := Fin.isLt _
      have hmarker := PublishState.length_roundDoneMarker node localNode clusterNodeCount decodeStep
        roundScopeHash
      rw [hmarker, Item.offset, obmmRoundDoneOffset, obmmRoundDoneBytes]
      omega
  | weightTile modelKey hiddenRangeBytes recycle synced =>
    unfold PublishState.step
    dsimp only
    split
    · exact hstay
    · exact keeps_publishFixedObject h (by decide) (by simp [weightTileRecord, engramKinds]; decide) synced
  | kvcacheBlock hiddenRangeBytes recycle synced =>
    unfold PublishState.step
    dsimp only
    split
    · exact hstay
    · exact keeps_publishFixedObject h (by decide)
        (by simp [kvcacheBlockRecord, engramKinds]; decide) synced
  | arenaObject o =>
    obtain ⟨base, next, high, hframe⟩ := payloadArenaAlloc_frame node o.reserve o.align.bytes
    obtain ⟨-, -, hmono, hready, hrange⟩ := payloadArenaAlloc_spec h o.reserve o.align
    unfold PublishState.step
    dsimp only [PublishState.start]
    cases halloc : payloadArenaAlloc node o.reserve o.align.bytes with
    | mk node₁ out =>
      rw [halloc] at hframe hmono hready hrange
      dsimp only at hframe hmono hready hrange
      have hsvc : node₁.svc = node.svc := by rw [hframe]
      have hregion : node₁.regionBytes = node.regionBytes := by rw [hframe]
      have hlen : node₁.regionLen = node.regionLen := by rw [hframe]
      cases out with
      | none =>
        refine ⟨⟨hready, hmono, hlen, fun _ _ _ => by rw [hregion]⟩, by simp, fun r hr _ => .inl ?_⟩
        rwa [hsvc] at hr
      | some offset =>
        obtain ⟨-, hbehind, -⟩ := hrange offset rfl
        dsimp only [PublishState.publish, publishArenaObject]
        obtain ⟨⟨svc, hnode⟩, -⟩ := putPublished_spec
          { node₁ with regionBytes := ByteRegion.write node₁.regionBytes offset.toNat o.payload } o.object
          offset (UInt64.ofNat o.payload.length) (o.sum.of o.payload) o.synced
        refine ⟨?_, by simp, fun r hr hk => .inl ?_⟩
        · rw [hnode]
          refine ⟨hready, hmono, hlen, fun i _ hi => ?_⟩
          dsimp only
          rw [ByteRegion.write_outside (.inl (Nat.lt_of_lt_of_le hi hbehind)), hregion]
        · have hold := mem_putPublished hfree hr hk
          rwa [hsvc] at hold
  | inPlaceObject object offset len sum synced =>
    unfold PublishState.step
    dsimp only
    split
    · exact hstay
    · obtain ⟨⟨svc, hnode⟩, -⟩ := putPublished_spec node object offset len
        (sum.of (ByteRegion.read node.regionBytes offset.toNat len.toNat)) synced
      refine ⟨?_, by simp, fun r hr hk => .inl (mem_putPublished hfree hr hk)⟩
      dsimp only [PublishState.start]
      rw [hnode]
      exact ⟨h, le_rfl, rfl, fun _ _ _ => rfl⟩

end Keeps

/-! ## Runs of publications -/

/-- A move that is not about the engram publishes no object of one. -/
def EngramMove.Apart : EngramMove → Prop
  | .other st => st.EngramFree
  | _ => True

namespace EngramState

/-- What is true after every publication: everything that was put is where its record says, and the own
table and the published tables have no other record of an engram. -/
structure Sound (env : EngramEnv) (s : EngramState) : Prop where
  arena : s.node.ArenaReady
  puts : ∀ p ∈ s.puts, EngramPlaced env s.node p.1 p.2
  records : ∀ r ∈ s.node.svc.records.entries, r.objectPayloadKind ∈ engramKinds →
    ∃ o, (r, o) ∈ s.puts
  tables : ∀ t ∈ s.tables, ∀ r ∈ t, r.objectPayloadKind ∈ engramKinds → ∃ o, (r, o) ∈ s.puts

variable {image : Record → Vector UInt8 recordSize} {lib : Qwen3Library} {env : EngramEnv}
  {s : EngramState}

lemma Sound.after (h : s.Sound env) {objects : List EngramObject} {out : EngramOutcome}
    (hkeeps : out.Keeps env s.node objects) : (s.after out).Sound env := by
  have hrecords : ∀ r ∈ out.node.svc.records.entries, r.objectPayloadKind ∈ engramKinds →
      ∃ o, (r, o) ∈ out.puts ++ s.puts := by
    intro r hr hk
    rcases hkeeps.records r hr hk with hr | ⟨o, ho⟩
    · obtain ⟨o, ho⟩ := h.records r hr hk
      exact ⟨o, List.mem_append_right _ ho⟩
    · exact ⟨o, List.mem_append_left _ ho⟩
  have htables : ∀ t ∈ s.tables, ∀ r ∈ t, r.objectPayloadKind ∈ engramKinds →
      ∃ o, (r, o) ∈ out.puts ++ s.puts := by
    intro t ht r hr hk
    obtain ⟨o, ho⟩ := h.tables t ht r hr hk
    exact ⟨o, List.mem_append_right _ ho⟩
  refine ⟨hkeeps.grows.ready, fun p hp => ?_, hrecords, fun t ht => ?_⟩
  · rcases List.mem_append.mp hp with hp | hp
    · exact (hkeeps.puts p hp).2
    · exact (h.puts p hp).grows hkeeps.grows
  · unfold EngramState.after at ht
    dsimp only at ht
    split at ht
    · rcases List.mem_cons.mp ht with rfl | ht
      · exact fun r hr => hrecords r (List.mem_of_mem_take hr)
      · exact htables t ht
    · exact htables t ht

/-- What a move comes to. -/
lemma step_keeps (image : Record → Vector UInt8 recordSize) (lib : Qwen3Library) (env : EngramEnv)
    (h : s.node.ArenaReady) {m : EngramMove} (hm : m.Apart) :
    ∃ out : EngramOutcome, s.step image lib env m = s.after out ∧ out.Keeps env s.node m.objects := by
  cases m with
  | candidates localNode clusterNodeCount call sync =>
    exact ⟨_, rfl, keeps_publishEngramCandidates h lib localNode clusterNodeCount call sync⟩
  | decision localNode clusterNodeCount call sync =>
    exact ⟨_, rfl, keeps_publishEngramStep h lib localNode clusterNodeCount call sync⟩
  | other st => exact ⟨_, rfl, keeps_other h hm _⟩

lemma Sound.step (image : Record → Vector UInt8 recordSize) (lib : Qwen3Library) (h : s.Sound env)
    {m : EngramMove} (hm : m.Apart) : (s.step image lib env m).Sound env := by
  obtain ⟨out, heq, hkeeps⟩ := step_keeps image lib env h.arena hm
  rw [heq]
  exact h.after hkeeps

lemma sound_start {node : ClusterNode} (h : node.ArenaReady)
    (hnone : ∀ r ∈ node.svc.records.entries, r.objectPayloadKind ∉ engramKinds) :
    (start node).Sound env where
  arena := h
  puts := by simp [start]
  records := fun r hr hk => absurd hk (hnone r hr)
  tables := by simp [start]

/-- **A run of publications.**  Every state is sound, and everything that was put is an object of some
publication of the run. -/
lemma sound_run {moves : List EngramMove} (hapart : ∀ m ∈ moves, m.Apart) (h : s.Sound env) :
    (Run.run (EngramState.step image lib env) s moves).Sound env ∧
      ∀ p ∈ (Run.run (EngramState.step image lib env) s moves).puts,
        p ∈ s.puts ∨ ∃ m ∈ moves, p.2 ∈ m.objects := by
  induction moves generalizing s with
  | nil => exact ⟨h, fun p hp => .inl hp⟩
  | cons m moves ih =>
    rw [List.forall_mem_cons] at hapart
    obtain ⟨hsound, hputs⟩ := ih hapart.2 (h.step image lib hapart.1)
    refine ⟨hsound, fun p hp => ?_⟩
    rcases hputs p hp with hp | ⟨m', hm', ho⟩
    swap
    · exact .inr ⟨m', List.mem_cons_of_mem _ hm', ho⟩
    obtain ⟨out, heq, hkeeps⟩ := step_keeps image lib env h.arena hapart.1
    rw [heq] at hp
    rcases List.mem_append.mp hp with hp | hp
    · exact .inr ⟨m, List.mem_cons_self .., (hkeeps.puts p hp).1⟩
    · exact .inl hp

end EngramState

end MemService
