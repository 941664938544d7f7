import MemService.MpscLanes
import MemService.RegionLayout

/-!
# The stream of one provider and many consumers

`obmm_spmc_queue.h`.  The provider publishes descriptors in a ring; every consumer reads all of them, at its
own pace, with a cursor that it alone moves.  A publish looks at the cursors one after the other, and the
consumers go on while it does; a slot is written again only when every cursor seen has come past it.  The
provider also gives back the payloads of descriptors all consumers have read.

`spmc_broadcast` says of every run of a stream: what a consumer has consumed is the front of what was
published, at most `depth` descriptors are ahead of it, no consumer is ever paused for an overflow and no
publish broken off for a paused one.  `spmc_room` says that a publish begun with room is not refused, and
`spmc_reclaim` what was given back.

The counters have 64 bits and are compared as numbers, so a run is one of fewer than 2⁶⁴ publishes.
-/

namespace MemService

/-! ## The stream -/

/-- `OBMM_SPMC_MAX_CONSUMERS`. -/
def spmcMaxConsumers : UInt32 := 64
/-- `OBMM_REGION_SPMC_STREAM`. -/
def regionSpmcStream : UInt16 := 6
/-- `OBMM_REGION_TX_ARENA`. -/
def regionTxArena : UInt16 := 3
/-- `OBMM_SPMC_MAGIC`. -/
def spmcMagic : UInt64 := 0x4f424d53504d4301
/-- `OBMM_SPMC_VERSION`. -/
def spmcVersion : UInt32 := 1
/-- `OBMM_SPMC_F_STRICT`. -/
def spmcFlagStrict : UInt32 := 1

/-- `enum obmm_spmc_cursor_state`. -/
inductive SpmcCursorState
  | detached
  | attaching
  | active
  | paused
  | dead
  deriving DecidableEq

/-- `struct obmm_spmc_consumer_cursor`. -/
structure SpmcCursor where
  head : UInt64 := 0
  observedSeq : UInt64 := 0
  dropCount : UInt64 := 0
  state : SpmcCursorState := .detached
  generationSeen : UInt32 := 0
  nodeId : UInt32 := 0

/-- `struct obmm_spmc_stream`, with its cursors and the words of its ring. -/
structure SpmcStream where
  magic : UInt64
  activeConsumerMask : UInt64
  generation : UInt64
  version : UInt32
  flags : UInt32
  headerBytes : UInt32
  cursorOffset : UInt32
  descOffset : UInt32
  depth : UInt32
  mask : UInt32
  maxConsumers : UInt32
  providerNode : UInt32
  tail : UInt64
  cursors : ℕ → SpmcCursor
  ring : ℕ → Fin 4 → UInt64

/-- What is written once, when the stream is set up. -/
def SpmcStream.header (s : SpmcStream) : SpmcStream :=
  { s with tail := 0, cursors := fun _ => {}, ring := fun _ _ => 0 }

lemma SpmcStream.of_header {s s' : SpmcStream} (h : s'.header = s.header) :
    s'.depth = s.depth ∧ s'.activeConsumerMask = s.activeConsumerMask := by
  have hdepth := congrArg SpmcStream.depth h
  have hmask := congrArg SpmcStream.activeConsumerMask h
  exact ⟨hdepth, hmask⟩

/-- `OBMM_FOR_EACH_NODE_ID`: the nodes of a mask, from the lowest bit on. -/
def nodeIds (mask : UInt64) : List ℕ := (List.range 64).filter fun i => mask.toNat.testBit i

/-- `obmm_spmc_stream_init`. -/
def spmcStreamInit (depth maxConsumers providerNode : UInt32) (consumerMask : UInt64) :
    Option SpmcStream :=
  let cursorOff := alignUp 128 64
  let descOff := alignUp (cursorOff + maxConsumers.toUInt64 * 64) 64
  if depth < queueMinDepth ∨ depth > queueMaxDepth then none
  else if depth = 0 ∨ depth &&& (depth - 1) ≠ 0 then none
  else if maxConsumers = 0 ∨ maxConsumers > spmcMaxConsumers then none
  -- `63 - __builtin_clzll(mask)` is the highest bit
  else if consumerMask ≠ 0 ∧ maxConsumers.toNat ≤ consumerMask.toNat.log2 then none
  else
    some
      { magic := spmcMagic, activeConsumerMask := consumerMask, generation := 1
        version := spmcVersion, flags := spmcFlagStrict, headerBytes := 128
        cursorOffset := cursorOff.toUInt32, descOffset := descOff.toUInt32
        depth := depth, mask := depth - 1, maxConsumers := maxConsumers, providerNode := providerNode
        tail := 0
        cursors := fun i =>
          if i ∈ nodeIds consumerMask then
            { nodeId := UInt32.ofNat i, generationSeen := 1, state := .active }
          else {}
        ring := fun _ _ => 0 }

/-! ## The provider's view -/

/-- `struct obmm_spmc_stream_view`, without the addresses. -/
structure SpmcStreamView where
  poolSize : UInt64
  dir : List RegionDirent
  providerNode : UInt32

/-- `obmm_spmc_provider_payload_addr`: `none` for `-EINVAL`, and otherwise whether the payload lies in the
provider's arena. -/
def spmcProviderPayload (v : SpmcStreamView) (d : Desc) : Option Bool :=
  match v.dir.find? fun e => e.regionId == d.regionId with
  | none => none
  | some e =>
      if e.offset > v.poolSize ∨ e.size > v.poolSize - e.offset then none
      else if d.payloadLen = 0 then some false
      else if d.payloadOffset > e.size ∨ d.payloadLen.toUInt64 > e.size - d.payloadOffset then none
      else some (e.kind == regionTxArena && e.peerNodeId.toUInt32 == v.providerNode)

/-- `struct obmm_spmc_tx_reclaim_state`. -/
structure SpmcTxReclaimState where
  descReclaimedTo : UInt64 := 0
  txReclaimOffset : UInt64 := 0

/-- What a publish answers. -/
inductive PublishAnswer
  | ok
  | again
  | pipe
  | nodev
  | inval
  deriving DecidableEq

/-- Where the provider is: with the cursors a publish has still to look at, the one whose head comes next,
and the number of words copied; or the same of a reclaim. -/
inductive Providing
  | idle
  | scanning (d : Desc) (tail minHead : UInt64) (left : List ℕ)
  | scanHead (d : Desc) (tail minHead : UInt64) (i : ℕ) (left : List ℕ)
  | copying (d : Desc) (tail : UInt64) (done : ℕ)
  | reclaiming (minHead : UInt64) (left : List ℕ)
  | reclaimHead (minHead : UInt64) (i : ℕ) (left : List ℕ)

/-- Where a consumer is. -/
inductive Consuming
  | idle
  | loaded (state : SpmcCursorState) (head : UInt64)
  | copying (head : UInt64) (done : ℕ) (copied : Fin 4 → UInt64)

/-- The stream with the calls under way, and what was published, consumed, answered and given back. -/
structure SpmcState where
  view : SpmcStreamView
  stream : SpmcStream
  providing : Providing
  consuming : ℕ → Consuming
  published : List Desc
  consumed : ℕ → List Desc
  answers : List PublishAnswer
  reclaim : SpmcTxReclaimState

/-- A call begins, with its first loads, or one access of a call under way. -/
inductive SpmcMove
  | publish (d : Desc)
  | reclaim
  | provider
  | consume (i : ℕ)
  | consumer (i : ℕ)

namespace SpmcState

/-- The loop of `obmm_spmc_reclaim_payloads`, `n` rounds of it at most. -/
def reclaimPayloads (v : SpmcStreamView) (s : SpmcStream) :
    ℕ → SpmcTxReclaimState → SpmcTxReclaimState
  | 0, st => st
  | n + 1, st =>
      let d := Desc.ofWords (s.ring (st.descReclaimedTo &&& s.mask.toUInt64).toNat)
      match spmcProviderPayload v d with
      | none => st
      | some false => reclaimPayloads v s n { st with descReclaimedTo := st.descReclaimedTo + 1 }
      | some true =>
          let stop := d.payloadOffset + d.payloadLen.toUInt64
          reclaimPayloads v s n
            { descReclaimedTo := st.descReclaimedTo + 1
              txReclaimOffset := if stop > st.txReclaimOffset then stop else st.txReclaimOffset }

/-- A publish ends. -/
def answer (s : SpmcState) (a : PublishAnswer) : SpmcState :=
  { s with providing := .idle, answers := s.answers ++ [a] }

/-- The next access of the provider. -/
def stepProvider (s : SpmcState) : SpmcState :=
  match s.providing with
  | .idle => s
  | .scanning d tail minHead (i :: left) =>
      if (s.stream.cursors i).state ≠ .active then s.answer .pipe
      else { s with providing := .scanHead d tail minHead i left }
  | .scanHead d tail minHead i left =>
      let head := (s.stream.cursors i).head
      { s with providing := .scanning d tail (if head < minHead then head else minHead) left }
  | .scanning d tail minHead [] =>
      if tail - minHead ≥ s.stream.depth.toUInt64 then s.answer .again
      else
        match spmcProviderPayload s.view d with
        | none => s.answer .inval
        | some _ => { s with providing := .copying d tail 0 }
  | .copying d tail done =>
      if h : done < 4 then
        let slot := (tail &&& s.stream.mask.toUInt64).toNat
        { s with
          stream := { s.stream with
            ring := Function.update s.stream.ring slot
              (Function.update (s.stream.ring slot) ⟨done, h⟩ (d.words ⟨done, h⟩)) }
          providing := .copying d tail (done + 1) }
      else
        { s with
          stream := { s.stream with tail := tail + 1 }
          providing := .idle
          published := s.published ++ [d]
          answers := s.answers ++ [.ok] }
  | .reclaiming minHead (i :: left) =>
      if (s.stream.cursors i).state ≠ .active then { s with providing := .reclaiming minHead left }
      else { s with providing := .reclaimHead minHead i left }
  | .reclaimHead minHead i left =>
      let head := (s.stream.cursors i).head
      { s with providing := .reclaiming (if head < minHead then head else minHead) left }
  | .reclaiming minHead [] =>
      { s with
        providing := .idle
        reclaim := reclaimPayloads s.view s.stream
          (minHead.toNat - s.reclaim.descReclaimedTo.toNat) s.reclaim }

/-- The stream with one cursor changed. -/
def setCursor (s : SpmcStream) (i : ℕ) (c : SpmcCursor) : SpmcStream :=
  { s with cursors := Function.update s.cursors i c }

/-- The next access of a consumer. -/
def stepConsumer (s : SpmcState) (i : ℕ) : SpmcState :=
  let c := s.stream.cursors i
  match s.consuming i with
  | .idle => s
  | .loaded state head =>
      -- the load of `tail`
      if state ≠ .active then { s with consuming := Function.update s.consuming i .idle }
      else if head = s.stream.tail then { s with consuming := Function.update s.consuming i .idle }
      else if s.stream.tail - head > s.stream.depth.toUInt64 then
        { s with
          stream := setCursor s.stream i { c with dropCount := c.dropCount + 1, state := .paused }
          consuming := Function.update s.consuming i .idle }
      else { s with consuming := Function.update s.consuming i (.copying head 0 fun _ => 0) }
  | .copying head done copied =>
      if h : done < 4 then
        let slot := (head &&& s.stream.mask.toUInt64).toNat
        { s with
          consuming := Function.update s.consuming i
            (.copying head (done + 1) (Function.update copied ⟨done, h⟩ (s.stream.ring slot ⟨done, h⟩))) }
      else
        { s with
          stream := setCursor s.stream i { c with observedSeq := copied ⟨0, Nat.zero_lt_succ 3⟩, head := head + 1 }
          consuming := Function.update s.consuming i .idle
          consumed := Function.update s.consumed i (s.consumed i ++ [Desc.ofWords copied]) }

def step (s : SpmcState) : SpmcMove → SpmcState
  | .publish d =>
      match s.providing with
      | .idle =>
          if s.stream.activeConsumerMask = 0 then s.answer .nodev
          else
            { s with
              providing := .scanning d s.stream.tail s.stream.tail
                (nodeIds s.stream.activeConsumerMask) }
      | _ => s
  | .reclaim =>
      match s.providing with
      | .idle =>
          { s with providing := .reclaiming s.stream.tail (nodeIds s.stream.activeConsumerMask) }
      | _ => s
  | .provider => s.stepProvider
  | .consume i =>
      match s.consuming i with
      | .idle =>
          let c := s.stream.cursors i
          { s with consuming := Function.update s.consuming i (.loaded c.state c.head) }
      | _ => s
  | .consumer i => s.stepConsumer i

/-- A stream nobody has used yet. -/
def start (view : SpmcStreamView) (stream : SpmcStream) : SpmcState :=
  ⟨view, stream, .idle, fun _ => .idle, [], fun _ => [], [], {}⟩

/-! ## The invariant -/

/-- What a call of `obmm_spmc_consume` knows. -/
def ConsumingOk (published : List Desc) (c : SpmcCursor) (consumed : List Desc) : Consuming → Prop
  | .idle => True
  | .loaded state head => state = .active ∧ head = c.head
  | .copying head done copied =>
      head = c.head ∧ ∃ d, published[consumed.length]? = some d ∧ Ring.Copied done copied d.words

/-- A consumer that keeps up: its cursor counts what it has consumed, this is the front of what was
published, and the rest lies in the ring. -/
structure Reader (depth : ℕ) (ring : ℕ → Fin 4 → UInt64) (published : List Desc) (c : SpmcCursor)
    (consuming : Consuming) (consumed : List Desc) : Prop where
  active : c.state = .active
  noDrop : c.dropCount = 0
  head : c.head = UInt64.ofNat consumed.length
  front : consumed <+: published
  room : published.length ≤ consumed.length + depth
  keeps : Ring.Keeps ring depth (published.map Desc.words) consumed.length
  consuming : ConsumingOk published c consumed consuming

/-- What a look at the cursors has found: `minHead` is not above the heads of those looked at. -/
structure Scanned (ids : List ℕ) (published : List Desc) (consumed : ℕ → List Desc) (minHead : UInt64)
    (left : List ℕ) : Prop where
  left_subset : left ⊆ ids
  le_published : minHead.toNat ≤ published.length
  le_consumed : ∀ i ∈ ids, i ∉ left → minHead.toNat ≤ (consumed i).length

/-- What the provider knows. -/
def ProvidingOk (ids : List ℕ) (stream : SpmcStream) (published : List Desc) (consumed : ℕ → List Desc) :
    Providing → Prop
  | .idle => True
  | .scanning _ tail minHead left =>
      tail = stream.tail ∧ Scanned ids published consumed minHead left
  | .scanHead _ tail minHead i left =>
      tail = stream.tail ∧ Scanned ids published consumed minHead (i :: left)
  | .copying d tail done =>
      tail = stream.tail ∧
        (∀ i ∈ ids, published.length < (consumed i).length + stream.depth.toNat) ∧
        Ring.Copied done (stream.ring (published.length % stream.depth.toNat)) d.words
  | .reclaiming minHead left => Scanned ids published consumed minHead left
  | .reclaimHead minHead i left => Scanned ids published consumed minHead (i :: left)

/-- **The invariant of the stream** with the consumers `ids`. -/
structure Sound (ids : List ℕ) (s : SpmcState) : Prop where
  nodes : nodeIds s.stream.activeConsumerMask = ids
  depth : ∃ b, RingDepth s.stream.depth s.stream.mask b
  tail : s.stream.tail = UInt64.ofNat s.published.length
  readers : ∀ i ∈ ids, Reader s.stream.depth.toNat s.stream.ring s.published (s.stream.cursors i)
    (s.consuming i) (s.consumed i)
  providing : ProvidingOk ids s.stream s.published s.consumed s.providing
  answers : .pipe ∉ s.answers

section Counters

variable {size mask : UInt32} {b m n : ℕ}

lemma slot64 (h : RingDepth size mask b) (n : ℕ) :
    (UInt64.ofNat n &&& mask.toUInt64).toNat = n % size.toNat := by
  rw [UInt64.toNat_and, UInt32.toNat_toUInt64, h.mask, Nat.and_two_pow_sub_one_eq_mod,
    UInt64.toNat_ofNat', h.size]
  exact Ring.slot_wrap (h.le.trans (by decide))

lemma toNat_ofNat64 (hn : n < 2 ^ 64) : (UInt64.ofNat n).toNat = n := UInt64.toNat_ofNat_of_lt' hn

/-- The number of descriptors ahead of a cursor. -/
lemma toNat_tail_sub {minHead : UInt64} (hle : minHead.toNat ≤ n) (hn : n < 2 ^ 64) :
    (UInt64.ofNat n - minHead).toNat = n - minHead.toNat := by
  rw [UInt64.toNat_sub_of_le, toNat_ofNat64 hn]
  rwa [UInt64.le_iff_toNat_le, toNat_ofNat64 hn]

end Counters

/-! ## One consumer -/

section Reader

variable {depth : ℕ} {ring ring' : ℕ → Fin 4 → UInt64} {published consumed : List Desc}
  {c : SpmcCursor} {consuming : Consuming}

lemma Reader.length_le (h : Reader depth ring published c consuming consumed) :
    consumed.length ≤ published.length := h.front.length_le

/-- The provider writes to the slot of the next descriptor. -/
lemma Reader.of_eq_off (h : Reader depth ring published c consuming consumed)
    (hroom : published.length < consumed.length + depth)
    (heq : ∀ k, k ≠ published.length % depth → ring' k = ring k) :
    Reader depth ring' published c consuming consumed where
  active := h.active
  noDrop := h.noDrop
  head := h.head
  front := h.front
  room := h.room
  keeps := by
    apply h.keeps.of_eq_off
    · rwa [List.length_map]
    · rwa [List.length_map]
  consuming := h.consuming

/-- The next descriptor is published. -/
lemma Reader.publish (h : Reader depth ring published c consuming consumed)
    (hroom : published.length < consumed.length + depth) {d : Desc}
    (hslot : ring (published.length % depth) = d.words) :
    Reader depth ring (published ++ [d]) c consuming consumed where
  active := h.active
  noDrop := h.noDrop
  head := h.head
  front := h.front.trans (List.prefix_append _ _)
  room := by
    rw [List.length_append, List.length_singleton]
    exact hroom
  keeps := by
    rw [List.map_append]
    apply h.keeps.append
    rwa [List.length_map]
  consuming := by
    have hok := h.consuming
    cases consuming with
    | idle => trivial
    | loaded state head => exact hok
    | copying head done copied =>
      obtain ⟨hhead, d', hd', hcopied⟩ := hok
      obtain ⟨hlt, -⟩ := List.getElem?_eq_some_iff.mp hd'
      exact ⟨hhead, d', by rw [List.getElem?_append_left hlt, hd'], hcopied⟩

/-- A call of the consumer goes on. -/
lemma Reader.of_consuming (h : Reader depth ring published c consuming consumed)
    {consuming' : Consuming} (hok : ConsumingOk published c consumed consuming') :
    Reader depth ring published c consuming' consumed :=
  { h with consuming := hok }

/-- The descriptor at the cursor is consumed. -/
lemma Reader.consume (h : Reader depth ring published c consuming consumed) {d : Desc}
    (hd : published[consumed.length]? = some d) {observedSeq : UInt64} :
    Reader depth ring published
      { c with observedSeq := observedSeq, head := UInt64.ofNat consumed.length + 1 } .idle
      (consumed ++ [d]) where
  active := h.active
  noDrop := h.noDrop
  head := by
    dsimp only
    rw [ofNat_succ64, List.length_append, List.length_singleton]
  front := by
    obtain ⟨hlt, hget⟩ := List.getElem?_eq_some_iff.mp hd
    rw [← hget]
    exact List.concat_get_prefix h.front hlt
  room := by
    have := h.room
    rw [List.length_append, List.length_singleton]
    omega
  keeps := by
    rw [List.length_append, List.length_singleton]
    exact h.keeps.mono (Nat.le_succ _)
  consuming := trivial

/-- The ring holds the descriptor at the cursor. -/
lemma Reader.head_words (h : Reader depth ring published c consuming consumed) {d : Desc}
    (hd : published[consumed.length]? = some d) : ring (consumed.length % depth) = d.words := by
  obtain ⟨hlt, hget⟩ := List.getElem?_eq_some_iff.mp hd
  have hkeep := h.keeps consumed.length (by simpa using hlt) le_rfl
  rw [List.getElem_map, hget] at hkeep
  exact hkeep

end Reader

/-! ## The provider -/

section Scanned

variable {ids left : List ℕ} {published : List Desc} {consumed consumed' : ℕ → List Desc}
  {minHead : UInt64}

lemma Scanned.start (hle : minHead.toNat ≤ published.length) :
    Scanned ids published consumed minHead ids :=
  ⟨fun _ hi => hi, hle, fun _ hi hni => absurd hi hni⟩

/-- A consumer that is not waited for. -/
lemma Scanned.look {i : ℕ} (h : Scanned ids published consumed minHead (i :: left)) {head : UInt64}
    (hle : (consumed i).length ≤ published.length) (hhead : head.toNat = (consumed i).length) :
    Scanned ids published consumed (if head < minHead then head else minHead) left := by
  have hmin : (if head < minHead then head else minHead).toNat = min head.toNat minHead.toNat := by
    split_ifs with hlt
    · rw [UInt64.lt_iff_toNat_lt] at hlt
      rw [min_eq_left hlt.le]
    · rw [UInt64.lt_iff_toNat_lt, not_lt] at hlt
      rw [min_eq_right hlt]
  refine ⟨fun j hj => h.left_subset (List.mem_cons_of_mem _ hj), ?_, ?_⟩
  · rw [hmin]
    exact (min_le_right _ _).trans h.le_published
  · intro j hj hnot
    rw [hmin]
    by_cases heq : j = i
    · subst heq
      exact (min_le_left _ _).trans_eq hhead
    · exact (min_le_right _ _).trans (h.le_consumed j hj (by simp [heq, hnot]))

lemma Scanned.mono (h : Scanned ids published consumed minHead left)
    (hgrow : ∀ i, (consumed i).length ≤ (consumed' i).length) :
    Scanned ids published consumed' minHead left :=
  { h with le_consumed := fun i hi hnot => (h.le_consumed i hi hnot).trans (hgrow i) }

end Scanned

section Steps

variable {ids : List ℕ} {s : SpmcState}

lemma Sound.head_toNat (h : s.Sound ids) (hP : s.published.length < 2 ^ 64) {i : ℕ} (hi : i ∈ ids) :
    (s.stream.cursors i).head.toNat = (s.consumed i).length := by
  have hlt := (h.readers i hi).length_le
  rw [(h.readers i hi).head, toNat_ofNat64 (by omega)]

lemma Sound.tail_slot (h : s.Sound ids) :
    (s.stream.tail &&& s.stream.mask.toUInt64).toNat =
      s.published.length % s.stream.depth.toNat := by
  obtain ⟨b, hb⟩ := h.depth
  rw [h.tail]
  exact slot64 hb _

/-- A publish ends without publishing. -/
lemma Sound.answer (h : s.Sound ids) {a : PublishAnswer} (ha : a ≠ .pipe) : (s.answer a).Sound ids :=
  { h with
    providing := trivial
    answers := by
      intro hmem
      rcases List.mem_append.mp hmem with hmem | hmem
      · exact h.answers hmem
      · exact ha (List.mem_singleton.mp hmem).symm }

/-- The publish has looked at all cursors. -/
lemma Sound.provider_scanned (h : s.Sound ids) (hP : s.published.length < 2 ^ 64) {d : Desc}
    {tail minHead : UInt64} (hp : s.providing = .scanning d tail minHead []) :
    s.stepProvider.Sound ids := by
  obtain ⟨htail, hscan⟩ : tail = s.stream.tail ∧ Scanned ids s.published s.consumed minHead [] := by
    have := h.providing
    rwa [ProvidingOk.eq_def, hp] at this
  rw [stepProvider, hp]
  dsimp only
  split_ifs with hfull
  · exact h.answer (by decide)
  · cases hpay : spmcProviderPayload s.view d with
    | none => exact h.answer (by decide)
    | some inArena =>
      refine { h with providing := ⟨htail, ?_, Ring.Copied.zero _ _⟩ }
      intro i hi
      have hle := hscan.le_consumed i hi List.not_mem_nil
      rw [htail, h.tail, ge_iff_le, UInt64.le_iff_toNat_le, toNat_tail_sub hscan.le_published hP,
        UInt32.toNat_toUInt64] at hfull
      dsimp only
      omega

/-- The publish copies a word, or stores the counter behind the last one. -/
lemma Sound.provider_copying (h : s.Sound ids) {d : Desc} {tail : UInt64} {done : ℕ}
    (hp : s.providing = .copying d tail done) : s.stepProvider.Sound ids := by
  obtain ⟨htail, hroom, hwords⟩ : tail = s.stream.tail ∧
      (∀ i ∈ ids, s.published.length < (s.consumed i).length + s.stream.depth.toNat) ∧
      Ring.Copied done (s.stream.ring (s.published.length % s.stream.depth.toNat)) d.words := by
    have := h.providing
    rwa [ProvidingOk.eq_def, hp] at this
  rw [stepProvider, hp]
  dsimp only
  split_ifs with hdone
  · rw [htail, h.tail_slot]
    refine { h with readers := ?_, providing := ⟨rfl, hroom, ?_⟩ }
    · intro i hi
      apply (h.readers i hi).of_eq_off (hroom i hi)
      intro k hk
      exact Function.update_of_ne hk _ _
    · dsimp only
      rw [Function.update_self]
      exact hwords.update hdone
  · refine { h with tail := ?_, readers := ?_, providing := trivial, answers := ?_ }
    · dsimp only
      rw [htail, h.tail, ofNat_succ64, List.length_append, List.length_singleton]
    · intro i hi
      exact (h.readers i hi).publish (hroom i hi) (hwords.eq hdone)
    · intro hmem
      rcases List.mem_append.mp hmem with hmem | hmem
      · exact h.answers hmem
      · cases List.mem_singleton.mp hmem

/-- Every access of the provider keeps the invariant. -/
lemma Sound.stepProvider (h : s.Sound ids) (hP : s.published.length < 2 ^ 64) :
    s.stepProvider.Sound ids := by
  cases hp : s.providing with
  | idle => rwa [SpmcState.stepProvider, hp]
  | scanning d tail minHead left =>
    cases left with
    | nil => exact h.provider_scanned hP hp
    | cons i left =>
      have hok := h.providing
      rw [hp] at hok
      have hactive := (h.readers i (hok.2.left_subset (List.mem_cons_self ..))).active
      rw [SpmcState.stepProvider, hp]
      dsimp only
      rw [if_neg (not_not.mpr hactive)]
      exact { h with providing := hok }
  | scanHead d tail minHead i left =>
    have hok := h.providing
    rw [hp] at hok
    have hi := hok.2.left_subset (List.mem_cons_self ..)
    rw [SpmcState.stepProvider, hp]
    exact { h with
      providing := ⟨hok.1, hok.2.look (h.readers i hi).length_le (h.head_toNat hP hi)⟩ }
  | copying d tail done => exact h.provider_copying hp
  | reclaiming minHead left =>
    cases left with
    | nil =>
      rw [SpmcState.stepProvider, hp]
      exact { h with providing := trivial }
    | cons i left =>
      have hok := h.providing
      rw [hp] at hok
      have hactive := (h.readers i (hok.left_subset (List.mem_cons_self ..))).active
      rw [SpmcState.stepProvider, hp]
      dsimp only
      rw [if_neg (not_not.mpr hactive)]
      exact { h with providing := hok }
  | reclaimHead minHead i left =>
    have hok := h.providing
    rw [hp] at hok
    have hi := hok.left_subset (List.mem_cons_self ..)
    rw [SpmcState.stepProvider, hp]
    exact { h with providing := hok.look (h.readers i hi).length_le (h.head_toNat hP hi) }

/-! ## The consumers -/

/-- The provider need not know that a consumer has gone on. -/
lemma ProvidingOk.mono {stream stream' : SpmcStream} {published : List Desc}
    {consumed consumed' : ℕ → List Desc} {p : Providing}
    (h : ProvidingOk ids stream published consumed p) (htail : stream'.tail = stream.tail)
    (hdepth : stream'.depth = stream.depth) (hring : stream'.ring = stream.ring)
    (hgrow : ∀ i, (consumed i).length ≤ (consumed' i).length) :
    ProvidingOk ids stream' published consumed' p := by
  cases p with
  | idle => trivial
  | scanning d tail minHead left => exact ⟨h.1.trans htail.symm, h.2.mono hgrow⟩
  | scanHead d tail minHead i left => exact ⟨h.1.trans htail.symm, h.2.mono hgrow⟩
  | copying d tail done =>
    obtain ⟨h₁, h₂, h₃⟩ := h
    refine ⟨h₁.trans htail.symm, ?_, ?_⟩
    · intro i hi
      rw [hdepth]
      exact (h₂ i hi).trans_le (Nat.add_le_add_right (hgrow i) _)
    · rw [hdepth, hring]
      exact h₃
  | reclaiming minHead left => exact Scanned.mono h hgrow
  | reclaimHead minHead i left => exact Scanned.mono h hgrow

/-- A consumer's step: its cursor, its call and what it has consumed may be new. -/
lemma Sound.of_consumer (h : s.Sound ids) (i : ℕ) {c : SpmcCursor} {consuming : Consuming}
    {consumed : List Desc} (hgrow : (s.consumed i).length ≤ consumed.length)
    (hreader : i ∈ ids →
      Reader s.stream.depth.toNat s.stream.ring s.published c consuming consumed) :
    Sound ids
      { s with
        stream := setCursor s.stream i c
        consuming := Function.update s.consuming i consuming
        consumed := Function.update s.consumed i consumed } where
  nodes := h.nodes
  depth := h.depth
  tail := h.tail
  readers j hj := by
    rw [setCursor]
    dsimp only
    by_cases heq : j = i
    · subst heq
      simpa only [Function.update_self] using hreader hj
    · simpa only [Function.update_of_ne heq] using h.readers j hj
  providing := by
    apply h.providing.mono rfl rfl rfl
    intro j
    dsimp only
    by_cases heq : j = i
    · subst heq
      rwa [Function.update_self]
    · rw [Function.update_of_ne heq]
  answers := h.answers

lemma setCursor_self (stream : SpmcStream) (i : ℕ) : setCursor stream i (stream.cursors i) = stream := by
  rw [setCursor, Function.update_eq_self]

/-- A consumer's step that only takes its call further. -/
lemma Sound.of_consuming (h : s.Sound ids) (i : ℕ) {consuming : Consuming}
    (hok : i ∈ ids → ConsumingOk s.published (s.stream.cursors i) (s.consumed i) consuming) :
    Sound ids { s with consuming := Function.update s.consuming i consuming } := by
  have hstep := h.of_consumer i le_rfl fun hi => (h.readers i hi).of_consuming (hok hi)
  rwa [setCursor_self, Function.update_eq_self] at hstep

/-- A step of a consumer that does not belong to the stream. -/
lemma Sound.of_stranger (h : s.Sound ids) {i : ℕ} (hi : i ∉ ids) (c : SpmcCursor) (consuming : Consuming) :
    Sound ids
      { s with stream := setCursor s.stream i c, consuming := Function.update s.consuming i consuming } := by
  have hstep := @Sound.of_consumer ids s h i c consuming (s.consumed i) le_rfl fun hi' => absurd hi' hi
  rwa [Function.update_eq_self] at hstep

/-- A consumer looks at the tail: there is no overflow. -/
lemma Sound.consumer_loaded (h : s.Sound ids) (hP : s.published.length < 2 ^ 64) {i : ℕ}
    {state : SpmcCursorState} {head : UInt64} (hp : s.consuming i = .loaded state head) (hi : i ∈ ids) :
    (s.stepConsumer i).Sound ids := by
  have hr := h.readers i hi
  obtain ⟨rfl, rfl⟩ : state = .active ∧ head = (s.stream.cursors i).head := by
    have := hr.consuming
    rwa [hp] at this
  have hle := hr.length_le
  have hhead := h.head_toNat hP hi
  have hroom := hr.room
  rw [stepConsumer, hp]
  dsimp only
  split_ifs with hstate hempty hover
  · exact absurd rfl hstate
  · exact h.of_consuming i fun _ => trivial
  · rw [h.tail, gt_iff_lt, UInt64.lt_iff_toNat_lt, UInt32.toNat_toUInt64,
      toNat_tail_sub (by omega) hP] at hover
    omega
  · apply h.of_consuming i
    intro _
    have hne : (s.consumed i).length ≠ s.published.length := by
      intro heq
      apply hempty
      rw [hr.head, h.tail, heq]
    exact ⟨rfl, s.published[(s.consumed i).length], List.getElem?_eq_getElem (by omega),
      Ring.Copied.zero _ _⟩

/-- A consumer copies a word, or stores its cursor behind the last one. -/
lemma Sound.consumer_copying (h : s.Sound ids) {i : ℕ} {head : UInt64} {done : ℕ}
    {copied : Fin 4 → UInt64} (hp : s.consuming i = .copying head done copied) (hi : i ∈ ids) :
    (s.stepConsumer i).Sound ids := by
  have hr := h.readers i hi
  obtain ⟨rfl, d, hd, hcopied⟩ : head = (s.stream.cursors i).head ∧
      ∃ d, s.published[(s.consumed i).length]? = some d ∧ Ring.Copied done copied d.words := by
    have := hr.consuming
    rwa [hp] at this
  obtain ⟨b, hb⟩ := h.depth
  rw [stepConsumer, hp]
  dsimp only
  split_ifs with hdone
  · rw [hr.head, slot64 hb, hr.head_words hd]
    exact h.of_consuming i fun _ => ⟨hr.head.symm, d, hd, hcopied.update hdone⟩
  · rw [hcopied.eq hdone, Desc.ofWords_words, hr.head]
    apply h.of_consumer i
    · rw [List.length_append]
      exact Nat.le_add_right _ _
    · intro _
      exact hr.consume hd

/-- Every access of a consumer keeps the invariant; one that does not belong to the stream reads and writes
its own cursor only. -/
lemma Sound.stepConsumer (h : s.Sound ids) (hP : s.published.length < 2 ^ 64) (i : ℕ) :
    (s.stepConsumer i).Sound ids := by
  by_cases hi : i ∈ ids
  · cases hp : s.consuming i with
    | idle => rwa [SpmcState.stepConsumer, hp]
    | loaded state head => exact h.consumer_loaded hP hp hi
    | copying head done copied => exact h.consumer_copying hp hi
  · rw [SpmcState.stepConsumer]
    cases hp : s.consuming i with
    | idle => exact h
    | loaded state head =>
      dsimp only
      split_ifs
      · exact h.of_consuming i fun hi' => absurd hi' hi
      · exact h.of_consuming i fun hi' => absurd hi' hi
      · exact h.of_stranger hi _ _
      · exact h.of_consuming i fun hi' => absurd hi' hi
    | copying head done copied =>
      dsimp only
      split_ifs
      · exact h.of_consuming i fun hi' => absurd hi' hi
      · apply h.of_consumer i
        · rw [List.length_append]
          exact Nat.le_add_right _ _
        · exact fun hi' => absurd hi' hi

/-- Every access keeps the invariant. -/
lemma Sound.step (h : s.Sound ids) (hP : s.published.length < 2 ^ 64) (m : SpmcMove) :
    (s.step m).Sound ids := by
  have htail : s.stream.tail.toNat = s.published.length := by
    rw [h.tail, toNat_ofNat64 hP]
  have hscan : Scanned ids s.published s.consumed s.stream.tail
      (nodeIds s.stream.activeConsumerMask) := h.nodes ▸ Scanned.start htail.le
  cases m with
  | publish d =>
    rw [SpmcState.step]
    cases hp : s.providing with
    | idle =>
      dsimp only
      split_ifs
      · exact h.answer (by decide)
      · exact { h with providing := ⟨rfl, hscan⟩ }
    | _ => exact h
  | reclaim =>
    rw [SpmcState.step]
    cases hp : s.providing with
    | idle => exact { h with providing := hscan }
    | _ => exact h
  | provider => exact h.stepProvider hP
  | consume i =>
    rw [SpmcState.step]
    cases hp : s.consuming i with
    | idle => exact h.of_consuming i fun hi => ⟨(h.readers i hi).active, rfl⟩
    | _ => exact h
  | consumer i => exact h.stepConsumer hP i

end Steps

/-! ## Runs -/

section Runs

variable {ids : List ℕ} {s : SpmcState}

/-- A consumer's access leaves the provider and what was published alone. -/
structure ConsumerFrame (s s' : SpmcState) : Prop where
  providing : s'.providing = s.providing
  answers : s'.answers = s.answers
  published : s'.published = s.published
  view : s'.view = s.view
  header : s'.stream.header = s.stream.header
  ring : s'.stream.ring = s.stream.ring
  reclaim : s'.reclaim = s.reclaim
  consumed : ∀ j, s.consumed j <+: s'.consumed j

lemma ConsumerFrame.refl (s : SpmcState) : ConsumerFrame s s :=
  ⟨rfl, rfl, rfl, rfl, rfl, rfl, rfl, fun _ => List.prefix_rfl⟩

lemma ConsumerFrame.depth {s s' : SpmcState} (h : ConsumerFrame s s') :
    s'.stream.depth = s.stream.depth := (SpmcStream.of_header h.header).1

lemma frame_consume (s : SpmcState) (i : ℕ) : ConsumerFrame s (s.step (.consume i)) := by
  have hsame := ConsumerFrame.refl s
  rw [step]
  cases s.consuming i with
  | idle => exact { hsame with }
  | _ => exact hsame

lemma frame_consumer (s : SpmcState) (i : ℕ) : ConsumerFrame s (s.step (.consumer i)) := by
  have hsame := ConsumerFrame.refl s
  rw [step, stepConsumer.eq_def]
  cases s.consuming i with
  | idle => exact hsame
  | loaded state head => dsimp only; split_ifs <;> exact { hsame with }
  | copying head done copied =>
    dsimp only
    split_ifs
    · exact { hsame with }
    · refine { hsame with consumed := ?_ }
      intro j
      dsimp only
      by_cases heq : j = i
      · subst heq
        rw [Function.update_self]
        exact List.prefix_append _ _
      · rw [Function.update_of_ne heq]

/-- What stays through every step: the view and the header, and what was published and answered. -/
structure Frame (s s' : SpmcState) : Prop where
  view : s'.view = s.view
  header : s'.stream.header = s.stream.header
  published : s.published <+: s'.published
  answers : s.answers <+: s'.answers

lemma Frame.refl (s : SpmcState) : Frame s s := ⟨rfl, rfl, List.prefix_rfl, List.prefix_rfl⟩

lemma frame_answer (s : SpmcState) (a : PublishAnswer) : Frame s (s.answer a) :=
  ⟨rfl, rfl, List.prefix_rfl, List.prefix_append _ _⟩

lemma frame_stepProvider (s : SpmcState) : Frame s s.stepProvider := by
  have hsame := Frame.refl s
  rw [stepProvider.eq_def]
  cases s.providing with
  | idle => exact hsame
  | scanning d tail minHead left =>
    cases left with
    | nil =>
      dsimp only
      split_ifs
      · exact s.frame_answer _
      · cases spmcProviderPayload s.view d with
        | none => exact s.frame_answer _
        | some inArena => exact { hsame with }
    | cons i left =>
      dsimp only
      split_ifs
      · exact s.frame_answer _
      · exact { hsame with }
  | scanHead d tail minHead i left => exact { hsame with }
  | copying d tail done =>
    dsimp only
    split_ifs
    · exact { hsame with }
    · exact ⟨rfl, rfl, List.prefix_append _ _, List.prefix_append _ _⟩
  | reclaiming minHead left =>
    cases left with
    | nil => exact { hsame with }
    | cons i left => dsimp only; split_ifs <;> exact { hsame with }
  | reclaimHead minHead i left => exact { hsame with }

lemma ConsumerFrame.frame {s s' : SpmcState} (h : ConsumerFrame s s') : Frame s s' :=
  ⟨h.view, h.header, h.published ▸ List.prefix_rfl, h.answers ▸ List.prefix_rfl⟩

lemma frame_step (s : SpmcState) (m : SpmcMove) : Frame s (s.step m) := by
  have hsame := Frame.refl s
  cases m with
  | publish d =>
    rw [step]
    cases s.providing with
    | idle =>
      dsimp only
      split_ifs
      · exact s.frame_answer _
      · exact { hsame with }
    | _ => exact hsame
  | reclaim =>
    rw [step]
    cases s.providing with
    | idle => exact { hsame with }
    | _ => exact hsame
  | provider => exact s.frame_stepProvider
  | consume i => exact (s.frame_consume i).frame
  | consumer i => exact (s.frame_consumer i).frame

/-- The invariant as long as the counters do not run over. -/
def SoundBelow (ids : List ℕ) (s : SpmcState) : Prop := s.published.length < 2 ^ 64 → s.Sound ids

lemma SoundBelow.step (h : s.SoundBelow ids) (m : SpmcMove) : (s.step m).SoundBelow ids := by
  intro hP
  have hbefore : s.published.length < 2 ^ 64 := (s.frame_step m).published.length_le.trans_lt hP
  exact (h hbefore).step hbefore m

lemma sound_start {depth maxConsumers providerNode : UInt32} {consumerMask : UInt64}
    {stream : SpmcStream} (h : spmcStreamInit depth maxConsumers providerNode consumerMask = some stream)
    (view : SpmcStreamView) : (start view stream).Sound (nodeIds consumerMask) := by
  unfold spmcStreamInit at h
  dsimp only at h
  split_ifs at h with hrange hpow
  rw [Option.some.injEq] at h
  subst h
  refine ⟨rfl, ringDepth_of_accepted hrange hpow, rfl, ?_, trivial, List.not_mem_nil⟩
  intro i hi
  rw [start]
  dsimp only
  rw [if_pos hi]
  exact ⟨rfl, rfl, rfl, List.prefix_rfl, Nat.zero_le _, Ring.keeps_nil _ _ _, trivial⟩

lemma init_depth {depth maxConsumers providerNode : UInt32} {consumerMask : UInt64}
    {stream : SpmcStream} (h : spmcStreamInit depth maxConsumers providerNode consumerMask = some stream) :
    stream.depth = depth ∧ stream.activeConsumerMask = consumerMask := by
  unfold spmcStreamInit at h
  dsimp only at h
  split_ifs at h
  rw [← Option.some.inj h]
  exact ⟨rfl, rfl⟩

/-- What holds in every state of a run. -/
lemma runs_below {depth maxConsumers providerNode : UInt32} {consumerMask : UInt64}
    {stream : SpmcStream} (h : spmcStreamInit depth maxConsumers providerNode consumerMask = some stream)
    (view : SpmcStreamView) (moves : List SpmcMove) :
    (Run.run step (start view stream) moves).SoundBelow (nodeIds consumerMask) ∧
      (Run.run step (start view stream) moves).stream.header = stream.header ∧
      (Run.run step (start view stream) moves).view = view := by
  apply Run.invariant (I := fun t : SpmcState => t.SoundBelow (nodeIds consumerMask) ∧
    t.stream.header = stream.header ∧ t.view = view)
  · rintro t m ⟨hs, hh, hv⟩
    have hf := t.frame_step m
    exact ⟨hs.step m, hf.header.trans hh, hf.view.trans hv⟩
  · exact ⟨fun _ => sound_start h view, rfl, rfl⟩

end Runs

/-- **Every consumer reads everything.**  In every run of a stream with fewer than 2⁶⁴ publishes, with the
accesses of the provider and of all consumers in any order: what a consumer of the mask has consumed is the
front of what was published, at most `depth` descriptors are ahead of it, it has not been paused and has
dropped nothing, and no publish was broken off for a consumer that is not active. -/
theorem spmc_broadcast {depth maxConsumers providerNode : UInt32} {consumerMask : UInt64}
    {stream : SpmcStream} (h : spmcStreamInit depth maxConsumers providerNode consumerMask = some stream)
    (view : SpmcStreamView) (moves : List SpmcMove) :
    let s := Run.run step (start view stream) moves
    s.published.length < 2 ^ 64 →
      (∀ i ∈ nodeIds consumerMask,
        s.consumed i <+: s.published ∧
          s.published.length ≤ (s.consumed i).length + depth.toNat ∧
          (s.stream.cursors i).state = .active ∧ (s.stream.cursors i).dropCount = 0) ∧
        .pipe ∉ s.answers := by
  intro s hP
  obtain ⟨hs, hheader, -⟩ := runs_below h view moves
  have hdepth : s.stream.depth = depth := (SpmcStream.of_header hheader).1.trans (init_depth h).1
  refine ⟨?_, (hs hP).answers⟩
  intro i hi
  have hr := (hs hP).readers i hi
  exact ⟨hr.front, hdepth ▸ hr.room, hr.active, hr.noDrop⟩

/-- A new stream of node 7 with consumers 0 and 1. -/
def twoReaders : SpmcStream := (spmcStreamInit 64 2 7 3).get rfl

lemma init_twoReaders : spmcStreamInit 64 2 7 3 = some twoReaders := (Option.some_get _).symm

/-- A pool with the arena of node 7. -/
def arenaView : SpmcStreamView :=
  { poolSize := 8192, providerNode := 7
    dir := [{ regionId := 5, kind := regionTxArena, peerNodeId := 7, offset := 4096, size := 4096 }] }

/-- Consumer 1 has read the descriptor that consumer 0 has still ahead of it. -/
theorem spmc_broadcast_of_twoReaders :
    let d : Desc := { seq := 9, regionId := 5, payloadLen := 100 }
    let s := Run.run step (start arenaView twoReaders)
      (.publish d :: List.replicate 10 .provider ++ .consume 1 :: List.replicate 6 (.consumer 1))
    s.consumed 1 = [d] ∧ s.consumed 0 <+: s.published := by
  intro d s
  have hP : s.published.length < 2 ^ 64 := by decide +kernel
  refine ⟨by decide +kernel, ?_⟩
  exact ((spmc_broadcast init_twoReaders arenaView _ hP).1 0 (by decide +kernel)).1

/-! ## A publish with room -/

/-- A publish of `d` under way that has seen no consumer `depth` descriptors behind. -/
def RoomSeen (s : SpmcState) (d : Desc) : Prop :=
  match s.providing with
  | .scanning d' _ minHead _ =>
      d' = d ∧ s.published.length < minHead.toNat + s.stream.depth.toNat
  | .scanHead d' _ minHead _ _ =>
      d' = d ∧ s.published.length < minHead.toNat + s.stream.depth.toNat
  | .copying d' _ _ => d' = d ∧ spmcProviderPayload s.view d ≠ none
  | _ => False

/-- How a publish of `d` that was call number `n` and finds `p` descriptors published can stand: under
way, published, or refused for its payload. -/
def Publishing (ids : List ℕ) (view : SpmcStreamView) (d : Desc) (n p : ℕ) (s : SpmcState) : Prop :=
  (s.answers.length = n ∧ s.published.length = p ∧ s.RoomSeen d ∧
      ∀ i ∈ ids, s.published.length < (s.consumed i).length + s.stream.depth.toNat) ∨
    (s.answers[n]? = some .ok ∧ s.published[p]? = some d ∧ spmcProviderPayload view d ≠ none) ∨
    s.answers[n]? = some .inval ∧ spmcProviderPayload view d = none

section Room

variable {ids : List ℕ} {s : SpmcState} {view : SpmcStreamView} {d : Desc} {n p : ℕ}

lemma getElem?_of_front {α : Type*} {l l' : List α} (h : l <+: l') {k : ℕ} {a : α}
    (ha : l[k]? = some a) : l'[k]? = some a := by
  obtain ⟨rest, rfl⟩ := h
  obtain ⟨hlt, -⟩ := List.getElem?_eq_some_iff.mp ha
  rw [List.getElem?_append_left hlt, ha]

/-- How a publish has ended stays. -/
lemma Publishing.ended {s' : SpmcState} (hf : Frame s s')
    (h : (s.answers[n]? = some .ok ∧ s.published[p]? = some d ∧ spmcProviderPayload view d ≠ none) ∨
      s.answers[n]? = some .inval ∧ spmcProviderPayload view d = none) :
    Publishing ids view d n p s' := by
  rcases h with ⟨hans, hpub, hpay⟩ | ⟨hans, hpay⟩
  · exact .inr (.inl ⟨getElem?_of_front hf.answers hans, getElem?_of_front hf.published hpub, hpay⟩)
  · exact .inr (.inr ⟨getElem?_of_front hf.answers hans, hpay⟩)

/-- The provider's next access of a publish with room. -/
lemma Publishing.provider (hs : s.Sound ids) (hP : s.published.length < 2 ^ 64) (hview : s.view = view)
    (hn : s.answers.length = n) (hp : s.published.length = p) (hseen : s.RoomSeen d)
    (hroom : ∀ i ∈ ids, s.published.length < (s.consumed i).length + s.stream.depth.toNat) :
    Publishing ids view d n p s.stepProvider := by
  have hok := hs.providing
  rw [RoomSeen.eq_def] at hseen
  rw [stepProvider.eq_def]
  cases hpr : s.providing with
  | idle => rw [hpr] at hseen; exact hseen.elim
  | scanning d' tail minHead left =>
    rw [hpr] at hseen hok
    obtain ⟨rfl, hmin⟩ := hseen
    cases left with
    | nil =>
      have hlt : ¬tail - minHead ≥ s.stream.depth.toUInt64 := by
        rw [ge_iff_le, UInt64.le_iff_toNat_le, UInt32.toNat_toUInt64, hok.1, hs.tail,
          toNat_tail_sub hok.2.le_published hP]
        have := hok.2.le_published
        omega
      dsimp only
      rw [if_neg hlt]
      cases hpay : spmcProviderPayload s.view d' with
      | none =>
        refine .inr (.inr ⟨?_, hview ▸ hpay⟩)
        rw [← hn]
        simp [answer]
      | some inArena => exact .inl ⟨hn, hp, ⟨rfl, by simp [hpay]⟩, hroom⟩
    | cons i left =>
      have hactive := (hs.readers i (hok.2.left_subset (List.mem_cons_self ..))).active
      dsimp only
      rw [if_neg (not_not.mpr hactive)]
      exact .inl ⟨hn, hp, ⟨rfl, hmin⟩, hroom⟩
  | scanHead d' tail minHead i left =>
    rw [hpr] at hseen hok
    obtain ⟨rfl, hmin⟩ := hseen
    have hi := hok.2.left_subset (List.mem_cons_self ..)
    refine .inl ⟨hn, hp, ⟨rfl, ?_⟩, hroom⟩
    dsimp only
    split_ifs
    · rw [hs.head_toNat hP hi]
      exact hroom i hi
    · exact hmin
  | copying d' tail done =>
    rw [hpr] at hseen
    obtain ⟨rfl, hpay⟩ := hseen
    dsimp only
    split_ifs
    · exact .inl ⟨hn, hp, ⟨rfl, hpay⟩, hroom⟩
    · refine .inr (.inl ⟨?_, ?_, hview ▸ hpay⟩)
      · rw [← hn]
        simp
      · rw [← hp]
        simp
  | reclaiming minHead left => rw [hpr] at hseen; exact hseen.elim
  | reclaimHead minHead i left => rw [hpr] at hseen; exact hseen.elim

/-- A consumer's access makes no less room. -/
lemma Publishing.consumer {s' : SpmcState} (hn : s.answers.length = n) (hp : s.published.length = p)
    (hseen : s.RoomSeen d)
    (hroom : ∀ i ∈ ids, s.published.length < (s.consumed i).length + s.stream.depth.toNat)
    (hf : ConsumerFrame s s') : Publishing ids view d n p s' := by
  refine .inl ⟨?_, ?_, ?_, ?_⟩
  · rw [hf.answers, hn]
  · rw [hf.published, hp]
  · rw [RoomSeen, hf.providing, hf.published, hf.depth, hf.view]
    exact hseen
  · intro j hj
    rw [hf.published, hf.depth]
    exact (hroom j hj).trans_le (Nat.add_le_add_right (hf.consumed j).length_le _)

/-- Every access takes a publish with room further. -/
lemma Publishing.step (h : Publishing ids view d n p s) (hs : s.Sound ids)
    (hP : s.published.length < 2 ^ 64) (hview : s.view = view) (m : SpmcMove) :
    Publishing ids view d n p (s.step m) := by
  rcases h with ⟨hn, hp, hseen, hroom⟩ | hend
  · have hbusy : s.providing ≠ .idle := by
      intro hidle
      rw [RoomSeen, hidle] at hseen
      exact hseen
    have hsame : Publishing ids view d n p s := .inl ⟨hn, hp, hseen, hroom⟩
    cases m with
    | publish d' =>
      rw [SpmcState.step]
      cases hpr : s.providing with
      | idle => exact absurd hpr hbusy
      | _ => exact hsame
    | reclaim =>
      rw [SpmcState.step]
      cases hpr : s.providing with
      | idle => exact absurd hpr hbusy
      | _ => exact hsame
    | provider => exact Publishing.provider hs hP hview hn hp hseen hroom
    | consume i => exact Publishing.consumer hn hp hseen hroom (s.frame_consume i)
    | consumer i => exact Publishing.consumer hn hp hseen hroom (s.frame_consumer i)
  · exact Publishing.ended (s.frame_step m) hend

end Room

/-- **A publish with room succeeds.**  In every run, take a state between two calls of the provider in which
no consumer of the mask is `depth` descriptors behind.  A publish begun there is under way, or published, or
refused since its payload lies in no region, whatever the consumers do in the meantime. -/
theorem spmc_room {depth maxConsumers providerNode : UInt32} {consumerMask : UInt64}
    {stream : SpmcStream} (h : spmcStreamInit depth maxConsumers providerNode consumerMask = some stream)
    (hmask : consumerMask ≠ 0) (view : SpmcStreamView) (before after : List SpmcMove) (d : Desc) :
    let s := Run.run step (start view stream) before
    let s' := Run.run step (s.step (.publish d)) after
    s'.published.length < 2 ^ 64 → s.providing = .idle →
      (∀ i ∈ nodeIds consumerMask, s.published.length < (s.consumed i).length + depth.toNat) →
      s'.answers.length = s.answers.length ∨
        (s'.answers[s.answers.length]? = some .ok ∧ s'.published[s.published.length]? = some d) ∨
        s'.answers[s.answers.length]? = some .inval ∧ spmcProviderPayload view d = none := by
  intro s s' hP hidle hroom
  have hgrow : (s.step (.publish d)).published.length ≤ s'.published.length :=
    Run.invariant (I := fun t : SpmcState =>
        (s.step (.publish d)).published.length ≤ t.published.length)
      (fun t m ht => ht.trans (t.frame_step m).published.length_le) le_rfl after
  have hbelow : s.published.length < 2 ^ 64 :=
    ((s.frame_step (.publish d)).published.length_le.trans hgrow).trans_lt hP
  obtain ⟨hs, hheader, hview⟩ := runs_below h view before
  have hdepth : s.stream.depth = depth := (SpmcStream.of_header hheader).1.trans (init_depth h).1
  have hnodes : s.stream.activeConsumerMask = consumerMask :=
    (SpmcStream.of_header hheader).2.trans (init_depth h).2
  have hmask' : s.stream.activeConsumerMask ≠ 0 := fun h0 => hmask (hnodes.symm.trans h0)
  have hbegun : Publishing (nodeIds consumerMask) view d s.answers.length s.published.length
      (s.step (.publish d)) := by
    have htail : s.stream.tail.toNat = s.published.length := by
      rw [(hs hbelow).tail, toNat_ofNat64 hbelow]
    have hpos : 0 < s.stream.depth.toNat := by
      obtain ⟨b, hb⟩ := (hs hbelow).depth
      rw [hb.size]
      exact Nat.two_pow_pos b
    rw [step, hidle]
    dsimp only
    rw [if_neg hmask']
    refine .inl ⟨rfl, rfl, ⟨rfl, ?_⟩, ?_⟩
    · dsimp only
      omega
    · intro i hi
      dsimp only
      rw [hdepth]
      exact hroom i hi
  -- every access of the run keeps the invariant and takes the publish further
  have hrun : s'.published.length < 2 ^ 64 →
      s'.Sound (nodeIds consumerMask) ∧ s'.view = view ∧
        Publishing (nodeIds consumerMask) view d s.answers.length s.published.length s' := by
    apply Run.invariant (I := fun t : SpmcState => t.published.length < 2 ^ 64 →
      t.Sound (nodeIds consumerMask) ∧ t.view = view ∧
        Publishing (nodeIds consumerMask) view d s.answers.length s.published.length t)
    · intro t m ht hlt
      have hlt' := (t.frame_step m).published.length_le.trans_lt hlt
      obtain ⟨hsound, hv, hpub⟩ := ht hlt'
      exact ⟨hsound.step hlt' m, (t.frame_step m).view.trans hv, hpub.step hsound hlt' hv m⟩
    · intro _
      exact ⟨(hs hbelow).step hbelow _, (s.frame_step _).view.trans hview, hbegun⟩
  rcases (hrun hP).2.2 with ⟨hn, -⟩ | ⟨hok, hpub, -⟩ | hinval
  · exact .inl hn
  · exact .inr (.inl ⟨hok, hpub⟩)
  · exact .inr (.inr hinval)

/-- Both consumers are idle while the descriptor is published. -/
theorem spmc_room_of_twoReaders :
    let d : Desc := { seq := 9, regionId := 5, payloadLen := 100 }
    let s' := Run.run step ((start arenaView twoReaders).step (.publish d)) (List.replicate 10 .provider)
    s'.answers.length = 0 ∨ (s'.answers[0]? = some .ok ∧ s'.published[0]? = some d) ∨
      s'.answers[0]? = some .inval ∧ spmcProviderPayload arenaView d = none := by
  apply spmc_room init_twoReaders (by decide) arenaView [] (List.replicate 10 .provider)
    { seq := 9, regionId := 5, payloadLen := 100 }
  · decide +kernel
  · rfl
  · intro i hi
    exact show 0 < 0 + (64 : UInt32).toNat by decide

end SpmcState

end MemService
