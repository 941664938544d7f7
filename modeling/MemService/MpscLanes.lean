import Mathlib.Data.List.Sort
import MemService.Lib.RoundRobin
import MemService.SpscQueue

/-!
# One consumer of many producers

`obmm_mpsc_queue.h`.  Every publisher has a queue of its own, a lane, and the consumer polls the lanes round
robin, beginning behind the one it served last.  While it polls, the publishers push; a run is any order of
their accesses and its own.

`mpsc_delivery` says what the consumer hands out: for every publisher the front of what that publisher
pushed, under the publisher's node, and with consecutive numbers.  `mpsc_bounded_wait` says that a lane with
a descriptor in it is served before the consumer has handed out as many others as there are lanes, and that
no poll answers `-EAGAIN` until then.
-/

namespace MemService

/-! ## The lanes of a directory -/

/-- `OBMM_REGION_QUEUE`. -/
def regionQueue : UInt16 := 1

/-- `OBMM_MPSC_MAX_LANES`. -/
def mpscMaxLanes : ℕ := 64

/-- `struct obmm_region_dirent`. -/
structure RegionDirent where
  regionId : UInt32 := 0
  kind : UInt16
  peerNodeId : UInt16
  offset : UInt64 := 0
  size : UInt64 := 0
  flags : UInt32 := 0

/-- `struct obmm_mpsc_lane`, without its queue. -/
structure MpscLane where
  publisherNode : UInt32
  weight : UInt32 := 1
  credit : UInt32 := 0

/-- `struct obmm_mpsc_consumer_set`; `lane_count` is the number of lanes. -/
structure MpscConsumerSet where
  consumerNode : UInt32
  nextLane : ℕ := 0
  budget : UInt32 := 1
  rxSeq : UInt64 := 0
  lanes : List MpscLane

/-- What the directory is refused for. -/
inductive DirectoryError
  | exist
  | tooBig
  | noEntry
  | invalid
  deriving DecidableEq

/-- One entry in the first loop of `obmm_mpsc_consumer_set_init_from_directory`. -/
def addLane (lanes : List MpscLane) (e : RegionDirent) : Except DirectoryError (List MpscLane) :=
  if e.kind ≠ regionQueue then .ok lanes
  else if lanes.any fun l => l.publisherNode == e.peerNodeId.toUInt32 then .error .exist
  else .ok (lanes ++ [{ publisherNode := e.peerNodeId.toUInt32 }])

/-- `obmm_mpsc_consumer_set_init_from_directory`. -/
def mpscConsumerSetInit (dir : List RegionDirent) (localConsumerNode : UInt32) :
    Except DirectoryError MpscConsumerSet := do
  let lanes ← (dir.take mpscMaxLanes).foldlM addLane []
  if (dir.drop mpscMaxLanes).any fun e => e.kind == regionQueue && mpscMaxLanes ≤ lanes.length then
    .error .tooBig
  else if lanes = [] then .error .noEntry
  else
    .ok
      { consumerNode := localConsumerNode
        lanes := lanes.mergeSort fun a b => a.publisherNode ≤ b.publisherNode }

/-- The publishers of a directory's queues, in its order. -/
def queuePublishers (dir : List RegionDirent) : List UInt32 :=
  (dir.filter fun e => e.kind == regionQueue).map fun e => e.peerNodeId.toUInt32

lemma foldlM_addLane_ok {dir : List RegionDirent} {lanes lanes' : List MpscLane}
    (h : dir.foldlM addLane lanes = .ok lanes') (hnodup : (lanes.map (·.publisherNode)).Nodup) :
    (lanes'.map (·.publisherNode)).Nodup ∧
      lanes'.map (·.publisherNode) = lanes.map (·.publisherNode) ++ queuePublishers dir := by
  induction dir generalizing lanes with
  | nil =>
    obtain rfl : lanes = lanes' := Except.ok.inj h
    exact ⟨hnodup, by simp [queuePublishers]⟩
  | cons e dir ih =>
    rw [List.foldlM_cons] at h
    by_cases hkind : e.kind = regionQueue
    · by_cases hdup : lanes.any fun l => l.publisherNode == e.peerNodeId.toUInt32
      · rw [addLane, if_neg (not_not.mpr hkind), if_pos hdup] at h
        cases h
      · have hnew : e.peerNodeId.toUInt32 ∉ lanes.map (·.publisherNode) := by
          intro hmem
          obtain ⟨l, hl, heq⟩ := List.mem_map.mp hmem
          exact hdup (List.any_eq_true.mpr ⟨l, hl, by simpa using heq⟩)
        rw [addLane, if_neg (not_not.mpr hkind), if_neg hdup] at h
        obtain ⟨hn, hl⟩ := ih h (by
          rw [List.map_append]
          exact hnodup.append (by simp) (by simpa using hnew))
        refine ⟨hn, ?_⟩
        rw [hl, queuePublishers, queuePublishers, List.filter_cons_of_pos (by simpa using hkind)]
        simp
    · rw [addLane, if_pos hkind] at h
      obtain ⟨hn, hl⟩ := ih h hnodup
      refine ⟨hn, ?_⟩
      rw [hl, queuePublishers, queuePublishers, List.filter_cons_of_neg (by simpa using hkind)]

lemma length_queuePublishers_le (dir : List RegionDirent) :
    (queuePublishers dir).length ≤ dir.length := by
  rw [queuePublishers, List.length_map]
  exact List.length_filter_le _ _

/-- The lanes of a sorted set of publishers. -/
lemma sorted_lanes {lanes : List MpscLane} (hnodup : (lanes.map (·.publisherNode)).Nodup) :
    ((lanes.mergeSort fun a b => a.publisherNode ≤ b.publisherNode).map
      (·.publisherNode)).Pairwise (· < ·) := by
  have hperm := List.mergeSort_perm lanes fun a b => a.publisherNode ≤ b.publisherNode
  have hsorted : (lanes.mergeSort fun a b => a.publisherNode ≤ b.publisherNode).Pairwise
      fun a b => decide (a.publisherNode ≤ b.publisherNode) = true := by
    apply List.pairwise_mergeSort
    · intro a b c hab hbc
      rw [decide_eq_true_eq] at *
      exact UInt32.le_trans hab hbc
    · intro a b
      simpa using UInt32.le_total a.publisherNode b.publisherNode
  have hne := (hperm.map (·.publisherNode)).nodup_iff.mpr hnodup
  rw [List.Nodup, List.pairwise_map] at hne
  rw [List.pairwise_map]
  apply (hsorted.and hne).imp
  rintro a b ⟨hle, hab⟩
  exact UInt32.lt_of_le_of_ne (by simpa using hle) hab

/-- **The lanes of a consumer** are those of the queues among the first 64 entries of its directory, in the
order of their publishers, each publisher once. -/
theorem mpscConsumerSetInit_lanes {dir : List RegionDirent} {localConsumerNode : UInt32}
    {set : MpscConsumerSet} (h : mpscConsumerSetInit dir localConsumerNode = .ok set) :
    set.lanes ≠ [] ∧ set.lanes.length ≤ mpscMaxLanes ∧
      (set.lanes.map (·.publisherNode)).Pairwise (· < ·) ∧
      (set.lanes.map (·.publisherNode)).Perm (queuePublishers (dir.take mpscMaxLanes)) ∧
      set.nextLane = 0 ∧ set.rxSeq = 0 := by
  obtain ⟨lanes, hlanes⟩ : ∃ lanes, (dir.take mpscMaxLanes).foldlM addLane [] = .ok lanes := by
    cases hf : (dir.take mpscMaxLanes).foldlM addLane [] with
    | error e =>
      rw [mpscConsumerSetInit, hf] at h
      cases h
    | ok lanes => exact ⟨lanes, rfl⟩
  rw [mpscConsumerSetInit, hlanes] at h
  change (if _ then _ else if _ then _ else _) = _ at h
  split_ifs at h with hmore hnone
  obtain rfl := Except.ok.inj h
  obtain ⟨hnodup, heq⟩ := foldlM_addLane_ok hlanes List.nodup_nil
  rw [List.map_nil, List.nil_append] at heq
  have hperm := List.mergeSort_perm lanes fun a b => a.publisherNode ≤ b.publisherNode
  refine ⟨fun h0 => hnone ?_, ?_, sorted_lanes hnodup, ?_, rfl, rfl⟩
  · apply List.length_eq_zero_iff.mp
    rw [← hperm.length_eq]
    exact congrArg List.length h0
  · calc (lanes.mergeSort fun a b => a.publisherNode ≤ b.publisherNode).length
        = (lanes.map (·.publisherNode)).length := by rw [hperm.length_eq, List.length_map]
      _ ≤ (dir.take mpscMaxLanes).length := heq ▸ length_queuePublishers_le _
      _ ≤ mpscMaxLanes := List.length_take_le _ _
  · exact heq ▸ hperm.map (·.publisherNode)

/-! ## Polls -/

/-- What a poll handed out, and from which lane. -/
structure Delivery where
  lane : ℕ
  publisherOut : UInt32
  rxSeqOut : UInt64
  desc : Desc
  deriving DecidableEq

/-- The consumer with the queues of its lanes, the round a poll under way is in, and how the polls ended. -/
structure MpscState where
  set : MpscConsumerSet
  queues : ℕ → SpscState
  polling : Option ℕ
  received : List Delivery
  refused : ℕ

/-- A publisher begins a push or makes its next access, or the consumer begins a poll or makes its next
access. -/
inductive MpscMove
  | push (lane : ℕ) (d : Desc)
  | producer (lane : ℕ)
  | poll
  | consumer

namespace MpscState

/-- `lane_count`. -/
def laneCount (s : MpscState) : ℕ := s.set.lanes.length

/-- The lane of round `n`. -/
def laneAt (s : MpscState) (n : ℕ) : ℕ := RoundRobin.place s.set.nextLane n s.laneCount

def setQueue (s : MpscState) (i : ℕ) (q : SpscState) : MpscState :=
  { s with queues := Function.update s.queues i q }

/-- The next access of the consumer: of the pop in the round the poll is in, or the first of that pop.
The caller of `obmm_mpsc_poll` asks for the publisher and for the number. -/
def stepConsumer (s : MpscState) : MpscState :=
  match s.polling with
  | none => s
  | some n =>
      let i := s.laneAt n
      let q := s.queues i
      match q.popping with
      | .idle => s.setQueue i (q.step .pop)
      | .loaded _ =>
          match q.stepConsumer.popping with
          | .idle =>
              -- the lane is empty: the next one, or `-EAGAIN` behind the last
              if n + 1 < s.laneCount then
                { s.setQueue i q.stepConsumer with polling := some (n + 1) }
              else { s.setQueue i q.stepConsumer with polling := none, refused := s.refused + 1 }
          | _ => s.setQueue i q.stepConsumer
      | .copying _ done copied =>
          if done < 4 then s.setQueue i q.stepConsumer
          else
            { s.setQueue i q.stepConsumer with
              set :=
                { s.set with
                  rxSeq := s.set.rxSeq + 1
                  nextLane := RoundRobin.place i 1 s.laneCount }
              polling := none
              received := s.received ++
                [⟨i, (s.set.lanes.map (·.publisherNode)).getD i 0, s.set.rxSeq, Desc.ofWords copied⟩] }

def step (s : MpscState) : MpscMove → MpscState
  | .push i d => s.setQueue i ((s.queues i).step (.push d))
  | .producer i => s.setQueue i ((s.queues i).step .producer)
  | .poll =>
      match s.polling with
      | none =>
          if 0 < s.laneCount then { s with polling := some 0 } else { s with refused := s.refused + 1 }
      | some _ => s
  | .consumer => s.stepConsumer

/-- A consumer that has not polled yet, with queues nobody has used. -/
def start (set : MpscConsumerSet) (queues : ℕ → SpscQueue) : MpscState :=
  ⟨set, fun i => SpscState.start (queues i), none, [], 0⟩

/-! ## What a step does -/

/-- What a step does, as far as the order of the polls is concerned. -/
inductive Change (s : MpscState) : MpscState → Prop
  -- an access that ends no pop
  | quiet (i : ℕ) (q : SpscState) (hq : q.Sound) (hpopped : q.popped = (s.queues i).popped)
      (hpushed : (s.queues i).pushed <+: q.pushed) : Change s (s.setQueue i q)
  | began (hidle : s.polling = none) (hpos : 0 < s.laneCount) : Change s { s with polling := some 0 }
  -- an empty lane, and another one is next
  | missed (n : ℕ) (hn : s.polling = some n) (hlt : n + 1 < s.laneCount) (q : SpscState) (hq : q.Sound)
      (hempty : (s.queues (s.laneAt n)).popped = (s.queues (s.laneAt n)).pushed)
      (hpopped : q.popped = (s.queues (s.laneAt n)).popped)
      (hpushed : q.pushed = (s.queues (s.laneAt n)).pushed) :
      Change s { s.setQueue (s.laneAt n) q with polling := some (n + 1) }
  -- an empty lane, and it was the last
  | refused (n : ℕ) (hn : s.polling = some n) (hlast : s.laneCount ≤ n + 1) (q : SpscState) (hq : q.Sound)
      (hempty : (s.queues (s.laneAt n)).popped = (s.queues (s.laneAt n)).pushed)
      (hpopped : q.popped = (s.queues (s.laneAt n)).popped)
      (hpushed : q.pushed = (s.queues (s.laneAt n)).pushed) :
      Change s
        { s.setQueue (s.laneAt n) q with polling := none, refused := s.refused + 1 }
  | handed (n : ℕ) (hn : s.polling = some n) (d : Desc) (q : SpscState) (hq : q.Sound)
      (hpopped : q.popped = (s.queues (s.laneAt n)).popped ++ [d])
      (hpushed : q.pushed = (s.queues (s.laneAt n)).pushed) :
      Change s
        { s.setQueue (s.laneAt n) q with
          set :=
            { s.set with
              rxSeq := s.set.rxSeq + 1
              nextLane := RoundRobin.place (s.laneAt n) 1 s.laneCount }
          polling := none
          received := s.received ++
            [⟨s.laneAt n, (s.set.lanes.map (·.publisherNode)).getD (s.laneAt n) 0, s.set.rxSeq, d⟩] }

lemma setQueue_self (s : MpscState) (i : ℕ) : s.setQueue i (s.queues i) = s := by
  rw [setQueue, Function.update_eq_self]

/-- Nothing happens. -/
lemma Change.same {s : MpscState} (hs : ∀ i, (s.queues i).Sound) : Change s s := by
  have := Change.quiet (s := s) 0 (s.queues 0) (hs 0) rfl List.prefix_rfl
  rwa [setQueue_self] at this

lemma change_stepConsumer {s : MpscState} (hs : ∀ i, (s.queues i).Sound) :
    Change s s.stepConsumer := by
  cases hn : s.polling with
  | none =>
    rw [stepConsumer, hn]
    exact .same hs
  | some n =>
    have hq := (hs (s.laneAt n)).step_consumer
    have hpushed := (s.queues (s.laneAt n)).stepConsumer_pushed
    rw [stepConsumer, hn]
    dsimp only
    cases hp : (s.queues (s.laneAt n)).popping with
    | idle =>
      have hlists := (s.queues (s.laneAt n)).step_pop_lists
      exact .quiet _ _ (hs _).step_pop hlists.2 (hlists.1 ▸ List.prefix_rfl)
    | loaded head =>
      have hpopped := SpscState.stepConsumer_popped_of_loaded hp
      have hidle := (hs _).stepConsumer_idle_iff hp
      dsimp only
      cases hp' : (s.queues (s.laneAt n)).stepConsumer.popping with
      | idle =>
        dsimp only
        split_ifs with hlt
        · exact .missed n hn hlt _ hq (hidle.mp hp') hpopped hpushed
        · exact .refused n hn (not_lt.mp hlt) _ hq (hidle.mp hp') hpopped hpushed
      | loaded | copying => exact .quiet _ _ hq hpopped (hpushed ▸ List.prefix_rfl)
    | copying head done copied =>
      have hpopped := SpscState.stepConsumer_popped_of_copying hp
      dsimp only
      split_ifs at hpopped ⊢
      · exact .quiet _ _ hq hpopped (hpushed ▸ List.prefix_rfl)
      · exact .handed n hn _ _ hq hpopped hpushed

lemma change_step {s : MpscState} (hs : ∀ i, (s.queues i).Sound) (hpos : 0 < s.laneCount)
    (m : MpscMove) : Change s (s.step m) := by
  cases m with
  | push i d =>
    have hlists := (s.queues i).step_push_lists d
    exact .quiet i _ ((hs i).step_push d) hlists.2 (hlists.1 ▸ List.prefix_rfl)
  | producer i =>
    exact .quiet i _ (hs i).step_producer (s.queues i).stepProducer_popped
      (s.queues i).prefix_stepProducer_pushed
  | poll =>
    rw [step]
    cases hn : s.polling with
    | none =>
      dsimp only
      rw [if_pos hpos]
      exact .began hn hpos
    | some n => exact .same hs
  | consumer => exact change_stepConsumer hs

/-! ## What is handed out -/

/-- What was handed out from a lane. -/
def receivedFrom (s : MpscState) (i : ℕ) : List Desc :=
  (s.received.filter fun r => r.lane == i).map (·.desc)

/-- **The invariant of the polls.** -/
structure Sound (lanes : List MpscLane) (s : MpscState) : Prop where
  queues : ∀ i, (s.queues i).Sound
  setLanes : s.set.lanes = lanes
  pos : 0 < s.laneCount
  next_lt : s.set.nextLane < s.laneCount
  round_lt : ∀ n, s.polling = some n → n < s.laneCount
  handed : ∀ i, s.receivedFrom i = (s.queues i).popped
  publisher : ∀ r ∈ s.received, (lanes.map (·.publisherNode))[r.lane]? = some r.publisherOut
  numbered : s.received.map (·.rxSeqOut) = (List.range s.received.length).map UInt64.ofNat
  rxSeq : s.set.rxSeq = UInt64.ofNat s.received.length

section Sound

variable {lanes : List MpscLane} {s s' : MpscState}

@[simp] lemma setQueue_queues_self (s : MpscState) (i : ℕ) (q : SpscState) :
    (s.setQueue i q).queues i = q :=
  Function.update_self ..

@[simp] lemma setQueue_queues_of_ne (s : MpscState) {i j : ℕ} (h : j ≠ i) (q : SpscState) :
    (s.setQueue i q).queues j = s.queues j :=
  Function.update_of_ne h ..

lemma setQueue_sound (hs : ∀ i, (s.queues i).Sound) {i : ℕ} {q : SpscState} (hq : q.Sound) (j : ℕ) :
    ((s.setQueue i q).queues j).Sound := by
  by_cases hj : j = i
  · rw [hj, setQueue_queues_self]
    exact hq
  · rw [setQueue_queues_of_ne _ hj]
    exact hs j

lemma setQueue_popped {i : ℕ} {q : SpscState} (hq : q.popped = (s.queues i).popped) (j : ℕ) :
    ((s.setQueue i q).queues j).popped = (s.queues j).popped := by
  by_cases hj : j = i
  · rw [hj, setQueue_queues_self, hq]
  · rw [setQueue_queues_of_ne _ hj]

/-- An access that hands nothing out keeps the invariant. -/
lemma Sound.of_quiet (h : s.Sound lanes) {i : ℕ} {q : SpscState} (hq : q.Sound)
    (hpopped : q.popped = (s.queues i).popped) {polling : Option ℕ} {refused : ℕ}
    (hround : ∀ n, polling = some n → n < s.laneCount) :
    Sound lanes { s.setQueue i q with polling := polling, refused := refused } where
  queues := setQueue_sound h.queues hq
  setLanes := h.setLanes
  pos := h.pos
  next_lt := h.next_lt
  round_lt := hround
  handed j := (h.handed j).trans (setQueue_popped hpopped j).symm
  publisher := h.publisher
  numbered := h.numbered
  rxSeq := h.rxSeq

/-- The invariant when a descriptor is handed out. -/
lemma Sound.of_handed (h : s.Sound lanes) {n : ℕ} {d : Desc} {q : SpscState} (hq : q.Sound)
    (hpopped : q.popped = (s.queues (s.laneAt n)).popped ++ [d]) :
    Sound lanes
      { s.setQueue (s.laneAt n) q with
        set :=
          { s.set with
            rxSeq := s.set.rxSeq + 1
            nextLane := RoundRobin.place (s.laneAt n) 1 s.laneCount }
        polling := none
        received := s.received ++
          [⟨s.laneAt n, (s.set.lanes.map (·.publisherNode)).getD (s.laneAt n) 0, s.set.rxSeq, d⟩] } where
  queues := setQueue_sound h.queues hq
  setLanes := h.setLanes
  pos := h.pos
  next_lt := RoundRobin.place_lt h.pos
  round_lt n hn := by cases hn
  handed j := by
    have hj := h.handed j
    rw [receivedFrom] at hj
    rw [receivedFrom]
    dsimp only
    rw [List.filter_append, List.map_append, hj]
    by_cases heq : j = s.laneAt n
    · subst heq
      rw [setQueue_queues_self, hpopped, List.filter_cons_of_pos (by simp)]
      rfl
    · rw [setQueue_queues_of_ne _ heq, List.filter_cons_of_neg (by simpa using Ne.symm heq)]
      exact List.append_nil _
  publisher r hr := by
    rcases List.mem_append.mp hr with hr | hr
    · exact h.publisher r hr
    · have hlt : s.laneAt n < (lanes.map (·.publisherNode)).length := by
        rw [List.length_map, ← h.setLanes]
        exact RoundRobin.place_lt h.pos
      rw [List.mem_singleton.mp hr, h.setLanes, List.getD_eq_getElem?_getD,
        List.getElem?_eq_getElem hlt, Option.getD_some]
  numbered := by
    dsimp only
    rw [List.map_append, h.numbered, List.length_append, List.length_singleton, List.range_succ,
      List.map_append, List.map_singleton, List.map_singleton, h.rxSeq]
  rxSeq := by
    dsimp only
    rw [h.rxSeq, ofNat_succ64, List.length_append, List.length_singleton]

lemma Sound.change (h : s.Sound lanes) (hc : Change s s') : s'.Sound lanes := by
  cases hc with
  | quiet i q hq hpopped hpushed => exact h.of_quiet hq hpopped h.round_lt
  | began hidle hpos =>
    refine { h with round_lt := ?_ }
    intro n hn
    obtain rfl := Option.some.inj hn
    exact h.pos
  | missed n hn hlt q hq hempty hpopped hpushed =>
    apply h.of_quiet hq hpopped
    intro m hm
    obtain rfl := Option.some.inj hm
    exact hlt
  | refused n hn hlast q hq hempty hpopped hpushed =>
    apply h.of_quiet hq hpopped
    intro m hm
    cases hm
  | handed n hn d q hq hpopped hpushed => exact h.of_handed hq hpopped

/-- Every access keeps the invariant. -/
lemma Sound.step (h : s.Sound lanes) (m : MpscMove) : (s.step m).Sound lanes :=
  h.change (change_step h.queues h.pos m)

end Sound

lemma sound_start {set : MpscConsumerSet} {queues : ℕ → SpscQueue} (hpos : set.lanes ≠ [])
    (hnext : set.nextLane = 0) (hseq : set.rxSeq = 0)
    (hqueues : ∀ i, ∃ depth, spscQueueInit depth = some (queues i)) :
    (start set queues).Sound set.lanes where
  queues i := by
    obtain ⟨depth, hdepth⟩ := hqueues i
    obtain ⟨hd, hhead, htail⟩ := SpscState.depth_of_init hdepth
    exact SpscState.sound_start hd hhead htail
  setLanes := rfl
  pos := List.length_pos_iff.mpr hpos
  next_lt := by
    rw [start]
    dsimp only
    rw [hnext]
    exact List.length_pos_iff.mpr hpos
  round_lt n hn := by cases hn
  handed i := rfl
  publisher r hr := by cases hr
  numbered := rfl
  rxSeq := hseq

/-- **What the polls hand out.**  In every run of a consumer with the lanes of its directory, with the
accesses of publishers and consumer in any order: what was handed out under a lane's publisher is the front
of what that publisher pushed, everything came from a lane, and the numbers count the descriptors. -/
theorem mpsc_delivery {dir : List RegionDirent} {localConsumerNode : UInt32} {set : MpscConsumerSet}
    (hset : mpscConsumerSetInit dir localConsumerNode = .ok set) {queues : ℕ → SpscQueue}
    (hqueues : ∀ i, ∃ depth, spscQueueInit depth = some (queues i)) (moves : List MpscMove) :
    let s := Run.run step (start set queues) moves
    (∀ i (hi : i < set.lanes.length),
      (s.received.filter fun r => r.publisherOut == set.lanes[i].publisherNode).map (·.desc) <+:
        (s.queues i).pushed) ∧
      (∀ r ∈ s.received, r.publisherOut ∈ queuePublishers (dir.take mpscMaxLanes)) ∧
      s.received.map (·.rxSeqOut) = (List.range s.received.length).map UInt64.ofNat := by
  intro s
  obtain ⟨hpos, hmax, hsorted, hperm, hnext, hseq⟩ := mpscConsumerSetInit_lanes hset
  have hs : s.Sound set.lanes :=
    Run.invariant (fun s m hs => hs.step m) (sound_start hpos hnext hseq hqueues) moves
  have hnodup : (set.lanes.map (·.publisherNode)).Nodup :=
    hsorted.imp fun h => UInt32.ne_of_lt h
  refine ⟨?_, ?_, hs.numbered⟩
  · intro i hi
    have hsame : s.received.filter (fun r => r.publisherOut == set.lanes[i].publisherNode) =
        s.received.filter fun r => r.lane == i := by
      apply List.filter_congr
      intro r hr
      obtain ⟨hlt, hout⟩ := List.getElem?_eq_some_iff.mp (hs.publisher r hr)
      have hi' : i < (set.lanes.map (·.publisherNode)).length := by rwa [List.length_map]
      have hinj := @List.Nodup.getElem_inj_iff _ _ hnodup r.lane hlt i hi'
      rw [← hout, Bool.eq_iff_iff, beq_iff_eq, beq_iff_eq, ← hinj, List.getElem_map, List.getElem_map]
    have hhanded := hs.handed i
    rw [receivedFrom] at hhanded
    rw [hsame, hhanded]
    exact (hs.queues i).front
  · intro r hr
    exact hperm.mem_iff.mp (List.mem_of_getElem? (hs.publisher r hr))

/-- A directory of an arena and the queues of nodes 3 and 1. -/
def twoLaneDirectory : List RegionDirent :=
  [⟨1, 2, 0, 0, 0, 0⟩, ⟨2, regionQueue, 3, 0, 0, 0⟩, ⟨3, regionQueue, 1, 0, 0, 0⟩]

/-- The consumer of this directory. -/
def twoLanes : MpscConsumerSet :=
  { consumerNode := 2, lanes := [{ publisherNode := 1 }, { publisherNode := 3 }] }

lemma mpscConsumerSetInit_twoLanes : mpscConsumerSetInit twoLaneDirectory 2 = .ok twoLanes := by
  have hlanes : (twoLaneDirectory.take mpscMaxLanes).foldlM addLane [] =
      .ok [{ publisherNode := 3 }, { publisherNode := 1 }] := by rfl
  rw [mpscConsumerSetInit, hlanes]
  change Except.ok _ = Except.ok _
  simp [List.mergeSort, twoLanes]

/-- A new queue of the smallest depth. -/
def minDepthQueue : SpscQueue := ⟨0, 0, 64, 63, fun _ _ => 0⟩

lemma init_minDepthQueue (_ : ℕ) : ∃ depth, spscQueueInit depth = some minDepthQueue := ⟨64, rfl⟩

/-- A poll finds the lane of node 1 empty while node 3 pushes, and takes what node 3 has pushed. -/
def overlappedPoll : List MpscMove :=
  .push 1 { seq := 5 } :: List.replicate 3 (.producer 1) ++ [.poll, .consumer, .consumer] ++
    List.replicate 3 (.producer 1) ++ List.replicate 7 .consumer

/-- The state after it. -/
def afterPoll : MpscState := Run.run step (start twoLanes fun _ => minDepthQueue) overlappedPoll

theorem mpsc_delivery_of_twoLanes :
    afterPoll.received = [⟨1, 3, 0, { seq := 5 }⟩] ∧
      (∀ i (hi : i < twoLanes.lanes.length),
        (afterPoll.received.filter fun r =>
          r.publisherOut == twoLanes.lanes[i].publisherNode).map (·.desc) <+:
            (afterPoll.queues i).pushed) ∧
      (∀ r ∈ afterPoll.received,
        r.publisherOut ∈ queuePublishers (twoLaneDirectory.take mpscMaxLanes)) ∧
      afterPoll.received.map (·.rxSeqOut) =
        (List.range afterPoll.received.length).map UInt64.ofNat := by
  have hdelivery := mpsc_delivery mpscConsumerSetInit_twoLanes init_minDepthQueue overlappedPoll
  rw [← afterPoll] at hdelivery
  obtain ⟨hfront, hfrom, hnumbered⟩ := hdelivery
  exact ⟨by decide +kernel, hfront, hfrom, hnumbered⟩

/-! ## How long a descriptor waits -/

/-- While a lane with a descriptor in it is not served: no poll has been refused, every other lane served
has brought the consumer nearer, and a poll under way has not come past it. -/
structure Waits (s₀ : MpscState) (i : ℕ) (s : MpscState) : Prop where
  nonempty : (s.queues i).popped ≠ (s.queues i).pushed
  refused : s.refused = s₀.refused
  nearer : s.received.length + RoundRobin.ahead s.set.nextLane i s.laneCount ≤
    s₀.received.length + RoundRobin.ahead s₀.set.nextLane i s₀.laneCount
  before : ∀ n, s.polling = some n → n ≤ RoundRobin.ahead s.set.nextLane i s.laneCount

section Waits

variable {lanes : List MpscLane} {s₀ s s' : MpscState} {i : ℕ}

/-- More may have arrived in the lane. -/
lemma Waits.of_quiet (h : Waits s₀ i s) (hs : s.Sound lanes) {j : ℕ} {q : SpscState}
    (hpopped : q.popped = (s.queues j).popped) (hpushed : (s.queues j).pushed <+: q.pushed)
    {polling : Option ℕ} (hbefore : ∀ n, polling = some n →
      n ≤ RoundRobin.ahead s.set.nextLane i s.laneCount) :
    Waits s₀ i { s.setQueue j q with polling := polling } where
  nonempty := by
    dsimp only
    by_cases hj : i = j
    · subst hj
      rw [setQueue_queues_self, hpopped]
      intro heq
      rw [← heq] at hpushed
      exact h.nonempty ((hs.queues i).front.eq_of_length
        (le_antisymm (hs.queues i).length_le hpushed.length_le))
    · rw [setQueue_queues_of_ne _ hj]
      exact h.nonempty
  refused := h.refused
  nearer := h.nearer
  before := hbefore

/-- A poll that finds a lane empty has not come to lane `i` yet. -/
lemma Waits.round_lt (h : Waits s₀ i s) (hs : s.Sound lanes) (hi : i < s.laneCount) {n : ℕ}
    (hn : s.polling = some n)
    (hempty : (s.queues (s.laneAt n)).popped = (s.queues (s.laneAt n)).pushed) :
    n < RoundRobin.ahead s.set.nextLane i s.laneCount := by
  apply lt_of_le_of_ne (h.before n hn)
  rintro rfl
  rw [laneAt, RoundRobin.place_ahead hs.next_lt hi] at hempty
  exact h.nonempty hempty

/-- One access keeps the bound, or serves the lane. -/
lemma Waits.change (h : Waits s₀ i s) (hs : s.Sound lanes) (hi : i < s.laneCount) (hc : Change s s')
    (hwaits : (s'.queues i).popped = (s.queues i).popped) : Waits s₀ i s' := by
  cases hc with
  | quiet j q hq hpopped hpushed => exact h.of_quiet hs hpopped hpushed h.before
  | began hidle hpos =>
    refine { h with before := ?_ }
    intro n hn
    obtain rfl := Option.some.inj hn
    exact Nat.zero_le _
  | missed n hn hlt q hq hempty hpopped hpushed =>
    apply h.of_quiet hs hpopped (hpushed ▸ List.prefix_rfl)
    intro m hm
    obtain rfl := Option.some.inj hm
    exact h.round_lt hs hi hn hempty
  | refused n hn hlast q hq hempty hpopped hpushed =>
    -- behind the last round the poll would have come past every lane
    have hround := h.round_lt hs hi hn hempty
    have hahead : RoundRobin.ahead s.set.nextLane i s.laneCount < s.laneCount :=
      RoundRobin.ahead_lt hs.pos
    omega
  | handed n hn d q hq hpopped hpushed =>
    have hne : i ≠ s.laneAt n := by
      intro heq
      rw [heq, setQueue_queues_self, hpopped] at hwaits
      simpa using congrArg List.length hwaits
    have hround : n < RoundRobin.ahead s.set.nextLane i s.laneCount := by
      apply lt_of_le_of_ne (h.before n hn)
      rintro rfl
      exact hne (RoundRobin.place_ahead hs.next_lt hi).symm
    have hserved := RoundRobin.ahead_served hs.next_lt hi hround
    refine ⟨?_, h.refused, ?_, fun m hm => by cases hm⟩
    · dsimp only
      rw [setQueue_queues_of_ne _ hne]
      exact h.nonempty
    · have hnearer := h.nearer
      rw [List.length_append, List.length_singleton]
      change _ + 1 + RoundRobin.ahead (RoundRobin.place (s.laneAt n) 1 s.laneCount) i s.laneCount ≤ _
      rw [laneAt]
      omega

/-- What has been handed out stays handed out. -/
lemma Change.prefix_popped (hc : Change s s') (j : ℕ) :
    (s.queues j).popped <+: (s'.queues j).popped := by
  have hset {k : ℕ} {q : SpscState} (hq : (s.queues k).popped <+: q.popped) :
      (s.queues j).popped <+: ((s.setQueue k q).queues j).popped := by
    by_cases hj : j = k
    · subst hj
      rwa [setQueue_queues_self]
    · rw [setQueue_queues_of_ne _ hj]
  cases hc with
  | quiet k q hq hpopped hpushed => exact hset (hpopped ▸ List.prefix_rfl)
  | began hidle hpos => exact List.prefix_rfl
  | missed n hn hlt q hq hempty hpopped hpushed => exact hset (hpopped ▸ List.prefix_rfl)
  | refused n hn hlast q hq hempty hpopped hpushed => exact hset (hpopped ▸ List.prefix_rfl)
  | handed n hn d q hq hpopped hpushed => exact hset (hpopped ▸ List.prefix_append _ _)

end Waits

/-- **No lane waits longer than a round.**  In every run of a consumer, take a state between two polls in
which a lane has a descriptor.  As long as the lane is not served, no poll answers `-EAGAIN` and fewer
descriptors are handed out than there are lanes. -/
theorem mpsc_bounded_wait {dir : List RegionDirent} {localConsumerNode : UInt32}
    {set : MpscConsumerSet} (hset : mpscConsumerSetInit dir localConsumerNode = .ok set)
    {queues : ℕ → SpscQueue} (hqueues : ∀ i, ∃ depth, spscQueueInit depth = some (queues i))
    (before after : List MpscMove) {i : ℕ} (hi : i < set.lanes.length) :
    let s := Run.run step (start set queues) before
    let s' := Run.run step s after
    s.polling = none → (s.queues i).popped ≠ (s.queues i).pushed →
      (s'.queues i).popped = (s.queues i).popped →
      s'.refused = s.refused ∧ s'.received.length < s.received.length + set.lanes.length := by
  intro s s' hidle hne
  obtain ⟨hpos, hmax, hsorted, hperm, hnext, hseq⟩ := mpscConsumerSetInit_lanes hset
  have hs : s.Sound set.lanes :=
    Run.invariant (fun s m hs => hs.step m) (sound_start hpos hnext hseq hqueues) before
  have hcount {t : MpscState} (ht : t.Sound set.lanes) : t.laneCount = set.lanes.length := by
    rw [laneCount, ht.setLanes]
  have hwaits : Waits s i s := ⟨hne, rfl, le_rfl, fun n hn => absurd (hidle ▸ hn) (by simp)⟩
  obtain ⟨hsound, -, hend⟩ : s'.Sound set.lanes ∧ (s.queues i).popped <+: (s'.queues i).popped ∧
      ((s'.queues i).popped = (s.queues i).popped → Waits s i s') := by
    apply Run.invariant (I := fun t => t.Sound set.lanes ∧
      (s.queues i).popped <+: (t.queues i).popped ∧
      ((t.queues i).popped = (s.queues i).popped → Waits s i t)) ?_ ⟨hs, List.prefix_rfl, fun _ => hwaits⟩
    rintro t m ⟨ht, hgrown, hw⟩
    have hc := change_step ht.queues ht.pos m
    have hgrow := hc.prefix_popped i
    refine ⟨ht.step m, hgrown.trans hgrow, ?_⟩
    intro heq
    rw [heq] at hgrow
    have hsame : (t.queues i).popped = (s.queues i).popped :=
      hgrow.eq_of_length (le_antisymm hgrow.length_le hgrown.length_le)
    exact (hw hsame).change ht (hcount ht ▸ hi) hc (heq.trans hsame.symm)
  intro heq
  have hw := hend heq
  refine ⟨hw.refused, ?_⟩
  have hnearer := hw.nearer
  have hahead : RoundRobin.ahead s.set.nextLane i s.laneCount < s.laneCount :=
    RoundRobin.ahead_lt hs.pos
  rw [hcount hs] at hahead hnearer
  omega

/-- The lane of node 3 has a descriptor while the consumer looks at that of node 1. -/
theorem mpsc_bounded_wait_of_twoLanes :
    let s := Run.run step (start twoLanes fun _ => minDepthQueue)
      (.push 1 { seq := 5 } :: List.replicate 6 (.producer 1))
    let s' := Run.run step s [.poll, .consumer, .consumer]
    s'.refused = s.refused ∧ s'.received.length < s.received.length + 2 := by
  apply mpsc_bounded_wait mpscConsumerSetInit_twoLanes init_minDepthQueue _ _
    (by decide : 1 < twoLanes.lanes.length)
  · decide +kernel
  · decide +kernel
  · decide +kernel

end MpscState

end MemService
