import Mathlib.Data.UInt
import MemService.DescQueue
import MemService.Lib.Ring

/-!
# The queue of one producer and one consumer

`obmm_spsc_queue.h`.  A ring of descriptors in shared memory with two counters: the producer alone stores
`tail`, the consumer alone stores `head`.  Each reads the other's counter, copies a descriptor into or out
of its slot, and then stores its own.  Release and acquire make the accesses of both sides take effect in
one order, so a run is any order of single accesses.  A descriptor is four words and is copied a word at a
time, with accesses of the other side in between.

The counters are 32 bits wide and run over.  `spsc_fifo` says of every run, however long: what was popped is
the front of what was pushed, never more than `size` descriptors are under way, a push is refused just when
the queue is full as it looks, and a pop just when it is empty.
-/

namespace MemService

/-! ## A descriptor in memory -/

/-- The words of a descriptor, as it lies in memory. -/
def Desc.words (d : Desc) : Fin 4 → UInt64 := fun i =>
  match i with
  | 0 => d.seq
  | 1 => UInt64.ofNat (d.regionId.toNat + d.payloadLen.toNat * 2 ^ 32)
  | 2 => d.payloadOffset
  | 3 => UInt64.ofNat (d.type.toNat + d.flags.toNat * 2 ^ 16 + d.cookie.toNat * 2 ^ 32)

/-- The descriptor of four words. -/
def Desc.ofWords (w : Fin 4 → UInt64) : Desc where
  seq := w 0
  regionId := UInt32.ofNat (w 1).toNat
  payloadLen := UInt32.ofNat ((w 1).toNat / 2 ^ 32)
  payloadOffset := w 2
  type := UInt16.ofNat (w 3).toNat
  flags := UInt16.ofNat ((w 3).toNat / 2 ^ 16)
  cookie := UInt32.ofNat ((w 3).toNat / 2 ^ 32)

lemma Desc.ofWords_words (d : Desc) : Desc.ofWords d.words = d := by
  obtain ⟨seq, regionId, payloadLen, payloadOffset, type, flags, cookie⟩ := d
  have hregion := regionId.toNat_lt
  have hlen := payloadLen.toNat_lt
  have htype := type.toNat_lt
  have hflags := flags.toNat_lt
  have hcookie := cookie.toNat_lt
  have h₁ : (UInt64.ofNat (regionId.toNat + payloadLen.toNat * 2 ^ 32)).toNat =
      regionId.toNat + payloadLen.toNat * 2 ^ 32 :=
    UInt64.toNat_ofNat_of_lt' (show _ < 2 ^ 64 by omega)
  have h₃ : (UInt64.ofNat (type.toNat + flags.toNat * 2 ^ 16 + cookie.toNat * 2 ^ 32)).toNat =
      type.toNat + flags.toNat * 2 ^ 16 + cookie.toNat * 2 ^ 32 :=
    UInt64.toNat_ofNat_of_lt' (show _ < 2 ^ 64 by omega)
  simp only [Desc.ofWords, Desc.words, h₁, h₃, Desc.mk.injEq, true_and]
  refine ⟨?_, ?_, ?_, ?_, ?_⟩
  · apply UInt32.toNat_inj.mp
    rw [UInt32.toNat_ofNat']
    omega
  · apply UInt32.toNat_inj.mp
    rw [UInt32.toNat_ofNat']
    omega
  · apply UInt16.toNat_inj.mp
    rw [UInt16.toNat_ofNat']
    omega
  · apply UInt16.toNat_inj.mp
    rw [UInt16.toNat_ofNat']
    omega
  · apply UInt32.toNat_inj.mp
    rw [UInt32.toNat_ofNat']
    omega

/-! ## The queue -/

/-- `OBMM_QUEUE_MIN_DEPTH`. -/
def queueMinDepth : UInt32 := 64
/-- `OBMM_QUEUE_MAX_DEPTH`. -/
def queueMaxDepth : UInt32 := 65536

/-- A ring of `2 ^ b` slots. -/
structure RingDepth (size mask : UInt32) (b : ℕ) : Prop where
  le : b ≤ 16
  size : size.toNat = 2 ^ b
  mask : mask.toNat = 2 ^ b - 1

/-- A depth the queues accept is a power of two. -/
lemma ringDepth_of_accepted {depth : UInt32} (hrange : ¬(depth < queueMinDepth ∨ depth > queueMaxDepth))
    (hpow : ¬(depth = 0 ∨ depth &&& (depth - 1) ≠ 0)) : ∃ b, RingDepth depth (depth - 1) b := by
  obtain ⟨hne, hand⟩ : depth ≠ 0 ∧ depth &&& (depth - 1) = 0 := by simpa using hpow
  have hmax : depth.toNat ≤ 65536 := by
    have := (not_or.mp hrange).2
    rw [gt_iff_lt, UInt32.lt_iff_toNat_lt] at this
    exact not_lt.mp this
  have hpos : depth.toNat ≠ 0 := fun h0 => hne (UInt32.toNat_inj.mp h0)
  have hmask : (depth - 1).toNat = depth.toNat - 1 := by
    rw [UInt32.toNat_sub, UInt32.toNat_one]
    have := depth.toNat_lt
    omega
  have hzero : depth.toNat &&& (depth.toNat - 1) = 0 := by
    rw [← hmask, ← UInt32.toNat_and, hand]
    rfl
  obtain ⟨b, hb⟩ := (Nat.and_sub_one_eq_zero_iff_isPowerOfTwo hpos).mp hzero
  refine ⟨b, ?_, hb, by rw [hmask, hb]⟩
  rw [hb] at hmax
  exact (Nat.pow_le_pow_iff_right (by decide : 1 < 2)).mp hmax

lemma ofNat_succ32 (n : ℕ) : UInt32.ofNat n + 1 = UInt32.ofNat (n + 1) := by
  rw [← UInt32.toNat_inj, UInt32.toNat_add, UInt32.toNat_ofNat', UInt32.toNat_ofNat',
    UInt32.toNat_one]
  omega

lemma ofNat_succ64 (n : ℕ) : UInt64.ofNat n + 1 = UInt64.ofNat (n + 1) := by
  rw [← UInt64.toNat_inj, UInt64.toNat_add, UInt64.toNat_ofNat', UInt64.toNat_ofNat',
    UInt64.toNat_one]
  omega

namespace RingDepth

variable {size mask : UInt32} {b : ℕ}

lemma size_le (h : RingDepth size mask b) : size.toNat ≤ 65536 := by
  rw [h.size]
  exact Nat.pow_le_pow_right (by decide) h.le

/-- The slot of a counter is that of the number it counts. -/
lemma slot (h : RingDepth size mask b) (n : ℕ) :
    (UInt32.ofNat n &&& mask).toNat = n % size.toNat := by
  rw [UInt32.toNat_and, h.mask, Nat.and_two_pow_sub_one_eq_mod, UInt32.toNat_ofNat', h.size]
  exact Ring.slot_wrap (h.le.trans (by decide))

/-- The test of a push. -/
lemma full_iff (h : RingDepth size mask b) {m n : ℕ} (hle : m ≤ n) (hroom : n ≤ m + size.toNat) :
    UInt32.ofNat n - UInt32.ofNat m = size ↔ n = m + size.toNat := by
  have hsize := h.size_le
  have hdiff : (UInt32.ofNat n - UInt32.ofNat m).toNat = n - m := by
    rw [UInt32.toNat_sub, UInt32.toNat_ofNat', UInt32.toNat_ofNat']
    exact Ring.sub_wrap hle (by omega)
  rw [← UInt32.toNat_inj, hdiff]
  omega

/-- The test of a pop. -/
lemma empty_iff (h : RingDepth size mask b) {m n : ℕ} (hle : m ≤ n) (hroom : n ≤ m + size.toNat) :
    UInt32.ofNat m = UInt32.ofNat n ↔ m = n := by
  have hsize := h.size_le
  rw [← UInt32.toNat_inj, UInt32.toNat_ofNat', UInt32.toNat_ofNat']
  exact Ring.eq_wrap_iff hle (by omega)

end RingDepth

/-- `struct obmm_spsc_queue`, with the words of each slot. -/
structure SpscQueue where
  head : UInt32
  tail : UInt32
  size : UInt32
  mask : UInt32
  desc : ℕ → Fin 4 → UInt64

/-- `obmm_spsc_queue_init`. -/
def spscQueueInit (depth : UInt32) : Option SpscQueue :=
  if depth < queueMinDepth ∨ depth > queueMaxDepth then none
  else if depth = 0 ∨ depth &&& (depth - 1) ≠ 0 then none
  else some { head := 0, tail := 0, size := depth, mask := depth - 1, desc := fun _ _ => 0 }

/-- Where a call of `obmm_spsc_push` is: not under way, behind the load of `tail`, or copying, with the
number of words copied. -/
inductive Pushing
  | idle
  | loaded (d : Desc) (tail : UInt32)
  | copying (d : Desc) (tail : UInt32) (done : ℕ)

/-- Where a call of `obmm_spsc_pop` is: not under way, behind the load of `head`, or copying, with the words
copied so far. -/
inductive Popping
  | idle
  | loaded (head : UInt32)
  | copying (head : UInt32) (done : ℕ) (copied : Fin 4 → UInt64)

/-- The queue with the two calls under way, and what was pushed and popped so far. -/
structure SpscState where
  queue : SpscQueue
  pushing : Pushing
  popping : Popping
  pushed : List Desc
  popped : List Desc

/-- A call begins, with its first load, or one access of the call under way. -/
inductive SpscMove
  | push (d : Desc)
  | producer
  | pop
  | consumer

namespace SpscState

/-- The next access of the producer. -/
def stepProducer (s : SpscState) : SpscState :=
  match s.pushing with
  | .idle => s
  | .loaded d tail =>
      -- the load of `head`; a full queue answers `-EAGAIN`
      if tail - s.queue.head = s.queue.size then { s with pushing := .idle }
      else { s with pushing := .copying d tail 0 }
  | .copying d tail done =>
      if h : done < 4 then
        let slot := (tail &&& s.queue.mask).toNat
        { s with
          queue := { s.queue with
            desc := Function.update s.queue.desc slot
              (Function.update (s.queue.desc slot) ⟨done, h⟩ (d.words ⟨done, h⟩)) }
          pushing := .copying d tail (done + 1) }
      else
        { s with
          queue := { s.queue with tail := tail + 1 }
          pushing := .idle
          pushed := s.pushed ++ [d] }

/-- The next access of the consumer. -/
def stepConsumer (s : SpscState) : SpscState :=
  match s.popping with
  | .idle => s
  | .loaded head =>
      -- the load of `tail`; an empty queue answers `-EAGAIN`
      if head = s.queue.tail then { s with popping := .idle }
      else { s with popping := .copying head 0 fun _ => 0 }
  | .copying head done copied =>
      if h : done < 4 then
        let slot := (head &&& s.queue.mask).toNat
        { s with
          popping := .copying head (done + 1)
            (Function.update copied ⟨done, h⟩ (s.queue.desc slot ⟨done, h⟩)) }
      else
        { s with
          queue := { s.queue with head := head + 1 }
          popping := .idle
          popped := s.popped ++ [Desc.ofWords copied] }

def step (s : SpscState) : SpscMove → SpscState
  | .push d =>
      match s.pushing with
      | .idle => { s with pushing := .loaded d s.queue.tail }
      | _ => s
  | .producer => s.stepProducer
  | .pop =>
      match s.popping with
      | .idle => { s with popping := .loaded s.queue.head }
      | _ => s
  | .consumer => s.stepConsumer

/-- A queue nobody has used yet. -/
def start (q : SpscQueue) : SpscState := ⟨q, .idle, .idle, [], []⟩

/-! ## The invariant -/

/-- What the producer knows. -/
def PushingOk (s : SpscState) : Prop :=
  match s.pushing with
  | .idle => True
  | .loaded _ tail => tail = s.queue.tail
  | .copying d tail done =>
      tail = s.queue.tail ∧ s.pushed.length < s.popped.length + s.queue.size.toNat ∧
        Ring.Copied done (s.queue.desc (s.pushed.length % s.queue.size.toNat)) d.words

/-- What the consumer knows. -/
def PoppingOk (s : SpscState) : Prop :=
  match s.popping with
  | .idle => True
  | .loaded head => head = s.queue.head
  | .copying head done copied =>
      head = s.queue.head ∧ ∃ d, s.pushed[s.popped.length]? = some d ∧ Ring.Copied done copied d.words

/-- **The invariant of the queue.**  The counters count what was pushed and popped, what was popped is the
front of what was pushed, and the rest lies in the ring. -/
structure Sound (s : SpscState) : Prop where
  depth : ∃ b, RingDepth s.queue.size s.queue.mask b
  head : s.queue.head = UInt32.ofNat s.popped.length
  tail : s.queue.tail = UInt32.ofNat s.pushed.length
  front : s.popped <+: s.pushed
  room : s.pushed.length ≤ s.popped.length + s.queue.size.toNat
  keeps : Ring.Keeps s.queue.desc s.queue.size.toNat (s.pushed.map Desc.words) s.popped.length
  pushing : s.PushingOk
  popping : s.PoppingOk

/-- A queue that `obmm_spsc_queue_init` has set up has a depth, and is empty. -/
lemma depth_of_init {depth : UInt32} {q : SpscQueue} (h : spscQueueInit depth = some q) :
    (∃ b, RingDepth q.size q.mask b) ∧ q.head = 0 ∧ q.tail = 0 := by
  unfold spscQueueInit at h
  split_ifs at h with hrange hpow
  rw [Option.some.injEq] at h
  subst h
  exact ⟨ringDepth_of_accepted hrange hpow, rfl, rfl⟩

lemma sound_start {q : SpscQueue} (hdepth : ∃ b, RingDepth q.size q.mask b) (hhead : q.head = 0) (htail : q.tail = 0) :
    Sound (start q) where
  depth := hdepth
  head := hhead
  tail := htail
  front := List.prefix_rfl
  room := Nat.le_add_right _ _
  keeps := Ring.keeps_nil _ _ _
  pushing := trivial
  popping := trivial

/-! ## Steps -/

section Steps

variable {s : SpscState}

lemma Sound.length_le (h : s.Sound) : s.popped.length ≤ s.pushed.length := h.front.length_le

/-- The slot of the next push. -/
lemma Sound.tail_slot (h : s.Sound) :
    (s.queue.tail &&& s.queue.mask).toNat = s.pushed.length % s.queue.size.toNat := by
  obtain ⟨b, hb⟩ := h.depth
  rw [h.tail]
  exact hb.slot _

/-- The slot of the next pop. -/
lemma Sound.head_slot (h : s.Sound) :
    (s.queue.head &&& s.queue.mask).toNat = s.popped.length % s.queue.size.toNat := by
  obtain ⟨b, hb⟩ := h.depth
  rw [h.head]
  exact hb.slot _

/-- A push finds the queue full just when it is. -/
lemma Sound.full_iff (h : s.Sound) :
    s.queue.tail - s.queue.head = s.queue.size ↔
      s.pushed.length = s.popped.length + s.queue.size.toNat := by
  obtain ⟨b, hb⟩ := h.depth
  rw [h.tail, h.head]
  exact hb.full_iff h.length_le h.room

/-- A pop finds the queue empty just when it is. -/
lemma Sound.empty_iff (h : s.Sound) : s.queue.head = s.queue.tail ↔ s.popped = s.pushed := by
  obtain ⟨b, hb⟩ := h.depth
  rw [h.tail, h.head, hb.empty_iff h.length_le h.room]
  exact ⟨h.front.eq_of_length, congrArg _⟩

/-- The front of the ring is the next descriptor. -/
lemma Sound.head_words (h : s.Sound) {d : Desc} (hd : s.pushed[s.popped.length]? = some d) :
    s.queue.desc (s.popped.length % s.queue.size.toNat) = d.words := by
  obtain ⟨hlt, hget⟩ := List.getElem?_eq_some_iff.mp hd
  have hkeep := h.keeps s.popped.length (by simpa using hlt) le_rfl
  rw [List.getElem_map, hget] at hkeep
  exact hkeep

lemma Sound.step_push (h : s.Sound) (d : Desc) : (s.step (.push d)).Sound := by
  unfold step
  cases hp : s.pushing with
  | idle => exact { h with pushing := rfl }
  | loaded | copying => exact h

lemma Sound.step_pop (h : s.Sound) : (s.step .pop).Sound := by
  unfold step
  cases hp : s.popping with
  | idle => exact { h with popping := rfl }
  | loaded | copying => exact h

/-- The producer looks whether there is room. -/
lemma Sound.producer_loaded (h : s.Sound) {d : Desc} {tail : UInt32}
    (hp : s.pushing = .loaded d tail) : s.stepProducer.Sound := by
  have htail : tail = s.queue.tail := by
    have := h.pushing
    rwa [PushingOk, hp] at this
  rw [stepProducer, hp]
  dsimp only
  split_ifs with hfull
  · exact { h with pushing := trivial }
  · have hroom := h.room
    rw [htail, h.full_iff] at hfull
    refine { h with pushing := ⟨htail, ?_, Ring.Copied.zero _ _⟩ }
    dsimp only
    omega

/-- The producer copies a word, or stores the counter behind the last one. -/
lemma Sound.producer_copying (h : s.Sound) {d : Desc} {tail : UInt32} {done : ℕ}
    (hp : s.pushing = .copying d tail done) : s.stepProducer.Sound := by
  obtain ⟨htail, hroom, hwords⟩ : tail = s.queue.tail ∧
      s.pushed.length < s.popped.length + s.queue.size.toNat ∧
      Ring.Copied done (s.queue.desc (s.pushed.length % s.queue.size.toNat)) d.words := by
    have := h.pushing
    rwa [PushingOk, hp] at this
  have hslot := h.tail_slot
  rw [stepProducer, hp]
  dsimp only
  split_ifs with hdone
  · rw [htail, hslot]
    refine { h with keeps := ?_, pushing := ⟨rfl, hroom, ?_⟩ }
    · apply h.keeps.of_eq_off (by rwa [List.length_map])
      intro i hi
      rw [List.length_map] at hi
      exact Function.update_of_ne hi _ _
    · dsimp only
      rw [Function.update_self]
      exact hwords.update hdone
  · refine
      { h with
        tail := ?_, front := h.front.trans (List.prefix_append _ _), room := ?_, keeps := ?_,
        pushing := trivial, popping := ?_ }
    · dsimp only
      rw [htail, h.tail, ofNat_succ32, List.length_append, List.length_singleton]
    · dsimp only
      rw [List.length_append, List.length_singleton]
      exact hroom
    · dsimp only
      rw [List.map_append]
      apply h.keeps.append
      rw [List.length_map, hwords.eq hdone]
    · -- the descriptor a pop is copying stays where it is
      have hpop := h.popping
      cases hpp : s.popping with
      | idle => trivial
      | loaded head => simpa only [PoppingOk, hpp] using hpop
      | copying head done' copied =>
        simp only [PoppingOk, hpp] at hpop ⊢
        obtain ⟨hhead, d', hd', hcopied⟩ := hpop
        obtain ⟨hlt, -⟩ := List.getElem?_eq_some_iff.mp hd'
        exact ⟨hhead, d', by rw [List.getElem?_append_left hlt, hd'], hcopied⟩

lemma Sound.step_producer (h : s.Sound) : (s.step .producer).Sound := by
  change s.stepProducer.Sound
  cases hp : s.pushing with
  | idle => rwa [stepProducer, hp]
  | loaded d tail => exact h.producer_loaded hp
  | copying d tail done => exact h.producer_copying hp

/-- The consumer looks whether there is a descriptor. -/
lemma Sound.consumer_loaded (h : s.Sound) {head : UInt32} (hp : s.popping = .loaded head) :
    s.stepConsumer.Sound := by
  have hhead : head = s.queue.head := by
    have := h.popping
    rwa [PoppingOk, hp] at this
  rw [stepConsumer, hp]
  dsimp only
  split_ifs with hempty
  · exact { h with popping := trivial }
  · have hlt : s.popped.length < s.pushed.length := by
      apply lt_of_le_of_ne h.length_le
      intro heq
      exact hempty (hhead.trans (h.empty_iff.mpr (h.front.eq_of_length heq)))
    exact { h with
      popping := ⟨hhead, s.pushed[s.popped.length], List.getElem?_eq_getElem hlt,
        Ring.Copied.zero _ _⟩ }

/-- The consumer copies a word, or stores the counter behind the last one. -/
lemma Sound.consumer_copying (h : s.Sound) {head : UInt32} {done : ℕ} {copied : Fin 4 → UInt64}
    (hp : s.popping = .copying head done copied) : s.stepConsumer.Sound := by
  obtain ⟨hhead, d, hd, hcopied⟩ : head = s.queue.head ∧
      ∃ d, s.pushed[s.popped.length]? = some d ∧ Ring.Copied done copied d.words := by
    have := h.popping
    rwa [PoppingOk, hp] at this
  obtain ⟨hlt, hget⟩ := List.getElem?_eq_some_iff.mp hd
  rw [stepConsumer, hp]
  dsimp only
  split_ifs with hdone
  · rw [hhead, h.head_slot, h.head_words hd]
    exact { h with popping := ⟨rfl, d, hd, hcopied.update hdone⟩ }
  · rw [hcopied.eq hdone, Desc.ofWords_words]
    refine
      { h with
        head := ?_, front := ?_, room := ?_, keeps := ?_, pushing := ?_, popping := trivial }
    · dsimp only
      rw [hhead, h.head, ofNat_succ32, List.length_append, List.length_singleton]
    · dsimp only
      rw [← hget]
      exact List.concat_get_prefix h.front hlt
    · have := h.room
      dsimp only
      rw [List.length_append, List.length_singleton]
      omega
    · dsimp only
      rw [List.length_append, List.length_singleton]
      exact h.keeps.mono (Nat.le_succ _)
    · -- there is only more room now
      have hpush := h.pushing
      cases hpp : s.pushing with
      | idle => trivial
      | loaded d' tail => simpa only [PushingOk, hpp] using hpush
      | copying d' tail done' =>
        simp only [PushingOk, hpp] at hpush ⊢
        obtain ⟨htail, hroom, hrest⟩ := hpush
        refine ⟨htail, ?_, hrest⟩
        rw [List.length_append, List.length_singleton]
        omega

lemma Sound.step_consumer (h : s.Sound) : (s.step .consumer).Sound := by
  change s.stepConsumer.Sound
  cases hp : s.popping with
  | idle => rwa [stepConsumer, hp]
  | loaded head => exact h.consumer_loaded hp
  | copying head done copied => exact h.consumer_copying hp

/-- Every access keeps the invariant. -/
lemma Sound.step (h : s.Sound) (m : SpscMove) : (s.step m).Sound := by
  cases m with
  | push d => exact h.step_push d
  | producer => exact h.step_producer
  | pop => exact h.step_pop
  | consumer => exact h.step_consumer

/-! What a step does to the descriptors. -/

lemma step_push_lists (s : SpscState) (d : Desc) :
    (s.step (.push d)).pushed = s.pushed ∧ (s.step (.push d)).popped = s.popped := by
  unfold SpscState.step
  cases s.pushing <;> exact ⟨rfl, rfl⟩

lemma step_pop_lists (s : SpscState) :
    (s.step .pop).pushed = s.pushed ∧ (s.step .pop).popped = s.popped := by
  unfold SpscState.step
  cases s.popping <;> exact ⟨rfl, rfl⟩

lemma stepProducer_popped (s : SpscState) : s.stepProducer.popped = s.popped := by
  unfold stepProducer
  cases s.pushing with
  | idle => rfl
  | loaded d tail => dsimp only; split_ifs <;> rfl
  | copying d tail done => dsimp only; split_ifs <;> rfl

lemma prefix_stepProducer_pushed (s : SpscState) : s.pushed <+: s.stepProducer.pushed := by
  unfold stepProducer
  cases s.pushing with
  | idle => exact List.prefix_rfl
  | loaded d tail => dsimp only; split_ifs <;> exact List.prefix_rfl
  | copying d tail done =>
    dsimp only
    split_ifs
    · exact List.prefix_rfl
    · exact List.prefix_append _ _

lemma stepConsumer_pushed (s : SpscState) : s.stepConsumer.pushed = s.pushed := by
  unfold stepConsumer
  cases s.popping with
  | idle => rfl
  | loaded head => dsimp only; split_ifs <;> rfl
  | copying head done copied => dsimp only; split_ifs <;> rfl

/-- A look at the queue gives no descriptor. -/
lemma stepConsumer_popped_of_loaded {head : UInt32} (hp : s.popping = .loaded head) :
    s.stepConsumer.popped = s.popped := by
  rw [stepConsumer, hp]
  dsimp only
  split_ifs <;> rfl

/-- The last access of a pop gives the descriptor it has copied, the others none. -/
lemma stepConsumer_popped_of_copying {head : UInt32} {done : ℕ} {copied : Fin 4 → UInt64}
    (hp : s.popping = .copying head done copied) :
    s.stepConsumer.popped = if done < 4 then s.popped else s.popped ++ [Desc.ofWords copied] := by
  rw [stepConsumer, hp]
  dsimp only
  split_ifs <;> rfl

/-- A look finds the queue empty just when it is. -/
lemma Sound.stepConsumer_idle_iff (h : s.Sound) {head : UInt32} (hp : s.popping = .loaded head) :
    s.stepConsumer.popping = .idle ↔ s.popped = s.pushed := by
  have hok := h.popping
  rw [PoppingOk, hp] at hok
  rw [← h.empty_iff, stepConsumer, hp]
  dsimp only
  rw [hok]
  split_ifs with hempty
  · exact iff_of_true rfl hempty
  · exact iff_of_false (by simp) hempty

lemma step_size (s : SpscState) (m : SpscMove) : (s.step m).queue.size = s.queue.size := by
  cases m with
  | push d => unfold SpscState.step; cases s.pushing <;> rfl
  | producer =>
    change s.stepProducer.queue.size = _
    unfold stepProducer
    cases s.pushing with
    | idle => rfl
    | loaded d tail => dsimp only; split_ifs <;> rfl
    | copying d tail done => dsimp only; split_ifs <;> rfl
  | pop => unfold SpscState.step; cases s.popping <;> rfl
  | consumer =>
    change s.stepConsumer.queue.size = _
    unfold stepConsumer
    cases s.popping with
    | idle => rfl
    | loaded head => dsimp only; split_ifs <;> rfl
    | copying head done copied => dsimp only; split_ifs <;> rfl

end Steps

/-! ## Runs -/

/-- Every run keeps the invariant, and the number of slots. -/
lemma sound_run {q : SpscQueue} (h : (start q).Sound) (moves : List SpscMove) :
    (Run.run step (start q) moves).Sound ∧ (Run.run step (start q) moves).queue.size = q.size :=
  Run.invariant (I := fun s => s.Sound ∧ s.queue.size = q.size)
    (fun s m hs => ⟨hs.1.step m, (step_size s m).trans hs.2⟩) ⟨h, rfl⟩ moves

/-- **The queue is a bounded FIFO.**  In every run of a queue of any depth, with the accesses of both
sides in any order and however far the counters have run over, what was popped is the front of what was
pushed and at most `depth` descriptors are under way; a push is refused just when `depth` are, as it looks,
and a pop just when none is. -/
theorem spsc_fifo {depth : UInt32} {q : SpscQueue} (h : spscQueueInit depth = some q)
    (moves : List SpscMove) :
    let s := Run.run step (start q) moves
    s.popped <+: s.pushed ∧ s.pushed.length ≤ s.popped.length + depth.toNat ∧
      (∀ d tail, s.pushing = .loaded d tail →
        ((s.step .producer).pushing = .idle ↔
          s.pushed.length = s.popped.length + depth.toNat)) ∧
      (∀ head, s.popping = .loaded head →
        ((s.step .consumer).popping = .idle ↔ s.popped = s.pushed)) := by
  intro s
  obtain ⟨hdepth, hhead, htail⟩ := depth_of_init h
  have hsize : q.size = depth := by
    unfold spscQueueInit at h
    split_ifs at h
    rw [← Option.some.inj h]
  obtain ⟨hs, hs'⟩ := sound_run (sound_start hdepth hhead htail) moves
  rw [hsize] at hs'
  refine ⟨hs.front, hs' ▸ hs.room, ?_, ?_⟩
  · intro d tail hp
    have hok := hs.pushing
    rw [PushingOk, hp] at hok
    rw [← hs', ← hs.full_iff]
    change s.stepProducer.pushing = _ ↔ _
    rw [stepProducer, hp]
    dsimp only
    rw [hok]
    split_ifs with hfull
    · exact iff_of_true rfl hfull
    · exact iff_of_false (by simp) hfull
  · intro head hp
    exact hs.stepConsumer_idle_iff hp

/-! ## The queue the waits pop from

The moves of a node take its queues to be lists of what has arrived, with the number of what was popped.  The
queue in memory is one: each of its accesses changes nothing of that, or is the arrival of a descriptor, or
hands out the next one. -/

/-- What has arrived. -/
def arrivals (s : SpscState) : Inbox Desc WaitCall := ⟨s.pushed, s.popped.length, [], []⟩

/-- **The queue in memory is the queue of the waits.** -/
theorem Sound.step_arrivals {s : SpscState} (h : s.Sound) (m : SpscMove) :
    (s.step m).arrivals = s.arrivals ∨ (∃ d, (s.step m).arrivals = s.arrivals.push d) ∨
      ∃ d, s.arrivals.next? = some (s.popped.length, d) ∧
        (s.step m).popped = s.popped ++ [d] ∧ (s.step m).arrivals = s.arrivals.lose := by
  have hsame {s' : SpscState} (hpush : s'.pushed = s.pushed) (hpop : s'.popped = s.popped) :
      s'.arrivals = s.arrivals := by rw [arrivals, arrivals, hpush, hpop]
  cases m with
  | push d => exact .inl (hsame (s.step_push_lists d).1 (s.step_push_lists d).2)
  | pop => exact .inl (hsame s.step_pop_lists.1 s.step_pop_lists.2)
  | producer =>
    change s.stepProducer.arrivals = _ ∨ (∃ d, s.stepProducer.arrivals = s.arrivals.push d) ∨ _
    unfold stepProducer
    cases hp : s.pushing with
    | idle => exact .inl rfl
    | loaded d tail => dsimp only; split_ifs <;> exact .inl rfl
    | copying d tail done =>
      dsimp only
      split_ifs with hdone
      · exact .inl rfl
      · exact .inr (.inl ⟨d, rfl⟩)
  | consumer =>
    change s.stepConsumer.arrivals = _ ∨ _ ∨ ∃ d, _ ∧ s.stepConsumer.popped = _ ∧ _
    cases hp : s.popping with
    | idle => exact .inl (by rw [stepConsumer, hp])
    | loaded head =>
      exact .inl (hsame s.stepConsumer_pushed (stepConsumer_popped_of_loaded hp))
    | copying head done copied =>
      have hpop := stepConsumer_popped_of_copying hp
      split_ifs at hpop with hdone
      · exact .inl (hsame s.stepConsumer_pushed hpop)
      · -- the last access: what was copied is what arrived next
        have hfront : s.popped ++ [Desc.ofWords copied] <+: s.pushed := by
          rw [← hpop, ← s.stepConsumer_pushed]
          exact h.step_consumer.front
        have hget : s.pushed[s.popped.length]? = some (Desc.ofWords copied) := by
          obtain ⟨rest, hrest⟩ := hfront
          rw [← hrest, List.append_assoc, List.getElem?_append_right le_rfl, Nat.sub_self]
          rfl
        have hnext : s.arrivals.next? = some (s.popped.length, Desc.ofWords copied) := by
          rw [Inbox.next?, arrivals, hget, Option.map_some]
        refine .inr (.inr ⟨_, hnext, hpop, ?_⟩)
        change s.stepConsumer.arrivals = _
        rw [Inbox.lose, hnext, arrivals, hpop, s.stepConsumer_pushed, List.length_append]
        rfl

/-- A pop begun in the middle of a push finds nothing, and one behind it the descriptor. -/
theorem spsc_fifo_minDepth :
    let d : Desc := { seq := 7, payloadLen := 4096, type := descReady }
    let s := Run.run step (start ⟨0, 0, 64, 63, fun _ _ => 0⟩)
      ([.push d, .producer, .producer, .pop, .consumer] ++ List.replicate 4 .producer ++
        [.pop] ++ List.replicate 6 .consumer)
    s.popped = [d] ∧ s.popped <+: s.pushed :=
  ⟨by decide +kernel, (@spsc_fifo 64 _ rfl _).1⟩

end SpscState

end MemService
