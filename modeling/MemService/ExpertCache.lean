import Mathlib.Data.UInt
import MemService.Lib.RecencyCache

/-!
# The expert cache

A node keeps track of which expert tiles it would hold in memory: `mem_service_expert_cache` simulates
a cache of expert weights that evicts the least recently used one, and counts hits, misses, evictions
and the bytes a miss would read.

The resident set is an array of packed keys `layer * 1000 + expert` with a count, the least recently
used in front.  A hit shifts the entries behind it down and puts the key at the back, a miss of a full
cache does the same to the first entry.  That this is a least-recently-used cache of pairs rests on two
things: no key is there twice, and the packing keeps pairs apart, which it does below a thousand experts.
-/

namespace MemService

/-! ## The code -/

/-- `MEM_SERVICE_EXPERT_CACHE_DEFAULT_SLOTS`. -/
def expertCacheDefaultSlots : ℕ := 64

/-- A layer and an expert in it. -/
abbrev ExpertPair : Type := UInt32 × UInt32

/-- `expert_cache_key`. -/
def expertCacheKey (p : ExpertPair) : UInt64 := p.1.toUInt64 * 1000 + p.2.toUInt64

/-- The counters of `mem_service_expert_cache_stats`. -/
structure ExpertCacheStats where
  hits : UInt64
  misses : UInt64
  evictions : UInt64
  preadBytes : UInt64

/-- `mem_service_expert_cache`. -/
structure ExpertCache where
  capacitySlots : ℕ
  expertBytes : UInt64
  resident : Vector UInt64 expertCacheDefaultSlots
  residentCount : ℕ
  stats : ExpertCacheStats

namespace ExpertCache

/-- The capacity `mem_service_expert_cache_init` takes for the one it is asked for. -/
def slots (capacitySlots : ℕ) : ℕ :=
  if capacitySlots > expertCacheDefaultSlots then expertCacheDefaultSlots
  else if capacitySlots = 0 then expertCacheDefaultSlots else capacitySlots

/-- `mem_service_expert_cache_init`. -/
def init (capacitySlots : ℕ) (expertBytes : UInt64) : ExpertCache where
  capacitySlots := slots capacitySlots
  expertBytes := expertBytes
  resident := Vector.replicate expertCacheDefaultSlots 0
  residentCount := 0
  stats := ⟨0, 0, 0, 0⟩

/-- The part of the array that is in use. -/
def entries (c : ExpertCache) : List UInt64 := c.resident.toList.take c.residentCount

/-- `resident[resident_count++] = key`. -/
def push (c : ExpertCache) (key : UInt64) : ExpertCache :=
  { c with
    resident := c.resident.setIfInBounds c.residentCount key
    residentCount := c.residentCount + 1 }

/-- `mem_service_expert_cache_preload`. -/
def preload : ExpertCache → List ExpertPair → ExpertCache
  | c, [] => c
  | c, p :: pairs =>
      if c.residentCount < c.capacitySlots then
        preload (if c.entries.contains (expertCacheKey p) then c else c.push (expertCacheKey p)) pairs
      else c

/-- `expert_cache_find`. -/
def find (c : ExpertCache) (key : UInt64) : Option ℕ := c.entries.findIdx? (· == key)

/-- The loop of `expert_cache_remove_at`: `n` entries from `index` on take the value of the next. -/
def shiftDown (r : Vector UInt64 expertCacheDefaultSlots) (index : ℕ) :
    ℕ → Vector UInt64 expertCacheDefaultSlots
  | 0 => r
  | n + 1 => shiftDown (r.setIfInBounds index (r[index + 1]?.getD 0)) (index + 1) n

/-- `expert_cache_remove_at`. -/
def removeAt (c : ExpertCache) (index : ℕ) : ExpertCache :=
  let r := shiftDown c.resident index (c.residentCount - 1 - index)
  if c.residentCount > 0 then
    { c with
      resident := r.setIfInBounds (c.residentCount - 1) 0
      residentCount := c.residentCount - 1 }
  else { c with resident := r }

/-- `mem_service_expert_cache_touch`: whether it was a hit, and the cache after it. -/
def touch (c : ExpertCache) (p : ExpertPair) : Bool × ExpertCache :=
  let key := expertCacheKey p
  match c.find key with
  | some index =>
      let c := (c.removeAt index).push key
      (true, { c with stats := { c.stats with hits := c.stats.hits + 1 } })
  | none =>
      let c := { c with stats := { c.stats with
        misses := c.stats.misses + 1
        preadBytes := c.stats.preadBytes + c.expertBytes } }
      let c : ExpertCache :=
        if c.residentCount ≥ c.capacitySlots ∧ c.residentCount > 0 then
          let c := c.removeAt 0
          { c with stats := { c.stats with evictions := c.stats.evictions + 1 } }
        else c
      (false, if c.residentCount < c.capacitySlots then c.push key else c)

/-- The cache after a preload and a number of touches. -/
def after (capacitySlots : ℕ) (expertBytes : UInt64) (pairs touches : List ExpertPair) :
    ExpertCache :=
  Run.run (fun c p => (c.touch p).2) ((init capacitySlots expertBytes).preload pairs) touches

/-! ## The array -/

variable {c : ExpertCache}

lemma length_toList_resident (c : ExpertCache) :
    c.resident.toList.length = expertCacheDefaultSlots := by
  simp

lemma entries_push (h : c.residentCount < expertCacheDefaultSlots) (key : UInt64) :
    (c.push key).entries = c.entries ++ [key] := by
  have hlen := length_toList_resident c
  have hset : ∀ (l : List UInt64) (n : ℕ), n < l.length → (l.set n key).take (n + 1) =
      l.take n ++ [key] := by
    intro l n hn
    rw [List.take_succ_eq_append_getElem (by simpa using hn), List.take_set_of_le le_rfl,
      List.getElem_set_self]
  simp only [entries, push, Vector.toList_setIfInBounds]
  exact hset _ _ (by omega)

/-- Shifting moves the entry behind the removed one up to the last in use. -/
lemma toList_shiftDown {r : Vector UInt64 expertCacheDefaultSlots} {pre mid tail : List UInt64}
    {x : UInt64} (h : r.toList = pre ++ x :: (mid ++ tail)) :
    (shiftDown r pre.length mid.length).toList.take (pre.length + mid.length) = pre ++ mid := by
  induction mid generalizing r pre x with
  | nil => simp [shiftDown, h]
  | cons y mid ih =>
      have hget : r[pre.length + 1]? = some y := by
        rw [← Vector.getElem?_toList, h, List.getElem?_append_right (by omega)]
        simp
      have hset : (r.setIfInBounds pre.length y).toList = (pre ++ [y]) ++ y :: (mid ++ tail) := by
        rw [Vector.toList_setIfInBounds, h]
        simp
      have hrec := ih hset
      rw [List.length_append, List.length_singleton] at hrec
      rw [List.length_cons, shiftDown, hget, Option.getD_some,
        show pre.length + (mid.length + 1) = pre.length + 1 + mid.length by omega, hrec]
      simp

/-- The array holds a list of pairs: their keys are the entries in use. -/
structure Holds (c : ExpertCache) (l : List ExpertPair) : Prop where
  length_le : l.length ≤ expertCacheDefaultSlots
  count : c.residentCount = l.length
  entries : c.entries = l.map expertCacheKey

lemma Holds.push {l : List ExpertPair} (h : c.Holds l) (hlen : l.length < expertCacheDefaultSlots)
    (p : ExpertPair) : (c.push (expertCacheKey p)).Holds (l ++ [p]) where
  length_le := by
    rw [List.length_append, List.length_singleton]
    omega
  count := by
    rw [List.length_append, ← h.count]
    rfl
  entries := by
    rw [entries_push (h.count ▸ hlen), h.entries, List.map_append, List.map_singleton]

/-- Removing takes one pair out. -/
lemma Holds.removeAt {pre mid : List ExpertPair} {p : ExpertPair} (h : c.Holds (pre ++ p :: mid)) :
    (c.removeAt pre.length).Holds (pre ++ mid) := by
  have hle := h.length_le
  have hcount := h.count
  rw [List.length_append, List.length_cons] at hle hcount
  have hlist : c.resident.toList = pre.map expertCacheKey ++ expertCacheKey p ::
      (mid.map expertCacheKey ++ c.resident.toList.drop c.residentCount) := by
    conv_lhs => rw [← List.take_append_drop c.residentCount c.resident.toList]
    rw [show c.resident.toList.take c.residentCount = _ from h.entries]
    simp
  have hshift := toList_shiftDown hlist
  rw [List.length_map, List.length_map] at hshift
  have hpos : c.residentCount > 0 := by omega
  have hlast : c.residentCount - 1 = pre.length + mid.length := by omega
  refine ⟨?_, ?_, ?_⟩
  · rw [List.length_append]
    omega
  · simp only [ExpertCache.removeAt, if_pos hpos, hlast, List.length_append]
  · simp only [ExpertCache.removeAt, ExpertCache.entries, if_pos hpos, Vector.toList_setIfInBounds,
      hlast, Nat.add_sub_cancel_left]
    rw [List.take_set_of_le le_rfl, hshift, List.map_append]

@[simp] lemma capacitySlots_removeAt (c : ExpertCache) (i : ℕ) :
    (c.removeAt i).capacitySlots = c.capacitySlots := by
  unfold ExpertCache.removeAt
  split <;> rfl

@[simp] lemma expertBytes_removeAt (c : ExpertCache) (i : ℕ) :
    (c.removeAt i).expertBytes = c.expertBytes := by
  unfold ExpertCache.removeAt
  split <;> rfl

@[simp] lemma stats_removeAt (c : ExpertCache) (i : ℕ) : (c.removeAt i).stats = c.stats := by
  unfold ExpertCache.removeAt
  split <;> rfl

/-- Removing is about the array, not about the counters. -/
lemma removeAt_stats (c : ExpertCache) (s : ExpertCacheStats) (i : ℕ) :
    ExpertCache.removeAt { c with stats := s } i = { c.removeAt i with stats := s } := by
  unfold ExpertCache.removeAt
  split <;> rfl

/-! ## The packing -/

lemma toNat_expertCacheKey (p : ExpertPair) :
    (expertCacheKey p).toNat = p.1.toNat * 1000 + p.2.toNat := by
  have h1 := p.1.toNat_lt
  have h2 := p.2.toNat_lt
  have h1000 : (1000 : UInt64).toNat = 1000 := rfl
  simp only [expertCacheKey, UInt64.toNat_add, UInt64.toNat_mul, UInt32.toNat_toUInt64, h1000]
  omega

/-- Below a thousand experts the packing keeps pairs apart. -/
lemma expertCacheKey_inj {p q : ExpertPair} (hp : p.2.toNat < 1000) (hq : q.2.toNat < 1000)
    (h : expertCacheKey p = expertCacheKey q) : p = q := by
  have hnat := congrArg UInt64.toNat h
  rw [toNat_expertCacheKey, toNat_expertCacheKey] at hnat
  exact Prod.ext (UInt32.toNat_inj.mp (by omega)) (UInt32.toNat_inj.mp (by omega))

/-! ## The refinement -/

/-- The cache is the reference cache with its pairs packed and its counters modulo `2 ^ 64`. -/
structure Refines (c : ExpertCache) (expertBytes : UInt64) {cap : ℕ}
    (u : RecencyCache.Usage ExpertPair cap) : Prop where
  slots : c.capacitySlots = cap
  bytes : c.expertBytes = expertBytes
  pos : 0 < cap
  cap_le : cap ≤ expertCacheDefaultSlots
  ids : ∀ p ∈ u.cache.order, p.2.toNat < 1000
  holds : c.Holds u.cache.order
  hits : c.stats.hits = UInt64.ofNat u.hits
  misses : c.stats.misses = UInt64.ofNat u.misses
  evictions : c.stats.evictions = UInt64.ofNat u.evictions
  pread : c.stats.preadBytes = c.stats.misses * expertBytes

lemma ofNat_succ (n : ℕ) : UInt64.ofNat (n + 1) = UInt64.ofNat n + 1 := UInt64.ofNat_add n 1

lemma mul_add_self (a b : UInt64) : a * b + b = (a + 1) * b := by
  rw [UInt64.add_mul, UInt64.one_mul]

namespace Refines

variable {expertBytes : UInt64} {cap : ℕ} {u : RecencyCache.Usage ExpertPair cap} {p : ExpertPair}

lemma mem_entries_iff (h : c.Refines expertBytes u) (hp : p.2.toNat < 1000) :
    expertCacheKey p ∈ c.entries ↔ p ∈ u.cache.order := by
  rw [h.holds.entries, List.mem_map]
  constructor
  · rintro ⟨q, hq, hkey⟩
    rwa [← expertCacheKey_inj (h.ids q hq) hp hkey]
  · exact fun hmem => ⟨p, hmem, rfl⟩

lemma find_eq_none (h : c.Refines expertBytes u) (hp : p.2.toNat < 1000) (hmem : p ∉ u.cache.order) :
    c.find (expertCacheKey p) = none := by
  refine List.findIdx?_eq_none_iff.mpr fun key hkey => ?_
  rw [beq_eq_false_iff_ne]
  rintro rfl
  exact hmem ((h.mem_entries_iff hp).mp hkey)

/-- A resident pair is found where the order has it. -/
lemma find_eq_some (h : c.Refines expertBytes u) (hp : p.2.toNat < 1000) {pre mid : List ExpertPair}
    (horder : u.cache.order = pre ++ p :: mid) (hpre : p ∉ pre) :
    c.find (expertCacheKey p) = some pre.length := by
  have hnone : (pre.map expertCacheKey).findIdx? (· == expertCacheKey p) = none := by
    refine List.findIdx?_eq_none_iff.mpr fun key hkey => ?_
    obtain ⟨q, hq, rfl⟩ := List.mem_map.mp hkey
    rw [beq_eq_false_iff_ne]
    intro heq
    have hid := h.ids q (by rw [horder]; exact List.mem_append_left _ hq)
    exact hpre (expertCacheKey_inj hid hp heq ▸ hq)
  rw [find, h.holds.entries, horder, List.map_append, List.map_cons, List.findIdx?_append, hnone,
    List.findIdx?_cons]
  simp

lemma ids_touch (h : c.Refines expertBytes u) (hp : p.2.toNat < 1000) :
    ∀ q ∈ (u.touch p).cache.order, q.2.toNat < 1000 := by
  intro q hq
  rcases RecencyCache.mem_touch hq with hq | rfl
  · exact h.ids q hq
  · exact hp

/-- A hit takes the pair out and puts it at the back. -/
lemma touch_of_mem (h : c.Refines expertBytes u) (hp : p.2.toNat < 1000) (hmem : p ∈ u.cache.order) :
    (c.touch p).1 = true ∧ (c.touch p).2.Refines expertBytes (u.touch p) := by
  obtain ⟨pre, mid, horder, hpre⟩ := List.eq_append_cons_of_mem hmem
  have hnext : (u.touch p).cache.order = pre ++ mid ++ [p] :=
    RecencyCache.touch_of_append horder hpre
  have hholds : c.Holds (pre ++ p :: mid) := horder ▸ h.holds
  have hlen := hholds.length_le
  rw [List.length_append, List.length_cons] at hlen
  have hback := hholds.removeAt.push (by rw [List.length_append]; omega) p
  simp only [ExpertCache.touch, h.find_eq_some hp horder hpre, true_and]
  constructor
  case slots => simpa [ExpertCache.push] using h.slots
  case bytes => simpa [ExpertCache.push] using h.bytes
  case pos => exact h.pos
  case cap_le => exact h.cap_le
  case ids => exact h.ids_touch hp
  case holds => exact hnext ▸ ⟨hback.length_le, hback.count, hback.entries⟩
  case hits => simp [ExpertCache.push, RecencyCache.Usage.touch, hmem, h.hits, ofNat_succ]
  case misses => simp [ExpertCache.push, RecencyCache.Usage.touch, hmem, h.misses]
  case evictions =>
    simp [ExpertCache.push, RecencyCache.Usage.touch, RecencyCache.evicted_of_mem hmem, h.evictions]
  case pread => simpa [ExpertCache.push] using h.pread

/-- A miss of a full cache drops the front. -/
lemma touch_of_full (h : c.Refines expertBytes u) (hp : p.2.toNat < 1000) (hmem : p ∉ u.cache.order)
    (hfull : u.cache.order.length = cap) :
    (c.touch p).1 = false ∧ (c.touch p).2.Refines expertBytes (u.touch p) := by
  have hpos := h.pos
  obtain ⟨b, l, horder⟩ : ∃ b l, u.cache.order = b :: l :=
    List.exists_cons_of_ne_nil (List.ne_nil_of_length_pos (by omega))
  have hnext : (u.touch p).cache.order = l ++ [p] := RecencyCache.touch_of_full horder hmem hfull
  have hgone : (u.cache.evicted p).length = 1 := by
    rw [RecencyCache.evicted_of_full horder hmem hfull]
    rfl
  have hcap := h.cap_le
  have hslots := h.slots
  have hcount : c.residentCount = cap := h.holds.count.trans hfull
  have hlen : l.length + 1 = cap := by rw [← hfull, horder, List.length_cons]
  have hguard : c.residentCount ≥ c.capacitySlots ∧ c.residentCount > 0 := by omega
  have hfront : (c.removeAt 0).Holds l := by
    have hholds : c.Holds ([] ++ b :: l) := horder ▸ h.holds
    exact hholds.removeAt
  have hroom : (c.removeAt 0).residentCount < c.capacitySlots := by
    rw [hfront.count]
    omega
  have hback := hfront.push (by omega) p
  simp only [ExpertCache.touch, h.find_eq_none hp hmem, if_pos hguard, removeAt_stats,
    capacitySlots_removeAt, if_pos hroom, true_and]
  constructor
  case slots => simpa [ExpertCache.push] using hslots
  case bytes => simpa [ExpertCache.push] using h.bytes
  case pos => exact hpos
  case cap_le => exact hcap
  case ids => exact h.ids_touch hp
  case holds =>
    rw [hnext]
    exact ⟨hback.length_le, hback.count, hback.entries⟩
  case hits => simp [ExpertCache.push, RecencyCache.Usage.touch, hmem, h.hits]
  case misses => simp [ExpertCache.push, RecencyCache.Usage.touch, hmem, h.misses, ofNat_succ]
  case evictions =>
    simp [ExpertCache.push, RecencyCache.Usage.touch, hgone, h.evictions, ofNat_succ]
  case pread =>
    simp only [ExpertCache.push, expertBytes_removeAt, h.pread, h.bytes]
    exact mul_add_self _ _

/-- A miss with room to spare adds the pair. -/
lemma touch_of_room (h : c.Refines expertBytes u) (hp : p.2.toNat < 1000) (hmem : p ∉ u.cache.order)
    (hroom : u.cache.order.length < cap) :
    (c.touch p).1 = false ∧ (c.touch p).2.Refines expertBytes (u.touch p) := by
  have hnext : (u.touch p).cache.order = u.cache.order ++ [p] :=
    RecencyCache.touch_of_room hmem hroom
  have hcap := h.cap_le
  have hslots := h.slots
  have hcount := h.holds.count
  have hguard : ¬ (c.residentCount ≥ c.capacitySlots ∧ c.residentCount > 0) := by omega
  have hlt : c.residentCount < c.capacitySlots := by omega
  have hback := h.holds.push (by omega) p
  simp only [ExpertCache.touch, h.find_eq_none hp hmem, if_neg hguard, if_pos hlt, true_and]
  constructor
  case slots => exact hslots
  case bytes => simpa [ExpertCache.push] using h.bytes
  case pos => exact h.pos
  case cap_le => exact hcap
  case ids => exact h.ids_touch hp
  case holds =>
    rw [hnext]
    exact ⟨hback.length_le, hback.count, hback.entries⟩
  case hits => simp [ExpertCache.push, RecencyCache.Usage.touch, hmem, h.hits]
  case misses => simp [ExpertCache.push, RecencyCache.Usage.touch, hmem, h.misses, ofNat_succ]
  case evictions =>
    simp [ExpertCache.push, RecencyCache.Usage.touch, RecencyCache.evicted_of_room hmem hroom,
      h.evictions]
  case pread =>
    simp only [ExpertCache.push, h.pread, h.bytes]
    exact mul_add_self _ _

/-- A touch is a use of the reference cache. -/
lemma touch (h : c.Refines expertBytes u) (hp : p.2.toNat < 1000) :
    ((c.touch p).1 = true ↔ p ∈ u.cache.order) ∧ (c.touch p).2.Refines expertBytes (u.touch p) := by
  by_cases hmem : p ∈ u.cache.order
  · obtain ⟨hhit, hnext⟩ := h.touch_of_mem hp hmem
    exact ⟨iff_of_true hhit hmem, hnext⟩
  · have hmiss : (c.touch p).1 = false ∧ (c.touch p).2.Refines expertBytes (u.touch p) := by
      rcases u.cache.length_le.lt_or_eq with hroom | hfull
      · exact h.touch_of_room hp hmem hroom
      · exact h.touch_of_full hp hmem hfull
    exact ⟨iff_of_false (by simp [hmiss.1]) hmem, hmiss.2⟩

lemma run (h : c.Refines expertBytes u) {touches : List ExpertPair} (hids : ∀ p ∈ touches, p.2.toNat < 1000) :
    (Run.run (fun c p => (c.touch p).2) c touches).Refines expertBytes
      (Run.run RecencyCache.Usage.touch u touches) := by
  induction touches generalizing c u with
  | nil => exact h
  | cons p touches ih =>
      exact ih (h.touch (hids p (by simp))).2 fun q hq => hids q (by simp [hq])

end Refines

/-! ## Preloading -/

/-- Preloading puts the pairs in one after the other, each where it comes first, until the cache is
full; nothing is counted. -/
lemma holds_preload {l pairs : List ExpertPair} (hl : c.Holds l) (hnodup : l.Nodup)
    (hlen : l.length ≤ c.capacitySlots) (hcap : c.capacitySlots ≤ expertCacheDefaultSlots)
    (hids : ∀ p ∈ l ++ pairs, p.2.toNat < 1000) :
    (c.preload pairs).Holds (RecencyCache.ofList c.capacitySlots (l ++ pairs)).order ∧
      (c.preload pairs).capacitySlots = c.capacitySlots ∧
      (c.preload pairs).expertBytes = c.expertBytes ∧ (c.preload pairs).stats = c.stats := by
  induction pairs generalizing c l with
  | nil =>
      have hl' : (RecencyCache.ofList c.capacitySlots (l ++ [])).order = l := by
        rw [List.append_nil]
        exact RecencyCache.ofList_of_nodup hnodup hlen
      exact ⟨hl'.symm ▸ hl, rfl, rfl, rfl⟩
  | cons p pairs ih =>
      have hcount := hl.count
      have hp : p.2.toNat < 1000 := hids p (by simp)
      have hpresent : c.entries.contains (expertCacheKey p) = true ↔ p ∈ l := by
        rw [List.contains_iff_mem, hl.entries, List.mem_map]
        constructor
        · rintro ⟨q, hq, hkey⟩
          rwa [← expertCacheKey_inj (hids q (by simp [hq])) hp hkey]
        · exact fun hmem => ⟨p, hmem, rfl⟩
      unfold preload
      by_cases hroom : c.residentCount < c.capacitySlots
      · rw [if_pos hroom]
        by_cases hmem : p ∈ l
        · rw [if_pos (hpresent.mpr hmem), RecencyCache.ofList_append_cons_of_mem hmem]
          exact ih hl hnodup hlen hcap fun q hq => hids q (by simp at hq ⊢; tauto)
        · rw [if_neg fun h => hmem (hpresent.mp h), List.append_cons]
          refine ih (hl.push (by omega) p) ?_ ?_ hcap ?_
          · exact List.nodup_append.mpr ⟨hnodup, List.nodup_singleton p, by
              rintro q hq r hr rfl
              exact hmem (List.mem_singleton.mp hr ▸ hq)⟩
          · rw [List.length_append, List.length_singleton]
            show l.length + 1 ≤ c.capacitySlots
            omega
          · intro q hq
            exact hids q (by simpa using hq)
      · rw [if_neg hroom, RecencyCache.ofList_of_full hnodup (by omega)]
        exact ⟨hl, rfl, rfl, rfl⟩

/-- The reference cache after a preload and a number of uses. -/
def referenceAfter (cap : ℕ) (pairs touches : List ExpertPair) : RecencyCache.Usage ExpertPair cap :=
  Run.run RecencyCache.Usage.touch (.start (RecencyCache.ofList cap pairs)) touches

lemma slots_bounds (capacitySlots : ℕ) :
    0 < slots capacitySlots ∧ slots capacitySlots ≤ expertCacheDefaultSlots := by
  unfold slots expertCacheDefaultSlots
  split
  · omega
  · split <;> omega

lemma refines_after {capacitySlots : ℕ} {expertBytes : UInt64} {pairs touches : List ExpertPair}
    (hids : ∀ p ∈ pairs ++ touches, p.2.toNat < 1000) :
    (after capacitySlots expertBytes pairs touches).Refines expertBytes
      (referenceAfter (slots capacitySlots) pairs touches) := by
  obtain ⟨hpos, hcap⟩ := slots_bounds capacitySlots
  have hempty : (init capacitySlots expertBytes).Holds [] := ⟨by simp, rfl, by simp [entries, init]⟩
  obtain ⟨hholds, hslots, hbytes, hstats⟩ := @holds_preload _ [] pairs hempty List.nodup_nil
    (Nat.zero_le _) hcap fun p hp => hids p (List.mem_append_left _ hp)
  refine Refines.run ?_ fun p hp => hids p (List.mem_append_right _ hp)
  constructor
  case slots => exact hslots
  case bytes => exact hbytes
  case pos => exact hpos
  case cap_le => exact hcap
  case ids =>
    exact fun p hp => hids p (List.mem_append_left _ (RecencyCache.mem_ofList hp))
  case holds => exact hholds
  case hits => rw [hstats]; rfl
  case misses => rw [hstats]; rfl
  case evictions => rw [hstats]; rfl
  case pread => rw [hstats]; simp [init]

/-! ## Every run -/

lemma nodup_entries {expertBytes : UInt64} {cap : ℕ} {u : RecencyCache.Usage ExpertPair cap} (h : c.Refines expertBytes u) :
    c.entries.Nodup := by
  rw [h.holds.entries]
  exact List.Nodup.map_on
    (fun p hp q hq hkey => expertCacheKey_inj (h.ids p hp) (h.ids q hq) hkey) u.cache.nodup

end ExpertCache

open ExpertCache in
/-- **The expert cache is a least-recently-used cache of pairs.**  Take any capacity, any preload list
and any touches, all of experts below a thousand.  The cache has the capacity it was asked for, or the
default one when it was asked for none or for more.  The next touch is a hit exactly when the reference
cache of that capacity has the pair; the resident keys are those of the reference in its order, distinct
and not more than the capacity; hits and misses add up to the touches, each miss has read one expert, and
the evictions are the reference's.  The counters have 64 bits. -/
theorem expertCache_lru {capacitySlots : ℕ} {expertBytes : UInt64}
    {pairs touches : List ExpertPair} (hids : ∀ p ∈ pairs ++ touches, p.2.toNat < 1000) :
    let c := after capacitySlots expertBytes pairs touches
    let u := referenceAfter (slots capacitySlots) pairs touches
    (∀ p : ExpertPair, p.2.toNat < 1000 → ((c.touch p).1 = true ↔ p ∈ u.cache.order)) ∧
    c.entries = u.cache.order.map expertCacheKey ∧ c.entries.Nodup ∧
    c.entries.length ≤ slots capacitySlots ∧
    c.stats.hits + c.stats.misses = UInt64.ofNat touches.length ∧
    (touches.length < 2 ^ 64 → c.stats.hits.toNat + c.stats.misses.toNat = touches.length) ∧
    c.stats.preadBytes = c.stats.misses * expertBytes ∧
    c.stats.evictions = UInt64.ofNat u.evictions := by
  intro c u
  have h : c.Refines expertBytes u := refines_after hids
  have htouches : u.hits + u.misses = touches.length :=
    (RecencyCache.Usage.hits_add_misses _ touches).trans (Nat.zero_add _)
  refine ⟨fun p hp => (h.touch hp).1, h.holds.entries, nodup_entries h, ?_, ?_, ?_, h.pread,
    h.evictions⟩
  · rw [h.holds.entries, List.length_map]
    exact u.cache.length_le
  · rw [h.hits, h.misses, ← htouches, UInt64.ofNat_add]
  · intro hlt
    rw [h.hits, h.misses, UInt64.toNat_ofNat_of_lt' (show _ < 2 ^ 64 by omega),
      UInt64.toNat_ofNat_of_lt' (show _ < 2 ^ 64 by omega), htouches]

/-- Two places, three pairs: the first pair is used again, so the second makes room. -/
theorem expertCache_lru_three :
    let c := ExpertCache.after 2 4096 [(0, 1), (0, 2)] [(0, 1), (7, 255)]
    ((c.touch (0, 1)).1 = true ↔
      (0, 1) ∈ (ExpertCache.referenceAfter 2 [(0, 1), (0, 2)] [(0, 1), (7, 255)]).cache.order) ∧
    c.stats.evictions = 1 := by
  have h := @expertCache_lru 2 4096 [(0, 1), (0, 2)] [(0, 1), (7, 255)] (by simp)
  exact ⟨h.1 (0, 1) (by simp), by decide +kernel⟩

/-- Asked for no capacity the cache holds an entry after one touch, and hits it; asked for a hundred it
does not have the first of 65 pairs, which a cache of that capacity has; and a preloaded pair of the
thousandth expert is taken for another pair. -/
theorem expertCache_not_of_asked_capacity :
    ¬ (ExpertCache.after 0 4096 [] [(0, 0)]).entries.length ≤ 0 ∧
    ¬ (((ExpertCache.after 0 4096 [] [(0, 0)]).touch (0, 0)).1 = true ↔
      (0, 0) ∈ (ExpertCache.referenceAfter 0 [] [(0, 0)]).cache.order) ∧
    ¬ (((ExpertCache.after 100 4096 []
        ((List.range 65).map fun i => (0, UInt32.ofNat i))).touch (0, 0)).1 = true ↔
      (0, 0) ∈ (ExpertCache.referenceAfter 100 []
        ((List.range 65).map fun i => (0, UInt32.ofNat i))).cache.order) ∧
    ¬ (((ExpertCache.after 1 4096 [(0, 1000)] []).touch (1, 0)).1 = true ↔
      (1, 0) ∈ (ExpertCache.referenceAfter 1 [(0, 1000)] []).cache.order) := by
  refine ⟨?_, ?_, ?_, ?_⟩ <;> decide +kernel

end MemService
