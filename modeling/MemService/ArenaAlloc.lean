import Mathlib.Data.List.Pairwise
import MemService.RegionLayout

/-!
# The arena allocator

A node hands out its region from 2 MiB on to whoever has something to publish, by
`mem_service_payload_arena_alloc` and, for key-value states in blocks, by
`mem_service_model_kv_state_alloc`.  It is a bump allocator on 64-bit offsets: it rounds the next free
offset up to the alignment asked for, adds the size and gives back the offset unless the sum runs over or
leaves the region.

Sizes are any 64-bit numbers.  The sum is checked after it was made; the block count of a key-value state
is a rounding division that can wrap to zero, and what is reserved is compared with the payload at the end.
What the allocator does rely on is that `obmm_align_up_u64` rounds up: it would wrap too, for an offset
within one alignment of the end of the address space.
-/

open ByteRegion

namespace MemService

/-! ## The allocator -/

/-- Of `mem_service_mapped_region`: where the region is mapped, and its length. -/
structure ArenaRegion where
  addr : UInt64
  len : UInt64

/-- What the allocator reads and writes of `mem_service_cluster_runtime`. -/
structure ArenaRuntime where
  nodeCount : ℤ
  localIdx : ℤ
  slots : ℕ → ArenaRegion
  arenaBase : UInt64
  arenaNext : UInt64
  arenaHighWater : UInt64

namespace ArenaRuntime

/-- `rt->slots[rt->local_idx].region`. -/
def localRegion (rt : ArenaRuntime) : ArenaRegion := rt.slots rt.localIdx.toNat

/-- The alignment an allocation uses: 0 stands for 64. -/
def defaultAlign (align : UInt64) : UInt64 := if align = 0 then 64 else align

/-- The arena is set up at the first allocation after a reset. -/
def setUp (rt : ArenaRuntime) (align : UInt64) : ArenaRuntime :=
  if rt.arenaBase = 0 then
    let base := alignUp obmmDynamicArenaOffset align
    { rt with arenaBase := base, arenaNext := base, arenaHighWater := base }
  else rt

/-- `mem_service_payload_arena_alloc`. -/
def payloadAlloc (rt : ArenaRuntime) (bytes align : UInt64) : Option UInt64 × ArenaRuntime :=
  if rt.localIdx < 0 || rt.localIdx ≥ rt.nodeCount || bytes == 0 then (none, rt)
  else
    let align := defaultAlign align
    let rt := rt.setUp align
    let offset := alignUp rt.arenaNext align
    let stop := offset + bytes
    if stop < offset || rt.localRegion.addr == 0 || stop > rt.localRegion.len then (none, rt)
    else
      (some offset, { rt with
        arenaNext := stop
        arenaHighWater := if stop > rt.arenaHighWater then stop else rt.arenaHighWater })

end ArenaRuntime

/-- The block size and block count of `mem_service_model_kv_state_block_span`. -/
def kvStateBlocks (payloadLen : UInt64) : ArenaAlign × UInt64 :=
  if payloadLen ≤ ArenaAlign.tier0.bytes then (.tier0, 1)
  else if payloadLen ≤ ArenaAlign.tier1.bytes then (.tier1, 1)
  else if payloadLen ≤ ArenaAlign.tier2.bytes then (.tier2, 1)
  else if payloadLen ≤ ArenaAlign.tier3.bytes then (.tier3, 1)
  else (.tier3, (payloadLen + ArenaAlign.tier3.bytes - 1) / ArenaAlign.tier3.bytes)

/-- `mem_service_model_kv_state_block_span`: the block size, the block count and the bytes reserved. -/
def kvStateBlockSpan (payloadLen : UInt64) : Option (ArenaAlign × UInt64 × UInt64) :=
  if payloadLen = 0 then none
  else
    let (block, count) := kvStateBlocks payloadLen
    if count = 0 || count > 0xffffffffffffffff / block.bytes then none
    else
      let reserved := count * block.bytes
      if reserved < payloadLen then none else some (block, count, reserved)

/-- One call of the allocator. -/
inductive ArenaCall
  | payload (bytes align : UInt64)
  | kvState (payloadLen : UInt64)

/-- A call that succeeded: its range and the alignment it was given. -/
structure ArenaGrant where
  call : ArenaCall
  offset : UInt64
  len : UInt64
  align : UInt64

namespace ArenaRuntime

/-- `mem_service_payload_arena_alloc` or `mem_service_model_kv_state_alloc`. -/
def alloc (rt : ArenaRuntime) : ArenaCall → Option ArenaGrant × ArenaRuntime
  | .payload bytes align =>
      let (offset, rt) := rt.payloadAlloc bytes align
      (offset.map fun offset => ⟨.payload bytes align, offset, bytes, defaultAlign align⟩,
        rt)
  | .kvState payloadLen =>
      match kvStateBlockSpan payloadLen with
      | none => (none, rt)
      | some (block, _, reserved) =>
          let (offset, rt) := rt.payloadAlloc reserved block.bytes
          (offset.map fun offset => ⟨.kvState payloadLen, offset, reserved, block.bytes⟩, rt)

/-- A call, with the ranges handed out so far. -/
def serve (s : ArenaRuntime × List ArenaGrant) (call : ArenaCall) : ArenaRuntime × List ArenaGrant :=
  ((s.1.alloc call).2, s.2 ++ (s.1.alloc call).1.toList)

/-- The next free offset: that of an arena that is not set up is where it will begin. -/
def nextFree (rt : ArenaRuntime) : UInt64 :=
  if rt.arenaBase = 0 then obmmDynamicArenaOffset else rt.arenaNext

/-- The arena after a reset, or as the bootstrap of the cluster sets it up. -/
def Fresh (rt : ArenaRuntime) : Prop :=
  rt.arenaBase = 0 ∨ (rt.arenaBase = obmmDynamicArenaOffset ∧ rt.arenaNext = obmmDynamicArenaOffset)

end ArenaRuntime

/-- The allocator's part of a node whose region is mapped at `addr`. -/
def ClusterNode.arena (node : ClusterNode) (addr : UInt64) : ArenaRuntime where
  nodeCount := node.nodeCount
  localIdx := node.localIdx
  slots := fun _ => ⟨addr, UInt64.ofNat node.regionLen⟩
  arenaBase := node.arenaBase
  arenaNext := node.arenaNext
  arenaHighWater := node.arenaHighWater

/-- On a node with its region this is the allocation that publications use. -/
theorem payloadAlloc_arena (node : ClusterNode) {addr : UInt64} (haddr : addr ≠ 0)
    (bytes align : UInt64) :
    (node.arena addr).payloadAlloc bytes align =
      ((payloadArenaAlloc node bytes align).2, (payloadArenaAlloc node bytes align).1.arena addr) := by
  have hargs : (decide ((node.arena addr).localIdx < 0) ||
      decide ((node.arena addr).localIdx ≥ (node.arena addr).nodeCount) || bytes == 0) =
      (decide (node.localIdx ≥ node.nodeCount) || bytes == 0) := by
    have hneg : ¬ ((node.localIdx : ℤ) < 0) := by omega
    simp [ClusterNode.arena, hneg]
  have hroom : ∀ (n : ClusterNode) (stop offset : UInt64),
      (decide (stop < offset) || (n.arena addr).localRegion.addr == 0 ||
        decide (stop > (n.arena addr).localRegion.len)) =
      (decide (stop < offset) || decide (stop.toNat > n.regionLen)) := by
    intro n stop offset
    have hlen : (UInt64.ofNat n.regionLen).toNat = n.regionLen :=
      UInt64.toNat_ofNat_of_lt' (n.regionLen_lt.trans (by norm_num))
    have hmapped : (addr == 0) = false := beq_eq_false_iff_ne.mpr haddr
    simp [ClusterNode.arena, ArenaRuntime.localRegion, hmapped, UInt64.lt_iff_toNat_lt, hlen]
  have hsetUp : ∀ align, (node.arena addr).setUp align = ClusterNode.arena
      (if node.arenaBase = 0 then
        { node with
          arenaBase := alignUp obmmDynamicArenaOffset align
          arenaNext := alignUp obmmDynamicArenaOffset align
          arenaHighWater := alignUp obmmDynamicArenaOffset align } else node) addr := by
    intro align
    by_cases hbase : node.arenaBase = 0
    · rw [if_pos hbase]
      exact if_pos hbase
    · rw [if_neg hbase]
      exact if_neg hbase
  unfold ArenaRuntime.payloadAlloc payloadArenaAlloc
  rw [hargs]
  split
  · rfl
  · dsimp only
    rw [hsetUp, hroom]
    unfold ArenaRuntime.defaultAlign
    generalize (if node.arenaBase = 0 then _ else node : ClusterNode) = set
    generalize (if align = 0 then 64 else align) = align
    simp only [show (set.arena addr).arenaNext = set.arenaNext from rfl]
    split <;> rfl

/-! ## Alignments -/

/-- The alignments: powers of two up to the size of the largest block. -/
def IsArenaAlign (align : UInt64) : Prop := ∃ k ≤ 21, align = UInt64.ofNat (2 ^ k)

/-- A call passes an alignment, or 0 for the default. -/
def ArenaCall.Aligned : ArenaCall → Prop
  | .payload _ align => align = 0 ∨ IsArenaAlign align
  | .kvState _ => True

/-- What is assumed of `obmm_align_up_u64`: of every offset up to `limit` it makes a multiple of the
alignment that is not below it. -/
def RoundsUp (limit : ℕ) : Prop :=
  ∀ align, IsArenaAlign align → ∀ v : UInt64, v.toNat ≤ limit →
    v.toNat ≤ (alignUp v align).toNat ∧ align.toNat ∣ (alignUp v align).toNat

lemma IsArenaAlign.toNat_eq {align : UInt64} (h : IsArenaAlign align) :
    ∃ k ≤ 21, align.toNat = 2 ^ k := by
  obtain ⟨k, hk, rfl⟩ := h
  have hlt : 2 ^ k < 2 ^ 64 := Nat.pow_lt_pow_right (by norm_num) (by omega)
  exact ⟨k, hk, UInt64.toNat_ofNat_of_lt' hlt⟩

lemma isArenaAlign_bytes (align : ArenaAlign) : IsArenaAlign align.bytes := by
  cases align with
  | cacheLine => exact ⟨6, by norm_num, by decide⟩
  | tier0 => exact ⟨18, by norm_num, by decide⟩
  | tier1 => exact ⟨19, by norm_num, by decide⟩
  | tier2 => exact ⟨20, by norm_num, by decide⟩
  | tier3 => exact ⟨21, by norm_num, by decide⟩

/-- The effective alignment of a call. -/
lemma isArenaAlign_default {align : UInt64} (h : align = 0 ∨ IsArenaAlign align) :
    IsArenaAlign (ArenaRuntime.defaultAlign align) := by
  unfold ArenaRuntime.defaultAlign
  split
  · exact isArenaAlign_bytes .cacheLine
  · rename_i hne
    exact h.resolve_left hne

/-- The arena begins at a multiple of every alignment. -/
lemma alignUp_dynamicArenaOffset {align : UInt64} (h : IsArenaAlign align) :
    alignUp obmmDynamicArenaOffset align = obmmDynamicArenaOffset := by
  have hall : ∀ k ≤ 21, alignUp obmmDynamicArenaOffset (UInt64.ofNat (2 ^ k)) =
      obmmDynamicArenaOffset := by
    decide
  obtain ⟨k, hk, rfl⟩ := h
  exact hall k hk

lemma dvd_alignUp {v align : UInt64} (h : IsArenaAlign align) :
    align.toNat ∣ (alignUp v align).toNat := by
  obtain ⟨k, hk, halign⟩ := h.toNat_eq
  have hpos : 0 < align.toNat := halign ▸ Nat.two_pow_pos k
  have hone : (1 : UInt64).toNat = 1 := rfl
  have hmask : (align - 1).toNat = 2 ^ k - 1 := by
    rw [UInt64.toNat_sub_of_le _ _ (by rw [UInt64.le_iff_toNat_le, hone]; omega), hone, halign]
  -- the mask has no bit below the alignment
  have hzero : (~~~(align - 1)).toNat % 2 ^ k = 0 := by
    have hsplit : 2 ^ 64 = 2 ^ k * 2 ^ (64 - k) := by
      rw [← pow_add]
      congr 1
      omega
    have hsub : (~~~(align - 1)).toNat = 2 ^ k * (2 ^ (64 - k) - 1) := by
      rw [UInt64.toNat_not, hmask, Nat.mul_sub, ← hsplit]
      have := Nat.two_pow_pos k
      simp only [UInt64.size]
      omega
    rw [hsub, Nat.mul_mod_right]
  rw [halign]
  refine Nat.dvd_of_mod_eq_zero ?_
  rw [alignUp, UInt64.toNat_and, Nat.and_mod_two_pow, hzero, Nat.and_zero]

/-- The code's own rounding is as assumed, in every region that leaves the largest alignment of room at
the end of the address space. -/
lemma roundsUp_of_le {limit : ℕ} (h : limit + 2 ^ 21 ≤ 2 ^ 64) : RoundsUp limit := by
  intro align halign v hv
  obtain ⟨k, hk, hpow⟩ := halign.toNat_eq
  have hle : 2 ^ k ≤ 2 ^ 21 := Nat.pow_le_pow_right (by norm_num) hk
  exact ⟨le_alignUp (hpow ▸ Nat.two_pow_pos k) (by omega), dvd_alignUp halign⟩

/-! ## One call -/

/-- A range that was handed out: aligned, in the arena and in the region, and as long as was asked. -/
structure ArenaGrant.Sound (g : ArenaGrant) (regionLen : ℕ) : Prop where
  aligned : g.align.toNat ∣ g.offset.toNat
  start_le : obmmDynamicArenaOffset.toNat ≤ g.offset.toNat
  stop_le : g.offset.toNat + g.len.toNat ≤ regionLen
  pos : 0 < g.len.toNat
  asked : match g.call with
    | .payload bytes align => g.len = bytes ∧ g.align = ArenaRuntime.defaultAlign align
    | .kvState payloadLen => payloadLen.toNat ≤ g.len.toNat ∧
        ∃ block count, kvStateBlockSpan payloadLen = some (block, count, g.len) ∧ g.align = block.bytes

/-- A reservation is a whole number of blocks and not shorter than the payload. -/
lemma kvStateBlockSpan_spec {payloadLen count reserved : UInt64} {block : ArenaAlign}
    (h : kvStateBlockSpan payloadLen = some (block, count, reserved)) :
    payloadLen.toNat ≤ reserved.toNat ∧ reserved = count * block.bytes := by
  unfold kvStateBlockSpan at h
  split at h
  · cases h
  dsimp only at h
  split at h
  · cases h
  split at h
  · cases h
  rename_i hle
  cases h
  refine ⟨?_, rfl⟩
  rwa [UInt64.lt_iff_toNat_lt, not_lt] at hle

namespace ArenaRuntime

variable {rt : ArenaRuntime} {bytes align offset : UInt64}

/-- The region's length, or the arena's offset when that is behind it. -/
def limit (rt : ArenaRuntime) : ℕ := max obmmDynamicArenaOffset.toNat rt.localRegion.len.toNat

lemma setUp_spec (halign : IsArenaAlign align) :
    (rt.setUp align).localRegion = rt.localRegion ∧ (rt.setUp align).arenaNext = rt.nextFree ∧
      (rt.setUp align).arenaBase ≠ 0 := by
  unfold setUp nextFree
  by_cases hbase : rt.arenaBase = 0
  · simp only [if_pos hbase, alignUp_dynamicArenaOffset halign]
    exact ⟨rfl, trivial, by decide⟩
  · simp only [if_neg hbase]
    exact ⟨trivial, trivial, hbase⟩

lemma nextFree_of_base (h : rt.arenaBase ≠ 0) : rt.nextFree = rt.arenaNext := if_neg h

/-- A failed allocation leaves the next free offset where it is. -/
lemma payloadAlloc_none (halign : align = 0 ∨ IsArenaAlign align)
    (h : (rt.payloadAlloc bytes align).1 = none) :
    (rt.payloadAlloc bytes align).2.nextFree = rt.nextFree ∧
      (rt.payloadAlloc bytes align).2.localRegion = rt.localRegion := by
  obtain ⟨hregion, hnext, hbase⟩ := @setUp_spec rt _ (isArenaAlign_default halign)
  unfold payloadAlloc at h ⊢
  split at h
  · rename_i hargs
    rw [if_pos hargs]
    exact ⟨rfl, rfl⟩
  · rename_i hargs
    rw [if_neg hargs]
    dsimp only at h ⊢
    split at h
    · rename_i hroom
      rw [if_pos hroom]
      exact ⟨(nextFree_of_base hbase).trans hnext, hregion⟩
    · cases h

/-- A successful allocation takes its range from the next free offset on, and moves that behind it. -/
lemma payloadAlloc_some (halign : align = 0 ∨ IsArenaAlign align) (hround : RoundsUp rt.limit)
    (hfree : rt.nextFree.toNat ≤ rt.limit) (h : (rt.payloadAlloc bytes align).1 = some offset) :
    (rt.payloadAlloc bytes align).2.localRegion = rt.localRegion ∧
    (rt.payloadAlloc bytes align).2.nextFree.toNat = offset.toNat + bytes.toNat ∧
    rt.nextFree.toNat ≤ offset.toNat ∧ (defaultAlign align).toNat ∣ offset.toNat ∧
    offset.toNat + bytes.toNat ≤ rt.localRegion.len.toNat ∧ 0 < bytes.toNat := by
  have hdefault := isArenaAlign_default halign
  obtain ⟨hregion, hnext, hbase⟩ := @setUp_spec rt _ hdefault
  obtain ⟨hle, hdvd⟩ := hround _ hdefault _ hfree
  unfold payloadAlloc at h ⊢
  split at h
  · cases h
  rename_i hargs
  rw [if_neg hargs]
  dsimp only at h ⊢
  split at h
  · cases h
  rename_i hroom
  rw [if_neg hroom]
  cases h
  simp only [Bool.or_eq_true, decide_eq_true_eq, beq_iff_eq, not_or] at hargs hroom
  obtain ⟨-, hbytes⟩ := hargs
  obtain ⟨⟨hwrap, -⟩, hlen⟩ := hroom
  rw [hnext] at hwrap hlen ⊢
  rw [hregion, gt_iff_lt, UInt64.lt_iff_toNat_lt, not_lt] at hlen
  have hstop : (alignUp rt.nextFree (defaultAlign align) + bytes).toNat =
      (alignUp rt.nextFree (defaultAlign align)).toNat + bytes.toNat := by
    rw [UInt64.lt_iff_toNat_lt, not_lt, UInt64.toNat_add] at hwrap
    rw [UInt64.toNat_add]
    have hlt := (alignUp rt.nextFree (defaultAlign align)).toNat_lt
    have hlt' := bytes.toNat_lt
    omega
  have hpos : 0 < bytes.toNat := by
    rw [Nat.pos_iff_ne_zero]
    intro hzero
    exact hbytes (UInt64.toNat_inj.mp hzero)
  refine ⟨hregion, ?_, hle, hdvd, hstop ▸ hlen, hpos⟩
  rw [nextFree_of_base (by exact hbase)]
  exact hstop

/-- **One call.**  A failed call leaves the next free offset where it is; a successful one hands out a
sound range that begins at or behind it and ends where the next free offset is now. -/
lemma alloc_spec {call : ArenaCall} (hcall : call.Aligned) (hround : RoundsUp rt.limit)
    (hstart : obmmDynamicArenaOffset.toNat ≤ rt.nextFree.toNat)
    (hfree : rt.nextFree.toNat ≤ rt.limit) :
    (rt.alloc call).2.localRegion = rt.localRegion ∧
    match (rt.alloc call).1 with
    | none => (rt.alloc call).2.nextFree = rt.nextFree
    | some g => g.Sound rt.localRegion.len.toNat ∧ rt.nextFree.toNat ≤ g.offset.toNat ∧
        (rt.alloc call).2.nextFree.toNat = g.offset.toNat + g.len.toNat := by
  cases call with
  | payload bytes align =>
      simp only [alloc]
      cases h : (rt.payloadAlloc bytes align).1 with
      | none =>
          obtain ⟨hnext, hregion⟩ := payloadAlloc_none hcall h
          exact ⟨hregion, hnext⟩
      | some offset =>
          obtain ⟨hregion, hnext, hle, hdvd, hstop, hpos⟩ :=
            payloadAlloc_some hcall hround hfree h
          exact ⟨hregion, ⟨hdvd, hstart.trans hle, hstop, hpos, rfl, rfl⟩, hle, hnext⟩
  | kvState payloadLen =>
      simp only [alloc]
      cases hspan : kvStateBlockSpan payloadLen with
      | none => exact ⟨rfl, rfl⟩
      | some span =>
          obtain ⟨block, count, reserved⟩ := span
          have hblock : block.bytes = 0 ∨ IsArenaAlign block.bytes := .inr (isArenaAlign_bytes block)
          have hne : block.bytes ≠ 0 := by
            cases block <;> decide
          dsimp only
          cases h : (rt.payloadAlloc reserved block.bytes).1 with
          | none =>
              obtain ⟨hnext, hregion⟩ := payloadAlloc_none hblock h
              exact ⟨hregion, hnext⟩
          | some offset =>
              obtain ⟨hregion, hnext, hle, hdvd, hstop, hpos⟩ :=
                payloadAlloc_some hblock hround hfree h
              rw [defaultAlign, if_neg hne] at hdvd
              exact ⟨hregion, ⟨hdvd, hstart.trans hle, hstop, hpos,
                (kvStateBlockSpan_spec hspan).1, block, count, hspan, rfl⟩, hle, hnext⟩

/-! ## Every run -/

/-- The invariant: what was handed out lies in front of the next free offset, one range behind the
other. -/
structure Laid (rt : ArenaRuntime) (grants : List ArenaGrant) (regionLen : ℕ) : Prop where
  region : rt.localRegion.len.toNat = regionLen
  start_le : obmmDynamicArenaOffset.toNat ≤ rt.nextFree.toNat
  free_le : rt.nextFree.toNat ≤ rt.limit
  sound : ∀ g ∈ grants, g.Sound regionLen
  behind : ∀ g ∈ grants, g.offset.toNat + g.len.toNat ≤ rt.nextFree.toNat
  apart : grants.Pairwise fun g g' =>
    Apart g.offset.toNat g.len.toNat g'.offset.toNat g'.len.toNat

/-- The step lemma. -/
lemma Laid.serve {grants : List ArenaGrant} {regionLen : ℕ} (h : rt.Laid grants regionLen)
    (hround : RoundsUp rt.limit) {call : ArenaCall} (hcall : call.Aligned) :
    (ArenaRuntime.serve (rt, grants) call).1.Laid (ArenaRuntime.serve (rt, grants) call).2 regionLen ∧
      (ArenaRuntime.serve (rt, grants) call).1.limit = rt.limit := by
  obtain ⟨hregion, hresult⟩ := alloc_spec hcall hround h.start_le h.free_le
  have hlimit : (rt.alloc call).2.limit = rt.limit := by
    rw [limit, limit, hregion]
  unfold ArenaRuntime.serve
  dsimp only
  refine ⟨?_, hlimit⟩
  cases hg : (rt.alloc call).1 with
  | none =>
      rw [hg] at hresult
      have hnext : (rt.alloc call).2.nextFree = rt.nextFree := hresult
      rw [Option.toList_none, List.append_nil]
      exact ⟨hregion ▸ h.region, hnext ▸ h.start_le, by rw [hnext, hlimit]; exact h.free_le, h.sound,
        fun g hmem => hnext ▸ h.behind g hmem, h.apart⟩
  | some g =>
      rw [hg] at hresult
      obtain ⟨hsound, hle, hnext⟩ := hresult
      rw [h.region] at hsound
      have hstop := hsound.stop_le
      have hbase := hsound.start_le
      have hregionLen := h.region
      rw [Option.toList_some]
      constructor
      case region => rw [hregion, h.region]
      case start_le => omega
      case free_le =>
        rw [hlimit, hnext, limit, h.region]
        omega
      case sound =>
        intro g' hmem
        rcases List.mem_append.mp hmem with hmem | hmem
        · exact h.sound g' hmem
        · rwa [List.mem_singleton.mp hmem]
      case behind =>
        intro g' hmem
        rcases List.mem_append.mp hmem with hmem | hmem
        · have := h.behind g' hmem
          omega
        · rw [List.mem_singleton.mp hmem, hnext]
      case apart =>
        refine List.pairwise_append.mpr ⟨h.apart, List.pairwise_singleton _ _, ?_⟩
        intro g' hmem g'' hmem'
        obtain rfl := List.mem_singleton.mp hmem'
        have := h.behind g' hmem
        exact .inl (by omega)

lemma Laid.run {grants : List ArenaGrant} {regionLen : ℕ} (h : rt.Laid grants regionLen)
    (hround : RoundsUp rt.limit) {calls : List ArenaCall} (hcalls : ∀ call ∈ calls, call.Aligned) :
    (Run.run ArenaRuntime.serve (rt, grants) calls).1.Laid
        (Run.run ArenaRuntime.serve (rt, grants) calls).2 regionLen ∧
      (Run.run ArenaRuntime.serve (rt, grants) calls).1.limit = rt.limit := by
  induction calls generalizing rt grants with
  | nil => exact ⟨h, rfl⟩
  | cons call calls ih =>
      obtain ⟨hnext, hlimit⟩ := h.serve hround (hcalls call (by simp))
      obtain ⟨hlaid, hend⟩ := ih hnext (hlimit ▸ hround) fun c hc => hcalls c (by simp [hc])
      exact ⟨hlaid, hend.trans hlimit⟩

lemma Fresh.laid (h : rt.Fresh) : rt.Laid [] rt.localRegion.len.toNat := by
  have hnext : rt.nextFree = obmmDynamicArenaOffset := by
    unfold nextFree
    rcases h with hbase | ⟨-, hnext⟩
    · rw [if_pos hbase]
    · split
      · rfl
      · exact hnext
  exact ⟨rfl, by rw [hnext], by rw [hnext, limit]; exact le_max_left _ _, by simp, by simp, .nil⟩

end ArenaRuntime

/-- **The arena hands out ranges that keep out of each other's way.**  Take any runtime whose arena is
fresh, any calls of any sizes with the alignments the callers pass, and suppose that the alignment helper
rounds up in this region.  The ranges of the calls that succeeded are pairwise disjoint; each of them is
aligned, begins in the arena, ends inside the region and is as long as was asked, a key-value state's
reservation not shorter than its payload; and a further call that fails leaves the next free offset where
it is. -/
theorem arena_grants {rt : ArenaRuntime} (hfresh : rt.Fresh) (hround : RoundsUp rt.limit)
    {calls : List ArenaCall} (hcalls : ∀ call ∈ calls, call.Aligned) :
    let s := Run.run ArenaRuntime.serve (rt, []) calls
    (s.2.Pairwise fun g g' => Apart g.offset.toNat g.len.toNat g'.offset.toNat g'.len.toNat) ∧
    (∀ g ∈ s.2, g.Sound rt.localRegion.len.toNat) ∧
    ∀ call, call.Aligned → (s.1.alloc call).1 = none → (s.1.alloc call).2.nextFree = s.1.nextFree := by
  intro s
  obtain ⟨hlaid, hlimit⟩ := hfresh.laid.run hround hcalls
  refine ⟨hlaid.apart, hlaid.sound, fun call hcall hnone => ?_⟩
  have hspec := (ArenaRuntime.alloc_spec hcall (hlimit ▸ hround) hlaid.start_le hlaid.free_le).2
  rwa [hnone] at hspec

/-- A runtime after a reset, with a region of four MiB. -/
def ArenaRuntime.afterReset : ArenaRuntime where
  nodeCount := 1
  localIdx := 0
  slots := fun _ => ⟨4096, 0x400000⟩
  arenaBase := 0
  arenaNext := 0
  arenaHighWater := 0

/-- Three allocations, of which the last one finds no room. -/
theorem arena_grants_four_mib :
    let s := Run.run ArenaRuntime.serve (ArenaRuntime.afterReset, [])
      [.payload 100 0, .kvState 5, .kvState 0x200000]
    (s.2.Pairwise fun g g' => Apart g.offset.toNat g.len.toNat g'.offset.toNat g'.len.toNat) ∧
    s.2.map (·.offset) = [0x200000, 0x240000] :=
  ⟨(@arena_grants ArenaRuntime.afterReset (.inl rfl) (roundsUp_of_le (by decide))
    [.payload 100 0, .kvState 5, .kvState 0x200000] (by
      intro call hcall
      simp only [List.mem_cons, List.not_mem_nil, or_false] at hcall
      rcases hcall with rfl | rfl | rfl
      · exact .inl rfl
      · trivial
      · trivial)).1, by decide +kernel⟩

end MemService
