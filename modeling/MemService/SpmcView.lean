import MemService.SpmcReclaim

/-!
# Where a stream lies in its pool

The provider sets a stream up in a region of its pool, and everybody who uses it finds the region in the
directory and checks what lies there: `obmm_spmc_view_init_from_directory`.

`spmcViewInit_inside` says what an accepted header promises: the cursors of all consumers and all slots of
the ring lie in the region, one behind the other.  `spmcViewInit_accepts` is the way back: at every moment of
every run, a stream that was set up in a region of `spmcRegionSize` bytes is accepted, and the cursors and
slots that its users address are those.
-/

namespace MemService

/-- `obmm_spmc_region_size`. -/
def spmcRegionSize (depth maxConsumers : UInt32) : UInt64 :=
  let cursorOff := alignUp 128 64
  let descOff := alignUp (cursorOff + maxConsumers.toUInt64 * 64) 64
  descOff + depth.toUInt64 * 32

/-- The checks of a header that was found in a region of `size` bytes. -/
def spmcHeaderValid (s : SpmcStream) (size : UInt64) (providerNode : UInt32) : Bool :=
  s.magic == spmcMagic && s.version == spmcVersion && s.providerNode == providerNode &&
    !(s.maxConsumers == 0 || decide (s.maxConsumers > spmcMaxConsumers)) &&
    !(decide (s.depth < queueMinDepth) || decide (s.depth > queueMaxDepth)) &&
    s.depth &&& (s.depth - 1) == 0 &&
    !(decide (s.cursorOffset < 128) || s.cursorOffset &&& 63 != 0) &&
    !(decide (s.descOffset < s.cursorOffset) || s.descOffset &&& 63 != 0) &&
    !decide ((s.descOffset - s.cursorOffset).toUInt64 < s.maxConsumers.toUInt64 * 64) &&
    !(decide (s.descOffset.toUInt64 > size) ||
      decide (s.depth.toUInt64 * 32 > size - s.descOffset.toUInt64))

/-- `obmm_spmc_view_init_from_directory`, with the place of the stream; `streamAt` is what lies in the
pool. -/
def spmcViewInit (poolSize : UInt64) (dir : List RegionDirent) (providerNode : UInt32)
    (streamAt : UInt64 → SpmcStream) : Except DirectoryError (SpmcStreamView × UInt64) :=
  match dir.filter fun e => e.kind == regionSpmcStream with
  | [] => .error .noEntry
  | _ :: _ :: _ => .error .exist
  | [e] =>
      if e.offset > poolSize ∨ e.size > poolSize - e.offset then .error .invalid
      else if e.size < 128 then .error .invalid
      else if spmcHeaderValid (streamAt e.offset) e.size providerNode then
        .ok (⟨poolSize, dir, providerNode⟩, e.offset)
      else .error .invalid

/-- The bytes of a cursor, from the beginning of the stream. -/
def cursorPlace (s : SpmcStream) (i : ℕ) : ℕ × ℕ := (s.cursorOffset.toNat + i * 64, 64)

/-- The bytes of a slot of the ring. -/
def slotPlace (s : SpmcStream) (k : ℕ) : ℕ × ℕ := (s.descOffset.toNat + k * 32, 32)

/-- A region of `size` bytes holds the header, behind it the cursors, and behind them the ring. -/
structure Holds (s : SpmcStream) (size : ℕ) : Prop where
  header : 128 ≤ s.cursorOffset.toNat
  cursors : ∀ i < s.maxConsumers.toNat,
    s.cursorOffset.toNat ≤ (cursorPlace s i).1 ∧
      (cursorPlace s i).1 + (cursorPlace s i).2 ≤ s.descOffset.toNat
  slots : ∀ k < s.depth.toNat,
    s.descOffset.toNat ≤ (slotPlace s k).1 ∧ (slotPlace s k).1 + (slotPlace s k).2 ≤ size
  aligned : 64 ∣ s.cursorOffset.toNat ∧ 64 ∣ s.descOffset.toNat

lemma dvd_of_and_63 {v : UInt32} (h : v &&& 63 = 0) : 64 ∣ v.toNat := by
  have hand : v.toNat &&& 63 = 0 := by
    have := congrArg UInt32.toNat h
    rwa [UInt32.toNat_and] at this
  rw [show 63 = 2 ^ 6 - 1 by rfl, Nat.and_two_pow_sub_one_eq_mod] at hand
  exact Nat.dvd_of_mod_eq_zero hand

lemma toNat_mul_small (v : UInt32) {c : UInt64} (hc : c.toNat ≤ 64) :
    (v.toUInt64 * c).toNat = v.toNat * c.toNat := by
  have hv := v.toNat_lt
  have hle : v.toNat * c.toNat ≤ v.toNat * 64 := Nat.mul_le_mul_left _ hc
  rw [UInt64.toNat_mul, UInt32.toNat_toUInt64, Nat.mod_eq_of_lt (by omega)]

/-- What the checks of the header are good for. -/
lemma holds_of_valid {s : SpmcStream} {size : UInt64} {providerNode : UInt32}
    (h : spmcHeaderValid s size providerNode = true) :
    Holds s size.toNat ∧ s.maxConsumers.toNat ≤ 64 ∧ ∃ b, RingDepth s.depth (s.depth - 1) b := by
  simp only [spmcHeaderValid, Bool.and_eq_true, Bool.not_eq_true', Bool.or_eq_false_iff,
    decide_eq_false_iff_not, beq_iff_eq, bne_eq_false_iff_eq, beq_eq_false_iff_ne] at h
  obtain ⟨⟨⟨⟨⟨⟨⟨-, -, hmax⟩, hmin, hrange⟩, hpow⟩, hcursor, hcursor64⟩, hdesc, hdesc64⟩, hcursors⟩,
    hdescSize, hslots⟩ := h
  have hne : s.depth ≠ 0 := by
    intro h0
    rw [h0] at hmin
    exact hmin (by decide)
  have hdepth := ringDepth_of_accepted (not_or.mpr ⟨hmin, hrange⟩)
    (not_or.mpr ⟨hne, not_not.mpr hpow⟩)
  have hmul64 : (s.maxConsumers.toUInt64 * 64).toNat = s.maxConsumers.toNat * 64 :=
    toNat_mul_small _ (by decide)
  have hmul32 : (s.depth.toUInt64 * 32).toNat = s.depth.toNat * 32 := toNat_mul_small _ (by decide)
  rw [UInt32.lt_iff_toNat_lt, not_lt] at hcursor hdesc
  rw [gt_iff_lt, UInt32.lt_iff_toNat_lt, not_lt] at hmax
  rw [UInt64.lt_iff_toNat_lt, UInt32.toNat_toUInt64, UInt32.toNat_sub_of_le _ _ hdesc,
    hmul64, not_lt] at hcursors
  rw [gt_iff_lt, UInt64.lt_iff_toNat_lt, UInt32.toNat_toUInt64, not_lt] at hdescSize
  rw [gt_iff_lt, UInt64.lt_iff_toNat_lt, UInt64.toNat_sub_of_le _ _ (by
    rwa [UInt64.le_iff_toNat_le, UInt32.toNat_toUInt64]), UInt32.toNat_toUInt64,
    hmul32, not_lt] at hslots
  refine ⟨⟨hcursor, ?_, ?_, dvd_of_and_63 hcursor64, dvd_of_and_63 hdesc64⟩, hmax, hdepth⟩
  · intro i hi
    rw [cursorPlace]
    dsimp only
    omega
  · intro k hk
    rw [slotPlace]
    dsimp only
    omega

/-- **What an accepted stream promises.**  The directory has a single stream, its region lies in the pool,
and the header, the cursors and the slots of the ring lie in the region one behind the other. -/
theorem spmcViewInit_inside {poolSize : UInt64} {dir : List RegionDirent} {providerNode : UInt32}
    {streamAt : UInt64 → SpmcStream} {view : SpmcStreamView} {offset : UInt64}
    (h : spmcViewInit poolSize dir providerNode streamAt = .ok (view, offset)) :
    ∃ e ∈ dir, e.kind = regionSpmcStream ∧ e.offset = offset ∧
      (∀ e' ∈ dir, e'.kind = regionSpmcStream → e' = e) ∧
      e.offset.toNat + e.size.toNat ≤ poolSize.toNat ∧ Holds (streamAt offset) e.size.toNat := by
  unfold spmcViewInit at h
  split at h
  · cases h
  · cases h
  · rename_i e hfilter
    have hmem {e' : RegionDirent} : e' ∈ dir ∧ e'.kind = regionSpmcStream ↔ e' = e := by
      have hiff : e' ∈ dir.filter (fun e => e.kind == regionSpmcStream) ↔ e' = e := by
        rw [hfilter, List.mem_singleton]
      rwa [List.mem_filter, beq_iff_eq] at hiff
    split_ifs at h with hregion hsmall hvalid
    obtain ⟨rfl, rfl⟩ := Prod.mk.inj (Except.ok.inj h)
    obtain ⟨hoff, hend⟩ := not_or.mp hregion
    rw [gt_iff_lt, UInt64.lt_iff_toNat_lt, not_lt] at hoff hend
    rw [UInt64.toNat_sub_of_le _ _ (UInt64.le_iff_toNat_le.mpr hoff)] at hend
    obtain ⟨hin, hkind⟩ := hmem.mpr rfl
    exact ⟨e, hin, hkind, rfl, fun e' he' hk => hmem.mp ⟨he', hk⟩, by omega, (holds_of_valid hvalid).1⟩

/-! ## A stream that was set up -/

/-- The ring of a stream lies behind its cursors. -/
lemma toNat_descOff {maxConsumers : UInt32} (h : maxConsumers.toNat ≤ 64) :
    (alignUp (alignUp 128 64 + maxConsumers.toUInt64 * 64) 64).toNat =
      128 + maxConsumers.toNat * 64 := by
  have hall : ∀ k : Fin 65, (alignUp (alignUp 128 64 + (UInt32.ofNat k.val).toUInt64 * 64) 64).toNat =
      128 + k.val * 64 := by decide +kernel
  have hk := hall ⟨maxConsumers.toNat, by omega⟩
  dsimp only at hk
  rwa [UInt32.ofNat_toNat] at hk

lemma lt_of_mem_nodeIds {mask : UInt64} {i : ℕ} (h : i ∈ nodeIds mask) :
    mask ≠ 0 ∧ i ≤ mask.toNat.log2 := by
  have hbit : mask.toNat.testBit i = true := (List.mem_filter.mp h).2
  constructor
  · rintro rfl
    simp at hbit
  · by_contra hlt
    rw [Nat.testBit_lt_two_pow] at hbit
    · cases hbit
    · exact Nat.lt_log2_self.trans_le (Nat.pow_le_pow_right (by decide) (by omega))

/-- The header that `obmm_spmc_stream_init` writes is valid in a region that is large enough. -/
lemma valid_of_init {depth maxConsumers providerNode : UInt32} {consumerMask size : UInt64}
    {stream : SpmcStream} (h : spmcStreamInit depth maxConsumers providerNode consumerMask = some stream)
    (hsize : spmcRegionSize depth maxConsumers ≤ size) :
    spmcHeaderValid stream size providerNode = true ∧ 128 ≤ size ∧
      (∀ i ∈ nodeIds consumerMask, i < stream.maxConsumers.toNat) ∧
      ∃ b, RingDepth stream.depth stream.mask b := by
  unfold spmcStreamInit at h
  dsimp only at h
  split_ifs at h with hrange hpow hmax hmask
  obtain rfl := Option.some.inj h
  obtain ⟨hmax0, hmax64⟩ := not_or.mp hmax
  have hmax' : maxConsumers.toNat ≤ 64 := by
    rw [gt_iff_lt, UInt32.lt_iff_toNat_lt, not_lt] at hmax64
    exact hmax64
  obtain ⟨b, hb⟩ := ringDepth_of_accepted hrange hpow
  have hdepth := hb.size_le
  have hdesc := toNat_descOff hmax'
  have hdesc32 : (alignUp (alignUp 128 64 + maxConsumers.toUInt64 * 64) 64).toUInt32.toNat =
      128 + maxConsumers.toNat * 64 := by
    rw [UInt64.toNat_toUInt32, hdesc]
    omega
  have hcursor32 : (alignUp 128 64).toUInt32 = 128 := by decide
  have hmul64 : (maxConsumers.toUInt64 * 64).toNat = maxConsumers.toNat * 64 :=
    toNat_mul_small _ (by decide)
  have hmul32 : (depth.toUInt64 * 32).toNat = depth.toNat * 32 := toNat_mul_small _ (by decide)
  have hregion : (spmcRegionSize depth maxConsumers).toNat =
      128 + maxConsumers.toNat * 64 + depth.toNat * 32 := by
    rw [spmcRegionSize, UInt64.toNat_add, hdesc, hmul32, Nat.mod_eq_of_lt (by omega)]
  rw [UInt64.le_iff_toNat_le, hregion] at hsize
  refine ⟨?_, ?_, ?_, b, hb⟩
  · have hdescAnd : (alignUp (alignUp 128 64 + maxConsumers.toUInt64 * 64) 64).toUInt32 &&& 63 = 0 := by
      apply UInt32.toNat_inj.mp
      rw [UInt32.toNat_and, hdesc32]
      change _ &&& (2 ^ 6 - 1) = 0
      rw [Nat.and_two_pow_sub_one_eq_mod]
      omega
    have hdescLe : (128 : UInt32) ≤ (alignUp (alignUp 128 64 + maxConsumers.toUInt64 * 64) 64).toUInt32 := by
      rw [UInt32.le_iff_toNat_le, hdesc32]
      exact Nat.le_add_right _ _
    simp only [spmcHeaderValid, Bool.and_eq_true, Bool.not_eq_true', Bool.or_eq_false_iff,
      decide_eq_false_iff_not, beq_iff_eq, bne_eq_false_iff_eq, beq_eq_false_iff_ne, hcursor32]
    refine ⟨⟨⟨⟨⟨⟨⟨⟨⟨trivial, trivial⟩, trivial⟩, hmax0, hmax64⟩, not_or.mp hrange⟩, ?_⟩, by decide, by decide⟩,
      ?_, hdescAnd⟩, ?_⟩, ?_, ?_⟩
    · exact not_not.mp (not_or.mp hpow).2
    · rw [UInt32.lt_iff_toNat_lt, not_lt]
      exact UInt32.le_iff_toNat_le.mp hdescLe
    · rw [UInt64.lt_iff_toNat_lt, UInt32.toNat_toUInt64, UInt32.toNat_sub_of_le _ _ hdescLe, hdesc32,
        hmul64, not_lt]
      exact show maxConsumers.toNat * 64 ≤ 128 + maxConsumers.toNat * 64 - 128 by omega
    · rw [gt_iff_lt, UInt64.lt_iff_toNat_lt, UInt32.toNat_toUInt64, hdesc32]
      omega
    · rw [gt_iff_lt, UInt64.lt_iff_toNat_lt, hmul32, UInt64.toNat_sub_of_le, UInt32.toNat_toUInt64, hdesc32]
      · omega
      · rw [UInt64.le_iff_toNat_le, UInt32.toNat_toUInt64, hdesc32]
        omega
  · rw [UInt64.le_iff_toNat_le]
    exact show 128 ≤ size.toNat by omega
  · intro i hi
    obtain ⟨hne, hle⟩ := lt_of_mem_nodeIds hi
    have := (not_and.mp hmask) hne
    dsimp only
    omega

/-- **A stream that was set up is accepted**, at every moment of every run, if its region is the only one of
its kind, lies in the pool and is large enough; and its users address no cursor and no slot but those it has
room for. -/
theorem spmcViewInit_accepts {depth maxConsumers providerNode : UInt32} {consumerMask poolSize : UInt64}
    {stream : SpmcStream} (h : spmcStreamInit depth maxConsumers providerNode consumerMask = some stream)
    (view : SpmcStreamView) (moves : List SpmcMove) {dir : List RegionDirent} {e : RegionDirent}
    (hdir : dir.filter (fun e => e.kind == regionSpmcStream) = [e])
    (hpool : e.offset.toNat + e.size.toNat ≤ poolSize.toNat)
    (hsize : spmcRegionSize depth maxConsumers ≤ e.size) {streamAt : UInt64 → SpmcStream}
    (hat : streamAt e.offset = (Run.run SpmcState.step (SpmcState.start view stream) moves).stream) :
    spmcViewInit poolSize dir providerNode streamAt = .ok (⟨poolSize, dir, providerNode⟩, e.offset) ∧
      (∀ i ∈ nodeIds consumerMask, i < (streamAt e.offset).maxConsumers.toNat) ∧
      ∀ counter : UInt64, (counter &&& (streamAt e.offset).mask.toUInt64).toNat <
        (streamAt e.offset).depth.toNat := by
  obtain ⟨-, hheader, -⟩ := SpmcState.runs_below h view moves
  rw [← hat] at hheader
  obtain ⟨hvalid, h128, hnodes, b, hb⟩ := valid_of_init h hsize
  have hvalid' : spmcHeaderValid (streamAt e.offset) e.size providerNode = true := by
    have hboth := congrArg (fun s => spmcHeaderValid s e.size providerNode) hheader
    exact hboth.trans hvalid
  have hmaxConsumers : (streamAt e.offset).maxConsumers = stream.maxConsumers :=
    have hboth := congrArg SpmcStream.maxConsumers hheader
    hboth
  have hmask : (streamAt e.offset).mask = stream.mask :=
    have hboth := congrArg SpmcStream.mask hheader
    hboth
  refine ⟨?_, ?_, ?_⟩
  · have hoff : e.offset ≤ poolSize := by
      rw [UInt64.le_iff_toNat_le]
      omega
    unfold spmcViewInit
    rw [hdir]
    dsimp only
    rw [if_neg, if_neg, if_pos hvalid']
    · rw [UInt64.lt_iff_toNat_lt, not_lt]
      exact UInt64.le_iff_toNat_le.mp h128
    · rw [not_or, gt_iff_lt, gt_iff_lt, UInt64.lt_iff_toNat_lt, UInt64.lt_iff_toNat_lt,
        UInt64.toNat_sub_of_le _ _ hoff]
      omega
  · rw [hmaxConsumers]
    exact hnodes
  · intro counter
    rw [hmask, (SpmcStream.of_header hheader).1]
    have hslot := SpmcState.slot64 hb counter.toNat
    rw [UInt64.ofNat_toNat] at hslot
    rw [hslot]
    apply Nat.mod_lt
    rw [hb.size]
    exact Nat.two_pow_pos b

/-- The region of a stream of two consumers. -/
def twoReadersRegion : RegionDirent := ⟨8, regionSpmcStream, 7, 4096, 4096, 0⟩

/-- The directory of an arena and this region. -/
def twoReadersDirectory : List RegionDirent := [⟨5, regionTxArena, 7, 0, 4096, 0⟩, twoReadersRegion]

/-- A descriptor is published, read by one of two consumers, and not given back yet. -/
def readByOne : SpmcState :=
  Run.run SpmcState.step (SpmcState.start SpmcState.arenaView SpmcState.twoReaders)
    (.publish { seq := 9, regionId := 5, payloadLen := 100 } :: List.replicate 10 .provider ++
      .consume 0 :: List.replicate 6 (.consumer 0) ++ .reclaim :: List.replicate 5 .provider)

theorem spmcViewInit_accepts_readByOne :
    readByOne.stream.tail = 1 ∧
      spmcViewInit 8192 twoReadersDirectory 7 (fun _ => readByOne.stream) =
        .ok (⟨8192, twoReadersDirectory, 7⟩, 4096) ∧
      (∀ i ∈ nodeIds 3, i < readByOne.stream.maxConsumers.toNat) ∧
      ∀ counter : UInt64, (counter &&& readByOne.stream.mask.toUInt64).toNat <
        readByOne.stream.depth.toNat := by
  have hdir : twoReadersDirectory.filter (fun e => e.kind == regionSpmcStream) = [twoReadersRegion] := by
    rfl
  have hpool : twoReadersRegion.offset.toNat + twoReadersRegion.size.toNat ≤ (8192 : UInt64).toNat := by
    decide
  have hsize : spmcRegionSize 64 2 ≤ twoReadersRegion.size := by decide
  refine ⟨by decide +kernel, ?_⟩
  exact spmcViewInit_accepts SpmcState.init_twoReaders SpmcState.arenaView _ hdir hpool hsize rfl

end MemService
