import MemService.SpmcStream

/-!
# What the provider of a stream gives back

`obmm_spmc_reclaim_payloads` goes over the descriptors that every consumer has read, in the order they were
published, and moves the end of what is given back of the provider's arena behind their payloads.  It reads
the descriptors from the ring, so it has to come before a later publish takes their slots: at most `depth`
descriptors may have been published since the last one it went over.

`spmc_reclaim` says of every run that only descriptors of all consumers are gone over, and, of the runs whose
reclaims are in time, that what is given back reaches exactly to the end of their payloads.
-/

namespace MemService

namespace SpmcState

/-! ## Ends of payloads -/

/-- Where the payload of a descriptor ends in the provider's arena. -/
def payloadEnd (v : SpmcStreamView) (d : Desc) : ℕ :=
  if spmcProviderPayload v d = some true then d.payloadOffset.toNat + d.payloadLen.toNat else 0

/-- Where the last of the payloads ends. -/
def lastEnd (v : SpmcStreamView) (ds : List Desc) : ℕ := (ds.map (payloadEnd v)).foldl max 0

lemma lastEnd_concat (v : SpmcStreamView) (ds : List Desc) (d : Desc) :
    lastEnd v (ds ++ [d]) = max (lastEnd v ds) (payloadEnd v d) := by
  rw [lastEnd, List.map_append, List.foldl_append]
  rfl

/-- A payload that was found lies in its region. -/
lemma toNat_payloadEnd {v : SpmcStreamView} {d : Desc} (h : spmcProviderPayload v d = some true) :
    (d.payloadOffset + d.payloadLen.toUInt64).toNat = payloadEnd v d := by
  rw [payloadEnd, if_pos h]
  unfold spmcProviderPayload at h
  cases hfind : v.dir.find? fun e => e.regionId == d.regionId with
  | none =>
    rw [hfind] at h
    cases h
  | some e =>
    rw [hfind] at h
    dsimp only at h
    split_ifs at h with hregion hlen hrange
    · cases h
    · obtain ⟨hoff, hend⟩ := not_or.mp hrange
      rw [gt_iff_lt, UInt64.lt_iff_toNat_lt, not_lt] at hoff hend
      rw [UInt64.toNat_sub_of_le _ _ (UInt64.le_iff_toNat_le.mpr hoff), UInt32.toNat_toUInt64] at hend
      have hsize := e.size.toNat_lt
      rw [UInt64.toNat_add, UInt32.toNat_toUInt64, Nat.mod_eq_of_lt (by omega)]

/-! ## The loop -/

/-- The descriptors `published` have been gone over up to where the provider has come. -/
def GoneOver (v : SpmcStreamView) (published : List Desc) (st : SpmcTxReclaimState) : Prop :=
  st.txReclaimOffset.toNat = lastEnd v (published.take st.descReclaimedTo.toNat)

section Loop

variable {v : SpmcStreamView} {stream : SpmcStream} {published : List Desc} {b n : ℕ}
  {st : SpmcTxReclaimState}

/-- The loop goes forward, and not further than it is told. -/
lemma reclaimPayloads_le (hn : st.descReclaimedTo.toNat + n < 2 ^ 64) :
    st.descReclaimedTo.toNat ≤ (reclaimPayloads v stream n st).descReclaimedTo.toNat ∧
      (reclaimPayloads v stream n st).descReclaimedTo.toNat ≤ st.descReclaimedTo.toNat + n := by
  induction n generalizing st with
  | zero => exact ⟨le_rfl, le_rfl⟩
  | succ n ih =>
    have hone : (st.descReclaimedTo + 1).toNat = st.descReclaimedTo.toNat + 1 := by
      rw [UInt64.toNat_add, UInt64.toNat_one, Nat.mod_eq_of_lt (by omega)]
    have hnext (offset : UInt64) := @ih ⟨st.descReclaimedTo + 1, offset⟩ (by dsimp only; omega)
    dsimp only at hnext
    rw [hone] at hnext
    rw [reclaimPayloads.eq_def]
    dsimp only
    split
    · exact ⟨le_rfl, Nat.le_add_right _ _⟩
    · obtain ⟨h₁, h₂⟩ := hnext st.txReclaimOffset
      omega
    · obtain ⟨h₁, h₂⟩ := hnext _
      exact ⟨(Nat.le_succ _).trans h₁, h₂.trans (by omega)⟩

/-- The loop goes over the descriptors that were published, as long as they are in the ring. -/
lemma GoneOver.reclaimPayloads (h : GoneOver v published st) (hdepth : RingDepth stream.depth stream.mask b)
    (hkeeps : Ring.Keeps stream.ring stream.depth.toNat (published.map Desc.words)
      st.descReclaimedTo.toNat)
    (hn : st.descReclaimedTo.toNat + n ≤ published.length) (hP : published.length < 2 ^ 64) :
    GoneOver v published (reclaimPayloads v stream n st) := by
  induction n generalizing st with
  | zero => exact h
  | succ n ih =>
    have hlt : st.descReclaimedTo.toNat < published.length := by omega
    have hone : (st.descReclaimedTo + 1).toNat = st.descReclaimedTo.toNat + 1 := by
      rw [UInt64.toNat_add, UInt64.toNat_one, Nat.mod_eq_of_lt (by omega)]
    have hslot : stream.ring (st.descReclaimedTo &&& stream.mask.toUInt64).toNat =
        published[st.descReclaimedTo.toNat].words := by
      have hget := hkeeps st.descReclaimedTo.toNat (by simpa using hlt) le_rfl
      rw [List.getElem_map] at hget
      rw [← hget, ← slot64 hdepth, UInt64.ofNat_toNat]
    -- one round: the descriptor read is the next one published
    have hround {offset : UInt64} (hoffset : offset.toNat =
        max st.txReclaimOffset.toNat (payloadEnd v published[st.descReclaimedTo.toNat])) :
        GoneOver v published (SpmcState.reclaimPayloads v stream n ⟨st.descReclaimedTo + 1, offset⟩) := by
      apply ih
      · rw [GoneOver] at h ⊢
        dsimp only
        rw [hoffset, hone, h, List.take_add_one, List.getElem?_eq_getElem hlt]
        exact (lastEnd_concat _ _ _).symm
      · dsimp only
        rw [hone]
        exact hkeeps.mono (Nat.le_succ _)
      · dsimp only
        omega
    rw [SpmcState.reclaimPayloads.eq_def]
    dsimp only
    rw [hslot, Desc.ofWords_words]
    split
    · exact h
    · rename_i hpay
      apply hround
      rw [payloadEnd, if_neg (by simp [hpay]), Nat.max_zero]
    · rename_i hpay
      apply hround
      have hend := toNat_payloadEnd hpay
      split_ifs with hgt
      · rw [gt_iff_lt, UInt64.lt_iff_toNat_lt] at hgt
        rw [hend] at hgt ⊢
        omega
      · rw [gt_iff_lt, UInt64.lt_iff_toNat_lt, hend] at hgt
        omega

end Loop

/-! ## Runs -/

/-- The ring holds the last `depth` descriptors, but for the one whose slot a publish is writing to. -/
def Recent (s : SpmcState) : Prop :=
  match s.providing with
  | .copying _ _ _ =>
      Ring.Keeps s.stream.ring s.stream.depth.toNat (s.published.map Desc.words)
        (s.published.length + 1 - s.stream.depth.toNat)
  | _ =>
      Ring.Keeps s.stream.ring s.stream.depth.toNat (s.published.map Desc.words)
        (s.published.length - s.stream.depth.toNat)

/-- What the provider has gone over. -/
structure Reclaimed (ids : List ℕ) (s : SpmcState) : Prop where
  recent : s.Recent
  le_published : s.reclaim.descReclaimedTo.toNat ≤ s.published.length
  le_consumed : ∀ i ∈ ids, s.reclaim.descReclaimedTo.toNat ≤ (s.consumed i).length

/-- A reclaim comes before the slots of what it goes over are written again. -/
def InTime (s : SpmcState) (m : SpmcMove) : Prop :=
  match m, s.providing with
  | .provider, .reclaiming _ [] =>
      s.published.length ≤ s.reclaim.descReclaimedTo.toNat + s.stream.depth.toNat
  | _, _ => True

section Steps

variable {ids : List ℕ} {s s' : SpmcState}

lemma Reclaimed.of_consumer (h : s.Reclaimed ids) (hf : ConsumerFrame s s') : s'.Reclaimed ids where
  recent := by
    have hrecent := h.recent
    rw [Recent] at hrecent ⊢
    rwa [hf.providing, hf.ring, hf.depth, hf.published]
  le_published := by
    rw [hf.reclaim, hf.published]
    exact h.le_published
  le_consumed i hi := by
    rw [hf.reclaim]
    exact (h.le_consumed i hi).trans (hf.consumed i).length_le

/-- The provider copies a word, or stores the counter behind the last one. -/
lemma Reclaimed.provider_copying (h : s.Reclaimed ids) (hs : s.Sound ids) {d : Desc} {tail : UInt64}
    {done : ℕ} (hp : s.providing = .copying d tail done) : s.stepProvider.Reclaimed ids := by
  have hrecent := h.recent
  rw [Recent, hp] at hrecent
  obtain ⟨htail, -, hwords⟩ : tail = s.stream.tail ∧
      (∀ i ∈ ids, s.published.length < (s.consumed i).length + s.stream.depth.toNat) ∧
      Ring.Copied done (s.stream.ring (s.published.length % s.stream.depth.toNat)) d.words := by
    have := hs.providing
    rwa [ProvidingOk.eq_def, hp] at this
  rw [stepProvider, hp]
  dsimp only
  split_ifs with hdone
  · rw [htail, hs.tail_slot]
    refine { h with recent := ?_ }
    apply hrecent.of_eq_off
    · rw [List.length_map]
      obtain ⟨b, hb⟩ := hs.depth
      have hpos := hb.size ▸ Nat.two_pow_pos b
      omega
    · intro k hk
      rw [List.length_map] at hk
      exact Function.update_of_ne hk _ _
  · refine { h with recent := ?_, le_published := ?_ }
    · rw [Recent]
      dsimp only
      rw [List.map_append, List.length_append, List.length_singleton]
      apply hrecent.append
      rw [List.length_map, hwords.eq hdone]
    · dsimp only
      rw [List.length_append]
      exact h.le_published.trans (Nat.le_add_right _ _)

/-- The provider goes over what all consumers have read. -/
lemma Reclaimed.provider_reclaiming (h : s.Reclaimed ids) (hs : s.Sound ids)
    (hP : s.published.length < 2 ^ 64) {minHead : UInt64} (hp : s.providing = .reclaiming minHead []) :
    s.stepProvider.Reclaimed ids := by
  have hrecent := h.recent
  rw [Recent, hp] at hrecent
  have hscan : Scanned ids s.published s.consumed minHead [] := by
    have := hs.providing
    rwa [ProvidingOk.eq_def, hp] at this
  have hle := h.le_published
  have hmin := hscan.le_published
  obtain ⟨-, hto⟩ := @reclaimPayloads_le s.view s.stream
    (minHead.toNat - s.reclaim.descReclaimedTo.toNat) s.reclaim (by omega)
  rw [stepProvider, hp]
  refine ⟨hrecent, ?_, ?_⟩
  · dsimp only
    omega
  · intro i hi
    have := h.le_consumed i hi
    have := hscan.le_consumed i hi List.not_mem_nil
    dsimp only
    omega

/-- A step of the provider that only takes a call further. -/
lemma Reclaimed.of_providing (h : s.Reclaimed ids) {providing : Providing}
    {answers : List PublishAnswer} (hp : ∀ d tail done, s.providing ≠ .copying d tail done) :
    Reclaimed ids { s with providing := providing, answers := answers } := by
  have hrecent : Ring.Keeps s.stream.ring s.stream.depth.toNat (s.published.map Desc.words)
      (s.published.length - s.stream.depth.toNat) := by
    have hr := h.recent
    rw [Recent.eq_def] at hr
    cases hpr : s.providing with
    | copying d tail done => exact absurd hpr (hp d tail done)
    | _ => rwa [hpr] at hr
  refine { h with recent := ?_ }
  rw [Recent.eq_def]
  cases providing with
  | copying d tail done =>
    apply hrecent.mono
    dsimp only
    omega
  | _ => exact hrecent

lemma Reclaimed.stepProvider (h : s.Reclaimed ids) (hs : s.Sound ids)
    (hP : s.published.length < 2 ^ 64) : s.stepProvider.Reclaimed ids := by
  cases hp : s.providing with
  | idle => rwa [SpmcState.stepProvider, hp]
  | scanning d tail minHead left =>
    have hother : ∀ d tail done, s.providing ≠ .copying d tail done := by simp [hp]
    rw [SpmcState.stepProvider.eq_def, hp]
    cases left with
    | nil =>
      dsimp only
      split_ifs
      · exact h.of_providing hother
      · cases spmcProviderPayload s.view d with
        | none => exact h.of_providing hother
        | some inArena => exact h.of_providing hother
    | cons i left => dsimp only; split_ifs <;> exact h.of_providing hother
  | scanHead d tail minHead i left =>
    rw [SpmcState.stepProvider, hp]
    exact h.of_providing (by simp [hp])
  | copying d tail done => exact h.provider_copying hs hp
  | reclaiming minHead left =>
    cases left with
    | nil => exact h.provider_reclaiming hs hP hp
    | cons i left =>
      have hother : ∀ d tail done, s.providing ≠ .copying d tail done := by simp [hp]
      rw [SpmcState.stepProvider, hp]
      dsimp only
      split_ifs <;> exact h.of_providing hother
  | reclaimHead minHead i left =>
    rw [SpmcState.stepProvider, hp]
    exact h.of_providing (by simp [hp])

/-- Every access keeps what was gone over in bounds. -/
lemma Reclaimed.step (h : s.Reclaimed ids) (hs : s.Sound ids) (hP : s.published.length < 2 ^ 64)
    (m : SpmcMove) : (s.step m).Reclaimed ids := by
  cases m with
  | publish d =>
    rw [SpmcState.step]
    cases hp : s.providing with
    | idle => dsimp only; split_ifs <;> exact h.of_providing (by simp [hp])
    | _ => exact h
  | reclaim =>
    rw [SpmcState.step]
    cases hp : s.providing with
    | idle => exact h.of_providing (by simp [hp])
    | _ => exact h
  | provider => exact h.stepProvider hs hP
  | consume i => exact h.of_consumer (s.frame_consume i)
  | consumer i => exact h.of_consumer (s.frame_consumer i)

/-- Only the last access of a reclaim goes over descriptors. -/
lemma reclaim_step (s : SpmcState) (m : SpmcMove) :
    (s.step m).reclaim = s.reclaim ∨
      m = .provider ∧ ∃ minHead, s.providing = .reclaiming minHead [] ∧
        (s.step m).published = s.published ∧
        (s.step m).reclaim = reclaimPayloads s.view s.stream
          (minHead.toNat - s.reclaim.descReclaimedTo.toNat) s.reclaim := by
  cases m with
  | publish d =>
    rw [SpmcState.step]
    cases s.providing with
    | idle => dsimp only; split_ifs <;> exact .inl rfl
    | _ => exact .inl rfl
  | reclaim =>
    rw [SpmcState.step]
    cases s.providing with
    | idle => exact .inl rfl
    | _ => exact .inl rfl
  | provider =>
    rw [SpmcState.step, SpmcState.stepProvider.eq_def]
    cases hp : s.providing with
    | idle => exact .inl rfl
    | scanning d tail minHead left =>
      cases left with
      | nil =>
        dsimp only
        split_ifs
        · exact .inl rfl
        · cases spmcProviderPayload s.view d with
          | none => exact .inl rfl
          | some inArena => exact .inl rfl
      | cons i left => dsimp only; split_ifs <;> exact .inl rfl
    | scanHead d tail minHead i left => exact .inl rfl
    | copying d tail done => dsimp only; split_ifs <;> exact .inl rfl
    | reclaiming minHead left =>
      cases left with
      | nil => exact .inr ⟨rfl, minHead, rfl, rfl, rfl⟩
      | cons i left => dsimp only; split_ifs <;> exact .inl rfl
    | reclaimHead minHead i left => exact .inl rfl
  | consume i => exact .inl (s.frame_consume i).reclaim
  | consumer i => exact .inl (s.frame_consumer i).reclaim

/-- What is published later changes nothing of what was gone over. -/
lemma GoneOver.of_prefix {v : SpmcStreamView} {published published' : List Desc}
    {st : SpmcTxReclaimState} (h : GoneOver v published st)
    (hle : st.descReclaimedTo.toNat ≤ published.length) (hpre : published <+: published') :
    GoneOver v published' st := by
  obtain ⟨rest, rfl⟩ := hpre
  rw [GoneOver] at h ⊢
  rwa [List.take_append_of_le_length hle]

/-- A step of a run whose reclaims are in time. -/
lemma GoneOver.step (h : GoneOver s.view s.published s.reclaim) (hr : s.Reclaimed ids)
    (hs : s.Sound ids) (hP : s.published.length < 2 ^ 64) {m : SpmcMove} (htime : InTime s m) :
    GoneOver s.view (s.step m).published (s.step m).reclaim := by
  rcases s.reclaim_step m with heq | ⟨rfl, minHead, hp, hpublished, heq⟩
  · rw [heq]
    exact h.of_prefix hr.le_published (s.frame_step m).published
  · rw [InTime.eq_def, hp] at htime
    have hscan : Scanned ids s.published s.consumed minHead [] := by
      have := hs.providing
      rwa [ProvidingOk.eq_def, hp] at this
    have hrecent := hr.recent
    rw [Recent, hp] at hrecent
    have hle := hr.le_published
    have hmin := hscan.le_published
    obtain ⟨b, hb⟩ := hs.depth
    rw [hpublished, heq]
    exact h.reclaimPayloads hb (hrecent.mono (by omega)) (by omega) hP

end Steps

/-- **What is given back.**  In every run of a stream with fewer than 2⁶⁴ publishes the provider has gone
over descriptors only that every consumer of the mask has consumed; and if all reclaims were in time, what it
has given back reaches to the end of their payloads in its arena and not further. -/
theorem spmc_reclaim {depth maxConsumers providerNode : UInt32} {consumerMask : UInt64}
    {stream : SpmcStream} (h : spmcStreamInit depth maxConsumers providerNode consumerMask = some stream)
    (view : SpmcStreamView) (moves : List SpmcMove) :
    let s := Run.run step (start view stream) moves
    s.published.length < 2 ^ 64 →
      (∀ i ∈ nodeIds consumerMask, s.reclaim.descReclaimedTo.toNat ≤ (s.consumed i).length) ∧
        (Run.Along step InTime (start view stream) moves →
          s.reclaim.txReclaimOffset.toNat =
            lastEnd view (s.published.take s.reclaim.descReclaimedTo.toNat)) := by
  intro s hP
  have hstart : (start view stream).Reclaimed (nodeIds consumerMask) :=
    ⟨Ring.keeps_nil _ _ _, Nat.zero_le _, fun _ _ => Nat.zero_le _⟩
  have hrun : s.published.length < 2 ^ 64 →
      s.Sound (nodeIds consumerMask) ∧ s.Reclaimed (nodeIds consumerMask) := by
    apply Run.invariant (I := fun t : SpmcState => t.published.length < 2 ^ 64 →
      t.Sound (nodeIds consumerMask) ∧ t.Reclaimed (nodeIds consumerMask))
    · intro t m ht hlt
      have hlt' := (t.frame_step m).published.length_le.trans_lt hlt
      obtain ⟨hs, hr⟩ := ht hlt'
      exact ⟨hs.step hlt' m, hr.step hs hlt' m⟩
    · exact fun _ => ⟨sound_start h view, hstart⟩
  refine ⟨(hrun hP).2.le_consumed, ?_⟩
  intro htime
  have hall := htime.invariant
    (I := fun t : SpmcState => t.published.length < 2 ^ 64 → t.Sound (nodeIds consumerMask) ∧
      t.Reclaimed (nodeIds consumerMask) ∧ t.view = view ∧ GoneOver view t.published t.reclaim)
    (fun _ => ⟨sound_start h view, hstart, rfl, rfl⟩) ?_ moves.length
  · rw [List.take_length] at hall
    exact (hall hP).2.2.2
  · intro t m ht hin hlt
    have hlt' := (t.frame_step m).published.length_le.trans_lt hlt
    obtain ⟨hs, hr, hv, hg⟩ := ht hlt'
    refine ⟨hs.step hlt' m, hr.step hs hlt' m, (t.frame_step m).view.trans hv, ?_⟩
    rw [← hv] at hg ⊢
    exact hg.step hr hs hlt' hin

/-- A ring in which no slot was written twice has every descriptor still. -/
lemma along_inTime {s : SpmcState} {moves : List SpmcMove}
    (h : (Run.run step s moves).published.length ≤ s.stream.depth.toNat) :
    Run.Along step InTime s moves := by
  induction moves generalizing s with
  | nil => trivial
  | cons m moves ih =>
    have hframe := s.frame_step m
    have hgrown : (s.step m).published.length ≤ (Run.run step s (m :: moves)).published.length := by
      apply Run.invariant (I := fun t : SpmcState => (s.step m).published.length ≤ t.published.length)
        (fun t m ht => ?_) (le_refl (s.step m).published.length)
      exact ht.trans (t.frame_step m).published.length_le
    have hdepth : (s.step m).stream.depth = s.stream.depth :=
      (SpmcStream.of_header hframe.header).1
    constructor
    · rw [InTime.eq_def]
      split
      · have := hframe.published.length_le
        omega
      · trivial
    · apply ih
      rw [hdepth]
      exact h

/-- Both consumers read two descriptors, the payload of the second one below that of the first. -/
def bothRead : List SpmcMove :=
  let reads (i : ℕ) : List SpmcMove := .consume i :: List.replicate 6 (.consumer i)
  .publish { seq := 9, regionId := 5, payloadOffset := 64, payloadLen := 100 } ::
    List.replicate 10 .provider ++
    .publish { seq := 10, regionId := 5, payloadLen := 10 } :: List.replicate 10 .provider ++
    reads 0 ++ reads 1 ++ reads 1 ++ reads 0 ++ .reclaim :: List.replicate 5 .provider

/-- The offset given back is that of the first payload, which ends behind the second. -/
theorem spmc_reclaim_of_twoReaders :
    let s := Run.run step (start arenaView twoReaders) bothRead
    s.reclaim.descReclaimedTo = 2 ∧ s.reclaim.txReclaimOffset = 164 ∧
      (∀ i ∈ nodeIds 3, s.reclaim.descReclaimedTo.toNat ≤ (s.consumed i).length) ∧
      s.reclaim.txReclaimOffset.toNat =
        lastEnd arenaView (s.published.take s.reclaim.descReclaimedTo.toNat) := by
  intro s
  have hP : s.published.length < 2 ^ 64 := by decide +kernel
  have htime : Run.Along step InTime (start arenaView twoReaders) bothRead :=
    along_inTime (by decide +kernel)
  obtain ⟨hconsumed, hgiven⟩ := spmc_reclaim init_twoReaders arenaView bothRead hP
  exact ⟨by decide +kernel, by decide +kernel, hconsumed, hgiven htime⟩

end SpmcState

end MemService
