import MemService.TcpPoll

/-!
# What a wait hands out

A wait compares a request with what is noted in a slot and hands the program no bytes: it says that the slice
of the region holds them.  `Fence` says why it does.  The slices of two slots are apart since their regions
are, and what is noted in a slot is the last transfer stored in it.

`Fenced` is what a run is asked for: besides what `Steady` asks for, the program registers no memory twice and
leaves alone what is ready and has not been taken yet.
-/

namespace MemService

namespace TcpLink

/-- An address lies in the region of a slot. -/
def InSlot (slot : TcpRegionSlot) (x : UInt64) : Prop := (x - slot.base).toNat < slot.len.toNat

/-- The server's program registers regions that are apart, writes no slice that is ready, and deregisters no
region that a transfer waits for. -/
structure Fenced (s : TcpLink) (m : TcpMove) : Prop where
  steady : s.Steady m
  register : ∀ request, m = .serverRegister request → ∀ k, (s.server.regions.slots k).inUse = true →
    ∀ x, InSlot (s.server.regions.slots k) x → ¬(x - request.base).toNat < request.len.toNat
  memory : ∀ memory, m = .serverMemory memory → ∀ k, (s.server.regions.slots k).receiveReady = true →
    readBytes memory
        ((s.server.regions.slots k).base + (s.server.regions.slots k).receiveOffset)
        (s.server.regions.slots k).receiveCompletion.transferredBytes.toNat =
      s.readyBytes k

/-- What is noted in slot `k`, and lies in its region, is a transfer stored there. -/
structure ReadyFrom (s : TcpLink) (k : ℕ) (st : TcpStored) : Prop where
  inUse : (s.server.regions.slots k).inUse = true
  slot : st.slot = k
  handle : st.handle = (s.server.regions.slots k).handle
  offset : (s.server.regions.slots k).receiveOffset = st.transfer.offset
  completion : (s.server.regions.slots k).receiveCompletion =
    ⟨st.transfer.completionId, st.status.toInt32, UInt64.ofNat st.transfer.payload.length, st.checksum⟩
  fits : st.transfer.offset.toNat + st.transfer.payload.length ≤ (s.server.regions.slots k).len.toNat
  bytes : s.readyBytes k = st.transfer.payload

/-- What was handed out is what a transfer brought, for a request that asks for it. -/
structure TakenFrom (tk : TcpTaken) (st : TcpStored) : Prop where
  bytes : tk.bytes = st.transfer.payload
  handle : st.handle = tk.request.destination.regionHandle
  offset : st.transfer.offset = tk.request.destination.offset
  len : UInt64.ofNat st.transfer.payload.length = tk.request.destination.len
  checksum : st.checksum = tk.request.expectedChecksum
  intact : st.checksum = st.transfer.checksum
  id : tk.completion.id = st.transfer.completionId

/-- **The invariant of the fence.** -/
structure Fence (s : TcpLink) : Prop where
  apart : ∀ j k, j ≠ k → (s.server.regions.slots j).inUse = true →
    (s.server.regions.slots k).inUse = true → ∀ x, InSlot (s.server.regions.slots j) x →
      ¬InSlot (s.server.regions.slots k) x
  ready : ∀ k, (s.server.regions.slots k).receiveReady = true →
    (∃ st, s.stored[s.lastStored k]? = some st ∧ s.ReadyFrom k st) ∧
      s.lastStored k ∉ s.taken.map (·.stored)
  taken : ∀ tk ∈ s.taken, ∃ st, s.stored[tk.stored]? = some st ∧ TakenFrom tk st
  once : (s.taken.map (·.stored)).Nodup

section Fence

variable {s : TcpLink}

/-- What is ready depends on its slot and the bytes. -/
lemma ReadyFrom.congr {k : ℕ} {st : TcpStored} (h : s.ReadyFrom k st) {s' : TcpLink}
    (hslot : s'.server.regions.slots k = s.server.regions.slots k)
    (hbytes : s'.readyBytes k = s.readyBytes k) : s'.ReadyFrom k st where
  inUse := hslot ▸ h.inUse
  slot := h.slot
  handle := hslot ▸ h.handle
  offset := hslot ▸ h.offset
  completion := hslot ▸ h.completion
  fits := hslot ▸ h.fits
  bytes := hbytes.trans h.bytes

/-- Nothing is stored or taken, and no slot becomes ready. -/
lemma Fence.of_slots (h : s.Fence) {s' : TcpLink} (hstored : s'.stored = s.stored) (htaken : s'.taken = s.taken)
    (hlast : s'.lastStored = s.lastStored)
    (hapart : ∀ j k, j ≠ k → (s'.server.regions.slots j).inUse = true →
      (s'.server.regions.slots k).inUse = true → ∀ x, InSlot (s'.server.regions.slots j) x →
        ¬InSlot (s'.server.regions.slots k) x)
    (hslots : ∀ j, (s'.server.regions.slots j).receiveReady = true →
      s'.server.regions.slots j = s.server.regions.slots j ∧ s'.readyBytes j = s.readyBytes j) : s'.Fence where
  apart := hapart
  ready := by
    intro j hj
    obtain ⟨hslot, hbytes⟩ := hslots j hj
    rw [hslot] at hj
    obtain ⟨⟨st, hst, hfrom⟩, huntaken⟩ := h.ready j hj
    rw [hstored, htaken, hlast]
    exact ⟨⟨st, hst, hfrom.congr hslot hbytes⟩, huntaken⟩
  taken := hstored ▸ htaken ▸ h.taken
  once := htaken ▸ h.once

/-- Regions and memory are left alone. -/
lemma Fence.quiet (h : s.Fence) {s' : TcpLink} (hregions : s'.server.regions = s.server.regions)
    (hmemory : s'.server.memory = s.server.memory) (hstored : s'.stored = s.stored)
    (htaken : s'.taken = s.taken) (hlast : s'.lastStored = s.lastStored) : s'.Fence := by
  refine h.of_slots hstored htaken hlast (hregions ▸ h.apart) fun j _ => ⟨by rw [hregions], ?_⟩
  rw [readyBytes, readyBytes, hregions, hmemory]

/-- What lies in a slice lies in the region. -/
lemma inSlot_of_inSlice {slot : TcpRegionSlot} {offset x : UInt64} {n : ℕ}
    (hfits : offset.toNat + n ≤ slot.len.toNat) (hx : (x - (slot.base + offset)).toNat < n) :
    InSlot slot x := by
  have hsum : x - slot.base = x - (slot.base + offset) + offset := by rw [← sub_sub, sub_add_cancel]
  have hlt := slot.len.toNat_lt
  rw [InSlot, hsum, UInt64.toNat_add, Nat.mod_eq_of_lt (by omega)]
  omega

/-- Bytes that go to the region of another slot leave what is ready alone. -/
lemma readBytes_write_of_apart {slot slot' : TcpRegionSlot} {memory : UInt64 → UInt8}
    {offset offset' : UInt64} {bytes : Bytes} {n : ℕ} (hapart : ∀ x, InSlot slot x → ¬InSlot slot' x)
    (hfits : offset.toNat + n ≤ slot.len.toNat) (hfits' : offset'.toNat + bytes.length ≤ slot'.len.toNat) :
    readBytes (writeBytes memory (slot'.base + offset') bytes) (slot.base + offset) n =
      readBytes memory (slot.base + offset) n := by
  apply readBytes_congr
  intro i hi
  have hlt := slot.len.toNat_lt
  have hin : InSlot slot (slot.base + offset + UInt64.ofNat i) := by
    apply inSlot_of_inSlice hfits
    rw [toNat_add_ofNat_sub (by omega)]
    exact hi
  rw [writeBytes, if_neg]
  intro hx
  exact hapart _ hin (inSlot_of_inSlice hfits' hx)

/-- The bytes of a payload leave what is ready in another slot alone. -/
lemma Fence.writePayload (h : s.Fence) {m : TcpMessage} {k : ℕ} {payload : Bytes}
    (hk : (s.server.regions.slots k).inUse = true) (hready : (s.server.regions.slots k).receiveReady = false)
    (hfits : m.offset.toNat + payload.length ≤ (s.server.regions.slots k).len.toNat) :
    (s.writePayload m k payload).Fence := by
  refine { h with ready := ?_ }
  intro j hj
  obtain ⟨⟨st, hst, hfrom⟩, huntaken⟩ := h.ready j hj
  have hjk : j ≠ k := fun heq => Bool.false_ne_true (hready.symm.trans (heq ▸ hj))
  refine ⟨⟨st, hst, { hfrom with bytes := ?_ }⟩, huntaken⟩
  have hlen : (s.server.regions.slots j).receiveCompletion.transferredBytes.toNat =
      st.transfer.payload.length := by
    rw [hfrom.completion]
    have hlt := (s.server.regions.slots j).len.toNat_lt
    have hle := hfrom.fits
    exact UInt64.toNat_ofNat_of_lt' (show _ < 2 ^ 64 by omega)
  rw [← hfrom.bytes]
  apply readBytes_write_of_apart (h.apart j k hjk hfrom.inUse hk) _ hfits
  change (s.server.regions.slots j).receiveOffset.toNat +
    (s.server.regions.slots j).receiveCompletion.transferredBytes.toNat ≤ _
  rw [hfrom.offset, hlen]
  exact hfrom.fits

/-- A payload that has come in whole is ready. -/
lemma Fence.notePayload (h : s.Fence) {m : TcpMessage} {k : ℕ} {payload : Bytes}
    (hk : (s.server.regions.slots k).inUse = true)
    (hfits : m.offset.toNat + m.len.toNat ≤ (s.server.regions.slots k).len.toNat)
    (hlen : payload.length = m.len.toNat)
    (hbytes : readBytes s.server.memory ((s.server.regions.slots k).base + m.offset) m.len.toNat = payload) :
    (s.notePayload m k payload).Fence := by
  have hslot : (s.notePayload m k payload).server.regions.slots k =
      { s.server.regions.slots k with
        receiveReady := true
        receiveOffset := m.offset
        receiveCompletion :=
          ⟨m.completionId,
            (if checksumBytes (readBytes s.server.memory ((s.server.regions.slots k).base + m.offset)
              m.len.toNat) = m.checksum then (0 : UInt32) else errnoIlseq).toInt32, m.len,
            checksumBytes (readBytes s.server.memory ((s.server.regions.slots k).base + m.offset)
              m.len.toNat)⟩ } := Function.update_self ..
  have hother {j : ℕ} (hjk : j ≠ k) :
      (s.notePayload m k payload).server.regions.slots j = s.server.regions.slots j :=
    Function.update_of_ne hjk _ _
  have hkeep {n : ℕ} {st : TcpStored} (hst : s.stored[n]? = some st) :
      (s.notePayload m k payload).stored[n]? = some st := by
    obtain ⟨hlt, -⟩ := List.getElem?_eq_some_iff.mp hst
    rw [TcpLink.notePayload, List.getElem?_append_left hlt, hst]
  -- a slot keeps its region
  have hregion (j : ℕ) : ((s.notePayload m k payload).server.regions.slots j).inUse =
        (s.server.regions.slots j).inUse ∧
      ∀ x, InSlot ((s.notePayload m k payload).server.regions.slots j) x ↔
        InSlot (s.server.regions.slots j) x := by
    by_cases hjk : j = k
    · subst hjk
      rw [hslot]
      exact ⟨rfl, fun x => Iff.rfl⟩
    · rw [hother hjk]
      exact ⟨rfl, fun x => Iff.rfl⟩
  refine { apart := ?_, ready := ?_, taken := ?_, once := h.once }
  · intro i j hij hi hj x hx
    rw [(hregion i).1] at hi
    rw [(hregion j).1] at hj
    rw [(hregion i).2] at hx
    rw [(hregion j).2]
    exact h.apart i j hij hi hj x hx
  · intro j hj
    by_cases hjk : j = k
    · subst hjk
      have hlast : (s.notePayload m j payload).lastStored j = s.stored.length := Function.update_self ..
      rw [hlast]
      refine ⟨⟨_, List.getElem?_concat_length, ?_⟩, ?_⟩
      · refine { inUse := ?_, slot := rfl, handle := ?_, offset := ?_, completion := ?_, fits := ?_, bytes := ?_ }
        · rw [hslot]
          exact hk
        · rw [hslot]
        · rw [hslot]
        · have hofNat : UInt64.ofNat payload.length = m.len := by rw [hlen, UInt64.ofNat_toNat]
          rw [hslot, hofNat]
          rfl
        · rw [hslot, hlen]
          exact hfits
        · rw [readyBytes, hslot]
          exact hbytes
      · intro hmem
        obtain ⟨tk, htk, heq⟩ := List.mem_map.mp hmem
        obtain ⟨st, hst, -⟩ := h.taken tk htk
        obtain ⟨hlt, -⟩ := List.getElem?_eq_some_iff.mp hst
        omega
    · have hlast : (s.notePayload m k payload).lastStored j = s.lastStored j :=
        Function.update_of_ne hjk _ _
      rw [hother hjk] at hj
      obtain ⟨⟨st, hst, hfrom⟩, huntaken⟩ := h.ready j hj
      rw [hlast]
      refine ⟨⟨st, hkeep hst, ?_⟩, huntaken⟩
      apply hfrom.congr (hother hjk)
      rw [readyBytes, hother hjk]
      rfl
  · intro tk htk
    obtain ⟨st, hst, hfrom⟩ := h.taken tk htk
    exact ⟨st, hkeep hst, hfrom⟩

lemma Fence.receivePayload (h : s.Fence) (hp : s.Placed) (got : ℕ) : (s.receivePayload got).Fence := by
  have hreceived := s.received_receivePayload got
  generalize s.receivePayload got = s' at hreceived
  cases hreceived with
  | none => exact h
  | failed => exact h.quiet rfl rfl rfl rfl rfl
  | waits hreads hready => exact h.quiet rfl rfl rfl rfl rfl
  | short hreads hready hfits hlen =>
    exact (h.writePayload (hp.reads hreads).1 hready (by omega)).quiet rfl rfl rfl rfl rfl
  | stored hreads hc hready hfits hfront hlen =>
    have hk := (hp.reads hreads).1
    exact (h.writePayload hk hready (by omega)).notePayload hk hfits hlen (checksum_writePayload hlen)

/-- A slot whose receive is taken keeps its region and is not ready any more. -/
lemma slots_clearReceive (k j : ℕ) :
    ((s.clearReceive k).server.regions.slots j).inUse = (s.server.regions.slots j).inUse ∧
      (∀ x, InSlot ((s.clearReceive k).server.regions.slots j) x ↔ InSlot (s.server.regions.slots j) x) ∧
      (((s.clearReceive k).server.regions.slots j).receiveReady = true →
        j ≠ k ∧ (s.clearReceive k).server.regions.slots j = s.server.regions.slots j) := by
  unfold TcpLink.clearReceive TcpRegions.setSlot
  dsimp only
  by_cases hjk : j = k
  · subst hjk
    rw [Function.update_self]
    exact ⟨rfl, fun x => Iff.rfl, fun hready => absurd hready Bool.false_ne_true⟩
  · rw [Function.update_of_ne hjk]
    exact ⟨rfl, fun x => Iff.rfl, fun _ => ⟨hjk, rfl⟩⟩

lemma Fence.clearReceive (h : s.Fence) (k : ℕ) : (s.clearReceive k).Fence := by
  refine h.of_slots rfl rfl rfl ?_ ?_
  · intro i j hij hi hj x hx
    rw [(slots_clearReceive k i).1] at hi
    rw [(slots_clearReceive k j).1] at hj
    rw [(slots_clearReceive k i).2.1] at hx
    rw [(slots_clearReceive k j).2.1]
    exact h.apart i j hij hi hj x hx
  · intro j hj
    obtain ⟨-, hslot⟩ := (slots_clearReceive k j).2.2 hj
    refine ⟨hslot, ?_⟩
    rw [readyBytes, hslot]
    rfl

/-- What is handed out is what the transfer brought. -/
lemma Fence.takeReceive (h : s.Fence) {request : ReceiveRequest} {k : ℕ} {descriptorLen : UInt64}
    (hfound : s.server.regions.find request.destination.regionHandle = some k)
    (hready : (s.server.regions.slots k).receiveReady = true)
    (hmatches : receiveMatches (s.server.regions.slots k) request descriptorLen = true) :
    (s.takeReceive request k).Fence := by
  obtain ⟨⟨st, hst, hfrom⟩, huntaken⟩ := h.ready k hready
  have hclear := h.clearReceive k
  refine { apart := hclear.apart, ready := ?_, taken := ?_, once := ?_ }
  · intro j hj
    obtain ⟨⟨st', hst', hfrom'⟩, huntaken'⟩ := hclear.ready j hj
    obtain ⟨hjk, -⟩ := (slots_clearReceive k j).2.2 hj
    refine ⟨⟨st', hst', hfrom'.congr rfl rfl⟩, ?_⟩
    rw [TcpLink.takeReceive, List.map_append, List.map_singleton]
    intro hmem
    rcases List.mem_append.mp hmem with hmem | hmem
    · exact huntaken' hmem
    · -- two slots that got the same transfer last are one
      have hsame : s.lastStored j = s.lastStored k := List.mem_singleton.mp hmem
      change s.stored[s.lastStored j]? = some st' at hst'
      rw [hsame, hst] at hst'
      obtain rfl := Option.some.inj hst'
      exact hjk (hfrom'.slot.symm.trans hfrom.slot)
  · intro tk htk
    rcases List.mem_append.mp htk with htk | htk
    · exact h.taken tk htk
    · rw [List.mem_singleton.mp htk]
      refine ⟨st, hst, ?_⟩
      have hcompletion := hfrom.completion
      simp only [receiveMatches, Bool.and_eq_true, beq_iff_eq, hcompletion] at hmatches
      obtain ⟨⟨⟨⟨-, hoffset⟩, hstatus⟩, hlen⟩, hchecksum⟩ := hmatches
      refine
        { bytes := hfrom.bytes
          handle := hfrom.handle.trans (TcpRegions.find_eq_some hfound).2
          offset := hfrom.offset.symm.trans hoffset
          len := hlen
          checksum := hchecksum
          intact := ?_
          id := congrArg TransferCompletion.id hcompletion }
      by_contra hnot
      have hseq : errnoIlseq.toInt32 ≠ 0 := by decide
      rw [TcpStored.status, if_neg hnot] at hstatus
      exact hseq hstatus
  · rw [TcpLink.takeReceive, List.map_append, List.map_singleton]
    rw [← List.concat_eq_append]
    exact List.Nodup.concat huntaken h.once

lemma Fence.waitReceive (h : s.Fence) (request : ReceiveRequest) : (s.waitReceive request).Fence := by
  have hfetched := s.fetched_waitReceive request
  generalize s.waitReceive request = s' at hfetched
  cases hfetched with
  | none => exact h
  | failed => exact h.quiet rfl rfl rfl rfl rfl
  | refused hready => exact (h.clearReceive _).quiet rfl rfl rfl rfl rfl
  | taken hfound hready hmatches => exact h.takeReceive hfound hready hmatches

/-- The moves of the client leave the server alone. -/
lemma quiet_submit (s : TcpLink) (request : TransferRequest) (out : ℕ) :
    (s.submit request out).server = s.server ∧ (s.submit request out).stored = s.stored ∧
      (s.submit request out).taken = s.taken ∧ (s.submit request out).lastStored = s.lastStored := by
  have hsubmitted := s.submitted_submit request out
  generalize s.submit request out = s' at hsubmitted
  cases hsubmitted
  all_goals exact ⟨rfl, rfl, rfl, rfl⟩

/-- **Every move that meets the condition keeps the fence.** -/
lemma Fence.step (h : s.Fence) (hp : s.Placed) (m : TcpMove) (hm : s.Fenced m) : (s.step m).Fence := by
  cases m with
  | clientRegister request =>
    rw [TcpLink.step]
    split
    · exact h.quiet rfl rfl rfl rfl rfl
    · exact h
  | clientDeregister handle => exact h.quiet rfl rfl rfl rfl rfl
  | clientMemory memory => exact h.quiet rfl rfl rfl rfl rfl
  | submit request out =>
    obtain ⟨hserver, hstored, htaken, hlast⟩ := s.quiet_submit request out
    exact h.quiet (congrArg TcpServer.regions hserver) (congrArg TcpServer.memory hserver) hstored htaken hlast
  | poll completionId =>
    rw [TcpLink.step, TcpLink.poll]
    split_ifs
    · exact h
    · split
      all_goals exact h.quiet rfl rfl rfl rfl rfl
  | pollNext =>
    have hwaited := s.waited_pollNext
    change s.pollNext.Fence
    generalize s.pollNext = s' at hwaited
    cases hwaited
    all_goals exact h.quiet rfl rfl rfl rfl rfl
  | pollFail =>
    rw [TcpLink.step]
    split_ifs
    · exact h.quiet rfl rfl rfl rfl rfl
    · exact h
  | clientFail => exact h.quiet rfl rfl rfl rfl rfl
  | serverRegister request =>
    rw [TcpLink.step]
    split
    · rename_i regions hc hregister
      obtain ⟨i, hfree, hslots⟩ := TcpRegions.slots_register hregister
      have hself : regions.slots i = s.server.regions.newSlot request := by
        rw [hslots, Function.update_self]
      have hother {j : ℕ} (hji : j ≠ i) : regions.slots j = s.server.regions.slots j := by
        rw [hslots, Function.update_of_ne hji]
      refine h.of_slots rfl rfl rfl ?_ ?_
      · intro j k hjk hj hk x hx hx'
        dsimp only at hj hk hx hx'
        by_cases hji : j = i
        · subst hji
          rw [hother (Ne.symm hjk)] at hk hx'
          rw [hself] at hx
          exact hm.register request rfl k hk x hx' hx
        · rw [hother hji] at hj hx
          by_cases hki : k = i
          · subst hki
            rw [hself] at hx'
            exact hm.register request rfl j hj x hx hx'
          · rw [hother hki] at hk hx'
            exact h.apart j k hjk hj hk x hx hx'
      · intro j hj
        dsimp only at hj ⊢
        have hji : j ≠ i := by
          rintro rfl
          rw [hself] at hj
          exact absurd hj Bool.false_ne_true
        refine ⟨hother hji, ?_⟩
        unfold readyBytes
        dsimp only
        rw [hother hji]
    · exact h
  | serverDeregister handle =>
    rw [TcpLink.step]
    rcases s.server.regions.slots_deregister handle with heq | ⟨i, hhandle, hslots⟩
    · rw [heq]
      exact h
    · have hself : (s.server.regions.deregister handle).slots i = {} := by
        rw [hslots, Function.update_self]
      have hother {j : ℕ} (hji : j ≠ i) :
          (s.server.regions.deregister handle).slots j = s.server.regions.slots j := by
        rw [hslots, Function.update_of_ne hji]
      have hleft {j : ℕ} (hj : ((s.server.regions.deregister handle).slots j).inUse = true) : j ≠ i := by
        rintro rfl
        rw [hself] at hj
        exact absurd hj Bool.false_ne_true
      refine h.of_slots rfl rfl rfl ?_ ?_
      · intro j k hjk hj hk x hx hx'
        dsimp only at hj hk hx hx'
        have hji := hleft hj
        have hki := hleft hk
        rw [hother hji] at hj hx
        rw [hother hki] at hk hx'
        exact h.apart j k hjk hj hk x hx hx'
      · intro j hj
        dsimp only at hj ⊢
        have hji : j ≠ i := by
          rintro rfl
          rw [hself] at hj
          exact absurd hj Bool.false_ne_true
        refine ⟨hother hji, ?_⟩
        unfold readyBytes
        dsimp only
        rw [hother hji]
  | serverMemory memory =>
    exact h.of_slots rfl rfl rfl h.apart fun j hj => ⟨rfl, hm.memory memory rfl j hj⟩
  | receiveHeader =>
    rw [TcpLink.step, TcpLink.receiveHeader]
    split
    · split_ifs
      · exact h
      · dsimp only
        split
        · exact h.quiet rfl rfl rfl rfl rfl
        · split_ifs
          all_goals exact h.quiet rfl rfl rfl rfl rfl
    · exact h
  | receivePayload got => exact h.receivePayload hp got
  | sendAck out =>
    rw [TcpLink.step, TcpLink.sendAck]
    split
    · dsimp only
      split_ifs
      all_goals exact h.quiet rfl rfl rfl rfl rfl
    · exact h
  | waitReceive request => exact h.waitReceive request
  | serverFail => exact h.quiet rfl rfl rfl rfl rfl

end Fence

end TcpLink

end MemService
