import MemService.TcpStream

/-!
# What a poll promises

A poll returns what stands in a slot of the client, and a slot is confirmed by an acknowledgement that agrees
with it.  `Polls` traces a confirmed slot to the transfer the server has stored under its id; the ids are
those of a counter, and a connection ends before the counter comes round.

Where the bytes lie is `Placed`: while no region is deregistered that a transfer waits for, the slot of a
stored transfer is that of the region the client named.  The condition is needed: what waits keeps the slot
and not the handle, and would be stored in the region that takes the slot over.
-/

namespace MemService

namespace TcpLink

/-! ## Confirmed transfers -/

/-- The server has stored a transfer with this id, length and checksum, and found the checksum right. -/
structure ConfirmedBy (c : TransferCompletion) (st : TcpStored) : Prop where
  id : st.transfer.completionId = c.id
  len : UInt64.ofNat st.transfer.payload.length = c.transferredBytes
  checksum : st.checksum = c.checksum
  intact : st.checksum = st.transfer.checksum

/-- Completions that stand in the slots of a client or have been handed out. -/
structure Polls (s : TcpLink) : Prop where
  ids : s.sent.map (·.completionId) = (List.range s.sent.length).map fun i => UInt64.ofNat (i + 1)
  few : s.sent.length < 2 ^ 64
  next : s.client.connected = true → s.client.nextCompletionId = UInt64.ofNat s.sent.length
  pending : ∀ i, (s.client.pending i).completion.id ≠ 0 →
    (s.client.pending i).completion.id ∈ s.sent.map (·.completionId) ∧
      ((s.client.pending i).completion.status = 0 →
        ∃ st ∈ s.stored, ConfirmedBy (s.client.pending i).completion st)
  apart : ∀ i j, (s.client.pending i).completion.id ≠ 0 →
    (s.client.pending i).completion.id = (s.client.pending j).completion.id → i = j
  polling : ∀ i, s.client.polling = some i → (s.client.pending i).completion.id ≠ 0
  polled : ∀ c ∈ s.polled, c.status = 0 ∧ c.id ∈ s.sent.map (·.completionId) ∧
    ∃ st ∈ s.stored, ConfirmedBy c st
  once : (s.polled.map (·.id)).Nodup
  gone : ∀ i, (s.client.pending i).completion.id ≠ 0 →
    (s.client.pending i).completion.id ∉ s.polled.map (·.id)

section Polls

variable {s : TcpLink}

lemma ofNat64_inj {i j : ℕ} (hi : i < 2 ^ 64) (hj : j < 2 ^ 64) (h : UInt64.ofNat i = UInt64.ofNat j) :
    i = j := by
  have hnat := congrArg UInt64.toNat h
  rwa [UInt64.toNat_ofNat_of_lt' hi, UInt64.toNat_ofNat_of_lt' hj] at hnat

/-- Nothing has been sent under the next id. -/
lemma Polls.fresh (h : s.Polls) (hc : s.client.connected = true)
    (hpos : s.client.nextCompletionId + 1 ≠ 0) :
    s.sent.length + 1 < 2 ^ 64 ∧ s.client.nextCompletionId + 1 = UInt64.ofNat (s.sent.length + 1) ∧
      s.client.nextCompletionId + 1 ∉ s.sent.map (·.completionId) := by
  have hnext : s.client.nextCompletionId + 1 = UInt64.ofNat (s.sent.length + 1) := by
    rw [h.next hc, UInt64.ofNat_add]
    rfl
  have hlt : s.sent.length + 1 < 2 ^ 64 := by
    have hfew := h.few
    by_contra hnot
    have heq : s.sent.length + 1 = 2 ^ 64 := by omega
    rw [hnext, heq] at hpos
    exact hpos rfl
  refine ⟨hlt, hnext, ?_⟩
  rw [h.ids, hnext]
  intro hmem
  obtain ⟨i, hi, heq⟩ := List.mem_map.mp hmem
  rw [List.mem_range] at hi
  have hsame := ofNat64_inj (by omega) hlt heq
  omega

/-- The client fails, or begins or gives up a poll. -/
lemma Polls.client (h : s.Polls) {client : TcpClient} (hpending : client.pending = s.client.pending)
    (hnext : client.connected = true → client.nextCompletionId = s.client.nextCompletionId ∧
      s.client.connected = true)
    (hpolling : ∀ i, client.polling = some i → (s.client.pending i).completion.id ≠ 0) :
    Polls { s with client := client } where
  ids := h.ids
  few := h.few
  next := fun hc => (hnext hc).1.trans (h.next (hnext hc).2)
  pending := hpending ▸ h.pending
  apart := hpending ▸ h.apart
  polling := hpending ▸ hpolling
  polled := h.polled
  once := h.once
  gone := hpending ▸ h.gone

/-- A transfer goes out that the client does not wait for. -/
lemma Polls.sent (h : s.Polls) (hc : s.client.connected = true) {t : TcpTransfer}
    (hid : t.completionId = s.client.nextCompletionId + 1) (hpos : t.completionId ≠ 0) (client : TcpClient)
    (hpending : client.pending = s.client.pending) (hpolling : client.polling = s.client.polling)
    (hnext : client.connected = true → client.nextCompletionId = t.completionId) (bytes : Bytes) :
    (s.sendFrame client t bytes).Polls := by
  rw [hid] at hpos
  obtain ⟨hlt, hcount, hfresh⟩ := h.fresh hc hpos
  have hmem {id : UInt64} (hin : id ∈ s.sent.map (·.completionId)) :
      id ∈ (s.sent ++ [t]).map (·.completionId) := by
    rw [List.map_append]
    exact List.mem_append_left _ hin
  refine
    { ids := ?_, few := ?_, next := ?_, pending := ?_, apart := ?_, polling := ?_, polled := ?_,
      once := h.once, gone := ?_ }
  · rw [sendFrame, List.map_append, List.length_append, List.length_singleton, List.range_succ,
      List.map_append, h.ids, List.map_singleton, List.map_singleton, hid, hcount]
  · rw [sendFrame, List.length_append]
    exact hlt
  · intro hc'
    rw [sendFrame, List.length_append, List.length_singleton, ← hcount, ← hid]
    exact hnext hc'
  · intro i hi
    rw [sendFrame] at hi ⊢
    dsimp only at hi ⊢
    rw [hpending] at hi ⊢
    exact ⟨hmem (h.pending i hi).1, (h.pending i hi).2⟩
  · rw [sendFrame, hpending]
    exact h.apart
  · rw [sendFrame, hpending, hpolling]
    exact h.polling
  · intro c hc'
    obtain ⟨hstatus, hin, hconfirmed⟩ := h.polled c hc'
    exact ⟨hstatus, hmem hin, hconfirmed⟩
  · rw [sendFrame, hpending]
    exact h.gone

/-- A transfer is noted in a free slot. -/
lemma Polls.note (h : s.Polls) {i : ℕ} {p : TcpPending} (hfree : (s.client.pending i).completion.id = 0)
    (hsent : p.completion.id ∈ s.sent.map (·.completionId)) (hstatus : p.completion.status ≠ 0)
    (hother : ∀ j, (s.client.pending j).completion.id ≠ p.completion.id)
    (hpolled : p.completion.id ∉ s.polled.map (·.id)) :
    Polls { s with client := { s.client with pending := Function.update s.client.pending i p } } := by
  refine { h with pending := ?_, apart := ?_, polling := ?_, gone := ?_ }
  · intro j hj
    dsimp only at hj ⊢
    by_cases hji : j = i
    · subst hji
      rw [Function.update_self] at hj ⊢
      exact ⟨hsent, fun h0 => absurd h0 hstatus⟩
    · rw [Function.update_of_ne hji] at hj ⊢
      exact h.pending j hj
  · intro j k hj hjk
    dsimp only at hj hjk
    by_cases hji : j = i
    · subst hji
      by_cases hkj : k = j
      · exact hkj.symm
      · rw [Function.update_self, Function.update_of_ne hkj] at hjk
        exact absurd hjk.symm (hother k)
    · rw [Function.update_of_ne hji] at hj hjk
      by_cases hki : k = i
      · subst hki
        rw [Function.update_self] at hjk
        exact absurd hjk (hother j)
      · rw [Function.update_of_ne hki] at hjk
        exact h.apart j k hj hjk
  · intro j hpolling
    have hj := h.polling j hpolling
    have hji : j ≠ i := fun heq => hj (heq ▸ hfree)
    dsimp only
    rw [Function.update_of_ne hji]
    exact hj
  · intro j hj
    dsimp only at hj ⊢
    by_cases hji : j = i
    · subst hji
      rw [Function.update_self]
      exact hpolled
    · rw [Function.update_of_ne hji] at hj ⊢
      exact h.gone j hj

lemma Polls.submit (h : s.Polls) (request : TransferRequest) (out : ℕ) : (s.submit request out).Polls := by
  have hsubmitted := s.submitted_submit request out
  generalize s.submit request out = s' at hsubmitted
  cases hsubmitted with
  | refused => exact h
  | broken => exact h.client rfl (fun hc => by cases hc) h.polling
  | cut hc hid hpos hlen hbytes =>
    rename_i t bytes
    exact h.sent hc hid hpos { s.client with connected := false, nextCompletionId := t.completionId } rfl rfl
      (fun hc' => absurd hc' Bool.false_ne_true) bytes
  | done hc hpolling hid hpos hlen hfree =>
    rename_i t i
    have hfresh := (h.fresh hc (hid ▸ hpos)).2.2
    rw [← hid] at hfresh
    have hsent := h.sent hc hid hpos { s.client with nextCompletionId := t.completionId } rfl rfl
      (fun _ => rfl) t.frame
    have hstatus : errnoInprogress ≠ 0 := by decide
    apply hsent.note hfree
    · exact List.mem_map.mpr ⟨t, List.mem_append_right _ (List.mem_singleton.mpr rfl), rfl⟩
    · exact hstatus
    · intro j (heq : (s.client.pending j).completion.id = t.completionId)
      have hne : (s.client.pending j).completion.id ≠ 0 := fun h0 => hpos (heq.symm.trans h0)
      exact hfresh (heq ▸ (h.pending j hne).1)
    · intro hmem
      obtain ⟨c, hc', heq⟩ := List.mem_map.mp hmem
      change c.id = t.completionId at heq
      exact hfresh (heq ▸ (h.polled c hc').2.1)

/-- A slot is confirmed. -/
lemma Polls.confirm (h : s.Polls) {i : ℕ} {st : TcpStored} (hst : st ∈ s.stored)
    (hconfirmed : ConfirmedBy (s.client.pending i).completion st) : (s.confirm i).Polls := by
  have hid (j : ℕ) : ((s.confirm i).client.pending j).completion.id =
      (s.client.pending j).completion.id := by
    rw [TcpLink.confirm]
    dsimp only
    by_cases hji : j = i
    · rw [hji, Function.update_self]
    · rw [Function.update_of_ne hji]
  refine { h with pending := ?_, apart := ?_, polling := ?_, gone := ?_ }
  · intro j hj
    rw [hid j] at hj ⊢
    refine ⟨(h.pending j hj).1, ?_⟩
    by_cases hji : j = i
    · intro _
      rw [TcpLink.confirm, hji]
      dsimp only
      rw [Function.update_self]
      exact ⟨st, hst, hconfirmed.id, hconfirmed.len, hconfirmed.checksum, hconfirmed.intact⟩
    · rw [TcpLink.confirm]
      dsimp only
      rw [Function.update_of_ne hji]
      exact (h.pending j hj).2
  · intro j k hj hjk
    rw [hid] at hj
    rw [hid, hid] at hjk
    exact h.apart j k hj hjk
  · intro j hpolling
    rw [hid]
    exact h.polling j hpolling
  · intro j hj
    rw [hid] at hj ⊢
    exact h.gone j hj

/-- A confirmed slot is handed out. -/
lemma Polls.handOut (h : s.Polls) {i : ℕ} (hpolling : s.client.polling = some i)
    (hstatus : (s.client.pending i).completion.status = 0) : (s.handOut i).Polls := by
  have hpos := h.polling i hpolling
  obtain ⟨hsent, hconfirmed⟩ := h.pending i hpos
  -- the slots that are left are not that one
  have hleft {j : ℕ} (hj : ((s.handOut i).client.pending j).completion.id ≠ 0) :
      j ≠ i ∧ (s.handOut i).client.pending j = s.client.pending j := by
    have hji : j ≠ i := by
      rintro rfl
      rw [TcpLink.handOut] at hj
      dsimp only at hj
      rw [Function.update_self] at hj
      exact hj rfl
    exact ⟨hji, Function.update_of_ne hji _ _⟩
  refine
    { h with
      pending := ?_, apart := ?_, polling := fun j hj => absurd hj (by simp [TcpLink.handOut]), polled := ?_,
      once := ?_, gone := ?_ }
  · intro j hj
    obtain ⟨-, heq⟩ := hleft hj
    rw [heq] at hj ⊢
    exact h.pending j hj
  · intro j k hj hjk
    obtain ⟨-, hj'⟩ := hleft hj
    obtain ⟨-, hk'⟩ := hleft (hjk ▸ hj)
    rw [hj'] at hj
    rw [hj', hk'] at hjk
    exact h.apart j k hj hjk
  · intro c hc
    rcases List.mem_append.mp hc with hc | hc
    · exact h.polled c hc
    · rw [List.mem_singleton.mp hc]
      exact ⟨hstatus, hsent, hconfirmed hstatus⟩
  · rw [TcpLink.handOut, List.map_append, List.map_singleton]
    rw [← List.concat_eq_append]
    exact List.Nodup.concat (h.gone i hpos) h.once
  · intro j hj
    obtain ⟨hji, heq⟩ := hleft hj
    rw [heq] at hj ⊢
    rw [TcpLink.handOut, List.map_append, List.map_singleton]
    intro hmem
    rcases List.mem_append.mp hmem with hmem | hmem
    · exact h.gone j hj hmem
    · exact hji (h.apart j i hj (List.mem_singleton.mp hmem))

lemma Polls.pollNext (h : s.Polls) (hw : s.Wire) : s.pollNext.Polls := by
  have hwaited := s.waited_pollNext
  generalize s.pollNext = s' at hwaited
  cases hwaited with
  | none => exact h
  | failed => exact h.client rfl (fun hc => by cases hc) (fun i hi => by cases hi)
  | misread hlen =>
    have hdrop : s.dropAck.Polls := { h with }
    exact hdrop.client rfl (fun hc => by cases hc) (fun i hi => by cases hi)
  | confirmed hlen hack hpos hid hmatches =>
    obtain ⟨st, hst, hdecode, -⟩ := hw.readAck hlen
    obtain rfl := Option.some.inj (hack.symm.trans hdecode)
    have hdrop : s.dropAck.Polls := { h with }
    simp only [ackMatches, Bool.and_eq_true, beq_iff_eq] at hmatches
    obtain ⟨⟨⟨⟨hstatus, -⟩, -⟩, hlength⟩, hchecksum⟩ := hmatches
    refine hdrop.confirm (List.mem_of_getElem? hst) ⟨hid.symm, hlength, hchecksum, ?_⟩
    by_contra hnot
    have hseq : errnoIlseq ≠ 0 := by decide
    rw [TcpStored.ack, TcpStored.status, if_neg hnot] at hstatus
    exact hseq hstatus
  | handed hpolling hstatus => exact h.handOut hpolling hstatus

lemma Polls.poll (h : s.Polls) (completionId : UInt64) : (s.poll completionId).Polls := by
  unfold TcpLink.poll
  split_ifs with hrefused
  · exact h
  · rw [Bool.or_eq_true, not_or, beq_iff_eq] at hrefused
    split
    · exact h.client rfl (fun hc => by cases hc) h.polling
    · rename_i i hfound
      refine h.client rfl (fun hc => ⟨rfl, hc⟩) ?_
      intro j hj
      obtain rfl := Option.some.inj hj
      have hid : (s.client.pending i).completion.id = completionId := by simpa using List.find?_some hfound
      exact hid ▸ hrefused.2

/-- What the server does leaves the client alone and stores no less. -/
lemma Polls.server (h : s.Polls) {s' : TcpLink} (hclient : s'.client = s.client) (hsent : s'.sent = s.sent)
    (hpolled : s'.polled = s.polled) (hstored : s.stored <+: s'.stored) : s'.Polls where
  ids := hsent ▸ h.ids
  few := hsent ▸ h.few
  next := hclient ▸ hsent ▸ h.next
  pending := by
    rw [hclient, hsent]
    intro i hi
    refine ⟨(h.pending i hi).1, fun hstatus => ?_⟩
    obtain ⟨st, hst, hconfirmed⟩ := (h.pending i hi).2 hstatus
    exact ⟨st, hstored.subset hst, hconfirmed⟩
  apart := hclient ▸ h.apart
  polling := hclient ▸ h.polling
  polled := by
    rw [hpolled, hsent]
    intro c hc
    obtain ⟨hstatus, hin, st, hst, hconfirmed⟩ := h.polled c hc
    exact ⟨hstatus, hin, st, hstored.subset hst, hconfirmed⟩
  once := hpolled ▸ h.once
  gone := hclient ▸ hpolled ▸ h.gone

lemma Polls.receiveHeader (h : s.Polls) : s.receiveHeader.Polls := by
  unfold TcpLink.receiveHeader
  split
  · split_ifs
    · exact h
    · dsimp only
      split
      · exact { h with }
      · split_ifs
        all_goals exact { h with }
  · exact h

lemma Polls.receivePayload (h : s.Polls) (got : ℕ) : (s.receivePayload got).Polls := by
  have hreceived := s.received_receivePayload got
  generalize s.receivePayload got = s' at hreceived
  cases hreceived with
  | none => exact h
  | failed => exact { h with }
  | waits hreads hready => exact { h with }
  | short hreads hready hfits hlen => exact { h with }
  | stored hreads hc hready hfits hfront hlen => exact h.server rfl rfl rfl (List.prefix_append _ _)

lemma Polls.sendAck (h : s.Polls) (out : ℕ) : (s.sendAck out).Polls := by
  unfold TcpLink.sendAck
  split
  · dsimp only
    split_ifs
    all_goals exact { h with }
  · exact h

lemma Polls.waitReceive (h : s.Polls) (request : ReceiveRequest) : (s.waitReceive request).Polls := by
  have hfetched := s.fetched_waitReceive request
  generalize s.waitReceive request = s' at hfetched
  cases hfetched with
  | none => exact h
  | failed => exact { h with }
  | refused hready => exact { h with }
  | taken hfound hready hmatches => exact { h with }

/-- **Every move keeps the completions right.** -/
lemma Polls.step (h : s.Polls) (hw : s.Wire) (m : TcpMove) : (s.step m).Polls := by
  cases m with
  | clientRegister request =>
    rw [TcpLink.step]
    split
    · exact { h with }
    · exact h
  | clientDeregister handle => exact { h with }
  | clientMemory memory => exact { h with }
  | submit request out => exact h.submit request out
  | poll completionId => exact h.poll completionId
  | pollNext => exact h.pollNext hw
  | pollFail =>
    rw [TcpLink.step]
    split_ifs
    · exact h.client rfl (fun hc => by cases hc) (fun i hi => by cases hi)
    · exact h
  | clientFail => exact h.client rfl (fun hc => by cases hc) h.polling
  | serverRegister request =>
    rw [TcpLink.step]
    split
    · exact { h with }
    · exact h
  | serverDeregister handle => exact { h with }
  | serverMemory memory => exact { h with }
  | receiveHeader => exact h.receiveHeader
  | receivePayload got => exact h.receivePayload got
  | sendAck out => exact h.sendAck out
  | waitReceive request => exact h.waitReceive request
  | serverFail => exact { h with }

end Polls

/-! ## Where the bytes lie -/

/-- No region is deregistered that a transfer waits for. -/
def Steady (s : TcpLink) (m : TcpMove) : Prop :=
  ∀ handle request k, m = .serverDeregister handle → s.server.receiving = .waiting request k →
    (s.server.regions.slots k).handle ≠ handle

/-- A slot holds a region with this handle. -/
def Holds (s : TcpLink) (k : ℕ) (handle : UInt64) : Prop :=
  (s.server.regions.slots k).inUse = true ∧ (s.server.regions.slots k).handle = handle

/-- What is stored lies in the region that the client named. -/
structure Placed (s : TcpLink) : Prop where
  waiting : ∀ m k, s.server.receiving = .waiting m k → s.Holds k m.regionHandle
  stored : ∀ st ∈ s.stored, st.handle = st.transfer.regionHandle ∧
    st.transfer.offset.toNat + st.transfer.payload.length ≤ st.regionLen.toNat

end TcpLink

namespace TcpRegions

lemma find_eq_some {r : TcpRegions} {handle : UInt64} {k : ℕ} (h : r.find handle = some k) :
    (r.slots k).inUse = true ∧ (r.slots k).handle = handle := by
  simpa using List.find?_some h

lemma slots_register {r r' : TcpRegions} {request : RegionRequest} (h : r.register request = some r') :
    ∃ i, (r.slots i).inUse = false ∧ r'.slots = Function.update r.slots i (r.newSlot request) := by
  unfold register at h
  split_ifs at h
  obtain ⟨i, hfree, rfl⟩ := Option.map_eq_some_iff.mp h
  refine ⟨i, ?_, rfl⟩
  simpa using List.find?_some hfree

lemma slots_deregister (r : TcpRegions) (handle : UInt64) :
    r.deregister handle = r ∨
      ∃ i, (r.slots i).handle = handle ∧ (r.deregister handle).slots = Function.update r.slots i {} := by
  unfold deregister
  cases hfound : r.find handle with
  | none => exact .inl rfl
  | some i => exact .inr ⟨i, (find_eq_some hfound).2, rfl⟩

end TcpRegions

namespace TcpLink

section Placed

variable {s : TcpLink}

/-- The slot of the transfer whose message the server has read. -/
lemma Placed.reads (h : s.Placed) {m : TcpMessage} {k : ℕ} (hreads : s.Reads m k) :
    s.Holds k m.regionHandle := by
  rcases hreads with ⟨-, hfound⟩ | hr
  · exact TcpRegions.find_eq_some hfound
  · exact h.waiting m k hr

/-- Nothing is stored and no region is lost that a transfer waits for. -/
lemma Placed.of_quiet (h : s.Placed) {s' : TcpLink} (hstored : s'.stored = s.stored)
    (hwaiting : ∀ m k, s'.server.receiving = .waiting m k →
      s.server.receiving = .waiting m k ∧ (s.Holds k m.regionHandle → s'.Holds k m.regionHandle)) :
    s'.Placed where
  waiting := fun m k hr => (hwaiting m k hr).2 (h.waiting m k (hwaiting m k hr).1)
  stored := hstored ▸ h.stored

lemma Placed.failServer (h : s.Placed) : s.failServer.Placed := ⟨nofun, h.stored⟩

lemma Placed.receiveHeader (h : s.Placed) : s.receiveHeader.Placed := by
  unfold TcpLink.receiveHeader
  split
  · split_ifs
    · exact h
    · dsimp only
      split
      · exact ⟨nofun, h.stored⟩
      · split_ifs
        all_goals exact ⟨nofun, h.stored⟩
  · exact h

lemma Placed.receivePayload (h : s.Placed) (got : ℕ) : (s.receivePayload got).Placed := by
  have hreceived := s.received_receivePayload got
  generalize s.receivePayload got = s' at hreceived
  cases hreceived with
  | none => exact h
  | failed => exact h.failServer
  | waits hreads hready =>
    refine ⟨fun m k hr => ?_, h.stored⟩
    obtain ⟨rfl, rfl⟩ := TcpReceiving.waiting.inj hr
    exact h.reads hreads
  | short hreads hready hfits hlen => exact ⟨nofun, h.stored⟩
  | stored hreads hc hready hfits hfront hlen =>
    refine ⟨nofun, ?_⟩
    intro st hst
    rcases List.mem_append.mp hst with hst | hst
    · exact h.stored st hst
    · rw [List.mem_singleton.mp hst]
      refine ⟨(h.reads hreads).2, ?_⟩
      dsimp only
      rw [hlen]
      exact hfits

lemma Placed.sendAck (h : s.Placed) (out : ℕ) : (s.sendAck out).Placed := by
  unfold TcpLink.sendAck
  split
  · dsimp only
    split_ifs
    · exact h.failServer
    · exact ⟨nofun, h.stored⟩
    · exact ⟨nofun, h.stored⟩
    · exact ⟨nofun, h.stored⟩
  · exact h

/-- Taking what a slot has ready leaves its region. -/
lemma Holds.clearReceive {j : ℕ} {handle : UInt64} (h : s.Holds j handle) (k : ℕ) :
    (s.clearReceive k).Holds j handle := by
  obtain ⟨hin, hhandle⟩ := h
  unfold Holds TcpLink.clearReceive TcpRegions.setSlot
  dsimp only
  by_cases hjk : j = k
  · subst hjk
    rw [Function.update_self]
    exact ⟨hin, hhandle⟩
  · rw [Function.update_of_ne hjk]
    exact ⟨hin, hhandle⟩

lemma Placed.waitReceive (h : s.Placed) (request : ReceiveRequest) : (s.waitReceive request).Placed := by
  have hfetched := s.fetched_waitReceive request
  generalize s.waitReceive request = s' at hfetched
  cases hfetched with
  | none => exact h
  | failed => exact h.failServer
  | refused hready => exact ⟨nofun, h.stored⟩
  | taken hfound hready hmatches => exact h.of_quiet rfl fun m k hr => ⟨hr, fun hk => hk.clearReceive _⟩

lemma Placed.step (h : s.Placed) (m : TcpMove) (hm : s.Steady m) : (s.step m).Placed := by
  cases m with
  | clientRegister request =>
    rw [TcpLink.step]
    split
    · exact { h with }
    · exact h
  | clientDeregister handle => exact { h with }
  | clientMemory memory => exact { h with }
  | submit request out =>
    have hsubmitted := s.submitted_submit request out
    change (s.submit request out).Placed
    generalize s.submit request out = s' at hsubmitted
    cases hsubmitted with
    | refused => exact h
    | broken => exact { h with }
    | cut hc hid hpos hlen hbytes => exact { h with }
    | done hc hpolling hid hpos hlen hfree => exact { h with }
  | poll completionId =>
    rw [TcpLink.step, TcpLink.poll]
    split_ifs
    · exact h
    · split
      all_goals exact { h with }
  | pollNext =>
    have hwaited := s.waited_pollNext
    change s.pollNext.Placed
    generalize s.pollNext = s' at hwaited
    cases hwaited with
    | none => exact h
    | failed => exact { h with }
    | misread hlen => exact { h with }
    | confirmed hlen hack hpos hid hmatches => exact { h with }
    | handed hpolling hstatus => exact { h with }
  | pollFail =>
    rw [TcpLink.step]
    split_ifs
    · exact { h with }
    · exact h
  | clientFail => exact { h with }
  | serverRegister request =>
    rw [TcpLink.step]
    split
    · rename_i regions hc hregister
      obtain ⟨i, hfree, hslots⟩ := TcpRegions.slots_register hregister
      refine h.of_quiet rfl fun m k hr => ⟨hr, fun hk => ?_⟩
      have hne : k ≠ i := fun heq => Bool.false_ne_true (hfree.symm.trans (heq ▸ hk.1))
      unfold Holds
      dsimp only
      rw [hslots, Function.update_of_ne hne]
      exact hk
    · exact h
  | serverDeregister handle =>
    refine h.of_quiet rfl fun m k hr => ⟨hr, fun hk => ?_⟩
    unfold Holds
    rw [TcpLink.step]
    dsimp only
    rcases s.server.regions.slots_deregister handle with heq | ⟨i, hhandle, hslots⟩
    · rw [heq]
      exact hk
    · have hne : k ≠ i := by
        rintro rfl
        exact hm handle m k rfl hr hhandle
      rw [hslots, Function.update_of_ne hne]
      exact hk
  | serverMemory memory => exact { h with }
  | receiveHeader => exact h.receiveHeader
  | receivePayload got => exact h.receivePayload got
  | sendAck out => exact h.sendAck out
  | waitReceive request => exact h.waitReceive request
  | serverFail => exact h.failServer

end Placed

/-! ## Polls of a run -/

end TcpLink

end MemService
