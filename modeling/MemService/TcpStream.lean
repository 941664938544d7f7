import MemService.TcpTransfer

/-!
# The streams of a TCP connection

What the server stores is what the client sent, in the same order, and what it acknowledges is what it has
stored: `Wire` says what stands on the way in either direction while this happens, and `Wire.step` that every
move of the connection keeps it, however the moves of both sides come and wherever the connection breaks
off.
-/

open ByteText

namespace MemService

namespace TcpLink

/-! ## What is on the way -/

/-- The bytes the server has still to read, if the client gets everything out. -/
def toRead (unread : List TcpTransfer) : TcpReceiving → Bytes
  | .idle => unread.flatMap TcpTransfer.frame
  | .acking _ => unread.flatMap TcpTransfer.frame
  | .header _ => (unread.head?.map (·.payload)).getD [] ++ unread.tail.flatMap TcpTransfer.frame
  | .waiting _ _ => (unread.head?.map (·.payload)).getD [] ++ unread.tail.flatMap TcpTransfer.frame

/-- The message the server has read is that of the next transfer. -/
def ReadingOk (unread : List TcpTransfer) : TcpReceiving → Prop
  | .header m => ∃ t ts, unread = t :: ts ∧ m = t.header
  | .waiting m _ => ∃ t ts, unread = t :: ts ∧ m = t.header
  | _ => True

/-- The bytes of acknowledgements. -/
def ackBytes (stored : List TcpStored) : Bytes := stored.flatMap fun st => st.ack.encode

/-- The acknowledgements sent are those of what is stored, but for the one about to be sent. -/
def AckingOk (stored : List TcpStored) (acksRead : ℕ) (toClient : Bytes) : TcpReceiving → Prop
  | .acking ack => ∃ before st, stored = before ++ [st] ∧ ack = st.ack ∧ acksRead ≤ before.length ∧
      toClient = ackBytes (before.drop acksRead)
  | _ => acksRead ≤ stored.length ∧ toClient = ackBytes (stored.drop acksRead)

/-- **The invariant of the streams.**  What is stored is what was sent, in the same order, and what is on
the way either way is the front of the rest, all of it as long as both ends are connected. -/
structure Wire (s : TcpLink) : Prop where
  storedLe : s.stored.length ≤ s.sent.length
  storedSent : s.stored.map (·.transfer) = s.sent.take s.stored.length
  checksums : ∀ st ∈ s.stored, st.checksum = checksumBytes st.transfer.payload
  short : ∀ t ∈ s.sent, t.payload.length < 2 ^ 64
  reading : s.server.connected = true → ReadingOk (s.sent.drop s.stored.length) s.server.receiving
  front : s.server.connected = true →
    s.toServer <+: toRead (s.sent.drop s.stored.length) s.server.receiving
  whole : s.server.connected = true → s.client.connected = true →
    s.toServer = toRead (s.sent.drop s.stored.length) s.server.receiving
  acksFront : s.toClient <+: ackBytes (s.stored.drop s.acksRead)
  acking : s.server.connected = true → AckingOk s.stored s.acksRead s.toClient s.server.receiving

section Wire

variable {s : TcpLink}

lemma toRead_append {unread : List TcpTransfer} {receiving : TcpReceiving} (t : TcpTransfer)
    (h : ReadingOk unread receiving) :
    toRead (unread ++ [t]) receiving = toRead unread receiving ++ t.frame := by
  cases receiving with
  | idle => simp [toRead]
  | acking ack => simp [toRead]
  | header m =>
    obtain ⟨t', ts, rfl, -⟩ := h
    simp [toRead]
  | waiting m k =>
    obtain ⟨t', ts, rfl, -⟩ := h
    simp [toRead]

lemma readingOk_append {unread : List TcpTransfer} {receiving : TcpReceiving} (t : TcpTransfer)
    (h : ReadingOk unread receiving) : ReadingOk (unread ++ [t]) receiving := by
  cases receiving with
  | idle => trivial
  | acking ack => trivial
  | header m =>
    obtain ⟨t', ts, rfl, hm⟩ := h
    exact ⟨t', ts ++ [t], rfl, hm⟩
  | waiting m k =>
    obtain ⟨t', ts, rfl, hm⟩ := h
    exact ⟨t', ts ++ [t], rfl, hm⟩

lemma Wire.failClient (h : s.Wire) : s.failClient.Wire :=
  { h with whole := fun _ hc => by cases hc }

lemma Wire.failPoll (h : s.Wire) : s.failPoll.Wire :=
  { h with whole := fun _ hc => by cases hc }

lemma Wire.failServer (h : s.Wire) : s.failServer.Wire :=
  { h with
    reading := fun hc => by cases hc
    front := fun hc => by cases hc
    whole := fun hc => by cases hc
    acking := fun hc => by cases hc }

/-- The client sends a transfer, or the front of one. -/
lemma Wire.send (h : s.Wire) {t : TcpTransfer} (ht : t.payload.length < 2 ^ 64) {bytes : Bytes}
    (hbytes : bytes <+: t.frame) (hconnected : s.client.connected = true) {client : TcpClient}
    (hwhole : client.connected = true → bytes = t.frame) :
    (s.sendFrame client t bytes).Wire := by
  have hle := h.storedLe
  have hdrop : (s.sent ++ [t]).drop s.stored.length = s.sent.drop s.stored.length ++ [t] :=
    List.drop_append_of_le_length hle
  refine
    { h with
      storedLe := ?_, storedSent := ?_, short := ?_, reading := ?_, front := ?_, whole := ?_ }
  · change s.stored.length ≤ (s.sent ++ [t]).length
    rw [List.length_append]
    exact hle.trans (Nat.le_add_right ..)
  · rw [sendFrame]
    rw [List.take_append_of_le_length hle]
    exact h.storedSent
  · intro t' ht'
    rcases List.mem_append.mp ht' with ht' | ht'
    · exact h.short t' ht'
    · rw [List.mem_singleton.mp ht']
      exact ht
  · intro hc
    rw [sendFrame]
    rw [hdrop]
    exact readingOk_append t (h.reading hc)
  · intro hc
    rw [sendFrame]
    rw [hdrop, toRead_append t (h.reading hc), h.whole hc hconnected]
    exact (List.prefix_append_right_inj _).mpr hbytes
  · intro hc hc'
    rw [sendFrame]
    rw [hdrop, toRead_append t (h.reading hc), h.whole hc hconnected, hwhole hc']

/-- The front of a stream that is long enough begins with the first piece. -/
lemma exists_append_of_front {α : Type*} {a b c : List α} (h : a <+: b ++ c) (hlen : b.length ≤ a.length) :
    ∃ d, a = b ++ d ∧ d <+: c := by
  obtain ⟨d, rfl⟩ := List.prefix_of_prefix_length_le (List.prefix_append b c) h hlen
  exact ⟨d, rfl, (List.prefix_append_right_inj b).mp h⟩

/-- The client reads an acknowledgement: it is the next one. -/
lemma Wire.readAck (h : s.Wire) (hlen : tcpMessageLen ≤ s.toClient.length) :
    ∃ st, s.stored[s.acksRead]? = some st ∧ tcpDecodeMessage s.toClient = some st.ack ∧
      s.dropAck.Wire := by
  have hpos : 0 < tcpMessageLen := by decide
  obtain ⟨st, rest, hdrop⟩ : ∃ st rest, s.stored.drop s.acksRead = st :: rest := by
    cases hd : s.stored.drop s.acksRead with
    | nil =>
      have hle := h.acksFront.length_le
      rw [hd, ackBytes, List.flatMap_nil, List.length_nil] at hle
      omega
    | cons st rest => exact ⟨st, rest, rfl⟩
  have hcons : s.stored.drop (s.acksRead + 1) = rest := by
    rw [← List.tail_drop, hdrop, List.tail_cons]
  have hfront := h.acksFront
  rw [hdrop, ackBytes, List.flatMap_cons] at hfront
  obtain ⟨left, hleft, hprefix⟩ := exists_append_of_front hfront (by rwa [TcpMessage.length_encode])
  have htail : s.toClient.drop tcpMessageLen = left := by
    rw [hleft, List.drop_left' (TcpMessage.length_encode _)]
  refine ⟨st, ?_, ?_, ?_⟩
  · rw [← List.head?_drop, hdrop, List.head?_cons]
  · rw [hleft, tcpDecodeMessage_encode]
  · refine { h with acksFront := ?_, acking := ?_ }
    · rw [dropAck, htail, hcons]
      exact hprefix
    · intro hc
      change AckingOk s.stored (s.acksRead + 1) (s.toClient.drop tcpMessageLen) s.server.receiving
      have hok := h.acking hc
      have hbytes {before : List TcpStored} (hread : s.acksRead ≤ before.length)
          (hclient : s.toClient = ackBytes (before.drop s.acksRead)) :
          s.acksRead + 1 ≤ before.length ∧
            s.toClient.drop tcpMessageLen = ackBytes (before.drop (s.acksRead + 1)) := by
        cases hb : before.drop s.acksRead with
        | nil =>
          rw [hclient, hb, ackBytes, List.flatMap_nil, List.length_nil] at hlen
          omega
        | cons st' rest' =>
          have hlt : s.acksRead < before.length := by
            by_contra hnot
            rw [List.drop_eq_nil_of_le (not_lt.mp hnot)] at hb
            cases hb
          refine ⟨hlt, ?_⟩
          rw [hclient, ← List.tail_drop, hb, ackBytes, List.flatMap_cons,
            List.drop_left' (TcpMessage.length_encode _)]
          rfl
      cases hr : s.server.receiving with
      | acking ack =>
        rw [hr] at hok
        obtain ⟨before, st', hstored, hack, hread, hclient⟩ := hok
        obtain ⟨hlt, hrest⟩ := hbytes hread hclient
        exact ⟨before, st', hstored, hack, hlt, hrest⟩
      | idle =>
        rw [hr] at hok
        exact hbytes hok.1 hok.2
      | header m =>
        rw [hr] at hok
        exact hbytes hok.1 hok.2
      | waiting m k =>
        rw [hr] at hok
        exact hbytes hok.1 hok.2

/-- The server reads the message of the next transfer. -/
lemma Wire.receiveHeader (h : s.Wire) : s.receiveHeader.Wire := by
  unfold TcpLink.receiveHeader
  cases hr : s.server.receiving with
  | idle =>
    dsimp only
    split_ifs with hblocked
    · exact h
    · rw [Bool.or_eq_true, Bool.not_eq_true', decide_eq_true_eq, not_or, not_lt,
        Bool.not_eq_false] at hblocked
      obtain ⟨hc, hlen⟩ := hblocked
      have hfront := h.front hc
      have hacking := h.acking hc
      rw [hr] at hfront hacking
      have hfail : Wire (TcpLink.failServer { s with toServer := s.toServer.drop tcpMessageLen }) :=
        { h with
          reading := fun hc => by cases hc
          front := fun hc => by cases hc
          whole := fun hc => by cases hc
          acking := fun hc => by cases hc }
      cases hu : s.sent.drop s.stored.length with
      | nil =>
        have hle := hfront.length_le
        rw [hu, toRead, List.flatMap_nil, List.length_nil] at hle
        have hpos : 0 < tcpMessageLen := by decide
        omega
      | cons t ts =>
        rw [hu, toRead, List.flatMap_cons, TcpTransfer.frame, List.append_assoc] at hfront
        obtain ⟨left, hleft, hprefix⟩ :=
          exists_append_of_front hfront (by rwa [TcpMessage.length_encode])
        have htail : s.toServer.drop tcpMessageLen = left := by
          rw [hleft, List.drop_left' (TcpMessage.length_encode _)]
        have hdecode : tcpDecodeMessage s.toServer = some t.header := by
          rw [hleft, tcpDecodeMessage_encode]
        rw [hdecode]
        dsimp only
        split_ifs with hvalid
        · refine { h with reading := ?_, front := ?_, whole := ?_, acking := fun _ => hacking }
          · intro _
            exact ⟨t, ts, hu, rfl⟩
          · intro _
            dsimp only
            rw [hu, htail]
            exact hprefix
          · intro _ hc'
            have hwhole := h.whole hc hc'
            rw [hr, hu, toRead, List.flatMap_cons, TcpTransfer.frame, List.append_assoc, hleft] at hwhole
            dsimp only
            rw [hu, htail]
            exact List.append_cancel_left hwhole
        · exact hfail
  | header m => exact h
  | waiting m k => exact h
  | acking ack => exact h

/-- What is noted of a payload is its checksum. -/
lemma checksum_writePayload {m : TcpMessage} {k : ℕ} {payload : Bytes}
    (hlen : payload.length = m.len.toNat) :
    readBytes (s.writePayload m k payload).server.memory
      ((s.server.regions.slots k).base + m.offset) m.len.toNat = payload := by
  have hlt := m.len.toNat_lt
  rw [← hlen]
  exact readBytes_writeBytes (by omega)

/-- The server gets a payload: it is that of the next transfer. -/
lemma Wire.receivePayload (h : s.Wire) (got : ℕ) : (s.receivePayload got).Wire := by
  have hreceived := s.received_receivePayload got
  generalize s.receivePayload got = s' at hreceived
  -- the message read is that of the next transfer
  have hnext {m : TcpMessage} {k : ℕ} (hreads : s.Reads m k) (hc : s.server.connected = true) :
      ∃ t ts, s.sent.drop s.stored.length = t :: ts ∧ m = t.header ∧
        s.toServer <+: t.payload ++ ts.flatMap TcpTransfer.frame ∧
        (s.client.connected = true → s.toServer = t.payload ++ ts.flatMap TcpTransfer.frame) := by
    have hreading := h.reading hc
    have hfront := h.front hc
    have hwhole := h.whole hc
    rcases hreads with ⟨hr, -⟩ | hr
    all_goals
      rw [hr] at hreading hfront hwhole
      obtain ⟨t, ts, hu, hm⟩ := hreading
      rw [hu] at hfront hwhole
      exact ⟨t, ts, hu, hm, hfront, hwhole⟩
  cases hreceived with
  | none => exact h
  | failed => exact h.failServer
  | waits hreads hready =>
    rename_i m k
    have hacking := h.acking
    refine { h with reading := ?_, front := ?_, whole := ?_, acking := ?_ }
    · intro hc
      obtain ⟨t, ts, hu, hm, -, -⟩ := hnext hreads hc
      exact ⟨t, ts, hu, hm⟩
    · intro hc
      obtain ⟨t, ts, hu, -, hfront, -⟩ := hnext hreads hc
      dsimp only
      rw [hu]
      exact hfront
    · intro hc hc'
      obtain ⟨t, ts, hu, -, -, hwhole⟩ := hnext hreads hc
      dsimp only
      rw [hu]
      exact hwhole hc'
    · intro hc
      have hok := hacking hc
      rcases hreads with ⟨hr, -⟩ | hr
      all_goals
        rw [hr] at hok
        exact hok
  | short hreads hready hfits hlen =>
    exact
      { h with
        reading := fun hc => by cases hc
        front := fun hc => by cases hc
        whole := fun hc => by cases hc
        acking := fun hc => by cases hc }
  | stored hreads hc hready hfits hfront hlen =>
    rename_i m k payload
    obtain ⟨t, ts, hu, rfl, hprefix, hwhole⟩ := hnext hreads hc
    have htlen : t.header.len.toNat = t.payload.length := by
      have ht : t ∈ s.sent := List.mem_of_mem_drop (hu ▸ List.mem_cons_self ..)
      exact UInt64.toNat_ofNat_of_lt' (h.short t ht)
    -- what has come in is the payload
    have hpayload : payload = t.payload := by
      apply (List.prefix_of_prefix_length_le (hfront.trans hprefix) (List.prefix_append ..) _).eq_of_length
      · rw [hlen, htlen]
      · rw [hlen, htlen]
    subst hpayload
    have hlt : s.stored.length < s.sent.length := by
      by_contra hnot
      rw [List.drop_eq_nil_of_le (not_lt.mp hnot)] at hu
      cases hu
    have hget : s.sent[s.stored.length]? = some t := by rw [← List.head?_drop, hu, List.head?_cons]
    obtain ⟨hread, hclient⟩ : s.acksRead ≤ s.stored.length ∧
        s.toClient = ackBytes (s.stored.drop s.acksRead) := by
      have hok := h.acking hc
      rcases hreads with ⟨hr, -⟩ | hr
      all_goals
        rw [hr] at hok
        exact hok
    refine
      { storedLe := ?_, storedSent := ?_, checksums := ?_, short := h.short, reading := fun _ => trivial,
        front := ?_, whole := ?_, acksFront := ?_, acking := ?_ }
    · rw [notePayload, List.length_append]
      exact hlt
    · rw [notePayload, List.length_append, List.length_singleton, List.map_append, List.take_add_one]
      exact congrArg₂ (· ++ ·) h.storedSent (congrArg Option.toList hget.symm)
    · intro st hst
      rcases List.mem_append.mp hst with hst | hst
      · exact h.checksums st hst
      · rw [List.mem_singleton.mp hst]
        exact congrArg checksumBytes (checksum_writePayload hlen)
    · intro _
      rw [notePayload, List.length_append, List.length_singleton, ← List.tail_drop]
      change s.toServer.drop t.payload.length <+: toRead (s.sent.drop s.stored.length).tail (.acking _)
      rw [hu, List.tail_cons, toRead]
      obtain ⟨rest, hrest, hfront'⟩ := exists_append_of_front hprefix hfront.length_le
      rw [hrest, List.drop_left]
      exact hfront'
    · intro _ hc'
      rw [notePayload, List.length_append, List.length_singleton, ← List.tail_drop]
      change s.toServer.drop t.payload.length = toRead (s.sent.drop s.stored.length).tail (.acking _)
      rw [hu, List.tail_cons, toRead, hwhole hc', List.drop_left]
    · change s.toClient <+: ackBytes ((s.stored ++ [_]).drop s.acksRead)
      rw [List.drop_append_of_le_length hread, ackBytes, List.flatMap_append, hclient]
      exact List.prefix_append _ _
    · intro _
      exact ⟨s.stored, _, rfl, rfl, hread, hclient⟩

/-- The server acknowledges what it has stored. -/
lemma Wire.sendAck (h : s.Wire) (out : ℕ) : (s.sendAck out).Wire := by
  unfold TcpLink.sendAck
  cases hr : s.server.receiving with
  | idle => exact h
  | header m => exact h
  | waiting m k => exact h
  | acking ack =>
    dsimp only
    by_cases hc : s.server.connected = true
    · have hreading := h.reading hc
      have hfront := h.front hc
      have hwhole := h.whole hc
      have hok := h.acking hc
      rw [hr] at hreading hfront hwhole hok
      obtain ⟨before, st, hstored, rfl, hread, hclient⟩ := hok
      have hrest : ackBytes (s.stored.drop s.acksRead) = s.toClient ++ st.ack.encode := by
        rw [hstored, List.drop_append_of_le_length hread, ackBytes, List.flatMap_append, List.flatMap_singleton,
          hclient, ackBytes]
      split_ifs with hdown hshort hstatus
      · exact h.failServer
      · refine
          { h with
            reading := fun hc => by cases hc
            front := fun hc => by cases hc
            whole := fun hc => by cases hc
            acksFront := ?_
            acking := fun hc => by cases hc }
        change s.toClient ++ _ <+: ackBytes (s.stored.drop s.acksRead)
        rw [hrest]
        exact (List.prefix_append_right_inj _).mpr (List.take_prefix ..)
      all_goals
        have hsent : Wire { s with
            toClient := s.toClient ++ st.ack.encode, server := { s.server with receiving := .idle } } := by
          refine
            { h with
              reading := fun _ => trivial
              front := fun _ => hfront
              whole := fun _ => hwhole
              acksFront := ?_
              acking := fun _ => ⟨?_, hrest.symm⟩ }
          · dsimp only
            rw [hrest]
          · dsimp only
            rw [hstored, List.length_append]
            omega
      · exact hsent
      · exact hsent.failServer
    · rw [Bool.not_eq_true] at hc
      rw [hc]
      exact h.failServer

lemma Wire.submit (h : s.Wire) (request : TransferRequest) (out : ℕ) : (s.submit request out).Wire := by
  have hsubmitted := s.submitted_submit request out
  generalize s.submit request out = s' at hsubmitted
  cases hsubmitted with
  | refused => exact h
  | broken => exact Wire.failClient { h with }
  | cut hc hid hpos hlen hbytes =>
    rename_i t bytes
    change (s.sendFrame { s.client with
      connected := false, nextCompletionId := t.completionId } t bytes).Wire
    exact h.send hlen hbytes hc fun hc' => by cases hc'
  | done hc hpolling hid hpos hlen hfree => exact h.send hlen List.prefix_rfl hc fun _ => rfl

lemma Wire.pollNext (h : s.Wire) : s.pollNext.Wire := by
  have hwaited := s.waited_pollNext
  generalize s.pollNext = s' at hwaited
  cases hwaited with
  | none => exact h
  | failed => exact h.failPoll
  | misread hlen =>
    obtain ⟨st, -, -, hw⟩ := h.readAck hlen
    exact hw.failPoll
  | confirmed hlen hack hpos hid hmatches =>
    obtain ⟨st, -, -, hw⟩ := h.readAck hlen
    exact { hw with }
  | handed hpolling hstatus => exact { h with }

lemma Wire.poll (h : s.Wire) (completionId : UInt64) : (s.poll completionId).Wire := by
  unfold TcpLink.poll
  split_ifs
  · exact h
  · split
    · exact h.failClient
    · exact { h with }

lemma Wire.waitReceive (h : s.Wire) (request : ReceiveRequest) : (s.waitReceive request).Wire := by
  have hfetched := s.fetched_waitReceive request
  generalize s.waitReceive request = s' at hfetched
  cases hfetched with
  | none => exact h
  | failed => exact h.failServer
  | refused hready => exact Wire.failServer { h with }
  | taken hfound hready hmatches => exact { h with }

/-- **What is on the way stays right.** -/
lemma Wire.step (h : s.Wire) (m : TcpMove) : (s.step m).Wire := by
  cases m with
  | clientRegister request =>
    rw [TcpLink.step]
    split
    · exact { h with }
    · exact h
  | clientDeregister handle => exact { h with }
  | clientMemory memory => exact { h with }
  | submit request out => exact h.submit request out
  | poll completionId => exact h.poll completionId
  | pollNext => exact h.pollNext
  | pollFail =>
    rw [TcpLink.step]
    split_ifs
    · exact h.failPoll
    · exact h
  | clientFail => exact h.failClient
  | serverRegister request =>
    rw [TcpLink.step]
    split
    · exact { h with }
    · exact h
  | serverDeregister handle => exact { h with }
  | serverMemory memory => exact { h with }
  | receiveHeader => exact h.receiveHeader
  | receivePayload got => exact h.receivePayload got
  | sendAck out => exact h.sendAck out
  | waitReceive request => exact h.waitReceive request
  | serverFail => exact h.failServer

end Wire

end TcpLink

end MemService
