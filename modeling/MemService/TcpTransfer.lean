import Mathlib.Data.UInt
import MemService.Lib.Run
import MemService.TcpWire

/-!
# Transfers over TCP

The client of a connection sends the bytes of a slice of one of its regions with `submit_transfer` and asks
with `poll_completion` whether they have arrived; the server stores them in the region the client names,
acknowledges them and hands them out with `wait_receive`.  Each side is one end of a byte stream that loses
and reorders nothing, but can break off anywhere; an end that has failed is shut down.  Several transfers may
be under way, and a transfer to a region whose last one nobody has taken yet waits in the middle, without the
lock of the regions.

Two things are coarser than in the code.  A submit tests the connection and sends in one move, where a submit
that waits for the lock may still send once behind a failure; and a poll takes an acknowledgement whole, where
it may stop inside one.

A run is any order of the moves of both sides, of registrations and deregistrations, and of writes of the
programs to their own memory.  What a move can do is said once, by `Submitted`, `Waited`, `Received` and
`Fetched`.
-/

open ByteText

namespace MemService

/-! ## Memory -/

/-- Memory with bytes written from an address on. -/
def writeBytes (memory : UInt64 → UInt8) (address : UInt64) (bytes : Bytes) : UInt64 → UInt8 :=
  fun x =>
    if (x - address).toNat < bytes.length then bytes.getD (x - address).toNat 0 else memory x

/-- The bytes from an address on. -/
def readBytes (memory : UInt64 → UInt8) (address : UInt64) (len : ℕ) : Bytes :=
  (List.range len).map fun i => memory (address + UInt64.ofNat i)

lemma length_readBytes (memory : UInt64 → UInt8) (address : UInt64) (len : ℕ) :
    (readBytes memory address len).length = len := by
  rw [readBytes, List.length_map, List.length_range]

lemma getElem_readBytes {memory : UInt64 → UInt8} {address : UInt64} {len i : ℕ}
    (hi : i < (readBytes memory address len).length) :
    (readBytes memory address len)[i] = memory (address + UInt64.ofNat i) := by
  simp [readBytes]

lemma toNat_add_ofNat_sub {address : UInt64} {i : ℕ} (hi : i < 2 ^ 64) :
    (address + UInt64.ofNat i - address).toNat = i := by
  rw [add_sub_cancel_left]
  exact UInt64.toNat_ofNat_of_lt' hi

/-- What was written is read. -/
lemma readBytes_writeBytes {memory : UInt64 → UInt8} {address : UInt64} {bytes : Bytes}
    (hlen : bytes.length ≤ 2 ^ 64) :
    readBytes (writeBytes memory address bytes) address bytes.length = bytes := by
  apply List.ext_getElem (length_readBytes ..)
  intro i hi hi'
  rw [getElem_readBytes, writeBytes, toNat_add_ofNat_sub (by omega), if_pos hi',
    List.getD_eq_getElem?_getD, List.getElem?_eq_getElem hi', Option.getD_some]

/-- Bytes that are the same in both memories. -/
lemma readBytes_congr {memory memory' : UInt64 → UInt8} {address : UInt64} {len : ℕ}
    (h : ∀ i < len, memory' (address + UInt64.ofNat i) = memory (address + UInt64.ofNat i)) :
    readBytes memory' address len = readBytes memory address len := by
  apply List.map_congr_left
  intro i hi
  exact h i (List.mem_range.mp hi)

/-! ## Both ends -/

/-- `MEM_SERVICE_TCP_MAX_REGIONS`. -/
def tcpMaxRegions : ℕ := 16
/-- `MEM_SERVICE_TCP_MAX_COMPLETIONS`. -/
def tcpMaxCompletions : ℕ := 64
/-- `EILSEQ`. -/
def errnoIlseq : UInt32 := 84
/-- `EINPROGRESS`. -/
def errnoInprogress : Int32 := 115

deriving instance DecidableEq for TransferCompletion

/-- `struct mem_service_transfer_completion` of zeros. -/
def TransferCompletion.zero : TransferCompletion := ⟨0, 0, 0, 0⟩

/-- `struct mem_service_tcp_region_slot`. -/
structure TcpRegionSlot where
  inUse : Bool := false
  receiveReady : Bool := false
  handle : UInt64 := 0
  base : UInt64 := 0
  len : UInt64 := 0
  receiveOffset : UInt64 := 0
  receiveCompletion : TransferCompletion := .zero

/-- `struct mem_service_tcp_pending_completion`. -/
structure TcpPending where
  completion : TransferCompletion := .zero
  destinationHandle : UInt64 := 0
  destinationOffset : UInt64 := 0

/-- The regions of an end: `regions` and `next_region_handle` of `struct mem_service_tcp_context`. -/
structure TcpRegions where
  slots : ℕ → TcpRegionSlot
  nextHandle : UInt64

namespace TcpRegions

/-- `mem_service_tcp_find_region`. -/
def find (r : TcpRegions) (handle : UInt64) : Option ℕ :=
  (List.range tcpMaxRegions).find? fun i => (r.slots i).inUse && (r.slots i).handle == handle

/-- The first slot that is free. -/
def free (r : TcpRegions) : Option ℕ := (List.range tcpMaxRegions).find? fun i => !(r.slots i).inUse

def setSlot (r : TcpRegions) (i : ℕ) (slot : TcpRegionSlot) : TcpRegions :=
  { r with slots := Function.update r.slots i slot }

/-- What a registration is checked for. -/
def acceptable (request : RegionRequest) : Bool :=
  request.base != 0 && request.len != 0 && request.memoryKind == .host

/-- The slot of a new region. -/
def newSlot (r : TcpRegions) (request : RegionRequest) : TcpRegionSlot :=
  { inUse := true, handle := r.nextHandle + 1, base := request.base, len := request.len }

/-- `mem_service_tcp_provider_register_region`, of an end that is connected; `none` where it fails. -/
def register (r : TcpRegions) (request : RegionRequest) : Option TcpRegions :=
  if acceptable request then
    r.free.map fun i => ⟨Function.update r.slots i (r.newSlot request), r.nextHandle + 1⟩
  else none

/-- `mem_service_tcp_provider_deregister_region`. -/
def deregister (r : TcpRegions) (handle : UInt64) : TcpRegions :=
  match r.find handle with
  | some i => r.setSlot i {}
  | none => r

end TcpRegions

/-- What the server is doing about a transfer: waiting for a message, between the message and the lock of
the regions, waiting for the last transfer of a slot to be taken, or about to acknowledge. -/
inductive TcpReceiving
  | idle
  | header (request : TcpMessage)
  | waiting (request : TcpMessage) (slot : ℕ)
  | acking (ack : TcpMessage)

/-- The server's end. -/
structure TcpServer where
  connected : Bool
  regions : TcpRegions
  memory : UInt64 → UInt8
  receiving : TcpReceiving

/-- The client's end, with the slot that a poll under way waits for. -/
structure TcpClient where
  connected : Bool
  regions : TcpRegions
  memory : UInt64 → UInt8
  nextCompletionId : UInt64
  pending : ℕ → TcpPending
  polling : Option ℕ

/-! ## What happens on a connection -/

/-- A transfer as the client sends it. -/
structure TcpTransfer where
  completionId : UInt64
  regionHandle : UInt64
  offset : UInt64
  checksum : UInt64
  payload : Bytes

/-- The message that announces a transfer. -/
def TcpTransfer.header (t : TcpTransfer) : TcpMessage :=
  ⟨tcpMessageTransfer, 0, t.completionId, t.regionHandle, t.offset, UInt64.ofNat t.payload.length,
    t.checksum⟩

/-- What the client sends of a transfer. -/
def TcpTransfer.frame (t : TcpTransfer) : Bytes := t.header.encode ++ t.payload

/-- A transfer that the server has stored, and in which slot, when the slot was what it says here. -/
structure TcpStored where
  transfer : TcpTransfer
  slot : ℕ
  handle : UInt64
  base : UInt64
  regionLen : UInt64
  checksum : UInt64

/-- The status of what was stored. -/
def TcpStored.status (st : TcpStored) : UInt32 :=
  if st.checksum = st.transfer.checksum then 0 else errnoIlseq

/-- The acknowledgement of a transfer. -/
def TcpStored.ack (st : TcpStored) : TcpMessage :=
  ⟨tcpMessageAck, st.status, st.transfer.completionId, st.transfer.regionHandle, st.transfer.offset,
    UInt64.ofNat st.transfer.payload.length, st.checksum⟩

/-- What a wait was handed out: which of the stored transfers, for which request, and the bytes of the
slice at that moment. -/
structure TcpTaken where
  stored : ℕ
  request : ReceiveRequest
  completion : TransferCompletion
  bytes : Bytes

/-- Both ends, what is under way between them, and what has happened: the transfers sent, the last of them
perhaps in part, those stored, the number of acknowledgements read, the completions handed out, and the
receives handed out.  `lastStored` is the number of the transfer that a slot got last. -/
structure TcpLink where
  client : TcpClient
  server : TcpServer
  toServer : Bytes
  toClient : Bytes
  sent : List TcpTransfer
  stored : List TcpStored
  acksRead : ℕ
  polled : List TransferCompletion
  taken : List TcpTaken
  lastStored : ℕ → ℕ

/-- The moves.  A send says how many bytes get out and the receive of a payload how many come in before the
connection breaks off, if it does. -/
inductive TcpMove
  | clientRegister (request : RegionRequest)
  | clientDeregister (handle : UInt64)
  | clientMemory (memory : UInt64 → UInt8)
  | submit (request : TransferRequest) (out : ℕ)
  | poll (completionId : UInt64)
  | pollNext
  | pollFail
  | clientFail
  | serverRegister (request : RegionRequest)
  | serverDeregister (handle : UInt64)
  | serverMemory (memory : UInt64 → UInt8)
  | receiveHeader
  | receivePayload (got : ℕ)
  | sendAck (out : ℕ)
  | waitReceive (request : ReceiveRequest)
  | serverFail

namespace TcpLink

/-- `mem_service_tcp_fail_connection`, of the client. -/
def failClient (s : TcpLink) : TcpLink := { s with client := { s.client with connected := false } }

/-- A poll fails, and the connection with it. -/
def failPoll (s : TcpLink) : TcpLink :=
  { s with client := { s.client with connected := false, polling := none } }

/-- `mem_service_tcp_fail_connection`, of the server. -/
def failServer (s : TcpLink) : TcpLink :=
  { s with server := { s.server with connected := false, receiving := .idle } }

/-- `mem_service_tcp_provider_submit_transfer`, in one move; what it refuses before it has an id leaves the
connection alone. -/
def submit (s : TcpLink) (request : TransferRequest) (out : ℕ) : TcpLink :=
  let c := s.client
  if !c.connected || c.polling.isSome || request.source.len == 0 ||
      request.source.len != request.destination.len then
    s
  else
    match tcpDecodeDescriptor request.destination.descriptor with
    | none => s
    | some (destinationHandle, destinationLen) =>
        match (List.range tcpMaxCompletions).find? fun i => (c.pending i).completion.id == 0,
            c.regions.find request.source.regionHandle with
        | some completionSlot, some sourceSlot =>
            let source := c.regions.slots sourceSlot
            if !sliceFits request.source.offset request.source.len source.len then s
            else
              let id := c.nextCompletionId + 1
              let c := { c with nextCompletionId := id }
              -- `mem_service_tcp_send_transfer`
              if !sliceFits request.destination.offset request.source.len destinationLen ||
                  request.expectedChecksum == 0 || id == 0 then
                failClient { s with client := c }
              else
                let t : TcpTransfer :=
                  ⟨id, destinationHandle, request.destination.offset, request.expectedChecksum,
                    readBytes c.memory (source.base + request.source.offset) request.source.len.toNat⟩
                if out < t.frame.length then
                  failClient
                    { s with
                      client := c, toServer := s.toServer ++ t.frame.take out, sent := s.sent ++ [t] }
                else
                  { s with
                    client := { c with
                      pending := Function.update c.pending completionSlot
                        ⟨⟨id, errnoInprogress, request.source.len, request.expectedChecksum⟩,
                          destinationHandle, request.destination.offset⟩ }
                    toServer := s.toServer ++ t.frame
                    sent := s.sent ++ [t] }
        | _, _ => s

/-- `mem_service_tcp_provider_poll_completion` as far as its loop. -/
def poll (s : TcpLink) (completionId : UInt64) : TcpLink :=
  if s.client.polling.isSome || completionId == 0 then s
  else
    match (List.range tcpMaxCompletions).find? fun i =>
        (s.client.pending i).completion.id == completionId with
    | none => s.failClient
    | some i => { s with client := { s.client with polling := some i } }

/-- An acknowledgement is that of what is pending in a slot. -/
def ackMatches (p : TcpPending) (ack : TcpMessage) : Bool :=
  ack.status == 0 && ack.regionHandle == p.destinationHandle && ack.offset == p.destinationOffset &&
    ack.len == p.completion.transferredBytes && ack.checksum == p.completion.checksum

/-- The next message to the client is read. -/
def dropAck (s : TcpLink) : TcpLink :=
  { s with toClient := s.toClient.drop tcpMessageLen, acksRead := s.acksRead + 1 }

/-- What is pending in a slot has arrived. -/
def confirm (s : TcpLink) (i : ℕ) : TcpLink :=
  let p := s.client.pending i
  { s with
    client := { s.client with
      pending := Function.update s.client.pending i
        { p with completion := { p.completion with status := 0 } } } }

/-- What a poll does with an acknowledgement. -/
def applyAck (s : TcpLink) (ack : TcpMessage) : TcpLink :=
  if ack.type != tcpMessageAck || ack.completionId == 0 then s.failPoll
  else
    match (List.range tcpMaxCompletions).find? fun i =>
        (s.client.pending i).completion.id == ack.completionId with
    | none => s.failPoll
    | some i => if ackMatches (s.client.pending i) ack then s.confirm i else s.failPoll

/-- The end of a poll. -/
def handOut (s : TcpLink) (i : ℕ) : TcpLink :=
  { s with
    client := { s.client with
      pending := Function.update s.client.pending i {}
      polling := none }
    polled := s.polled ++ [(s.client.pending i).completion] }

/-- The next round of the loop of a poll under way, or its end.  What has come in before the connection failed
is still read. -/
def pollNext (s : TcpLink) : TcpLink :=
  match s.client.polling with
  | none => s
  | some i =>
      let p := s.client.pending i
      if p.completion.status == errnoInprogress then
        if s.toClient.length < tcpMessageLen then s
        else
          match tcpDecodeMessage s.toClient with
          | none => s.dropAck.failPoll
          | some ack => s.dropAck.applyAck ack
      else if p.completion.status == 0 then s.handOut i
      else s.failPoll

/-- The checks of the message that announces a transfer. -/
def requestValid (m : TcpMessage) : Bool :=
  m.type == tcpMessageTransfer && m.status == 0 && m.completionId != 0 && m.regionHandle != 0 &&
    m.len != 0 && m.checksum != 0

/-- The first message of `mem_service_tcp_receive_transfer`. -/
def receiveHeader (s : TcpLink) : TcpLink :=
  match s.server.receiving with
  | .idle =>
      if !s.server.connected || s.toServer.length < tcpMessageLen then s
      else
        let rest := { s with toServer := s.toServer.drop tcpMessageLen }
        match tcpDecodeMessage s.toServer with
        | none => rest.failServer
        | some m =>
            if requestValid m then { rest with server := { s.server with receiving := .header m } }
            else rest.failServer
  | _ => s

/-- The bytes of a payload go to their slice. -/
def writePayload (s : TcpLink) (m : TcpMessage) (k : ℕ) (payload : Bytes) : TcpLink :=
  { s with
    toServer := s.toServer.drop payload.length
    server := { s.server with
      memory := writeBytes s.server.memory ((s.server.regions.slots k).base + m.offset) payload } }

/-- A payload that has come in whole is summed up, noted in its slot and about to be acknowledged. -/
def notePayload (s : TcpLink) (m : TcpMessage) (k : ℕ) (payload : Bytes) : TcpLink :=
  let slot := s.server.regions.slots k
  let checksum := checksumBytes (readBytes s.server.memory (slot.base + m.offset) m.len.toNat)
  let status := if checksum = m.checksum then 0 else errnoIlseq
  { s with
    server :=
      { s.server with
        regions := s.server.regions.setSlot k
          { slot with
            receiveReady := true
            receiveOffset := m.offset
            receiveCompletion := ⟨m.completionId, status.toInt32, m.len, checksum⟩ }
        receiving :=
          .acking ⟨tcpMessageAck, status, m.completionId, m.regionHandle, m.offset, m.len, checksum⟩ }
    stored := s.stored ++
      [⟨⟨m.completionId, m.regionHandle, m.offset, m.checksum, payload⟩, k, slot.handle, slot.base,
        slot.len, checksum⟩]
    lastStored := Function.update s.lastStored k s.stored.length }

/-- The part of `mem_service_tcp_receive_transfer` behind the wait: the payload comes in. -/
def storePayload (s : TcpLink) (m : TcpMessage) (k got : ℕ) : TcpLink :=
  let slot := s.server.regions.slots k
  if !s.server.connected || slot.receiveReady || !sliceFits m.offset m.len slot.len then s.failServer
  else
    let payload := s.toServer.take (min got m.len.toNat)
    let rest := s.writePayload m k payload
    if payload.length < m.len.toNat then rest.failServer else rest.notePayload m k payload

/-- One round of the wait: the slot is still taken, or the payload comes in. -/
def lockRegion (s : TcpLink) (m : TcpMessage) (k got : ℕ) : TcpLink :=
  if (s.server.regions.slots k).receiveReady && s.server.connected then
    { s with server := { s.server with receiving := .waiting m k } }
  else s.storePayload m k got

/-- `mem_service_tcp_receive_transfer` from the lock of the regions on. -/
def receivePayload (s : TcpLink) (got : ℕ) : TcpLink :=
  match s.server.receiving with
  | .header m =>
      match s.server.regions.find m.regionHandle with
      | none => s.failServer
      | some k => s.lockRegion m k got
  | .waiting m k => s.lockRegion m k got
  | _ => s

/-- The acknowledgement at the end of `mem_service_tcp_receive_transfer`; a transfer that does not have its
checksum ends the connection. -/
def sendAck (s : TcpLink) (out : ℕ) : TcpLink :=
  match s.server.receiving with
  | .acking ack =>
      if !s.server.connected then s.failServer
      else if out < tcpMessageLen then
        failServer { s with toClient := s.toClient ++ ack.encode.take out }
      else
        let sent :=
          { s with toClient := s.toClient ++ ack.encode, server := { s.server with receiving := .idle } }
        if ack.status == 0 then sent else sent.failServer
  | _ => s

/-- What `mem_service_tcp_take_receive_locked` compares. -/
def receiveMatches (slot : TcpRegionSlot) (request : ReceiveRequest) (descriptorLen : UInt64) : Bool :=
  descriptorLen == slot.len && sliceFits request.destination.offset request.destination.len slot.len &&
    slot.receiveOffset == request.destination.offset && slot.receiveCompletion.status == 0 &&
    slot.receiveCompletion.transferredBytes == request.destination.len &&
    slot.receiveCompletion.checksum == request.expectedChecksum

/-- What a slot has ready is taken from it. -/
def clearReceive (s : TcpLink) (k : ℕ) : TcpLink :=
  { s with
    server := { s.server with
      regions := s.server.regions.setSlot k
        { s.server.regions.slots k with
          receiveReady := false, receiveOffset := 0, receiveCompletion := .zero } } }

/-- What the program finds in its memory when it is handed out what slot `k` has ready. -/
def readyBytes (s : TcpLink) (k : ℕ) : Bytes :=
  let slot := s.server.regions.slots k
  readBytes s.server.memory (slot.base + slot.receiveOffset) slot.receiveCompletion.transferredBytes.toNat

/-- What slot `k` has ready is handed out. -/
def takeReceive (s : TcpLink) (request : ReceiveRequest) (k : ℕ) : TcpLink :=
  { s.clearReceive k with
    taken := s.taken ++
      [⟨s.lastStored k, request, (s.server.regions.slots k).receiveCompletion, s.readyBytes k⟩] }

/-- A round of `mem_service_tcp_provider_wait_receive`, with `mem_service_tcp_take_receive_locked`; where
nothing is ready the wait goes on. -/
def waitReceive (s : TcpLink) (request : ReceiveRequest) : TcpLink :=
  if request.destination.regionHandle == 0 || request.destination.len == 0 ||
      request.expectedChecksum == 0 then
    s
  else
    match tcpDecodeDescriptor request.destination.descriptor with
    | none => s
    | some (descriptorHandle, descriptorLen) =>
        if descriptorHandle != request.destination.regionHandle then s
        else
          match s.server.regions.find request.destination.regionHandle with
          | none => s.failServer
          | some k =>
              if !(s.server.regions.slots k).receiveReady then s
              else if receiveMatches (s.server.regions.slots k) request descriptorLen then
                s.takeReceive request k
              else (s.clearReceive k).failServer

def step (s : TcpLink) : TcpMove → TcpLink
  | .clientRegister request =>
      match s.client.connected, s.client.regions.register request with
      | true, some regions => { s with client := { s.client with regions := regions } }
      | _, _ => s
  | .clientDeregister handle =>
      { s with client := { s.client with regions := s.client.regions.deregister handle } }
  | .clientMemory memory => { s with client := { s.client with memory := memory } }
  | .submit request out => s.submit request out
  | .poll completionId => s.poll completionId
  | .pollNext => s.pollNext
  | .pollFail => if s.client.polling.isSome then s.failPoll else s
  | .clientFail => s.failClient
  | .serverRegister request =>
      match s.server.connected, s.server.regions.register request with
      | true, some regions => { s with server := { s.server with regions := regions } }
      | _, _ => s
  | .serverDeregister handle =>
      { s with server := { s.server with regions := s.server.regions.deregister handle } }
  | .serverMemory memory => { s with server := { s.server with memory := memory } }
  | .receiveHeader => s.receiveHeader
  | .receivePayload got => s.receivePayload got
  | .sendAck out => s.sendAck out
  | .waitReceive request => s.waitReceive request
  | .serverFail => s.failServer

/-- A connection nobody has used yet. -/
def start (clientMemory serverMemory : UInt64 → UInt8) : TcpLink where
  client := ⟨true, ⟨fun _ => {}, 0⟩, clientMemory, 0, fun _ => {}, none⟩
  server := ⟨true, ⟨fun _ => {}, 0⟩, serverMemory, .idle⟩
  toServer := []
  toClient := []
  sent := []
  stored := []
  acksRead := 0
  polled := []
  taken := []
  lastStored := fun _ => 0

/-! ## What a receive does -/

/-- The server has read the message of a transfer to slot `k`. -/
def Reads (s : TcpLink) (m : TcpMessage) (k : ℕ) : Prop :=
  (s.server.receiving = .header m ∧ s.server.regions.find m.regionHandle = some k) ∨
    s.server.receiving = .waiting m k

/-- **What becomes of a payload.**  It is put off, it breaks off, or it is stored. -/
inductive Received (s : TcpLink) : TcpLink → Prop
  | none : Received s s
  | failed : Received s s.failServer
  | waits {m : TcpMessage} {k : ℕ} (hreads : s.Reads m k)
      (hready : (s.server.regions.slots k).receiveReady = true) :
      Received s { s with server := { s.server with receiving := .waiting m k } }
  | short {m : TcpMessage} {k : ℕ} {payload : Bytes} (hreads : s.Reads m k)
      (hready : (s.server.regions.slots k).receiveReady = false)
      (hfits : m.offset.toNat + m.len.toNat ≤ (s.server.regions.slots k).len.toNat)
      (hlen : payload.length ≤ m.len.toNat) :
      Received s (s.writePayload m k payload).failServer
  | stored {m : TcpMessage} {k : ℕ} {payload : Bytes} (hreads : s.Reads m k)
      (hc : s.server.connected = true) (hready : (s.server.regions.slots k).receiveReady = false)
      (hfits : m.offset.toNat + m.len.toNat ≤ (s.server.regions.slots k).len.toNat)
      (hfront : payload <+: s.toServer) (hlen : payload.length = m.len.toNat) :
      Received s ((s.writePayload m k payload).notePayload m k payload)

section Received

variable {s : TcpLink}

lemma Reads.storePayload {m : TcpMessage} {k : ℕ} (h : s.Reads m k) (got : ℕ) :
    s.Received (s.storePayload m k got) := by
  unfold TcpLink.storePayload
  dsimp only
  split_ifs with hrefused hshort
  · exact .failed
  all_goals
    simp only [Bool.or_eq_true, Bool.not_eq_true', not_or, Bool.not_eq_true, Bool.not_eq_false,
      sliceFits_iff] at hrefused
    obtain ⟨⟨hc, hready⟩, hfits⟩ := hrefused
    have htake : (s.toServer.take (min got m.len.toNat)).length ≤ m.len.toNat :=
      (List.length_take_le _ _).trans (min_le_right _ _)
  · exact .short h hready hfits htake
  · exact .stored h hc hready hfits (List.take_prefix _ _) (le_antisymm htake (not_lt.mp hshort))

lemma Reads.lockRegion {m : TcpMessage} {k : ℕ} (h : s.Reads m k) (got : ℕ) :
    s.Received (s.lockRegion m k got) := by
  unfold TcpLink.lockRegion
  split_ifs with hready
  · exact .waits h (Bool.and_eq_true _ _ ▸ hready).1
  · exact h.storePayload got

lemma received_receivePayload (s : TcpLink) (got : ℕ) : s.Received (s.receivePayload got) := by
  unfold receivePayload
  cases hr : s.server.receiving with
  | idle => exact .none
  | acking ack => exact .none
  | waiting m k => exact Reads.lockRegion (.inr hr) got
  | header m =>
    dsimp only
    cases hf : s.server.regions.find m.regionHandle with
    | none => exact .failed
    | some k => exact Reads.lockRegion (.inl ⟨hr, hf⟩) got

end Received

/-! ## What a submit does -/

/-- The state behind a transfer that is sent, or of which only the front is. -/
def sendFrame (s : TcpLink) (client : TcpClient) (t : TcpTransfer) (bytes : Bytes) : TcpLink :=
  { s with client := client, toServer := s.toServer ++ bytes, sent := s.sent ++ [t] }

/-- What the client notes of a transfer. -/
def pendingOf (t : TcpTransfer) : TcpPending :=
  ⟨⟨t.completionId, errnoInprogress, UInt64.ofNat t.payload.length, t.checksum⟩, t.regionHandle, t.offset⟩

/-- **What becomes of a submit.**  It is refused, it ends the connection, or it sends a slice of a region. -/
inductive Submitted (s : TcpLink) (request : TransferRequest) : TcpLink → Prop
  | refused : Submitted s request s
  | broken : Submitted s request (failClient
      { s with client := { s.client with nextCompletionId := s.client.nextCompletionId + 1 } })
  | cut {t : TcpTransfer} {bytes : Bytes} (hc : s.client.connected = true)
      (hid : t.completionId = s.client.nextCompletionId + 1) (hpos : t.completionId ≠ 0)
      (hlen : t.payload.length < 2 ^ 64) (hbytes : bytes <+: t.frame) :
      Submitted s request (failClient
        (s.sendFrame { s.client with nextCompletionId := t.completionId } t bytes))
  | done {t : TcpTransfer} {i : ℕ} (hc : s.client.connected = true) (hpolling : s.client.polling = none)
      (hid : t.completionId = s.client.nextCompletionId + 1) (hpos : t.completionId ≠ 0)
      (hlen : t.payload.length < 2 ^ 64) (hfree : (s.client.pending i).completion.id = 0) :
      Submitted s request (s.sendFrame
        { s.client with
          nextCompletionId := t.completionId
          pending := Function.update s.client.pending i (pendingOf t) } t t.frame)

open Submitted in
lemma submitted_submit (s : TcpLink) (request : TransferRequest) (out : ℕ) :
    s.Submitted request (s.submit request out) := by
  unfold submit
  dsimp only
  split_ifs with hrefused
  · exact .refused
  simp only [Bool.or_eq_true, Bool.not_eq_true', not_or, Bool.not_eq_true, Bool.not_eq_false,
    Option.isSome_eq_false_iff, Option.isNone_iff_eq_none] at hrefused
  obtain ⟨⟨⟨hc, hpolling⟩, -⟩, -⟩ := hrefused
  cases tcpDecodeDescriptor request.destination.descriptor with
  | none => exact .refused
  | some d =>
    obtain ⟨destinationHandle, destinationLen⟩ := d
    dsimp only
    cases hslot : (List.range tcpMaxCompletions).find? fun i =>
        (s.client.pending i).completion.id == 0 with
    | none => exact .refused
    | some i =>
      cases s.client.regions.find request.source.regionHandle with
      | none => exact .refused
      | some k =>
        dsimp only
        split_ifs with hslice hbroken hshort
        · exact .refused
        · exact .broken
        all_goals
          simp only [Bool.or_eq_true, not_or, beq_iff_eq] at hbroken
          have hlen := length_readBytes s.client.memory
            ((s.client.regions.slots k).base + request.source.offset) request.source.len.toNat
          have hlt := hlen.trans_lt request.source.len.toNat_lt
          generalize readBytes s.client.memory
            ((s.client.regions.slots k).base + request.source.offset) request.source.len.toNat = payload
            at hlen hlt ⊢
        · exact cut (t := ⟨_, destinationHandle, request.destination.offset, request.expectedChecksum, payload⟩)
            hc rfl hbroken.2 hlt (List.take_prefix ..)
        · have hfree : (s.client.pending i).completion.id = 0 := by simpa using List.find?_some hslot
          have hdone := @done s request
            ⟨_, destinationHandle, request.destination.offset, request.expectedChecksum, payload⟩ i hc
            hpolling rfl hbroken.2 hlt hfree
          rw [pendingOf, hlen, UInt64.ofNat_toNat] at hdone
          exact hdone

/-! ## What a poll does -/

/-- **What becomes of a poll.**  It goes on, it ends the connection, it reads an acknowledgement, or it is
over. -/
inductive Waited (s : TcpLink) : TcpLink → Prop
  | none : Waited s s
  | failed : Waited s s.failPoll
  | misread (hlen : tcpMessageLen ≤ s.toClient.length) : Waited s s.dropAck.failPoll
  | confirmed {ack : TcpMessage} {i : ℕ} (hlen : tcpMessageLen ≤ s.toClient.length)
      (hack : tcpDecodeMessage s.toClient = some ack) (hpos : ack.completionId ≠ 0)
      (hid : (s.client.pending i).completion.id = ack.completionId)
      (hmatches : ackMatches (s.client.pending i) ack = true) : Waited s (s.dropAck.confirm i)
  | handed {i : ℕ} (hpolling : s.client.polling = some i)
      (hstatus : (s.client.pending i).completion.status = 0) : Waited s (s.handOut i)

lemma waited_pollNext (s : TcpLink) : s.Waited s.pollNext := by
  unfold pollNext
  cases hpolling : s.client.polling with
  | none => exact .none
  | some i =>
    dsimp only
    split_ifs with hstatus hlen hdone
    · exact .none
    · rw [not_lt] at hlen
      cases hack : tcpDecodeMessage s.toClient with
      | none => exact .misread hlen
      | some ack =>
        dsimp only
        unfold applyAck
        split_ifs with hrefused
        · exact .misread hlen
        simp only [Bool.or_eq_true, not_or, beq_iff_eq] at hrefused
        cases hfound : (List.range tcpMaxCompletions).find? fun i =>
            (s.dropAck.client.pending i).completion.id == ack.completionId with
        | none => exact .misread hlen
        | some j =>
          dsimp only
          split_ifs with hmatches
          · have hid : (s.client.pending j).completion.id = ack.completionId := by
              simpa [dropAck] using List.find?_some hfound
            exact .confirmed hlen hack hrefused.2 hid hmatches
          · exact .misread hlen
    · exact .handed hpolling (beq_iff_eq.mp hdone)
    · exact .failed

/-! ## What a wait does -/

/-- **What becomes of a wait.**  It goes on, it ends the connection, or it takes what a slot has ready. -/
inductive Fetched (s : TcpLink) (request : ReceiveRequest) : TcpLink → Prop
  | none : Fetched s request s
  | failed : Fetched s request s.failServer
  | refused {k : ℕ} (hready : (s.server.regions.slots k).receiveReady = true) :
      Fetched s request (s.clearReceive k).failServer
  | taken {k : ℕ} {descriptorLen : UInt64}
      (hfound : s.server.regions.find request.destination.regionHandle = some k)
      (hready : (s.server.regions.slots k).receiveReady = true)
      (hmatches : receiveMatches (s.server.regions.slots k) request descriptorLen = true) :
      Fetched s request (s.takeReceive request k)

lemma fetched_waitReceive (s : TcpLink) (request : ReceiveRequest) :
    s.Fetched request (s.waitReceive request) := by
  unfold waitReceive
  split_ifs with hrefused
  · exact .none
  cases tcpDecodeDescriptor request.destination.descriptor with
  | none => exact .none
  | some d =>
    obtain ⟨descriptorHandle, descriptorLen⟩ := d
    dsimp only
    split_ifs with hother
    · exact .none
    cases hfound : s.server.regions.find request.destination.regionHandle with
    | none => exact .failed
    | some k =>
      dsimp only
      split_ifs with hready hmatches
      · exact .none
      all_goals rw [Bool.not_eq_true', Bool.not_eq_false] at hready
      · exact .taken hfound hready hmatches
      · exact .refused hready

end TcpLink

end MemService
