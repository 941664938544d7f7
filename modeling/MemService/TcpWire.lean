import MemService.ProviderChannel

/-!
# Messages of the TCP provider

`mem_service_provider_tcp.c` talks in messages of 56 bytes, the words in network order; the message that
announces a transfer has the payload behind it.  A region is named to the other side by a descriptor of 24
bytes.

A message is read as it was written, whatever follows in the stream, and the decoder of the descriptors takes
nothing but what a registration writes.
-/

open ByteText BigEndian

namespace MemService

/-! ## Messages -/

/-- `MEM_SERVICE_TCP_MESSAGE_MAGIC`. -/
def tcpMessageMagic : UInt32 := 0x4d535454
/-- `MEM_SERVICE_TCP_DESCRIPTOR_MAGIC`. -/
def tcpDescriptorMagic : UInt32 := 0x4d535444
/-- `MEM_SERVICE_TCP_PROTOCOL_VERSION`. -/
def tcpProtocolVersion : UInt32 := 1
/-- `MEM_SERVICE_TCP_MESSAGE_TRANSFER`. -/
def tcpMessageTransfer : UInt32 := 2
/-- `MEM_SERVICE_TCP_MESSAGE_ACK`. -/
def tcpMessageAck : UInt32 := 3

/-- `struct mem_service_tcp_message`. -/
structure TcpMessage where
  type : UInt32
  status : UInt32
  completionId : UInt64
  regionHandle : UInt64
  offset : UInt64
  len : UInt64
  checksum : UInt64
  deriving DecidableEq

/-- `sizeof(struct mem_service_tcp_message_wire)`. -/
def tcpMessageLen : ℕ := 56

/-- The bytes that `mem_service_tcp_send_message` sends. -/
def TcpMessage.encode (m : TcpMessage) : Bytes :=
  putU32 tcpMessageMagic ++ (putU32 tcpProtocolVersion ++ (putU32 m.type ++ (putU32 m.status ++
    (putU64 m.completionId ++ (putU64 m.regionHandle ++ (putU64 m.offset ++ (putU64 m.len ++
      putU64 m.checksum)))))))

/-- What `mem_service_tcp_receive_message` makes of the bytes it has received. -/
def tcpDecodeMessage (wire : Bytes) : Option TcpMessage :=
  if getU32 wire ≠ tcpMessageMagic ∨ getU32 (wire.drop 4) ≠ tcpProtocolVersion then none
  else
    some
      { type := getU32 (wire.drop 8)
        status := getU32 (wire.drop 12)
        completionId := getU64 (wire.drop 16)
        regionHandle := getU64 (wire.drop 24)
        offset := getU64 (wire.drop 32)
        len := getU64 (wire.drop 40)
        checksum := getU64 (wire.drop 48) }

@[simp] lemma TcpMessage.length_encode (m : TcpMessage) : m.encode.length = tcpMessageLen := by
  simp [TcpMessage.encode, tcpMessageLen]

/-- A message is read as it was written, whatever stands behind it. -/
lemma tcpDecodeMessage_encode (m : TcpMessage) (rest : Bytes) :
    tcpDecodeMessage (m.encode ++ rest) = some m := by
  rw [tcpDecodeMessage, TcpMessage.encode]
  simp only [List.append_assoc, drop_putU32, drop_putU64, List.drop_zero, getU32_putU32, getU64_putU64,
    ne_eq, not_true_eq_false, or_self, if_false]

/-! ## Descriptors -/

/-- The descriptor that `mem_service_tcp_provider_register_region` writes. -/
def tcpDescriptor (regionHandle len : UInt64) : Bytes :=
  putU32 tcpDescriptorMagic ++ (putU32 tcpProtocolVersion ++ (putU64 regionHandle ++ putU64 len))

/-- `mem_service_tcp_decode_descriptor`. -/
def tcpDecodeDescriptor (wire : Bytes) : Option (UInt64 × UInt64) :=
  if wire.length ≠ 24 then none
  else if getU32 wire ≠ tcpDescriptorMagic ∨
      getU32 (wire.drop 4) ≠ tcpProtocolVersion then none
  else
    let regionHandle := getU64 (wire.drop 8)
    let len := getU64 (wire.drop 16)
    if regionHandle = 0 ∨ len = 0 then none else some (regionHandle, len)

/-- **The decoder takes what a registration writes and nothing else.** -/
theorem tcpDecodeDescriptor_eq_some_iff {wire : Bytes} {regionHandle len : UInt64} :
    tcpDecodeDescriptor wire = some (regionHandle, len) ↔
      wire = tcpDescriptor regionHandle len ∧ regionHandle ≠ 0 ∧ len ≠ 0 := by
  constructor
  · intro h
    unfold tcpDecodeDescriptor at h
    split_ifs at h with hlen hhead
    · dsimp only at h
      split_ifs at h with hzero
      obtain ⟨hmagic, hversion⟩ := not_or.mp hhead
      rw [not_not] at hlen hmagic hversion
      obtain ⟨rfl, rfl⟩ := Prod.mk.inj (Option.some.inj h)
      refine ⟨?_, (not_or.mp hzero).1, (not_or.mp hzero).2⟩
      have h16 : putU64 (getU64 (wire.drop 16)) = wire.drop 16 := by
        have hcut := putU64_getU64 (s := wire.drop 16) (by rw [List.length_drop]; omega)
        have hend : wire.drop (16 + 8) = [] := List.drop_eq_nil_of_le hlen.le
        rwa [List.drop_drop, hend, List.append_nil] at hcut
      have h8 : putU64 (getU64 (wire.drop 8)) ++ wire.drop 16 = wire.drop 8 := by
        have hcut := putU64_getU64 (s := wire.drop 8) (by rw [List.length_drop]; omega)
        rwa [List.drop_drop] at hcut
      have h4 : putU32 tcpProtocolVersion ++ wire.drop 8 = wire.drop 4 := by
        have hcut := putU32_getU32 (s := wire.drop 4) (by rw [List.length_drop]; omega)
        rwa [hversion, List.drop_drop] at hcut
      have h0 : putU32 tcpDescriptorMagic ++ wire.drop 4 = wire := by
        have hcut := putU32_getU32 (s := wire) (by omega)
        rwa [hmagic] at hcut
      rw [tcpDescriptor, h16, h8, h4, h0]
  · rintro ⟨rfl, hhandle, hlen⟩
    have hlength : (tcpDescriptor regionHandle len).length = 24 := by simp [tcpDescriptor]
    rw [tcpDecodeDescriptor, if_neg (not_not.mpr hlength), tcpDescriptor]
    have hreads : getU64 (putU64 len) = len := by
      have hread := getU64_putU64 len []
      rwa [List.append_nil] at hread
    simp only [drop_putU32, drop_putU64, List.drop_zero, getU32_putU32, getU64_putU64, hreads, ne_eq,
      not_true_eq_false, or_self, if_false, hhandle, hlen]

end MemService
