import MemService.Handlers
import MemService.ProviderRegistry

/-!
# What passes between a channel and its provider

The caller of a channel brings regions, offsets and lengths that are any 64-bit numbers, and the
provider answers with whatever it likes.  The channel stands between them.  The model writes down
every call the provider gets, with what it was given and what came back, so that two things can be
said about all callers and all providers at once: what the provider is handed, and what of its answer
is believed.

A slice is checked by subtraction, `offset ≤ total` and `len ≤ total - offset`, which no pair of
64-bit numbers gets past.  A completion is checked against the id, the length and the checksum of the
question.  A region or a mapping that the provider reports with a failure, or reports wrongly, is
handed back to it, and the caller's binding is not written.
-/

namespace MemService

/-! ## Bindings -/

/-- `struct mem_service_provider_region_binding`; the owner is the slot of a provider, and no owner
the null pointer. -/
structure RegionBinding where
  region : ProviderRegion
  owner : Option ℕ
  registered : Bool

/-- `struct mem_service_provider_mapping_binding`. -/
structure MappingBinding where
  mapping : ProviderMapping
  owner : Option ℕ
  mapped : Bool

/-- A region binding of zeros. -/
def RegionBinding.zero : RegionBinding := ⟨⟨0, 0, ⟨0⟩, []⟩, none, false⟩

/-- A mapping binding of zeros. -/
def MappingBinding.zero : MappingBinding := ⟨⟨0, 0, 0, ⟨0⟩⟩, none, false⟩

/-- `enum mem_service_mapping_range_operation`. -/
inductive MappingRangeOperation
  | publish
  | invalidate
  | waitVisible
  deriving DecidableEq, Repr

/-- `MEM_SERVICE_REGION_FLAG_PROVIDER_ALLOCATED`. -/
def regionFlagProviderAllocated : UInt64 := 1
/-- `MEM_SERVICE_MAPPING_FLAG_READ`. -/
def mappingFlagRead : UInt64 := 1
/-- `MEM_SERVICE_MAPPING_FLAG_WRITE`. -/
def mappingFlagWrite : UInt64 := 2
/-- `MEM_SERVICE_MAPPING_FLAG_FIXED_ADDRESS`. -/
def mappingFlagFixedAddress : UInt64 := 4
/-- `MEM_SERVICE_MAPPING_FLAG_VALID_MASK`. -/
def mappingFlagValidMask : UInt64 :=
  mappingFlagRead ||| mappingFlagWrite ||| mappingFlagFixedAddress

/-! ## The calls a provider gets -/

/-- A call of the provider's table: its argument, whether it returned `0`, and its output.  The probe
is left out, as it is handed nothing. -/
inductive ProviderCall
  | registerRegion (request : RegionRequest) (ok : Bool) (region : ProviderRegion)
  | deregisterRegion (handle : UInt64) (ok : Bool)
  | submitTransfer (request : TransferRequest) (ok : Bool) (id : UInt64)
  | pollCompletion (id : UInt64) (ok : Bool) (completion : TransferCompletion)
  | waitReceive (request : ReceiveRequest) (ok : Bool) (completion : TransferCompletion)
  | mapRemoteRegion (request : MappingRequest) (ok : Bool) (mapping : ProviderMapping)
  | unmapRemoteRegion (handle : UInt64) (ok : Bool)
  | range (operation : MappingRangeOperation) (request : MappingRangeRequest) (ok : Bool)
      (completion : VisibilityCompletion)

/-- The world, and the calls the provider has got. -/
structure ProviderWorld (ω : Type) where
  world : ω
  calls : List ProviderCall

namespace ProviderWorld

variable {ω α β : Type}

/-- One call, noted down. -/
def invoke (callback : ProviderCallback ω α β) (note : α → Bool → β → ProviderCall) (a : α)
    (s : ProviderWorld ω) : Bool × β × ProviderWorld ω :=
  let (ok, out, w) := callback a s.world
  (ok, out, ⟨w, s.calls ++ [note a ok out]⟩)

/-- `mem_service_provider_channel_ready`. -/
def ready (channel : Option (ProviderChannel ω)) (s : ProviderWorld ω) : Bool × ProviderWorld ω :=
  let probed := ProviderChannel.ready channel s.world
  (probed.1, { s with world := probed.2 })

@[simp] lemma ready_calls (channel : Option (ProviderChannel ω)) (s : ProviderWorld ω) :
    (s.ready channel).2.calls = s.calls := rfl

end ProviderWorld

/-- The two comparisons that every slice is checked with. -/
def sliceFits (offset len total : UInt64) : Bool := !(offset > total) && !(len > total - offset)

lemma sliceFits_iff {offset len total : UInt64} :
    sliceFits offset len total = true ↔ offset.toNat + len.toNat ≤ total.toNat := by
  simp only [sliceFits, Bool.and_eq_true, Bool.not_eq_true', decide_eq_false_iff_not, gt_iff_lt,
    UInt64.not_lt, UInt64.le_iff_toNat_le]
  constructor
  · rintro ⟨hoffset, hlen⟩
    rw [UInt64.toNat_sub_of_le _ _ (UInt64.le_iff_toNat_le.mpr hoffset)] at hlen
    omega
  · intro h
    have hoffset : offset.toNat ≤ total.toNat := by omega
    rw [UInt64.toNat_sub_of_le _ _ (UInt64.le_iff_toNat_le.mpr hoffset)]
    omega

/-! ## The operations

Each returns whether it succeeded, what stands at the caller's output place afterwards (`none` where
the pointer is null), and the world. -/

section Operations

variable {ω : Type} (memory : ω → UInt64 → UInt8) (channel : Option (ProviderChannel ω))

/-- `mem_service_provider_checksum64`, of memory. -/
def providerChecksum64 (w : ω) (base len : UInt64) : UInt64 :=
  if base == 0 && len != 0 then 0
  else checksumBytes ((List.range len.toNat).map fun i => memory w (base + UInt64.ofNat i))

/-- What a region request is checked for. -/
def RegionRequest.acceptable (request : RegionRequest) (capabilities : UInt64) : Bool :=
  request.len != 0 && request.memoryKind.valid && hasCap capabilities capRegionRegistration &&
    !(request.base == 0 && (!hasCap request.flags regionFlagProviderAllocated ||
      !hasCap capabilities capPeerMapping)) &&
    !(request.base != 0 && hasCap request.flags regionFlagProviderAllocated) &&
    request.flags &&& ~~~regionFlagProviderAllocated == 0

/-- The region that a provider reports is the one asked for. -/
def RegionRequest.answeredBy (request : RegionRequest) (region : ProviderRegion) : Bool :=
  region.handle != 0 && region.len == request.len && region.memoryKind == request.memoryKind &&
    region.descriptor.length ≤ providerDescriptorLen

/-- `mem_service_provider_channel_register_region`. -/
def channelRegisterRegion (request : Option RegionRequest) (out : Option RegionBinding)
    (s : ProviderWorld ω) : Bool × Option RegionBinding × ProviderWorld ω :=
  let probed := s.ready channel
  match channel, request, out with
  | some channel, some request, some _ =>
      match channel.provider.ops.registerRegion with
      | none => (false, out, probed.2)
      | some register =>
          if !probed.1 || !request.acceptable channel.provider.capabilities then
            (false, out, probed.2)
          else
            let (ok, region, s) := probed.2.invoke register .registerRegion request
            if !ok || !request.answeredBy region then
              match channel.provider.ops.deregisterRegion with
              | none => (false, out, s)
              | some deregister =>
                  if region.handle == 0 then (false, out, s)
                  else
                    (false, out, (s.invoke deregister (fun handle ok _ =>
                      .deregisterRegion handle ok) region.handle).2.2)
            else (true, some ⟨region, some channel.slot, true⟩, s)
  | _, _, _ => (false, out, probed.2)

/-- A remote region is one of this provider and can be named to it. -/
def RemoteRegion.usable (remote : RemoteRegion) (provider : Provider ω) : Bool :=
  decide (remote.providerName = provider.name) && remote.descriptor.length ≠ 0 &&
    remote.descriptor.length ≤ providerDescriptorLen && remote.memoryKind.valid

/-- A region binding is one of this channel. -/
def RegionBinding.ownedBy (binding : RegionBinding) (channel : ProviderChannel ω) : Bool :=
  binding.registered && decide (binding.owner = some channel.slot)

/-- A mapping binding is one of this channel. -/
def MappingBinding.ownedBy (binding : MappingBinding) (channel : ProviderChannel ω) : Bool :=
  binding.mapped && decide (binding.owner = some channel.slot)

/-- A slice of a binding's region. -/
def RegionBinding.slice (binding : RegionBinding) (offset len : UInt64) : ProviderSlice :=
  ⟨binding.region.handle, offset, len, binding.region.descriptor⟩

/-- A slice of a remote region, which has no handle here. -/
def RemoteRegion.slice (remote : RemoteRegion) (offset len : UInt64) : ProviderSlice :=
  ⟨0, offset, len, remote.descriptor⟩

/-- `mem_service_provider_channel_submit_transfer`. -/
def channelSubmitTransfer (source : Option RegionBinding) (sourceOffset : UInt64)
    (destination : Option RemoteRegion) (destinationOffset len expectedChecksum : UInt64)
    (out : Option UInt64) (s : ProviderWorld ω) : Bool × Option UInt64 × ProviderWorld ω :=
  let probed := s.ready channel
  match channel, source, destination, out with
  | some channel, some source, some destination, some _ =>
      match channel.provider.ops.submitTransfer, channel.provider.ops.pollCompletion with
      | some submit, some _ =>
          if !probed.1 || !source.ownedBy channel || len == 0 || expectedChecksum == 0 ||
              !destination.usable channel.provider ||
              !sliceFits sourceOffset len source.region.len ||
              !sliceFits destinationOffset len destination.len ||
              !hasCap channel.provider.capabilities capTransferMask then
            (false, out, probed.2)
          else
            let (ok, id, s) := probed.2.invoke submit .submitTransfer
              ⟨source.slice sourceOffset len, destination.slice destinationOffset len,
                expectedChecksum, 0⟩
            if !ok || id == 0 then (false, out, s) else (true, some id, s)
      | _, _ => (false, out, probed.2)
  | _, _, _, _ => (false, out, probed.2)

/-- A completion reports the bytes and the checksum that were asked for, and no error. -/
def TransferCompletion.reports (completion : TransferCompletion) (len expectedChecksum : UInt64) :
    Bool :=
  completion.status == 0 && completion.transferredBytes == len &&
    completion.checksum == expectedChecksum

/-- `mem_service_provider_channel_poll_transfer`. -/
def channelPollTransfer (id len expectedChecksum : UInt64) (out : Option TransferCompletion)
    (s : ProviderWorld ω) : Bool × Option TransferCompletion × ProviderWorld ω :=
  let probed := s.ready channel
  match channel, out with
  | some channel, some _ =>
      match channel.provider.ops.pollCompletion with
      | none => (false, out, probed.2)
      | some poll =>
          if !probed.1 || id == 0 || len == 0 || expectedChecksum == 0 then (false, out, probed.2)
          else
            let (ok, completion, s) := probed.2.invoke poll .pollCompletion id
            if !ok || completion.id != id || !completion.reports len expectedChecksum then
              (false, out, s)
            else (true, some completion, s)
  | _, _ => (false, out, probed.2)

/-- `mem_service_provider_channel_transfer`. -/
def channelTransfer (source : Option RegionBinding) (sourceOffset : UInt64)
    (destination : Option RemoteRegion) (destinationOffset len expectedChecksum : UInt64)
    (out : Option TransferCompletion) (s : ProviderWorld ω) :
    Bool × Option TransferCompletion × ProviderWorld ω :=
  let submitted := channelSubmitTransfer channel source sourceOffset destination destinationOffset len
    expectedChecksum (some 0) s
  if !submitted.1 then (false, out, submitted.2.2)
  else channelPollTransfer channel (submitted.2.1.getD 0) len expectedChecksum out submitted.2.2

/-- `mem_service_provider_channel_wait_receive`. -/
def channelWaitReceive (destination : Option RegionBinding)
    (destinationOffset len expectedChecksum : UInt64) (out : Option TransferCompletion)
    (s : ProviderWorld ω) : Bool × Option TransferCompletion × ProviderWorld ω :=
  let probed := s.ready channel
  match channel, destination, out with
  | some channel, some destination, some _ =>
      match channel.provider.ops.waitReceive with
      | none => (false, out, probed.2)
      | some wait =>
          if !probed.1 || !destination.ownedBy channel || len == 0 || expectedChecksum == 0 ||
              !sliceFits destinationOffset len destination.region.len ||
              !hasCap channel.provider.capabilities capReceiveFence then
            (false, out, probed.2)
          else
            let (ok, completion, s) := probed.2.invoke wait .waitReceive
              ⟨destination.slice destinationOffset len, expectedChecksum, 0⟩
            if !ok || completion.id == 0 || !completion.reports len expectedChecksum then
              (false, out, s)
            else (true, some completion, s)
  | _, _, _ => (false, out, probed.2)

/-- The mapping that a provider reports is the one asked for. -/
def MappingRequest.answeredBy (request : MappingRequest) (mapping : ProviderMapping) : Bool :=
  mapping.handle != 0 && mapping.base != 0 && mapping.len == request.len &&
    mapping.memoryKind == request.memoryKind

/-- `mem_service_provider_channel_map_remote_region`. -/
def channelMapRemoteRegion (remote : Option RemoteRegion)
    (offset len requestedAddress flags : UInt64) (out : Option MappingBinding)
    (s : ProviderWorld ω) : Bool × Option MappingBinding × ProviderWorld ω :=
  let probed := s.ready channel
  match channel, remote, out with
  | some channel, some remote, some _ =>
      match channel.provider.ops.mapRemoteRegion with
      | none => (false, out, probed.2)
      | some map =>
          if !probed.1 || len == 0 || !remote.usable channel.provider ||
              !sliceFits offset len remote.len || flags &&& ~~~mappingFlagValidMask != 0 ||
              !hasCap flags (mappingFlagRead ||| mappingFlagWrite) ||
              (hasCap flags mappingFlagFixedAddress && requestedAddress == 0) ||
              !hasCap channel.provider.capabilities capPeerMapping then
            (false, out, probed.2)
          else
            let request : MappingRequest := ⟨remote.descriptor, remote.len, offset, len,
              requestedAddress, remote.memoryKind, flags⟩
            let (ok, mapping, s) := probed.2.invoke map .mapRemoteRegion request
            if !ok || !request.answeredBy mapping then
              match channel.provider.ops.unmapRemoteRegion with
              | none => (false, out, s)
              | some unmap =>
                  if mapping.handle == 0 then (false, out, s)
                  else
                    (false, out, (s.invoke unmap (fun handle ok _ =>
                      .unmapRemoteRegion handle ok) mapping.handle).2.2)
            else (true, some ⟨mapping, some channel.slot, true⟩, s)
  | _, _, _ => (false, out, probed.2)

/-- The callback of a range operation, `none` where the operation cannot be made: a wait needs a
timeout. -/
def ProviderOps.rangeCallback (ops : ProviderOps ω) (operation : MappingRangeOperation)
    (timeoutMs : UInt64) : Option (ProviderCallback ω MappingRangeRequest VisibilityCompletion) :=
  match operation with
  | .publish => ops.publishRange
  | .invalidate => ops.invalidateRange
  | .waitVisible => if timeoutMs > 0 then ops.waitRangeVisible else none

/-- A completion reports the bytes and the checksum that were asked for, and no error. -/
def VisibilityCompletion.reports (completion : VisibilityCompletion)
    (len expectedChecksum : UInt64) : Bool :=
  completion.status == 0 && completion.visibleBytes == len && completion.checksum == expectedChecksum

/-- `mem_service_provider_channel_mapping_range`. -/
def channelMappingRange (binding : Option MappingBinding)
    (offset len expectedChecksum timeoutMs : UInt64) (operation : MappingRangeOperation)
    (out : Option VisibilityCompletion) (s : ProviderWorld ω) :
    Bool × Option VisibilityCompletion × ProviderWorld ω :=
  let probed := s.ready channel
  match channel, binding, out with
  | some channel, some binding, some _ =>
      if !probed.1 || !binding.ownedBy channel || binding.mapping.base == 0 || len == 0 ||
          expectedChecksum == 0 || !sliceFits offset len binding.mapping.len ||
          !hasCap channel.provider.capabilities capPeerMapping then
        (false, out, probed.2)
      else
        let bytes := binding.mapping.base + offset
        if operation == .publish &&
            providerChecksum64 memory probed.2.world bytes len != expectedChecksum then
          (false, out, probed.2)
        else
          match channel.provider.ops.rangeCallback operation timeoutMs with
          | none => (false, out, probed.2)
          | some callback =>
              let (ok, completion, s) := probed.2.invoke callback (.range operation)
                ⟨binding.mapping.handle, offset, len, expectedChecksum, timeoutMs, 0⟩
              if !ok || !completion.reports len expectedChecksum ||
                  providerChecksum64 memory s.world bytes len != expectedChecksum then
                (false, out, s)
              else (true, some completion, s)
  | _, _, _ => (false, out, probed.2)

/-- `mem_service_provider_channel_unmap_remote_region`; the binding is the output too. -/
def channelUnmapRemoteRegion (binding : Option MappingBinding) (s : ProviderWorld ω) :
    Bool × Option MappingBinding × ProviderWorld ω :=
  match channel, binding with
  | some channel, some mapping =>
      match channel.provider.ops.unmapRemoteRegion with
      | none => (false, binding, s)
      | some unmap =>
          if !mapping.ownedBy channel then (false, binding, s)
          else
            let (ok, _, s) := s.invoke unmap (fun handle ok _ => .unmapRemoteRegion handle ok)
              mapping.mapping.handle
            if !ok then (false, binding, s) else (true, some .zero, s)
  | _, _ => (false, binding, s)

/-- `mem_service_provider_channel_deregister_region`; the binding is the output too. -/
def channelDeregisterRegion (binding : Option RegionBinding) (s : ProviderWorld ω) :
    Bool × Option RegionBinding × ProviderWorld ω :=
  match channel, binding with
  | some channel, some region =>
      match channel.provider.ops.deregisterRegion with
      | none => (false, binding, s)
      | some deregister =>
          if !region.ownedBy channel then (false, binding, s)
          else
            let (ok, _, s) := s.invoke deregister (fun handle ok _ => .deregisterRegion handle ok)
              region.region.handle
            if !ok then (false, binding, s) else (true, some .zero, s)
  | _, _ => (false, binding, s)

/-- `mem_service_provider_channel_publish_range`. -/
def channelPublishRange (binding : Option MappingBinding) (offset len expectedChecksum : UInt64)
    (out : Option VisibilityCompletion) (s : ProviderWorld ω) :
    Bool × Option VisibilityCompletion × ProviderWorld ω :=
  channelMappingRange memory channel binding offset len expectedChecksum 0 .publish out s

/-- `mem_service_provider_channel_invalidate_range`. -/
def channelInvalidateRange (binding : Option MappingBinding) (offset len expectedChecksum : UInt64)
    (out : Option VisibilityCompletion) (s : ProviderWorld ω) :
    Bool × Option VisibilityCompletion × ProviderWorld ω :=
  channelMappingRange memory channel binding offset len expectedChecksum 0 .invalidate out s

/-- `mem_service_provider_channel_wait_range_visible`. -/
def channelWaitRangeVisible (binding : Option MappingBinding)
    (offset len expectedChecksum timeoutMs : UInt64) (out : Option VisibilityCompletion)
    (s : ProviderWorld ω) : Bool × Option VisibilityCompletion × ProviderWorld ω :=
  channelMappingRange memory channel binding offset len expectedChecksum timeoutMs .waitVisible out s

end Operations

/-! ## One interface for the operations -/

/-- An operation of a channel with its arguments, the caller's output place among them. -/
inductive ChannelCall
  | registerRegion (request : Option RegionRequest) (out : Option RegionBinding)
  | submitTransfer (source : Option RegionBinding) (sourceOffset : UInt64)
      (destination : Option RemoteRegion) (destinationOffset len expectedChecksum : UInt64)
      (out : Option UInt64)
  | pollTransfer (id len expectedChecksum : UInt64) (out : Option TransferCompletion)
  | transfer (source : Option RegionBinding) (sourceOffset : UInt64)
      (destination : Option RemoteRegion) (destinationOffset len expectedChecksum : UInt64)
      (out : Option TransferCompletion)
  | waitReceive (destination : Option RegionBinding)
      (destinationOffset len expectedChecksum : UInt64) (out : Option TransferCompletion)
  | mapRemoteRegion (remote : Option RemoteRegion) (offset len requestedAddress flags : UInt64)
      (out : Option MappingBinding)
  | publishRange (binding : Option MappingBinding) (offset len expectedChecksum : UInt64)
      (out : Option VisibilityCompletion)
  | invalidateRange (binding : Option MappingBinding) (offset len expectedChecksum : UInt64)
      (out : Option VisibilityCompletion)
  | waitRangeVisible (binding : Option MappingBinding)
      (offset len expectedChecksum timeoutMs : UInt64) (out : Option VisibilityCompletion)
  | unmapRemoteRegion (binding : Option MappingBinding)
  | deregisterRegion (binding : Option RegionBinding)

/-- What stands at an output place. -/
inductive ChannelOut
  | region (out : Option RegionBinding)
  | id (out : Option UInt64)
  | completion (out : Option TransferCompletion)
  | mapping (out : Option MappingBinding)
  | visibility (out : Option VisibilityCompletion)

/-- The result of an operation, with its output put under one type. -/
def ChannelOut.place {ω α : Type} (kind : Option α → ChannelOut)
    (r : Bool × Option α × ProviderWorld ω) : Bool × ChannelOut × ProviderWorld ω :=
  (r.1, kind r.2.1, r.2.2)

namespace ChannelCall

section

variable {ω : Type} (memory : ω → UInt64 → UInt8) (channel : Option (ProviderChannel ω))

/-- The operation, made. -/
def run (s : ProviderWorld ω) : ChannelCall → Bool × ChannelOut × ProviderWorld ω
  | registerRegion request out =>
      ChannelOut.place .region (channelRegisterRegion channel request out s)
  | submitTransfer source sourceOffset destination destinationOffset len expectedChecksum out =>
      ChannelOut.place .id (channelSubmitTransfer channel source sourceOffset destination
        destinationOffset len expectedChecksum out s)
  | pollTransfer id len expectedChecksum out =>
      ChannelOut.place .completion (channelPollTransfer channel id len expectedChecksum out s)
  | transfer source sourceOffset destination destinationOffset len expectedChecksum out =>
      ChannelOut.place .completion (channelTransfer channel source sourceOffset destination
        destinationOffset len expectedChecksum out s)
  | waitReceive destination destinationOffset len expectedChecksum out =>
      ChannelOut.place .completion (channelWaitReceive channel destination destinationOffset len
        expectedChecksum out s)
  | mapRemoteRegion remote offset len requestedAddress flags out =>
      ChannelOut.place .mapping (channelMapRemoteRegion channel remote offset len requestedAddress
        flags out s)
  | publishRange binding offset len expectedChecksum out =>
      ChannelOut.place .visibility (channelPublishRange memory channel binding offset len
        expectedChecksum out s)
  | invalidateRange binding offset len expectedChecksum out =>
      ChannelOut.place .visibility (channelInvalidateRange memory channel binding offset len
        expectedChecksum out s)
  | waitRangeVisible binding offset len expectedChecksum timeoutMs out =>
      ChannelOut.place .visibility (channelWaitRangeVisible memory channel binding offset len
        expectedChecksum timeoutMs out s)
  | unmapRemoteRegion binding =>
      ChannelOut.place .mapping (channelUnmapRemoteRegion channel binding s)
  | deregisterRegion binding =>
      ChannelOut.place .region (channelDeregisterRegion channel binding s)

end

/-- The caller's output place, as the operation finds it. -/
def out : ChannelCall → ChannelOut
  | registerRegion _ out => .region out
  | submitTransfer _ _ _ _ _ _ out => .id out
  | pollTransfer _ _ _ out => .completion out
  | transfer _ _ _ _ _ _ out => .completion out
  | waitReceive _ _ _ _ out => .completion out
  | mapRemoteRegion _ _ _ _ _ out => .mapping out
  | publishRange _ _ _ _ out => .visibility out
  | invalidateRange _ _ _ _ out => .visibility out
  | waitRangeVisible _ _ _ _ _ out => .visibility out
  | unmapRemoteRegion binding => .mapping binding
  | deregisterRegion binding => .region binding

end ChannelCall

/-! ## What may be handed over, and what may be believed -/

/-- The slice is one of the binding's region, and ends inside it. -/
def RegionBinding.Covers (binding : RegionBinding) (slice : ProviderSlice) : Prop :=
  slice.regionHandle = binding.region.handle ∧
    slice.offset.toNat + slice.len.toNat ≤ binding.region.len.toNat

/-- The slice is one of the remote region, and ends inside it. -/
def RemoteRegion.Covers (remote : RemoteRegion) (slice : ProviderSlice) : Prop :=
  slice.descriptor = remote.descriptor ∧
    slice.offset.toNat + slice.len.toNat ≤ remote.len.toNat

/-- The part to map is one of the remote region, and ends inside it. -/
def RemoteRegion.Maps (remote : RemoteRegion) (request : MappingRequest) : Prop :=
  request.remoteDescriptor = remote.descriptor ∧ request.remoteRegionLen = remote.len ∧
    request.offset.toNat + request.len.toNat ≤ remote.len.toNat

/-- The range is one of the mapping, and ends inside it. -/
def MappingBinding.Covers (binding : MappingBinding) (request : MappingRangeRequest) : Prop :=
  request.mappingHandle = binding.mapping.handle ∧
    request.offset.toNat + request.len.toNat ≤ binding.mapping.len.toNat

/-- The transfer is from one region into the other, with the same length in both. -/
def TransferRequest.Within (request : TransferRequest) (source : Option RegionBinding)
    (destination : Option RemoteRegion) (len : UInt64) : Prop :=
  ∃ src dst, source = some src ∧ destination = some dst ∧ src.Covers request.source ∧
    dst.Covers request.destination ∧ request.source.len = len ∧ request.destination.len = len

/-- What an operation may hand the provider. -/
def ChannelCall.Hands : ChannelCall → ProviderCall → Prop
  | registerRegion request _, .registerRegion r _ _ => request = some r
  | registerRegion _ _, .deregisterRegion handle _ => handle ≠ 0
  | submitTransfer source _ destination _ len _ _, .submitTransfer r _ _ =>
      r.Within source destination len
  | pollTransfer id _ _ _, .pollCompletion i _ _ => i = id
  | transfer source _ destination _ len _ _, .submitTransfer r _ _ => r.Within source destination len
  | transfer _ _ _ _ _ _ _, .pollCompletion i _ _ => i ≠ 0
  | waitReceive destination _ _ _ _, .waitReceive r _ _ =>
      ∃ dst, destination = some dst ∧ dst.Covers r.destination
  | mapRemoteRegion remote _ _ _ _ _, .mapRemoteRegion r _ _ => ∃ rem, remote = some rem ∧ rem.Maps r
  | mapRemoteRegion _ _ _ _ _ _, .unmapRemoteRegion handle _ => handle ≠ 0
  | publishRange binding _ _ _ _, .range .publish r _ _ => ∃ b, binding = some b ∧ b.Covers r
  | invalidateRange binding _ _ _ _, .range .invalidate r _ _ => ∃ b, binding = some b ∧ b.Covers r
  | waitRangeVisible binding _ _ _ _ _, .range .waitVisible r _ _ =>
      ∃ b, binding = some b ∧ b.Covers r
  | unmapRemoteRegion binding, .unmapRemoteRegion handle _ =>
      ∃ b, binding = some b ∧ handle = b.mapping.handle
  | deregisterRegion binding, .deregisterRegion handle _ =>
      ∃ b, binding = some b ∧ handle = b.region.handle
  | _, _ => False

/-- A range operation that succeeded: the completion reports what was asked for, and the caller has
it. -/
def rangeAnswers (operation : MappingRangeOperation) (len expectedChecksum : UInt64)
    (made : List ProviderCall) (out : ChannelOut) : Prop :=
  ∃ request completion, made = [.range operation request true completion] ∧
    out = .visibility (some completion) ∧ request.len = len ∧
    request.expectedChecksum = expectedChecksum ∧ completion.status = 0 ∧
    completion.visibleBytes = len ∧ completion.checksum = expectedChecksum

/-- The completion reports `len` bytes with the checksum, and no error. -/
def TransferCompletion.Matches (completion : TransferCompletion) (len expectedChecksum : UInt64) :
    Prop :=
  completion.status = 0 ∧ completion.transferredBytes = len ∧ completion.checksum = expectedChecksum

/-- What has happened when an operation succeeds: the calls that were made, and what they brought. -/
def ChannelCall.Answers (made : List ProviderCall) (out : ChannelOut) : ChannelCall → Prop
  | registerRegion request _ =>
      ∃ r region slot, request = some r ∧ made = [.registerRegion r true region] ∧
        out = .region (some ⟨region, some slot, true⟩) ∧ region.handle ≠ 0 ∧ region.len = r.len ∧
        region.memoryKind = r.memoryKind
  | submitTransfer _ _ _ _ _ expectedChecksum _ =>
      ∃ request id, made = [.submitTransfer request true id] ∧ out = .id (some id) ∧ id ≠ 0 ∧
        request.expectedChecksum = expectedChecksum
  | pollTransfer id len expectedChecksum _ =>
      ∃ completion, made = [.pollCompletion id true completion] ∧
        out = .completion (some completion) ∧ completion.id = id ∧
        completion.Matches len expectedChecksum
  | transfer _ _ _ _ len expectedChecksum _ =>
      ∃ request id completion,
        made = [.submitTransfer request true id, .pollCompletion id true completion] ∧
        out = .completion (some completion) ∧ completion.id = id ∧
        completion.Matches len expectedChecksum
  | waitReceive _ _ len expectedChecksum _ =>
      ∃ request completion, made = [.waitReceive request true completion] ∧
        out = .completion (some completion) ∧ request.destination.len = len ∧
        request.expectedChecksum = expectedChecksum ∧ completion.id ≠ 0 ∧
        completion.Matches len expectedChecksum
  | mapRemoteRegion _ offset len _ _ _ =>
      ∃ request mapping slot, made = [.mapRemoteRegion request true mapping] ∧
        out = .mapping (some ⟨mapping, some slot, true⟩) ∧ request.offset = offset ∧
        request.len = len ∧ mapping.handle ≠ 0 ∧ mapping.base ≠ 0 ∧ mapping.len = len ∧
        mapping.memoryKind = request.memoryKind
  | publishRange _ _ len expectedChecksum _ =>
      rangeAnswers .publish len expectedChecksum made out
  | invalidateRange _ _ len expectedChecksum _ =>
      rangeAnswers .invalidate len expectedChecksum made out
  | waitRangeVisible _ _ len expectedChecksum _ _ =>
      rangeAnswers .waitVisible len expectedChecksum made out
  | unmapRemoteRegion _ =>
      ∃ handle, made = [.unmapRemoteRegion handle true] ∧ out = .mapping (some .zero)
  | deregisterRegion _ =>
      ∃ handle, made = [.deregisterRegion handle true] ∧ out = .region (some .zero)

/-- Every handle that the provider brought up is given back to it later. -/
def HandedBack (made : List ProviderCall) : Prop :=
  ∀ before after,
    (∀ request ok region, made = before ++ .registerRegion request ok region :: after →
      region.handle ≠ 0 → ∃ ok, .deregisterRegion region.handle ok ∈ after) ∧
    ∀ request ok mapping, made = before ++ .mapRemoteRegion request ok mapping :: after →
      mapping.handle ≠ 0 → ∃ ok, .unmapRemoteRegion mapping.handle ok ∈ after

/-- What every operation keeps to: the provider is handed what the operation may hand it; success is
an answer; and a failure leaves the output as it was, with nothing kept at the provider. -/
def ChannelCall.Kept {ω : Type} (call : ChannelCall) (s : ProviderWorld ω)
    (r : Bool × ChannelOut × ProviderWorld ω) : Prop :=
  ∃ made, r.2.2.calls = s.calls ++ made ∧ (∀ c ∈ made, call.Hands c) ∧
    (r.1 = true → call.Answers made r.2.1) ∧
    (r.1 = false → r.2.1 = call.out ∧ HandedBack made)

/-! ## Keeping the account -/

section Kept

variable {ω : Type} {call : ChannelCall} {s s' : ProviderWorld ω}

lemma handedBack_nil : HandedBack [] := by
  intro before after
  constructor <;> intro _ _ _ h <;> simp at h

/-- A call that brings up nothing, or whose handle is given back in what follows. -/
lemma handedBack_cons {c : ProviderCall} {made : List ProviderCall}
    (hregion : ∀ request ok region, c = .registerRegion request ok region → region.handle ≠ 0 →
      ∃ ok, .deregisterRegion region.handle ok ∈ made)
    (hmapping : ∀ request ok mapping, c = .mapRemoteRegion request ok mapping →
      mapping.handle ≠ 0 → ∃ ok, .unmapRemoteRegion mapping.handle ok ∈ made)
    (h : HandedBack made) : HandedBack (c :: made) := by
  intro before after
  cases before with
  | nil =>
      constructor
      · intro request ok region hmade
        obtain ⟨rfl, rfl⟩ := List.cons.inj hmade
        exact hregion _ _ _ rfl
      · intro request ok mapping hmade
        obtain ⟨rfl, rfl⟩ := List.cons.inj hmade
        exact hmapping _ _ _ rfl
  | cons b before =>
      exact ⟨fun request ok region hmade =>
          (h before after).1 request ok region (List.cons.inj hmade).2,
        fun request ok mapping hmade =>
          (h before after).2 request ok mapping (List.cons.inj hmade).2⟩

/-- An operation that is refused before the provider hears of it. -/
lemma kept_refused (h : s'.calls = s.calls) : call.Kept s (false, call.out, s') :=
  ⟨[], by simpa using h, by simp, by simp, fun _ => ⟨rfl, handedBack_nil⟩⟩

/-- An operation that fails after one call, which brought up nothing. -/
lemma kept_failed {c : ProviderCall} (h : s'.calls = s.calls ++ [c]) (hands : call.Hands c)
    (hback : HandedBack [c]) : call.Kept s (false, call.out, s') :=
  ⟨[c], h, by simpa using hands, by simp, fun _ => ⟨rfl, hback⟩⟩

/-- An operation that fails after one call and gives back at once what it brought up. -/
lemma kept_takenBack {c d : ProviderCall} (h : s'.calls = s.calls ++ [c] ++ [d])
    (hc : call.Hands c) (hd : call.Hands d) (hback : HandedBack [c, d]) :
    call.Kept s (false, call.out, s') :=
  ⟨[c, d], by rw [h, List.append_assoc, List.singleton_append], by simp [hc, hd], by simp,
    fun _ => ⟨rfl, hback⟩⟩

/-- An operation that succeeds after one call. -/
lemma kept_answered {c : ProviderCall} {out : ChannelOut} (h : s'.calls = s.calls ++ [c])
    (hands : call.Hands c) (answers : call.Answers [c] out) : call.Kept s (true, out, s') :=
  ⟨[c], h, by simpa using hands, fun _ => answers, by simp⟩

/-- A provider that registers regions can take them back. -/
lemma Provider.deregisterRegion_ne_none (p : Provider ω)
    (h : hasCap p.capabilities capRegionRegistration = true) : p.ops.deregisterRegion ≠ none := by
  intro hnone
  have hvalid := p.valid
  simp [providerOpsValid, h, hnone] at hvalid

/-- A provider that maps regions can unmap them. -/
lemma Provider.unmapRemoteRegion_ne_none (p : Provider ω)
    (h : hasCap p.capabilities capPeerMapping = true) : p.ops.unmapRemoteRegion ≠ none := by
  intro hnone
  have hvalid := p.valid
  simp [providerOpsValid, h, hnone] at hvalid

variable (memory : ω → UInt64 → UInt8) (channel : Option (ProviderChannel ω))

lemma kept_registerRegion (request : Option RegionRequest) (out : Option RegionBinding)
    (s : ProviderWorld ω) :
    (ChannelCall.registerRegion request out).Kept s
      (ChannelOut.place .region (channelRegisterRegion channel request out s)) := by
  unfold channelRegisterRegion
  simp only
  split
  swap
  · exact kept_refused rfl
  rename_i channel request binding
  split
  · exact kept_refused rfl
  rename_i register hregister
  split
  · exact kept_refused rfl
  rename_i hchecks
  simp only [Bool.or_eq_true, Bool.not_eq_true', not_or, Bool.not_eq_false] at hchecks
  have hcap : hasCap channel.provider.capabilities capRegionRegistration = true := by
    have h := hchecks.2
    simp only [RegionRequest.acceptable, Bool.and_eq_true] at h
    exact h.1.1.1.2
  rcases hcall : register request (s.ready (some channel)).2.world with ⟨ok, region, w⟩
  simp only [ProviderWorld.invoke, hcall, ProviderWorld.ready_calls]
  split
  · -- the region is not taken, and goes back if it has a handle
    rename_i hno
    cases hderegister : channel.provider.ops.deregisterRegion with
    | none => exact absurd hderegister (channel.provider.deregisterRegion_ne_none hcap)
    | some deregister =>
        simp only
        split
        · rename_i hzero
          refine kept_failed rfl rfl (handedBack_cons ?_ nofun handedBack_nil)
          rintro _ _ _ ⟨⟩ hne
          exact absurd (by simpa using hzero) hne
        · rename_i hhandle
          rcases hback : deregister region.handle w with ⟨ok', ⟨⟩, w'⟩
          refine kept_takenBack rfl rfl (show region.handle ≠ 0 by simpa using hhandle)
            (handedBack_cons ?_ nofun (handedBack_cons nofun nofun handedBack_nil))
          rintro _ _ _ ⟨⟩ -
          exact ⟨ok', List.mem_singleton_self _⟩
  · rename_i hyes
    simp only [Bool.or_eq_true, Bool.not_eq_true', not_or, Bool.not_eq_false,
      RegionRequest.answeredBy, Bool.and_eq_true, bne_iff_ne, ne_eq, beq_iff_eq] at hyes
    obtain ⟨rfl, ⟨⟨hhandle, hlen⟩, hkind⟩, -⟩ := hyes
    exact kept_answered rfl rfl
      ⟨request, region, channel.slot, rfl, rfl, rfl, hhandle, hlen, hkind⟩

lemma kept_submitTransfer (source : Option RegionBinding) (sourceOffset : UInt64)
    (destination : Option RemoteRegion) (destinationOffset len expectedChecksum : UInt64)
    (out : Option UInt64) (s : ProviderWorld ω) :
    (ChannelCall.submitTransfer source sourceOffset destination destinationOffset len
      expectedChecksum out).Kept s
      (ChannelOut.place .id (channelSubmitTransfer channel source sourceOffset destination
        destinationOffset len expectedChecksum out s)) := by
  unfold channelSubmitTransfer
  simp only
  split
  swap
  · exact kept_refused rfl
  rename_i channel source destination _
  split
  swap
  · exact kept_refused rfl
  rename_i submit _ hsubmit hpoll
  split
  · exact kept_refused rfl
  rename_i hchecks
  simp only [Bool.or_eq_true, Bool.not_eq_true', not_or, Bool.not_eq_false, sliceFits_iff]
    at hchecks
  obtain ⟨⟨⟨-, hsource⟩, hdestination⟩, -⟩ := hchecks
  have hwithin : TransferRequest.Within ⟨source.slice sourceOffset len,
      destination.slice destinationOffset len, expectedChecksum, 0⟩ (some source) (some destination)
      len :=
    ⟨source, destination, rfl, rfl, ⟨rfl, hsource⟩, ⟨rfl, hdestination⟩, rfl, rfl⟩
  rcases hcall : submit ⟨source.slice sourceOffset len, destination.slice destinationOffset len,
    expectedChecksum, 0⟩ (s.ready (some channel)).2.world with ⟨ok, id, w⟩
  simp only [ProviderWorld.invoke, hcall, ProviderWorld.ready_calls]
  split
  · exact kept_failed rfl hwithin (handedBack_cons nofun nofun handedBack_nil)
  · rename_i hyes
    simp only [Bool.or_eq_true, Bool.not_eq_true', not_or, Bool.not_eq_false, beq_iff_eq] at hyes
    obtain ⟨rfl, hid⟩ := hyes
    exact kept_answered rfl hwithin ⟨_, id, rfl, rfl, hid, rfl⟩

lemma TransferCompletion.matches_of_reports {completion : TransferCompletion}
    {len expectedChecksum : UInt64} (h : completion.reports len expectedChecksum = true) :
    completion.Matches len expectedChecksum := by
  simp only [TransferCompletion.reports, Bool.and_eq_true, beq_iff_eq] at h
  exact ⟨h.1.1, h.1.2, h.2⟩

lemma kept_pollTransfer (id len expectedChecksum : UInt64) (out : Option TransferCompletion)
    (s : ProviderWorld ω) :
    (ChannelCall.pollTransfer id len expectedChecksum out).Kept s
      (ChannelOut.place .completion (channelPollTransfer channel id len expectedChecksum out s)) := by
  unfold channelPollTransfer
  simp only
  split
  swap
  · exact kept_refused rfl
  rename_i channel _
  split
  · exact kept_refused rfl
  rename_i poll hpoll
  split
  · exact kept_refused rfl
  rcases hcall : poll id (s.ready (some channel)).2.world with ⟨ok, completion, w⟩
  simp only [ProviderWorld.invoke, hcall, ProviderWorld.ready_calls]
  split
  · exact kept_failed rfl rfl (handedBack_cons nofun nofun handedBack_nil)
  · rename_i hyes
    simp only [Bool.or_eq_true, Bool.not_eq_true', not_or, Bool.not_eq_false, bne_iff_ne, ne_eq,
      not_not] at hyes
    obtain ⟨⟨rfl, hid⟩, hreports⟩ := hyes
    exact kept_answered rfl rfl
      ⟨completion, rfl, rfl, hid, TransferCompletion.matches_of_reports hreports⟩

lemma kept_waitReceive (destination : Option RegionBinding)
    (destinationOffset len expectedChecksum : UInt64) (out : Option TransferCompletion)
    (s : ProviderWorld ω) :
    (ChannelCall.waitReceive destination destinationOffset len expectedChecksum out).Kept s
      (ChannelOut.place .completion (channelWaitReceive channel destination destinationOffset len
        expectedChecksum out s)) := by
  unfold channelWaitReceive
  simp only
  split
  swap
  · exact kept_refused rfl
  rename_i channel destination _
  split
  · exact kept_refused rfl
  rename_i wait hwait
  split
  · exact kept_refused rfl
  rename_i hchecks
  simp only [Bool.or_eq_true, Bool.not_eq_true', not_or, Bool.not_eq_false, sliceFits_iff]
    at hchecks
  have hcovers : destination.Covers (destination.slice destinationOffset len) :=
    ⟨rfl, hchecks.1.2⟩
  rcases hcall : wait ⟨destination.slice destinationOffset len, expectedChecksum, 0⟩
    (s.ready (some channel)).2.world with ⟨ok, completion, w⟩
  simp only [ProviderWorld.invoke, hcall, ProviderWorld.ready_calls]
  split
  · exact kept_failed rfl ⟨destination, rfl, hcovers⟩
      (handedBack_cons nofun nofun handedBack_nil)
  · rename_i hyes
    simp only [Bool.or_eq_true, Bool.not_eq_true', not_or, Bool.not_eq_false, beq_iff_eq] at hyes
    obtain ⟨⟨rfl, hid⟩, hreports⟩ := hyes
    exact kept_answered rfl ⟨destination, rfl, hcovers⟩
      ⟨_, completion, rfl, rfl, rfl, rfl, hid, TransferCompletion.matches_of_reports hreports⟩

lemma kept_mapRemoteRegion (remote : Option RemoteRegion)
    (offset len requestedAddress flags : UInt64) (out : Option MappingBinding)
    (s : ProviderWorld ω) :
    (ChannelCall.mapRemoteRegion remote offset len requestedAddress flags out).Kept s
      (ChannelOut.place .mapping (channelMapRemoteRegion channel remote offset len requestedAddress
        flags out s)) := by
  unfold channelMapRemoteRegion
  simp only
  split
  swap
  · exact kept_refused rfl
  rename_i channel remote _
  split
  · exact kept_refused rfl
  rename_i map hmap
  split
  · exact kept_refused rfl
  rename_i hchecks
  simp only [Bool.or_eq_true, Bool.not_eq_true', not_or, Bool.not_eq_false, sliceFits_iff]
    at hchecks
  have hcap := hchecks.2
  have hmaps : remote.Maps ⟨remote.descriptor, remote.len, offset, len, requestedAddress,
      remote.memoryKind, flags⟩ := ⟨rfl, rfl, hchecks.1.1.1.1.2⟩
  rcases hcall : map ⟨remote.descriptor, remote.len, offset, len, requestedAddress,
    remote.memoryKind, flags⟩ (s.ready (some channel)).2.world with ⟨ok, mapping, w⟩
  simp only [ProviderWorld.invoke, hcall, ProviderWorld.ready_calls]
  split
  · -- the mapping is not taken, and goes back if it has a handle
    cases hunmap : channel.provider.ops.unmapRemoteRegion with
    | none => exact absurd hunmap (channel.provider.unmapRemoteRegion_ne_none hcap)
    | some unmap =>
        simp only
        split
        · rename_i hzero
          refine kept_failed rfl ⟨remote, rfl, hmaps⟩ (handedBack_cons nofun ?_ handedBack_nil)
          rintro _ _ _ ⟨⟩ hne
          exact absurd (by simpa using hzero) hne
        · rename_i hhandle
          rcases hback : unmap mapping.handle w with ⟨ok', ⟨⟩, w'⟩
          refine kept_takenBack rfl ⟨remote, rfl, hmaps⟩
            (show mapping.handle ≠ 0 by simpa using hhandle)
            (handedBack_cons nofun ?_ (handedBack_cons nofun nofun handedBack_nil))
          rintro _ _ _ ⟨⟩ -
          exact ⟨ok', List.mem_singleton_self _⟩
  · rename_i hyes
    simp only [Bool.or_eq_true, Bool.not_eq_true', not_or, Bool.not_eq_false,
      MappingRequest.answeredBy, Bool.and_eq_true, bne_iff_ne, ne_eq, beq_iff_eq] at hyes
    obtain ⟨rfl, ⟨⟨hhandle, hbase⟩, hlen⟩, hkind⟩ := hyes
    exact kept_answered rfl ⟨remote, rfl, hmaps⟩
      ⟨_, mapping, channel.slot, rfl, rfl, rfl, rfl, hhandle, hbase, hlen, hkind⟩

/-- The three range operations. -/
lemma kept_mappingRange {call : ChannelCall} {binding : Option MappingBinding}
    {offset len expectedChecksum timeoutMs : UInt64} {operation : MappingRangeOperation}
    {out : Option VisibilityCompletion} (hout : call.out = .visibility out)
    (hands : ∀ r ok completion, (∃ b, binding = some b ∧ b.Covers r) →
      call.Hands (.range operation r ok completion))
    (answers : ∀ made out, rangeAnswers operation len expectedChecksum made out →
      call.Answers made out) (s : ProviderWorld ω) :
    call.Kept s (ChannelOut.place .visibility (channelMappingRange memory channel binding offset len
      expectedChecksum timeoutMs operation out s)) := by
  have hrefused : ∀ s' : ProviderWorld ω, s'.calls = s.calls →
      call.Kept s (ChannelOut.place .visibility (false, out, s')) := by
    intro s' h
    simp only [ChannelOut.place, ← hout]
    exact kept_refused h
  unfold channelMappingRange
  simp only
  split
  swap
  · exact hrefused _ rfl
  rename_i channel binding _
  split
  · exact hrefused _ rfl
  rename_i hchecks
  simp only [Bool.or_eq_true, Bool.not_eq_true', not_or, Bool.not_eq_false, sliceFits_iff]
    at hchecks
  split
  · exact hrefused _ rfl
  split
  · exact hrefused _ rfl
  rename_i callback hcallback
  have hcovers : binding.Covers ⟨binding.mapping.handle, offset, len, expectedChecksum, timeoutMs,
    0⟩ := ⟨rfl, hchecks.1.2⟩
  rcases hcall : callback ⟨binding.mapping.handle, offset, len, expectedChecksum, timeoutMs, 0⟩
    (s.ready (some channel)).2.world with ⟨ok, completion, w⟩
  simp only [ProviderWorld.invoke, hcall, ProviderWorld.ready_calls]
  split
  · simp only [ChannelOut.place, ← hout]
    exact kept_failed rfl (hands _ _ _ ⟨binding, rfl, hcovers⟩)
      (handedBack_cons nofun nofun handedBack_nil)
  · rename_i hyes
    simp only [Bool.or_eq_true, Bool.not_eq_true', not_or, Bool.not_eq_false,
      VisibilityCompletion.reports, Bool.and_eq_true, beq_iff_eq] at hyes
    obtain ⟨⟨rfl, ⟨hstatus, hbytes⟩, hchecksum⟩, -⟩ := hyes
    exact kept_answered rfl (hands _ _ _ ⟨binding, rfl, hcovers⟩)
      (answers _ _ ⟨_, completion, rfl, rfl, rfl, rfl, hstatus, hbytes, hchecksum⟩)

lemma kept_unmapRemoteRegion (binding : Option MappingBinding) (s : ProviderWorld ω) :
    (ChannelCall.unmapRemoteRegion binding).Kept s
      (ChannelOut.place .mapping (channelUnmapRemoteRegion channel binding s)) := by
  unfold channelUnmapRemoteRegion
  split
  swap
  · exact kept_refused rfl
  rename_i channel binding
  split
  · exact kept_refused rfl
  rename_i unmap hunmap
  split
  · exact kept_refused rfl
  rcases hcall : unmap binding.mapping.handle s.world with ⟨ok, ⟨⟩, w⟩
  simp only [ProviderWorld.invoke, hcall]
  cases ok with
  | false =>
      exact kept_failed rfl ⟨binding, rfl, rfl⟩ (handedBack_cons nofun nofun handedBack_nil)
  | true => exact kept_answered rfl ⟨binding, rfl, rfl⟩ ⟨binding.mapping.handle, rfl, rfl⟩

lemma kept_deregisterRegion (binding : Option RegionBinding) (s : ProviderWorld ω) :
    (ChannelCall.deregisterRegion binding).Kept s
      (ChannelOut.place .region (channelDeregisterRegion channel binding s)) := by
  unfold channelDeregisterRegion
  split
  swap
  · exact kept_refused rfl
  rename_i channel binding
  split
  · exact kept_refused rfl
  rename_i deregister hderegister
  split
  · exact kept_refused rfl
  rcases hcall : deregister binding.region.handle s.world with ⟨ok, ⟨⟩, w⟩
  simp only [ProviderWorld.invoke, hcall]
  cases ok with
  | false =>
      exact kept_failed rfl ⟨binding, rfl, rfl⟩ (handedBack_cons nofun nofun handedBack_nil)
  | true => exact kept_answered rfl ⟨binding, rfl, rfl⟩ ⟨binding.region.handle, rfl, rfl⟩

/-- A transfer is a submission, and a poll for what it brought. -/
lemma kept_transfer (source : Option RegionBinding) (sourceOffset : UInt64)
    (destination : Option RemoteRegion) (destinationOffset len expectedChecksum : UInt64)
    (out : Option TransferCompletion) (s : ProviderWorld ω) :
    (ChannelCall.transfer source sourceOffset destination destinationOffset len expectedChecksum
      out).Kept s
      (ChannelOut.place .completion (channelTransfer channel source sourceOffset destination
        destinationOffset len expectedChecksum out s)) := by
  obtain ⟨made, hcalls, hhands, hanswers, hfails⟩ := kept_submitTransfer channel
    source sourceOffset destination destinationOffset len expectedChecksum (some 0) s
  unfold channelTransfer
  rcases hsubmitted : channelSubmitTransfer channel source sourceOffset destination
    destinationOffset len expectedChecksum (some 0) s with ⟨ok, id, s₁⟩
  rw [hsubmitted] at hcalls hanswers hfails
  simp only [ChannelOut.place] at hcalls hanswers hfails
  have hhands' : ∀ c ∈ made, (ChannelCall.transfer source sourceOffset destination
      destinationOffset len expectedChecksum out).Hands c := by
    intro c hc
    have h := hhands c hc
    cases c <;> first | exact h | exact h.elim
  cases ok with
  | false =>
      obtain ⟨-, hback⟩ := hfails rfl
      exact ⟨made, hcalls, hhands', nofun, fun _ => ⟨rfl, hback⟩⟩
  | true =>
      obtain ⟨request, completionId, rfl, hid, hne, -⟩ := hanswers rfl
      cases hid
      obtain ⟨polled, hpolled, hpollHands, hpollAnswers, hpollFails⟩ :=
        kept_pollTransfer channel completionId len expectedChecksum out s₁
      refine ⟨[.submitTransfer request true completionId] ++ polled, ?_, ?_, ?_, ?_⟩
      · simp only [Bool.not_true, Bool.false_eq_true, if_false, Option.getD_some]
        rw [hpolled, hcalls, List.append_assoc]
      · intro c hc
        rcases List.mem_append.mp hc with hc | hc
        · exact hhands' c hc
        · have h := hpollHands c hc
          cases c with
          | pollCompletion i ok completion => exact h ▸ hne
          | _ => exact h.elim
      · intro hok
        obtain ⟨completion, rfl, hout, hcid, hmatches⟩ := hpollAnswers hok
        exact ⟨request, completionId, completion, rfl, hout, hcid, hmatches⟩
      · intro hno
        obtain ⟨hout, hback⟩ := hpollFails hno
        exact ⟨hout, handedBack_cons nofun nofun hback⟩

end Kept

/-- **The channel is a boundary.**  For every provider, every memory, every operation and all its
arguments: the provider is handed only slices inside the regions of the caller; an operation succeeds
only on an answer that matches the question; and one that fails leaves the caller's output as it was
and no handle at the provider. -/
theorem provider_channel_boundary {ω : Type} (memory : ω → UInt64 → UInt8)
    (channel : Option (ProviderChannel ω)) (call : ChannelCall) (s : ProviderWorld ω) :
    call.Kept s (call.run memory channel s) := by
  cases call with
  | registerRegion request out => exact kept_registerRegion channel request out s
  | submitTransfer source sourceOffset destination destinationOffset len expectedChecksum out =>
      exact kept_submitTransfer channel source sourceOffset destination destinationOffset len
        expectedChecksum out s
  | pollTransfer id len expectedChecksum out =>
      exact kept_pollTransfer channel id len expectedChecksum out s
  | transfer source sourceOffset destination destinationOffset len expectedChecksum out =>
      exact kept_transfer channel source sourceOffset destination destinationOffset len
        expectedChecksum out s
  | waitReceive destination destinationOffset len expectedChecksum out =>
      exact kept_waitReceive channel destination destinationOffset len expectedChecksum out s
  | mapRemoteRegion remote offset len requestedAddress flags out =>
      exact kept_mapRemoteRegion channel remote offset len requestedAddress flags out s
  | publishRange binding offset len expectedChecksum out =>
      refine kept_mappingRange memory channel rfl ?_ ?_ s
      · exact fun _ _ _ h => h
      · exact fun _ _ h => h
  | invalidateRange binding offset len expectedChecksum out =>
      refine kept_mappingRange memory channel rfl ?_ ?_ s
      · exact fun _ _ _ h => h
      · exact fun _ _ h => h
  | waitRangeVisible binding offset len expectedChecksum timeoutMs out =>
      refine kept_mappingRange memory channel rfl ?_ ?_ s
      · exact fun _ _ _ h => h
      · exact fun _ _ h => h
  | unmapRemoteRegion binding => exact kept_unmapRemoteRegion channel binding s
  | deregisterRegion binding => exact kept_deregisterRegion channel binding s

end MemService
