import MemService.Lib.Run
import MemService.ProviderChannel

/-!
# The slot tables of the OBMM provider

The provider keeps eight slots for the regions it exports and eight for the mappings it has made, and
every call of its table is some kernel calls with writes to a slot before, between and after them.
What the kernel answers is an input of the model; a slot in use is a value of its table, and what a
free slot was left with is nothing, as no call reads it.

Unmapping is two kernel calls, and the second can fail when the first cannot be undone: the memory is
unmapped, the call fails, and the slot stays in use.  Handles are counters of 64 bits, and no call
looks whether a handle is still in use.  Where neither happens, every state of every run is sound.
-/

open ByteText SlotTable

namespace MemService

/-! ## Slots -/

/-- `struct mem_service_obmm_region_slot`, in use. -/
structure ObmmRegionSlot where
  handle : UInt64
  descriptor : ObmmDescriptor
  deriving DecidableEq

/-- `struct obmm_helpers_region`: the address of the mapping, `none` for the null pointer, and whether
its file is open. -/
structure ObmmRegion where
  addr : Option UInt64
  isOpen : Bool
  len : UInt64
  memId : UInt64
  deriving DecidableEq

/-- `obmm_unmap_region`. -/
def ObmmRegion.unmapped (region : ObmmRegion) : ObmmRegion :=
  { region with addr := none, isOpen := false }

/-- `struct mem_service_obmm_mapping_slot`, in use. -/
structure ObmmMappingSlot where
  imported : Bool
  mapOsync : Bool
  handle : UInt64
  viewOffset : UInt64
  viewLen : UInt64
  descriptor : ObmmDescriptor
  region : ObmmRegion
  deriving DecidableEq

/-- `MEM_SERVICE_PROVIDER_OBMM_MAX_MAPPINGS`. -/
def obmmMaxMappings : ℕ := 8

/-- `struct mem_service_obmm_context`.  The first `verified_peer_count` of the verified descriptors
are a list. -/
structure ObmmContext where
  localCna : UInt32
  mappingVerified : Bool
  forceOsync : Bool
  maxRemoteMappings : UInt32
  requiredPeerMappings : UInt32
  nextRegionHandle : UInt64
  nextMappingHandle : UInt64
  importOsync : ℕ → Bool
  verifiedPeers : List ObmmDescriptor
  regions : SlotTable ObmmRegionSlot obmmMaxMappings
  mappings : SlotTable ObmmMappingSlot obmmMaxMappings

/-- `struct mem_service_provider_obmm_config`, as far as the slot tables go. -/
structure ObmmConfig where
  maxRemoteMappings : UInt32
  requiredPeerMappings : UInt32
  importRegionBytes : UInt64
  forceOsync : Bool

/-- `mem_service_provider_obmm_endpoint_open`, when the device is there: what it reads of the address
of the node and of the import areas is given. -/
def obmmEndpointOpen (config : ObmmConfig) (localCna : UInt32) (importOsync : ℕ → Bool) :
    Option ObmmContext :=
  if config.maxRemoteMappings = 0 ∨ config.maxRemoteMappings.toNat > obmmMaxMappings ∨
      config.requiredPeerMappings = 0 ∨ config.requiredPeerMappings > config.maxRemoteMappings ∨
      config.importRegionBytes = 0 then none
  else
    some
      { localCna := localCna
        mappingVerified := false
        forceOsync := config.forceOsync
        maxRemoteMappings := config.maxRemoteMappings
        requiredPeerMappings := config.requiredPeerMappings
        nextRegionHandle := 0
        nextMappingHandle := 0
        importOsync := importOsync
        verifiedPeers := []
        regions := .empty
        mappings := .empty }

/-! ## What the kernel answers -/

/-- What `obmm_do_export` leaves behind. -/
structure ObmmExport where
  memId : UInt64
  remoteUba : UInt64
  tokenId : UInt32

/-- What the kernel makes of a mapping: the memory that `obmm_do_import` gives an id for, and the
address at which `obmm_map_region_at` maps it. -/
structure ObmmMapOutcome where
  imported : Option UInt64
  mappedAt : Option UInt64

/-- The first slot whose value passes `p`, and the value. -/
def findSlot {α : Type} {cap : ℕ} (t : SlotTable α cap) (p : α → Bool) : Option (ℕ × α) :=
  (t.indexedFrom 0).find? fun s => p s.2

namespace ObmmContext

variable (ctx : ObmmContext)

/-- `mem_service_obmm_find_region`. -/
def findRegion (handle : UInt64) : Option (ℕ × ObmmRegionSlot) :=
  if handle = 0 then none else findSlot ctx.regions fun r => r.handle == handle

/-- `mem_service_obmm_find_mapping`. -/
def findMapping (handle : UInt64) : Option (ℕ × ObmmMappingSlot) :=
  if handle = 0 then none else findSlot ctx.mappings fun m => m.handle == handle

/-- `mem_service_obmm_provider_probe`, which finds the device file good or not. -/
def probe (fileGood : Bool) : ProviderState :=
  if !fileGood then .unavailable
  else if !ctx.mappingVerified || decide (ctx.verifiedPeers.length < ctx.requiredPeerMappings.toNat)
    then .degraded
  else .ready

/-! ## Regions -/

/-- What a region request is checked for. -/
def registrable (request : RegionRequest) : Bool :=
  request.base == 0 && request.len != 0 && request.memoryKind == MemoryKind.host &&
    request.flags == regionFlagProviderAllocated

/-- The descriptor of an exported region. -/
def exportedDescriptor (request : RegionRequest) (exported : ObmmExport) : ObmmDescriptor :=
  ⟨exported.memId, exported.remoteUba, request.len, exported.tokenId, ctx.localCna⟩

/-- `mem_service_obmm_provider_register_region`, with what `obmm_do_export` gives. -/
def registerRegion (request : RegionRequest) (exported : Option ObmmExport) :
    ObmmContext × Option ProviderRegion :=
  if !registrable request then (ctx, none)
  else
    match ctx.regions.firstFree?, exported with
    | some i, some exported =>
        let descriptor := ctx.exportedDescriptor request exported
        let handle := ctx.nextRegionHandle + 1
        let written := { ctx with
          nextRegionHandle := handle
          regions := ctx.regions.put i ⟨handle, descriptor⟩ }
        match obmmDescriptorEncode descriptor with
        | none => ({ written with regions := written.regions.clear i }, none)
        | some bytes => (written, some ⟨handle, request.len, request.memoryKind, bytes⟩)
    | _, _ => (ctx, none)

/-- `mem_service_obmm_provider_deregister_region`, with whether `obmm_do_unexport` succeeds. -/
def deregisterRegion (handle : UInt64) (unexported : Bool) : ObmmContext × Bool :=
  match ctx.findRegion handle with
  | none => (ctx, false)
  | some (i, region) =>
      if ctx.mappings.entries.any fun m => m.descriptor == region.descriptor then (ctx, false)
      else if !unexported then (ctx, false)
      else ({ ctx with regions := ctx.regions.clear i }, true)

/-! ## Mappings -/

/-- `mem_service_obmm_descriptor_is_local`. -/
def descriptorIsLocal (descriptor : ObmmDescriptor) : Bool :=
  ctx.regions.entries.any fun r => r.descriptor == descriptor

/-- What a mapping request is checked for, its descriptor apart. -/
def mappable (request : MappingRequest) : Bool :=
  request.memoryKind == MemoryKind.host && request.len != 0 &&
    request.flags &&& ~~~mappingFlagValidMask == 0 &&
    hasCap request.flags (mappingFlagRead ||| mappingFlagWrite) &&
    sliceFits request.offset request.len request.remoteRegionLen &&
    !(hasCap request.flags mappingFlagFixedAddress &&
      (request.requestedAddress == 0 || request.offset != 0)) &&
    !(!hasCap request.flags mappingFlagFixedAddress && request.requestedAddress != 0)

/-- The first free slot of the mappings that are allowed. -/
def freeMapping : Option ℕ :=
  ctx.mappings.firstFree?.filter fun i => decide (i < ctx.maxRemoteMappings.toNat)

/-- `mem_service_obmm_provider_map_remote_region`. -/
def mapRemoteRegion (request : MappingRequest) (kernel : ObmmMapOutcome) :
    ObmmContext × Option ProviderMapping :=
  if !mappable request then (ctx, none)
  else
    match obmmDescriptorDecode request.remoteDescriptor, ctx.freeMapping with
    | some descriptor, some i =>
        if descriptor.size ≠ request.remoteRegionLen then (ctx, none)
        else
          let isLocal := ctx.descriptorIsLocal descriptor
          let mapOsync := ctx.forceOsync || (!isLocal && ctx.importOsync i)
          let importMemId := if isLocal then some descriptor.exportMemId else kernel.imported
          match importMemId, kernel.mappedAt with
          | some memId, some addr =>
              let handle := ctx.nextMappingHandle + 1
              let slot : ObmmMappingSlot :=
                { imported := !isLocal
                  mapOsync := mapOsync
                  handle := handle
                  viewOffset := request.offset
                  viewLen := request.len
                  descriptor := descriptor
                  region := ⟨some addr, true, descriptor.size, memId⟩ }
              ({ ctx with
                  nextMappingHandle := handle
                  mappings := ctx.mappings.put i slot },
                some ⟨handle, addr + request.offset, request.len, request.memoryKind⟩)
          | _, _ => (ctx, none)
    | _, _ => (ctx, none)

/-- `mem_service_obmm_provider_unmap_remote_region`, with whether `obmm_do_unimport` succeeds. -/
def unmapRemoteRegion (handle : UInt64) (unimported : Bool) : ObmmContext × Bool :=
  match ctx.findMapping handle with
  | none => (ctx, false)
  | some (i, slot) =>
      if slot.imported && !unimported then
        -- the memory is unmapped by now, and the slot is still in use
        ({ ctx with mappings := ctx.mappings.put i { slot with region := slot.region.unmapped } },
          false)
      else ({ ctx with mappings := ctx.mappings.clear i }, true)

/-! ## Verification -/

/-- `mem_service_obmm_provider_wait_range_visible`, for a range at the start of the view: whether,
before the time is up, the range could be synchronised and had its checksum. -/
def waitRangeVisible (handle len : UInt64) (visible : Bool) : Bool :=
  match ctx.findMapping handle with
  | none => false
  | some (_, slot) =>
      slot.imported && slot.region.isOpen && (slot.mapOsync || slot.region.addr.isSome) &&
        len != 0 && len ≤ slot.viewLen && visible

/-- A descriptor is noted as verified, if it is new and there is room. -/
def noteVerified (descriptor : ObmmDescriptor) : ObmmContext :=
  let verified :=
    if descriptor ∉ ctx.verifiedPeers ∧ ctx.verifiedPeers.length < obmmMaxMappings then
      ctx.verifiedPeers ++ [descriptor]
    else ctx.verifiedPeers
  { ctx with
    verifiedPeers := verified
    mappingVerified := decide (ctx.requiredPeerMappings.toNat ≤ verified.length) }

/-- What a verification is checked for, the descriptor of the region apart. -/
def verifiable (remote : RemoteRegion) (offset len expectedChecksum timeoutMs : UInt64) : Bool :=
  decide (remote.providerName = ascii "obmm") && remote.len != 0 &&
    remote.memoryKind == MemoryKind.host && len != 0 && sliceFits offset len remote.len &&
    expectedChecksum != 0 && timeoutMs != 0

/-- `mem_service_provider_obmm_endpoint_verify_mapping`: the context, and the descriptor that was
verified. -/
def verifyMapping (remote : RemoteRegion) (offset len expectedChecksum timeoutMs : UInt64)
    (kernel : ObmmMapOutcome) (visible unimported : Bool) : ObmmContext × Option ObmmDescriptor :=
  if !verifiable remote offset len expectedChecksum timeoutMs then (ctx, none)
  else
    match obmmDescriptorDecode remote.descriptor with
    | none => (ctx, none)
    | some descriptor =>
        match ctx.mapRemoteRegion ⟨remote.descriptor, remote.len, offset, len, 0, remote.memoryKind,
            mappingFlagRead⟩ kernel with
        | (mapped, none) => (mapped, none)
        | (mapped, some mapping) =>
            let seen := mapped.waitRangeVisible mapping.handle len visible
            let unmapped := mapped.unmapRemoteRegion mapping.handle unimported
            if seen && unmapped.2 then (unmapped.1.noteVerified descriptor, some descriptor)
            else (unmapped.1, none)

end ObmmContext

/-! ## Runs -/

/-- A call of the provider, with what the kernel answers in it. -/
inductive ObmmCall
  | register (request : RegionRequest) (exported : Option ObmmExport)
  | deregister (handle : UInt64) (unexported : Bool)
  | map (request : MappingRequest) (kernel : ObmmMapOutcome)
  | unmap (handle : UInt64) (unimported : Bool)
  | verify (remote : RemoteRegion) (offset len expectedChecksum timeoutMs : UInt64)
      (kernel : ObmmMapOutcome) (visible unimported : Bool)

namespace ObmmCall

/-- The context after a call, and whether it succeeded. -/
def run (ctx : ObmmContext) : ObmmCall → ObmmContext × Bool
  | register request exported =>
      ((ctx.registerRegion request exported).1, (ctx.registerRegion request exported).2.isSome)
  | deregister handle unexported => ctx.deregisterRegion handle unexported
  | map request kernel =>
      ((ctx.mapRemoteRegion request kernel).1, (ctx.mapRemoteRegion request kernel).2.isSome)
  | unmap handle unimported => ctx.unmapRemoteRegion handle unimported
  | verify remote offset len expectedChecksum timeoutMs kernel visible unimported =>
      let verified := ctx.verifyMapping remote offset len expectedChecksum timeoutMs kernel visible
        unimported
      (verified.1, verified.2.isSome)

/-- The descriptor that a call verified. -/
def verified (ctx : ObmmContext) : ObmmCall → Option ObmmDescriptor
  | verify remote offset len expectedChecksum timeoutMs kernel visible unimported =>
      (ctx.verifyMapping remote offset len expectedChecksum timeoutMs kernel visible unimported).2
  | _ => none

end ObmmCall

/-- A provider in a run: its context, and every descriptor that a call has verified so far. -/
structure ObmmRun where
  context : ObmmContext
  verified : List ObmmDescriptor

/-- The run after one more call. -/
def ObmmRun.step (s : ObmmRun) (call : ObmmCall) : ObmmRun where
  context := (call.run s.context).1
  verified := s.verified ++ (call.verified s.context).toList

/-! ## What the tables are to be -/

/-- The same slots in use, with the same values. -/
def SameSlots {α : Type} {cap : ℕ} (t u : SlotTable α cap) : Prop := ∀ i, u.get i = t.get i

namespace ObmmContext

/-- Handles are unique, and a mapping in use is of memory that is mapped. -/
structure Sound (ctx : ObmmContext) : Prop where
  regionHandles : UniqueKeys ObmmRegionSlot.handle ctx.regions
  mappingHandles : UniqueKeys ObmmMappingSlot.handle ctx.mappings
  mapped : ∀ m ∈ ctx.mappings.entries, m.region.addr ≠ none ∧ m.region.isOpen = true

/-- The next handle of a region is not in use. -/
def FreshRegion (ctx : ObmmContext) : Prop :=
  ∀ r ∈ ctx.regions.entries, r.handle ≠ ctx.nextRegionHandle + 1

/-- The next handle of a mapping is not in use. -/
def FreshMapping (ctx : ObmmContext) : Prop :=
  ∀ m ∈ ctx.mappings.entries, m.handle ≠ ctx.nextMappingHandle + 1

end ObmmContext

/-- What one call owes, of a provider that asks for `required` peers. -/
structure ObmmStep (required : UInt32) (s : ObmmRun) (call : ObmmCall) : Prop where
  sound : (s.step call).context.Sound
  kept : (call.run s.context).2 = false →
    SameSlots s.context.regions (s.step call).context.regions ∧
      SameSlots s.context.mappings (s.step call).context.mappings
  mappedRegions : ∀ i region, s.context.regions.get i = some region →
    (s.step call).context.regions.get i ≠ some region →
    ∀ m ∈ s.context.mappings.entries, m.descriptor ≠ region.descriptor
  ready : ∀ fileGood, (s.step call).context.probe fileGood = ProviderState.ready →
    ∃ peers : List ObmmDescriptor, peers.Nodup ∧
      required.toNat ≤ peers.length ∧ ∀ d ∈ peers, d ∈ (s.step call).verified

/-- The call takes no handle that is in use, and no unimport fails behind an unmap. -/
def ObmmCall.Clean (ctx : ObmmContext) : ObmmCall → Prop
  | register request exported =>
      ObmmContext.registrable request = true → ctx.regions.firstFree? ≠ none →
        ∀ e, exported = some e → (ctx.exportedDescriptor request e).complete = true →
          ctx.FreshRegion
  | deregister _ _ => True
  | map request kernel =>
      ObmmContext.mappable request = true → kernel.mappedAt ≠ none → ctx.FreshMapping
  | unmap handle unimported =>
      ∀ m ∈ ctx.mappings.entries, m.handle = handle → m.imported = true → unimported = true
  | verify remote _ _ _ _ kernel _ unimported =>
      kernel.mappedAt ≠ none →
        ctx.FreshMapping ∧ ctx.nextMappingHandle + 1 ≠ 0 ∧
          ∀ d, obmmDescriptorDecode remote.descriptor = some d → ctx.descriptorIsLocal d = false →
            unimported = true

/-! ## Slots that are found, filled and freed -/

section Slots

variable {α κ : Type} {cap : ℕ} {t u : SlotTable α cap} {key : α → κ} {i : ℕ} {a : α}

lemma findSlot_eq_some {p : α → Bool} (h : findSlot t p = some (i, a)) :
    t.get i = some a ∧ p a = true := by
  have hpass := List.find?_some h
  exact ⟨get_of_mem_indexedFrom (List.mem_of_find?_eq_some h), hpass⟩

/-- The only value that passes is found. -/
lemma findSlot_of_unique {p : α → Bool} (ht : t.get i = some a) (ha : p a = true)
    (honly : ∀ j b, t.get j = some b → p b = true → j = i) : findSlot t p = some (i, a) := by
  cases hfind : findSlot t p with
  | none =>
      have hno := List.find?_eq_none.mp hfind (i, a) (mem_indexedFrom_of_get ht)
      exact absurd ha hno
  | some s =>
      obtain ⟨j, b⟩ := s
      obtain ⟨hb, hpass⟩ := findSlot_eq_some hfind
      obtain rfl := honly j b hb hpass
      rw [Option.some.inj (hb.symm.trans ht)]

lemma sameSlots_refl (t : SlotTable α cap) : SameSlots t t := fun _ => rfl

/-- A free slot that is filled and freed again. -/
lemma sameSlots_put_clear (hi : i < cap) (hfree : t.get i = none) (a : α) :
    SameSlots t ((t.put i a).clear i) := by
  intro j
  rw [get_clear, get_put hi]
  split
  · rename_i h
    rw [h, hfree]
  · rfl

lemma SameSlots.mem_entries_iff (h : SameSlots t u) {b : α} : b ∈ u.entries ↔ b ∈ t.entries := by
  simp only [mem_entries, h _]

lemma SameSlots.uniqueKeys (h : SameSlots t u) (ht : UniqueKeys key t) : UniqueKeys key u := by
  intro i j a b ha hb
  rw [h] at ha hb
  exact ht i j a b ha hb

/-- A free slot may take a value with a key of its own. -/
lemma uniqueKeys_put_fresh (ht : UniqueKeys key t) (hi : i < cap)
    (hfresh : ∀ b ∈ t.entries, key b ≠ key a) : UniqueKeys key (t.put i a) :=
  ht.put hi fun _ _ hb hab => absurd hab (hfresh _ (mem_entries_of_get hb))

end Slots

/-! ## What a clean call does to the tables -/

/-- The changes of a clean call: none, or one slot filled or freed. -/
inductive TablesChange (ctx ctx' : ObmmContext) : Bool → Prop
  | same {ok : Bool} (regions : SameSlots ctx.regions ctx'.regions)
      (mappings : SameSlots ctx.mappings ctx'.mappings) : TablesChange ctx ctx' ok
  | registered {i : ℕ} {region : ObmmRegionSlot} (hi : i < obmmMaxMappings)
      (free : ctx.regions.get i = none) (fresh : ∀ r ∈ ctx.regions.entries, r.handle ≠ region.handle)
      (regions : ctx'.regions = ctx.regions.put i region) (mappings : ctx'.mappings = ctx.mappings) :
      TablesChange ctx ctx' true
  | deregistered {i : ℕ} {region : ObmmRegionSlot} (found : ctx.regions.get i = some region)
      (unmapped : ∀ m ∈ ctx.mappings.entries, m.descriptor ≠ region.descriptor)
      (regions : ctx'.regions = ctx.regions.clear i) (mappings : ctx'.mappings = ctx.mappings) :
      TablesChange ctx ctx' true
  | mapped {i : ℕ} {m : ObmmMappingSlot} (hi : i < obmmMaxMappings)
      (fresh : ∀ q ∈ ctx.mappings.entries, q.handle ≠ m.handle)
      (isMapped : m.region.addr ≠ none ∧ m.region.isOpen = true)
      (regions : ctx'.regions = ctx.regions) (mappings : ctx'.mappings = ctx.mappings.put i m) :
      TablesChange ctx ctx' true
  | unmapped {i : ℕ} (regions : ctx'.regions = ctx.regions)
      (mappings : ctx'.mappings = ctx.mappings.clear i) : TablesChange ctx ctx' true

namespace TablesChange

variable {ctx ctx' : ObmmContext} {ok : Bool}

lemma sound (h : TablesChange ctx ctx' ok) (hs : ctx.Sound) : ctx'.Sound := by
  cases h with
  | same regions mappings =>
      exact ⟨regions.uniqueKeys hs.regionHandles, mappings.uniqueKeys hs.mappingHandles,
        fun m hm => hs.mapped m (mappings.mem_entries_iff.mp hm)⟩
  | registered hi free fresh regions mappings =>
      refine ⟨?_, mappings ▸ hs.mappingHandles, fun m hm => hs.mapped m (mappings ▸ hm)⟩
      rw [regions]
      exact uniqueKeys_put_fresh hs.regionHandles hi fresh
  | deregistered found unmapped regions mappings =>
      refine ⟨?_, mappings ▸ hs.mappingHandles, fun m hm => hs.mapped m (mappings ▸ hm)⟩
      rw [regions]
      exact hs.regionHandles.clear _
  | mapped hi fresh isMapped regions mappings =>
      refine ⟨regions ▸ hs.regionHandles, ?_, fun m hm => ?_⟩
      · rw [mappings]
        exact uniqueKeys_put_fresh hs.mappingHandles hi fresh
      · rw [mappings] at hm
        rcases mem_entries_put hm with rfl | hm
        · exact isMapped
        · exact hs.mapped m hm
  | unmapped regions mappings =>
      refine ⟨regions ▸ hs.regionHandles, ?_, fun m hm => ?_⟩
      · rw [mappings]
        exact hs.mappingHandles.clear _
      · rw [mappings] at hm
        exact hs.mapped m (mem_entries_clear hm)

lemma kept (h : TablesChange ctx ctx' ok) (hok : ok = false) :
    SameSlots ctx.regions ctx'.regions ∧ SameSlots ctx.mappings ctx'.mappings := by
  cases h with
  | same regions mappings => exact ⟨regions, mappings⟩
  | registered => cases hok
  | deregistered => cases hok
  | mapped => cases hok
  | unmapped => cases hok

/-- A region goes only when no mapping has its descriptor. -/
lemma mappedRegions (h : TablesChange ctx ctx' ok) {i : ℕ} {region : ObmmRegionSlot}
    (hi : ctx.regions.get i = some region) (hgone : ctx'.regions.get i ≠ some region) :
    ∀ m ∈ ctx.mappings.entries, m.descriptor ≠ region.descriptor := by
  cases h with
  | same regions mappings => exact absurd (regions i ▸ hi) hgone
  | @registered j r hj free fresh regions mappings =>
      rw [regions, get_put hj] at hgone
      split at hgone
      · rename_i hij
        rw [hij, free] at hi
        cases hi
      · exact absurd hi hgone
  | @deregistered j r found unmapped regions mappings =>
      rw [regions, get_clear] at hgone
      split at hgone
      · rename_i hij
        rw [hij, found] at hi
        exact Option.some.inj hi ▸ unmapped
      · exact absurd hi hgone
  | mapped hj fresh isMapped regions mappings => exact absurd (regions ▸ hi) hgone
  | unmapped regions mappings => exact absurd (regions ▸ hi) hgone

end TablesChange

namespace ObmmContext

variable {ctx : ObmmContext}

lemma change_registerRegion {request : RegionRequest} {exported : Option ObmmExport}
    (h : (ObmmCall.register request exported).Clean ctx) :
    TablesChange ctx (ctx.registerRegion request exported).1
      (ctx.registerRegion request exported).2.isSome := by
  unfold registerRegion
  split
  · exact .same (sameSlots_refl _) (sameSlots_refl _)
  rename_i hrequest
  split
  swap
  · exact .same (sameSlots_refl _) (sameSlots_refl _)
  rename_i i e hfree
  obtain ⟨hi, hnone⟩ := firstFree?_eq_some hfree
  simp only
  split
  · exact .same (sameSlots_put_clear hi hnone _) (sameSlots_refl _)
  · rename_i bytes hencode
    have hcomplete : (ctx.exportedDescriptor request e).complete = true := by
      unfold obmmDescriptorEncode at hencode
      split at hencode
      · cases hencode
      · rename_i h
        simpa using h
    have hfresh : ctx.FreshRegion :=
      h (by simpa using hrequest) (by rw [hfree]; exact Option.some_ne_none i) e rfl hcomplete
    refine .registered hi hnone ?_ rfl rfl
    exact hfresh

lemma change_deregisterRegion (handle : UInt64) (unexported : Bool) :
    TablesChange ctx (ctx.deregisterRegion handle unexported).1
      (ctx.deregisterRegion handle unexported).2 := by
  unfold deregisterRegion
  split
  · exact .same (sameSlots_refl _) (sameSlots_refl _)
  rename_i i region hfind
  split
  · exact .same (sameSlots_refl _) (sameSlots_refl _)
  rename_i hmapped
  split
  · exact .same (sameSlots_refl _) (sameSlots_refl _)
  · have hget : ctx.regions.get i = some region := by
      unfold findRegion at hfind
      split at hfind
      · cases hfind
      · exact (findSlot_eq_some hfind).1
    refine .deregistered hget (fun m hm heq => hmapped ?_) rfl rfl
    exact List.any_eq_true.mpr ⟨m, hm, beq_iff_eq.mpr heq⟩

/-- What a map does: nothing, or it fills a free slot with a mapping under the next handle. -/
lemma mapRemoteRegion_cases (ctx : ObmmContext) (request : MappingRequest)
    (kernel : ObmmMapOutcome) :
    ctx.mapRemoteRegion request kernel = (ctx, none) ∨
    ∃ i slot mapping d, i < obmmMaxMappings ∧ ctx.mappings.get i = none ∧
      mappable request = true ∧ kernel.mappedAt ≠ none ∧
      obmmDescriptorDecode request.remoteDescriptor = some d ∧
      slot.handle = ctx.nextMappingHandle + 1 ∧ slot.imported = !ctx.descriptorIsLocal d ∧
      (slot.region.addr ≠ none ∧ slot.region.isOpen = true) ∧
      mapping.handle = ctx.nextMappingHandle + 1 ∧
      ctx.mapRemoteRegion request kernel =
        ({ ctx with
            nextMappingHandle := ctx.nextMappingHandle + 1
            mappings := ctx.mappings.put i slot }, some mapping) := by
  unfold mapRemoteRegion
  split
  · exact .inl rfl
  rename_i hrequest
  split
  swap
  · exact .inl rfl
  rename_i d i hdecode hfree
  obtain ⟨hi, hnone⟩ : i < obmmMaxMappings ∧ ctx.mappings.get i = none :=
    firstFree?_eq_some (Option.filter_eq_some_iff.mp hfree).1
  split
  · exact .inl rfl
  simp only
  split
  swap
  · exact .inl rfl
  rename_i memId addr hmem haddr
  refine .inr ⟨i, _, _, d, hi, hnone, by simpa using hrequest, ?_, hdecode, ?_, ?_, ?_, ?_, rfl⟩
  · rw [haddr]
    exact Option.some_ne_none addr
  · rfl
  · rfl
  · exact ⟨Option.some_ne_none addr, rfl⟩
  · rfl

lemma change_mapRemoteRegion {request : MappingRequest} {kernel : ObmmMapOutcome}
    (h : (ObmmCall.map request kernel).Clean ctx) :
    TablesChange ctx (ctx.mapRemoteRegion request kernel).1
      (ctx.mapRemoteRegion request kernel).2.isSome := by
  obtain heq | ⟨i, slot, mapping, d, hi, -, hrequest, hkernel, -, hhandle, -, hmapped, -, heq⟩ :=
    ctx.mapRemoteRegion_cases request kernel
  · rw [heq]
    exact .same (sameSlots_refl _) (sameSlots_refl _)
  · rw [heq]
    exact .mapped hi (fun q hq => hhandle ▸ h hrequest hkernel q hq) hmapped rfl rfl

lemma change_unmapRemoteRegion {handle : UInt64} {unimported : Bool}
    (h : (ObmmCall.unmap handle unimported).Clean ctx) :
    TablesChange ctx (ctx.unmapRemoteRegion handle unimported).1
      (ctx.unmapRemoteRegion handle unimported).2 := by
  unfold unmapRemoteRegion
  split
  · exact .same (sameSlots_refl _) (sameSlots_refl _)
  rename_i i slot hfind
  split
  · rename_i hfails
    obtain ⟨himported, hno⟩ := Bool.and_eq_true_iff.mp hfails
    unfold findMapping at hfind
    split at hfind
    · cases hfind
    · obtain ⟨hget, hhandle⟩ := findSlot_eq_some hfind
      rw [h slot (mem_entries_of_get hget) (by simpa using hhandle) himported] at hno
      cases hno
  · exact .unmapped rfl rfl

/-- A mapping in use is found by its handle. -/
lemma findMapping_of_get {i : ℕ} {m : ObmmMappingSlot}
    (hunique : UniqueKeys ObmmMappingSlot.handle ctx.mappings) (hm : ctx.mappings.get i = some m)
    (hne : m.handle ≠ 0) : ctx.findMapping m.handle = some (i, m) := by
  unfold findMapping
  rw [if_neg hne]
  refine findSlot_of_unique hm (beq_self_eq_true _) fun j b hb hpass => ?_
  exact hunique j i b m hb hm (by simpa using hpass)

/-- A verification: the mapping that it makes is gone again, and what it verified is noted. -/
lemma verifyMapping_cases (hs : ctx.Sound) {remote : RemoteRegion}
    {offset len expectedChecksum timeoutMs : UInt64} {kernel : ObmmMapOutcome}
    {visible unimported : Bool}
    (h : (ObmmCall.verify remote offset len expectedChecksum timeoutMs kernel visible
      unimported).Clean ctx) :
    ∃ ctx', SameSlots ctx.regions ctx'.regions ∧ SameSlots ctx.mappings ctx'.mappings ∧
      ctx'.requiredPeerMappings = ctx.requiredPeerMappings ∧
      ctx'.mappingVerified = ctx.mappingVerified ∧ ctx'.verifiedPeers = ctx.verifiedPeers ∧
      (ctx.verifyMapping remote offset len expectedChecksum timeoutMs kernel visible unimported =
          (ctx', none) ∨
        ∃ d, ctx.verifyMapping remote offset len expectedChecksum timeoutMs kernel visible unimported =
          (ctx'.noteVerified d, some d)) := by
  have hsame : ∀ r, r = (ctx, none) → ∃ ctx' : ObmmContext, SameSlots ctx.regions ctx'.regions ∧
      SameSlots ctx.mappings ctx'.mappings ∧
      ctx'.requiredPeerMappings = ctx.requiredPeerMappings ∧
      ctx'.mappingVerified = ctx.mappingVerified ∧ ctx'.verifiedPeers = ctx.verifiedPeers ∧
      (r = (ctx', none) ∨ ∃ d, r = (ctx'.noteVerified d, some d)) :=
    fun r hr => ⟨ctx, sameSlots_refl _, sameSlots_refl _, rfl, rfl, rfl, .inl hr⟩
  unfold verifyMapping
  split
  · exact hsame _ rfl
  split
  · exact hsame _ rfl
  rename_i d hd
  obtain heq | ⟨i, slot, mapping, d', hi, hnone, -, hkernel, hdecode, hhandle, himported, -, hmapping,
    heq⟩ := ctx.mapRemoteRegion_cases ⟨remote.descriptor, remote.len, offset, len, 0,
      remote.memoryKind, mappingFlagRead⟩ kernel
  · rw [heq]
    exact hsame _ rfl
  · obtain rfl : d = d' := Option.some.inj (hd.symm.trans hdecode)
    obtain ⟨hfresh, hzero, hunimport⟩ := h hkernel
    rw [heq]
    simp only
    generalize hmapped : ({ ctx with
      nextMappingHandle := ctx.nextMappingHandle + 1
      mappings := ctx.mappings.put i slot } : ObmmContext) = mapped
    have hmappings : mapped.mappings = ctx.mappings.put i slot := by rw [← hmapped]
    -- the slot just filled is the one that its handle finds
    have hfind : mapped.findMapping mapping.handle = some (i, slot) := by
      rw [hmapping, ← hhandle]
      refine findMapping_of_get ?_ ?_ (hhandle ▸ hzero)
      · rw [hmappings]
        exact uniqueKeys_put_fresh hs.mappingHandles hi fun q hq => hhandle ▸ hfresh q hq
      · rw [hmappings, get_put hi, if_pos rfl]
    have hclean : (slot.imported && !unimported) = false := by
      rw [himported]
      cases hlocal : ctx.descriptorIsLocal d with
      | true => rfl
      | false => rw [hunimport d hd hlocal]; rfl
    have hunmap : mapped.unmapRemoteRegion mapping.handle unimported =
        ({ mapped with mappings := mapped.mappings.clear i }, true) := by
      simp only [unmapRemoteRegion, hfind, hclean, Bool.false_eq_true, if_false]
    rw [hunmap]
    refine ⟨{ mapped with mappings := mapped.mappings.clear i }, ?_, ?_, ?_, ?_, ?_, ?_⟩
    · rw [← hmapped]
      exact sameSlots_refl _
    · show SameSlots ctx.mappings (mapped.mappings.clear i)
      rw [hmappings]
      exact sameSlots_put_clear hi hnone slot
    · rw [← hmapped]
    · rw [← hmapped]
    · rw [← hmapped]
    · split
      · exact .inr ⟨d, rfl⟩
      · exact .inl rfl

/-! ## The peers -/

/-- What is known of the peers. -/
def peers (ctx : ObmmContext) : UInt32 × Bool × List ObmmDescriptor :=
  (ctx.requiredPeerMappings, ctx.mappingVerified, ctx.verifiedPeers)

lemma peers_registerRegion (request : RegionRequest) (exported : Option ObmmExport) :
    (ctx.registerRegion request exported).1.peers = ctx.peers := by
  unfold registerRegion
  split
  · rfl
  split
  · simp only
    split <;> rfl
  · rfl

lemma peers_deregisterRegion (handle : UInt64) (unexported : Bool) :
    (ctx.deregisterRegion handle unexported).1.peers = ctx.peers := by
  unfold deregisterRegion
  split
  · rfl
  split
  · rfl
  split <;> rfl

lemma peers_mapRemoteRegion (request : MappingRequest) (kernel : ObmmMapOutcome) :
    (ctx.mapRemoteRegion request kernel).1.peers = ctx.peers := by
  obtain heq | ⟨i, slot, mapping, d, -, -, -, -, -, -, -, -, -, heq⟩ :=
    ctx.mapRemoteRegion_cases request kernel
  · rw [heq]
  · rw [heq]
    rfl

lemma peers_unmapRemoteRegion (handle : UInt64) (unimported : Bool) :
    (ctx.unmapRemoteRegion handle unimported).1.peers = ctx.peers := by
  unfold unmapRemoteRegion
  split
  · rfl
  split <;> rfl

end ObmmContext

/-! ## The invariant of a run -/

/-- The tables are sound, and the peers that are noted are distinct and were all verified. -/
structure ObmmRun.Good (required : UInt32) (s : ObmmRun) : Prop where
  sound : s.context.Sound
  required : s.context.requiredPeerMappings = required
  distinct : s.context.verifiedPeers.Nodup
  noted : ∀ d ∈ s.context.verifiedPeers, d ∈ s.verified

namespace ObmmRun

variable {required : UInt32} {s : ObmmRun} {call : ObmmCall}

lemma Good.ready (h : s.Good required) {fileGood : Bool}
    (hready : s.context.probe fileGood = ProviderState.ready) :
    ∃ peers : List ObmmDescriptor, peers.Nodup ∧
      required.toNat ≤ peers.length ∧ ∀ d ∈ peers, d ∈ s.verified := by
  rw [← h.required]
  refine ⟨s.context.verifiedPeers, h.distinct, ?_, h.noted⟩
  unfold ObmmContext.probe at hready
  split at hready
  · cases hready
  · split at hready
    · cases hready
    · rename_i hpeers
      simp only [Bool.or_eq_true, decide_eq_true_eq, not_or, not_lt] at hpeers
      exact hpeers.2

/-- What a clean call does: one change of the tables, and the peers stay or one more is noted. -/
lemma clean_call (h : s.Good required) (hclean : call.Clean s.context) :
    TablesChange s.context (s.step call).context (call.run s.context).2 ∧
    (s.step call).context.requiredPeerMappings = s.context.requiredPeerMappings ∧
    ((s.step call).context.verifiedPeers = s.context.verifiedPeers ∨
      ∃ d, call.verified s.context = some d ∧
        (s.step call).context.verifiedPeers = s.context.verifiedPeers ++ [d] ∧
        d ∉ s.context.verifiedPeers) := by
  have hpeers : ∀ {ctx ctx' : ObmmContext} {P : Prop}, ctx'.peers = ctx.peers →
      ctx'.requiredPeerMappings = ctx.requiredPeerMappings ∧
        (ctx'.verifiedPeers = ctx.verifiedPeers ∨ P) :=
    fun heq => ⟨congrArg Prod.fst heq, .inl (congrArg (fun p => p.2.2) heq)⟩
  cases call with
  | register request exported =>
      exact ⟨ObmmContext.change_registerRegion hclean,
        hpeers (ObmmContext.peers_registerRegion request exported)⟩
  | deregister handle unexported =>
      exact ⟨ObmmContext.change_deregisterRegion handle unexported,
        hpeers (ObmmContext.peers_deregisterRegion handle unexported)⟩
  | map request kernel =>
      exact ⟨ObmmContext.change_mapRemoteRegion hclean,
        hpeers (ObmmContext.peers_mapRemoteRegion request kernel)⟩
  | unmap handle unimported =>
      exact ⟨ObmmContext.change_unmapRemoteRegion hclean,
        hpeers (ObmmContext.peers_unmapRemoteRegion handle unimported)⟩
  | verify remote offset len expectedChecksum timeoutMs kernel visible unimported =>
      obtain ⟨ctx', hregions, hmappings, hrequired, -, hsame, heq | ⟨d, heq⟩⟩ :=
        ObmmContext.verifyMapping_cases h.sound hclean
      · have hcontext : (s.step (.verify remote offset len expectedChecksum timeoutMs kernel visible
            unimported)).context = ctx' := congrArg Prod.fst heq
        rw [hcontext]
        exact ⟨.same hregions hmappings, hrequired, .inl hsame⟩
      · have hcontext : (s.step (.verify remote offset len expectedChecksum timeoutMs kernel visible
            unimported)).context = ctx'.noteVerified d := congrArg Prod.fst heq
        rw [hcontext]
        refine ⟨.same hregions hmappings, hrequired, ?_⟩
        have hverified : (ObmmCall.verify remote offset len expectedChecksum timeoutMs kernel visible
            unimported).verified s.context = some d := congrArg Prod.snd heq
        by_cases hnew : d ∉ ctx'.verifiedPeers ∧ ctx'.verifiedPeers.length < obmmMaxMappings
        · refine .inr ⟨d, hverified, ?_, hsame ▸ hnew.1⟩
          rw [ObmmContext.noteVerified, if_pos hnew, hsame]
        · refine .inl ?_
          rw [ObmmContext.noteVerified, if_neg hnew, hsame]

lemma Good.step (h : s.Good required) (hclean : call.Clean s.context) :
    (s.step call).Good required := by
  obtain ⟨hchange, hrequired, hpeers⟩ := clean_call h hclean
  have hmore : ∀ d ∈ s.verified, d ∈ (s.step call).verified :=
    fun d hd => List.mem_append_left _ hd
  refine ⟨hchange.sound h.sound, hrequired.trans h.required, ?_, ?_⟩
  · rcases hpeers with heq | ⟨d, -, heq, hnew⟩
    · rw [heq]
      exact h.distinct
    · rw [heq]
      exact List.nodup_append.mpr ⟨h.distinct, List.nodup_singleton d, fun a ha b hb hab =>
        hnew (List.mem_singleton.mp hb ▸ hab ▸ ha)⟩
  · intro d hd
    rcases hpeers with heq | ⟨d', hverified, heq, -⟩
    · exact hmore d (h.noted d (heq ▸ hd))
    · rw [heq] at hd
      rcases List.mem_append.mp hd with hd | hd
      · exact hmore d (h.noted d hd)
      · refine List.mem_append_right _ ?_
        rw [hverified]
        exact hd

lemma Good.obmmStep (h : s.Good required) (hclean : call.Clean s.context) :
    ObmmStep required s call := by
  have hchange := (clean_call h hclean).1
  exact ⟨hchange.sound h.sound, hchange.kept, fun _ _ => hchange.mappedRegions,
    fun _ hready => (h.step hclean).ready hready⟩

/-- A provider that was just opened. -/
lemma good_open {config : ObmmConfig} {localCna : UInt32} {importOsync : ℕ → Bool}
    {ctx : ObmmContext} (h : obmmEndpointOpen config localCna importOsync = some ctx) :
    Good config.requiredPeerMappings ⟨ctx, []⟩ := by
  unfold obmmEndpointOpen at h
  split at h
  · cases h
  · cases h
    exact ⟨⟨uniqueKeys_empty _, uniqueKeys_empty _, nofun⟩, rfl, List.nodup_nil, nofun⟩

end ObmmRun

/-- **The slot tables of a run.**  From an opened provider on, through any calls and whatever the
kernel answers, as long as no call takes a handle in use and no unimport fails behind an unmap: every
call leaves the handles unique and the mappings mapped, a call that fails leaves the tables as they
were, a region goes only when no mapping has its descriptor, and the provider is ready only with enough
distinct peers verified. -/
theorem obmm_slots_sound {config : ObmmConfig} {localCna : UInt32} {importOsync : ℕ → Bool}
    {ctx : ObmmContext} (hopen : obmmEndpointOpen config localCna importOsync = some ctx)
    {calls : List ObmmCall}
    (hclean : Run.Along ObmmRun.step (fun s call => call.Clean s.context) ⟨ctx, []⟩ calls) :
    Run.Along ObmmRun.step (ObmmStep config.requiredPeerMappings) ⟨ctx, []⟩ calls := by
  have hrun : ∀ s : ObmmRun, s.Good config.requiredPeerMappings →
      Run.Along ObmmRun.step (fun s call => call.Clean s.context) s calls →
      Run.Along ObmmRun.step (ObmmStep config.requiredPeerMappings) s calls := by
    clear hclean
    induction calls with
    | nil => exact fun _ _ _ => trivial
    | cons call calls ih => exact fun s hs hcalls =>
        ⟨hs.obmmStep hcalls.1, ih _ (hs.step hcalls.1) hcalls.2⟩
  exact hrun _ (ObmmRun.good_open hopen) hclean

/-- A provider for one mapping, of memory at one peer. -/
def obmmConfigOne : ObmmConfig := ⟨1, 1, 4096, false⟩

@[inherit_doc obmmConfigOne]
def openedObmm : ObmmContext where
  localCna := 1
  mappingVerified := false
  forceOsync := false
  maxRemoteMappings := 1
  requiredPeerMappings := 1
  nextRegionHandle := 0
  nextMappingHandle := 0
  importOsync := fun _ => false
  verifiedPeers := []
  regions := .empty
  mappings := .empty

/-- A request to map 4096 bytes of a peer. -/
def peerMappingRequest : MappingRequest where
  remoteDescriptor := (obmmDescriptorEncode ⟨5, 0, 4096, 3, 2⟩).getD []
  remoteRegionLen := 4096
  offset := 0
  len := 4096
  requestedAddress := 0
  memoryKind := MemoryKind.host
  flags := mappingFlagRead

theorem obmm_slots_sound_unmap :
    Run.Along ObmmRun.step (ObmmStep 1) ⟨openedObmm, []⟩
      [.map peerMappingRequest ⟨some 7, some 65536⟩, .unmap 1 true] := by
  have hopen : obmmEndpointOpen obmmConfigOne 1 (fun _ => false) = some openedObmm := by
    simp [obmmEndpointOpen, obmmConfigOne, openedObmm, obmmMaxMappings]
  exact obmm_slots_sound hopen ⟨fun _ _ => nofun, fun _ _ _ _ => rfl, trivial⟩

/-- The unimport behind an unmap fails: the call fails, and the mapping in use is of no memory. -/
theorem failed_unmap_stays :
    ((openedObmm.mapRemoteRegion peerMappingRequest ⟨some 7, some 65536⟩).1.unmapRemoteRegion 1
        false).2 = false ∧
    (openedObmm.mapRemoteRegion peerMappingRequest ⟨some 7, some 65536⟩).1.mappings.entries.map
        (fun m => m.region.addr) = [some 65536] ∧
    ((openedObmm.mapRemoteRegion peerMappingRequest ⟨some 7, some 65536⟩).1.unmapRemoteRegion 1
        false).1.mappings.entries.map (fun m => m.region.addr) = [none] :=
  ⟨by decide +kernel, by decide +kernel, by decide +kernel⟩

end MemService
