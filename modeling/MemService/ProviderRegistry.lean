import MemService.ProviderWire
import MemService.Lib.Run

/-!
# Providers, their registry, and binding

A provider brings a table of callbacks, and the service trusts none of them: what a callback returns,
what it leaves in its output and what it does to the world are whatever they are.  So the table is a
table of functions on a world of an arbitrary type, and everything below holds for all of them.

The registry checks a registration before it takes it: its name, that it has the callbacks its
capabilities call for, that there is room, and what its probe says.  A channel is bound through the
states that were stored, of every provider that moves data, and one fresh probe, of the provider that
is bound.
-/

open ByteText

namespace MemService

/-! ## The operation table -/

/-- `enum mem_service_provider_state`; a callback can write any number. -/
structure ProviderState where
  code : UInt32
  deriving DecidableEq, Repr

namespace ProviderState

def unknown : ProviderState := ⟨0⟩
def ready : ProviderState := ⟨1⟩
def degraded : ProviderState := ⟨2⟩
def unavailable : ProviderState := ⟨3⟩

end ProviderState

/-- `struct mem_service_region_request`; a null base is `0`. -/
structure RegionRequest where
  base : UInt64
  len : UInt64
  memoryKind : MemoryKind
  flags : UInt64

/-- `struct mem_service_region`. -/
structure ProviderRegion where
  handle : UInt64
  len : UInt64
  memoryKind : MemoryKind
  descriptor : Bytes

/-- `struct mem_service_provider_slice`. -/
structure ProviderSlice where
  regionHandle : UInt64
  offset : UInt64
  len : UInt64
  descriptor : Bytes

/-- `struct mem_service_transfer_request`. -/
structure TransferRequest where
  source : ProviderSlice
  destination : ProviderSlice
  expectedChecksum : UInt64
  flags : UInt64

/-- `struct mem_service_receive_request`. -/
structure ReceiveRequest where
  destination : ProviderSlice
  expectedChecksum : UInt64
  flags : UInt64

/-- `struct mem_service_transfer_completion`. -/
structure TransferCompletion where
  id : UInt64
  status : Int32
  transferredBytes : UInt64
  checksum : UInt64

/-- `struct mem_service_mapping_request`. -/
structure MappingRequest where
  remoteDescriptor : Bytes
  remoteRegionLen : UInt64
  offset : UInt64
  len : UInt64
  requestedAddress : UInt64
  memoryKind : MemoryKind
  flags : UInt64

/-- `struct mem_service_mapping`. -/
structure ProviderMapping where
  handle : UInt64
  base : UInt64
  len : UInt64
  memoryKind : MemoryKind

/-- `struct mem_service_mapping_range_request`. -/
structure MappingRangeRequest where
  mappingHandle : UInt64
  offset : UInt64
  len : UInt64
  expectedChecksum : UInt64
  timeoutMs : UInt64
  flags : UInt64

/-- `struct mem_service_visibility_completion`. -/
structure VisibilityCompletion where
  status : Int32
  visibleBytes : UInt64
  checksum : UInt64

/-- What a callback does with its argument: whether it returns `0`, what stands in its output
afterwards, and the world it leaves. -/
abbrev ProviderCallback (ω α β : Type) := α → ω → Bool × β × ω

/-- `struct mem_service_provider_ops`, with the provider's context in every callback; a null pointer
is `none`. -/
structure ProviderOps (ω : Type) where
  probe : Option (ProviderCallback ω Unit ProviderState) := none
  registerRegion : Option (ProviderCallback ω RegionRequest ProviderRegion) := none
  deregisterRegion : Option (ProviderCallback ω UInt64 Unit) := none
  submitTransfer : Option (ProviderCallback ω TransferRequest UInt64) := none
  pollCompletion : Option (ProviderCallback ω UInt64 TransferCompletion) := none
  waitReceive : Option (ProviderCallback ω ReceiveRequest TransferCompletion) := none
  mapRemoteRegion : Option (ProviderCallback ω MappingRequest ProviderMapping) := none
  unmapRemoteRegion : Option (ProviderCallback ω UInt64 Unit) := none
  publishRange : Option (ProviderCallback ω MappingRangeRequest VisibilityCompletion) := none
  invalidateRange : Option (ProviderCallback ω MappingRangeRequest VisibilityCompletion) := none
  waitRangeVisible : Option (ProviderCallback ω MappingRangeRequest VisibilityCompletion) := none

/-! ## Capabilities -/

/-- `enum mem_service_provider_capability`. -/
def capRegionRegistration : UInt64 := 1
@[inherit_doc capRegionRegistration] def capLocalTransfer : UInt64 := 2
@[inherit_doc capRegionRegistration] def capPeerTransfer : UInt64 := 4
@[inherit_doc capRegionRegistration] def capDurableStorage : UInt64 := 8
@[inherit_doc capRegionRegistration] def capAcceleratorMemory : UInt64 := 16
@[inherit_doc capRegionRegistration] def capReceiveFence : UInt64 := 32
@[inherit_doc capRegionRegistration] def capPeerMapping : UInt64 := 64

/-- `MEM_SERVICE_PROVIDER_CAP_TRANSFER_MASK`. -/
def capTransferMask : UInt64 := capLocalTransfer ||| capPeerTransfer ||| capDurableStorage
/-- `MEM_SERVICE_PROVIDER_CAP_DATA_PLANE_MASK`. -/
def capDataPlaneMask : UInt64 := capTransferMask ||| capPeerMapping
/-- `MEM_SERVICE_PROVIDER_CAP_VALID_MASK`. -/
def capValidMask : UInt64 :=
  capRegionRegistration ||| capLocalTransfer ||| capPeerTransfer ||| capDurableStorage |||
    capAcceleratorMemory ||| capReceiveFence ||| capPeerMapping

/-- Some capability of the mask is there. -/
def hasCap (capabilities mask : UInt64) : Bool := capabilities &&& mask != 0

/-- `mem_service_provider_ops_valid`. -/
def providerOpsValid {ω : Type} (capabilities : UInt64) (ops : ProviderOps ω) : Bool :=
  ops.probe.isSome && capabilities != 0 && capabilities &&& ~~~capValidMask == 0 &&
    !(hasCap capabilities capRegionRegistration &&
      (ops.registerRegion.isNone || ops.deregisterRegion.isNone)) &&
    !(hasCap capabilities capTransferMask &&
      (ops.submitTransfer.isNone || ops.pollCompletion.isNone)) &&
    !(hasCap capabilities capAcceleratorMemory && !hasCap capabilities capRegionRegistration) &&
    !(hasCap capabilities capReceiveFence &&
      (!hasCap capabilities capRegionRegistration || ops.waitReceive.isNone)) &&
    !(hasCap capabilities capPeerMapping &&
      (ops.mapRemoteRegion.isNone || ops.unmapRemoteRegion.isNone || ops.publishRange.isNone ||
        ops.invalidateRange.isNone || ops.waitRangeVisible.isNone))

/-! ## The registry -/

/-- `struct mem_service_provider_registration`; null pointers are `none`. -/
structure ProviderRegistration (ω : Type) where
  name : Option Bytes
  instanceName : Option Bytes
  capabilities : UInt64
  ops : Option (ProviderOps ω)

/-- `struct mem_service_provider`.  No provider is stored whose callbacks do not fit its
capabilities. -/
structure Provider (ω : Type) where
  name : Bytes
  instanceName : Bytes
  capabilities : UInt64
  state : ProviderState
  ops : ProviderOps ω
  valid : providerOpsValid capabilities ops = true

/-- `MEM_SERVICE_PROVIDER_INSTANCE_LEN`. -/
def providerInstanceLen : ℕ := 64
/-- `MEM_SERVICE_MAX_PROVIDERS`. -/
def maxProviders : ℕ := 8

/-- `struct mem_service_provider_registry`: the providers in use. -/
structure ProviderRegistry (ω : Type) where
  initialized : Bool
  providers : List (Provider ω)

namespace ProviderRegistry

variable {ω : Type}

/-- `mem_service_provider_registry_init`. -/
def init : ProviderRegistry ω := ⟨true, []⟩

variable (registry : ProviderRegistry ω)

/-- `mem_service_provider_registry_find`: the slot of the provider and the provider. -/
def find (name instanceName : Option Bytes) : Option (ℕ × Provider ω) :=
  match name, instanceName with
  | some name, some instanceName =>
      if !registry.initialized then none
      else
        (registry.providers.zipIdx.find? fun p =>
          decide (p.1.name = name) && decide (p.1.instanceName = instanceName)).map
            fun p => (p.2, p.1)
  | _, _ => none

/-- `mem_service_provider_registry_register`: whether the registration was taken, the registry, and
the world after its probe. -/
def register (registration : Option (ProviderRegistration ω)) (w : ω) :
    Bool × ProviderRegistry ω × ω :=
  match registration with
  | none => (false, registry, w)
  | some r =>
      match r.name, r.instanceName, r.ops with
      | some name, some instanceName, some ops =>
          if hvalid : providerOpsValid r.capabilities ops = true then
            if !registry.initialized || !providerIdentityValid name providerNameLen ||
                !providerIdentityValid instanceName providerInstanceLen ||
                registry.providers.length ≥ maxProviders ||
                (registry.find r.name r.instanceName).isSome then
              (false, registry, w)
            else
              match ops.probe with
              | none => (false, registry, w)
              | some probe =>
                  let (ok, state, w') := probe () w
                  if !ok || state.code > ProviderState.unavailable.code then (false, registry, w')
                  else
                    (true, { registry with providers := registry.providers ++
                      [{ name := name.take (providerNameLen - 1)
                         instanceName := instanceName.take (providerInstanceLen - 1)
                         capabilities := r.capabilities
                         state := state
                         ops := ops
                         valid := hvalid }] }, w')
          else (false, registry, w)
      | _, _, _ => (false, registry, w)

/-- One provider of `mem_service_provider_registry_refresh`. -/
def refreshProvider (p : Provider ω) (w : ω) : Provider ω × Bool × ω :=
  match p.ops.probe with
  | none => ({ p with state := ProviderState.unavailable }, false, w)
  | some probe =>
      let (ok, state, w') := probe () w
      if !ok || state.code > ProviderState.unavailable.code then
        ({ p with state := ProviderState.unavailable }, false, w')
      else ({ p with state := state }, true, w')

/-- The loop of `mem_service_provider_registry_refresh`. -/
def refreshAll : List (Provider ω) → ω → List (Provider ω) × Bool × ω
  | [], w => ([], true, w)
  | p :: ps, w =>
      let first := refreshProvider p w
      let rest := refreshAll ps first.2.2
      (first.1 :: rest.1, first.2.1 && rest.2.1, rest.2.2)

/-- `mem_service_provider_registry_refresh`. -/
def refresh (w : ω) : Bool × ProviderRegistry ω × ω :=
  if !registry.initialized then (false, registry, w)
  else
    let refreshed := refreshAll registry.providers w
    (refreshed.2.1, { registry with providers := refreshed.1 }, refreshed.2.2)

/-- `mem_service_provider_registry_data_plane_ready`. -/
def dataPlaneReady : Bool :=
  registry.initialized &&
    (registry.providers.all fun p =>
      !hasCap p.capabilities capDataPlaneMask || p.state == ProviderState.ready) &&
    registry.providers.any fun p => hasCap p.capabilities capDataPlaneMask

end ProviderRegistry

/-! ## Channels -/

/-- `struct mem_service_provider_channel`: the slot of its provider, and the provider. -/
structure ProviderChannel (ω : Type) where
  slot : ℕ
  provider : Provider ω
  requiredCapabilities : UInt64

/-- A probe of the provider that says it is ready. -/
def Provider.probeReady {ω : Type} (p : Provider ω) (w : ω) : Bool × ω :=
  match p.ops.probe with
  | none => (false, w)
  | some probe =>
      let (ok, state, w') := probe () w
      (ok && state == ProviderState.ready, w')

/-- `mem_service_provider_channel_ready`. -/
def ProviderChannel.ready {ω : Type} (channel : Option (ProviderChannel ω)) (w : ω) : Bool × ω :=
  match channel with
  | none => (false, w)
  | some channel => channel.provider.probeReady w

/-- `mem_service_provider_channel_bind`, with a place for the channel or not. -/
def ProviderChannel.bind {ω : Type} (registry : ProviderRegistry ω) (name instanceName : Option Bytes)
    (requiredCapabilities : UInt64) (hasOut : Bool) (w : ω) : Option (ProviderChannel ω) × ω :=
  if !hasOut || requiredCapabilities == 0 || requiredCapabilities &&& ~~~capValidMask != 0 ||
      !registry.dataPlaneReady then (none, w)
  else
    match registry.find name instanceName with
    | none => (none, w)
    | some (slot, provider) =>
        if provider.capabilities &&& requiredCapabilities != requiredCapabilities then (none, w)
        else
          let channel : ProviderChannel ω := ⟨slot, provider, requiredCapabilities⟩
          let probed := ProviderChannel.ready (some channel) w
          if !probed.1 then (none, probed.2) else (some channel, probed.2)

/-! ## Runs -/

/-- A call of the registry's interface. -/
inductive RegistryCall (ω : Type)
  | register (registration : Option (ProviderRegistration ω))
  | bind (name instanceName : Option Bytes) (requiredCapabilities : UInt64) (hasOut : Bool)
  | refresh

namespace ProviderRegistry

variable {ω : Type}

/-- The registry and the world after a call. -/
def step (s : ProviderRegistry ω × ω) : RegistryCall ω → ProviderRegistry ω × ω
  | .register registration => (s.1.register registration s.2).2
  | .bind name instanceName required hasOut =>
      (s.1, (ProviderChannel.bind s.1 name instanceName required hasOut s.2).2)
  | .refresh => (s.1.refresh s.2).2

/-- The registry and the world after calls, from an empty registry. -/
def run (w : ω) (calls : List (RegistryCall ω)) : ProviderRegistry ω × ω :=
  Run.run step (init, w) calls

/-! ## What a registration does -/

variable {registry : ProviderRegistry ω}

/-- The names of the providers. -/
def identities (registry : ProviderRegistry ω) : List (Bytes × Bytes) :=
  registry.providers.map fun p => (p.name, p.instanceName)

lemma find_eq_none_iff {name instanceName : Bytes} (h : registry.initialized = true) :
    registry.find (some name) (some instanceName) = none ↔
      (name, instanceName) ∉ registry.identities := by
  simp only [find, h, Bool.not_true, Bool.false_eq_true, if_false, Option.map_eq_none_iff,
    List.find?_eq_none, identities, List.mem_map, not_exists, not_and, Prod.mk.injEq,
    Bool.and_eq_true, decide_eq_true_eq]
  constructor
  · intro hnone p hp hname hinstance
    obtain ⟨i, hi⟩ := List.getElem?_of_mem hp
    exact hnone (p, i) (List.mk_mem_zipIdx_iff_getElem?.mpr hi) hname hinstance
  · intro hno p hp hname hinstance
    exact hno p.1 (List.fst_mem_of_mem_zipIdx hp) hname hinstance

lemma take_of_identityValid {value : Bytes} {maxLen : ℕ}
    (h : providerIdentityValid value maxLen = true) : value.take (maxLen - 1) = value := by
  simp only [providerIdentityValid, Bool.and_eq_true, decide_eq_true_eq] at h
  exact List.take_of_length_le (by omega)

/-- What a registration does: it is refused and the registry is as it was, or it adds one provider,
under a name of its own, while there is room. -/
lemma register_cases (registry : ProviderRegistry ω) (registration : Option (ProviderRegistration ω))
    (w : ω) :
    (∃ w', registry.register registration w = (false, registry, w')) ∨
    ∃ (p : Provider ω) (w' : ω), registry.register registration w =
        (true, { registry with providers := registry.providers ++ [p] }, w') ∧
      registry.initialized = true ∧ registry.providers.length < maxProviders ∧
      (p.name, p.instanceName) ∉ registry.identities := by
  unfold register
  split
  · exact .inl ⟨w, rfl⟩
  rename_i r
  split
  swap
  · exact .inl ⟨w, rfl⟩
  rename_i name instanceName ops hname hinstance hops
  split
  swap
  · exact .inl ⟨w, rfl⟩
  rename_i hvalid
  split
  · exact .inl ⟨w, rfl⟩
  rename_i hchecks
  split
  · exact .inl ⟨w, rfl⟩
  rename_i probe hprobe
  rcases hprobed : probe () w with ⟨ok, state, w'⟩
  simp only
  split
  · exact .inl ⟨w', rfl⟩
  · refine .inr ⟨_, w', rfl, ?_⟩
    simp only [Bool.or_eq_true, Bool.not_eq_true', decide_eq_true_eq, not_or, Bool.not_eq_false,
      Bool.not_eq_true, Option.isSome_eq_false_iff, Option.isNone_iff_eq_none] at hchecks
    obtain ⟨⟨⟨⟨hinit, hidentity⟩, hinstanceIdentity⟩, hroom⟩, hnew⟩ := hchecks
    refine ⟨hinit, by omega, ?_⟩
    rw [hname, hinstance, find_eq_none_iff hinit] at hnew
    rwa [take_of_identityValid hidentity, take_of_identityValid hinstanceIdentity]

/-- Refreshing changes what is known about states and nothing else. -/
lemma refreshAll_identities (ps : List (Provider ω)) (w : ω) :
    (refreshAll ps w).1.map (fun p => (p.name, p.instanceName)) =
      ps.map fun p => (p.name, p.instanceName) := by
  have hone : ∀ (p : Provider ω) (w : ω), (refreshProvider p w).1.name = p.name ∧
      (refreshProvider p w).1.instanceName = p.instanceName := by
    intro p w
    unfold refreshProvider
    split
    · exact ⟨rfl, rfl⟩
    · simp only
      split <;> exact ⟨rfl, rfl⟩
  induction ps generalizing w with
  | nil => rfl
  | cons p ps ih => simp only [refreshAll, List.map_cons, ih, hone]

/-! ## The invariant -/

/-- The providers have names of their own, and there are at most eight. -/
structure Sound (registry : ProviderRegistry ω) : Prop where
  initialized : registry.initialized = true
  unique : registry.identities.Nodup
  bounded : registry.providers.length ≤ maxProviders

lemma sound_init : (init : ProviderRegistry ω).Sound := ⟨rfl, List.nodup_nil, Nat.zero_le _⟩

lemma Sound.register (h : registry.Sound) (registration : Option (ProviderRegistration ω)) (w : ω) :
    (registry.register registration w).2.1.Sound := by
  obtain ⟨w', heq⟩ | ⟨p, w', heq, -, hroom, hnew⟩ := registry.register_cases registration w
  · rwa [heq]
  · rw [heq]
    refine ⟨h.initialized, ?_, ?_⟩
    · simp only [identities, List.map_append, List.map_cons, List.map_nil]
      refine List.nodup_append.mpr ⟨h.unique, List.nodup_singleton _, fun a ha b hb => ?_⟩
      obtain rfl := List.mem_singleton.mp hb
      exact fun hab => hnew (hab ▸ ha)
    · simp only [List.length_append, List.length_singleton]
      omega

lemma refresh_eq (h : registry.initialized = true) (w : ω) :
    (registry.refresh w).2.1 =
      { registry with providers := (refreshAll registry.providers w).1 } := by
  simp [ProviderRegistry.refresh, h]

lemma Sound.refresh (h : registry.Sound) (w : ω) : (registry.refresh w).2.1.Sound := by
  have hids := refreshAll_identities registry.providers w
  have hlen := congrArg List.length hids
  simp only [List.length_map] at hlen
  rw [refresh_eq h.initialized]
  refine ⟨h.initialized, ?_, ?_⟩
  · show ((refreshAll registry.providers w).1.map _).Nodup
    rw [hids]
    exact h.unique
  · show (refreshAll registry.providers w).1.length ≤ maxProviders
    rw [hlen]
    exact h.bounded

lemma Sound.step {s : ProviderRegistry ω × ω} (h : s.1.Sound) (call : RegistryCall ω) :
    (ProviderRegistry.step s call).1.Sound := by
  cases call with
  | register registration => exact h.register registration s.2
  | bind name instanceName required hasOut => exact h
  | refresh => exact h.refresh s.2

lemma sound_run (w : ω) (calls : List (RegistryCall ω)) : (run w calls).1.Sound :=
  Run.invariant (I := fun s : ProviderRegistry ω × ω => s.1.Sound) (fun _ call h => h.step call)
    sound_init calls

/-! ## What a bind needs -/

lemma find_eq_some {name instanceName : Option Bytes} {slot : ℕ} {p : Provider ω}
    (h : registry.find name instanceName = some (slot, p)) :
    registry.providers[slot]? = some p ∧ name = some p.name ∧ instanceName = some p.instanceName := by
  unfold find at h
  split at h
  · rename_i name instanceName
    split at h
    · cases h
    · obtain ⟨⟨q, i⟩, hfind, heq⟩ := Option.map_eq_some_iff.mp h
      obtain ⟨rfl, rfl⟩ := Prod.mk.inj heq
      have hpass := List.find?_some hfind
      simp only [Bool.and_eq_true, decide_eq_true_eq] at hpass
      exact ⟨List.mk_mem_zipIdx_iff_getElem?.mp (List.mem_of_find?_eq_some hfind),
        by rw [hpass.1], by rw [hpass.2]⟩
  · cases h

/-- Every provider that moves data was ready when it was last looked at. -/
lemma ready_of_dataPlaneReady (h : registry.dataPlaneReady = true) {p : Provider ω}
    (hp : p ∈ registry.providers) (hcap : hasCap p.capabilities capDataPlaneMask = true) :
    p.state = ProviderState.ready := by
  simp only [dataPlaneReady, Bool.and_eq_true, List.all_eq_true] at h
  have hready := h.1.2 p hp
  rw [hcap] at hready
  simpa using hready

end ProviderRegistry

/-- What a bound channel is known to be: its provider is the one of that name in the registry and has
the capabilities asked for, every registered provider that moves data is ready, and so said the
channel's provider when it was probed. -/
structure ProviderChannel.Bound {ω : Type} (registry : ProviderRegistry ω)
    (name instanceName : Option Bytes) (requiredCapabilities : UInt64) (w : ω)
    (channel : ProviderChannel ω) : Prop where
  registered : registry.providers[channel.slot]? = some channel.provider
  named : name = some channel.provider.name ∧ instanceName = some channel.provider.instanceName
  required : channel.requiredCapabilities = requiredCapabilities
  capable : channel.provider.capabilities &&& requiredCapabilities = requiredCapabilities
  dataPlane : ∀ p ∈ registry.providers, hasCap p.capabilities capDataPlaneMask = true →
    p.state = ProviderState.ready
  probed : ∃ probe w', channel.provider.ops.probe = some probe ∧
    probe () w = (true, ProviderState.ready, w')

/-- A bind that succeeds found everything ready. -/
lemma ProviderChannel.bound_of_bind {ω : Type} {registry : ProviderRegistry ω}
    {name instanceName : Option Bytes} {required : UInt64} {hasOut : Bool} {w : ω}
    {channel : ProviderChannel ω}
    (h : (ProviderChannel.bind registry name instanceName required hasOut w).1 = some channel) :
    channel.Bound registry name instanceName required w := by
  unfold ProviderChannel.bind at h
  split at h
  · cases h
  rename_i hchecks
  simp only [Bool.or_eq_true, Bool.not_eq_true', not_or, Bool.not_eq_false] at hchecks
  split at h
  · cases h
  rename_i slot provider hfind
  split at h
  · cases h
  rename_i hcap
  simp only at h
  split at h
  · cases h
  rename_i hready
  cases h
  obtain ⟨hslot, hname, hinstance⟩ := ProviderRegistry.find_eq_some hfind
  refine ⟨hslot, ⟨hname, hinstance⟩, rfl, by simpa using hcap,
    fun p hp => ProviderRegistry.ready_of_dataPlaneReady hchecks.2 hp, ?_⟩
  simp only [ProviderChannel.ready, Provider.probeReady, Bool.not_eq_true', Bool.not_eq_false] at hready
  split at hready
  · cases hready
  · rename_i probe hprobe
    rcases hprobed : probe () w with ⟨ok, state, w'⟩
    rw [hprobed] at hready
    simp only [Bool.and_eq_true, beq_iff_eq] at hready
    exact ⟨probe, w', hprobe, by rw [hprobed, hready.1, hready.2]⟩

/-- **The registry.**  After any calls, with callbacks that do whatever they do: the providers have
names of their own and there are at most eight; a registration that is refused leaves the registry as
it is; and a bind succeeds only with everything ready. -/
theorem provider_registry_sound {ω : Type} (w : ω) (calls : List (RegistryCall ω)) :
    (ProviderRegistry.run w calls).1.Sound ∧
    (∀ registration, ((ProviderRegistry.run w calls).1.register registration
        (ProviderRegistry.run w calls).2).1 = false →
      ((ProviderRegistry.run w calls).1.register registration (ProviderRegistry.run w calls).2).2.1 =
        (ProviderRegistry.run w calls).1) ∧
    ∀ name instanceName required hasOut channel,
      (ProviderChannel.bind (ProviderRegistry.run w calls).1 name instanceName required hasOut
        (ProviderRegistry.run w calls).2).1 = some channel →
      channel.Bound (ProviderRegistry.run w calls).1 name instanceName required
        (ProviderRegistry.run w calls).2 := by
  refine ⟨ProviderRegistry.sound_run w calls, fun registration h => ?_,
    fun _ _ _ _ _ h => ProviderChannel.bound_of_bind h⟩
  obtain ⟨w', heq⟩ | ⟨p, w', heq, -⟩ :=
    (ProviderRegistry.run w calls).1.register_cases registration (ProviderRegistry.run w calls).2
  · rw [heq]
  · rw [heq] at h
    cases h

end MemService
