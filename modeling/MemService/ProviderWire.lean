import MemService.Lib.BigEndian
import MemService.Wire

/-!
# Region descriptors on the wire

A memory region leaves the process that registered it as bytes, in two layers.  The provider's own
descriptor is opaque to everyone else; the one of the OBMM provider is a record of 48 bytes.  Around
it, `remoteRegionEncode` puts what every provider has: its name, the length of the region and the kind
of its memory.

Both formats start with a magic number and a version and have a reserved word that must be zero, and
both decoders check all of it, the lengths included.  So `obmmDescriptorDecode` accepts nothing but
what `obmmDescriptorEncode` writes.  The remote region's decoder has one gap: it copies
`provider_len` bytes of the name and then validates the name as a C string, up to its first zero byte.
A name field with a zero byte inside is accepted, and what stands behind the zero byte is lost.
-/

open ByteText BigEndian

namespace MemService

/-! ## Remote regions -/

/-- `enum mem_service_memory_kind`, as the number it is stored as. -/
structure MemoryKind where
  code : UInt32
  deriving DecidableEq, Repr

namespace MemoryKind

def host : MemoryKind := ⟨1⟩
def accelerator : MemoryKind := ⟨2⟩
def persistent : MemoryKind := ⟨3⟩

/-- `mem_service_memory_kind_valid`. -/
def valid (kind : MemoryKind) : Bool :=
  kind == host || kind == accelerator || kind == persistent

end MemoryKind

/-- `struct mem_service_provider_remote_region`: the name is a C string, and the descriptor is the
part of its buffer that its length covers. -/
structure RemoteRegion where
  providerName : Bytes
  len : UInt64
  memoryKind : MemoryKind
  descriptor : Bytes
  deriving DecidableEq, Repr

/-- `MEM_SERVICE_PROVIDER_NAME_LEN`. -/
def providerNameLen : ℕ := 32
/-- `MEM_SERVICE_PROVIDER_DESCRIPTOR_LEN`. -/
def providerDescriptorLen : ℕ := 128
/-- `MEM_SERVICE_PROVIDER_REGION_WIRE_MAX_LEN`. -/
def providerRegionWireMaxLen : ℕ := 32 + providerNameLen + providerDescriptorLen
/-- `MEM_SERVICE_PROVIDER_REGION_WIRE_MAGIC`. -/
def providerRegionWireMagic : UInt32 := 0x4d535250
/-- `MEM_SERVICE_PROVIDER_REGION_WIRE_VERSION`. -/
def providerRegionWireVersion : UInt32 := 1

/-- `isalnum`, in the C locale. -/
def isAlnum (ch : UInt8) : Bool :=
  (48 ≤ ch && ch ≤ 57) || (65 ≤ ch && ch ≤ 90) || (97 ≤ ch && ch ≤ 122)

/-- A byte that may stand in a provider's name: a letter, a digit or one of `-`, `_`, `.`, `:`. -/
def identityByte (ch : UInt8) : Bool :=
  isAlnum ch || ch == 45 || ch == 95 || ch == 46 || ch == 58

/-- `mem_service_provider_identity_valid`. -/
def providerIdentityValid (value : Bytes) (maxLen : ℕ) : Bool :=
  value.length ≠ 0 && value.length < maxLen && value.all identityByte

/-- `mem_service_provider_remote_region_encode`. -/
def remoteRegionEncode (remote : RemoteRegion) (wireCapacity : ℕ) : Option Bytes :=
  if !providerIdentityValid remote.providerName providerNameLen || remote.len == 0 ||
      !remote.memoryKind.valid || remote.descriptor.length = 0 ||
      remote.descriptor.length > providerDescriptorLen then
    none
  else
    let wireLen := 32 + remote.providerName.length + remote.descriptor.length
    if wireLen > wireCapacity || wireLen > providerRegionWireMaxLen then
      none
    else
      -- the word at offset 20 is the zero that the buffer was cleared to
      some (putU32 providerRegionWireMagic ++ putU32 providerRegionWireVersion ++
        putU32 (UInt32.ofNat remote.providerName.length) ++
        putU32 (UInt32.ofNat remote.descriptor.length) ++ putU32 remote.memoryKind.code ++
        putU32 0 ++ putU64 remote.len ++ remote.providerName ++ remote.descriptor)

/-- `mem_service_provider_remote_region_decode`. -/
def remoteRegionDecode (wire : Bytes) : Option RemoteRegion :=
  if wire.length < 32 || wire.length > providerRegionWireMaxLen ||
      getU32 wire != providerRegionWireMagic ||
      getU32 (wire.drop 4) != providerRegionWireVersion || getU32 (wire.drop 20) != 0 then
    none
  else
    let providerLen := (getU32 (wire.drop 8)).toNat
    let descriptorLen := (getU32 (wire.drop 12)).toNat
    let memoryKind : MemoryKind := ⟨getU32 (wire.drop 16)⟩
    let regionLen := getU64 (wire.drop 24)
    let expectedLen := 32 + providerLen + descriptorLen
    if providerLen = 0 || providerLen ≥ providerNameLen || descriptorLen = 0 ||
        descriptorLen > providerDescriptorLen || expectedLen ≠ wire.length || regionLen == 0 ||
        !memoryKind.valid then
      none
    else
      -- the copied name is read as a C string from here on
      let providerName := cstr ((wire.drop 32).take providerLen)
      if !providerIdentityValid providerName providerNameLen then none
      else some ⟨providerName, regionLen, memoryKind, (wire.drop (32 + providerLen)).take descriptorLen⟩

/-! ## OBMM descriptors -/

/-- `struct mem_service_obmm_descriptor_v1`. -/
structure ObmmDescriptor where
  exportMemId : UInt64
  remoteUba : UInt64
  size : UInt64
  tokenId : UInt32
  exportCna : UInt32
  deriving DecidableEq, Repr

/-- `MEM_SERVICE_OBMM_DESCRIPTOR_MAGIC`. -/
def obmmDescriptorMagic : UInt32 := 0x4d534f42
/-- `MEM_SERVICE_OBMM_DESCRIPTOR_VERSION`. -/
def obmmDescriptorVersion : UInt32 := 1
/-- `MEM_SERVICE_OBMM_DESCRIPTOR_BYTES`. -/
def obmmDescriptorBytes : UInt32 := 48

/-- The check that both directions make: everything but the address is set. -/
def ObmmDescriptor.complete (d : ObmmDescriptor) : Bool :=
  d.exportMemId != 0 && d.size != 0 && d.tokenId != 0 && d.exportCna != 0

/-- `mem_service_obmm_descriptor_encode`: the bytes that the descriptor's length covers. -/
def obmmDescriptorEncode (d : ObmmDescriptor) : Option Bytes :=
  if !d.complete then none
  else
    some (putU32 obmmDescriptorMagic ++ putU32 obmmDescriptorVersion ++
      putU32 obmmDescriptorBytes ++ putU32 0 ++ putU64 d.exportMemId ++ putU64 d.remoteUba ++
      putU64 d.size ++ putU32 d.tokenId ++ putU32 d.exportCna)

/-- `mem_service_obmm_descriptor_decode`. -/
def obmmDescriptorDecode (bytes : Bytes) : Option ObmmDescriptor :=
  if bytes.length ≠ obmmDescriptorBytes.toNat then none
  else if getU32 bytes != obmmDescriptorMagic ||
      getU32 (bytes.drop 4) != obmmDescriptorVersion ||
      getU32 (bytes.drop 8) != obmmDescriptorBytes || getU32 (bytes.drop 12) != 0 then
    none
  else
    let d : ObmmDescriptor :=
      ⟨getU64 (bytes.drop 16), getU64 (bytes.drop 24), getU64 (bytes.drop 32),
        getU32 (bytes.drop 40), getU32 (bytes.drop 44)⟩
    if !d.complete then none else some d

/-! ## The descriptor codec -/

/-- **What an OBMM descriptor encodes to decodes to the same descriptor.** -/
lemma obmmDescriptorDecode_encode {d : ObmmDescriptor} {bytes : Bytes}
    (h : obmmDescriptorEncode d = some bytes) : obmmDescriptorDecode bytes = some d := by
  unfold obmmDescriptorEncode at h
  split at h
  · cases h
  · rename_i hcomplete
    cases h
    simp only [List.append_assoc]
    unfold obmmDescriptorDecode
    have hlast (v : UInt32) : getU32 (putU32 v) = v := by
      simpa using getU32_putU32 v []
    simp [drop_putU32, drop_putU64, hlast, hcomplete, obmmDescriptorBytes]

/-- The words of 48 bytes. -/
lemma putWords_getWords {bytes : Bytes} (h : bytes.length = 48) :
    putU32 (getU32 bytes) ++ putU32 (getU32 (bytes.drop 4)) ++ putU32 (getU32 (bytes.drop 8)) ++
      putU32 (getU32 (bytes.drop 12)) ++ putU64 (getU64 (bytes.drop 16)) ++
      putU64 (getU64 (bytes.drop 24)) ++ putU64 (getU64 (bytes.drop 32)) ++
      putU32 (getU32 (bytes.drop 40)) ++ putU32 (getU32 (bytes.drop 44)) = bytes := by
  have word (n : ℕ) (hn : n + 4 ≤ 48) :
      putU32 (getU32 (bytes.drop n)) ++ bytes.drop (n + 4) = bytes.drop n := by
    rw [← List.drop_drop]
    exact putU32_getU32 (by rw [List.length_drop]; omega)
  have double (n : ℕ) (hn : n + 8 ≤ 48) :
      putU64 (getU64 (bytes.drop n)) ++ bytes.drop (n + 8) = bytes.drop n := by
    rw [← List.drop_drop]
    exact putU64_getU64 (by rw [List.length_drop]; omega)
  have hend : bytes.drop 48 = [] := List.drop_eq_nil_of_le (le_of_eq h)
  have hword := word 44 (by omega)
  rw [hend, List.append_nil] at hword
  simp only [List.append_assoc]
  rw [hword, word 40 (by omega), double 32 (by omega), double 24 (by omega), double 16 (by omega),
    word 12 (by omega), word 8 (by omega), word 4 (by omega), putU32_getU32 (by omega)]

/-- **What the OBMM decoder accepts is the encoding of what it returns.** -/
lemma obmmDescriptorEncode_decode {bytes : Bytes} {d : ObmmDescriptor}
    (h : obmmDescriptorDecode bytes = some d) : obmmDescriptorEncode d = some bytes := by
  unfold obmmDescriptorDecode at h
  split at h
  · cases h
  · rename_i hlen
    split at h
    · cases h
    · rename_i hheader
      dsimp only at h
      split at h
      · cases h
      · rename_i hcomplete
        cases h
        have hlen' : bytes.length = 48 := by
          simpa [obmmDescriptorBytes] using hlen
        simp only [Bool.or_eq_true, bne_iff_ne, ne_eq, not_or, not_not] at hheader
        obtain ⟨⟨⟨hmagic, hversion⟩, hbytes⟩, hzero⟩ := hheader
        have hall := putWords_getWords hlen'
        rw [hmagic, hversion, hbytes, hzero] at hall
        rw [obmmDescriptorEncode, if_neg hcomplete, hall]

/-! ## The region codec -/

/-- The bytes of a region's wire form that hold the provider's name. -/
def nameField (wire : Bytes) : Bytes := (wire.drop 32).take (getU32 (wire.drop 8)).toNat

lemma identityByte_ne_nul {ch : UInt8} (h : identityByte ch = true) : ch ≠ NUL := by
  rintro rfl
  revert h
  decide

lemma nul_notMem_of_identityValid {value : Bytes} {maxLen : ℕ}
    (h : providerIdentityValid value maxLen = true) : NUL ∉ value := by
  intro hmem
  simp only [providerIdentityValid, Bool.and_eq_true, List.all_eq_true] at h
  exact identityByte_ne_nul (h.2 NUL hmem) rfl

lemma length_lt_of_identityValid {value : Bytes} {maxLen : ℕ}
    (h : providerIdentityValid value maxLen = true) : 0 < value.length ∧ value.length < maxLen := by
  simp only [providerIdentityValid, Bool.and_eq_true, decide_eq_true_eq, ne_eq] at h
  exact ⟨Nat.pos_of_ne_zero h.1.1, h.1.2⟩

/-- What the encoder asks of a region, apart from the room in the buffer. -/
structure RemoteRegion.Encodable (remote : RemoteRegion) : Prop where
  name : providerIdentityValid remote.providerName providerNameLen = true
  len : remote.len ≠ 0
  kind : remote.memoryKind.valid = true
  descriptorPos : remote.descriptor.length ≠ 0
  descriptorLe : remote.descriptor.length ≤ providerDescriptorLen

/-- The bytes of a region. -/
def RemoteRegion.wire (remote : RemoteRegion) : Bytes :=
  putU32 providerRegionWireMagic ++ (putU32 providerRegionWireVersion ++
    (putU32 (UInt32.ofNat remote.providerName.length) ++
      (putU32 (UInt32.ofNat remote.descriptor.length) ++ (putU32 remote.memoryKind.code ++
        (putU32 0 ++ (putU64 remote.len ++ (remote.providerName ++ remote.descriptor)))))))

lemma RemoteRegion.length_wire (remote : RemoteRegion) :
    remote.wire.length = 32 + remote.providerName.length + remote.descriptor.length := by
  simp only [RemoteRegion.wire, List.length_append, length_putU32, length_putU64]
  omega

/-- **The encoder.** It writes the bytes of a region it accepts, if the buffer has the room. -/
lemma remoteRegionEncode_eq_some_iff {remote : RemoteRegion} {cap : ℕ} {wire : Bytes} :
    remoteRegionEncode remote cap = some wire ↔
      remote.Encodable ∧ remote.wire.length ≤ cap ∧ remote.wire = wire := by
  have hbytes : ∀ hencodable : remote.Encodable,
      remote.wire.length ≤ providerRegionWireMaxLen := by
    intro hencodable
    have hname := (length_lt_of_identityValid hencodable.name).2
    have hdesc := hencodable.descriptorLe
    rw [remote.length_wire]
    unfold providerRegionWireMaxLen
    omega
  have hwire : putU32 providerRegionWireMagic ++ putU32 providerRegionWireVersion ++
      putU32 (UInt32.ofNat remote.providerName.length) ++
      putU32 (UInt32.ofNat remote.descriptor.length) ++ putU32 remote.memoryKind.code ++
      putU32 0 ++ putU64 remote.len ++ remote.providerName ++ remote.descriptor = remote.wire := by
    simp only [RemoteRegion.wire, List.append_assoc]
  unfold remoteRegionEncode
  rw [hwire]
  split
  · rename_i hbad
    simp only [Bool.or_eq_true, Bool.not_eq_true', beq_iff_eq, decide_eq_true_eq, gt_iff_lt] at hbad
    constructor
    · intro h
      cases h
    · rintro ⟨henc, -, -⟩
      rcases hbad with (((hbad | hbad) | hbad) | hbad) | hbad
      · exact absurd (hbad.symm.trans henc.name) (by decide)
      · exact absurd hbad henc.len
      · exact absurd (hbad.symm.trans henc.kind) (by decide)
      · exact absurd hbad henc.descriptorPos
      · exact absurd henc.descriptorLe (by omega)
  · rename_i hgood
    simp only [Bool.or_eq_true, Bool.not_eq_true', beq_iff_eq, decide_eq_true_eq, gt_iff_lt, not_or,
      Bool.not_eq_false, not_lt] at hgood
    obtain ⟨⟨⟨⟨hname, hlen⟩, hkind⟩, hpos⟩, hle⟩ := hgood
    have hencodable : remote.Encodable := ⟨hname, hlen, hkind, hpos, hle⟩
    have hmax := hbytes hencodable
    rw [remote.length_wire] at hmax ⊢
    dsimp only
    split
    · rename_i hroom
      simp only [Bool.or_eq_true, decide_eq_true_eq, gt_iff_lt] at hroom
      constructor
      · intro h
        cases h
      · rintro ⟨-, hfits, -⟩
        omega
    · rename_i hroom
      simp only [Bool.or_eq_true, decide_eq_true_eq, gt_iff_lt, not_or, not_lt] at hroom
      rw [Option.some_inj]
      exact ⟨fun h => ⟨hencodable, hroom.1, h⟩, fun h => h.2.2⟩

/-- What the decoder reads of a region's bytes. -/
lemma RemoteRegion.wire_reads {remote : RemoteRegion} (h : remote.Encodable) :
    (getU32 (remote.wire.drop 8)).toNat = remote.providerName.length ∧
      (getU32 (remote.wire.drop 12)).toNat = remote.descriptor.length ∧
      remote.wire.drop 32 = remote.providerName ++ remote.descriptor := by
  have hname := (length_lt_of_identityValid h.name).2
  have hdesc := h.descriptorLe
  unfold providerNameLen at hname
  unfold providerDescriptorLen at hdesc
  have hsize : UInt32.size = 2 ^ 32 := rfl
  refine ⟨?_, ?_, ?_⟩
  · simp only [RemoteRegion.wire, drop_putU32, List.drop_zero, getU32_putU32]
    exact UInt32.toNat_ofNat_of_lt' (by omega)
  · simp only [RemoteRegion.wire, drop_putU32, List.drop_zero, getU32_putU32]
    exact UInt32.toNat_ofNat_of_lt' (by omega)
  · simp only [RemoteRegion.wire, drop_putU32, drop_putU64, List.drop_zero]

/-- **What a region encodes to decodes to the same region.** -/
lemma remoteRegionDecode_encode {remote : RemoteRegion} {cap : ℕ} {wire : Bytes}
    (h : remoteRegionEncode remote cap = some wire) : remoteRegionDecode wire = some remote := by
  obtain ⟨henc, -, rfl⟩ := remoteRegionEncode_eq_some_iff.mp h
  obtain ⟨hplen, hdlen, htail⟩ := RemoteRegion.wire_reads henc
  obtain ⟨hpos, hlt⟩ := length_lt_of_identityValid henc.name
  have hdesc := henc.descriptorLe
  have hdpos := henc.descriptorPos
  have hlen := remote.length_wire
  have hmax : remote.wire.length ≤ providerRegionWireMaxLen := by
    rw [hlen]
    unfold providerRegionWireMaxLen
    omega
  have hmagic : getU32 remote.wire = providerRegionWireMagic := getU32_putU32 _ _
  have hversion : getU32 (remote.wire.drop 4) = providerRegionWireVersion := by
    simp only [RemoteRegion.wire, drop_putU32, List.drop_zero, getU32_putU32]
  have hzero : getU32 (remote.wire.drop 20) = 0 := by
    simp only [RemoteRegion.wire, drop_putU32, List.drop_zero, getU32_putU32]
  have hkind : getU32 (remote.wire.drop 16) = remote.memoryKind.code := by
    simp only [RemoteRegion.wire, drop_putU32, List.drop_zero, getU32_putU32]
  have hregion : getU64 (remote.wire.drop 24) = remote.len := by
    simp only [RemoteRegion.wire, drop_putU32, List.drop_zero, getU64_putU64]
  have hname : cstr ((remote.wire.drop 32).take remote.providerName.length) =
      remote.providerName := by
    rw [htail, List.take_left' rfl, cstr_eq_self (nul_notMem_of_identityValid henc.name)]
  have hdescriptor : (remote.wire.drop (32 + remote.providerName.length)).take
      remote.descriptor.length = remote.descriptor := by
    rw [← List.drop_drop, htail, List.drop_left' rfl, List.take_length]
  unfold remoteRegionDecode
  dsimp only
  rw [hmagic, hversion, hzero, hplen, hdlen, hkind, hregion, hname, hdescriptor,
    if_neg (by simp; omega), if_neg, if_neg (by simp [henc.name])]
  have hkindValid : MemoryKind.valid ⟨remote.memoryKind.code⟩ = true := henc.kind
  have hregionLen := henc.len
  simp only [hkindValid, Bool.or_eq_true, decide_eq_true_eq, beq_iff_eq, Bool.not_true, not_or]
  refine ⟨⟨⟨⟨⟨⟨?_, ?_⟩, ?_⟩, ?_⟩, ?_⟩, hregionLen⟩, by decide⟩
  · omega
  · omega
  · exact hdpos
  · omega
  · rw [hlen]
    exact fun hne => hne rfl

/-- What an accepted wire form consists of. -/
lemma remoteRegionDecode_eq_some {wire : Bytes} {remote : RemoteRegion}
    (h : remoteRegionDecode wire = some remote) :
    remote.Encodable ∧ remote.providerName = cstr (nameField wire) ∧
      wire = putU32 providerRegionWireMagic ++ (putU32 providerRegionWireVersion ++
        (putU32 (UInt32.ofNat (nameField wire).length) ++
          (putU32 (UInt32.ofNat remote.descriptor.length) ++ (putU32 remote.memoryKind.code ++
            (putU32 0 ++ (putU64 remote.len ++ (nameField wire ++ remote.descriptor))))))) := by
  unfold remoteRegionDecode at h
  split at h
  · cases h
  rename_i hheader
  simp only [Bool.or_eq_true, decide_eq_true_eq, bne_iff_ne, ne_eq, not_or, not_lt, not_not,
    gt_iff_lt] at hheader
  obtain ⟨⟨⟨⟨hlen, -⟩, hmagic⟩, hversion⟩, hzero⟩ := hheader
  dsimp only at h
  split at h
  · cases h
  rename_i hfields
  simp only [Bool.or_eq_true, decide_eq_true_eq, beq_iff_eq, Bool.not_eq_true', not_or, not_lt,
    not_not, gt_iff_lt, ge_iff_le, not_le, ne_eq, Bool.not_eq_false] at hfields
  obtain ⟨⟨⟨⟨⟨⟨-, -⟩, hdpos⟩, hdle⟩, hexpected⟩, hregion⟩, hkind⟩ := hfields
  split at h
  · cases h
  rename_i hname
  simp only [Bool.not_eq_true', Bool.not_eq_false] at hname
  cases h
  set providerLen := (getU32 (wire.drop 8)).toNat with hproviderLen
  set descriptorLen := (getU32 (wire.drop 12)).toNat with hdescriptorLen
  have hnameLen : (nameField wire).length = providerLen := by
    rw [nameField, List.length_take, List.length_drop]
    omega
  have hrest : (wire.drop (32 + providerLen)).length = descriptorLen := by
    rw [List.length_drop]
    omega
  have hdescriptor : (wire.drop (32 + providerLen)).take descriptorLen =
      wire.drop (32 + providerLen) := List.take_of_length_le (le_of_eq hrest)
  refine ⟨⟨hname, hregion, hkind, ?_, ?_⟩, rfl, ?_⟩
  · rw [hdescriptor, hrest]
    exact hdpos
  · rw [hdescriptor, hrest]
    exact hdle
  · dsimp only
    rw [hdescriptor, hrest, hnameLen, hproviderLen, hdescriptorLen, UInt32.ofNat_toNat,
      UInt32.ofNat_toNat]
    have word (n : ℕ) (hn : n + 4 ≤ 32) :
        putU32 (getU32 (wire.drop n)) ++ wire.drop (n + 4) = wire.drop n := by
      rw [← List.drop_drop]
      exact putU32_getU32 (by rw [List.length_drop]; omega)
    have double : putU64 (getU64 (wire.drop 24)) ++ wire.drop 32 = wire.drop 24 := by
      rw [show wire.drop 32 = (wire.drop 24).drop 8 by rw [List.drop_drop]]
      exact putU64_getU64 (by rw [List.length_drop]; omega)
    have htail : nameField wire ++ wire.drop (32 + (getU32 (wire.drop 8)).toNat) =
        wire.drop 32 := by
      rw [nameField, ← List.drop_drop, List.take_append_drop]
    rw [htail, double, ← hzero, word 20 (by omega), word 16 (by omega), word 12 (by omega),
      word 8 (by omega), ← hversion, word 4 (by omega), ← hmagic, putU32_getU32 (by omega)]

/-- **What the region decoder accepts is the encoding of what it returns, unless the name field has a
zero byte.** -/
lemma remoteRegionEncode_decode {wire : Bytes} {remote : RemoteRegion}
    (h : remoteRegionDecode wire = some remote) {cap : ℕ} (hcap : wire.length ≤ cap) :
    remoteRegionEncode remote cap = some wire ↔ NUL ∉ nameField wire := by
  obtain ⟨henc, hname, hwire⟩ := remoteRegionDecode_eq_some h
  rw [remoteRegionEncode_eq_some_iff]
  constructor
  · rintro ⟨-, -, heq⟩ hnul
    have hshort : (cstr (nameField wire)).length < (nameField wire).length := by
      apply lt_of_le_of_ne ( List.takeWhile_prefix _).length_le
      intro heq
      have hself : cstr (nameField wire) = nameField wire :=
        ( List.takeWhile_prefix _).eq_of_length heq
      rw [← hself] at hnul
      simpa using List.mem_takeWhile_imp hnul
    have hlen := congrArg List.length hwire
    rw [← hname] at hshort
    have hlen' := remote.length_wire
    rw [heq] at hlen'
    simp only [List.length_append, length_putU32, length_putU64] at hlen
    omega
  · intro hnul
    rw [cstr_eq_self hnul] at hname
    have heq : remote.wire = wire := by
      rw [← hname] at hwire
      exact hwire.symm
    exact ⟨henc, heq ▸ hcap, heq⟩

/-- **Region descriptor codecs.** In both formats, what is encoded decodes to the same descriptor.  What
the OBMM decoder accepts is exactly the encoding of the descriptor it returns; for the remote region's
decoder this is so just when the name field of the wire form has no zero byte. -/
theorem region_codecs (remote : RemoteRegion) (wire : Bytes) (cap : ℕ) (d : ObmmDescriptor)
    (bytes : Bytes) :
    (remoteRegionEncode remote cap = some wire → remoteRegionDecode wire = some remote) ∧
    (remoteRegionDecode wire = some remote → wire.length ≤ cap →
      (remoteRegionEncode remote cap = some wire ↔ NUL ∉ nameField wire)) ∧
    (obmmDescriptorEncode d = some bytes → obmmDescriptorDecode bytes = some d) ∧
    (obmmDescriptorDecode bytes = some d → obmmDescriptorEncode d = some bytes) :=
  ⟨remoteRegionDecode_encode, fun h hcap => remoteRegionEncode_decode h hcap, obmmDescriptorDecode_encode,
    obmmDescriptorEncode_decode⟩

/-- A region of 16 bytes of a provider called `a`, whose descriptor is one byte. -/
def smallRegion : RemoteRegion := ⟨ascii "a", 16, .host, [7]⟩

/-- The wire form of the same region with a name field of three bytes, `a`, a zero byte and `b`. -/
def nulNameWire : Bytes :=
  putU32 providerRegionWireMagic ++ putU32 providerRegionWireVersion ++ putU32 3 ++ putU32 1 ++
    putU32 MemoryKind.host.code ++ putU32 0 ++ putU64 16 ++ [97, 0, 98] ++ [7]

/-- A round trip of a small region, and what the equivalence says of the two wire forms. -/
theorem region_codecs_small :
    remoteRegionDecode smallRegion.wire = some smallRegion ∧
      (remoteRegionEncode smallRegion 192 = some smallRegion.wire ↔
        NUL ∉ nameField smallRegion.wire) ∧
      (remoteRegionEncode smallRegion 192 = some nulNameWire ↔ NUL ∉ nameField nulNameWire) ∧
      obmmDescriptorDecode ((obmmDescriptorEncode ⟨1, 2, 3, 4, 5⟩).getD []) =
        some ⟨1, 2, 3, 4, 5⟩ :=
  ⟨(region_codecs smallRegion smallRegion.wire 192 ⟨1, 2, 3, 4, 5⟩ []).1 (by decide +kernel),
    (region_codecs _ _ _ ⟨1, 2, 3, 4, 5⟩ []).2.1 (by decide +kernel) (by decide +kernel),
    (region_codecs _ _ _ ⟨1, 2, 3, 4, 5⟩ []).2.1 (by decide +kernel) (by decide +kernel),
    (region_codecs smallRegion [] 192 _ _).2.2.1 (by decide +kernel)⟩

/-- **Bytes behind the name.** The decoder accepts a name field of `a`, a zero byte and `b`, and
returns the provider `a`; encoding that again gives two bytes less. -/
theorem decoded_name_loses_bytes :
    remoteRegionDecode nulNameWire = some smallRegion ∧
      remoteRegionEncode smallRegion nulNameWire.length = some smallRegion.wire ∧
      smallRegion.wire ≠ nulNameWire ∧ smallRegion.wire.length + 2 = nulNameWire.length := by
  decide +kernel

end MemService
