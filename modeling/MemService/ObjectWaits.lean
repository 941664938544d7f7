import MemService.RegionLayout
import MemService.DescQueue

/-!
# Reading a peer's objects

A peer publishes an object in its region and a record that says where: offset, length, checksum.
The consumers look the record up in the peer's table, check it and then read the payload through
the mapping of the peer's region.  There are nine of them: the resolve of four objects at once, the
waits for the candidates, the selected token, the history and the state of an engram, the token
input of the first range, the terminal commit by descriptor and by record, and the hidden-range input
of the later ranges.

Every field of the record comes from the peer, so what keeps the read inside the mapping is the
consumer's own check.  The token waits compare the length with what is left behind the offset.  The
others compare the sum of offset and length, in 64 bits, with the length of the region; the
hidden-range input has `mem_service_model_refresh_remote_payload` behind that check, which
subtracts, and the five others have nothing.
-/

open ByteText CNumeral BigEndian

namespace MemService

/-! ## Regions and reads -/

/-- The mapping of a region: `region.addr` and `region.len`, and the bytes at each offset, those that
lie outside the mapping included. -/
structure MappedRegion where
  mapped : Bool
  len : UInt64
  bytes : ℕ → UInt8

/-- `count` bytes read at an offset of a region of `regionLen` bytes. -/
structure PayloadRead where
  regionLen : ℕ
  offset : UInt64
  count : ℕ
  deriving DecidableEq

/-- The read stays inside the region. -/
def PayloadRead.InRange (r : PayloadRead) : Prop := r.offset.toNat + r.count ≤ r.regionLen

instance (r : PayloadRead) : Decidable r.InRange :=
  inferInstanceAs (Decidable (_ ≤ _))

/-- The read of an object's payload. -/
def MappedRegion.readOf (region : MappedRegion) (r : Record) (count : ℕ) : PayloadRead :=
  ⟨region.len.toNat, r.objectBackingOffset, count⟩

/-- The bytes a read of an object's payload returns. -/
def MappedRegion.payload (region : MappedRegion) (r : Record) (count : ℕ) : Bytes :=
  ByteRegion.read region.bytes r.objectBackingOffset.toNat count

/-- The `i`-th 64-bit word of a payload. -/
def payloadWord (payload : Bytes) (i : ℕ) : UInt64 :=
  UInt64.ofNat (value ((payload.drop (8 * i)).take 8).reverse)

/-- `object_backing_offset + object_backing_len <= region.len`, in 64 bits. -/
def sumFits (region : MappedRegion) (r : Record) : Bool :=
  r.objectBackingOffset + r.objectBackingLen ≤ region.len

/-- The same check by a subtraction. -/
def differenceFits (region : MappedRegion) (offset len : UInt64) : Bool :=
  !(offset > region.len || len > region.len - offset)

/-- What `mem_service_model_refresh_remote_payload` depends on besides the region: the offset of the
payload region in the peer's memory, whether the slot is the node's own, and whether the cache range
can be synchronised. -/
structure RefreshEnv where
  payloadOffset : UInt64
  isLocal : Bool
  synced : Bool

/-- `mem_service_model_refresh_remote_payload`. -/
def refreshRemotePayload (env : RefreshEnv) (region : MappedRegion) (offset len : UInt64) : Bool :=
  let last := UInt64.ofNat (2 ^ 64 - 1)
  if !region.mapped || !differenceFits region offset len || env.payloadOffset > last - offset ||
      len > last - (env.payloadOffset + offset) then false
  else env.isLocal || env.synced

/-! ## Engram waits -/

@[inherit_doc kindWeightTile] def kindEngramHistory : UInt32 := 8
@[inherit_doc kindWeightTile] def kindEngramCandidates : UInt32 := 9
@[inherit_doc kindWeightTile] def kindEngramSelected : UInt32 := 10
@[inherit_doc kindWeightTile] def kindEngramState : UInt32 := 11

/-- `MEM_SERVICE_OBMM_QWEN3_ENGRAM_CANDIDATES_BYTES`. -/
def engramCandidatesBytes : ℕ := 256
/-- `MEM_SERVICE_OBMM_QWEN3_ENGRAM_SELECTED_BYTES`. -/
def engramSelectedBytes : ℕ := 64
/-- `MEM_SERVICE_OBMM_QWEN3_ENGRAM_STATE_BYTES`. -/
def engramStateBytes : ℕ := 128
/-- The size of the history wait's buffer, `uint64_t payload_words[1024 + 2]`. -/
def engramHistoryBuffer : ℕ := 8208

/-- What an engram wait asks of a record before it reads the payload. -/
def engramRecordAccepted (kind : RecordKind) (payloadKind : UInt32) (version : Option UInt64)
    (minLen maxLen : ℕ) (region : MappedRegion) (r : Record) : Bool :=
  r.kind == kind && version.all (fun v => r.version == v) && r.objectPayloadKind == payloadKind &&
    decide (minLen ≤ r.objectBackingLen.toNat) && decide (r.objectBackingLen.toNat ≤ maxLen) &&
    region.mapped && sumFits region r

/-- The record check of `mem_service_obmm_service_v0_wait_engram_candidates`. -/
def candidatesRecordAccepted : MappedRegion → Record → Bool :=
  engramRecordAccepted RecordKind.modelEngramCandidates kindEngramCandidates (some 1)
    engramCandidatesBytes engramCandidatesBytes

/-- The record check of `mem_service_obmm_service_v0_wait_engram_selected_token`, which does not look
at the version. -/
def selectedRecordAccepted : MappedRegion → Record → Bool :=
  engramRecordAccepted RecordKind.modelEngramSelected kindEngramSelected none engramSelectedBytes
    engramSelectedBytes

/-- The record check of `mem_service_obmm_service_v0_wait_engram_history`. -/
def historyRecordAccepted (decodeStep : UInt64) : MappedRegion → Record → Bool :=
  engramRecordAccepted RecordKind.modelEngramHistory kindEngramHistory (some (decodeStep + 1)) 24
    engramHistoryBuffer

/-- The record check of `mem_service_obmm_service_v0_wait_engram_state`. -/
def stateRecordAccepted : MappedRegion → Record → Bool :=
  engramRecordAccepted RecordKind.modelEngramState kindEngramState (some 1) engramStateBytes
    engramStateBytes

/-- What the wait for candidates returns, one entry per candidate. -/
structure EngramCandidates where
  tokens : List UInt64
  logitBits : List UInt64
  textChecksums : List UInt64
  pieceBytes : List UInt64
  pieceWord0 : List UInt64
  pieceWord1 : List UInt64
  checksum : UInt64
  deriving DecidableEq

/-- The checks of the wait for candidates behind the read. -/
def candidatesResult (decodeStep capacity : UInt64) (r : Record) (payload : Bytes) :
    Option EngramCandidates :=
  let count := payloadWord payload 1
  let column (k : ℕ) := (List.range count.toNat).map fun i => payloadWord payload (2 + i * 7 + k)
  if payloadWord payload 0 == decodeStep && count > 0 && count ≤ 4 && count ≤ capacity &&
      payloadWord payload 31 == checksumBytes (payload.take (31 * 8)) &&
      checksumBytes payload == r.objectPayloadChecksum then
    some
      { tokens := column 1, logitBits := column 2, textChecksums := column 3, pieceBytes := column 4
        pieceWord0 := column 5, pieceWord1 := column 6, checksum := checksumBytes payload }
  else none

/-- The checks of the wait for the selected token: the token. -/
def selectedResult (decodeStep : UInt64) (r : Record) (payload : Bytes) : Option UInt64 :=
  if payloadWord payload 0 == decodeStep && checksumBytes payload == r.objectPayloadChecksum then
    some (payloadWord payload 1)
  else none

/-- The checks of the wait for the history: the tokens and the checksum.  The payload is what fills
the buffer, the rest of which is zero. -/
def historyResult (decodeStep capacity : UInt64) (r : Record) (payload : Bytes) :
    Option (List UInt64 × UInt64) :=
  let words := payload ++ List.replicate (engramHistoryBuffer - payload.length) 0
  let count := payloadWord words 1
  if payloadWord words 0 == decodeStep + 1 && count > 0 && count ≤ capacity &&
      (count + 2) * 8 == r.objectBackingLen && checksumBytes payload == r.objectPayloadChecksum then
    some ((List.range count.toNat).map fun i => payloadWord words (2 + i), checksumBytes payload)
  else none

/-- What the wait for the state compares with. -/
structure ExpectedState where
  historyTokenCount : UInt64
  selectedToken : UInt64
  historyChecksum : UInt64
  noRepeatNgramSize : UInt64
  repetitionPenaltyMilli : UInt64

/-- The checks of the wait for the state: its checksum. -/
def stateResult (decodeStep : UInt64) (expected : ExpectedState) (r : Record) (payload : Bytes) :
    Option UInt64 :=
  if payloadWord payload 0 == decodeStep && payloadWord payload 1 == expected.historyTokenCount &&
      payloadWord payload 2 == expected.selectedToken &&
      payloadWord payload 3 == expected.historyChecksum &&
      payloadWord payload 4 == expected.noRepeatNgramSize &&
      payloadWord payload 5 == expected.repetitionPenaltyMilli &&
      payloadWord payload 15 == checksumBytes (payload.take (15 * 8)) &&
      checksumBytes payload == r.objectPayloadChecksum then
    some (checksumBytes payload)
  else none

/-- A look at a record that was found: what is read of the region, and what comes of it. -/
def lookAt {β : Type} (accepted : MappedRegion → Record → Bool) (count : Record → ℕ)
    (use : Record → Bytes → Option β) (region : MappedRegion) (found : Option Record) :
    List PayloadRead × Option β :=
  match found with
  | none => ([], none)
  | some r =>
      if accepted region r then
        ([region.readOf r (count r)], use r (region.payload r (count r)))
      else ([], none)

def lookAtCandidates (decodeStep capacity : UInt64) :
    MappedRegion → Option Record → List PayloadRead × Option EngramCandidates :=
  lookAt candidatesRecordAccepted (fun _ => engramCandidatesBytes)
    (candidatesResult decodeStep capacity)

def lookAtSelected (decodeStep : UInt64) :
    MappedRegion → Option Record → List PayloadRead × Option UInt64 :=
  lookAt selectedRecordAccepted (fun _ => engramSelectedBytes) (selectedResult decodeStep)

def lookAtHistory (decodeStep capacity : UInt64) :
    MappedRegion → Option Record → List PayloadRead × Option (List UInt64 × UInt64) :=
  lookAt (historyRecordAccepted decodeStep) (fun r => r.objectBackingLen.toNat)
    (historyResult decodeStep capacity)

def lookAtState (decodeStep : UInt64) (expected : ExpectedState) :
    MappedRegion → Option Record → List PayloadRead × Option UInt64 :=
  lookAt stateRecordAccepted (fun _ => engramStateBytes) (stateResult decodeStep expected)

/-! ## Token and range waits -/

/-- `MEM_SERVICE_OBMM_MODEL_TOKEN_RESULT_BYTES`. -/
def tokenResultBytes : ℕ := 64

/-- The record is the one a descriptor announced. -/
def describedBy (d : Desc) (r : Record) : Bool :=
  r.objectBackingOffset == d.payloadOffset && r.objectBackingLen == d.payloadLen.toUInt64 &&
    d.cookie == checksumCookie r.objectPayloadChecksum

/-- What the token waits ask of a record: the kinds, the length and the place. -/
def tokenRecordAccepted (region : MappedRegion) (r : Record) : Bool :=
  r.kind == RecordKind.modelTokenResult && r.objectPayloadKind == kindModelTokenResult &&
    r.objectBackingLen.toNat == tokenResultBytes &&
    differenceFits region r.objectBackingOffset r.objectBackingLen

/-- What a look of a token wait comes to: it goes on waiting, the wait ends in failure, or it has the
payload. -/
inductive TokenLook
  | retry
  | failed
  | found (r : Record) (payload : Bytes)

/-- The read of a token result that passed the checks, and the checks behind it.  A payload of another
step ends the token input wait (`failed`); the terminal commit goes on. -/
def readToken (env : RefreshEnv) (step : UInt64) (otherStep : TokenLook) (region : MappedRegion)
    (r : Record) : List PayloadRead × TokenLook :=
  if !refreshRemotePayload env region r.objectBackingOffset r.objectBackingLen then ([], .retry)
  else
    let payload := region.payload r tokenResultBytes
    ([region.readOf r tokenResultBytes],
      if payloadWord payload 0 != step then otherStep
      else if modelPayloadChecksum payload != r.objectPayloadChecksum then .retry
      else .found r payload)

/-- The token input wait, with a descriptor and the record that was found for it; the awaited token is
that of the step before. -/
def lookAtTokenInput (env : RefreshEnv) (decodeStep : UInt64) (d : Desc) (region : MappedRegion)
    (found : Option Record) : List PayloadRead × TokenLook :=
  match found with
  | none => ([], .retry)
  | some r =>
      if tokenRecordAccepted region r && describedBy d r then
        readToken env (decodeStep - 1) .failed region r
      else ([], .failed)

/-- The terminal commit, with a descriptor and the record that was found for it. -/
def lookAtTerminalDesc (env : RefreshEnv) (decodeStep : UInt64) (d : Desc) (region : MappedRegion)
    (found : Option Record) : List PayloadRead × TokenLook :=
  match found with
  | none => ([], .retry)
  | some r =>
      if tokenRecordAccepted region r && describedBy d r then readToken env decodeStep .retry region r
      else ([], .retry)

/-- The terminal commit, with the record that was found under the awaited key. -/
def lookAtTerminalRecord (env : RefreshEnv) (decodeStep : UInt64) (region : MappedRegion)
    (found : Option Record) : List PayloadRead × TokenLook :=
  match found with
  | none => ([], .retry)
  | some r =>
      if tokenRecordAccepted region r then readToken env decodeStep .retry region r else ([], .retry)

/-- What the hidden-range input asks of a record. -/
def rangeRecordAccepted (hiddenRangeBytes : UInt64) (d : Desc) (region : MappedRegion) (r : Record) :
    Bool :=
  r.objectPayloadKind == kindHiddenRangeRuntimeOutput && r.objectBackingLen == hiddenRangeBytes &&
    describedBy d r && region.mapped && sumFits region r

/-- The read through the SSD: a buffer of the node's own arena is filled by the device, if the device
answers (`ssdRead`), and summed up. -/
def readFromSsd (node : ClusterNode) (ssdRead : Bool) (payloadLen : UInt64) (r : Record) :
    List PayloadRead × Option (Record × Bytes) :=
  if r.objectBackend.blockBytes ≠ payloadLen then ([], none)
  else
    match (payloadArenaAlloc node payloadLen 64).2 with
    | none => ([], none)
    | some offset =>
        let payload := ByteRegion.read node.regionBytes offset.toNat payloadLen.toNat
        if !ssdRead then ([], none)
        else
          ([⟨node.regionLen, offset, payloadLen.toNat⟩],
            if modelPayloadChecksum payload != r.objectPayloadChecksum then none
            else some (r, payload))

/-- The hidden-range input, with a descriptor and the record that was found for it: the view of the
payload. -/
def lookAtRange (env : RefreshEnv) (node : ClusterNode) (ssdRead : Bool)
    (hiddenRangeBytes : UInt64) (d : Desc) (region : MappedRegion) (found : Option Record) :
    List PayloadRead × Option (Record × Bytes) :=
  match found with
  | none => ([], none)
  | some r =>
      if !rangeRecordAccepted hiddenRangeBytes d region r then ([], none)
      else if r.objectBackend.kind == objectBackendUbSsdGsva then
        readFromSsd node ssdRead hiddenRangeBytes r
      else if !refreshRemotePayload env region r.objectBackingOffset r.objectBackingLen then ([], none)
      else
        ([region.readOf r hiddenRangeBytes.toNat],
          some (r, region.payload r hiddenRangeBytes.toNat))

/-! ## The resolve of four objects -/

/-- The records `mem_service_obmm_service_v0_publish_resolve` has found of the next node. -/
structure ResolvedRecords where
  weight : Record
  kvcache : Record
  hiddenInput : Record
  hiddenOutput : Record

def ResolvedRecords.all (rs : ResolvedRecords) : List Record :=
  [rs.weight, rs.kvcache, rs.hiddenInput, rs.hiddenOutput]

/-- What the resolve asks of them; `descs` says whether their descriptors have arrived. -/
def resolveAccepted (hiddenRangeBytes : UInt64) (descs : Bool) (region : MappedRegion)
    (rs : ResolvedRecords) : Bool :=
  rs.weight.kind == RecordKind.weightTile && rs.kvcache.kind == RecordKind.kvcacheObject &&
    rs.hiddenInput.kind == RecordKind.hiddenRangeInput &&
    rs.hiddenOutput.kind == RecordKind.hiddenRangeOutput &&
    rs.weight.objectBackingLen.toNat == obmmServiceObjectBytes &&
    rs.kvcache.objectBackingLen.toNat == obmmServiceObjectBytes &&
    rs.hiddenInput.objectBackingLen == hiddenRangeBytes &&
    rs.hiddenOutput.objectBackingLen == hiddenRangeBytes &&
    descs && region.mapped && rs.all.all (sumFits region)

/-- The resolve: the four payloads are summed up, and the sums compared. -/
def lookAtResolved (hiddenRangeBytes : UInt64) (descs : Bool) (region : MappedRegion)
    (rs : ResolvedRecords) : List PayloadRead × Bool :=
  if !resolveAccepted hiddenRangeBytes descs region rs then ([], false)
  else
    (rs.all.map fun r => region.readOf r r.objectBackingLen.toNat,
      rs.all.all fun r =>
        checksumBytes (region.payload r r.objectBackingLen.toNat) == r.objectPayloadChecksum)

/-! ## Out-of-range reads -/

/-- A consumer and what it was given: the record it found, which is the peer's, the descriptor it took
and its own arguments. -/
inductive ObjectConsumer
  | resolve (hiddenRangeBytes : UInt64) (descs : Bool) (rs : ResolvedRecords)
  | engramCandidates (decodeStep capacity : UInt64) (found : Option Record)
  | engramSelected (decodeStep : UInt64) (found : Option Record)
  | engramHistory (decodeStep capacity : UInt64) (found : Option Record)
  | engramState (decodeStep : UInt64) (expected : ExpectedState) (found : Option Record)
  | tokenInput (env : RefreshEnv) (decodeStep : UInt64) (d : Desc) (found : Option Record)
  | terminalDesc (env : RefreshEnv) (decodeStep : UInt64) (d : Desc) (found : Option Record)
  | terminalRecord (env : RefreshEnv) (decodeStep : UInt64) (found : Option Record)
  | range (env : RefreshEnv) (node : ClusterNode) (ssdRead : Bool) (hiddenRangeBytes : UInt64)
      (d : Desc) (found : Option Record)

namespace ObjectConsumer

/-- What a consumer reads of payloads. -/
def reads (region : MappedRegion) : ObjectConsumer → List PayloadRead
  | resolve hiddenRangeBytes descs rs => (lookAtResolved hiddenRangeBytes descs region rs).1
  | engramCandidates decodeStep capacity found => (lookAtCandidates decodeStep capacity region found).1
  | engramSelected decodeStep found => (lookAtSelected decodeStep region found).1
  | engramHistory decodeStep capacity found => (lookAtHistory decodeStep capacity region found).1
  | engramState decodeStep expected found => (lookAtState decodeStep expected region found).1
  | tokenInput env decodeStep d found => (lookAtTokenInput env decodeStep d region found).1
  | terminalDesc env decodeStep d found => (lookAtTerminalDesc env decodeStep d region found).1
  | terminalRecord env decodeStep found => (lookAtTerminalRecord env decodeStep region found).1
  | range env node ssdRead hiddenRangeBytes d found =>
      (lookAtRange env node ssdRead hiddenRangeBytes d region found).1

/-- The records whose sum of offset and length is all that keeps the consumer from reading elsewhere:
those that pass the checks of a resolve or of an engram wait. -/
def trusted (region : MappedRegion) : ObjectConsumer → List Record
  | resolve hiddenRangeBytes descs rs =>
      if resolveAccepted hiddenRangeBytes descs region rs then rs.all else []
  | engramCandidates _ _ found => (found.filter (candidatesRecordAccepted region)).toList
  | engramSelected _ found => (found.filter (selectedRecordAccepted region)).toList
  | engramHistory decodeStep _ found =>
      (found.filter (historyRecordAccepted decodeStep region)).toList
  | engramState _ _ found => (found.filter (stateRecordAccepted region)).toList
  | tokenInput .. | terminalDesc .. | terminalRecord .. | range .. => []

end ObjectConsumer

/-! ### The checks -/

/-- A sum that passes is the true sum, or it has wrapped. -/
lemma le_len_iff_of_sumFits {region : MappedRegion} {r : Record} (h : sumFits region r = true) :
    r.objectBackingOffset.toNat + r.objectBackingLen.toNat ≤ region.len.toNat ↔
      r.objectBackingOffset.toNat + r.objectBackingLen.toNat < 2 ^ 64 := by
  have hlen := region.len.toNat_lt
  constructor
  · intro hle
    omega
  · intro hlt
    have hsum := UInt64.le_iff_toNat_le.mp (of_decide_eq_true h)
    rwa [UInt64.toNat_add, Nat.mod_eq_of_lt hlt] at hsum

/-- A difference that passes is right. -/
lemma le_len_of_differenceFits {region : MappedRegion} {offset len : UInt64}
    (h : differenceFits region offset len = true) :
    offset.toNat + len.toNat ≤ region.len.toNat := by
  simp only [differenceFits, Bool.not_eq_true', Bool.or_eq_false_iff, decide_eq_false_iff_not,
    UInt64.not_lt] at h
  obtain ⟨hoff, hlen⟩ := h
  rw [UInt64.le_iff_toNat_le, UInt64.toNat_sub_of_le _ _ hoff] at hlen
  have hoff' := UInt64.le_iff_toNat_le.mp hoff
  omega

lemma le_len_of_refresh {env : RefreshEnv} {region : MappedRegion} {offset len : UInt64}
    (h : refreshRemotePayload env region offset len = true) :
    offset.toNat + len.toNat ≤ region.len.toNat := by
  refine le_len_of_differenceFits ?_
  by_contra hd
  rw [Bool.not_eq_true] at hd
  simp [refreshRemotePayload, hd] at h

lemma toNat_add_of_le {a b : UInt64} (h : a ≤ a + b) : (a + b).toNat = a.toNat + b.toNat := by
  rw [UInt64.le_iff_toNat_le, UInt64.toNat_add] at h
  rw [UInt64.toNat_add]
  have ha := a.toNat_lt
  have hb := b.toNat_lt
  omega

/-- The arena hands out room inside the region. -/
lemma le_regionLen_of_alloc {node : ClusterNode} {bytes align offset : UInt64}
    (h : (payloadArenaAlloc node bytes align).2 = some offset) :
    offset.toNat + bytes.toNat ≤ node.regionLen := by
  unfold payloadArenaAlloc at h
  split at h
  · cases h
  dsimp only at h
  generalize (if align = 0 then 64 else align) = align at h
  generalize hnode : (if node.arenaBase = 0 then _ else node) = node' at h
  have hlen : node'.regionLen = node.regionLen := by
    rw [← hnode]
    split <;> rfl
  split at h
  · cases h
  rename_i hstop
  cases h
  simp only [Bool.or_eq_true, decide_eq_true_eq, not_or, not_lt, UInt64.not_lt] at hstop
  obtain ⟨hwrap, hle⟩ := hstop
  rwa [toNat_add_of_le hwrap, hlen] at hle

/-! ### The consumers -/

lemma reads_lookAt {β : Type} {accepted : MappedRegion → Record → Bool} {count : Record → ℕ}
    {use : Record → Bytes → Option β} {region : MappedRegion} {found : Option Record} :
    (lookAt accepted count use region found).1 =
      ((found.filter (accepted region)).toList).map fun r => region.readOf r (count r) := by
  cases found with
  | none => rfl
  | some r =>
    by_cases h : accepted region r
    · simp [lookAt, h, Option.filter]
    · simp [lookAt, h, Option.filter]

/-- An engram wait reads as many bytes as the record says. -/
lemma engram_inRange_iff {β : Type} {kind : RecordKind} {payloadKind : UInt32}
    {version : Option UInt64} {minLen maxLen : ℕ} {count : Record → ℕ}
    {use : Record → Bytes → Option β} {region : MappedRegion} {found : Option Record}
    (hcount : ∀ r : Record, minLen ≤ r.objectBackingLen.toNat → r.objectBackingLen.toNat ≤ maxLen →
      count r = r.objectBackingLen.toNat) :
    (∀ read ∈ (lookAt (engramRecordAccepted kind payloadKind version minLen maxLen) count use region
        found).1, read.InRange) ↔
      ∀ r ∈ (found.filter (engramRecordAccepted kind payloadKind version minLen maxLen region)).toList,
        r.objectBackingOffset.toNat + r.objectBackingLen.toNat < 2 ^ 64 := by
  rw [reads_lookAt, List.forall_mem_map]
  refine forall₂_congr fun r hr => ?_
  rw [Option.mem_toList, Option.filter_eq_some_iff] at hr
  have haccepted := hr.2
  simp only [engramRecordAccepted, Bool.and_eq_true, decide_eq_true_eq] at haccepted
  obtain ⟨⟨⟨⟨-, hmin⟩, hmax⟩, -⟩, hsum⟩ := haccepted
  rw [← le_len_iff_of_sumFits hsum, ← hcount r hmin hmax]
  exact Iff.rfl

lemma resolve_inRange_iff {hiddenRangeBytes : UInt64} {descs : Bool} {region : MappedRegion}
    {rs : ResolvedRecords} :
    (∀ read ∈ (lookAtResolved hiddenRangeBytes descs region rs).1, read.InRange) ↔
      ∀ r ∈ (if resolveAccepted hiddenRangeBytes descs region rs then rs.all else []),
        r.objectBackingOffset.toNat + r.objectBackingLen.toNat < 2 ^ 64 := by
  by_cases h : resolveAccepted hiddenRangeBytes descs region rs = true
  · have hsums : ∀ r ∈ rs.all, sumFits region r = true := by
      simp only [resolveAccepted, Bool.and_eq_true, List.all_eq_true] at h
      exact h.2
    simp only [lookAtResolved, h, Bool.not_true, Bool.false_eq_true, if_false, if_true,
      List.forall_mem_map]
    exact forall₂_congr fun r hr => le_len_iff_of_sumFits (hsums r hr)
  · simp [lookAtResolved, h]

/-- A token wait stays inside the region. -/
lemma readToken_inRange {env : RefreshEnv} {step : UInt64} {otherStep : TokenLook}
    {region : MappedRegion} {r : Record} (h : tokenRecordAccepted region r = true) :
    ∀ read ∈ (readToken env step otherStep region r).1, read.InRange := by
  simp only [tokenRecordAccepted, Bool.and_eq_true, beq_iff_eq] at h
  have hlen := le_len_of_differenceFits h.2
  rw [h.1.2] at hlen
  unfold readToken
  split
  · simp
  · intro read hread
    rw [List.mem_singleton.mp hread]
    exact hlen

section TokenWaits

variable {env : RefreshEnv} {decodeStep : UInt64} {d : Desc} {region : MappedRegion}
  {found : Option Record}

lemma tokenInput_inRange :
    ∀ read ∈ (lookAtTokenInput env decodeStep d region found).1, read.InRange := by
  unfold lookAtTokenInput
  split
  · simp
  split
  · rename_i h
    exact readToken_inRange (Bool.and_eq_true_iff.mp h).1
  · simp

lemma terminalDesc_inRange :
    ∀ read ∈ (lookAtTerminalDesc env decodeStep d region found).1, read.InRange := by
  unfold lookAtTerminalDesc
  split
  · simp
  split
  · rename_i h
    exact readToken_inRange (Bool.and_eq_true_iff.mp h).1
  · simp

lemma terminalRecord_inRange :
    ∀ read ∈ (lookAtTerminalRecord env decodeStep region found).1, read.InRange := by
  unfold lookAtTerminalRecord
  split
  · simp
  split
  · rename_i h
    exact readToken_inRange h
  · simp

end TokenWaits

lemma range_inRange {env : RefreshEnv} {node : ClusterNode} {ssdRead : Bool}
    {hiddenRangeBytes : UInt64} {d : Desc} {region : MappedRegion} {found : Option Record} :
    ∀ read ∈ (lookAtRange env node ssdRead hiddenRangeBytes d region found).1, read.InRange := by
  unfold lookAtRange readFromSsd
  intro read hread
  split at hread
  · simp at hread
  rename_i r
  split at hread
  · simp at hread
  rename_i haccepted
  split at hread
  · split at hread
    · simp at hread
    split at hread
    · simp at hread
    · rename_i offset hoffset
      split at hread
      · simp at hread
      · rw [List.mem_singleton.mp hread]
        exact le_regionLen_of_alloc hoffset
  · split at hread
    · simp at hread
    · rename_i hrefresh
      simp only [rangeRecordAccepted, Bool.not_eq_true', Bool.not_eq_false, Bool.and_eq_true,
        beq_iff_eq] at haccepted hrefresh
      have hlen := le_len_of_refresh hrefresh
      rw [List.mem_singleton.mp hread]
      rw [haccepted.1.1.1.2] at hlen
      exact hlen

/-- **Out-of-range reads.**  A consumer reads inside the mapping, whatever the peer's records say, if
and only if none of the records it trusts has an offset and a length whose sum passes `2 ^ 64`.  The
token and range waits trust none. -/
theorem payload_reads_in_range_iff (region : MappedRegion) (c : ObjectConsumer) :
    (∀ read ∈ c.reads region, read.InRange) ↔
      ∀ r ∈ c.trusted region,
        r.objectBackingOffset.toNat + r.objectBackingLen.toNat < 2 ^ 64 := by
  cases c with
  | resolve hiddenRangeBytes descs rs => exact resolve_inRange_iff
  | engramCandidates decodeStep capacity found =>
    exact engram_inRange_iff fun r hmin hmax => Nat.le_antisymm hmin hmax
  | engramSelected decodeStep found =>
    exact engram_inRange_iff fun r hmin hmax => Nat.le_antisymm hmin hmax
  | engramHistory decodeStep capacity found => exact engram_inRange_iff fun r _ _ => rfl
  | engramState decodeStep expected found =>
    exact engram_inRange_iff fun r hmin hmax => Nat.le_antisymm hmin hmax
  | tokenInput env decodeStep d found =>
    exact iff_of_true tokenInput_inRange (by simp [ObjectConsumer.trusted])
  | terminalDesc env decodeStep d found =>
    exact iff_of_true terminalDesc_inRange (by simp [ObjectConsumer.trusted])
  | terminalRecord env decodeStep found =>
    exact iff_of_true terminalRecord_inRange (by simp [ObjectConsumer.trusted])
  | range env node ssdRead hiddenRangeBytes d found =>
    exact iff_of_true range_inRange (by simp [ObjectConsumer.trusted])

/-- A selected token that a peer publishes at the last 64 bytes of the address space. -/
def farSelected : Record where
  kind := RecordKind.modelEngramSelected
  key := .copy (ascii "qwen3/session/s/step/1/tokens/selected")
  version := 1
  objectPayloadKind := kindEngramSelected
  objectBackingOffset := UInt64.ofNat (2 ^ 64 - 64)
  objectBackingLen := 64

/-- A mapping of a megabyte. -/
def megabyte : MappedRegion := ⟨true, 0x100000, fun _ => 0⟩

/-- The wait reads there, outside of the mapping. -/
theorem far_record_read :
    ∃ read ∈ (ObjectConsumer.engramSelected 1 (some farSelected)).reads megabyte,
      read.offset = farSelected.objectBackingOffset ∧ ¬ read.InRange := by
  refine ⟨megabyte.readOf farSelected 64, ?_, rfl, ?_⟩
  · decide +kernel
  · decide +kernel

end MemService
