import MemService.BlockGc
import MemService.Lib.PaddedNumeral
import Mathlib.Algebra.Order.BigOperators.Group.List

/-!
# The files of the four block backends

How each backend lays a payload block out in files, and what its validator and the materialize path
read back.

* A sealed local block is one file, named after the checksum.
* A chunked block is a directory of numbered chunk files of 1024 bytes and a manifest with the number
  of chunks.  The writer stops at the first short read; the validator goes by the manifest, the
  materialize path by the record's length.
* A loopback or TCP block is a directory with one payload file and a manifest.

The writers write a temporary file and rename it, so here a write replaces a file or fails.  Storage
takes what it takes (`Storage.takes` may refuse any path) and keeps it: a file reads as it was last
written.  No file has 2^63 bytes, the limit of `off_t`.  What a failed validation moves to the
quarantine directory is the subject of `BlockStore.validated`.
-/

open ByteText CNumeral

namespace MemService

/-! ## Paths -/

/-- `mem_service_join_path`. -/
def joinPath (cap : ℕ) (base name : Bytes) : Option Bytes :=
  if base = [] ∨ name = [] then none
  else
    let path := base ++ (if base.getLast? = some 47 then [] else [47]) ++ name
    if path.length < cap then some path else none

/-- `%016" PRIx64`. -/
def hex64 (n : UInt64) : Bytes := hexadecimal 16 n.toNat

/-- The path of a block: a name made of its checksum, in a directory under the storage root. -/
def makeBlockPath (parent suffix : String) (root : Bytes) (checksum : UInt64) : Option Bytes :=
  (joinPath 512 root (ascii parent)).bind fun dir =>
    joinPath 512 dir (hex64 checksum ++ ascii suffix)

/-- `mem_service_make_payload_block_path`. -/
def makePayloadBlockPath : Bytes → UInt64 → Option Bytes := makeBlockPath "blocks" ".block"
/-- `mem_service_make_chunked_block_dir_path`. -/
def makeChunkedBlockDirPath : Bytes → UInt64 → Option Bytes := makeBlockPath "blocks" ".chunked"
/-- `mem_service_make_transport_block_dir_path`. -/
def makeTransportBlockDirPath : Bytes → UInt64 → Option Bytes :=
  makeBlockPath "remote-blocks" ".transport"
/-- `mem_service_make_transport_tcp_block_dir_path`. -/
def makeTransportTcpBlockDirPath : Bytes → UInt64 → Option Bytes :=
  makeBlockPath "remote-blocks" ".tcp"

/-- `mem_service_make_chunked_block_chunk_path`. -/
def makeChunkedBlockChunkPath (dir : Bytes) (index : UInt32) : Option Bytes :=
  joinPath 512 dir (padded 4 index.toNat ++ ascii ".chunk")

/-- The manifest of a block directory. -/
def manifestPath (dir : Bytes) : Option Bytes := joinPath 512 dir (ascii "manifest.txt")

/-- The payload file of a transport block. -/
def transportPayloadPath (dir : Bytes) : Option Bytes := joinPath 512 dir (ascii "payload.block")

/-! ## Files -/

/-- The files on storage, by path. -/
abbrev FileTree := Bytes → Option Bytes

/-- A file written, or written over. -/
def FileTree.replace (t : FileTree) (path content : Bytes) : FileTree :=
  fun p => if p = path then some content else t p

/-- The storage of a daemon: its root, whether it takes the temporary file of a payload, and the paths
it takes files under. -/
structure Storage where
  root : Bytes
  takesPayload : Bool
  takes : Bytes → Bool

/-- One file written under a temporary name and renamed. -/
def Storage.write (st : Storage) (t : FileTree) (path content : Bytes) : Option FileTree :=
  if st.takes path ∧ content.length < 2 ^ 63 then some (t.replace path content) else none

/-! ## Manifests -/

/-- The last line of every manifest. -/
def totalChecksumLine (checksum : UInt64) : Bytes := ascii "total_checksum=0x" ++ hex64 checksum

/-- The manifest of `mem_service_write_chunked_payload_block`. -/
def chunkedManifest (chunkCount : UInt32) (len checksum : UInt64) : Bytes :=
  unlines
    [fieldLine "chunk_count" (showU32 chunkCount), fieldLine "chunk_size" (decimal chunkedBlockSize),
      fieldLine "total_len" (showU64 len), totalChecksumLine checksum]

/-- What the two transport backends differ in: the directory of a block and the first lines of its
manifest. -/
structure TransportLayout where
  dirPath : Bytes → UInt64 → Option Bytes
  backend : Bytes
  transport : Bytes

/-- The layout of `mem_service_write_transport_payload_block`. -/
def loopbackLayout : TransportLayout :=
  ⟨makeTransportBlockDirPath, ascii "backend=transport-loopback-block-v1",
    ascii "transport=file-copy-v1"⟩

/-- The layout of `mem_service_write_transport_tcp_payload_block`. -/
def tcpLayout : TransportLayout :=
  ⟨makeTransportTcpBlockDirPath, ascii "backend=transport-tcp-block-v1",
    ascii "transport=tcp-loopback-v1"⟩

/-- The manifest of a transport block. -/
def TransportLayout.manifest (l : TransportLayout) (len checksum : UInt64) : Bytes :=
  unlines
    [l.backend, l.transport, ascii "payload=payload.block", fieldLine "total_len" (showU64 len),
      totalChecksumLine checksum]

/-- What a reader of a chunked manifest has seen. -/
structure ChunkedManifest where
  chunkCount : Option UInt32 := none
  chunkSize : UInt32 := 0
  totalChecksum : Option UInt64 := none
  deriving DecidableEq

/-- One line of a chunked manifest. -/
def ChunkedManifest.readLine (m : ChunkedManifest) (line : Bytes) : ChunkedManifest :=
  if ascii "chunk_count=" <+: line then
    { m with chunkCount := some (strtoull 10 (line.drop 12)).toUInt32 }
  else if ascii "chunk_size=" <+: line then
    { m with chunkSize := (strtoull 10 (line.drop 11)).toUInt32 }
  else if ascii "total_checksum=0x" <+: line then
    { m with totalChecksum := some (strtoull 16 (line.drop 17)) }
  else m

/-- The manifest as `mem_service_validate_chunked_payload_block` reads it. -/
def readChunkedManifest (text : Bytes) : ChunkedManifest :=
  (fileLines 127 text).foldl ChunkedManifest.readLine {}

/-- What a reader of a transport manifest has seen. -/
structure TransportManifest where
  sawBackend : Bool := false
  sawTransport : Bool := false
  totalChecksum : Option UInt64 := none
  deriving DecidableEq

/-- One line of a transport manifest. -/
def TransportManifest.readLine (l : TransportLayout) (m : TransportManifest) (line : Bytes) :
    TransportManifest :=
  if line = l.backend then { m with sawBackend := true }
  else if line = l.transport then { m with sawTransport := true }
  else if ascii "total_checksum=0x" <+: line then
    { m with totalChecksum := some (strtoull 16 (line.drop 17)) }
  else m

/-- The manifest as the two transport validators read it. -/
def TransportLayout.readManifest (l : TransportLayout) (text : Bytes) : TransportManifest :=
  (fileLines 159 text).foldl (TransportManifest.readLine l) {}

/-! ## Writing -/

/-- The four backends. -/
inductive BlockBackend
  | sealedLocal
  | chunked
  | loopback
  | tcp
  deriving DecidableEq

/-- The payload kind a backend leaves in the record. -/
def BlockBackend.kind : BlockBackend → UInt32
  | sealedLocal => payloadKindSealedLocal
  | chunked => payloadKindSealedChunked
  | loopback => payloadKindTransportLoopback
  | tcp => payloadKindTransportTcp

namespace Storage

variable (st : Storage)

/-- The file of `mem_service_write_payload_block`. -/
def writeSealedLocal (t : FileTree) (bytes : Bytes) : Option FileTree :=
  (makePayloadBlockPath st.root (checksumBytes bytes)).bind fun path => st.write t path bytes

/-- The chunk loop of `mem_service_write_chunked_payload_block`, from a chunk on; the index is a
`uint32_t`. -/
def writeChunks (dir : Bytes) : UInt32 → List Bytes → FileTree → Option (FileTree × UInt32)
  | index, [], t => some (t, index)
  | index, c :: cs, t =>
      ((makeChunkedBlockChunkPath dir index).bind fun path => st.write t path c).bind fun t =>
        writeChunks dir (index + 1) cs t

/-- The files of `mem_service_write_chunked_payload_block`. -/
def writeChunked (t : FileTree) (bytes : Bytes) : Option FileTree :=
  (makeChunkedBlockDirPath st.root (checksumBytes bytes)).bind fun dir =>
    (st.writeChunks dir 0 (splitChunks bytes.length bytes) t).bind fun written =>
      (manifestPath dir).bind fun path =>
        st.write written.1 path
          (chunkedManifest written.2 (UInt64.ofNat bytes.length) (checksumBytes bytes))

/-- The files of a transport writer. -/
def writeTransport (l : TransportLayout) (t : FileTree) (bytes : Bytes) : Option FileTree :=
  (l.dirPath st.root (checksumBytes bytes)).bind fun dir =>
    (transportPayloadPath dir).bind fun payload =>
      (manifestPath dir).bind fun manifest =>
        (st.write t payload bytes).bind fun t =>
          st.write t manifest (l.manifest (UInt64.ofNat bytes.length) (checksumBytes bytes))

/-- The files a backend's writer leaves, `none` if it fails. -/
def writeFiles (b : BlockBackend) (t : FileTree) (bytes : Bytes) : Option FileTree :=
  match b with
  | .sealedLocal => st.writeSealedLocal t bytes
  | .chunked => st.writeChunked t bytes
  | .loopback => st.writeTransport loopbackLayout t bytes
  | .tcp => st.writeTransport tcpLayout t bytes

/-- The four block writers: take the bytes, compare length and checksum with the payload's, store
them, and describe them in the record. -/
def sealBlock (p : Payload) (b : BlockBackend) (source : Except FailStatus Bytes) (next : Record)
    (t : FileTree) : Except WireStatus (FileTree × Record) :=
  match source with
  | .error s => .error s.val
  | .ok bytes =>
      let len := UInt64.ofNat bytes.length
      if ¬ (st.takesPayload ∧ bytes.length < 2 ^ 63) then .error WireStatus.internal
      else if (p.getU64Checked "backing_len").any (· != len) then
        .error WireStatus.checksumMismatch
      else if (p.getU64Checked "checksum").any (· != checksumBytes bytes) then
        .error WireStatus.checksumMismatch
      else
        match st.writeFiles b t bytes with
        | none => .error WireStatus.internal
        | some t =>
            .ok (t, { next with
              objectPayloadKind := b.kind
              objectBackingOffset := 0
              objectBackingLen := len
              objectPayloadChecksum := checksumBytes bytes })

end Storage

/-! ## Reading back -/

section Reading

variable (root : Bytes) (t : FileTree) (r : Record)

/-- A block file has the length and the checksum of its record. -/
def fits (bytes : Bytes) : Bool :=
  UInt64.ofNat bytes.length == r.objectBackingLen && checksumBytes bytes == r.objectPayloadChecksum

/-- One chunk file: its path may not fit, and it may not be there. -/
def readChunk (dir : Bytes) (index : UInt32) : Except WireStatus Bytes :=
  match makeChunkedBlockChunkPath dir index with
  | none => .error WireStatus.internal
  | some path =>
      match t path with
      | none => .error WireStatus.checksumMismatch
      | some bytes => .ok bytes

/-- The first chunk files of a directory, one after the other. -/
def readChunks (dir : Bytes) (count : ℕ) : Except WireStatus Bytes :=
  ((List.range count).mapM fun i => readChunk t dir (UInt32.ofNat i)).map List.flatten

/-- What `mem_service_validate_chunked_payload_block` checks. -/
def chunkedIntact : Bool :=
  ((makeChunkedBlockDirPath root r.objectPayloadChecksum).bind fun dir =>
    (((manifestPath dir).bind t).map readChunkedManifest).bind fun m =>
      m.chunkCount.bind fun count =>
        m.totalChecksum.bind fun total =>
          if count = 0 ∨ m.chunkSize = 0 ∨ m.chunkSize > 1024 then none
          else
            (readChunks t dir count.toNat).toOption.map fun bytes =>
              fits r bytes && total == r.objectPayloadChecksum).getD false

/-- What the two transport validators check. -/
def transportIntact (l : TransportLayout) : Bool :=
  ((l.dirPath root r.objectPayloadChecksum).bind fun dir =>
    (((manifestPath dir).bind t).map l.readManifest).bind fun m =>
      m.totalChecksum.bind fun total =>
        if !m.sawBackend || !m.sawTransport || total != r.objectPayloadChecksum then none
        else ((transportPayloadPath dir).bind t).map (fits r)).getD false

/-- What the end of `mem_service_validate_payload_block` checks of a sealed local block. -/
def sealedLocalIntact : Bool :=
  (((makePayloadBlockPath root r.objectPayloadChecksum).bind t).map (fits r)).getD false

/-- The files of a record's block pass its validator, apart from the check of the checksum for
zero. -/
def filesIntact : Bool :=
  if r.objectPayloadKind = payloadKindSealedChunked then chunkedIntact root t r
  else if r.objectPayloadKind = payloadKindTransportLoopback then
    transportIntact root t r loopbackLayout
  else if r.objectPayloadKind = payloadKindTransportTcp then transportIntact root t r tcpLayout
  else sealedLocalIntact root t r

/-- `mem_service_validate_payload_block`, on the files. -/
def validateBlockFiles : WireStatus :=
  if isBlockKind r.objectPayloadKind then
    if root ≠ [] ∧ r.objectPayloadChecksum ≠ 0 ∧ filesIntact root t r then WireStatus.ok
    else WireStatus.checksumMismatch
  else WireStatus.ok

/-- `mem_service_materialize_source_path`. -/
def materializeSourcePath : Option Bytes :=
  if r.objectPayloadKind = payloadKindSealedLocal then
    makePayloadBlockPath root r.objectPayloadChecksum
  else if r.objectPayloadKind = payloadKindTransportLoopback then
    (makeTransportBlockDirPath root r.objectPayloadChecksum).bind transportPayloadPath
  else if r.objectPayloadKind = payloadKindTransportTcp then
    (makeTransportTcpBlockDirPath root r.objectPayloadChecksum).bind transportPayloadPath
  else none

/-- The bytes `mem_service_materialize_payload_block` copies.  It counts the chunks by the record's
length, in a `uint32_t`. -/
def materializeSource : Except WireStatus Bytes :=
  if r.objectPayloadKind = payloadKindSealedChunked then
    match makeChunkedBlockDirPath root r.objectPayloadChecksum with
    | none => .error WireStatus.internal
    | some dir => readChunks t dir ((r.objectBackingLen + 1023) / 1024).toUInt32.toNat
  else
    match materializeSourcePath root r with
    | none => .error WireStatus.unsupported
    | some path =>
        match t path with
        | none => .error WireStatus.checksumMismatch
        | some bytes => .ok bytes

end Reading

/-- `mem_service_materialize_payload_block`: the files and the status.  `tail` is what the temporary
name adds to the destination. -/
def Storage.materialize (st : Storage) (t : FileTree) (r : Record) (destination tail : Bytes) :
    FileTree × WireStatus :=
  if destination = [] then (t, WireStatus.invalidSession)
  else if validateBlockFiles st.root t r ≠ WireStatus.ok then (t, validateBlockFiles st.root t r)
  else if !recordHasPayloadBlock r then (t, WireStatus.unsupported)
  else if (destination ++ tail).length ≥ 768 then (t, WireStatus.invalidSession)
  else if (t (destination ++ tail)).isSome then (t, WireStatus.versionConflict)
  else if !st.takes (destination ++ tail) then (t, WireStatus.internal)
  else
    match materializeSource st.root t r with
    | .error s => (t, s)
    | .ok bytes =>
        if !fits r bytes then (t, WireStatus.checksumMismatch)
        else if (t destination).isSome then (t, WireStatus.versionConflict)
        else if !st.takes destination then (t, WireStatus.internal)
        else (t.replace destination bytes, WireStatus.ok)

/-! ## The handlers' view -/

lemma Storage.sealBlock_ok {st : Storage} {p : Payload} {b : BlockBackend}
    {source : Except FailStatus Bytes} {next r : Record} {t t' : FileTree}
    (h : st.sealBlock p b source next t = .ok (t', r)) :
    ∃ bytes, source = .ok bytes ∧ bytes.length < 2 ^ 63 ∧ st.writeFiles b t bytes = some t' ∧
      r = { next with
        objectPayloadKind := b.kind
        objectBackingOffset := 0
        objectBackingLen := UInt64.ofNat bytes.length
        objectPayloadChecksum := checksumBytes bytes } ∧
      ∀ env : Env, sealPayloadBlock { env with blockWrite := .done } p b.kind source next = .ok r := by
  cases source with
  | error s => cases h
  | ok bytes =>
      simp only [sealBlock] at h
      split at h
      · cases h
      rename_i htakes
      split at h
      · cases h
      rename_i hlen
      split at h
      · cases h
      rename_i hsum
      split at h
      · cases h
      rename_i files hfiles
      cases h
      refine ⟨bytes, rfl, (not_not.mp htakes).2, hfiles, rfl, fun env => ?_⟩
      simp only [sealPayloadBlock, Except.mapError, bind, Except.bind, if_neg hlen, if_neg hsum]
      rfl

/-- Validation on the files is the handlers' validation, told what the files say. -/
lemma validateBlockFiles_eq (env : Env) (root : Bytes) (t : FileTree) (r : Record) :
    validateBlockFiles root t r =
      validatePayloadBlock { env with blockIntact := filesIntact root t r } (root ≠ []) r := by
  simp [validateBlockFiles, validatePayloadBlock]

/-- Materializing from the files is the handlers' materializing, told what the files say. -/
lemma Storage.materialize_status (st : Storage) (env : Env) (t : FileTree) (r : Record)
    {destination tail : Bytes} (hdest : destination ≠ []) :
    ∃ m, (st.materialize t r destination tail).2 =
      materializePayloadBlock { env with blockIntact := filesIntact st.root t r, materialized := m }
        (st.root ≠ []) r := by
  have hvalid : ∀ m, validatePayloadBlock
      { env with blockIntact := filesIntact st.root t r, materialized := m } (st.root ≠ []) r =
        validateBlockFiles st.root t r := 
    fun m => (validateBlockFiles_eq { env with materialized := m } _ _ _).symm
  unfold materializePayloadBlock
  simp only [hvalid]
  by_cases hok : validateBlockFiles st.root t r = WireStatus.ok
  · by_cases hblock : recordHasPayloadBlock r = true
    · have hhas : (isBlockKind r.objectPayloadKind && r.objectPayloadChecksum != 0) = true := by
        rwa [recordHasPayloadBlock, Bool.and_comm] at hblock
      simp only [hok, ne_eq, not_true_eq_false, if_false, hhas, Bool.not_true, Bool.false_eq_true]
      by_cases hs : (st.materialize t r destination tail).2 = WireStatus.ok
      · exact ⟨none, hs⟩
      · exact ⟨some ⟨_, hs⟩, rfl⟩
    · have hhas : (isBlockKind r.objectPayloadKind && r.objectPayloadChecksum != 0) = false := by
        rwa [Bool.not_eq_true, recordHasPayloadBlock, Bool.and_comm] at hblock
      refine ⟨none, ?_⟩
      simp [hok, hhas, materialize, hdest, hblock]
  · refine ⟨none, ?_⟩
    simp [hok, materialize, hdest]

/-! ## Manifests are read back -/

lemma fileLines_unlines {cap : ℕ} {ls : List Bytes}
    (h : ∀ l ∈ ls, Plain l ∧ l.length < cap ∧ NoTrailingCR l) : fileLines cap (unlines ls) = ls := by
  induction ls with
  | nil => rfl
  | cons l ls ih =>
      obtain ⟨hplain, hlen, hcr⟩ := h l (by simp)
      rw [unlines_cons, fileLines_line hplain hlen, ih fun m hm => h m (by simp [hm]),
        (trimLine_eq_self_iff hplain.lf).mpr hcr]

lemma lineFits_field {cap : ℕ} {name : String} (hname : Plain (ascii name)) {n : ℕ}
    (hn : n < 10 ^ 20) (hcap : (ascii name).length + 22 ≤ cap) :
    Plain (fieldLine name (decimal n)) ∧ (fieldLine name (decimal n)).length < cap ∧
      NoTrailingCR (fieldLine name (decimal n)) := by
  have hlen := length_decimal_le (by norm_num) hn
  refine ⟨hname.append ?_, ?_, ?_⟩
  · intro b hb
    rcases List.mem_cons.mp hb with rfl | hb
    · decide
    · exact plain_decimal n b hb
  · simp only [fieldLine, List.length_append, List.length_cons]
    omega
  · exact noTrailingCR_fieldLine ((trimLine_eq_self_iff (plain_decimal n).lf).mp (trimLine_decimal n))

lemma lineFits_checksum (checksum : UInt64) :
    Plain (totalChecksumLine checksum) ∧ (totalChecksumLine checksum).length < 127 ∧
      NoTrailingCR (totalChecksumLine checksum) := by
  refine ⟨?_, ?_, ?_⟩
  · exact (show Plain (ascii "total_checksum=0x") by decide).append (plain_hexadecimal _ _)
  · have hprefix : (ascii "total_checksum=0x").length = 17 := by decide
    rw [totalChecksumLine, List.length_append, hex64, length_hexadecimal, hprefix]
    decide
  · refine noTrailingCR_append (noTrailingCR_hexadecimal _ _) ?_
    rw [hex64, ← List.length_pos_iff, length_hexadecimal]
    decide

lemma strtoull_hex64 (n : UInt64) : strtoull 16 (hex64 n) = n := by
  have hn : n.toNat < 2 ^ 64 := n.toNat_lt
  rw [hex64, strtoull_hexadecimal (by decide) (by norm_num; omega) hn, UInt64.ofNat_toNat]

/-- A prefix that is no longer than the front of a text is a prefix of that front. -/
lemma prefix_append_iff {p q v : Bytes} (h : p.length ≤ q.length) : p <+: q ++ v ↔ p <+: q := by
  rw [List.prefix_iff_eq_take, List.prefix_iff_eq_take, List.take_append_of_le_length h]

/-- Two texts that differ near the front are not prefixes of each other. -/
lemma not_prefix_append {p q v : Bytes} (n : ℕ) (hp : n ≤ p.length) (hq : n ≤ q.length)
    (h : p.take n ≠ q.take n) : ¬ p <+: q ++ v := by
  rintro ⟨rest, hrest⟩
  have htake := congrArg (List.take n) hrest
  rw [List.take_append_of_le_length hp, List.take_append_of_le_length hq] at htake
  exact h htake

lemma drop_front {q v : Bytes} {n : ℕ} (h : q.length = n) : (q ++ v).drop n = v := by
  rw [← h, List.drop_left]

lemma fieldLine_eq (name : String) (v : Bytes) : fieldLine name v = (ascii name ++ [EQ]) ++ v := by
  simp [fieldLine]

namespace ChunkedManifest

variable (m : ChunkedManifest)

lemma readLine_chunkCount (n : UInt32) :
    m.readLine (fieldLine "chunk_count" (showU32 n)) = { m with chunkCount := some n } := by
  have hn : n.toNat < 2 ^ 64 := lt_trans n.toNat_lt (by norm_num)
  rw [fieldLine_eq, readLine, if_pos ((prefix_append_iff (by decide)).mpr (by decide)),
    drop_front (by decide), showU32, strtoull_decimal hn]
  congr 2
  rw [← UInt32.toNat_inj, UInt64.toNat_toUInt32, UInt64.toNat_ofNat_of_lt' hn]
  exact Nat.mod_eq_of_lt n.toNat_lt

lemma readLine_chunkSize :
    m.readLine (fieldLine "chunk_size" (decimal chunkedBlockSize)) = { m with chunkSize := 1024 } := by
  rw [fieldLine_eq, readLine, if_neg (not_prefix_append 7 (by decide) (by decide) (by decide)),
    if_pos ((prefix_append_iff (by decide)).mpr (by decide)), drop_front (by decide),
    strtoull_decimal (by decide)]
  rfl

lemma readLine_totalLen (v : Bytes) : m.readLine (fieldLine "total_len" v) = m := by
  rw [fieldLine_eq, readLine, if_neg (not_prefix_append 1 (by decide) (by decide) (by decide)),
    if_neg (not_prefix_append 1 (by decide) (by decide) (by decide)),
    if_neg (not_prefix_append 7 (by decide) (by decide) (by decide))]

lemma readLine_totalChecksum (checksum : UInt64) :
    m.readLine (totalChecksumLine checksum) = { m with totalChecksum := some checksum } := by
  rw [totalChecksumLine, readLine,
    if_neg (not_prefix_append 1 (by decide) (by decide) (by decide)),
    if_neg (not_prefix_append 1 (by decide) (by decide) (by decide)),
    if_pos ((prefix_append_iff (by decide)).mpr (by decide)), drop_front (by decide),
    strtoull_hex64]

end ChunkedManifest

/-- The validator of chunked blocks reads what the writer put into the manifest. -/
lemma readChunkedManifest_chunkedManifest (count : UInt32) (len checksum : UInt64) :
    readChunkedManifest (chunkedManifest count len checksum) = ⟨some count, 1024, some checksum⟩ := by
  have hcount : count.toNat < 10 ^ 20 := lt_trans count.toNat_lt (by norm_num)
  have hlen : len.toNat < 10 ^ 20 := lt_trans len.toNat_lt (by norm_num)
  rw [readChunkedManifest, chunkedManifest, fileLines_unlines]
  · simp only [List.foldl_cons, List.foldl_nil, ChunkedManifest.readLine_chunkCount,
      ChunkedManifest.readLine_chunkSize, ChunkedManifest.readLine_totalLen,
      ChunkedManifest.readLine_totalChecksum]
  · simp only [List.forall_mem_cons, List.not_mem_nil, false_implies, implies_true, and_true]
    refine ⟨?_, ?_, ?_, lineFits_checksum checksum⟩
    · exact lineFits_field (by decide) hcount (by decide)
    · exact lineFits_field (by decide) (by norm_num [chunkedBlockSize]) (by decide)
    · exact lineFits_field (by decide) hlen (by decide)

/-- What a transport validator relies on: the two lines of the layout are lines, and no reader takes
one for another. -/
structure TransportLayout.Sound (l : TransportLayout) : Prop where
  backend : Plain l.backend ∧ l.backend.length < 159 ∧ NoTrailingCR l.backend
  transport : Plain l.transport ∧ l.transport.length < 159 ∧ NoTrailingCR l.transport
  apart : l.transport ≠ l.backend
  front : l.backend.take 2 = ascii "ba" ∧ l.transport.take 2 = ascii "tr"

lemma sound_loopbackLayout : loopbackLayout.Sound :=
  ⟨by decide, by decide, by decide, by decide⟩

lemma sound_tcpLayout : tcpLayout.Sound :=
  ⟨by decide, by decide, by decide, by decide⟩

namespace TransportLayout

variable {l : TransportLayout}

lemma Sound.ne_of_front (h : l.Sound) {line : Bytes} (hfront : line.take 2 ≠ ascii "ba" ∧
    line.take 2 ≠ ascii "tr") : line ≠ l.backend ∧ line ≠ l.transport := by
  constructor
  · rintro rfl
    exact hfront.1 h.front.1
  · rintro rfl
    exact hfront.2 h.front.2

/-- The transport validators read what the writers put into the manifest. -/
lemma Sound.readManifest_manifest (h : l.Sound) (len checksum : UInt64) :
    l.readManifest (l.manifest len checksum) = ⟨true, true, some checksum⟩ := by
  have hlen : len.toNat < 10 ^ 20 := lt_trans len.toNat_lt (by norm_num)
  have hpayload : ascii "payload=payload.block" ≠ l.backend ∧
      ascii "payload=payload.block" ≠ l.transport := h.ne_of_front (by decide)
  have htotal : fieldLine "total_len" (showU64 len) ≠ l.backend ∧
      fieldLine "total_len" (showU64 len) ≠ l.transport := by
    apply h.ne_of_front
    rw [fieldLine_eq, List.take_append_of_le_length (by decide)]
    decide
  have hsum : totalChecksumLine checksum ≠ l.backend ∧
      totalChecksumLine checksum ≠ l.transport := by
    apply h.ne_of_front
    rw [totalChecksumLine, List.take_append_of_le_length (by decide)]
    decide
  have hpayloadSum : ¬ ascii "total_checksum=0x" <+: ascii "payload=payload.block" := by decide
  have htotalSum : ¬ ascii "total_checksum=0x" <+: fieldLine "total_len" (showU64 len) := by
    rw [fieldLine_eq]
    exact not_prefix_append 7 (by decide) (by decide) (by decide)
  have hsumSum : ascii "total_checksum=0x" <+: totalChecksumLine checksum := List.prefix_append _ _
  have hvalue : strtoull 16 ((totalChecksumLine checksum).drop 17) = checksum := by
    rw [totalChecksumLine, drop_front (by decide), strtoull_hex64]
  rw [readManifest, manifest, fileLines_unlines]
  · simp only [List.foldl_cons, List.foldl_nil, TransportManifest.readLine, if_true,
      if_neg h.apart, if_neg hpayload.1, if_neg hpayload.2, if_neg htotal.1, if_neg htotal.2,
      if_neg hsum.1, if_neg hsum.2, if_neg hpayloadSum, if_neg htotalSum, if_pos hsumSum, hvalue]
  · simp only [List.forall_mem_cons, List.not_mem_nil, false_implies, implies_true, and_true]
    refine ⟨h.backend, h.transport, by decide, ?_, ?_⟩
    · exact lineFits_field (by decide) hlen (by decide)
    · have hline := lineFits_checksum checksum
      exact ⟨hline.1, lt_trans hline.2.1 (by norm_num), hline.2.2⟩

end TransportLayout

/-! ## Files are read back -/

@[simp] lemma FileTree.replace_self (t : FileTree) (path content : Bytes) :
    t.replace path content path = some content := if_pos rfl

lemma FileTree.replace_of_ne (t : FileTree) {path p : Bytes} (h : p ≠ path) (content : Bytes) :
    t.replace path content p = t p := if_neg h

lemma Storage.write_eq_some {st : Storage} {t t' : FileTree} {path content : Bytes}
    (h : st.write t path content = some t') : t' = t.replace path content := by
  unfold write at h
  split at h
  · exact (Option.some.inj h).symm
  · cases h

lemma joinPath_eq_some {cap : ℕ} {base name p : Bytes} (h : joinPath cap base name = some p) :
    base ≠ [] ∧ p = base ++ (if base.getLast? = some 47 then [] else [47]) ++ name := by
  unfold joinPath at h
  split at h
  · cases h
  rename_i hne
  rw [not_or] at hne
  refine ⟨hne.1, ?_⟩
  generalize (if base.getLast? = some 47 then [] else [47] : Bytes) = sep at h ⊢
  simp only at h
  split at h
  · exact (Option.some.inj h).symm
  · cases h

/-- Different names in a directory have different paths. -/
lemma joinPath_ne {cap : ℕ} {base m n p q : Bytes} (hp : joinPath cap base m = some p)
    (hq : joinPath cap base n = some q) (h : m ≠ n) : p ≠ q := by
  rw [(joinPath_eq_some hp).2, (joinPath_eq_some hq).2]
  exact fun heq => h (List.append_cancel_left heq)

lemma root_ne_nil_of_makeBlockPath {parent suffix : String} {root p : Bytes} {checksum : UInt64}
    (h : makeBlockPath parent suffix root checksum = some p) : root ≠ [] := by
  obtain ⟨dir, hdir, -⟩ := Option.bind_eq_some_iff.mp h
  exact (joinPath_eq_some hdir).1

lemma chunkName_ne {i j : UInt32} (h : i ≠ j) :
    padded 4 i.toNat ++ ascii ".chunk" ≠ padded 4 j.toNat ++ ascii ".chunk" := by
  intro heq
  exact h (UInt32.toNat_inj.mp (padded_injective 4 (List.append_cancel_right heq)))

lemma chunkName_ne_manifest (i : UInt32) :
    ascii "manifest.txt" ≠ padded 4 i.toNat ++ ascii ".chunk" := by
  intro heq
  have hlast := congrArg List.getLast? heq
  rw [List.getLast?_append_of_ne_nil _ (by decide)] at hlast
  exact absurd hlast (by decide)

namespace Storage

variable {st : Storage} {dir : Bytes}

/-- The chunk loop counts up by the number of chunks. -/
lemma writeChunks_index {cs : List Bytes} {index : UInt32} {t : FileTree}
    {out : FileTree × UInt32} (h : st.writeChunks dir index cs t = some out) :
    out.2 = index + UInt32.ofNat cs.length := by
  induction cs generalizing index t with
  | nil =>
      obtain rfl := Option.some.inj h
      simp
  | cons c cs ih =>
      obtain ⟨t₁, -, hrest⟩ := Option.bind_eq_some_iff.mp h
      rw [ih hrest, List.length_cons, UInt32.add_assoc, UInt32.ofNat_add, UInt32.add_comm 1]
      rfl

/-- A chunk file whose index the loop does not reach stays as it was. -/
lemma writeChunks_other {cs : List Bytes} {index : UInt32} {t : FileTree}
    {out : FileTree × UInt32} (h : st.writeChunks dir index cs t = some out) {i : UInt32}
    {path : Bytes} (hpath : makeChunkedBlockChunkPath dir i = some path)
    (hi : ∀ j < cs.length, i ≠ index + UInt32.ofNat j) : out.1 path = t path := by
  induction cs generalizing index t with
  | nil =>
      obtain rfl := Option.some.inj h
      rfl
  | cons c cs ih =>
      obtain ⟨t₁, hwrite, hrest⟩ := Option.bind_eq_some_iff.mp h
      obtain ⟨path₁, hpath₁, hwrite⟩ := Option.bind_eq_some_iff.mp hwrite
      obtain rfl := write_eq_some hwrite
      have hne : i ≠ index := by
        have := hi 0 (by simp)
        simpa using this
      rw [ih hrest ?_, FileTree.replace_of_ne]
      · exact joinPath_ne hpath hpath₁ (chunkName_ne hne)
      · intro j hj
        have := hi (j + 1) (by simpa using hj)
        rwa [UInt32.ofNat_add, UInt32.add_comm (UInt32.ofNat j), ← UInt32.add_assoc] at this

lemma readChunk_eq_ok {t : FileTree} {i : UInt32} {path bytes : Bytes}
    (hpath : makeChunkedBlockChunkPath dir i = some path) (h : t path = some bytes) :
    readChunk t dir i = .ok bytes := by
  simp [readChunk, hpath, h]

/-- Fewer than 2^32 chunks are all there, each under its own index. -/
lemma writeChunks_get {cs : List Bytes} (hlen : cs.length ≤ 2 ^ 32) {index : UInt32} {t : FileTree}
    {out : FileTree × UInt32} (h : st.writeChunks dir index cs t = some out) {j : ℕ}
    (hj : j < cs.length) : readChunk out.1 dir (index + UInt32.ofNat j) = .ok cs[j] := by
  induction cs generalizing index t j with
  | nil => cases hj
  | cons c cs ih =>
      obtain ⟨t₁, hwrite, hrest⟩ := Option.bind_eq_some_iff.mp h
      obtain ⟨path, hpath, hwrite⟩ := Option.bind_eq_some_iff.mp hwrite
      obtain rfl := write_eq_some hwrite
      rw [List.length_cons] at hlen hj
      cases j with
      | zero =>
          have hzero : index + UInt32.ofNat 0 = index := by simp
          rw [hzero]
          refine readChunk_eq_ok hpath ?_
          rw [writeChunks_other hrest hpath ?_]
          · exact FileTree.replace_self _ _ _
          · intro k hk heq
            have hk' : k < UInt32.size := show k < 2 ^ 32 by omega
            have hwrap := congrArg UInt32.toNat heq
            rw [UInt32.add_assoc, UInt32.add_comm 1, UInt32.toNat_add, UInt32.toNat_add,
              UInt32.toNat_ofNat_of_lt' hk'] at hwrap
            have hi := index.toNat_lt
            have hone : (1 : UInt32).toNat = 1 := rfl
            omega
      | succ j =>
          have hnext := ih (by omega) hrest (Nat.lt_of_succ_lt_succ hj)
          rw [UInt32.ofNat_add, UInt32.add_comm (UInt32.ofNat j), ← UInt32.add_assoc]
          exact hnext

/-- However many chunks there are, under each index the loop reaches there is one of them. -/
lemma writeChunks_covers {cs : List Bytes} {index : UInt32} {t : FileTree}
    {out : FileTree × UInt32} (h : st.writeChunks dir index cs t = some out) {j : ℕ}
    (hj : j < cs.length) : ∃ c ∈ cs, readChunk out.1 dir (index + UInt32.ofNat j) = .ok c := by
  induction cs generalizing index t j with
  | nil => cases hj
  | cons c cs ih =>
      obtain ⟨t₁, hwrite, hrest⟩ := Option.bind_eq_some_iff.mp h
      obtain ⟨path, hpath, hwrite⟩ := Option.bind_eq_some_iff.mp hwrite
      obtain rfl := write_eq_some hwrite
      cases j with
      | zero =>
          have hzero : index + UInt32.ofNat 0 = index := by simp
          rw [hzero]
          by_cases hagain : ∃ k < cs.length, index = index + 1 + UInt32.ofNat k
          · obtain ⟨k, hk, heq⟩ := hagain
            obtain ⟨c', hc', hread⟩ := ih hrest hk
            exact ⟨c', List.mem_cons_of_mem _ hc', heq ▸ hread⟩
          · refine ⟨c, List.mem_cons_self .., readChunk_eq_ok hpath ?_⟩
            rw [writeChunks_other hrest hpath fun k hk heq => hagain ⟨k, hk, heq⟩]
            exact FileTree.replace_self _ _ _
      | succ j =>
          obtain ⟨c', hc', hread⟩ := ih hrest (Nat.lt_of_succ_lt_succ hj)
          refine ⟨c', List.mem_cons_of_mem _ hc', ?_⟩
          rw [UInt32.ofNat_add, UInt32.add_comm (UInt32.ofNat j), ← UInt32.add_assoc]
          exact hread

end Storage

lemma mapM_eq_ok {α : Type} {g : α → Except WireStatus Bytes} {f : α → Bytes} {l : List α}
    (h : ∀ x ∈ l, g x = .ok (f x)) : l.mapM g = .ok (l.map f) := by
  induction l with
  | nil => rfl
  | cons x l ih =>
      rw [List.mapM_cons, h x (by simp), ih fun y hy => h y (by simp [hy])]
      rfl

lemma readChunks_eq_ok {t : FileTree} {dir : Bytes} {count : ℕ} {f : ℕ → Bytes}
    (h : ∀ i < count, readChunk t dir (UInt32.ofNat i) = .ok (f i)) :
    readChunks t dir count = .ok ((List.range count).map f).flatten := by
  rw [readChunks, mapM_eq_ok (f := f) fun i hi => h i (List.mem_range.mp hi)]
  rfl

lemma flatten_splitChunks (n : ℕ) (s : Bytes) (h : s.length ≤ n) :
    (splitChunks n s).flatten = s := by
  induction n generalizing s with
  | zero =>
      obtain rfl : s = [] := List.eq_nil_of_length_eq_zero (by omega)
      rfl
  | succ n ih =>
      unfold splitChunks
      split
      · rename_i hs
        rw [hs]
        rfl
      · rename_i hs
        have hpos : 0 < s.length := List.length_pos_iff.mpr hs
        rw [List.flatten_cons, ih _ (by rw [List.length_drop, chunkedBlockSize]; omega),
          List.take_append_drop]

lemma length_of_mem_splitChunks {n : ℕ} {s c : Bytes} (h : c ∈ splitChunks n s) :
    c.length ≤ 1024 := by
  induction n generalizing s with
  | zero => cases h
  | succ n ih =>
      unfold splitChunks at h
      split at h
      · cases h
      · rcases List.mem_cons.mp h with rfl | h
        · exact List.length_take_le _ _
        · exact ih h

/-! ## Each backend -/

/-- The record describes the bytes. -/
structure Describing (r : Record) (bytes : Bytes) : Prop where
  len : r.objectBackingLen = UInt64.ofNat bytes.length
  checksum : r.objectPayloadChecksum = checksumBytes bytes

lemma Describing.fits {r : Record} {bytes : Bytes} (h : Describing r bytes) :
    fits r bytes = true := by
  simp [MemService.fits, h.len, h.checksum]

section Backends

variable {st : Storage} {t t' : FileTree} {bytes : Bytes} {r : Record}

/-- The number of chunks the writer counts, before the counter wraps. -/
def numChunks (bytes : Bytes) : ℕ := (bytes.length + 1023) / 1024

lemma sealedLocalIntact_written (h : st.writeSealedLocal t bytes = some t')
    (hr : Describing r bytes) : sealedLocalIntact st.root t' r = true ∧
      (makePayloadBlockPath st.root r.objectPayloadChecksum).bind t' = some bytes := by
  obtain ⟨path, hpath, hwrite⟩ := Option.bind_eq_some_iff.mp h
  obtain rfl := Storage.write_eq_some hwrite
  have hread : (makePayloadBlockPath st.root r.objectPayloadChecksum).bind
      (t.replace path bytes) = some bytes := by
    rw [hr.checksum, hpath, Option.bind_some, FileTree.replace_self]
  refine ⟨?_, hread⟩
  rw [sealedLocalIntact, hread]
  exact hr.fits

lemma transportIntact_written {l : TransportLayout} (hl : l.Sound)
    (h : st.writeTransport l t bytes = some t') (hr : Describing r bytes) :
    transportIntact st.root t' r l = true ∧
      ((l.dirPath st.root r.objectPayloadChecksum).bind transportPayloadPath).bind t' =
        some bytes := by
  obtain ⟨dir, hdir, h⟩ := Option.bind_eq_some_iff.mp h
  obtain ⟨payload, hpayload, h⟩ := Option.bind_eq_some_iff.mp h
  obtain ⟨manifest, hmanifest, h⟩ := Option.bind_eq_some_iff.mp h
  obtain ⟨t₁, hwrite₁, hwrite₂⟩ := Option.bind_eq_some_iff.mp h
  obtain rfl := Storage.write_eq_some hwrite₁
  obtain rfl := Storage.write_eq_some hwrite₂
  have hne : payload ≠ manifest := joinPath_ne hpayload hmanifest (by decide)
  have hread : (transportPayloadPath dir).bind ((t.replace payload bytes).replace manifest
      (l.manifest (UInt64.ofNat bytes.length) (checksumBytes bytes))) = some bytes := by
    rw [hpayload, Option.bind_some, FileTree.replace_of_ne _ hne, FileTree.replace_self]
  rw [hr.checksum, hdir, Option.bind_some]
  refine ⟨?_, hread⟩
  rw [transportIntact, hr.checksum, hdir, Option.bind_some, hread, hmanifest, Option.bind_some,
    FileTree.replace_self, Option.map_some, hl.readManifest_manifest]
  simp [hr.fits]

/-- What a chunked write leaves: the manifest with the wrapped count, and a chunk under every index the
loop reached. -/
lemma writeChunked_eq_some (h : st.writeChunked t bytes = some t') :
    ∃ dir manifest, makeChunkedBlockDirPath st.root (checksumBytes bytes) = some dir ∧
      manifestPath dir = some manifest ∧
      t' manifest = some (chunkedManifest (UInt32.ofNat (numChunks bytes))
        (UInt64.ofNat bytes.length) (checksumBytes bytes)) ∧
      (∀ j < numChunks bytes, ∃ c, c.length ≤ 1024 ∧ readChunk t' dir (UInt32.ofNat j) = .ok c) ∧
      (numChunks bytes ≤ 2 ^ 32 → readChunks t' dir (numChunks bytes) = .ok bytes) := by
  obtain ⟨dir, hdir, h⟩ := Option.bind_eq_some_iff.mp h
  obtain ⟨written, hchunks, h⟩ := Option.bind_eq_some_iff.mp h
  obtain ⟨manifest, hmanifest, hwrite⟩ := Option.bind_eq_some_iff.mp h
  obtain rfl := Storage.write_eq_some hwrite
  have hlength : (splitChunks bytes.length bytes).length = numChunks bytes :=
    length_splitChunks _ bytes le_rfl
  have hcount : written.2 = UInt32.ofNat (numChunks bytes) := by
    rw [Storage.writeChunks_index hchunks, hlength, UInt32.zero_add]
  -- the manifest is none of the chunk files
  have hkeep : ∀ i bytes', readChunk written.1 dir i = .ok bytes' →
      readChunk (written.1.replace manifest (chunkedManifest written.2
        (UInt64.ofNat bytes.length) (checksumBytes bytes))) dir i = .ok bytes' := by
    intro i bytes' hread
    unfold readChunk at hread ⊢
    split at hread
    · cases hread
    · rename_i path hpath
      have hne : path ≠ manifest :=
        (joinPath_ne hmanifest hpath (chunkName_ne_manifest i)).symm
      simp only [FileTree.replace_of_ne _ hne]
      exact hread
  refine ⟨dir, manifest, hdir, hmanifest, ?_, ?_, ?_⟩
  · rw [FileTree.replace_self, hcount]
  · intro j hj
    obtain ⟨c, hc, hread⟩ := Storage.writeChunks_covers hchunks (hlength.symm ▸ hj)
    rw [UInt32.zero_add] at hread
    exact ⟨c, length_of_mem_splitChunks hc, hkeep _ _ hread⟩
  · intro hsmall
    have hget : ∀ i < numChunks bytes, readChunk (written.1.replace manifest (chunkedManifest
        written.2 (UInt64.ofNat bytes.length) (checksumBytes bytes))) dir (UInt32.ofNat i) =
        .ok ((splitChunks bytes.length bytes)[i]?.getD []) := by
      intro i hi
      have hi' : i < (splitChunks bytes.length bytes).length := hlength.symm ▸ hi
      have hread := Storage.writeChunks_get (hlength.symm ▸ hsmall) hchunks hi'
      rw [UInt32.zero_add] at hread
      rw [List.getElem?_eq_getElem hi', Option.getD_some]
      exact hkeep _ _ hread
    rw [readChunks_eq_ok hget, ← hlength]
    congr 1
    have hmap : (List.range (splitChunks bytes.length bytes).length).map
        (fun i => (splitChunks bytes.length bytes)[i]?.getD []) = splitChunks bytes.length bytes := by
      refine List.ext_getElem (by simp) fun i _ hi => ?_
      simp [List.getElem?_eq_getElem hi]
    rw [hmap, flatten_splitChunks _ _ le_rfl]

/-- **The chunked validator.**  It accepts what the writer left just when there is a chunk and the
number of chunks fits its counter. -/
lemma chunkedIntact_written_iff (h : st.writeChunked t bytes = some t') (hr : Describing r bytes)
    (hsize : bytes.length < 2 ^ 63) :
    chunkedIntact st.root t' r = true ↔ 0 < numChunks bytes ∧ numChunks bytes < 2 ^ 32 := by
  obtain ⟨dir, manifest, hdir, hmanifest, htext, hcovers, hall⟩ := writeChunked_eq_some h
  have hmod : (UInt32.ofNat (numChunks bytes)).toNat = numChunks bytes % 2 ^ 32 :=
    UInt32.toNat_ofNat
  have hzero : UInt32.ofNat (numChunks bytes) = 0 ↔ numChunks bytes % 2 ^ 32 = 0 := by
    rw [← UInt32.toNat_inj, hmod]
    rfl
  rw [chunkedIntact, hr.checksum, hdir, Option.bind_some, hmanifest, Option.bind_some, htext,
    Option.map_some, readChunkedManifest_chunkedManifest]
  simp only [Option.bind_some]
  by_cases hnone : numChunks bytes % 2 ^ 32 = 0
  · rw [if_pos (.inl (hzero.mpr hnone))]
    refine iff_of_false (by simp) fun hn => ?_
    rw [Nat.mod_eq_of_lt hn.2] at hnone
    omega
  · rw [if_neg (by
      rintro (hc | hc | hc)
      · exact hnone (hzero.mp hc)
      · exact absurd hc (by decide)
      · exact absurd hc (by decide)), hmod]
    by_cases hsmall : numChunks bytes < 2 ^ 32
    · rw [Nat.mod_eq_of_lt hsmall] at hnone ⊢
      rw [hall hsmall.le]
      refine iff_of_true ?_ ⟨Nat.pos_of_ne_zero hnone, hsmall⟩
      simp [Except.toOption, hr.fits]
    · refine iff_of_false ?_ fun hn => hsmall hn.2
      have hless : numChunks bytes % 2 ^ 32 + 1 ≤ numChunks bytes := by omega
      choose! f hf using hcovers
      have hread : ∀ i < numChunks bytes % 2 ^ 32, readChunk t' dir (UInt32.ofNat i) = .ok (f i) :=
        fun i hi => (hf i (by omega)).2
      rw [readChunks_eq_ok hread]
      simp only [Except.toOption, Option.map_some, Option.getD_some, Bool.and_eq_true, not_and]
      intro hfits
      exfalso
      -- the files the validator goes through are shorter than the payload
      have hshort : ((List.range (numChunks bytes % 2 ^ 32)).map f).flatten.length ≤
          1024 * (numChunks bytes % 2 ^ 32) := by
        rw [List.length_flatten, List.map_map]
        refine (List.sum_le_card_nsmul _ 1024 ?_).trans ?_
        · intro n hn
          obtain ⟨i, hi, rfl⟩ := List.mem_map.mp hn
          exact (hf i (by have := List.mem_range.mp hi; omega)).1
        · simp [Nat.mul_comm]
      have hlong : 1024 * (numChunks bytes % 2 ^ 32) < bytes.length := by
        unfold numChunks at *
        omega
      have hlen := hr.len
      simp only [fits, Bool.and_eq_true, beq_iff_eq, hlen] at hfits
      have heq := congrArg UInt64.toNat hfits.1
      rw [UInt64.toNat_ofNat_of_lt' (lt_of_le_of_lt hshort (lt_trans hlong
          (lt_trans hsize (by decide)))),
        UInt64.toNat_ofNat_of_lt' (lt_trans hsize (by decide))] at heq
      omega

/-- The materialize path finds the chunks of a chunked block by the length alone. -/
lemma materializeSource_chunked (h : st.writeChunked t bytes = some t') (hr : Describing r bytes)
    (hsize : bytes.length < 2 ^ 63) (hkind : r.objectPayloadKind = payloadKindSealedChunked)
    (hsmall : numChunks bytes < 2 ^ 32) : materializeSource st.root t' r = .ok bytes := by
  obtain ⟨dir, manifest, hdir, -, -, -, hall⟩ := writeChunked_eq_some h
  have hcount : ((r.objectBackingLen + 1023) / 1024).toUInt32.toNat = numChunks bytes := by
    have hchunks : ((r.objectBackingLen + 1023) / 1024).toNat = numChunks bytes := by
      rw [hr.len]
      exact chunkCount_ofNat hsize
    rw [UInt64.toNat_toUInt32, hchunks]
    exact Nat.mod_eq_of_lt hsmall
  rw [materializeSource, if_pos hkind, hr.checksum, hdir]
  simp only [hcount]
  exact hall hsmall.le

end Backends

/-! ## The round trip -/

/-- The payload is one a backend can give back: it has a checksum other than zero, and a chunked block
has a chunk and no more chunks than its 32-bit counter can count. -/
def BlockBackend.GivesBack (b : BlockBackend) (bytes : Bytes) : Prop :=
  checksumBytes bytes ≠ 0 ∧
    (b = .chunked → bytes ≠ [] ∧ bytes.length ≤ 1024 * (2 ^ 32 - 1))

/-- A destination can be materialized to: nothing is there, and the storage takes it and its temporary
file. -/
structure Storage.Free (st : Storage) (t : FileTree) (destination tail : Bytes) : Prop where
  named : destination ≠ []
  short : (destination ++ tail).length < 768
  tmpFree : t (destination ++ tail) = none
  tmpTaken : st.takes (destination ++ tail) = true
  free : t destination = none
  taken : st.takes destination = true

section RoundTrip

variable {st : Storage} {p : Payload} {b : BlockBackend} {bytes : Bytes} {next r : Record}
  {t t' : FileTree}

lemma isBlockKind_kind (b : BlockBackend) : isBlockKind b.kind = true := by
  cases b <;> rfl

lemma root_ne_nil_of_writeFiles (h : st.writeFiles b t bytes = some t') : st.root ≠ [] := by
  cases b <;> obtain ⟨path, hpath, -⟩ := Option.bind_eq_some_iff.mp h
  · exact root_ne_nil_of_makeBlockPath hpath
  · exact root_ne_nil_of_makeBlockPath hpath
  · exact root_ne_nil_of_makeBlockPath hpath
  · exact root_ne_nil_of_makeBlockPath hpath

/-- What each writer left passes its validator, the chunked one's on its condition. -/
lemma filesIntact_written_iff (h : st.writeFiles b t bytes = some t') (hr : Describing r bytes)
    (hkind : r.objectPayloadKind = b.kind) (hsize : bytes.length < 2 ^ 63) :
    filesIntact st.root t' r = true ↔
      (b = .chunked → bytes ≠ [] ∧ bytes.length ≤ 1024 * (2 ^ 32 - 1)) := by
  unfold filesIntact
  rw [hkind]
  cases b with
  | sealedLocal =>
      exact iff_of_true (sealedLocalIntact_written h hr).1 (by rintro ⟨⟩)
  | chunked =>
      rw [if_pos (by decide), chunkedIntact_written_iff h hr hsize, ← List.length_pos_iff]
      unfold numChunks
      constructor
      · rintro ⟨hpos, hlt⟩ -
        omega
      · intro hb
        obtain ⟨hpos, hle⟩ := hb rfl
        omega
  | loopback =>
      exact iff_of_true (transportIntact_written sound_loopbackLayout h hr).1 (by rintro ⟨⟩)
  | tcp =>
      exact iff_of_true (transportIntact_written sound_tcpLayout h hr).1 (by rintro ⟨⟩)

lemma validateBlockFiles_written_iff (h : st.writeFiles b t bytes = some t')
    (hr : Describing r bytes) (hkind : r.objectPayloadKind = b.kind)
    (hsize : bytes.length < 2 ^ 63) :
    validateBlockFiles st.root t' r = WireStatus.ok ↔ b.GivesBack bytes := by
  have hroot := root_ne_nil_of_writeFiles h
  have hintact := filesIntact_written_iff h hr hkind hsize
  rw [validateBlockFiles, hkind, isBlockKind_kind, if_pos rfl, hr.checksum,
    BlockBackend.GivesBack, ← hintact]
  by_cases hgood : checksumBytes bytes ≠ 0 ∧ filesIntact st.root t' r = true
  · rw [if_pos ⟨hroot, hgood⟩]
    exact iff_of_true rfl hgood
  · rw [if_neg fun hc => hgood hc.2]
    exact iff_of_false (by decide) hgood

lemma materializeSource_written (h : st.writeFiles b t bytes = some t') (hr : Describing r bytes)
    (hkind : r.objectPayloadKind = b.kind) (hsize : bytes.length < 2 ^ 63)
    (hback : b.GivesBack bytes) : materializeSource st.root t' r = .ok bytes := by
  cases b with
  | chunked =>
      refine materializeSource_chunked h hr hsize hkind ?_
      have := (hback.2 rfl).2
      unfold numChunks
      omega
  | sealedLocal =>
      have hread := (sealedLocalIntact_written h hr).2
      obtain ⟨path, hpath, hfile⟩ := Option.bind_eq_some_iff.mp hread
      rw [materializeSource, materializeSourcePath, hkind, if_neg (by decide),
        if_pos (by decide)]
      simp only [hpath, hfile]
  | loopback =>
      have hread := (transportIntact_written sound_loopbackLayout h hr).2
      obtain ⟨path, hpath, hfile⟩ := Option.bind_eq_some_iff.mp hread
      rw [materializeSource, materializeSourcePath, hkind, if_neg (by decide),
        if_neg (by decide), if_pos (by decide)]
      simp only [loopbackLayout] at hpath
      simp only [hpath, hfile]
  | tcp =>
      have hread := (transportIntact_written sound_tcpLayout h hr).2
      obtain ⟨path, hpath, hfile⟩ := Option.bind_eq_some_iff.mp hread
      rw [materializeSource, materializeSourcePath, hkind, if_neg (by decide),
        if_neg (by decide), if_neg (by decide), if_pos (by decide)]
      simp only [tcpLayout] at hpath
      simp only [hpath, hfile]

/-- **The round trip of the four block backends.**  After a payload was stored, its validator accepts
the block and materializing it to a free destination leaves the same bytes there just when the payload
has a checksum other than zero and, in a chunked block, at least one chunk and fewer than 2^32. -/
theorem block_roundTrip_iff (h : st.sealBlock p b (.ok bytes) next t = .ok (t', r))
    {destination tail : Bytes} (hfree : st.Free t' destination tail) :
    (validateBlockFiles st.root t' r = WireStatus.ok ∧
      (st.materialize t' r destination tail).2 = WireStatus.ok ∧
      (st.materialize t' r destination tail).1 destination = some bytes) ↔
      b.GivesBack bytes := by
  obtain ⟨bytes', hsource, hsize, hfiles, hrecord, -⟩ := Storage.sealBlock_ok h
  obtain rfl := Except.ok.inj hsource
  have hr : Describing r bytes := by
    rw [hrecord]
    exact ⟨rfl, rfl⟩
  have hkind : r.objectPayloadKind = b.kind := by rw [hrecord]
  have hvalid := validateBlockFiles_written_iff hfiles hr hkind hsize
  refine ⟨fun hback => hvalid.mp hback.1, fun hback => ⟨hvalid.mpr hback, ?_⟩⟩
  have hblock : recordHasPayloadBlock r = true := by
    rw [recordHasPayloadBlock, hkind, isBlockKind_kind, Bool.and_true, bne_iff_ne, hr.checksum]
    exact hback.1
  have hmaterialized : st.materialize t' r destination tail =
      (t'.replace destination bytes, WireStatus.ok) := by
    rw [Storage.materialize, if_neg hfree.named, if_neg (not_not.mpr (hvalid.mpr hback)), hblock,
      if_neg (by decide), if_neg (not_le.mpr hfree.short), hfree.tmpFree, if_neg (by decide),
      hfree.tmpTaken, if_neg (by decide), materializeSource_written hfiles hr hkind hsize hback]
    simp only [hr.fits, hfree.free, hfree.taken]
    rfl
  rw [hmaterialized]
  exact ⟨rfl, FileTree.replace_self _ _ _⟩

end RoundTrip

/-- A storage under `/s` that takes everything. -/
def Storage.plain : Storage := ⟨ascii "/s", true, fun _ => true⟩

/-- An empty storage. -/
def FileTree.empty : FileTree := fun _ => none

/-- A request that declares neither length nor checksum. -/
def Payload.undeclared : Payload := ⟨[], List.not_mem_nil, Nat.zero_le _⟩

theorem block_roundTrip_two_chunks : ∃ t' r,
    Storage.plain.sealBlock .undeclared .chunked (.ok (List.replicate 1025 7)) {}
      FileTree.empty = .ok (t', r) ∧
    validateBlockFiles Storage.plain.root t' r = WireStatus.ok ∧
    (Storage.plain.materialize t' r (ascii "/d") (ascii ".tmp.1.1")).2 = WireStatus.ok ∧
    (Storage.plain.materialize t' r (ascii "/d") (ascii ".tmp.1.1")).1 (ascii "/d") =
      some (List.replicate 1025 7) := by
  have hsome : (Storage.plain.sealBlock .undeclared .chunked (.ok (List.replicate 1025 7)) {}
      FileTree.empty).toOption.any (fun out => (out.1 (ascii "/d")).isNone &&
        (out.1 (ascii "/d" ++ ascii ".tmp.1.1")).isNone) = true := by
    decide +kernel
  cases h : Storage.plain.sealBlock .undeclared .chunked (.ok (List.replicate 1025 7)) {}
      FileTree.empty with
  | error s =>
      rw [h] at hsome
      cases hsome
  | ok out =>
      obtain ⟨t', r⟩ := out
      rw [h] at hsome
      simp only [Except.toOption, Option.any_some, Bool.and_eq_true,
        Option.isNone_iff_eq_none] at hsome
      exact ⟨t', r, rfl, (block_roundTrip_iff h
        ⟨by decide, by decide, hsome.2, rfl, hsome.1, rfl⟩).mpr
          ⟨by decide +kernel, fun _ => ⟨List.ne_nil_of_length_pos (by rw [List.length_replicate]; decide),
            by rw [List.length_replicate]; norm_num⟩⟩⟩

/-- An empty payload is stored in a chunked block, and the block does not pass its validation. -/
theorem empty_chunked_refused :
    ¬ ∀ (st : Storage) (p : Payload) (b : BlockBackend) (bytes : Bytes) (next r : Record)
      (t t' : FileTree), st.sealBlock p b (.ok bytes) next t = .ok (t', r) →
        validateBlockFiles st.root t' r = WireStatus.ok := by
  intro hall
  have hbad : (Storage.plain.sealBlock .undeclared .chunked (.ok []) {}
      FileTree.empty).toOption.any (fun out =>
        validateBlockFiles Storage.plain.root out.1 out.2 != WireStatus.ok) = true := by
    decide +kernel
  cases h : Storage.plain.sealBlock .undeclared .chunked (.ok []) {}
      FileTree.empty with
  | error s =>
      rw [h] at hbad
      cases hbad
  | ok out =>
      rw [h] at hbad
      have hvalid := hall Storage.plain .undeclared .chunked [] {} out.2
        FileTree.empty out.1 h
      simp [Except.toOption, hvalid] at hbad

end MemService
