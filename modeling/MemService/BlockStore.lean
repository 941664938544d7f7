import MemService.Coherence

/-!
# The block store

Payload blocks live in files under the storage root, one block for each payload kind and checksum.
Records refer to a block by these two values, so any number of records may share one, and a record
may name a block it never stored.

`BlockFiles` are the files of one block: the parts (one payload file, or the chunk files of a chunked
block) and the manifest.  Writing a block replaces its parts; a failed validation renames the whole block
into the quarantine directory, which takes it out of the store; and a retention pass removes the block of
a record it deletes unless another record in the table refers to it.

A block has one name in the quarantine directory, as long as the process lives.  A file is renamed over
the one that was moved there before, but a directory is not renamed over one with files in it: the
second time the block stays where it is.

A `World` is a daemon with its block store.  Its step is the daemon's own step, in an environment that
says of the block a request looks at what the store says.  What a block write that fails half way
leaves under its name is part of the input; every other file operation does what it is asked to.
-/

open ByteText CNumeral

namespace MemService

/-! ## Blocks -/

/-- The name of a block: the directory and suffix follow from the payload kind. -/
structure BlockId where
  kind : UInt32
  checksum : UInt64
  deriving DecidableEq

/-- The block a record refers to. -/
def Record.blockId (r : Record) : BlockId := ⟨r.objectPayloadKind, r.objectPayloadChecksum⟩

/-- What validation reads from a manifest; a transport block has no chunk count. -/
structure Manifest where
  chunkCount : UInt32
  totalChecksum : UInt64
  deriving DecidableEq

/-- The files of a stored block; a part that is not there is `none`. -/
structure BlockFiles where
  parts : List (Option Bytes)
  manifest : Option Manifest
  deriving DecidableEq

/-- The blocks of a directory. -/
abbrev BlockStore := BlockId → Option BlockFiles

/-- `MEM_SERVICE_CHUNKED_BLOCK_SIZE`. -/
def chunkedBlockSize : ℕ := 1024

/-- The chunks of a payload, with a bound on their number. -/
def splitChunks : ℕ → Bytes → List Bytes
  | 0, _ => []
  | n + 1, s => if s = [] then [] else s.take chunkedBlockSize :: splitChunks n (s.drop chunkedBlockSize)

/-- The number of chunks a length calls for, in 64-bit arithmetic. -/
def chunkCount (len : UInt64) : ℕ := ((len + 1023) / 1024).toNat

namespace BlockFiles

/-- The bytes validation reads through, if the files it looks for are there. -/
def contents (kind : UInt32) (f : BlockFiles) : Option Bytes :=
  if kind = payloadKindSealedChunked then
    f.manifest.bind fun m =>
      if m.chunkCount = 0 then none
      else ((List.range m.chunkCount.toNat).mapM fun i => (f.parts[i]?).join).map List.flatten
  else (f.parts[0]?).join

/-- The manifest, where the kind has one, names the checksum. -/
def manifestNames (kind : UInt32) (checksum : UInt64) (f : BlockFiles) : Bool :=
  kind == payloadKindSealedLocal || f.manifest.any fun m => m.totalChecksum == checksum

/-- The four validators: the block has the length and the checksum of the record. -/
def intactFor (r : Record) (f : BlockFiles) : Bool :=
  f.manifestNames r.objectPayloadKind r.objectPayloadChecksum &&
    (f.contents r.objectPayloadKind).any fun bytes =>
      UInt64.ofNat bytes.length == r.objectBackingLen &&
        checksumBytes bytes == r.objectPayloadChecksum

/-- A directory without files. -/
def isEmpty (f : BlockFiles) : Bool := f.parts.all Option.isNone && f.manifest.isNone

/-- The files the four writers leave.  Chunk files are replaced one by one, so those beyond the last
chunk stay. -/
def written (kind : UInt32) (bytes : Bytes) (old : Option BlockFiles) : BlockFiles :=
  if kind = payloadKindSealedChunked then
    let chunks := splitChunks bytes.length bytes
    { parts := chunks.map some ++ (old.elim [] BlockFiles.parts).drop chunks.length
      manifest := some ⟨UInt32.ofNat chunks.length, checksumBytes bytes⟩ }
  else
    { parts := [some bytes]
      manifest := if kind = payloadKindSealedLocal then none else some ⟨0, checksumBytes bytes⟩ }

/-- What removing the block of a record leaves.  The chunk files of a chunked block are removed by the
number of chunks the record's length calls for, and the directory goes only when it is empty. -/
def removed (kind : UInt32) (len : UInt64) (f : BlockFiles) : Option BlockFiles :=
  if kind = payloadKindSealedChunked then
    let parts := f.parts.mapIdx fun i b => if i < chunkCount len ∧ i < 2 ^ 32 then none else b
    let manifest := if chunkCount len > 2 ^ 32 then f.manifest else none
    if parts.all Option.isNone ∧ manifest = none then none else some ⟨parts, manifest⟩
  else none

end BlockFiles

/-- Put files under a name, or take them away. -/
def BlockStore.set (blocks : BlockStore) (id : BlockId) (files : Option BlockFiles) : BlockStore :=
  fun id' => if id' = id then files else blocks id'

@[simp] lemma BlockStore.set_self (blocks : BlockStore) (id : BlockId) (files : Option BlockFiles) :
    blocks.set id files id = files := if_pos rfl

lemma BlockStore.set_of_ne (blocks : BlockStore) {id id' : BlockId} (h : id' ≠ id)
    (files : Option BlockFiles) : blocks.set id files id' = blocks id' := if_neg h

/-! ## Reads -/

/-- The record whose block a request validates, once its other checks have passed. -/
def validatedRecord (svc : Service) (req : Request) : Option Record :=
  let p := req.payload
  let query := fun kind => (p.getString "key" 96).bind fun key =>
    (findKind svc key kind).filter fun r =>
      !svc.enforceExpectedContext || expectedContextStatus p r == WireStatus.ok
  match WireOperation.ofCode req.operation with
  | some .getObject => (p.getString "key" 96).bind fun key => findKind svc key RecordKind.kvcacheObject
  | some .inspectObject =>
      (p.getString "key" 96).bind fun key => findKind svc key RecordKind.kvcacheObject
  | some .materializeObject =>
      (p.getString "key" 96).bind fun key =>
        (p.getString "destination_path" 512).bind fun _ =>
          (findKind svc key RecordKind.kvcacheObject).filter fun r =>
            !(p.getU64Checked "expected_version").any (r.version != ·) &&
              !(p.getU64Checked "expected_checksum").any (r.objectPayloadChecksum != ·)
  | some .resolveRuntimeHandoff => query RecordKind.runtimeHandoff
  | some .queryExecutionArtifact => query RecordKind.executionArtifact
  | some .queryTrainingArtifact => query RecordKind.trainingArtifact
  | _ => none

/-- The files of a record's block pass its validation. -/
def BlockStore.intact (blocks : BlockStore) (r : Record) : Bool :=
  (blocks r.blockId).any (BlockFiles.intactFor r)

/-- `mem_service_validate_payload_block` fails and puts the block in quarantine.  Only the validator of
sealed local blocks leaves the store alone when the checksum is zero. -/
def BlockStore.rejects (blocks : BlockStore) (storageRoot : Bool) (r : Record) : Bool :=
  storageRoot && isBlockKind r.objectPayloadKind && !(r.objectPayloadChecksum != 0 && blocks.intact r) &&
    !(r.objectPayloadKind == payloadKindSealedLocal && r.objectPayloadChecksum == 0)

/-- The rename of a block into the quarantine directory succeeds: a file may replace a file, but a
directory only an empty one. -/
def BlockStore.admits (quarantine : BlockStore) (id : BlockId) : Bool :=
  id.kind == payloadKindSealedLocal || (quarantine id).all BlockFiles.isEmpty

/-- The block store after the validation of a record's block: the result of the rename is not looked
at. -/
def BlockStore.validated (blocks quarantine : BlockStore) (storageRoot : Bool) (r : Record) :
    BlockStore :=
  if blocks.rejects storageRoot r && quarantine.admits r.blockId then blocks.set r.blockId none
  else blocks

/-- The quarantine directory after it. -/
def BlockStore.quarantined (blocks quarantine : BlockStore) (storageRoot : Bool) (r : Record) :
    BlockStore :=
  if blocks.rejects storageRoot r && quarantine.admits r.blockId then
    quarantine.set r.blockId ((blocks r.blockId).or (quarantine r.blockId))
  else quarantine

/-! ## Writes -/

/-- The bytes behind a request, if it carries a payload. -/
def Payload.ingested (p : Payload) (env : Env) : Option Bytes :=
  match p.getString "payload_inline" 1024, p.getString "payload_path" 512 with
  | some bytes, _ => some bytes
  | none, some _ => env.payloadSource.toOption
  | none, none => none

/-- The block store after the block write of a request that assembles its record by `assemble`.  A
request that is refused before its block is stored leaves the store alone; `residue` is what a write
that fails later leaves. -/
def BlockStore.ingest (blocks : BlockStore) (env : Env) (p : Payload)
    (assemble : Env → Except WireStatus Record) (residue : Option BlockFiles) : BlockStore :=
  match assemble { env with blockWrite := .done } with
  | .error _ => blocks
  | .ok next =>
      if next.objectBackend.kind = objectBackendUbSsdGsva then blocks
      else
        match p.ingested env with
        | none => blocks
        | some bytes =>
            match env.blockWrite with
            | .done =>
                blocks.set next.blockId
                  (some (.written next.objectPayloadKind bytes (blocks next.blockId)))
            | .failedEarly _ => blocks
            | .failedLate _ => blocks.set next.blockId residue

/-- The block store after the operation of a request. -/
def dispatchBlocks (env : Env) (storageRoot : Bool) (svc : Service) (req : Request)
    (residue : Option BlockFiles) (quarantine blocks : BlockStore) : BlockStore :=
  let p := req.payload
  let artifact := fun kind =>
    match p.getField "key" 96 with
    | none => blocks
    | some key =>
        blocks.ingest env p
          (fun env => artifactRecord env storageRoot p kind key (svc.findRecord key.bytes)) residue
  match WireOperation.ofCode req.operation with
  | some .putObject =>
      match p.getField "key" 96 with
      | none => blocks
      | some key => blocks.ingest env p (fun env => objectRecord env storageRoot p key) residue
  | some .publishRuntimeHandoff => artifact RecordKind.runtimeHandoff
  | some .registerExecutionArtifact => artifact RecordKind.executionArtifact
  | some .registerTrainingArtifact => artifact RecordKind.trainingArtifact
  | _ =>
      match validatedRecord svc req with
      | none => blocks
      | some r => blocks.validated quarantine storageRoot r

/-! ## Garbage collection -/

/-- `mem_service_record_has_payload_block`. -/
def recordHasPayloadBlock (r : Record) : Bool :=
  r.objectPayloadChecksum != 0 && isBlockKind r.objectPayloadKind

/-- `mem_service_payload_block_is_referenced`: by a record in another slot. -/
def payloadBlockIsReferenced (svc : Service) (r : Record) (skipIndex : ℕ) : Bool :=
  recordHasPayloadBlock r &&
    (svc.records.indexedFrom 0).any fun s => s.1 != skipIndex && s.2.blockId == r.blockId

/-- `mem_service_gc_payload_block_if_orphaned`. -/
def gcPayloadBlockIfOrphaned (storageRoot : Bool) (svc : Service) (i : ℕ) (r : Record)
    (blocks : BlockStore) : BlockStore :=
  if !storageRoot || !recordHasPayloadBlock r || payloadBlockIsReferenced svc r i then blocks
  else
    blocks.set r.blockId
      ((blocks r.blockId).bind (BlockFiles.removed r.objectPayloadKind r.objectBackingLen))

/-- A service with its block store. -/
structure Held where
  svc : Service
  blocks : BlockStore

namespace Held

variable (storageRoot : Bool)

/-- One deletion of the retention loops: the block first, while the record is still in its slot. -/
def deleteRecord (h : Held) (i : ℕ) (r : Record) : Held :=
  ⟨h.svc.deleteRecord i r, gcPayloadBlockIfOrphaned storageRoot h.svc i r h.blocks⟩

@[inherit_doc Service.pruneOldest]
def pruneOldest (select : Record → Bool) (count : Service → ℕ) (limit : ℕ) : ℕ → Held → Held
  | 0, h => h
  | turns + 1, h =>
      if count h.svc > limit then
        match h.svc.findOldest select with
        | none => h
        | some (i, r) => pruneOldest select count limit turns (h.deleteRecord storageRoot i r)
      else h

/-- `mem_service_apply_checkpoint_retention`. -/
def applyCheckpointRetention (h : Held) (maxCheckpoints : UInt64) : Held :=
  if maxCheckpoints = 0 then h
  else
    h.pruneOldest storageRoot Service.isCheckpoint
      (fun s => s.records.entries.countP Service.isCheckpoint) maxCheckpoints.toNat
      h.svc.records.count

@[inherit_doc Service.pruneExpired]
def pruneExpired (limits : DaemonLimits) (nowMs : UInt64) (h : Held) : Held :=
  ((h.svc.records.indexedFrom 0).filter fun s => Service.expired limits nowMs s.2).foldl
    (fun h s => h.deleteRecord storageRoot s.1 s.2) h

/-- `mem_service_apply_record_retention`. -/
def applyRecordRetention (h : Held) (limits : DaemonLimits) (nowMs : UInt64) : Held :=
  let counted :=
    if limits.maxRetainedRecords = 0 then h
    else
      h.pruneOldest storageRoot (Service.matchesRetentionKind limits) (Service.countRetained limits)
        limits.maxRetainedRecords.toNat h.svc.records.count
  if limits.maxRetainedRecordAgeMs = 0 then counted
  else counted.pruneExpired storageRoot limits nowMs

end Held

/-! ## The passes are those of the service -/

namespace Held

variable (storageRoot : Bool)

lemma svc_pruneOldest (select : Record → Bool) (count : Service → ℕ) (limit turns : ℕ) (h : Held) :
    (h.pruneOldest storageRoot select count limit turns).svc =
      (Service.pruneOldest select count limit turns h.svc).1 := by
  induction turns generalizing h with
  | zero => rfl
  | succ turns ih =>
      unfold pruneOldest Service.pruneOldest
      split
      · cases h.svc.findOldest select with
        | none => rfl
        | some s => exact ih _
      · rfl

lemma svc_applyCheckpointRetention (h : Held) (maxCheckpoints : UInt64) :
    (h.applyCheckpointRetention storageRoot maxCheckpoints).svc =
      (h.svc.applyCheckpointRetention maxCheckpoints).1 := by
  unfold applyCheckpointRetention Service.applyCheckpointRetention
  split
  · rfl
  · exact svc_pruneOldest storageRoot _ _ _ _ h

lemma svc_pruneExpired (limits : DaemonLimits) (nowMs : UInt64) (h : Held) :
    (h.pruneExpired storageRoot limits nowMs).svc =
      (Service.pruneExpired limits nowMs h.svc).1 := by
  have hfold : ∀ (l : List (ℕ × Record)) (h : Held),
      (l.foldl (fun h s => h.deleteRecord storageRoot s.1 s.2) h).svc =
        l.foldl (fun svc s => svc.deleteRecord s.1 s.2) h.svc := by
    intro l
    induction l with
    | nil => exact fun _ => rfl
    | cons s l ih => exact fun h => ih _
  exact hfold _ h

lemma svc_applyRecordRetention (h : Held) (limits : DaemonLimits) (nowMs : UInt64) :
    (h.applyRecordRetention storageRoot limits nowMs).svc =
      (h.svc.applyRecordRetention limits nowMs).1 := by
  have hcounted : (if limits.maxRetainedRecords = 0 then h
      else h.pruneOldest storageRoot (Service.matchesRetentionKind limits)
        (Service.countRetained limits) limits.maxRetainedRecords.toNat h.svc.records.count).svc =
      (if limits.maxRetainedRecords = 0 then (h.svc, false)
        else Service.pruneOldest (Service.matchesRetentionKind limits)
          (Service.countRetained limits) limits.maxRetainedRecords.toNat h.svc.records.count
          h.svc).1 := by
    split
    · rfl
    · exact svc_pruneOldest storageRoot _ _ _ _ h
  unfold applyRecordRetention Service.applyRecordRetention
  dsimp only
  split
  · exact hcounted
  · rw [svc_pruneExpired, hcounted]

end Held

/-! ## Worlds -/

/-- A daemon with its block store and its quarantine directory. -/
structure World where
  daemon : Daemon
  blocks : BlockStore
  quarantine : BlockStore

/-- What happens to a world: a request, with what a block write that fails half way leaves; or the
retention passes a daemon makes when it starts. -/
inductive Input
  | request (st : Step) (residue : Option BlockFiles)
  | retention (limits : DaemonLimits) (nowMs : UInt64)

/-- The step a request makes in a world: the block it validates is what the store says. -/
def World.seen (w : World) (st : Step) : Step :=
  { st with env := { st.env with
      blockIntact := (validatedRecord w.daemon.state.svc st.req).elim st.env.blockIntact w.blocks.intact } }

/-- The answer to a request. -/
def World.answer (cfg : Config) (w : World) (st : Step) : Reply := w.daemon.answer cfg (w.seen st)

/-- The request is dispatched: no stored answer decides it, and the quota admits it. -/
def World.executes (cfg : Config) (w : World) (req : Request) : Bool :=
  match tryIdempotencyReplay w.daemon.state.svc req.operation req.payload with
  | .handled _ => false
  | .execute _ =>
      !quotaRefuses w.daemon.state.svc cfg.limits
        (estimateNewRecordCount w.daemon.state.svc req.payload req.operation)

/-- The blocks when the operation of an input is done and no block has been collected. -/
def World.stored (cfg : Config) (w : World) : Input → BlockStore
  | .request st residue =>
      if w.executes cfg st.req then
        dispatchBlocks st.env cfg.storageRoot w.daemon.state.svc st.req residue w.quarantine w.blocks
      else w.blocks
  | .retention _ _ => w.blocks

/-- The quarantine directory after a request. -/
def World.requestQuarantine (cfg : Config) (w : World) (st : Step) : BlockStore :=
  if w.executes cfg st.req then
    (validatedRecord w.daemon.state.svc st.req).elim w.quarantine
      (w.blocks.quarantined w.quarantine cfg.storageRoot)
  else w.quarantine

/-- The service when the operation of a request is done and no record has been deleted. -/
def World.dispatched (cfg : Config) (w : World) (st : Step) : ServiceState × Reply :=
  dispatchOperation (w.seen st).env cfg.storageRoot w.daemon.state st.req.operation st.req.payload

/-- The retention passes of a request that was executed, with their collection. -/
def World.retained (cfg : Config) (w : World) (st : Step) (h : Held) : Held :=
  match cfg.limits with
  | none => h
  | some limits =>
      let checkpoint :=
        if (w.dispatched cfg st).2.status = WireStatus.ok ∧
            st.req.operation = WireOperation.registerTrainingArtifact.code then
          h.applyCheckpointRetention cfg.storageRoot limits.maxCheckpointRecords
        else h
      if (w.dispatched cfg st).2.status = WireStatus.ok ∧
          operationMutates st.req.operation st.req.payload then
        checkpoint.applyRecordRetention cfg.storageRoot limits st.env.retentionNowMs
      else checkpoint

/-- The blocks after a request. -/
def World.requestBlocks (cfg : Config) (w : World) (st : Step) (residue : Option BlockFiles) :
    BlockStore :=
  if w.executes cfg st.req then
    (w.retained cfg st ⟨(w.dispatched cfg st).1.svc, w.stored cfg (.request st residue)⟩).blocks
  else w.blocks

/-- The passes at the start, with their collection. -/
def Held.startRetention (storageRoot : Bool) (h : Held) (limits : DaemonLimits) (nowMs : UInt64) :
    Held :=
  ((⟨(h.svc.applyAuditRetention limits.maxAuditEvents).1, h.blocks⟩ : Held).applyCheckpointRetention
    storageRoot limits.maxCheckpointRecords).applyRecordRetention storageRoot limits nowMs

/-- The world after an input. -/
def World.step (cfg : Config) (w : World) : Input → World
  | .request st residue =>
      ⟨w.daemon.step cfg (w.seen st), w.requestBlocks cfg st residue, w.requestQuarantine cfg st⟩
  | .retention limits nowMs =>
      ⟨w.daemon.startRetention cfg limits nowMs,
        (Held.startRetention cfg.storageRoot ⟨w.daemon.state.svc, w.blocks⟩ limits nowMs).blocks,
        w.quarantine⟩

/-- The world after several inputs. -/
def World.run (cfg : Config) (w : World) (is : List Input) : World := Run.run (World.step cfg) w is

/-- A daemon that was started without files and without blocks. -/
def World.fresh : World := ⟨Daemon.fresh, fun _ => none, fun _ => none⟩

/-! ## What an input does -/

/-- `h'` comes from `h` by deletions of records that were there, with their collection. -/
inductive Held.Collected (storageRoot : Bool) (h : Held) : Held → Prop
  | refl : Held.Collected storageRoot h h
  | delete {h' : Held} {i : ℕ} {r : Record} (hc : Held.Collected storageRoot h h')
      (hget : h'.svc.records.get i = some r) :
      Held.Collected storageRoot h (h'.deleteRecord storageRoot i r)

namespace Held.Collected

variable {storageRoot : Bool} {h h₁ h₂ : Held}

lemma trans (hc : Collected storageRoot h h₁) (hc' : Collected storageRoot h₁ h₂) :
    Collected storageRoot h h₂ := by
  induction hc' with
  | refl => exact hc
  | delete _ hget ih => exact ih.delete hget

lemma pruneOldest (select : Record → Bool) (count : Service → ℕ) (limit turns : ℕ) (h : Held) :
    Collected storageRoot h (h.pruneOldest storageRoot select count limit turns) := by
  induction turns generalizing h with
  | zero => exact .refl
  | succ turns ih =>
      unfold Held.pruneOldest
      split
      · cases hold : h.svc.findOldest select with
        | none => exact .refl
        | some s => exact trans (.delete .refl (Service.findOldest_get hold)) (ih _)
      · exact .refl

lemma applyCheckpointRetention (h : Held) (maxCheckpoints : UInt64) :
    Collected storageRoot h (h.applyCheckpointRetention storageRoot maxCheckpoints) := by
  unfold Held.applyCheckpointRetention
  split
  · exact .refl
  · exact pruneOldest _ _ _ _ h

lemma deleteAll {l : List (ℕ × Record)} (hdistinct : l.Pairwise fun s u => s.1 ≠ u.1)
    (hl : ∀ s ∈ l, h.svc.records.get s.1 = some s.2) :
    Collected storageRoot h (l.foldl (fun h s => h.deleteRecord storageRoot s.1 s.2) h) := by
  induction l generalizing h with
  | nil => exact .refl
  | cons a l ih =>
      obtain ⟨ha, hdistinct⟩ := List.pairwise_cons.mp hdistinct
      refine trans (.delete .refl (hl a (by simp))) (ih hdistinct fun s hs => ?_)
      show (h.svc.deleteRecord a.1 a.2).records.get s.1 = some s.2
      rw [Service.records_deleteRecord, SlotTable.get_clear, if_neg (Ne.symm (ha s hs))]
      exact hl s (by simp [hs])

lemma applyRecordRetention (h : Held) (limits : DaemonLimits) (nowMs : UInt64) :
    Collected storageRoot h (h.applyRecordRetention storageRoot limits nowMs) := by
  have hcounted : Collected storageRoot h (if limits.maxRetainedRecords = 0 then h
      else h.pruneOldest storageRoot (Service.matchesRetentionKind limits)
        (Service.countRetained limits) limits.maxRetainedRecords.toNat h.svc.records.count) := by
    split
    · exact .refl
    · exact pruneOldest _ _ _ _ h
  unfold Held.applyRecordRetention
  dsimp only
  split
  · exact hcounted
  · refine trans hcounted (deleteAll ((SlotTable.pairwise_indexedFrom _ 0).filter _) ?_)
    exact fun s hs => SlotTable.get_of_mem_indexedFrom (List.mem_of_mem_filter hs)

end Held.Collected

namespace World

variable {cfg : Config} {w : World} {st : Step} {residue : Option BlockFiles}

lemma executes_iff {req : Request} :
    w.executes cfg req = true ↔ Executes cfg w.daemon.state.svc req := by
  unfold executes Executes
  cases tryIdempotencyReplay w.daemon.state.svc req.operation req.payload with
  | handled _ => simp
  | execute pending => simp

/-- A request that is not executed touches neither records nor blocks. -/
lemma step_of_not_executes (hex : ¬ Executes cfg w.daemon.state.svc st.req) :
    SameRecords w.daemon.state.svc (w.step cfg (.request st residue)).daemon.state.svc ∧
      (w.step cfg (.request st residue)).blocks = w.blocks ∧
      w.stored cfg (.request st residue) = w.blocks := by
  have hno : ¬ w.executes cfg st.req = true := fun h => hex (executes_iff.mp h)
  exact ⟨@sameRecords_of_not_executes cfg w.daemon (w.seen st) hex, if_neg hno, if_neg hno⟩

/-- The retention passes of the request do to the service what the daemon's do. -/
lemma svc_retained (blocks : BlockStore) :
    (w.retained cfg st ⟨(w.dispatched cfg st).1.svc, blocks⟩).svc =
      (executeOperation cfg (w.seen st).env w.daemon.state st.req).1.svc := by
  unfold retained executeOperation dispatched
  cases cfg.limits with
  | none => rfl
  | some limits =>
      dsimp only
      split
      · rw [Held.svc_applyRecordRetention]
        split
        · rw [Held.svc_applyCheckpointRetention]
          rfl
        · rfl
      · split
        · rw [Held.svc_applyCheckpointRetention]
        · rfl

lemma collected_retained (h : Held) :
    Held.Collected cfg.storageRoot h (w.retained cfg st h) := by
  unfold retained
  cases cfg.limits with
  | none => exact .refl
  | some limits =>
      have hcheckpoint : Held.Collected cfg.storageRoot h
          (if (w.dispatched cfg st).2.status = WireStatus.ok ∧
              st.req.operation = WireOperation.registerTrainingArtifact.code then
            h.applyCheckpointRetention cfg.storageRoot limits.maxCheckpointRecords
          else h) := by
        split
        · exact .applyCheckpointRetention h _
        · exact .refl
      dsimp only
      split
      · exact hcheckpoint.trans (.applyRecordRetention _ _ _)
      · exact hcheckpoint

/-- A request that is executed: the operation, then its retention passes. -/
lemma step_eq_of_executes (hex : Executes cfg w.daemon.state.svc st.req) :
    SameRecords (w.retained cfg st ⟨(w.dispatched cfg st).1.svc,
        w.stored cfg (.request st residue)⟩).svc
      (w.step cfg (.request st residue)).daemon.state.svc ∧
    (w.step cfg (.request st residue)).blocks =
      (w.retained cfg st ⟨(w.dispatched cfg st).1.svc, w.stored cfg (.request st residue)⟩).blocks ∧
    w.stored cfg (.request st residue) =
      dispatchBlocks st.env cfg.storageRoot w.daemon.state.svc st.req residue w.quarantine w.blocks := by
  have hyes := executes_iff.mpr hex
  refine ⟨?_, if_pos hyes, if_pos hyes⟩
  rw [svc_retained]
  obtain ⟨⟨pending, hexec⟩, hq⟩ := hex
  have hrecords := w.daemon.step_records cfg (w.seen st)
  have hanswer : (answerRequest cfg (w.seen st).env w.daemon.state st.req).state.svc =
      (executeOperation cfg (w.seen st).env w.daemon.state st.req).1.svc.complete pending st.req
        (executeOperation cfg (w.seen st).env w.daemon.state st.req).2.1 := by
    simp only [answerRequest, hexec, hq, Bool.false_eq_true, if_false]
  exact SameRecords.trans (hanswer ▸ records_complete _ _ _ _) hrecords

/-- The passes are deletions with their collection. -/
lemma step_of_executes (hex : Executes cfg w.daemon.state.svc st.req) :
    ∃ h, Held.Collected cfg.storageRoot ⟨(w.dispatched cfg st).1.svc,
        w.stored cfg (.request st residue)⟩ h ∧
      SameRecords h.svc (w.step cfg (.request st residue)).daemon.state.svc ∧
      (w.step cfg (.request st residue)).blocks = h.blocks := by
  obtain ⟨hsame, hblocks, -⟩ := @step_eq_of_executes cfg w st residue hex
  exact ⟨_, collected_retained _, hsame, hblocks⟩

/-- The passes at the start: deletions with their collection. -/
lemma step_retention (limits : DaemonLimits) (nowMs : UInt64) :
    ∃ h, Held.Collected cfg.storageRoot
        ⟨(w.daemon.state.svc.applyAuditRetention limits.maxAuditEvents).1, w.blocks⟩ h ∧
      h.svc = (w.step cfg (.retention limits nowMs)).daemon.state.svc ∧
      (w.step cfg (.retention limits nowMs)).blocks = h.blocks := by
  refine ⟨_, .trans (.applyCheckpointRetention _ limits.maxCheckpointRecords)
    (.applyRecordRetention _ limits nowMs), ?_, rfl⟩
  rw [Held.svc_applyRecordRetention, Held.svc_applyCheckpointRetention]
  rfl

end World

end MemService
