import MemService.BlockStore

/-!
# Collecting blocks

The retention passes remove the block of a record they delete, unless another record in the table
refers to it.  Since the check looks at the table as it is at that deletion, no block goes that a record
which survives the pass refers to; this is `gc_keeps_referenced`, for any sharing of blocks.

The other direction, that every stored block has a record, is not kept: only the retention passes
collect.  A request that writes over a key drops the old record's reference and looks at no block, so a
block whose last reference goes that way stays for good.  `World.LeavesNone` is the condition under which a
request leaves no such block, and `blocks_referenced` says that runs of such requests leave none.
-/

open ByteText CNumeral

namespace MemService

/-! ## Blocks that are still referred to -/

namespace Held

variable {storageRoot : Bool} {h h' : Held} {r q : Record} {i : ℕ}

/-- A record that is left after a deletion was in another slot. -/
lemma get_of_mem_deleteRecord (hr : r ∈ (h.deleteRecord storageRoot i q).svc.records.entries) :
    ∃ j, j ≠ i ∧ h.svc.records.get j = some r := by
  obtain ⟨j, hj⟩ := SlotTable.mem_entries.mp hr
  have hrecords : (h.deleteRecord storageRoot i q).svc.records = h.svc.records.clear i :=
    Service.records_deleteRecord h.svc i q
  rw [hrecords, SlotTable.get_clear] at hj
  split at hj
  · cases hj
  · rename_i hne
    exact ⟨j, hne, hj⟩

/-- The scan finds a record in another slot with the same block. -/
lemma payloadBlockIsReferenced_of_get {svc : Service} {j : ℕ} (hq : recordHasPayloadBlock q = true)
    (hget : svc.records.get j = some r) (hne : j ≠ i) (hid : r.blockId = q.blockId) :
    payloadBlockIsReferenced svc q i = true := by
  unfold payloadBlockIsReferenced
  rw [hq, Bool.true_and, List.any_eq_true]
  exact ⟨(j, r), SlotTable.mem_indexedFrom_of_get hget, by simp [hne, hid]⟩

lemma blocks_deleteRecord (hr : r ∈ (h.deleteRecord storageRoot i q).svc.records.entries) :
    (h.deleteRecord storageRoot i q).blocks r.blockId = h.blocks r.blockId := by
  obtain ⟨j, hne, hget⟩ := get_of_mem_deleteRecord hr
  show gcPayloadBlockIfOrphaned storageRoot h.svc i q h.blocks r.blockId = _
  unfold gcPayloadBlockIfOrphaned
  split
  · rfl
  · rename_i hgc
    refine BlockStore.set_of_ne _ (fun hid => hgc ?_) _
    by_cases hq : recordHasPayloadBlock q = true
    · rw [payloadBlockIsReferenced_of_get hq hget hne hid, Bool.or_true]
    · rw [Bool.not_eq_true] at hq
      rw [hq]
      simp

/-- A pass keeps the block of every record that survives it. -/
lemma Collected.keeps (hc : Collected storageRoot h h') (hr : r ∈ h'.svc.records.entries) :
    h'.blocks r.blockId = h.blocks r.blockId := by
  induction hc with
  | refl => rfl
  | @delete h' i q hc _ ih =>
      obtain ⟨j, -, hget⟩ := get_of_mem_deleteRecord hr
      rw [blocks_deleteRecord hr]
      exact ih (SlotTable.mem_entries_of_get hget)

end Held

/-- The collection of one input keeps the block of every record that is left. -/
lemma World.step_keeps {cfg : Config} {w : World} {i : Input} {r : Record}
    (hr : r ∈ (w.step cfg i).daemon.state.svc.records.entries) :
    (w.step cfg i).blocks r.blockId = w.stored cfg i r.blockId := by
  cases i with
  | request st residue =>
      by_cases hex : Executes cfg w.daemon.state.svc st.req
      · obtain ⟨h, hc, hsame, hblocks⟩ := @World.step_of_executes cfg w st residue hex
        rw [hsame.1] at hr
        rw [hblocks]
        exact hc.keeps hr
      · obtain ⟨-, hblocks, hstored⟩ := @World.step_of_not_executes cfg w st residue hex
        rw [hblocks, hstored]
  | retention limits nowMs =>
      obtain ⟨h, hc, hsvc, hblocks⟩ := @World.step_retention cfg w limits nowMs
      rw [← hsvc] at hr
      rw [hblocks]
      exact hc.keeps hr

/-- **Block collection is safe.**  In every run of requests and retention passes, from any tables and any
blocks, after every input the block of every record in the table is what it was when the operation of
the input was done: the passes have neither removed nor touched it. -/
theorem gc_keeps_referenced (cfg : Config) (w : World) (is : List Input) (n : ℕ)
    (hn : n < is.length) {r : Record}
    (hr : r ∈ (w.run cfg (is.take (n + 1))).daemon.state.svc.records.entries) :
    (w.run cfg (is.take (n + 1))).blocks r.blockId =
      (w.run cfg (is.take n)).stored cfg (is[n]) r.blockId := by
  have hstep : w.run cfg (is.take (n + 1)) = (w.run cfg (is.take n)).step cfg (is[n]) := by
    rw [World.run, List.take_succ_eq_append_getElem hn, Run.run_append]
    rfl
  rw [hstep] at hr ⊢
  exact World.step_keeps hr

/-- A daemon that keeps one record. -/
def Config.keepsOne : Config := ⟨true, true, some { maxRetainedRecords := 1 }⟩

/-- A request in an idle world. -/
def Input.idle (operation : WireOperation) (payload : Payload) : Input :=
  .request (Step.idle operation payload) none

/-- Two objects with one block. -/
def sharedBlock : List Input :=
  [.idle .putObject ⟨unlines [ascii "key=a", ascii "payload_inline=x"], by decide, by decide⟩,
    .idle .putObject ⟨unlines [ascii "key=b", ascii "version=2", ascii "payload_inline=x"],
      by decide, by decide⟩]

/-- The second of two objects with one block survives the first, and so does the block. -/
theorem gc_keeps_referenced_shared :
    (World.fresh.run .keepsOne sharedBlock).daemon.state.svc.findRecord (ascii "a") = none ∧
    ∃ r, (World.fresh.run .keepsOne sharedBlock).daemon.state.svc.findRecord (ascii "b") = some r ∧
      ((World.fresh.run .keepsOne sharedBlock).blocks r.blockId).isSome := by
  have hfound : ((World.fresh.run .keepsOne sharedBlock).daemon.state.svc.findRecord
      (ascii "b")).any (fun r => (((World.fresh.run .keepsOne (sharedBlock.take 1)).stored .keepsOne
        (sharedBlock[1]) r.blockId)).isSome) = true := by
    decide +kernel
  obtain ⟨r, hr, hstored⟩ := Option.any_eq_true _ _ |>.mp hfound
  refine ⟨by decide +kernel, r, hr, ?_⟩
  have hkeeps := @gc_keeps_referenced .keepsOne .fresh sharedBlock 1 (by decide) r
    (SlotTable.lookup_mem hr)
  rw [show sharedBlock.take (1 + 1) = sharedBlock from rfl] at hkeeps
  rw [hkeeps]
  exact hstored

/-! ## The block of a request -/

/-- The payload kind under which a payload is stored. -/
def Payload.sealedKind (p : Payload) : UInt32 :=
  if p.getU32 "payload_kind" 0 = 0 then payloadKindSealedLocal else p.getU32 "payload_kind" 0

/-- What a put or register request says about its block in the record it writes: a block of the SSD,
a block it only names, or a block it stores. -/
inductive Assembled (env : Env) (storageRoot : Bool) (p : Payload) (next : Record) : Prop
  | remote (hselects : selectsUbSsdBackend p = true)
      (hbackend : next.objectBackend.kind = objectBackendUbSsdGsva)
      (hkind : next.objectPayloadKind = payloadKindUbSsdGsva)
  | named (hselects : selectsUbSsdBackend p = false)
      (hbackend : next.objectBackend.kind ≠ objectBackendUbSsdGsva)
      (hbytes : p.ingested env = none)
      (hid : next.blockId = ⟨p.getU32 "payload_kind" 0, p.getU64 "checksum" 0⟩)
      (hlen : next.objectBackingLen = p.getU64 "backing_len" 0)
  | sealed {bytes : Bytes} (hselects : selectsUbSsdBackend p = false)
      (hbackend : next.objectBackend.kind ≠ objectBackendUbSsdGsva)
      (hbytes : p.ingested env = some bytes) (hdone : env.blockWrite = .done)
      (hroot : storageRoot = true) (hkind : isBlockKind p.sealedKind = true)
      (hid : next.blockId = ⟨p.sealedKind, checksumBytes bytes⟩)
      (hlen : next.objectBackingLen = UInt64.ofNat bytes.length)

section Assembly

variable {env : Env} {storageRoot : Bool} {p : Payload}

lemma sealPayloadBlock_ok {kind : UInt32} {source : Except FailStatus Bytes} {next r : Record}
    (h : sealPayloadBlock env p kind source next = .ok r) :
    ∃ bytes, source = .ok bytes ∧ env.blockWrite = .done ∧ r = { next with
      objectPayloadKind := kind
      objectBackingOffset := 0
      objectBackingLen := UInt64.ofNat bytes.length
      objectPayloadChecksum := checksumBytes bytes } := by
  unfold sealPayloadBlock at h
  rcases hw : env.blockWrite with _ | s | s
  · rw [hw] at h
    cases source with
    | error s => cases h
    | ok bytes =>
        dsimp only [bind, Except.bind, pure, Except.pure, Except.mapError] at h
        split at h
        · cases h
        · split at h
          · cases h
          · exact ⟨bytes, rfl, rfl, (Except.ok.inj h).symm⟩
  · rw [hw] at h
    cases h
  · rw [hw] at h
    cases source with
    | error s => cases h
    | ok bytes =>
        dsimp only [bind, Except.bind, pure, Except.pure, Except.mapError, throw, throwThe,
          MonadExceptOf.throw] at h
        split at h
        · cases h
        · split at h <;> cases h

/-- A text that was read is not empty. -/
lemma Payload.getString_getD_eq_nil {name : String} {cap : ℕ} :
    (p.getString name cap).getD [] = [] ↔ p.getString name cap = none := by
  cases h : p.getString name cap with
  | none => simp
  | some v =>
      have hne : v ≠ [] := (payloadGetString_subset h).1
      simp [hne]

/-- The payload of a request is stored, or it carries none. -/
lemma writePayloadBlock_ok {next r : Record}
    (h : writePayloadBlock env storageRoot p ((p.getString "payload_inline" 1024).getD [])
      ((p.getString "payload_path" 512).getD []) next = .ok r) :
    ((p.getString "payload_inline" 1024 = none ∧ p.getString "payload_path" 512 = none) ∧
      r = next) ∨
    ∃ bytes, p.ingested env = some bytes ∧ env.blockWrite = .done ∧ storageRoot = true ∧
      isBlockKind p.sealedKind = true ∧ r = { next with
        objectPayloadKind := p.sealedKind
        objectBackingOffset := 0
        objectBackingLen := UInt64.ofNat bytes.length
        objectPayloadChecksum := checksumBytes bytes } := by
  unfold writePayloadBlock at h
  dsimp only [bind, Except.bind, pure, Except.pure, throw, throwThe, MonadExceptOf.throw] at h
  simp only [Payload.getString_getD_eq_nil, ne_eq] at h
  by_cases hnone : p.getString "payload_inline" 1024 = none ∧ p.getString "payload_path" 512 = none
  · rw [if_pos hnone] at h
    cases h
    exact .inl ⟨hnone, rfl⟩
  rw [if_neg hnone] at h
  split at h
  · cases h
  split at h
  · cases h
  rename_i hroot
  have hroot : storageRoot = true := by simpa using hroot
  have hsource : ∀ {bytes : Bytes},
      (if ¬ p.getString "payload_inline" 1024 = none then
        .ok ((p.getString "payload_inline" 1024).getD []) else env.payloadSource) = .ok bytes →
      p.ingested env = some bytes := by
    intro bytes hbytes
    unfold Payload.ingested
    cases hi : p.getString "payload_inline" 1024 with
    | some v =>
        rw [hi] at hbytes
        simpa using hbytes
    | none =>
        rw [hi] at hbytes
        rw [if_neg (not_not.mpr rfl)] at hbytes
        cases hp : p.getString "payload_path" 512 with
        | none => exact absurd ⟨hi, hp⟩ hnone
        | some _ => rw [hbytes]; rfl
  -- every kind that gets here is sealed under its own name, and no kind as a local block
  have hsealed : ∀ {kind : UInt32}, isBlockKind kind = true → kind = p.sealedKind →
      sealPayloadBlock env p kind
        (if ¬ p.getString "payload_inline" 1024 = none then
          .ok ((p.getString "payload_inline" 1024).getD []) else env.payloadSource) next = .ok r →
      ∃ bytes, p.ingested env = some bytes ∧ env.blockWrite = .done ∧ storageRoot = true ∧
        isBlockKind p.sealedKind = true ∧ r = { next with
          objectPayloadKind := p.sealedKind
          objectBackingOffset := 0
          objectBackingLen := UInt64.ofNat bytes.length
          objectPayloadChecksum := checksumBytes bytes } := by
    rintro kind hkind rfl hseal
    obtain ⟨bytes, hbytes, hdone, rfl⟩ := sealPayloadBlock_ok hseal
    exact ⟨bytes, hsource hbytes, hdone, hroot, hkind, rfl⟩
  refine .inr ?_
  split at h
  · rename_i hk
    rcases hk with hk | hk
    · exact hsealed (by rw [hk]; decide) (by rw [Payload.sealedKind, hk]; decide) h
    · exact hsealed (by rw [hk]; decide) (by rw [Payload.sealedKind, hk]; decide) h
  split at h
  · rename_i hk
    split at h
    · cases h
    · exact hsealed (by rw [hk]; decide) (by rw [Payload.sealedKind, hk]; decide) h
  split at h
  · cases h
  · rename_i hk
    refine hsealed (by decide) ?_ h
    unfold Payload.sealedKind
    by_cases hz : p.getU32 "payload_kind" 0 = 0
    · rw [if_pos hz]
    · rw [if_neg hz]
      by_contra hne
      exact hk ⟨hz, Ne.symm hne⟩

lemma attachUbSsdBackendRef_some {r next : Record} {node cna flags : UInt32} {ref : UbSsdBlockRef}
    (h : attachUbSsdBackendRef r node cna flags ref = some next) :
    next.objectBackend.kind = objectBackendUbSsdGsva ∧
      next.objectPayloadKind = payloadKindUbSsdGsva := by
  unfold attachUbSsdBackendRef at h
  split at h
  · cases h
  · cases h
    exact ⟨rfl, rfl⟩

lemma applyUbSsdBackendRef_ok {i q : Bytes} {r next : Record}
    (h : applyUbSsdBackendRef p i q r = .ok next) :
    (selectsUbSsdBackend p = false ∧ next = r) ∨
    (selectsUbSsdBackend p = true ∧ next.objectBackend.kind = objectBackendUbSsdGsva ∧
      next.objectPayloadKind = payloadKindUbSsdGsva) := by
  unfold applyUbSsdBackendRef at h
  dsimp only [bind, Except.bind, pure, Except.pure, throw, throwThe, MonadExceptOf.throw] at h
  split at h
  · rename_i hselects
    exact .inl ⟨by simpa using hselects, (Except.ok.inj h).symm⟩
  rename_i hselects
  refine .inr ⟨by simpa using hselects, ?_⟩
  split at h
  · cases h
  split at h
  · split at h
    · split at h
      · split at h
        · cases h
        · rename_i hattach
          cases h
          exact attachUbSsdBackendRef_some hattach
      · split at h
        · split at h
          · cases h
          · split at h
            · cases h
            · rename_i hattach
              cases h
              exact attachUbSsdBackendRef_some hattach
        · cases h
    · cases h
  · cases h

lemma writeUbSsdBackendBlock_ok {r next : Record} (h : writeUbSsdBackendBlock env p r = .ok next) :
    next.objectBackend.kind = objectBackendUbSsdGsva ∧
      next.objectPayloadKind = payloadKindUbSsdGsva := by
  unfold writeUbSsdBackendBlock at h
  cases hsubmit : ubSsdSubmit env p with
  | error s =>
      rw [hsubmit] at h
      cases h
  | ok cpl =>
      rw [hsubmit] at h
      dsimp only [bind, Except.bind, pure, Except.pure, throw, throwThe, MonadExceptOf.throw] at h
      split at h
      · cases h
      · rename_i hattach
        cases h
        exact attachUbSsdBackendRef_some hattach

/-- How the two kinds of requests assemble their records. -/
def Assembles (env : Env) (storageRoot : Bool) (p : Payload)
    (assemble : Env → Except WireStatus Record) : Prop :=
  ∀ next, assemble env = .ok next → Assembled env storageRoot p next ∧
    assemble { env with blockWrite := .done } = .ok next

/-- A request that gets its record has not had a block write fail. -/
lemma writePayloadBlock_done {next r : Record}
    (h : writePayloadBlock env storageRoot p ((p.getString "payload_inline" 1024).getD [])
      ((p.getString "payload_path" 512).getD []) next = .ok r) :
    writePayloadBlock { env with blockWrite := .done } storageRoot p
      ((p.getString "payload_inline" 1024).getD []) ((p.getString "payload_path" 512).getD []) next =
      .ok r := by
  obtain ⟨hnone, rfl⟩ | ⟨-, -, hdone, -⟩ := writePayloadBlock_ok h
  · simp only [writePayloadBlock, hnone.1, hnone.2, Option.getD_none, and_self, if_true]
    rfl
  · rwa [show { env with blockWrite := .done } = env by rw [← hdone]]

/-- A record with the default backend whose payload is stored or only named. -/
lemma assembled_of_write {base next : Record} (hselects : selectsUbSsdBackend p = false)
    (hbase : base.objectBackend.kind ≠ objectBackendUbSsdGsva)
    (hid : base.blockId = ⟨p.getU32 "payload_kind" 0, p.getU64 "checksum" 0⟩)
    (hlen : base.objectBackingLen = p.getU64 "backing_len" 0)
    (h : writePayloadBlock env storageRoot p ((p.getString "payload_inline" 1024).getD [])
      ((p.getString "payload_path" 512).getD []) base = .ok next) :
    Assembled env storageRoot p next := by
  obtain ⟨hnone, rfl⟩ | ⟨bytes, hbytes, hdone, hroot, hkind, rfl⟩ := writePayloadBlock_ok h
  · exact .named hselects hbase (by simp [Payload.ingested, hnone.1, hnone.2]) hid hlen
  · exact .sealed hselects hbase hbytes hdone hroot hkind rfl rfl

lemma assembles_objectRecord (key : FieldText 96) :
    Assembles env storageRoot p (fun env => objectRecord env storageRoot p key) := by
  intro next h
  have hnew : newObject { env with blockWrite := .done } p key = newObject env p key := rfl
  simp only [objectRecord, hnew] at h ⊢
  cases hub : applyUbSsdBackendRef p ((p.getString "payload_inline" 1024).getD [])
      ((p.getString "payload_path" 512).getD []) (newObject env p key) with
  | error s =>
      rw [hub] at h
      cases h
  | ok base =>
      rw [hub] at h
      dsimp only [bind, Except.bind, pure, Except.pure] at h ⊢
      rcases applyUbSsdBackendRef_ok hub with ⟨hselects, rfl⟩ | ⟨hselects, hbackend, hkind⟩
      · have hbase : (newObject env p key).objectBackend.kind ≠ objectBackendUbSsdGsva := by
          show objectBackendObmmPool ≠ objectBackendUbSsdGsva
          decide
        rw [if_neg hbase] at h ⊢
        exact ⟨assembled_of_write hselects hbase rfl rfl h, writePayloadBlock_done h⟩
      · rw [if_pos hbackend] at h ⊢
        refine ⟨?_, h⟩
        split at h
        · obtain ⟨hbackend', hkind'⟩ := writeUbSsdBackendBlock_ok h
          exact .remote hselects hbackend' hkind'
        · cases h
          exact .remote hselects hbackend hkind

lemma assembles_artifactRecord (kind : RecordKind) (key : FieldText 96) (found : Option Record) :
    Assembles env storageRoot p (fun env => artifactRecord env storageRoot p kind key found) := by
  intro next h
  have hnew : newArtifact { env with blockWrite := .done } p kind key found =
    newArtifact env p kind key found := rfl
  simp only [artifactRecord, hnew] at h ⊢
  cases hub : applyUbSsdBackendRef p ((p.getString "payload_inline" 1024).getD [])
      ((p.getString "payload_path" 512).getD []) (newArtifact env p kind key found) with
  | error s =>
      rw [hub] at h
      cases h
  | ok base =>
      rw [hub] at h
      dsimp only [bind, Except.bind, pure, Except.pure] at h ⊢
      rcases applyUbSsdBackendRef_ok hub with ⟨hselects, rfl⟩ | ⟨hselects, hbackend, hkind⟩
      · have hbase : (newArtifact env p kind key found).objectBackend.kind ≠
            objectBackendUbSsdGsva := by
          show objectBackendObmmPool ≠ objectBackendUbSsdGsva
          decide
        rw [if_neg hbase] at h ⊢
        exact ⟨assembled_of_write hselects hbase rfl rfl h, writePayloadBlock_done h⟩
      · rw [if_pos hbackend] at h ⊢
        cases h
        exact ⟨.remote hselects hbackend hkind, rfl⟩

end Assembly

/-! ## Tidy tables -/

/-- Every stored block has a record, and can be collected with it: it has a name the collector takes,
and its chunk files are as many as each of its records says. -/
structure Held.Tidy (storageRoot : Bool) (h : Held) : Prop where
  referenced : ∀ id, h.blocks id ≠ none → ∃ r ∈ h.svc.records.entries, r.blockId = id
  collectable : ∀ id, h.blocks id ≠ none →
    storageRoot = true ∧ isBlockKind id.kind = true ∧ id.checksum ≠ 0
  chunks : ∀ r ∈ h.svc.records.entries, r.objectPayloadKind = payloadKindSealedChunked →
    ∀ f, h.blocks r.blockId = some f →
      f.parts.length = chunkCount r.objectBackingLen ∧ f.parts.length ≤ 2 ^ 32

/-- A block with as many chunk files as the record says is removed without a rest. -/
lemma BlockFiles.removed_eq_none {kind : UInt32} {len : UInt64} {f : BlockFiles}
    (h : kind = payloadKindSealedChunked →
      f.parts.length = chunkCount len ∧ f.parts.length ≤ 2 ^ 32) : f.removed kind len = none := by
  unfold removed
  split
  · rename_i hkind
    obtain ⟨hlen, hle⟩ := h hkind
    have hcount : ¬ chunkCount len > 2 ^ 32 := by omega
    simp only [hcount, if_false, and_true]
    refine if_pos (List.all_eq_true.mpr fun b hb => ?_)
    obtain ⟨i, hi, rfl⟩ := List.mem_mapIdx.mp hb
    rw [if_pos ⟨by omega, by omega⟩]
    rfl
  · rfl

namespace Held.Tidy

variable {storageRoot : Bool} {h h' : Held}

/-- One deletion keeps the tables tidy: the block goes with its last record. -/
lemma deleteRecord (ht : h.Tidy storageRoot) {i : ℕ} {q : Record}
    (hget : h.svc.records.get i = some q) : (h.deleteRecord storageRoot i q).Tidy storageRoot := by
  have hleft : ∀ {j : ℕ} {r : Record}, j ≠ i → h.svc.records.get j = some r →
      r ∈ (h.deleteRecord storageRoot i q).svc.records.entries := by
    intro j r hne hr
    have hrecords : (h.deleteRecord storageRoot i q).svc.records = h.svc.records.clear i :=
      Service.records_deleteRecord h.svc i q
    rw [hrecords]
    refine SlotTable.mem_entries_of_get (i := j) ?_
    rw [SlotTable.get_clear, if_neg hne, hr]
  have hsub : ∀ id, (h.deleteRecord storageRoot i q).blocks id ≠ none → h.blocks id ≠ none := by
    intro id hid hnone
    refine hid ?_
    show gcPayloadBlockIfOrphaned storageRoot h.svc i q h.blocks id = none
    unfold gcPayloadBlockIfOrphaned
    split
    · exact hnone
    · by_cases hq : id = q.blockId
      · subst hq
        rw [BlockStore.set_self, hnone]
        rfl
      · rw [BlockStore.set_of_ne _ hq, hnone]
  refine ⟨fun id hid => ?_, fun id hid => ht.collectable id (hsub id hid), fun r hr hkind f hf => ?_⟩
  · obtain ⟨r, hr, hrid⟩ := ht.referenced id (hsub id hid)
    obtain ⟨j, hj⟩ := SlotTable.mem_entries.mp hr
    by_cases hne : j = i
    · subst hne
      rw [hget] at hj
      cases hj
      -- the block of the deleted record is still there, so another record refers to it
      obtain ⟨hroot, hkind, hsum⟩ := ht.collectable id (hsub id hid)
      have hhas : recordHasPayloadBlock q = true := by
        subst hrid
        unfold recordHasPayloadBlock
        rw [Bool.and_eq_true, bne_iff_ne]
        exact ⟨hsum, hkind⟩
      have href : payloadBlockIsReferenced h.svc q j = true := by
        by_contra hno
        refine hid ?_
        show gcPayloadBlockIfOrphaned storageRoot h.svc j q h.blocks id = none
        unfold gcPayloadBlockIfOrphaned
        rw [if_neg (by simp [hroot, hhas, hno]), ← hrid, BlockStore.set_self]
        cases hf : h.blocks q.blockId with
        | none => rfl
        | some f =>
            exact BlockFiles.removed_eq_none fun hk => by
              obtain ⟨hlen, hle⟩ := ht.chunks q hr hk f hf
              exact ⟨hlen, hle⟩
      unfold payloadBlockIsReferenced at href
      rw [hhas, Bool.true_and, List.any_eq_true] at href
      obtain ⟨⟨k, r'⟩, hmem, hr'⟩ := href
      simp only [Bool.and_eq_true, bne_iff_ne, ne_eq, beq_iff_eq] at hr'
      exact ⟨r', hleft hr'.1 (SlotTable.get_of_mem_indexedFrom hmem), hr'.2.trans hrid⟩
    · exact ⟨r, hleft hne hj, hrid⟩
  · rw [blocks_deleteRecord hr] at hf
    obtain ⟨j, -, hj⟩ := get_of_mem_deleteRecord hr
    exact ht.chunks r (SlotTable.mem_entries_of_get hj) hkind f hf

lemma collected (ht : h.Tidy storageRoot) (hc : Collected storageRoot h h') :
    h'.Tidy storageRoot := by
  induction hc with
  | refl => exact ht
  | delete _ hget ih => exact ih.deleteRecord hget

end Held.Tidy

/-! ## Requests that leave no block behind -/

/-- The block the record of a put or register request refers to. -/
def Payload.ownBlock (p : Payload) (env : Env) : Option BlockId :=
  if selectsUbSsdBackend p then none
  else
    match p.ingested env with
    | some bytes => some ⟨p.sealedKind, checksumBytes bytes⟩
    | none => some ⟨p.getU32 "payload_kind" 0, p.getU64 "checksum" 0⟩

/-- The length the record of a put or register request gives its block. -/
def Payload.ownLength (p : Payload) (env : Env) : UInt64 :=
  match p.ingested env with
  | some bytes => UInt64.ofNat bytes.length
  | none => p.getU64 "backing_len" 0

/-- An operation that writes one record under the request's key. -/
def Request.writesKey (req : Request) : Bool :=
  match WireOperation.ofCode req.operation with
  | some .putObject => true
  | some .publishRuntimeHandoff => true
  | some .registerExecutionArtifact => true
  | some .registerTrainingArtifact => true
  | _ => false

/-- An operation that writes the records of a block. -/
def Request.writesChain (req : Request) : Bool :=
  match WireOperation.ofCode req.operation with
  | some .publishKvSegment => true
  | some .registerPrefixEntry => true
  | _ => false

/-- The keys whose records a request replaces.  A group record is only added to. -/
def Request.replacedKeys (req : Request) : List Bytes :=
  if req.writesKey then (req.payload.getString "key" 96).toList
  else
    (fillBlockCtx req.payload).elim [] fun ctx =>
      [(keyOrEmpty ctx.buildPrefixKey).bytes, (keyOrEmpty ctx.buildBlockKey).bytes]

/-- A request that leaves no block behind.  The block of a record it replaces is its own block or that
of a record it does not replace; what it stores has a checksum other than zero; and the chunked block it
refers to has one number of chunks, in the store and in every record. -/
structure World.LeavesNone (w : World) (st : Step) : Prop where
  replaced : ∀ r ∈ w.daemon.state.svc.records.entries, r.keyBytes ∈ st.req.replacedKeys →
    w.blocks r.blockId ≠ none →
    (st.req.writesKey = true ∧ st.req.payload.ownBlock st.env = some r.blockId) ∨
      ∃ r' ∈ w.daemon.state.svc.records.entries,
        r'.keyBytes ∉ st.req.replacedKeys ∧ r'.blockId = r.blockId
  stored : st.req.writesKey = true → ∀ bytes, st.req.payload.ingested st.env = some bytes →
    checksumBytes bytes ≠ 0 ∧ bytes.length < 2 ^ 63
  chunked : st.req.writesKey = true → ∀ id, st.req.payload.ownBlock st.env = some id →
    id.kind = payloadKindSealedChunked →
    chunkCount (st.req.payload.ownLength st.env) ≤ 2 ^ 32 ∧
    (∀ f, w.blocks id = some f →
      f.parts.length = chunkCount (st.req.payload.ownLength st.env)) ∧
    ∀ r ∈ w.daemon.state.svc.records.entries, r.blockId = id →
      chunkCount r.objectBackingLen = chunkCount (st.req.payload.ownLength st.env)

lemma length_splitChunks (n : ℕ) (s : Bytes) (h : s.length ≤ n) :
    (splitChunks n s).length = (s.length + 1023) / 1024 := by
  induction n generalizing s with
  | zero =>
      have : s.length = 0 := by omega
      rw [splitChunks, List.length_nil, this]
  | succ n ih =>
      unfold splitChunks
      split
      · rename_i hs
        subst hs
        rfl
      · rename_i hs
        have hpos : 0 < s.length := List.length_pos_iff.mpr hs
        have hdrop : (s.drop chunkedBlockSize).length = s.length - 1024 := List.length_drop
        rw [List.length_cons, ih _ (by omega), hdrop]
        omega

lemma chunkCount_ofNat {n : ℕ} (h : n < 2 ^ 63) : chunkCount (UInt64.ofNat n) = (n + 1023) / 1024 := by
  unfold chunkCount
  rw [UInt64.toNat_div, UInt64.toNat_add, UInt64.toNat_ofNat_of_lt' (lt_trans h (by decide))]
  show (n + 1023) % 2 ^ 64 / 1024 = _
  rw [Nat.mod_eq_of_lt (by omega)]

/-- Writing a chunked block over files of as many chunks leaves as many. -/
lemma BlockFiles.length_parts_written {bytes : Bytes} {old : Option BlockFiles}
    (hsize : bytes.length < 2 ^ 63)
    (hold : ∀ f, old = some f → f.parts.length = chunkCount (UInt64.ofNat bytes.length)) :
    (written payloadKindSealedChunked bytes old).parts.length =
      chunkCount (UInt64.ofNat bytes.length) := by
  have hcount := chunkCount_ofNat hsize
  have hsplit := length_splitChunks _ bytes le_rfl
  simp only [written, if_true, List.length_append, List.length_map, List.length_drop]
  cases old with
  | none => simp only [Option.elim_none, List.length_nil]; omega
  | some f =>
      have := hold f rfl
      simp only [Option.elim_some]
      omega

section Dispatch

variable {env : Env} {storageRoot : Bool} {svc : Service} {req : Request}

lemma putObject_ok {p : Payload} (h : (putObject env storageRoot svc p).2.status = WireStatus.ok) :
    ∃ key next, p.getField "key" 96 = some key ∧ objectRecord env storageRoot p key = .ok next ∧
      next.key = key ∧ svc.putRecord next = some (putObject env storageRoot svc p).1 := by
  unfold putObject at h ⊢
  cases hkey : p.getField "key" 96 with
  | none =>
      rw [hkey] at h
      exact absurd h (show ¬ WireStatus.invalidSession = WireStatus.ok by decide)
  | some key =>
      have hspec := describes_objectRecord env storageRoot p key
      rw [hkey] at h
      cases hnext : objectRecord env storageRoot p key with
      | error s =>
          rw [hnext] at hspec
          simp only [hnext] at h
          exact absurd h hspec
      | ok next =>
          rw [hnext] at hspec
          simp only [hnext] at h ⊢
          cases hput : svc.putRecord next with
          | none =>
              simp only [hput] at h
              exact absurd h (show ¬ WireStatus.capacityExceeded = WireStatus.ok by decide)
          | some svc' => exact ⟨key, next, rfl, hnext, hspec.key_kind.1, hput⟩

lemma storeArtifact_ok {p : Payload} {kind : RecordKind}
    (h : (storeArtifact env storageRoot svc p kind).2.status = WireStatus.ok) :
    ∃ key next, p.getField "key" 96 = some key ∧
      artifactRecord env storageRoot p kind key (svc.findRecord key.bytes) = .ok next ∧
      next.key = key ∧ svc.putRecord next = some (storeArtifact env storageRoot svc p kind).1 := by
  unfold storeArtifact at h ⊢
  cases hkey : p.getField "key" 96 with
  | none =>
      rw [hkey] at h
      exact absurd h (show ¬ WireStatus.invalidSession = WireStatus.ok by decide)
  | some key =>
      have hspec := describes_artifactRecord env storageRoot p kind key (svc.findRecord key.bytes)
      rw [hkey] at h
      cases hnext : artifactRecord env storageRoot p kind key (svc.findRecord key.bytes) with
      | error s =>
          rw [hnext] at hspec
          simp only [hnext] at h
          exact absurd h hspec
      | ok next =>
          rw [hnext] at hspec
          simp only [hnext] at h ⊢
          cases hput : svc.putRecord next with
          | none =>
              simp only [hput] at h
              exact absurd h (show ¬ WireStatus.capacityExceeded = WireStatus.ok by decide)
          | some svc' => exact ⟨key, next, rfl, hnext, hspec.key_kind.1, hput⟩

/-- A put or register request that succeeds: its record, the table it leaves and the blocks. -/
lemma dispatch_writesKey (hkey : req.writesKey = true) {stage : Option RestoreStage}
    (hok : (dispatchOperation env storageRoot ⟨svc, stage⟩ req.operation req.payload).2.status =
      WireStatus.ok) (residue : Option BlockFiles) (quarantine blocks : BlockStore) :
    ∃ next assemble, req.payload.getString "key" 96 = some next.keyBytes ∧
      svc.putRecord next = some
        (dispatchOperation env storageRoot ⟨svc, stage⟩ req.operation req.payload).1.svc ∧
      Assembles env storageRoot req.payload assemble ∧ assemble env = .ok next ∧
      dispatchBlocks env storageRoot svc req residue quarantine blocks =
        blocks.ingest env req.payload assemble residue := by
  have hartifact : ∀ kind : RecordKind,
      (storeArtifact env storageRoot svc req.payload kind).2.status = WireStatus.ok →
      ∃ key next, req.payload.getField "key" 96 = some key ∧
        req.payload.getString "key" 96 = some next.keyBytes ∧
        svc.putRecord next = some (storeArtifact env storageRoot svc req.payload kind).1 ∧
        artifactRecord env storageRoot req.payload kind key (svc.findRecord key.bytes) =
          .ok next := by
    intro kind h
    obtain ⟨key, next, hfield, hnext, rfl, hput⟩ := storeArtifact_ok h
    exact ⟨next.key, next, hfield, (Payload.getField_eq_some hfield).1, hput, hnext⟩
  unfold Request.writesKey at hkey
  unfold dispatchOperation at hok ⊢
  unfold dispatchBlocks
  split at hkey
  · rename_i hop
    rw [hop] at hok ⊢
    obtain ⟨key, next, hfield, hnext, rfl, hput⟩ := putObject_ok hok
    refine ⟨next, _, (Payload.getField_eq_some hfield).1, hput,
      assembles_objectRecord next.key, hnext, ?_⟩
    simp only [hfield]
  · rename_i hop
    rw [hop] at hok ⊢
    obtain ⟨key, next, hfield, hstring, hput, hnext⟩ := hartifact _ hok
    refine ⟨next, _, hstring, hput, assembles_artifactRecord _ key _, hnext, ?_⟩
    simp only [hfield]
  · rename_i hop
    rw [hop] at hok ⊢
    obtain ⟨key, next, hfield, hstring, hput, hnext⟩ := hartifact _ hok
    refine ⟨next, _, hstring, hput, assembles_artifactRecord _ key _, hnext, ?_⟩
    simp only [hfield]
  · rename_i hop
    rw [hop] at hok ⊢
    obtain ⟨key, next, hfield, hstring, hput, hnext⟩ := hartifact _ hok
    refine ⟨next, _, hstring, hput, assembles_artifactRecord _ key _, hnext, ?_⟩
    simp only [hfield]
  · cases hkey

/-- The blocks after the record was assembled: the request's own block was stored, or nothing was. -/
lemma ingest_cases {p : Payload} {assemble : Env → Except WireStatus Record} {next : Record}
    (ha : Assembles env storageRoot p assemble) (hnext : assemble env = .ok next)
    (residue : Option BlockFiles) (blocks : BlockStore) :
    (blocks.ingest env p assemble residue = blocks ∧
      (next.objectPayloadKind = payloadKindUbSsdGsva ∧ p.ownBlock env = none ∨
        p.ownBlock env = some next.blockId ∧ next.objectBackingLen = p.ownLength env)) ∨
    ∃ bytes, p.ingested env = some bytes ∧ storageRoot = true ∧
      isBlockKind next.objectPayloadKind = true ∧ p.ownBlock env = some next.blockId ∧
      next.objectPayloadChecksum = checksumBytes bytes ∧
      next.objectBackingLen = p.ownLength env ∧
      p.ownLength env = UInt64.ofNat bytes.length ∧
      blocks.ingest env p assemble residue = blocks.set next.blockId
        (some (.written next.objectPayloadKind bytes (blocks next.blockId))) := by
  obtain ⟨has, hdone⟩ := ha next hnext
  unfold BlockStore.ingest
  rw [hdone]
  cases has with
  | remote hselects hbackend hkind =>
      exact .inl ⟨if_pos hbackend, .inl ⟨hkind, if_pos hselects⟩⟩
  | named hselects hbackend hbytes hid hlen =>
      simp only [if_neg hbackend, hbytes, true_and]
      refine .inl (.inr ⟨?_, ?_⟩)
      · simp only [Payload.ownBlock, hselects, hbytes, hid, Bool.false_eq_true, if_false]
      · simp only [Payload.ownLength, hbytes, hlen]
  | @sealed bytes hselects hbackend hbytes hwrite hroot hkind hid hlen =>
      simp only [if_neg hbackend, hbytes, hwrite]
      have hk : next.objectPayloadKind = p.sealedKind := congrArg BlockId.kind hid
      have hsum : next.objectPayloadChecksum = checksumBytes bytes := congrArg BlockId.checksum hid
      refine .inr ⟨bytes, rfl, hroot, hk ▸ hkind, ?_, hsum, ?_, ?_, rfl⟩
      · simp only [Payload.ownBlock, hselects, hbytes, hid, Bool.false_eq_true, if_false]
      · simp only [Payload.ownLength, hbytes, hlen]
      · simp only [Payload.ownLength, hbytes]

end Dispatch

/-- A put or register request that succeeds and leaves no block behind keeps the tables tidy. -/
lemma Held.Tidy.writesKey {cfg : Config} {w : World} {st : Step} {svc' : Service} {next : Record}
    {assemble : Env → Except WireStatus Record} {residue : Option BlockFiles}
    (ht : (⟨w.daemon.state.svc, w.blocks⟩ : Held).Tidy cfg.storageRoot)
    (hu : w.daemon.state.svc.records.UniqueKeys Record.keyBytes) (hleaves : w.LeavesNone st)
    (hkey : st.req.writesKey = true)
    (hstring : st.req.payload.getString "key" 96 = some next.keyBytes)
    (hput : w.daemon.state.svc.putRecord next = some svc')
    (ha : Assembles st.env cfg.storageRoot st.req.payload assemble)
    (hnext : assemble st.env = .ok next) :
    (⟨svc', w.blocks.ingest st.env st.req.payload assemble residue⟩ : Held).Tidy
      cfg.storageRoot := by
  have hkeys : st.req.replacedKeys = [next.keyBytes] := by
    rw [Request.replacedKeys, if_pos hkey, hstring]
    rfl
  have hmem : ∀ {r : Record}, r ∈ svc'.records.entries ↔
      r = next ∨ (r ∈ w.daemon.state.svc.records.entries ∧ r.keyBytes ≠ next.keyBytes) := by
    intro r
    obtain ⟨t, hupsert, rfl⟩ := Service.putRecord_eq_some hput
    exact SlotTable.mem_entries_upsert hu hupsert
  -- a block that had a record has one now
  have hreferenced : ∀ id, w.blocks id ≠ none →
      (st.req.payload.ownBlock st.env = some id → next.blockId = id) →
      ∃ r ∈ svc'.records.entries, r.blockId = id := by
    intro id hid hown
    obtain ⟨r, hr, rfl⟩ := ht.referenced id hid
    by_cases hk : r.keyBytes = next.keyBytes
    · rcases hleaves.replaced r hr (by rw [hkeys, hk]; simp) hid with ⟨-, ho⟩ | ⟨r', hr', hk', hid'⟩
      · exact ⟨next, hmem.mpr (.inl rfl), hown ho⟩
      · rw [hkeys, List.mem_singleton] at hk'
        exact ⟨r', hmem.mpr (.inr ⟨hr', hk'⟩), hid'⟩
    · exact ⟨r, hmem.mpr (.inr ⟨hr, hk⟩), rfl⟩
  rcases ingest_cases ha hnext residue w.blocks with ⟨hblocks, hown⟩ | ⟨bytes, hbytes, hroot,
    hkind, hown, hsum, hlen, hsize, hblocks⟩
  · rw [hblocks]
    refine ⟨fun id hid => hreferenced id hid fun ho => ?_, ht.collectable, ?_⟩
    · rcases hown with ⟨-, hnone⟩ | ⟨hsome, -⟩
      · rw [hnone] at ho
        cases ho
      · rw [hsome] at ho
        exact Option.some.inj ho
    · intro r hr hchunked f hf
      rcases hmem.mp hr with rfl | ⟨hr, -⟩
      · rcases hown with ⟨hssd, -⟩ | ⟨hsome, hlen⟩
        · rw [hssd] at hchunked
          exact absurd hchunked (by decide)
        · obtain ⟨hle, hfiles, -⟩ := hleaves.chunked hkey _ hsome hchunked
          rw [hlen, hfiles f hf]
          exact ⟨rfl, hle⟩
      · exact ht.chunks r hr hchunked f hf
  · rw [hblocks]
    obtain ⟨hsum0, hsize63⟩ := hleaves.stored hkey bytes hbytes
    have hstill : ∀ {id : BlockId}, w.blocks.set next.blockId
        (some (.written next.objectPayloadKind bytes (w.blocks next.blockId))) id ≠ none →
        id = next.blockId ∨ w.blocks id ≠ none := by
      intro id hid
      by_cases heq : id = next.blockId
      · exact .inl heq
      · rw [BlockStore.set_of_ne _ heq] at hid
        exact .inr hid
    refine ⟨fun id hid => ?_, fun id hid => ?_, fun r hr hchunked f hf => ?_⟩
    · rcases hstill hid with rfl | hid
      · exact ⟨next, hmem.mpr (.inl rfl), rfl⟩
      · refine hreferenced id hid fun ho => ?_
        rw [hown] at ho
        exact Option.some.inj ho
    · rcases hstill hid with rfl | hid
      · exact ⟨hroot, hkind, fun h0 => hsum0 (hsum.symm.trans h0)⟩
      · exact ht.collectable id hid
    · by_cases heq : r.blockId = next.blockId
      · -- the files are the ones just written, whoever refers to them
        have hk : next.objectPayloadKind = payloadKindSealedChunked :=
          (congrArg BlockId.kind heq).symm.trans hchunked
        obtain ⟨hle, hfiles, hothers⟩ := hleaves.chunked hkey _ hown hk
        have hcount : chunkCount r.objectBackingLen =
            chunkCount (st.req.payload.ownLength st.env) := by
          rcases hmem.mp hr with rfl | ⟨hr, -⟩
          · rw [hlen]
          · exact hothers r hr heq
        dsimp only at hf
        rw [heq, BlockStore.set_self] at hf
        cases hf
        rw [hcount, hk, BlockFiles.length_parts_written hsize63 (by rwa [← hsize]), ← hsize]
        exact ⟨rfl, hle⟩
      · dsimp only at hf
        rw [BlockStore.set_of_ne _ heq] at hf
        rcases hmem.mp hr with rfl | ⟨hr, -⟩
        · exact absurd rfl heq
        · exact ht.chunks r hr hchunked f hf

/-- A group record refers to the block its predecessor referred to. -/
lemma Service.prefixGroupRecord_block {found : Option Record} {key : FieldText 96}
    {requestId groupId : FieldText 64} {blockHash : FieldText 96} {node level : UInt32}
    {hot last : UInt64} {state : KvcacheState} {g : Record}
    (h : prefixGroupRecord found key requestId groupId blockHash node level hot state last =
      some g) :
    g.blockId = (found.getD (newPrefixGroup key requestId groupId)).blockId ∧
      g.objectBackingLen = (found.getD (newPrefixGroup key requestId groupId)).objectBackingLen := by
  obtain ⟨base, group, v, rfl, -, hadd, rfl⟩ := prefixGroupRecord_cases h
  obtain ⟨-, rfl⟩ | ⟨hlt, rfl⟩ := Record.addMember_cases hadd
  · exact ⟨rfl, rfl⟩
  · exact ⟨rfl, rfl⟩

lemma Service.BootstrapChain.groupWithResult_block {svc : Service} {ctx : BlockCtx}
    (c : svc.BootstrapChain ctx) :
    (∃ r, svc.findRecord c.groupKey.bytes = some r ∧ c.groupWithResult.blockId = r.blockId ∧
      c.groupWithResult.objectBackingLen = r.objectBackingLen) ∨
    (svc.findRecord c.groupKey.bytes = none ∧ c.groupWithResult.objectPayloadKind = 0) := by
  obtain ⟨hid, hlen⟩ := Service.prefixGroupRecord_block c.groupEntry
  obtain ⟨hid', hlen'⟩ := Service.prefixGroupRecord_block c.groupResult
  rw [Option.getD_some] at hid' hlen'
  cases hfound : svc.findRecord c.groupKey.bytes with
  | none =>
      rw [hfound, Option.getD_none] at hid
      exact .inr ⟨rfl, congrArg BlockId.kind (hid'.trans hid)⟩
  | some r =>
      rw [hfound, Option.getD_some] at hid hlen
      exact .inl ⟨r, rfl, hid'.trans hid, hlen'.trans hlen⟩

/-- The records of a block do not refer to stored payloads. -/
lemma Service.BootstrapChain.Finished.objectPayloadKind {svc : Service} {ctx : BlockCtx}
    {c : svc.BootstrapChain ctx} {req : Request} {entry block : Record}
    (h : c.Finished req entry block) :
    entry.objectPayloadKind = 0 ∧ block.objectPayloadKind = 0 := by
  cases h with
  | hot _ => exact ⟨rfl, rfl⟩
  | published _ _ => exact ⟨rfl, rfl⟩
  | registered _ _ => exact ⟨rfl, rfl⟩

/-- A publication or registration of a block that leaves no payload block behind keeps the tables
tidy. -/
lemma Held.Tidy.writesChain {cfg : Config} {w : World} {st : Step} {svc' : Service} {reply : Reply}
    (ht : (⟨w.daemon.state.svc, w.blocks⟩ : Held).Tidy cfg.storageRoot)
    (hu : w.daemon.state.svc.records.UniqueKeys Record.keyBytes) (hleaves : w.LeavesNone st)
    (hkey : st.req.writesKey = false) (hchain : ChainOutcome w.daemon.state.svc st.req (svc', reply))
    (hok : reply.status = WireStatus.ok) :
    (⟨svc', w.blocks⟩ : Held).Tidy cfg.storageRoot := by
  cases hchain with
  | untouched => exact ht
  | cutShort _ _ _ => exact absurd hok (by decide)
  | @done ctx extra _ _ hboot c hextra hput _ =>
      obtain ⟨entry, block, hfinished, hfound⟩ := c.findRecord_finished hu hextra hput
      obtain ⟨hentry, hblock⟩ := hfinished.objectPayloadKind
      have hu' := Service.uniqueKeys_putAll hu hput
      have hfind : ∀ {r : Record}, r ∈ w.daemon.state.svc.records.entries →
          w.daemon.state.svc.findRecord r.keyBytes = some r :=
        fun hr => hu.lookup_eq_some_iff.mpr ⟨hr, rfl⟩
      have hkeys : st.req.replacedKeys = [c.prefixKey.bytes, c.blockKey.bytes] := by
        rw [Request.replacedKeys, if_neg (by simp [hkey]), hboot.context, Option.elim_some,
          c.buildPrefixKey, c.buildBlockKey]
        rfl
      have hkept : ∀ r ∈ w.daemon.state.svc.records.entries, r.keyBytes ∉ st.req.replacedKeys →
          ∃ r' ∈ svc'.records.entries, r'.blockId = r.blockId := by
        intro r hr hk
        rw [hkeys, List.mem_cons, List.mem_singleton, not_or] at hk
        have hr' := hfound r.keyBytes
        rw [if_neg hk.1] at hr'
        by_cases hg : r.keyBytes = c.groupKey.bytes
        · rw [if_pos hg] at hr'
          refine ⟨_, SlotTable.lookup_mem hr', ?_⟩
          rcases c.groupWithResult_block with ⟨g, hgroup, hid, -⟩ | ⟨hnone, -⟩
          · rw [← hg, hfind hr] at hgroup
            cases hgroup
            exact hid
          · rw [← hg, hfind hr] at hnone
            cases hnone
        · rw [if_neg hg, if_neg hk.2, hfind hr] at hr'
          exact ⟨r, SlotTable.lookup_mem hr', rfl⟩
      refine ⟨fun id hid => ?_, ht.collectable, fun r hr hchunked f hf => ?_⟩
      · obtain ⟨r, hr, rfl⟩ := ht.referenced id hid
        by_cases hk : r.keyBytes ∈ st.req.replacedKeys
        · rcases hleaves.replaced r hr hk hid with ⟨hyes, -⟩ | ⟨r', hr', hk', hid'⟩
          · rw [hkey] at hyes
            cases hyes
          · obtain ⟨r'', hr'', hid''⟩ := hkept r' hr' hk'
            exact ⟨r'', hr'', hid''.trans hid'⟩
        · exact hkept r hr hk
      · have hr' : svc'.findRecord r.keyBytes = some r := hu'.lookup_eq_some_iff.mpr ⟨hr, rfl⟩
        rw [hfound] at hr'
        split at hr'
        · cases hr'
          rw [hentry] at hchunked
          exact absurd hchunked (by decide)
        split at hr'
        · cases hr'
          rcases c.groupWithResult_block with ⟨g, hgroup, hid, hlen⟩ | ⟨-, hzero⟩
          · rw [hlen]
            exact ht.chunks g (SlotTable.lookup_mem hgroup)
              ((congrArg BlockId.kind hid).symm.trans hchunked) f (hid ▸ hf)
          · rw [hzero] at hchunked
            exact absurd hchunked (by decide)
        split at hr'
        · cases hr'
          rw [hblock] at hchunked
          exact absurd hchunked (by decide)
        · exact ht.chunks r (SlotTable.lookup_mem hr') hchunked f hf

/-! ## Runs -/

/-- A put or register request that is answered as a success, or a retention pass. -/
def World.Accepts (cfg : Config) (w : World) : Input → Prop
  | .request st _ => (st.req.writesKey = true ∨ st.req.writesChain = true) ∧
      (w.answer cfg st).status = WireStatus.ok
  | .retention _ _ => True

/-- The condition on an input of a run. -/
def World.LeavesNoBlock (cfg : Config) (w : World) : Input → Prop
  | .request st _ => Executes cfg w.daemon.state.svc st.req → w.LeavesNone st
  | .retention _ _ => True

lemma Held.Tidy.congr {storageRoot : Bool} {svc svc' : Service} {blocks : BlockStore}
    (ht : (⟨svc, blocks⟩ : Held).Tidy storageRoot) (h : svc'.records = svc.records) :
    (⟨svc', blocks⟩ : Held).Tidy storageRoot := by
  obtain ⟨hreferenced, hcollectable, hchunks⟩ := ht
  refine ⟨?_, hcollectable, ?_⟩
  · intro id hid
    rw [h]
    exact hreferenced id hid
  · rw [h]
    exact hchunks

/-- A put or register request validates no block. -/
lemma validatedRecord_of_writes {svc : Service} {req : Request}
    (h : req.writesKey = true ∨ req.writesChain = true) : validatedRecord svc req = none := by
  unfold Request.writesKey Request.writesChain at h
  unfold validatedRecord
  cases hop : WireOperation.ofCode req.operation with
  | none => rfl
  | some op =>
      rw [hop] at h
      cases op
      all_goals first | rfl | simp at h

lemma World.seen_of_writes {w : World} {st : Step}
    (h : st.req.writesKey = true ∨ st.req.writesChain = true) : w.seen st = st := by
  rw [World.seen, validatedRecord_of_writes h]
  rfl

/-- The operation of an accepted request keeps the tables tidy. -/
lemma World.tidy_dispatched {cfg : Config} {w : World} {st : Step} {residue : Option BlockFiles}
    (hu : w.daemon.state.svc.records.UniqueKeys Record.keyBytes)
    (ht : (⟨w.daemon.state.svc, w.blocks⟩ : Held).Tidy cfg.storageRoot)
    (hex : Executes cfg w.daemon.state.svc st.req) (hleaves : w.LeavesNone st)
    (hacc : w.Accepts cfg (.request st residue)) :
    (⟨(w.dispatched cfg st).1.svc, w.stored cfg (.request st residue)⟩ : Held).Tidy
      cfg.storageRoot := by
  obtain ⟨hop, hok⟩ := hacc
  have hseen : w.seen st = st := World.seen_of_writes hop
  have hdone : (w.dispatched cfg st).2.status = WireStatus.ok := by
    obtain ⟨out, _, hout, hdone, -⟩ := @step_of_success cfg w.daemon (w.seen st) hex hok
    rw [World.dispatched]
    exact hout ▸ hdone
  have hstored : w.stored cfg (.request st residue) =
      dispatchBlocks st.env cfg.storageRoot w.daemon.state.svc st.req residue w.quarantine w.blocks :=
    if_pos (World.executes_iff.mpr hex)
  rw [hstored]
  unfold World.dispatched at hdone ⊢
  rw [hseen] at hdone ⊢
  cases hkey : st.req.writesKey with
  | true =>
      obtain ⟨next, assemble, hstring, hput, ha, hnext, hblocks⟩ :=
        dispatch_writesKey hkey hdone residue w.quarantine w.blocks
      rw [hblocks]
      exact ht.writesKey hu hleaves hkey hstring hput ha hnext
  | false =>
      have hchain : st.req.writesChain = true := hop.resolve_left (by simp [hkey])
      have hblocks : dispatchBlocks st.env cfg.storageRoot w.daemon.state.svc st.req residue
          w.quarantine w.blocks = w.blocks := by
        have hnone := @validatedRecord_of_writes w.daemon.state.svc st.req hop
        unfold dispatchBlocks
        unfold Request.writesChain at hchain
        split at hchain
        · rename_i hcode
          simp only [hcode, hnone]
        · rename_i hcode
          simp only [hcode, hnone]
        · cases hchain
      rw [hblocks]
      have hout : ChainOutcome w.daemon.state.svc st.req
          ((dispatchOperation st.env cfg.storageRoot w.daemon.state st.req.operation
            st.req.payload).1.svc,
          (dispatchOperation st.env cfg.storageRoot w.daemon.state st.req.operation
            st.req.payload).2) := by
        unfold Request.writesChain at hchain
        split at hchain
        · rename_i hcode
          have hcode' := (WireOperation.code_of_ofCode hcode).symm
          have hpublish := publishKv_chain hu hcode'
          rw [hcode']
          exact hpublish
        · rename_i hcode
          have hcode' := (WireOperation.code_of_ofCode hcode).symm
          have hregister := registerPrefix_chain hu hcode'
          rw [hcode']
          exact hregister
        · cases hchain
      exact ht.writesChain hu hleaves hkey hout hdone

/-- One input of the run. -/
lemma World.tidy_step {cfg : Config} {w : World} {i : Input}
    (h : w.daemon.WellFormed ∧ (⟨w.daemon.state.svc, w.blocks⟩ : Held).Tidy cfg.storageRoot)
    (hi : w.Accepts cfg i ∧ w.LeavesNoBlock cfg i) :
    (w.step cfg i).daemon.WellFormed ∧
      (⟨(w.step cfg i).daemon.state.svc, (w.step cfg i).blocks⟩ : Held).Tidy cfg.storageRoot := by
  obtain ⟨hw, ht⟩ := h
  cases i with
  | request st residue =>
      refine ⟨hw.step (w.seen st), ?_⟩
      by_cases hex : Executes cfg w.daemon.state.svc st.req
      · obtain ⟨h, hc, hsame, hblocks⟩ := @World.step_of_executes cfg w st residue hex
        rw [hblocks]
        exact ((World.tidy_dispatched hw.1.recordKeys ht hex (hi.2 hex) hi.1).collected hc).congr
          hsame.1
      · obtain ⟨hsame, hblocks, -⟩ := @World.step_of_not_executes cfg w st residue hex
        rw [hblocks]
        exact ht.congr hsame.1
  | retention limits nowMs =>
      have haudit : ((w.daemon.state.svc.applyAuditRetention limits.maxAuditEvents).1).records =
          w.daemon.state.svc.records := by
        unfold Service.applyAuditRetention
        split <;> rfl
      refine ⟨⟨?_, hw.2⟩, ?_⟩
      · have hpruned := (Service.passed_applyCheckpointRetention
          (w.daemon.state.svc.applyAuditRetention limits.maxAuditEvents).1
          limits.maxCheckpointRecords).pruned.trans
            (Service.passed_applyRecordRetention _ limits nowMs).pruned
        exact hpruned.wellFormed (hw.1.applyAuditRetention _)
      · obtain ⟨h, hc, hsvc, hblocks⟩ := @World.step_retention cfg w limits nowMs
        rw [hblocks, ← hsvc]
        exact (ht.congr haudit).collected hc

/-- **No orphan blocks.**  In every run of accepted put and register requests and retention passes, from
a start without records and blocks, whose requests leave no block behind, every stored block is the
block of a record in every state of the run. -/
theorem blocks_referenced (cfg : Config) (is : List Input)
    (h : Run.Along (World.step cfg) (fun w i => w.Accepts cfg i ∧ w.LeavesNoBlock cfg i)
      World.fresh is) (n : ℕ) (id : BlockId)
    (hid : (World.fresh.run cfg (is.take n)).blocks id ≠ none) :
    ∃ r ∈ (World.fresh.run cfg (is.take n)).daemon.state.svc.records.entries, r.blockId = id := by
  have hfresh : World.fresh.daemon.WellFormed ∧
      (⟨World.fresh.daemon.state.svc, World.fresh.blocks⟩ : Held).Tidy cfg.storageRoot := by
    refine ⟨(Daemon.reachable_fresh cfg).wellFormed, ?_, ?_, ?_⟩
    · exact fun _ hid => absurd rfl hid
    · exact fun _ hid => absurd rfl hid
    · rintro r hr
      exact absurd hr (by simp [World.fresh, Daemon.fresh, Service.fresh])
  have hinv := Run.Along.invariant
    (I := fun w : World => w.daemon.WellFormed ∧
      (⟨w.daemon.state.svc, w.blocks⟩ : Held).Tidy cfg.storageRoot)
    h hfresh (fun _ _ hw hi => World.tidy_step hw hi) n
  exact hinv.2.referenced id hid

/-- A put of an object whose key is not in the table leaves no block behind. -/
lemma World.leavesNone_of_new {w : World} {st : Step}
    (hnew : ∀ r ∈ w.daemon.state.svc.records.entries, r.keyBytes ∉ st.req.replacedKeys)
    (hstored : ∀ bytes, st.req.payload.ingested st.env = some bytes →
      checksumBytes bytes ≠ 0 ∧ bytes.length < 2 ^ 63)
    (hkind : (st.req.payload.ownBlock st.env).any (·.kind == payloadKindSealedChunked) = false) :
    w.LeavesNone st where
  replaced := fun r hr hk _ => absurd hk (hnew r hr)
  stored := fun _ => hstored
  chunked := by
    intro _ id hid hk
    rw [hid, Option.any_some, beq_eq_false_iff_ne] at hkind
    exact absurd hk hkind

theorem blocks_referenced_shared :
    ∃ r ∈ (World.fresh.run .keepsOne sharedBlock).daemon.state.svc.records.entries,
      r.blockId = ⟨payloadKindSealedLocal, checksumBytes (ascii "x")⟩ := by
  have hstored : ∀ (i : Fin 2) (st : Step) (residue : Option BlockFiles),
      sharedBlock[i] = .request st residue →
      st.req.payload.ingested st.env = some (ascii "x") := by
    intro i st residue h
    fin_cases i
    all_goals
      cases h
      decide +kernel
  have hsum : checksumBytes (ascii "x") ≠ 0 ∧ (ascii "x").length < 2 ^ 63 := by decide +kernel
  refine blocks_referenced .keepsOne sharedBlock ⟨⟨⟨.inl rfl, by decide +kernel⟩, fun _ => ?_⟩,
    ⟨⟨.inl rfl, by decide +kernel⟩, fun _ => ?_⟩, trivial⟩ 2 _ (by decide +kernel)
  · refine World.leavesNone_of_new (by decide +kernel) (fun bytes hbytes => ?_) (by decide +kernel)
    rw [hstored 0 _ _ rfl] at hbytes
    cases hbytes
    exact hsum
  · refine World.leavesNone_of_new (by decide +kernel) (fun bytes hbytes => ?_) (by decide +kernel)
    rw [hstored 1 _ _ rfl] at hbytes
    cases hbytes
    exact hsum

/-- An object that is put again with other contents, and a retention pass. -/
def overwritten : List Input :=
  [.idle .putObject ⟨unlines [ascii "key=a", ascii "payload_inline=x"], by decide, by decide⟩,
    .idle .putObject ⟨unlines [ascii "key=a", ascii "payload_inline=y"], by decide, by decide⟩,
    .retention { maxRetainedRecords := 1 } 0]

/-- The first contents stay behind without a record. -/
theorem block_left_by_overwrite :
    Run.Along (World.step .keepsOne) (World.Accepts .keepsOne) World.fresh overwritten ∧
    (World.fresh.run .keepsOne overwritten).blocks
      ⟨payloadKindSealedLocal, checksumBytes (ascii "x")⟩ ≠ none ∧
    ∀ r ∈ (World.fresh.run .keepsOne overwritten).daemon.state.svc.records.entries,
      r.blockId ≠ ⟨payloadKindSealedLocal, checksumBytes (ascii "x")⟩ :=
  ⟨⟨⟨.inl rfl, by decide +kernel⟩, ⟨.inl rfl, by decide +kernel⟩, trivial, trivial⟩,
    by decide +kernel, by decide +kernel⟩

end MemService
