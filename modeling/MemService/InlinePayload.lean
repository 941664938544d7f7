import MemService.BlockBackends
import MemService.BlockReads

/-!
# Inline payloads

A put or register request may carry its payload in a line `payload_inline=…`.  The value goes from the
receive buffer of the request into a buffer of the handler, from there into the block that is stored,
and its length and checksum go into the record.

The handler's buffer has room for 1023 bytes, while a payload may be longer: a longer value is cut by
the getter, which does not tell, and what is left is stored as if it were the value.  And an empty value
is to the getter as good as none.
-/

open ByteText CNumeral

namespace MemService

/-! ## Statements -/

/-- The value a request carries in its first `payload_inline` line. -/
def Payload.inlineValue (p : Payload) : Option Bytes :=
  ((lines p.bytes).find? fun l => (ascii "payload_inline" ++ [EQ]).isPrefixOf l).map fun l =>
    l.drop ((ascii "payload_inline").length + 1)

/-- The record describes the bytes, and they are the contents of its block. -/
structure BlockStore.Backs (blocks : BlockStore) (r : Record) (bytes : Bytes) : Prop where
  kind : isBlockKind r.objectPayloadKind = true
  describing : Describing r bytes
  contents : (blocks r.blockId).bind (BlockFiles.contents r.objectPayloadKind) = some bytes

/-- The service when a request has been served and no record has been deleted. -/
def World.served (cfg : Config) (w : World) (st : Step) : Service :=
  if w.executes cfg st.req then (w.dispatched cfg st).1.svc else w.daemon.state.svc

/-- A request has stored the bytes under its key: when it has been served the record under the key is
backed by them, and so it is after the retention passes if they leave the record. -/
def World.StoresWhole (cfg : Config) (w : World) (st : Step) (residue : Option BlockFiles)
    (bytes : Bytes) : Prop :=
  ∃ key r, st.req.payload.getString "key" 96 = some key ∧
    (w.served cfg st).findRecord key = some r ∧
    (w.stored cfg (.request st residue)).Backs r bytes ∧
    (r ∈ (w.step cfg (.request st residue)).daemon.state.svc.records.entries →
      (w.step cfg (.request st residue)).blocks.Backs r bytes)

/-- A request without an inline payload that comes by an empty one all the same: it reads an empty file,
or it names a block that is there and is empty. -/
def World.ComesByEmpty (w : World) (st : Step) : Prop :=
  selectsUbSsdBackend st.req.payload = false ∧
  (st.req.payload.ingested st.env = some [] ∧ st.req.payload.sealedKind ≠ payloadKindSealedChunked ∨
    st.req.payload.ingested st.env = none ∧
    isBlockKind (st.req.payload.getU32 "payload_kind" 0) = true ∧
    st.req.payload.getU64 "checksum" 0 = checksumBytes [] ∧
    st.req.payload.getU64 "backing_len" 0 = 0 ∧
    (w.blocks ⟨st.req.payload.getU32 "payload_kind" 0, checksumBytes []⟩).bind
      (BlockFiles.contents (st.req.payload.getU32 "payload_kind" 0)) = some [])

/-- A request whose inline value is taken whole.  The value fits the buffer of the handler and is not
empty, or is not missed; and where a stored answer decides the request, the record under its key is
already the one it asks for. -/
def World.TakesInline (cfg : Config) (w : World) (st : Step) (v : Bytes) : Prop :=
  if w.executes cfg st.req then (v ≠ [] ∧ v.length < 1024) ∨ (v = [] ∧ w.ComesByEmpty st)
  else
    ∃ key r, st.req.payload.getString "key" 96 = some key ∧
      w.daemon.state.svc.findRecord key = some r ∧ w.blocks.Backs r v

/-! ## The value and the buffer -/

lemma Payload.getString_inlineValue {p : Payload} {v : Bytes} (h : p.inlineValue = some v) :
    p.getString "payload_inline" 1024 = fitValue 1024 v := by
  obtain ⟨l, hl, rfl⟩ := Option.map_eq_some_iff.mp h
  show payloadGetString _ _ _ = _
  rw [payloadGetString, hl]
  rfl

/-- What the handler sees of a value: its first 1023 bytes, or nothing. -/
lemma Payload.ingested_inlineValue {p : Payload} {v : Bytes} (h : p.inlineValue = some v)
    (hv : v ≠ []) (env : Env) : p.ingested env = some (v.take 1023) := by
  have htake : v.take 1023 ≠ [] := by simpa using hv
  rw [Payload.ingested, Payload.getString_inlineValue h, fitValue, if_neg htake]

/-! ## The block -/

lemma nil_notMem_splitChunks (n : ℕ) (s : Bytes) : [] ∉ splitChunks n s := by
  induction n generalizing s with
  | zero => exact List.not_mem_nil
  | succ n ih =>
      unfold splitChunks
      split
      · exact List.not_mem_nil
      · rename_i hs
        intro h
        rcases List.mem_cons.mp h with h | h
        · exact hs (by simpa [chunkedBlockSize] using h)
        · exact ih _ h

/-- The option monad finds a value for every element. -/
lemma mapM_eq_some {α β : Type} {g : α → Option β} {f : α → β} {l : List α}
    (h : ∀ x ∈ l, g x = some (f x)) : l.mapM g = some (l.map f) := by
  induction l with
  | nil => rfl
  | cons x l ih =>
      rw [List.mapM_cons, h x (by simp), ih fun y hy => h y (by simp [hy])]
      rfl

lemma map_range_getD {α : Type} (l : List α) (a : α) :
    ((List.range l.length).map fun i => (l[i]?).getD a) = l := by
  refine List.ext_getElem (by simp) fun i _ hi => ?_
  rw [List.getElem_map, List.getElem_range, List.getElem?_eq_getElem hi]
  rfl

namespace BlockFiles

variable {kind : UInt32} {bytes : Bytes} {old : Option BlockFiles}

/-- What was stored is read back, but for the empty chunked block: a chunk count of zero is refused. -/
lemma contents_written (hlen : bytes.length < 2 ^ 32)
    (hempty : kind = payloadKindSealedChunked → bytes ≠ []) :
    (written kind bytes old).contents kind = some bytes := by
  unfold contents written
  by_cases hkind : kind = payloadKindSealedChunked
  · have hchunks := length_splitChunks _ bytes le_rfl
    have hpos : 0 < bytes.length := List.length_pos_iff.mpr (hempty hkind)
    have hcount : (UInt32.ofNat (splitChunks bytes.length bytes).length).toNat =
        (splitChunks bytes.length bytes).length :=
      UInt32.toNat_ofNat_of_lt' (show _ < 2 ^ 32 by omega)
    have hne : UInt32.ofNat (splitChunks bytes.length bytes).length ≠ 0 := by
      intro h0
      rw [h0] at hcount
      have : (0 : UInt32).toNat = 0 := rfl
      omega
    simp only [hkind, if_true, Option.bind_some, if_neg hne, hcount]
    rw [mapM_eq_some (f := fun i => ((splitChunks bytes.length bytes)[i]?).getD []),
      Option.map_some]
    · rw [map_range_getD, flatten_splitChunks _ _ le_rfl]
    · intro i hi
      have hi := List.mem_range.mp hi
      rw [List.getElem?_append_left (by simpa using hi), List.getElem?_map,
        List.getElem?_eq_getElem hi]
      rfl
  · rw [if_neg hkind, if_neg hkind]
    rfl

/-- What a block gives back is empty only if nothing was stored in it. -/
lemma nil_of_contents_written (h : (written kind bytes old).contents kind = some []) :
    bytes = [] ∧ kind ≠ payloadKindSealedChunked := by
  unfold contents written at h
  by_cases hkind : kind = payloadKindSealedChunked
  · exfalso
    simp only [hkind, if_true, Option.bind_some] at h
    split at h
    · cases h
    rename_i hcount
    obtain ⟨l, hl, hnil⟩ := Option.map_eq_some_iff.mp h
    -- the first chunk is one of the text's, so it is not empty
    cases hchunks : splitChunks bytes.length bytes with
    | nil =>
        rw [hchunks] at hcount
        exact hcount rfl
    | cons c cs =>
        have hc : c ≠ [] := fun hc => nil_notMem_splitChunks bytes.length bytes (by simp [hchunks, hc])
        obtain ⟨n, hn⟩ : ∃ n, (UInt32.ofNat (splitChunks bytes.length bytes).length).toNat = n + 1 :=
          Nat.exists_eq_succ_of_ne_zero fun h0 => hcount (UInt32.toNat_inj.mp h0)
        rw [hn, List.range_succ_eq_map, List.mapM_cons, hchunks] at hl
        obtain ⟨d, hd, hl⟩ := Option.bind_eq_some_iff.mp hl
        obtain ⟨ds, -, hl⟩ := Option.bind_eq_some_iff.mp hl
        obtain rfl : c = d := Option.some.inj hd
        obtain rfl : c :: ds = l := Option.some.inj hl
        exact hc (List.append_eq_nil_iff.mp hnil).1
  · rw [if_neg hkind, if_neg hkind] at h
    exact ⟨Option.some.inj h, hkind⟩

end BlockFiles

/-! ## A request that is executed -/

section Executed

variable {cfg : Config} {w : World} {st : Step} {residue : Option BlockFiles} {v : Bytes}

lemma applyUbSsdBackendRef_of_inline {p : Payload} {i q : Bytes} {r : Record}
    (hselects : selectsUbSsdBackend p = true) (hi : i ≠ []) :
    applyUbSsdBackendRef p i q r = .error WireStatus.unsupported := by
  unfold applyUbSsdBackendRef
  simp only [hselects, Bool.not_true, Bool.false_eq_true, if_false, hi, ne_eq, not_false_eq_true,
    true_or, if_true]
  rfl

/-- The SSD backend takes no inline payload. -/
lemma selectsUbSsdBackend_of_ok {env : Env} {storageRoot : Bool} {svc : Service}
    {stage : Option RestoreStage} {req : Request} (hkey : req.writesKey = true)
    (hok : (dispatchOperation env storageRoot ⟨svc, stage⟩ req.operation req.payload).2.status =
      WireStatus.ok)
    (hinline : req.payload.getString "payload_inline" 1024 ≠ none) :
    selectsUbSsdBackend req.payload = false := by
  by_contra hselects
  rw [Bool.not_eq_false] at hselects
  have hi : (req.payload.getString "payload_inline" 1024).getD [] ≠ [] :=
    fun h => hinline (Payload.getString_getD_eq_nil.mp h)
  have hartifact : ∀ kind : RecordKind,
      (storeArtifact env storageRoot svc req.payload kind).2.status ≠ WireStatus.ok := by
    intro kind h
    obtain ⟨key, next, -, hnext, -⟩ := storeArtifact_ok h
    simp only [artifactRecord, applyUbSsdBackendRef_of_inline hselects hi] at hnext
    cases hnext
  unfold Request.writesKey at hkey
  unfold dispatchOperation at hok
  split at hkey
  · rename_i hop
    rw [hop] at hok
    obtain ⟨key, next, -, hnext, -⟩ := putObject_ok hok
    simp only [objectRecord, applyUbSsdBackendRef_of_inline hselects hi] at hnext
    cases hnext
  · rename_i hop
    rw [hop] at hok
    exact hartifact _ hok
  · rename_i hop
    rw [hop] at hok
    exact hartifact _ hok
  · rename_i hop
    rw [hop] at hok
    exact hartifact _ hok
  · cases hkey

/-- The record and the block of a request that succeeds. -/
lemma World.served_of_executes (hex : Executes cfg w.daemon.state.svc st.req)
    (hkey : st.req.writesKey = true) (hok : (w.answer cfg st).status = WireStatus.ok) :
    ∃ next assemble, st.req.payload.getString "key" 96 = some next.keyBytes ∧
      (w.served cfg st).findRecord next.keyBytes = some next ∧
      Assembles st.env cfg.storageRoot st.req.payload assemble ∧ assemble st.env = .ok next ∧
      w.stored cfg (.request st residue) =
        w.blocks.ingest st.env st.req.payload assemble residue ∧
      (st.req.payload.getString "payload_inline" 1024 ≠ none →
        selectsUbSsdBackend st.req.payload = false) := by
  have hyes := World.executes_iff.mpr hex
  have hseen : w.seen st = st := World.seen_of_writes (.inl hkey)
  have hdone : (w.dispatched cfg st).2.status = WireStatus.ok := by
    obtain ⟨out, _, hout, hdone, -⟩ := @step_of_success cfg w.daemon (w.seen st) hex hok
    rw [World.dispatched]
    exact hout ▸ hdone
  unfold World.dispatched at hdone
  rw [hseen] at hdone
  obtain ⟨next, assemble, hstring, hput, ha, hnext, hblocks⟩ :=
    dispatch_writesKey hkey hdone residue w.quarantine w.blocks
  refine ⟨next, assemble, hstring, ?_, ha, hnext, ?_, selectsUbSsdBackend_of_ok hkey hdone⟩
  · obtain ⟨t, hupsert, hsvc⟩ := Service.putRecord_eq_some hput
    rw [World.served, if_pos hyes, World.dispatched, hseen, Service.findRecord, hsvc]
    exact SlotTable.lookup_upsert_self hupsert
  · exact (if_pos hyes).trans hblocks

/-- The record under the key is the one the request wrote, and the retention passes keep the block of
a record they leave. -/
lemma World.storesWhole_iff {next : Record}
    (hstring : st.req.payload.getString "key" 96 = some next.keyBytes)
    (hfound : (w.served cfg st).findRecord next.keyBytes = some next) :
    w.StoresWhole cfg st residue v ↔ (w.stored cfg (.request st residue)).Backs next v := by
  constructor
  · rintro ⟨key, r, hkey, hr, hbacks, -⟩
    rw [hstring] at hkey
    cases hkey
    rw [hfound] at hr
    cases hr
    exact hbacks
  · intro hbacks
    refine ⟨_, next, hstring, hfound, hbacks, fun hmem => ⟨hbacks.kind, hbacks.describing, ?_⟩⟩
    rw [World.step_keeps hmem]
    exact hbacks.contents

/-- A block that was sealed gives back its bytes, unless it is chunked and empty. -/
lemma backs_set_written_iff {blocks : BlockStore} {next : Record} {bytes : Bytes}
    (hkind : isBlockKind next.objectPayloadKind = true) (hdescribing : Describing next bytes)
    (hbytes : v ≠ [] → bytes ≠ [] ∧ bytes.length < 2 ^ 32) :
    (blocks.set next.blockId
      (some (.written next.objectPayloadKind bytes (blocks next.blockId)))).Backs next v ↔
      bytes = v ∧ (v = [] → next.objectPayloadKind ≠ payloadKindSealedChunked) := by
  constructor
  · rintro ⟨-, -, hcontents⟩
    rw [BlockStore.set_self, Option.bind_some] at hcontents
    by_cases hv : v = []
    · subst hv
      obtain ⟨hnil, hne⟩ := BlockFiles.nil_of_contents_written hcontents
      exact ⟨hnil, fun _ => hne⟩
    · obtain ⟨hne, hlen⟩ := hbytes hv
      rw [BlockFiles.contents_written hlen fun _ => hne] at hcontents
      exact ⟨Option.some.inj hcontents, fun h => absurd h hv⟩
  · rintro ⟨rfl, hempty⟩
    refine ⟨hkind, hdescribing, ?_⟩
    rw [BlockStore.set_self, Option.bind_some]
    by_cases hv : bytes = []
    · exact BlockFiles.contents_written (by rw [hv]; decide) fun h => absurd h (hempty hv)
    · exact BlockFiles.contents_written (hbytes hv).2 fun _ => hv

/-- What the block write of a request that gets its record does, by what the record says. -/
lemma Assembles.backs_ingest_iff {assemble : Env → Except WireStatus Record} {next : Record}
    (ha : Assembles st.env cfg.storageRoot st.req.payload assemble)
    (hnext : assemble st.env = .ok next) (hinline : st.req.payload.inlineValue = some v)
    (hlocal : st.req.payload.getString "payload_inline" 1024 ≠ none →
      selectsUbSsdBackend st.req.payload = false) :
    (w.blocks.ingest st.env st.req.payload assemble residue).Backs next v ↔
      (v ≠ [] ∧ v.length < 1024) ∨ (v = [] ∧ w.ComesByEmpty st) := by
  have hwhole : v ≠ [] → st.req.payload.ingested st.env = some (v.take 1023) :=
    fun hv => Payload.ingested_inlineValue hinline hv st.env
  obtain ⟨has, hdone⟩ := ha next hnext
  unfold BlockStore.ingest
  rw [hdone]
  cases has with
  | remote hselects hbackend hkind =>
      simp only [if_pos hbackend]
      constructor
      · rintro ⟨hblock, -, -⟩
        rw [hkind] at hblock
        exact absurd hblock (by decide)
      · rintro (⟨hv, -⟩ | ⟨-, hlocal', -⟩)
        · have hread : st.req.payload.getString "payload_inline" 1024 ≠ none := by
            rw [Payload.getString_inlineValue hinline, fitValue,
              if_neg (by simpa using hv)]
            exact Option.some_ne_none _
          rw [hlocal hread] at hselects
          cases hselects
        · rw [hlocal'] at hselects
          cases hselects
  | named hselects hbackend hbytes hid hlen =>
      have hv : v = [] := by
        by_contra hv
        rw [hwhole hv] at hbytes
        cases hbytes
      subst hv
      have hk : next.objectPayloadKind = st.req.payload.getU32 "payload_kind" 0 :=
        congrArg BlockId.kind hid
      have hsum : next.objectPayloadChecksum = st.req.payload.getU64 "checksum" 0 :=
        congrArg BlockId.checksum hid
      simp only [if_neg hbackend, hbytes]
      constructor
      · rintro ⟨hblock, ⟨hlen', hsum'⟩, hcontents⟩
        rw [hlen] at hlen'
        rw [hsum] at hsum'
        rw [hid, hk, hsum'] at hcontents
        exact .inr ⟨trivial, hselects, .inr ⟨hbytes, hk ▸ hblock, hsum', hlen', hcontents⟩⟩
      · rintro (⟨hv, -⟩ | ⟨-, -, ⟨hsome, -⟩ | ⟨-, hblock, hsum', hlen', hcontents⟩⟩)
        · exact absurd rfl hv
        · rw [hbytes] at hsome
          cases hsome
        · refine ⟨hk ▸ hblock, ⟨hlen.trans hlen', hsum.trans hsum'⟩, ?_⟩
          rw [hid, hk, hsum']
          exact hcontents
  | @sealed bytes hselects hbackend hbytes hwrite hroot hkind hid hlen =>
      have hk : next.objectPayloadKind = st.req.payload.sealedKind := congrArg BlockId.kind hid
      have hfits : v ≠ [] → bytes = v.take 1023 := fun hv =>
        Option.some.inj (hbytes.symm.trans (hwhole hv))
      simp only [if_neg hbackend, hbytes, hwrite]
      rw [backs_set_written_iff (hk ▸ hkind) ⟨hlen, congrArg BlockId.checksum hid⟩ fun hv => by
        rw [hfits hv]
        refine ⟨by simpa using hv, ?_⟩
        have := List.length_take_le 1023 v
        omega]
      by_cases hv : v = []
      · subst hv
        constructor
        · rintro ⟨rfl, hne⟩
          exact .inr ⟨rfl, hselects, .inl ⟨hbytes, hk ▸ hne rfl⟩⟩
        · rintro (⟨hv, -⟩ | ⟨-, -, ⟨hsome, hne⟩ | ⟨hnone, -⟩⟩)
          · exact absurd rfl hv
          · rw [hbytes] at hsome
            exact ⟨Option.some.inj hsome, fun _ => hk ▸ hne⟩
          · rw [hbytes] at hnone
            cases hnone
      · constructor
        · rintro ⟨rfl, -⟩
          refine .inl ⟨hv, ?_⟩
          have hcut := congrArg List.length (hfits hv)
          rw [List.length_take] at hcut
          omega
        · rintro (⟨-, hlen'⟩ | ⟨hnil, -⟩)
          · exact ⟨(hfits hv).trans (List.take_of_length_le (by omega)), fun h => absurd h hv⟩
          · exact absurd hnil hv

end Executed

/-! ## Every request -/

/-- **An inline payload is stored whole exactly when it is taken whole.**  Take any world and any put,
register or publish request with the value `v` in its first `payload_inline` line that is answered with
success.  When the request has been served the record under its key has the length and the checksum of
`v`, and its block has the contents `v`, which the retention passes do not take from it, if and only if
the value is neither empty nor longer than 1023 bytes, or its loss is made up for. -/
theorem inline_stored_iff {cfg : Config} {w : World} {st : Step} {residue : Option BlockFiles}
    {v : Bytes} (hkey : st.req.writesKey = true) (hinline : st.req.payload.inlineValue = some v)
    (hok : (w.answer cfg st).status = WireStatus.ok) :
    w.StoresWhole cfg st residue v ↔ w.TakesInline cfg st v := by
  unfold World.TakesInline
  by_cases hex : Executes cfg w.daemon.state.svc st.req
  · obtain ⟨next, assemble, hstring, hfound, ha, hnext, hstored, hlocal⟩ :=
      @World.served_of_executes cfg w st residue hex hkey hok
    rw [if_pos (World.executes_iff.mpr hex), World.storesWhole_iff hstring hfound, hstored]
    exact ha.backs_ingest_iff hnext hinline hlocal
  · have hno : ¬ w.executes cfg st.req = true := fun h => hex (World.executes_iff.mp h)
    obtain ⟨-, hblocks, hstored⟩ := @World.step_of_not_executes cfg w st residue hex
    rw [if_neg hno, World.StoresWhole, World.served, if_neg hno, hstored, hblocks]
    constructor
    · rintro ⟨key, r, hstring, hfound, hbacks, -⟩
      exact ⟨key, r, hstring, hfound, hbacks⟩
    · rintro ⟨key, r, hstring, hfound, hbacks⟩
      exact ⟨key, r, hstring, hfound, hbacks, fun _ => hbacks⟩

lemma nul_notMem_letters (n : ℕ) :
    NUL ∉ unlines [ascii "key=a", ascii "payload_inline=" ++ List.replicate n 120] := by
  have hkey : NUL ∉ ascii "key=a" := by decide
  have hname : NUL ∉ ascii "payload_inline=" := by decide
  have hlf : NUL ≠ LF := by decide
  have hvalue : NUL ∉ List.replicate n (120 : UInt8) :=
    fun h => absurd (List.eq_of_mem_replicate h) (by decide)
  simp [unlines_cons, hkey, hname, hlf, hvalue]

lemma length_letters_le {n : ℕ} (h : n ≤ 1024) :
    (unlines [ascii "key=a", ascii "payload_inline=" ++ List.replicate n 120]).length ≤
      maxPayloadLen := by
  have hkey : (ascii "key=a").length = 5 := by decide
  have hname : (ascii "payload_inline=").length = 15 := by decide
  simp only [unlines_cons, unlines_nil, List.length_append, List.length_cons, List.length_replicate,
    List.length_nil, hkey, hname, maxPayloadLen]
  omega

/-- A put of the letter x, some number of times. -/
def Step.putLetters (n : ℕ) (h : n ≤ 1024) : Step :=
  Step.idle .putObject ⟨unlines [ascii "key=a", ascii "payload_inline=" ++ List.replicate n 120],
    nul_notMem_letters n, length_letters_le h⟩

/-- A short value is stored whole. -/
theorem inline_stored_iff_short :
    World.fresh.StoresWhole .durable (Step.putLetters 3 (by decide)) none (List.replicate 3 120) :=
  (inline_stored_iff (by decide +kernel) (by decide +kernel) (by decide +kernel)).mpr
    (by
      rw [World.TakesInline, if_pos (by decide +kernel)]
      exact .inl (by decide))

/-- Of a value of 1024 bytes the first 1023 are stored, and the answer is success. -/
theorem long_inline_cut :
    (Step.putLetters 1024 le_rfl).req.payload.inlineValue = some (List.replicate 1024 120) ∧
    (World.fresh.answer .durable (Step.putLetters 1024 le_rfl)).status = WireStatus.ok ∧
    ¬ World.fresh.StoresWhole .durable (Step.putLetters 1024 le_rfl) none
      (List.replicate 1024 120) := by
  refine ⟨by decide +kernel, by decide +kernel, ?_⟩
  rintro ⟨key, r, hkey, hr, ⟨-, ⟨hlen, -⟩, -⟩, -⟩
  have hstring : (Step.putLetters 1024 le_rfl).req.payload.getString "key" 96 = some (ascii "a") := by
    decide +kernel
  have hfound : ((World.fresh.served .durable (Step.putLetters 1024 le_rfl)).findRecord
      (ascii "a")).map Record.objectBackingLen = some 1023 := by
    decide +kernel
  obtain rfl : ascii "a" = key := Option.some.inj (hstring.symm.trans hkey)
  rw [hr] at hfound
  rw [Option.map_some, hlen, List.length_replicate] at hfound
  exact absurd hfound (by decide)

end MemService
