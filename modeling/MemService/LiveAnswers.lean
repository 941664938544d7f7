import MemService.BlockGc
import MemService.KeySpace
import MemService.PagedExport
import MemService.RetentionOrder

/-!
# Stored answers and live records

A completed idempotency record holds the response of a request, and the response of a write names the key
of the record it is about.  A retention pass that deletes a record drops every stored answer that names
its key, so the two tables agree: a stored success names a record that is there.

There is one gap.  The retention passes of a request run after it has written and before its own answer is
stored.  If they delete the very record the request has written, nothing names that record yet, and the
answer is stored afterwards.  `answers_live` says that there is no other.
-/

open ByteText CNumeral

namespace MemService

/-- Every stored success that names a key names a record of the table. -/
def Service.AnswersLive (svc : Service) : Prop :=
  ∀ i r, svc.idempotency.get i = some r → r.status = WireStatus.ok →
    ∀ key, Service.responseKey r = some key → svc.findRecord key ≠ none

/-! ## Keys in responses -/

/-- A response about a record names its key. -/
lemma key_payloadFields (r : Record) :
    payloadGetString (Reply.fields r.payloadFields).response (ascii "key") 96 =
      fitValue 96 r.key.bytes := by
  rw [payloadGetString_reply (fun f hf => (fieldOf_payloadFields r f hf).1) (names_payloadFields r)
    (length_payloadFields r) (by decide) rfl]

/-- The key of the record that a write is about, as its response names it. -/
def Request.ownKey (req : Request) : Option Bytes :=
  match WireOperation.ofCode req.operation with
  | some .registerPrefixEntry =>
      (fillBlockCtx req.payload).map fun ctx => (keyOrEmpty ctx.buildPrefixKey).bytes
  | some .publishKvSegment =>
      (fillBlockCtx req.payload).map fun ctx => (keyOrEmpty ctx.buildBlockKey).bytes
  | some op => if (keyedWrites.lookup op).isSome then req.payload.getString "key" 96 else none
  | none => none

section Names

variable {env : Env} {storageRoot : Bool} {svc : Service} {p : Payload}

lemma putObject_names (hok : (putObject env storageRoot svc p).2.status = WireStatus.ok) :
    payloadGetString (putObject env storageRoot svc p).2.response (ascii "key") 96 =
      p.getString "key" 96 := by
  unfold putObject at hok ⊢
  split at hok
  · exact absurd hok (show WireStatus.invalidSession ≠ WireStatus.ok by decide)
  rename_i key hkey
  obtain ⟨hget, hne⟩ := Payload.getField_eq_some hkey
  have hspec := describes_objectRecord env storageRoot p key
  split at hok
  · rename_i s hs
    rw [hs] at hspec
    exact absurd hok hspec
  rename_i next hnext
  rw [hnext] at hspec
  obtain ⟨hk, -⟩ := hspec.key_kind
  have hnextkey : next.key = key := hk
  split at hok
  · exact absurd hok (show WireStatus.capacityExceeded ≠ WireStatus.ok by decide)
  rename_i svc' hput
  have hfields : ∀ f ∈ [("status", ascii "ok"), ("key", next.key.bytes),
      ("version", showU64 next.version)], ReplyField f := by
    simp only [List.forall_mem_cons, List.not_mem_nil, false_implies, implies_true, and_true]
    exact ⟨(@fieldOf_const next _ (by decide) _ (by decide)).1,
      (@fieldOf_text next _ (by decide) _ le_rfl next.key fun h => h.key).1,
      (@fieldOf_u64 next _ (by decide) _).1⟩
  rw [payloadGetString_reply hfields (by
      simp only [List.forall_mem_cons, List.not_mem_nil, false_implies, implies_true, and_true]
      decide) (by simp) (by decide) rfl]
  rw [hget, hnextkey]
  exact fitValue_field hne

lemma storeArtifact_names {kind : RecordKind}
    (hok : (storeArtifact env storageRoot svc p kind).2.status = WireStatus.ok) :
    payloadGetString (storeArtifact env storageRoot svc p kind).2.response (ascii "key") 96 =
      p.getString "key" 96 := by
  unfold storeArtifact at hok ⊢
  split at hok
  · exact absurd hok (show WireStatus.invalidSession ≠ WireStatus.ok by decide)
  rename_i key hkey
  obtain ⟨hget, hne⟩ := Payload.getField_eq_some hkey
  have hspec := describes_artifactRecord env storageRoot p kind key (svc.findRecord key.bytes)
  split at hok
  · rename_i s hs
    rw [hs] at hspec
    exact absurd hok hspec
  rename_i next hnext
  rw [hnext] at hspec
  obtain ⟨hk, -⟩ := hspec.key_kind
  have hnextkey : next.key = key := hk
  split at hok
  · exact absurd hok (show WireStatus.capacityExceeded ≠ WireStatus.ok by decide)
  rw [key_payloadFields, hnextkey, hget]
  exact fitValue_field hne

/-- What a getter makes of a text field is the field. -/
lemma eq_of_fitValue_field {cap : ℕ} {t : FieldText cap} {v : Bytes}
    (h : fitValue cap t.bytes = some v) : v = t.bytes := by
  have hlen := t.length_lt
  obtain ⟨rfl, -⟩ := fitValue_eq_some h
  exact List.take_of_length_le (by omega)

lemma registerState_names {ctx : BlockCtx} {prefixKey : FieldText 96} {state : KvcacheState}
    (hok : (registerState svc ctx prefixKey state).2.status = WireStatus.ok) {key : Bytes}
    (hkey : payloadGetString (registerState svc ctx prefixKey state).2.response (ascii "key") 96 =
      some key) : key = prefixKey.bytes := by
  -- the answer is about a record found under the prefix key
  have hfound {svc' : Service} {entry : Record} (hentry : svc'.findRecord prefixKey.bytes = some entry)
      (hget : payloadGetString (Reply.fields entry.payloadFields).response (ascii "key") 96 =
        some key) : key = prefixKey.bytes := by
    rw [key_payloadFields, Service.key_of_findRecord hentry] at hget
    exact eq_of_fitValue_field hget
  unfold registerState at hok hkey
  split at hok
  · exact absurd hok (show WireStatus.internal ≠ WireStatus.ok by decide)
  rename_i entry hentry
  simp only [hentry] at hkey
  split at hok
  · rename_i hstate
    rw [if_pos hstate] at hkey
    split at hok
    · exact absurd hok (show WireStatus.internal ≠ WireStatus.ok by decide)
    rename_i block hblock
    simp only [hblock] at hkey
    dsimp only at hok
    split at hok
    · exact absurd hok (show WireStatus.internal ≠ WireStatus.ok by decide)
    rename_i entry' hentry'
    simp only [hentry'] at hkey
    exact hfound hentry' hkey
  · rename_i hstate
    rw [if_neg hstate] at hkey
    exact hfound hentry hkey

lemma registerPrefix_names (hok : (registerPrefix svc p).2.status = WireStatus.ok) {key : Bytes}
    (hkey : payloadGetString (registerPrefix svc p).2.response (ascii "key") 96 = some key) :
    ∃ ctx, fillBlockCtx p = some ctx ∧ key = (keyOrEmpty ctx.buildPrefixKey).bytes := by
  have hbootstrap {ctx : BlockCtx} {out : Service × Reply}
      (herror : ∀ svc₁, svc.bootstrapKvcache ctx = .error svc₁ →
        out = (svc₁, .fail WireStatus.internal))
      (hdone : ∀ svc₁ r, svc.bootstrapKvcache ctx = .ok (svc₁, r) →
        out = registerState svc₁ ctx (keyOrEmpty ctx.buildPrefixKey)
          (p.getState KvcacheState.filled))
      (hok : out.2.status = WireStatus.ok)
      (hkey : payloadGetString out.2.response (ascii "key") 96 = some key) :
      key = (keyOrEmpty ctx.buildPrefixKey).bytes := by
    rcases hb : svc.bootstrapKvcache ctx with svc₁ | ⟨svc₁, r⟩
    · rw [herror svc₁ hb] at hok
      exact absurd hok (show WireStatus.internal ≠ WireStatus.ok by decide)
    · rw [hdone svc₁ r hb] at hok hkey
      exact registerState_names hok hkey
  unfold registerPrefix at hok hkey
  split at hok
  · exact absurd hok (show WireStatus.invalidSession ≠ WireStatus.ok by decide)
  rename_i ctx hctx
  refine ⟨ctx, hctx, ?_⟩
  simp only [hctx] at hkey
  split at hok
  · exact absurd hok (show WireStatus.invalidSession ≠ WireStatus.ok by decide)
  rename_i hresult
  rw [if_neg hresult] at hkey
  dsimp only at hok hkey
  split at hok
  · rename_i hnone
    simp only [hnone] at hkey
    exact hbootstrap (fun _ hb => by rw [hb]) (fun _ _ hb => by rw [hb]) hok hkey
  · rename_i entry hentry
    simp only [hentry] at hkey
    split at hok
    · exact absurd hok (show WireStatus.versionConflict ≠ WireStatus.ok by decide)
    rename_i hconflict
    rw [if_neg hconflict] at hkey
    split at hok
    · rename_i hknown
      rw [if_pos hknown, key_payloadFields, Service.key_of_findRecord hentry] at hkey
      exact eq_of_fitValue_field hkey
    · rename_i hunknown
      rw [if_neg hunknown] at hkey
      exact hbootstrap (fun _ hb => by rw [hb]) (fun _ _ hb => by rw [hb]) hok hkey

lemma publishReply_names (blockKey : FieldText 96) (r : Record) :
    payloadGetString (publishReply blockKey.bytes r).response (ascii "key") 96 =
      fitValue 96 blockKey.bytes := by
  have hfields : ∀ f ∈ [("status", ascii "ok"), ("key", blockKey.bytes),
      ("block_hash", r.blockHash.bytes), ("state", r.state.name), ("version", showU64 r.version)],
      ReplyField f := by
    simp only [List.forall_mem_cons, List.not_mem_nil, false_implies, implies_true, and_true]
    exact ⟨(@fieldOf_const r _ (by decide) _ (by decide)).1,
      (@fieldOf_text { r with key := blockKey } _ (by decide) _ le_rfl blockKey fun h => h.key).1,
      (@fieldOf_text r _ (by decide) _ le_rfl r.blockHash fun h => h.blockHash).1,
      (@fieldOf_state r _ (by decide) _).1, (@fieldOf_u64 r _ (by decide) _).1⟩
  rw [publishReply, payloadGetString_reply hfields (by
    simp only [List.forall_mem_cons, List.not_mem_nil, false_implies, implies_true, and_true]
    decide) (by simp) (by decide) rfl]

lemma publishState_names {blockKey : FieldText 96} {state : KvcacheState}
    (hok : (publishState svc blockKey state).2.status = WireStatus.ok) {key : Bytes}
    (hkey : payloadGetString (publishState svc blockKey state).2.response (ascii "key") 96 =
      some key) : key = blockKey.bytes := by
  unfold publishState at hok hkey
  split at hok
  · exact absurd hok (show WireStatus.internal ≠ WireStatus.ok by decide)
  rename_i record hrecord
  simp only [hrecord] at hkey
  split at hok
  · rename_i hstate
    rw [if_pos hstate] at hkey
    dsimp only at hok
    split at hok
    · exact absurd hok (show WireStatus.internal ≠ WireStatus.ok by decide)
    rename_i record' hrecord'
    simp only [hrecord'] at hkey
    rw [publishReply_names] at hkey
    exact eq_of_fitValue_field hkey
  · rename_i hstate
    rw [if_neg hstate, publishReply_names] at hkey
    exact eq_of_fitValue_field hkey

lemma publishKv_names (hok : (publishKv svc p).2.status = WireStatus.ok) {key : Bytes}
    (hkey : payloadGetString (publishKv svc p).2.response (ascii "key") 96 = some key) :
    ∃ ctx, fillBlockCtx p = some ctx ∧ key = (keyOrEmpty ctx.buildBlockKey).bytes := by
  unfold publishKv at hok hkey
  dsimp only at hok hkey
  split at hok
  · exact absurd hok (show WireStatus.invalidSession ≠ WireStatus.ok by decide)
  rename_i ctx hctx
  refine ⟨ctx, hctx, ?_⟩
  simp only [hctx] at hkey
  rcases hb : svc.bootstrapKvcache ctx with svc₁ | ⟨svc₁, record⟩
  · rw [hb] at hok
    exact absurd hok (show WireStatus.internal ≠ WireStatus.ok by decide)
  simp only [hb] at hok hkey
  split at hok
  · rename_i hnew
    rw [if_pos hnew] at hkey
    split at hok
    · exact absurd hok (show WireStatus.versionConflict ≠ WireStatus.ok by decide)
    · exact absurd hok (show WireStatus.versionConflict ≠ WireStatus.ok by decide)
    · rename_i svc₂ result hne hne' happly
      rw [happly] at hkey
      cases result with
      | failed => exact absurd rfl hne
      | wrongOwner => exact absurd rfl hne'
      | unchanged => exact publishState_names hok hkey
      | updated svc₃ => exact publishState_names hok hkey
  · rename_i hnew
    rw [if_neg hnew] at hkey
    exact publishState_names hok hkey

end Names

/-- The response of a successful write names the key of the record it is about. -/
lemma dispatch_names {req : Request} (hreq : req.KeepsTables)
    (hmut : operationMutates req.operation req.payload) {env : Env} {storageRoot : Bool}
    {s : ServiceState}
    (hok : (dispatchOperation env storageRoot s req.operation req.payload).2.status = WireStatus.ok)
    {key : Bytes}
    (hkey : payloadGetString (dispatchOperation env storageRoot s req.operation
      req.payload).2.response (ascii "key") 96 = some key) : req.ownKey = some key := by
  rcases hreq.cases hmut with ⟨w, hw, hop⟩ | hop | hop
  · have hown : req.ownKey = req.payload.getString "key" 96 := by
      simp only [keyedWrites, List.mem_cons, List.not_mem_nil, or_false] at hw
      rcases hw with rfl | rfl | rfl | rfl
      all_goals
        simp only [Request.ownKey, hop, WireOperation.ofCode_code]
        rfl
    rw [hown, ← hkey]
    rw [hop] at hok ⊢
    simp only [keyedWrites, List.mem_cons, List.not_mem_nil, or_false] at hw
    rcases hw with rfl | rfl | rfl | rfl
    · exact (putObject_names hok).symm
    · exact (storeArtifact_names hok).symm
    · exact (storeArtifact_names hok).symm
    · exact (storeArtifact_names hok).symm
  · rw [hop] at hok hkey
    obtain ⟨ctx, hctx, rfl⟩ := registerPrefix_names hok hkey
    simp only [Request.ownKey, hop, WireOperation.ofCode_code, hctx, Option.map_some]
  · rw [hop] at hok hkey
    obtain ⟨ctx, hctx, rfl⟩ := publishKv_names hok hkey
    simp only [Request.ownKey, hop, WireOperation.ofCode_code, hctx, Option.map_some]

/-! ## Deletions -/

namespace Service.AnswersLive

variable {svc svc' : Service}

/-- A deleted record takes the answers that name it along. -/
lemma deleteRecord (h : svc.AnswersLive) {i : ℕ} {r : Record} (hget : svc.records.get i = some r) :
    (svc.deleteRecord i r).AnswersLive := by
  intro j q hq hok key hkey
  have hne : key ≠ r.key.bytes := by
    intro heq
    by_cases hnil : r.key.bytes = []
    · exact (payloadGetString_subset hkey).1 (heq.trans hnil)
    · rw [Service.deleteRecord, Service.pruneIdempotency, if_neg hnil, SlotTable.get_keep,
        Option.filter_eq_some_iff] at hq
      exact absurd hkey (by simpa [heq] using hq.2)
  have hold : svc.idempotency.get j = some q := (svc.shrinks_deleteRecord i r).idempotency j q hq
  obtain ⟨live, hlive⟩ := Option.ne_none_iff_exists'.mp (h j q hold hok key hkey)
  -- the record that is named is in another slot
  obtain ⟨m, hm⟩ := SlotTable.mem_entries.mp (SlotTable.lookup_mem hlive)
  have hmi : m ≠ i := by
    rintro rfl
    rw [hget] at hm
    cases hm
    exact hne (SlotTable.lookup_key hlive).symm
  have hstays : (svc.deleteRecord i r).records.get m = some live := by
    rw [Service.records_deleteRecord, SlotTable.get_clear, if_neg hmi]
    exact hm
  intro hnone
  exact SlotTable.lookup_eq_none_iff.mp hnone live (SlotTable.mem_entries_of_get hstays)
    (SlotTable.lookup_key hlive)

lemma pruned (h : svc.AnswersLive) (hp : svc.Pruned svc') : svc'.AnswersLive := by
  induction hp with
  | refl => exact h
  | delete _ hget ih => exact ih.deleteRecord hget

/-- Writes of records keep what the answers name. -/
lemma putAll (h : svc.AnswersLive) (hu : svc.records.UniqueKeys Record.keyBytes) {rs : List Record}
    (hput : svc.putAll rs = some svc') : svc'.AnswersLive := by
  intro i r hr hok key hkey
  rw [Service.putAll_frame hput] at hr
  rw [Service.findRecord_putAll hu hput]
  intro hnone
  exact h i r hr hok key hkey (Option.or_eq_none_iff.mp hnone).2

/-- A new answer that is no success, or names a record that is there. -/
lemma complete (h : svc.AnswersLive) {pending : Option (ℕ × FieldText 96)} (hres : svc.Reserves pending)
    {req : Request} {reply : Reply}
    (hnew : reply.status = WireStatus.ok → pending ≠ none → ∀ key,
      payloadGetString (ResponseText.copy reply.response).bytes (ascii "key") 96 = some key →
        svc.findRecord key ≠ none) : (svc.complete pending req reply).AnswersLive := by
  intro i r hr hok key hkey
  have hrecords := (records_complete svc pending req reply).1
  rw [Service.findRecord, hrecords]
  cases pending with
  | none => exact h i r hr hok key hkey
  | some sk =>
      obtain ⟨slot, ikey⟩ := sk
      obtain ⟨hslot, -, -⟩ := hres slot ikey rfl
      rw [get_complete hslot] at hr
      split at hr
      · cases hr
        exact hnew hok (by simp) key hkey
      · exact h i r hr hok key hkey

/-- Only the two tables matter. -/
lemma congr (h : svc.AnswersLive) (hrecords : svc'.records = svc.records)
    (hidem : ∀ i, svc'.idempotency.get i = svc.idempotency.get i) : svc'.AnswersLive := by
  intro i r hr hok key hkey
  rw [Service.findRecord, hrecords]
  exact h i r (by rw [← hidem]; exact hr) hok key hkey

end Service.AnswersLive

/-! ## Requests and retention passes -/

/-- The records that the retention passes of a successful mutating request leave, of those it finds. -/
def Config.leaves (cfg : Config) (req : Request) (nowMs : UInt64) (l : List (ℕ × Record)) :
    List (ℕ × Record) :=
  match cfg.limits with
  | none => l
  | some limits =>
      Service.leftByRecords limits nowMs
        (if req.operation = WireOperation.registerTrainingArtifact.code then
          Service.leftByCheckpoints limits.maxCheckpointRecords l
        else l)

lemma indexedFrom_executeOperation {cfg : Config} {env : Env} {s : ServiceState} {req : Request}
    (hcounts : (dispatchOperation env cfg.storageRoot s req.operation req.payload).1.svc.CountsRecords)
    (hok : (dispatchOperation env cfg.storageRoot s req.operation req.payload).2.status = WireStatus.ok)
    (hmut : operationMutates req.operation req.payload) :
    (executeOperation cfg env s req).1.svc.records.indexedFrom 0 =
      cfg.leaves req env.retentionNowMs ((dispatchOperation env cfg.storageRoot s req.operation
        req.payload).1.svc.records.indexedFrom 0) := by
  unfold executeOperation Config.leaves
  generalize dispatchOperation env cfg.storageRoot s req.operation req.payload = out at hcounts hok ⊢
  cases cfg.limits with
  | none => rfl
  | some limits =>
      dsimp only
      rw [if_pos ⟨hok, hmut⟩]
      by_cases hop : req.operation = WireOperation.registerTrainingArtifact.code
      · rw [if_pos ⟨hok, hop⟩, if_pos hop, ← Service.indexedFrom_applyCheckpointRetention]
        exact Service.indexedFrom_applyRecordRetention
          (hcounts.pruned (Service.passed_applyCheckpointRetention _ _).pruned) _ _
      · rw [if_neg fun h => hop h.2, if_neg hop]
        exact Service.indexedFrom_applyRecordRetention hcounts _ _

/-- The retention passes of the request leave a record under the key it has written, if its answer is
going to be stored; and it restores no snapshot. -/
structure KeepsOwn (cfg : Config) (d : Daemon) (st : Step) : Prop where
  tables : st.req.KeepsTables
  own : Executes cfg d.state.svc st.req → operationMutates st.req.operation st.req.payload →
    idempotencyKey st.req.payload ≠ none →
    (dispatchOperation st.env cfg.storageRoot d.state st.req.operation st.req.payload).2.status =
      WireStatus.ok → ∀ key, st.req.ownKey = some key →
        ∃ s ∈ cfg.leaves st.req st.env.retentionNowMs ((dispatchOperation st.env cfg.storageRoot d.state
            st.req.operation st.req.payload).1.svc.records.indexedFrom 0), s.2.keyBytes = key

/-- The passes leave the written record. -/
lemma KeepsOwn.findRecord {cfg : Config} {d : Daemon} {st : Step} (h : KeepsOwn cfg d st)
    (hw : d.WellFormed) (hexec : Executes cfg d.state.svc st.req)
    (hmut : operationMutates st.req.operation st.req.payload)
    (hidem : idempotencyKey st.req.payload ≠ none)
    (hok : (dispatchOperation st.env cfg.storageRoot d.state st.req.operation st.req.payload).2.status =
      WireStatus.ok) {key : Bytes} (hkey : st.req.ownKey = some key) :
    (executeOperation cfg st.env d.state st.req).1.svc.findRecord key ≠ none := by
  have heff := dispatchOperation_effect st.env cfg.storageRoot hw.1.recordKeys st.req
  obtain ⟨s, hs, hown⟩ := h.own hexec hmut hidem hok key hkey
  rw [← indexedFrom_executeOperation (heff.wellFormed hw.1 hw.2).1.recordCount hok hmut] at hs
  have hmem := SlotTable.mem_entries_of_get (SlotTable.mem_indexedFrom_iff.mp hs)
  exact fun hnone => SlotTable.lookup_eq_none_iff.mp hnone s.2 hmem hown

/-- The service an answered request leaves, before its answer is stored. -/
structure Unstored (cfg : Config) (d : Daemon) (st : Step) (svc : Service) : Prop where
  stored : (answerRequest cfg st.env d.state st.req).state.svc =
    svc.complete (answerRequest cfg st.env d.state st.req).pending st.req
      (answerRequest cfg st.env d.state st.req).reply
  live : svc.AnswersLive
  reserves : svc.Reserves (answerRequest cfg st.env d.state st.req).pending
  named : (answerRequest cfg st.env d.state st.req).reply.status = WireStatus.ok →
    (answerRequest cfg st.env d.state st.req).pending ≠ none → ∀ key,
      payloadGetString (answerRequest cfg st.env d.state st.req).reply.response (ascii "key") 96 =
        some key → svc.findRecord key ≠ none

section Step

variable {cfg : Config} {d : Daemon} {st : Step}

lemma exists_unstored (hw : d.WellFormed) (h : d.state.svc.AnswersLive) (hkeep : KeepsOwn cfg d st) :
    ∃ svc, Unstored cfg d st svc := by
  have hu := hw.1.recordKeys
  cases hreplay : tryIdempotencyReplay d.state.svc st.req.operation st.req.payload with
  | handled reply =>
      have hans : answerRequest cfg st.env d.state st.req = ⟨d.state, reply, none, true, false, false⟩ :=
        answerRequest_handled hreplay
      refine ⟨d.state.svc, ?_, h, ?_, ?_⟩
      · rw [hans]
        rfl
      · rw [hans]
        exact d.state.svc.reserves_none
      · rw [hans]
        exact fun _ hnone => absurd rfl hnone
  | execute pending =>
      have hreserves := reserves_of_execute hreplay
      cases hq : quotaRefuses d.state.svc cfg.limits
          (estimateNewRecordCount d.state.svc st.req.payload st.req.operation) with
      | true =>
          have hans : answerRequest cfg st.env d.state st.req =
              ⟨⟨d.state.svc.complete pending st.req (quotaReply d.state.svc cfg.limits
                (estimateNewRecordCount d.state.svc st.req.payload st.req.operation)), d.state.stage⟩,
                quotaReply d.state.svc cfg.limits
                  (estimateNewRecordCount d.state.svc st.req.payload st.req.operation),
                pending, false, false, false⟩ := by
            simp only [answerRequest, hreplay, hq, if_true]
          refine ⟨d.state.svc, ?_, h, ?_, ?_⟩
          · rw [hans]
          · rw [hans]
            exact hreserves
          · rw [hans]
            exact fun hok => absurd hok (show WireStatus.capacityExceeded ≠ WireStatus.ok by decide)
      | false =>
          have hexec := executeOperation_executed cfg st.env d.state st.req
          obtain ⟨rs, hput, -⟩ := dispatch_targets hu hkeep.tables st.env cfg.storageRoot
          have hans : answerRequest cfg st.env d.state st.req =
              ⟨{ (executeOperation cfg st.env d.state st.req).1 with
                  svc := (executeOperation cfg st.env d.state st.req).1.svc.complete pending st.req
                    (executeOperation cfg st.env d.state st.req).2.1 },
                (executeOperation cfg st.env d.state st.req).2.1, pending, false,
                (executeOperation cfg st.env d.state st.req).2.2.1,
                (executeOperation cfg st.env d.state st.req).2.2.2⟩ := by
            simp only [answerRequest, hreplay, hq, Bool.false_eq_true, if_false]
          refine ⟨(executeOperation cfg st.env d.state st.req).1.svc, ?_, ?_, ?_, ?_⟩
          · rw [hans]
          · exact (h.putAll hu hput).pruned hexec.pruned
          · rw [hans]
            refine hreserves.mono fun i r hr => ?_
            have hout := hexec.pruned.shrinks.idempotency i r hr
            rw [Service.putAll_frame hput] at hout
            exact hout
          · rw [hans]
            intro hok hpending key hkey
            dsimp only at hok hpending hkey
            rw [hexec.reply] at hok hkey
            obtain ⟨hnone, -⟩ | ⟨slot, ikey, -, hmut, hidem, -⟩ := tryIdempotencyReplay_execute hreplay
            · exact absurd hnone hpending
            · exact hkeep.findRecord hw ⟨⟨pending, hreplay⟩, hq⟩ hmut (by rw [hidem]; simp) hok
                (dispatch_names hkeep.tables hmut hok hkey)

/-- One request keeps the stored answers live. -/
lemma answersLive_step (hw : d.WellFormed) (h : d.state.svc.AnswersLive) (hkeep : KeepsOwn cfg d st) :
    (d.step cfg st).state.svc.AnswersLive := by
  obtain ⟨svc, hun⟩ := exists_unstored hw h hkeep
  have hrecords : (d.step cfg st).state.svc.records = svc.records := by
    rw [(d.step_records cfg st).1, hun.stored, (records_complete _ _ _ _).1]
  have hlive : (svc.complete (answerRequest cfg st.env d.state st.req).pending st.req
      (d.answer cfg st)).AnswersLive := by
    refine hun.live.complete hun.reserves fun hok hpending key hkey => ?_
    have hfits := hw.answer_fits hpending
    rw [ResponseText.bytes_copy hfits.noNul hfits.short] at hkey
    -- a success that is stored is the answer of the first stage
    rcases d.answer_cases cfg st with heq | ⟨-, -, -, heq⟩
    · rw [heq] at hok hkey
      exact hun.named hok hpending key hkey
    · rw [heq] at hok
      exact absurd hok (by decide)
  refine hlive.congr ?_ (hw.step_idempotency_of hun.stored)
  rw [hrecords, (records_complete _ _ _ _).1]

end Step

/-! ## Runs -/

/-- The condition on an input of a run. -/
def World.KeepsOwn (cfg : Config) (w : World) : Input → Prop
  | .request st _ => MemService.KeepsOwn cfg w.daemon (w.seen st)
  | .retention _ _ => True

/-- One input of the run. -/
lemma World.answersLive_step {cfg : Config} {w : World} {i : Input}
    (h : w.daemon.WellFormed ∧ w.daemon.state.svc.AnswersLive) (hi : w.KeepsOwn cfg i) :
    (w.step cfg i).daemon.WellFormed ∧ (w.step cfg i).daemon.state.svc.AnswersLive := by
  obtain ⟨hw, hlive⟩ := h
  cases i with
  | request st residue => exact ⟨hw.step (w.seen st), MemService.answersLive_step hw hlive hi⟩
  | retention limits nowMs =>
      have hpruned := (Service.passed_applyCheckpointRetention
        (w.daemon.state.svc.applyAuditRetention limits.maxAuditEvents).1
        limits.maxCheckpointRecords).pruned.trans
          (Service.passed_applyRecordRetention _ limits nowMs).pruned
      have haudited :
          (w.daemon.state.svc.applyAuditRetention limits.maxAuditEvents).1.AnswersLive := by
        rw [Service.applyAuditRetention_frame]
        exact hlive.congr rfl fun _ => rfl
      exact ⟨⟨hpruned.wellFormed (hw.1.applyAuditRetention _), hw.2⟩, haudited.pruned hpruned⟩

/-- **Stored answers are about live records.**  In every run of requests and retention passes from a
start without files, whose requests restore nothing and keep the record they have just written, every
stored success that names a key names a record of the table, in every state of the run. -/
theorem answers_live (cfg : Config) (is : List Input)
    (h : Run.Along (World.step cfg) (World.KeepsOwn cfg) World.fresh is) (n : ℕ) :
    (World.fresh.run cfg (is.take n)).daemon.state.svc.AnswersLive := by
  have hfresh : World.fresh.daemon.WellFormed ∧ World.fresh.daemon.state.svc.AnswersLive := by
    refine ⟨(Daemon.reachable_fresh cfg).wellFormed, fun i r hr => ?_⟩
    exact absurd hr (by simp [World.fresh, Daemon.fresh, Service.fresh])
  have hinv := Run.Along.invariant
    (I := fun w : World => w.daemon.WellFormed ∧ w.daemon.state.svc.AnswersLive)
    h hfresh (fun _ _ hw hi => World.answersLive_step hw hi) n
  exact hinv.2

/-- Two objects put with idempotency keys, the second with the higher version. -/
def putLater : List Input :=
  [.idle .putObject ⟨unlines [ascii "key=a", ascii "version=1", ascii "idempotency_key=i"],
      by decide, by decide⟩,
    .idle .putObject ⟨unlines [ascii "key=b", ascii "version=5", ascii "idempotency_key=k"],
      by decide, by decide⟩]

theorem answers_live_later :
    (World.fresh.run .keepsOne putLater).daemon.state.svc.AnswersLive ∧
    (World.fresh.run .keepsOne putLater).daemon.state.svc.idempotency.entries.map (·.key.bytes) =
      [ascii "k"] := by
  have htables : ∀ st : Step, st.req.operation = WireOperation.putObject.code →
      st.req.KeepsTables := fun st hop _ =>
    ⟨by rw [hop]; decide, by rw [hop]; decide⟩
  refine ⟨answers_live .keepsOne putLater ⟨⟨htables _ rfl, ?_⟩, ⟨htables _ rfl, ?_⟩, trivial⟩ 2,
    by decide +kernel⟩
  · intro _ _ _ _ key hkey
    cases hkey
    decide +kernel
  · intro _ _ _ _ key hkey
    cases hkey
    decide +kernel

/-- The second object with the lower version. -/
def putEarlier : List Input :=
  [.idle .putObject ⟨unlines [ascii "key=a", ascii "version=5"], by decide, by decide⟩,
    .idle .putObject ⟨unlines [ascii "key=b", ascii "version=1", ascii "idempotency_key=k"],
      by decide, by decide⟩]

/-- The pass of the second request deletes its own object, and its success is stored afterwards. -/
theorem answer_outlives_record :
    (World.fresh.run .keepsOne putEarlier).daemon.state.svc.idempotency.entries.map
        (fun r => (r.operation, r.status, Service.responseKey r)) =
      [(WireOperation.putObject.code, WireStatus.ok, some (ascii "b"))] ∧
    (World.fresh.run .keepsOne putEarlier).daemon.state.svc.findRecord (ascii "b") = none := by
  decide +kernel

end MemService
