import MemService.Invariant

/-!
# What the handlers can do

One inversion lemma for every handler that writes, and from them `dispatchOperation_effect`: a
dispatched request leaves the service alone, or makes a chain of record writes, or installs restored
tables, or changes the restore stage.  Every later result about requests goes through these lemmas
and unfolds no handler.

Beside the tables the lemmas say what the reply of a writing handler looks like: whole lines that
fit the response buffer, so that the idempotency record made of it can be stored.
-/

open ByteText CNumeral

namespace MemService

/-! ## Replies -/

/-- A field of a reply: a short plain name and a plain value that fits a text field. -/
def ReplyField (f : String × Bytes) : Prop :=
  (Plain (ascii f.1) ∧ (ascii f.1).length ≤ 30) ∧ Plain f.2 ∧ f.2.length ≤ 95

/-- A response an idempotency record can hold and a store can carry. -/
structure ResponseFits (response : Bytes) : Prop where
  lines : ResponseLines response
  noNul : NUL ∉ response
  short : response.length < maxPayloadLen

lemma ResponseFits.nil : ResponseFits [] := ⟨⟨.inl rfl, by simp⟩, by simp, by decide⟩

/-- Whole lines of plain bytes, few and short enough, fit. -/
lemma responseFits_unlines {ls : List Bytes} (hls : ∀ l ∈ ls, Plain l ∧ l.length ≤ 126)
    (hlen : ls.length ≤ 32) : ResponseFits (unlines ls) := by
  have hshort : (unlines ls).length ≤ 127 * ls.length := by
    clear hlen
    induction ls with
    | nil => simp
    | cons l ls ih =>
        have := ih fun m hm => hls m (by simp [hm])
        have := (hls l (by simp)).2
        rw [unlines_cons, List.length_append, List.length_cons, List.length_cons]
        omega
  refine ⟨responseLines_unlines fun l hl => ⟨(hls l hl).1.lf, ?_⟩, ?_, ?_⟩
  · have := (hls l hl).2
    omega
  · exact nul_notMem_unlines fun l hl => (hls l hl).1.nul
  · show (unlines ls).length < 4096
    omega

lemma ReplyField.line {f : String × Bytes} (h : ReplyField f) :
    Plain (fieldLine f.1 f.2) ∧ (fieldLine f.1 f.2).length ≤ 126 := by
  obtain ⟨⟨hn, hnl⟩, hv, hvl⟩ := h
  refine ⟨hn.append ?_, ?_⟩
  · intro b hb
    rcases List.mem_cons.mp hb with rfl | hb
    · decide
    · exact hv b hb
  · rw [fieldLine, List.length_append, List.length_cons]
    omega

lemma respond_eq {ls : List Bytes} (h : (unlines ls).length < maxPayloadLen) :
    respond ls = unlines ls := by
  rw [respond, snprintf, List.take_of_length_le]
  omega

/-- The response of a reply of fields is the text of its lines, and it fits. -/
lemma Reply.fields_fits {fs : List (String × Bytes)} (hfs : ∀ f ∈ fs, ReplyField f)
    (hlen : fs.length ≤ 32) :
    (Reply.fields fs).response = unlines (fs.map fun f => fieldLine f.1 f.2) ∧
      ResponseFits (Reply.fields fs).response := by
  have hfits : ResponseFits (unlines (fs.map fun f => fieldLine f.1 f.2)) := by
    refine responseFits_unlines (fun l hl => ?_) (by simpa using hlen)
    obtain ⟨f, hf, rfl⟩ := List.mem_map.mp hl
    exact (hfs f hf).line
  have heq : (Reply.fields fs).response = unlines (fs.map fun f => fieldLine f.1 f.2) :=
    respond_eq hfits.short
  exact ⟨heq, heq ▸ hfits⟩

/-! ## The payload description of a record -/

/-- The payload description of a record was filled in: everything else is as before, and the
backend reference is the old one or points to the SSD. -/
structure Record.Described (r next : Record) : Prop where
  rest : next = { r with
    objectPayloadKind := next.objectPayloadKind
    objectBackingOffset := next.objectBackingOffset
    objectBackingLen := next.objectBackingLen
    objectPayloadChecksum := next.objectPayloadChecksum
    objectBackend := next.objectBackend }
  backend : next.objectBackend = r.objectBackend ∨
    next.objectBackend.kind = objectBackendUbSsdGsva

lemma Record.Described.refl (r : Record) : r.Described r := ⟨rfl, .inl rfl⟩

lemma Record.Described.trans {r s t : Record} (h : r.Described s) (h' : s.Described t) :
    r.Described t := by
  refine ⟨?_, ?_⟩
  · rw [h'.rest, h.rest]
  · rcases h'.backend with hb | hb
    · rcases h.backend with hb' | hb'
      · exact .inl (hb.trans hb')
      · exact .inr (hb ▸ hb')
    · exact .inr hb

/-- A block step on a record: it describes the payload, or it fails with a status that says so. -/
def Describes (r : Record) : Except WireStatus Record → Prop
  | .ok next => r.Described next
  | .error s => s ≠ WireStatus.ok

lemma Describes.bind {r : Record} {x : Except WireStatus Record}
    {f : Record → Except WireStatus Record} (hx : Describes r x)
    (hf : ∀ next, r.Described next → Describes r (f next)) : Describes r (x >>= f) := by
  cases x with
  | error s => exact hx
  | ok next => exact hf next hx

/-- A check in front of a block step. -/
lemma Describes.guard {r : Record} {c : Prop} [Decidable c] {s : WireStatus}
    {x : Except WireStatus Record} (hs : s ≠ WireStatus.ok) (hx : Describes r x) :
    Describes r (if c then .error s else x) := by
  split
  · exact hs
  · exact hx

section Blocks

variable (env : Env) (storageRoot : Bool) (p : Payload) (r : Record)

lemma describes_sealPayloadBlock (kind : UInt32) (source : Except FailStatus Bytes) :
    Describes r (sealPayloadBlock env p kind source r) := by
  unfold sealPayloadBlock
  rcases env.blockWrite with _ | s | s
  · cases source with
    | error s => exact s.2
    | ok bytes =>
        refine .guard (by decide) (.guard (by decide) ?_)
        exact ⟨rfl, .inl rfl⟩
  · exact s.2
  · cases source with
    | error s => exact s.2
    | ok bytes =>
        refine .guard (by decide) (.guard (by decide) ?_)
        exact s.2

lemma describes_writePayloadBlock (payloadInline payloadPath : Bytes) :
    Describes r (writePayloadBlock env storageRoot p payloadInline payloadPath r) := by
  have hseal := describes_sealPayloadBlock env p r
  unfold writePayloadBlock
  dsimp only [bind, Except.bind, pure, Except.pure]
  split
  · exact .refl r
  refine .guard (by decide) (.guard (by decide) ?_)
  split
  · exact hseal _ _
  split
  · exact .guard (by decide) (hseal _ _)
  · exact .guard (by decide) (hseal _ _)

lemma describes_attachUbSsdBackendRef (node deviceCna flags : UInt32) (ref : UbSsdBlockRef)
    {s : WireStatus} (hs : s ≠ WireStatus.ok) :
    Describes r (match attachUbSsdBackendRef r node deviceCna flags ref with
      | none => .error s
      | some next => .ok next) := by
  unfold attachUbSsdBackendRef
  split
  · exact hs
  · rename_i next hnext
    split at hnext
    · cases hnext
    · obtain rfl := Option.some.inj hnext
      exact ⟨rfl, .inr rfl⟩

lemma describes_applyUbSsdBackendRef (payloadInline payloadPath : Bytes) :
    Describes r (applyUbSsdBackendRef p payloadInline payloadPath r) := by
  have hattach := fun n d f ref => describes_attachUbSsdBackendRef r n d f ref
    (show WireStatus.invalidSession ≠ WireStatus.ok by decide)
  have hinvalid : Describes r (.error WireStatus.invalidSession) :=
    show WireStatus.invalidSession ≠ WireStatus.ok by decide
  unfold applyUbSsdBackendRef
  dsimp only [bind, Except.bind, pure, Except.pure]
  split
  · exact .refl r
  refine .guard (by decide) ?_
  split
  · split
    · split
      · exact hattach _ _ _ _
      · split
        · exact .guard (by decide) (hattach _ _ _ _)
        · exact hinvalid
    · exact hinvalid
  · exact hinvalid

lemma describes_writeUbSsdBackendBlock : Describes r (writeUbSsdBackendBlock env p r) := by
  unfold writeUbSsdBackendBlock ubSsdSubmit
  split
  · cases env.ubSsd with
    | error s => exact s.2
    | ok cpl => exact describes_attachUbSsdBackendRef r _ _ _ _ (by decide)
  · show WireStatus.invalidSession ≠ WireStatus.ok
    decide

end Blocks

/-! ## Replies that describe a record -/

/-- A field name of the replies. -/
def ReplyName (n : String) : Prop := Plain (ascii n) ∧ (ascii n).length ≤ 30

instance (n : String) : Decidable (ReplyName n) := inferInstanceAs (Decidable (_ ∧ _))

/-- A field of a reply about `r`: it fits, and its value is clean if the texts of `r` are. -/
def FieldOf (r : Record) (f : String × Bytes) : Prop :=
  ReplyField f ∧ (r.TextClean → NoTrailingCR f.2)

section FieldOf

variable {r : Record} {name : String}

lemma fieldOf_text (hn : ReplyName name) {cap : ℕ} (hcap : cap ≤ 96) {t : FieldText cap}
    (ht : r.TextClean → t.Clean) : FieldOf r (name, t.bytes) := by
  have := t.length_lt
  exact ⟨⟨hn, t.plain, by simp only; omega⟩, ht⟩

lemma fieldOf_decimal (hn : ReplyName name) {n : ℕ} (h : n < 10 ^ 95) :
    FieldOf r (name, decimal n) := by
  refine ⟨⟨hn, plain_decimal n, length_decimal_le (by norm_num) h⟩, fun _ => ?_⟩
  exact (trimLine_eq_self_iff (plain_decimal n).lf).mp (trimLine_decimal n)

lemma fieldOf_u32 (hn : ReplyName name) (n : UInt32) : FieldOf r (name, showU32 n) :=
  fieldOf_decimal hn (Nat.lt_trans n.toNat_lt (by norm_num))

lemma fieldOf_u64 (hn : ReplyName name) (n : UInt64) : FieldOf r (name, showU64 n) :=
  fieldOf_decimal hn (Nat.lt_trans n.toNat_lt (by norm_num))

/-- A field whose value is one of a few constant texts. -/
lemma fieldOf_const (hn : ReplyName name) {v : Bytes}
    (hv : Plain v ∧ v.length ≤ 95 ∧ NoTrailingCR v) : FieldOf r (name, v) :=
  ⟨⟨hn, hv.1, hv.2.1⟩, fun _ => hv.2.2⟩

lemma fieldOf_ite (c : Prop) [Decidable c] {v w : Bytes} (hv : FieldOf r (name, v))
    (hw : FieldOf r (name, w)) : FieldOf r (name, if c then v else w) := by
  split
  · exact hv
  · exact hw

lemma fieldOf_state (hn : ReplyName name) (s : KvcacheState) : FieldOf r (name, s.name) := by
  unfold KvcacheState.name
  refine fieldOf_ite _ (fieldOf_const hn (by decide)) ?_
  refine fieldOf_ite _ (fieldOf_const hn (by decide)) ?_
  refine fieldOf_ite _ (fieldOf_const hn (by decide)) ?_
  exact fieldOf_ite _ (fieldOf_const hn (by decide)) (fieldOf_const hn (by decide))

end FieldOf

lemma fieldOf_placementFields (r : Record) : ∀ f ∈ r.placementFields, FieldOf r f := by
  simp only [Record.placementFields, List.forall_mem_cons, List.not_mem_nil, false_implies,
    implies_true, and_true]
  have hsmall : (64 : ℕ) ≤ 96 := by norm_num
  refine ⟨?_, ?_, ?_, ?_, ?_, ?_, ?_, ?_, ?_, ?_, ?_, ?_, ?_, ?_, ?_, ?_, ?_, ?_, ?_⟩
  · exact fieldOf_text (by decide) hsmall fun h => h.requestId
  · exact fieldOf_text (by decide) hsmall fun h => h.prefixGroup
  · exact fieldOf_text (by decide) hsmall fun h => h.groupId
  · exact fieldOf_ite _ (fieldOf_text (by decide) hsmall fun h => h.sessionId)
      (fieldOf_text (by decide) hsmall fun h => h.requestId)
  · exact fieldOf_ite _ (fieldOf_text (by decide) hsmall fun h => h.modelKey)
      (fieldOf_text (by decide) hsmall fun h => h.prefixGroup)
  · exact fieldOf_ite _ (fieldOf_text (by decide) hsmall fun h => h.artifactKind)
      (fieldOf_text (by decide) hsmall fun h => h.groupId)
  · exact fieldOf_ite _ (fieldOf_text (by decide) le_rfl fun h => h.artifactId)
      (fieldOf_text (by decide) le_rfl fun h => h.blockHash)
  · exact fieldOf_text (by decide) le_rfl fun h => h.blockHash
  · exact fieldOf_u32 (by decide) _
  · exact fieldOf_u32 (by decide) _
  · exact fieldOf_u64 (by decide) _
  · exact fieldOf_state (by decide) _
  · exact fieldOf_u64 (by decide) _
  · exact fieldOf_u64 (by decide) _
  · exact fieldOf_u32 (by decide) _
  · exact fieldOf_u32 (by decide) _
  · exact fieldOf_u64 (by decide) _
  · exact fieldOf_u64 (by decide) _
  · exact fieldOf_u64 (by decide) _

lemma fieldOf_backendFields (r : Record) : ∀ f ∈ r.backendFields, FieldOf r f := by
  unfold Record.backendFields
  split
  · simp
  · simp only [List.forall_mem_cons, List.not_mem_nil, false_implies, implies_true, and_true]
    refine ⟨?_, ?_, ?_, ?_, ?_, ?_, ?_, ?_, ?_, ?_, ?_⟩
    · unfold objectBackendName
      refine fieldOf_ite _ (fieldOf_const (by decide) (by decide)) ?_
      exact fieldOf_ite _ (fieldOf_const (by decide) (by decide))
        (fieldOf_const (by decide) (by decide))
    · exact fieldOf_u32 (by decide) _
    · exact fieldOf_u32 (by decide) _
    · exact fieldOf_u32 (by decide) _
    · exact fieldOf_u32 (by decide) _
    · exact fieldOf_u64 (by decide) _
    · exact fieldOf_u64 (by decide) _
    · exact fieldOf_u64 (by decide) _
    · exact fieldOf_u64 (by decide) _
    · exact fieldOf_u64 (by decide) _
    · exact fieldOf_u64 (by decide) _

/-- A reply of fields about `r`. -/
structure ReplyOf (r : Record) (reply : Reply) : Prop where
  status : reply.status = WireStatus.ok
  fits : ResponseFits reply.response
  clean : r.TextClean → ∀ l ∈ lines reply.response, NoTrailingCR l

lemma noTrailingCR_fieldLine {n : String} {v : Bytes} (h : NoTrailingCR v) :
    NoTrailingCR (fieldLine n v) := by
  rcases v.eq_nil_or_concat with rfl | ⟨w, b, rfl⟩
  · rw [fieldLine, NoTrailingCR, List.getLast?_append_of_ne_nil _ (by simp)]
    decide
  · exact noTrailingCR_append (by
      rw [NoTrailingCR, List.concat_eq_append, ← List.cons_append, List.getLast?_concat]
      rw [NoTrailingCR, List.concat_eq_append, List.getLast?_concat] at h
      exact h) (by simp)

lemma replyOf_fields {r : Record} {fs : List (String × Bytes)} (hfs : ∀ f ∈ fs, FieldOf r f)
    (hlen : fs.length ≤ 32) : ReplyOf r (.fields fs) := by
  obtain ⟨heq, hfits⟩ := Reply.fields_fits (fun f hf => (hfs f hf).1) hlen
  refine ⟨rfl, hfits, fun hclean l hl => ?_⟩
  have hplain : ∀ l ∈ fs.map (fun f => fieldLine f.1 f.2), LF ∉ l := by
    intro l hl
    obtain ⟨f, hf, rfl⟩ := List.mem_map.mp hl
    exact (hfs f hf).1.line.1.lf
  rw [heq, ← List.append_nil (unlines _), lines_unlines hplain, lines_nil, List.append_nil] at hl
  obtain ⟨f, hf, rfl⟩ := List.mem_map.mp hl
  exact noTrailingCR_fieldLine ((hfs f hf).2 hclean)

lemma fieldOf_payloadFields (r : Record) : ∀ f ∈ r.payloadFields, FieldOf r f := by
  intro f hf
  simp only [Record.payloadFields, List.mem_append, List.mem_cons, List.not_mem_nil, or_false] at hf
  rcases hf with ((rfl | rfl) | hf) | hf
  · exact fieldOf_text (by decide) le_rfl fun h => h.key
  · exact fieldOf_u32 (by decide) _
  · exact fieldOf_placementFields r f hf
  · exact fieldOf_backendFields r f hf

lemma length_payloadFields (r : Record) : r.payloadFields.length ≤ 32 := by
  have hb : r.backendFields.length ≤ 11 := by
    unfold Record.backendFields
    split <;> simp
  simp only [Record.payloadFields, Record.placementFields, List.length_append, List.length_cons,
    List.length_nil]
  omega

lemma replyOf_payloadFields (r : Record) : ReplyOf r (.fields r.payloadFields) :=
  replyOf_fields (fieldOf_payloadFields r) (length_payloadFields r)

/-! ## Writers of one record -/

namespace Payload

variable {p : Payload}

lemma plain_getString {name : String} {cap : ℕ} {v : Bytes} (h : p.getString name cap = some v) :
    Plain v := by
  obtain ⟨-, l, hl, hsub⟩ := payloadGetString_subset h
  exact (plain_of_mem_lines p.noNul hl).of_subset hsub

/-- A text field that was read is not empty, and it is what the getter returned. -/
lemma getField_eq_some {name : String} {cap : ℕ} [NeZero cap] {t : FieldText cap}
    (h : p.getField name cap = some t) : p.getString name cap = some t.bytes ∧ t.bytes ≠ [] := by
  obtain ⟨v, hv, rfl⟩ := Option.map_eq_some_iff.mp h
  have hlen := length_payloadGetString hv
  have hcopy : (FieldText.copy v : FieldText cap).bytes = v := by
    rw [FieldText.bytes_copy (plain_getString hv), List.take_of_length_le (by omega)]
  rw [hcopy]
  exact ⟨hv, (payloadGetString_subset hv).1⟩

/-- The key of an object or artifact request is stored as it is. -/
def KeyClean (p : Payload) : Prop := ∀ key, p.getField "key" 96 = some key → key.Clean

/-- The text fields of an artifact request are stored as they are. -/
structure ArtifactClean (p : Payload) : Prop where
  key : p.KeyClean
  sessionId : (p.getOptionalField "session_id" 64).Clean
  requestId : (p.getOptionalField "request_id" 64).Clean
  modelKey : (p.getOptionalField "model_key" 64).Clean
  artifactKind : (p.getOptionalField "artifact_kind" 64).Clean
  artifactId : (p.getOptionalField "artifact_id" 96).Clean
  blockHash : (p.getOptionalField "block_hash" 96).Clean

end Payload

/-- Filling in the payload description keeps a record storable. -/
lemma Record.Storable.described {r next : Record} (h : r.Storable) (hd : r.Described next) :
    next.Storable := by
  have hb : next.objectBackend.kind = objectBackendObmmPool → next.objectBackend = {} := by
    intro hk
    rcases hd.backend with heq | hssd
    · rw [heq]
      exact h.backend (heq ▸ hk)
    · rw [hssd] at hk
      exact absurd hk (by decide)
  rw [hd.rest] at hb ⊢
  exact { h with backend := hb }

/-- How a writer of one record ends: it refuses, or it writes a record of its kind under the
payload's key. -/
inductive SingleWrite (svc : Service) (p : Payload) (kind : RecordKind) (clean : Prop) :
    Service × Reply → Prop
  | refused {s : WireStatus} (hs : s ≠ WireStatus.ok) : SingleWrite svc p kind clean (svc, .fail s)
  | wrote {r : Record} {svc' : Service} {reply : Reply}
      (hkey : p.getField "key" 96 = some r.key) (hkind : r.kind = kind)
      (hput : svc.putRecord r = some svc') (hclean : clean → r.Storable)
      (hreply : ReplyOf r reply) : SingleWrite svc p kind clean (svc', reply)

section SingleWrites

variable (env : Env) (storageRoot : Bool) (svc : Service) (p : Payload)

/-- A chain of block steps describes the record the first step was given. -/
lemma Describes.trans {r s : Record} (h : r.Described s) {x : Except WireStatus Record}
    (hx : Describes s x) : Describes r x := by
  cases x with
  | error _ => exact hx
  | ok t => exact h.trans hx

lemma describes_objectRecord (key : FieldText 96) :
    Describes (newObject env p key) (objectRecord env storageRoot p key) := by
  refine (describes_applyUbSsdBackendRef p _ _ _).bind fun next hd => .trans hd ?_
  split
  · split
    · exact describes_writeUbSsdBackendBlock env p next
    · exact .refl next
  · exact describes_writePayloadBlock env storageRoot p next _ _

lemma describes_artifactRecord (kind : RecordKind) (key : FieldText 96) (found : Option Record) :
    Describes (newArtifact env p kind key found)
      (artifactRecord env storageRoot p kind key found) := by
  refine (describes_applyUbSsdBackendRef p _ _ _).bind fun next hd => .trans hd ?_
  split
  · exact .refl next
  · exact describes_writePayloadBlock env storageRoot p next _ _

lemma storable_newObject {key : FieldText 96} (hkey : key.Clean) :
    (newObject env p key).Storable := by
  refine ⟨⟨hkey, ?_, ?_, ?_, ?_, ?_, ?_, ?_, ?_, ?_, ?_⟩, fun _ => rfl⟩
  all_goals first
    | exact FieldText.clean_blank
    | exact fun _ _ => FieldText.clean_blank
    | exact fun _ _ => rfl

lemma storable_newArtifact (kind : RecordKind) {key : FieldText 96} (hkey : key.Clean)
    (found : Option Record) (h : p.ArtifactClean) :
    (newArtifact env p kind key found).Storable := by
  have hhash : (if (p.getOptionalField "block_hash" 96).bytes = [] then
      p.getOptionalField "artifact_id" 96 else p.getOptionalField "block_hash" 96).Clean := by
    split
    · exact h.artifactId
    · exact h.blockHash
  exact ⟨⟨hkey, h.requestId, h.modelKey, h.artifactKind, hhash, h.sessionId, h.modelKey,
    h.artifactKind, h.artifactId, fun _ _ => FieldText.clean_blank, fun _ _ => rfl⟩, fun _ => rfl⟩

/-- Filling in the payload description leaves key and kind alone. -/
lemma Record.Described.key_kind {r next : Record} (h : r.Described next) :
    next.key = r.key ∧ next.kind = r.kind := by
  rw [h.rest]
  exact ⟨rfl, rfl⟩

lemma putObject_cases :
    SingleWrite svc p RecordKind.kvcacheObject p.KeyClean (putObject env storageRoot svc p) := by
  unfold putObject
  split
  · exact .refused (by decide)
  · rename_i key hkey
    have hspec := describes_objectRecord env storageRoot p key
    split
    · rename_i s hs
      rw [hs] at hspec
      exact .refused hspec
    · rename_i next hnext
      rw [hnext] at hspec
      obtain ⟨hk, hkind⟩ := hspec.key_kind
      split
      · exact .refused (by decide)
      · rename_i svc' hput
        refine .wrote (hk ▸ hkey) hkind hput (fun hclean => ?_) (replyOf_fields ?_ (by simp))
        · exact (storable_newObject env p (hclean key hkey)).described hspec
        · simp only [List.forall_mem_cons, List.not_mem_nil, false_implies, implies_true, and_true]
          exact ⟨fieldOf_const (by decide) (by decide),
            fieldOf_text (by decide) le_rfl fun h => h.key, fieldOf_u64 (by decide) _⟩

lemma storeArtifact_cases (kind : RecordKind) :
    SingleWrite svc p kind p.ArtifactClean (storeArtifact env storageRoot svc p kind) := by
  unfold storeArtifact
  split
  · exact .refused (by decide)
  · rename_i key hkey
    have hspec := describes_artifactRecord env storageRoot p kind key (svc.findRecord key.bytes)
    split
    · rename_i s hs
      rw [hs] at hspec
      exact .refused hspec
    · rename_i next hnext
      rw [hnext] at hspec
      obtain ⟨hk, hkind⟩ := hspec.key_kind
      split
      · exact .refused (by decide)
      · rename_i svc' hput
        refine .wrote (hk ▸ hkey) hkind hput (fun hclean => ?_) (replyOf_payloadFields next)
        exact (storable_newArtifact env p kind (hclean.key key hkey) _ hclean).described hspec

end SingleWrites

/-! ## Writers of a block -/

namespace BlockCtx

variable (ctx : BlockCtx)

/-- The block record in a state other than the chain's. -/
def publishedBlock (key : FieldText 96) (state : KvcacheState) : Record :=
  { ctx.blockResult key with state := state, version := 3 }

/-- The prefix entry in a state other than the chain's. -/
def registeredPrefix (key : FieldText 96) (state : KvcacheState) : Record :=
  { ctx.prefixResult key with state := state, version := 3 }

end BlockCtx

namespace Service

variable {svc svc' : Service} {ctx : BlockCtx}

/-- The writes of `mem_service_publish_kv` after the chain. -/
def BootstrapChain.published (c : BootstrapChain svc ctx) (state : KvcacheState) : List Record :=
  if state = KvcacheState.hot then [] else [ctx.publishedBlock c.blockKey state]

/-- The writes of `mem_service_register_prefix` after the chain. -/
def BootstrapChain.registered (c : BootstrapChain svc ctx) (state : KvcacheState) : List Record :=
  if state = KvcacheState.hot then []
  else [ctx.registeredPrefix c.prefixKey state, ctx.publishedBlock c.blockKey state]

/-- Assigning a state is a write of the changed record. -/
lemma bumpState_eq {r : Record} {state : KvcacheState} (h : svc.findRecord r.keyBytes ≠ none) :
    svc.putRecord { r with state := state, version := r.version + 1 } =
      some (bumpState svc r state) :=
  setRecord_of_found h

end Service

/-- How `mem_service_publish_kv` ends. -/
inductive PublishOutcome (svc : Service) (p : Payload) : Service × Reply → Prop
  | noContext (h : fillBlockCtx p = none) :
      PublishOutcome svc p (svc, .fail WireStatus.invalidSession)
  | failed {ctx : BlockCtx} {svc₁ : Service} (hctx : fillBlockCtx p = some ctx)
      (h : svc.bootstrapKvcache ctx = .error svc₁) :
      PublishOutcome svc p (svc₁, .fail WireStatus.internal)
  | done {ctx : BlockCtx} {svc' : Service} {r : Record} {reply : Reply}
      (hctx : fillBlockCtx p = some ctx) (c : svc.BootstrapChain ctx)
      (h : svc.putAll (c.records ++ c.published (p.getState KvcacheState.filled)) = some svc')
      (hr : svc'.findRecord c.blockKey.bytes = some r) (hreply : ReplyOf r reply) :
      PublishOutcome svc p (svc', reply)

lemma replyOf_publishReply (r : Record) : ReplyOf r (publishReply r.keyBytes r) := by
  refine replyOf_fields ?_ (by simp)
  simp only [List.forall_mem_cons, List.not_mem_nil, false_implies, implies_true, and_true]
  exact ⟨fieldOf_const (by decide) (by decide), fieldOf_text (by decide) le_rfl fun h => h.key,
    fieldOf_text (by decide) le_rfl fun h => h.blockHash, fieldOf_state (by decide) _,
    fieldOf_u64 (by decide) _⟩

lemma publishKv_outcome {svc : Service} (hu : svc.records.UniqueKeys Record.keyBytes)
    (p : Payload) : PublishOutcome svc p (publishKv svc p) := by
  unfold publishKv
  simp only
  split
  · rename_i hctx
    exact .noContext hctx
  rename_i ctx hctx
  have hout := Service.bootstrapKvcache_outcome hu ctx
  split
  · rename_i svc₁ hb
    exact .failed hctx hb
  rename_i svc₁ record hb
  rw [hb] at hout
  cases hout with
  | done c h =>
  have hu₁ := Service.uniqueKeys_putAll hu h
  have hkey : keyOrEmpty ctx.buildBlockKey = c.blockKey := by
    rw [c.buildBlockKey]
    rfl
  have hfound : svc₁.findRecord c.blockKey.bytes = some (ctx.blockResult c.blockKey) := by
    rw [c.findRecord hu h,
      if_neg (Ne.symm (BlockCtx.prefixKey_ne_blockKey c.buildPrefixKey c.buildBlockKey)),
      if_neg (Ne.symm (BlockCtx.groupKey_ne_blockKey c.buildGroupKey c.buildBlockKey)), if_pos rfl]
  -- the chain has stored the request's own result, so the stale-result branch is not taken
  have hresult : ¬ (ctx.resultSegmentId ≠ 0 ∧
      ctx.resultSegmentId > (ctx.blockResult c.blockKey).lastResultSegment) :=
    fun h => UInt64.lt_irrefl _ h.2
  rw [if_neg hresult, hkey, publishState, hfound]
  simp only
  have hkb : (ctx.blockResult c.blockKey).keyBytes = c.blockKey.bytes := rfl
  by_cases hstate : p.getState KvcacheState.filled = KvcacheState.hot
  · rw [if_neg (by rw [hstate]; exact not_not.mpr rfl)]
    refine .done hctx c ?_ hfound (replyOf_publishReply _)
    rw [Service.BootstrapChain.published, if_pos hstate, List.append_nil, h]
  · have hhot : (ctx.blockResult c.blockKey).state = KvcacheState.hot := rfl
    rw [hhot, if_pos (Ne.symm hstate)]
    have hput : svc₁.putRecord (ctx.publishedBlock c.blockKey (p.getState KvcacheState.filled)) =
        some (bumpState svc₁ (ctx.blockResult c.blockKey) (p.getState KvcacheState.filled)) :=
      Service.bumpState_eq (by rw [hkb, hfound]; simp)
    have hkq : (ctx.publishedBlock c.blockKey (p.getState KvcacheState.filled)).keyBytes =
        c.blockKey.bytes := rfl
    have hf := Service.findRecord_putRecord hu₁ hput c.blockKey.bytes
    rw [hkq, if_pos rfl] at hf
    rw [hf]
    refine .done hctx c ?_ hf (replyOf_publishReply _)
    rw [Service.BootstrapChain.published, if_neg hstate]
    exact Service.putAll_concat h hput

/-- A register request gets past the checks on its result and on the prefix entry, so that it
reaches the bootstrap chain. -/
def RegisterAdmits (svc : Service) (ctx : BlockCtx) : Prop :=
  ctx.resultSegmentId ≠ 0 ∧
    ∀ entry, svc.findRecord (keyOrEmpty ctx.buildPrefixKey).bytes = some entry →
      entry.kind = RecordKind.requestPrefix ∧ entry.lastResultSegment < ctx.resultSegmentId

/-- How `mem_service_register_prefix` ends. -/
inductive RegisterOutcome (svc : Service) (p : Payload) : Service × Reply → Prop
  | refused {s : WireStatus} (hs : s ≠ WireStatus.ok) : RegisterOutcome svc p (svc, .fail s)
  | known {ctx : BlockCtx} {r : Record} (hctx : fillBlockCtx p = some ctx)
      (hr : r ∈ svc.records.entries) : RegisterOutcome svc p (svc, .fields r.payloadFields)
  | failed {ctx : BlockCtx} {svc₁ : Service} (hctx : fillBlockCtx p = some ctx)
      (hadm : RegisterAdmits svc ctx) (h : svc.bootstrapKvcache ctx = .error svc₁) :
      RegisterOutcome svc p (svc₁, .fail WireStatus.internal)
  | done {ctx : BlockCtx} {svc' : Service} {r : Record} {reply : Reply}
      (hctx : fillBlockCtx p = some ctx) (hadm : RegisterAdmits svc ctx)
      (c : svc.BootstrapChain ctx)
      (h : svc.putAll (c.records ++ c.registered (p.getState KvcacheState.filled)) = some svc')
      (hr : svc'.findRecord c.prefixKey.bytes = some r) (hreply : ReplyOf r reply) :
      RegisterOutcome svc p (svc', reply)

/-- After the chain a registration sets the state it asks for and answers with the prefix entry. -/
lemma registerState_writes {svc svc₁ : Service} (hu : svc.records.UniqueKeys Record.keyBytes)
    {ctx : BlockCtx} (c : svc.BootstrapChain ctx) (h : svc.putAll c.records = some svc₁)
    (state : KvcacheState) :
    ∃ r, svc.putAll (c.records ++ c.registered state) =
        some (registerState svc₁ ctx c.prefixKey state).1 ∧
      (registerState svc₁ ctx c.prefixKey state).1.findRecord c.prefixKey.bytes = some r ∧
      ReplyOf r (registerState svc₁ ctx c.prefixKey state).2 := by
  have hu₁ := Service.uniqueKeys_putAll hu h
  have hpb := BlockCtx.prefixKey_ne_blockKey c.buildPrefixKey c.buildBlockKey
  have hgb := BlockCtx.groupKey_ne_blockKey c.buildGroupKey c.buildBlockKey
  have hkey : keyOrEmpty ctx.buildBlockKey = c.blockKey := by
    rw [c.buildBlockKey]
    rfl
  have hfp : svc₁.findRecord c.prefixKey.bytes = some (ctx.prefixResult c.prefixKey) := by
    rw [c.findRecord hu h, if_pos rfl]
  have hfb : svc₁.findRecord c.blockKey.bytes = some (ctx.blockResult c.blockKey) := by
    rw [c.findRecord hu h, if_neg (Ne.symm hpb), if_neg (Ne.symm hgb), if_pos rfl]
  have hhot : (ctx.prefixResult c.prefixKey).state = KvcacheState.hot := rfl
  have hkp : (ctx.prefixResult c.prefixKey).keyBytes = c.prefixKey.bytes := rfl
  have hkb : (ctx.blockResult c.blockKey).keyBytes = c.blockKey.bytes := rfl
  unfold registerState
  rw [hfp, hkey, hfb]
  simp only
  rw [hhot]
  by_cases hstate : state = KvcacheState.hot
  · rw [if_neg (by rw [hstate]; exact not_not.mpr rfl)]
    refine ⟨_, ?_, hfp, replyOf_payloadFields _⟩
    rw [Service.BootstrapChain.registered, if_pos hstate, List.append_nil, h]
  · rw [if_pos (Ne.symm hstate)]
    have hput₂ : svc₁.putRecord (ctx.registeredPrefix c.prefixKey state) =
        some (bumpState svc₁ (ctx.prefixResult c.prefixKey) state) :=
      Service.bumpState_eq (by rw [hkp, hfp]; simp)
    set svc₂ := bumpState svc₁ (ctx.prefixResult c.prefixKey) state
    have hu₂ := Service.uniqueKeys_putRecord hu₁ hput₂
    have hf₂ := Service.findRecord_putRecord hu₁ hput₂
    have hkr : (ctx.registeredPrefix c.prefixKey state).keyBytes = c.prefixKey.bytes := rfl
    have hput₃ : svc₂.putRecord (ctx.publishedBlock c.blockKey state) =
        some (bumpState svc₂ (ctx.blockResult c.blockKey) state) :=
      Service.bumpState_eq (by rw [hkb, hf₂, hkr, if_neg (Ne.symm hpb), hfb]; simp)
    have hkq : (ctx.publishedBlock c.blockKey state).keyBytes = c.blockKey.bytes := rfl
    have hf₃ := Service.findRecord_putRecord hu₂ hput₃ c.prefixKey.bytes
    rw [hkq, if_neg hpb, hf₂, hkr, if_pos rfl] at hf₃
    rw [hf₃]
    refine ⟨_, ?_, hf₃, replyOf_payloadFields _⟩
    rw [Service.BootstrapChain.registered, if_neg hstate]
    have hboth := Service.putAll_concat (Service.putAll_concat h hput₂) hput₃
    rwa [List.append_assoc] at hboth

lemma registerPrefix_outcome {svc : Service} (hu : svc.records.UniqueKeys Record.keyBytes)
    (p : Payload) : RegisterOutcome svc p (registerPrefix svc p) := by
  unfold registerPrefix
  simp only
  split
  · exact .refused (by decide)
  rename_i ctx hctx
  split
  · exact .refused (by decide)
  rename_i hresult
  have hbootstrap : ∀ out, RegisterAdmits svc ctx →
      (∀ svc₁, svc.bootstrapKvcache ctx = .error svc₁ →
        out = (svc₁, .fail WireStatus.internal)) →
      (∀ svc₁ record, svc.bootstrapKvcache ctx = .ok (svc₁, record) →
        out = registerState svc₁ ctx (keyOrEmpty ctx.buildPrefixKey)
          (p.getState KvcacheState.filled)) → RegisterOutcome svc p out := by
    intro out hadm herror hok
    have hout := Service.bootstrapKvcache_outcome hu ctx
    rcases hb : svc.bootstrapKvcache ctx with svc₁ | ⟨svc₁, record⟩
    · rw [herror svc₁ hb]
      exact .failed hctx hadm hb
    · rw [hok svc₁ record hb]
      rw [hb] at hout
      cases hout with
      | done c h =>
          have hkey : keyOrEmpty ctx.buildPrefixKey = c.prefixKey := by
            rw [c.buildPrefixKey]
            rfl
          rw [hkey]
          obtain ⟨r, hput, hr, hreply⟩ :=
            registerState_writes hu c h (p.getState KvcacheState.filled)
          exact .done hctx hadm c hput hr hreply
  split
  · rename_i hentry
    refine hbootstrap _ ⟨hresult, fun entry he => ?_⟩ (fun svc₁ hb => by rw [hb])
      (fun svc₁ record hb => by rw [hb])
    rw [hentry] at he
    cases he
  · rename_i entry hentry
    split
    · exact .refused (by decide)
    rename_i hconflict
    split
    · exact .known hctx (SlotTable.lookup_mem hentry)
    · rename_i hknown
      refine hbootstrap _ ⟨hresult, fun e he => ?_⟩ (fun svc₁ hb => by rw [hb])
        (fun svc₁ record hb => by rw [hb])
      rw [hentry] at he
      cases he
      rw [not_or, not_or, not_not, UInt64.not_lt] at hconflict
      obtain ⟨hkind, hle, hhash⟩ := hconflict
      refine ⟨hkind, UInt64.lt_of_le_of_ne hle fun heq => ?_⟩
      by_cases hsame : entry.blockHash = ctx.blockHash
      · exact hknown ⟨heq, hsame⟩
      · exact hhash ⟨heq, hsame⟩

/-! ## The records of a block are valid and storable -/

/-- The text fields of a block request are stored as they are. -/
structure BlockCtx.Clean (ctx : BlockCtx) : Prop where
  requestId : ctx.requestId.Clean
  prefixGroup : ctx.prefixGroup.Clean
  groupId : ctx.groupId.Clean
  blockHash : ctx.blockHash.Clean

/-- A text that ends in a clean text is clean. -/
lemma noTrailingCR_join {l m : Bytes} (hl : NoTrailingCR l) (hm : NoTrailingCR m) :
    NoTrailingCR (l ++ m) := by
  by_cases hne : m = []
  · rwa [hne, List.append_nil]
  · exact noTrailingCR_append hm hne

section Keys

variable {ctx : BlockCtx} {key : FieldText 96}

lemma clean_prefixKey (h : ctx.Clean) (hk : ctx.buildPrefixKey = some key) : key.Clean := by
  rw [FieldText.Clean, BlockCtx.bytes_buildPrefixKey hk]
  exact noTrailingCR_join (noTrailingCR_append (by decide) (by decide)) h.prefixGroup

lemma clean_groupKey (h : ctx.Clean) (hk : ctx.buildGroupKey = some key) : key.Clean := by
  rw [FieldText.Clean, BlockCtx.bytes_buildGroupKey hk]
  exact noTrailingCR_join (noTrailingCR_append (by decide) (by decide)) h.groupId

lemma clean_blockKey (h : ctx.Clean) (hk : ctx.buildBlockKey = some key) : key.Clean := by
  rw [FieldText.Clean, BlockCtx.bytes_buildBlockKey hk]
  exact noTrailingCR_join (by decide) h.blockHash

lemma prefixKey_ne_nil (hk : ctx.buildPrefixKey = some key) : key.bytes ≠ [] := by
  rw [BlockCtx.bytes_buildPrefixKey hk, List.append_assoc, List.append_assoc]
  exact List.append_ne_nil_of_left_ne_nil (by decide) _

lemma groupKey_ne_nil (hk : ctx.buildGroupKey = some key) : key.bytes ≠ [] := by
  rw [BlockCtx.bytes_buildGroupKey hk, List.append_assoc, List.append_assoc]
  exact List.append_ne_nil_of_left_ne_nil (by decide) _

lemma blockKey_ne_nil (hk : ctx.buildBlockKey = some key) : key.bytes ≠ [] := by
  rw [BlockCtx.bytes_buildBlockKey hk]
  exact List.append_ne_nil_of_left_ne_nil (by decide) _

lemma storable_prefixEntry (h : ctx.Clean) (hk : ctx.buildPrefixKey = some key) :
    (ctx.prefixEntry key).Storable :=
  ⟨⟨clean_prefixKey h hk, h.requestId, h.prefixGroup, h.groupId, h.blockHash,
    FieldText.clean_blank, FieldText.clean_blank, FieldText.clean_blank, FieldText.clean_blank,
    fun _ _ => FieldText.clean_blank, fun _ _ => rfl⟩, fun _ => rfl⟩

lemma storable_blockEntry (h : ctx.Clean) (hk : ctx.buildBlockKey = some key) :
    (ctx.blockEntry key).Storable :=
  ⟨⟨clean_blockKey h hk, h.requestId, h.prefixGroup, h.groupId, h.blockHash,
    FieldText.clean_blank, FieldText.clean_blank, FieldText.clean_blank, FieldText.clean_blank,
    fun _ _ => FieldText.clean_blank, fun _ _ => rfl⟩, fun _ => rfl⟩

end Keys

lemma Record.Storable.addMember {r r' : Record} {blockHash : FieldText 96} (h : r.Storable)
    (hb : blockHash.Clean) (hadd : r.addMember blockHash = some r') : r'.Storable := by
  obtain ⟨-, rfl⟩ | ⟨hlt, rfl⟩ := Record.addMember_cases hadd
  · exact h
  · refine { h with members := ?_, hiddenMembers := ?_ }
    · intro i hi
      by_cases heq : i = ⟨r.memberCount.val, hlt⟩
      · subst heq
        simpa [Record.withMember] using hb
      · have hi' : i.val < r.memberCount.val + 1 := hi
        have hne : i.val ≠ r.memberCount.val := fun hv => heq (Fin.ext hv)
        simp only [Record.withMember, Function.update_of_ne heq]
        exact h.members i (by omega)
    · intro i hi
      have hi' : r.memberCount.val + 1 ≤ i.val := hi
      have heq : i ≠ ⟨r.memberCount.val, hlt⟩ := by
        rintro rfl
        simp at hi'
      simp only [Record.withMember, Function.update_of_ne heq]
      exact h.hiddenMembers i (by omega)

lemma storable_prefixGroupRecord {found : Option Record} {key : FieldText 96}
    {requestId groupId : FieldText 64} {blockHash : FieldText 96} {node level : UInt32}
    {hot last : UInt64} {state : KvcacheState} {g : Record}
    (hfound : ∀ r, found = some r → r.Storable) (hkey : key.Clean) (hreq : requestId.Clean)
    (hgid : groupId.Clean) (hhash : blockHash.Clean)
    (h : Service.prefixGroupRecord found key requestId groupId blockHash node level hot state
      last = some g) : g.Storable := by
  obtain ⟨base, group, v, hbase, -, hadd, rfl⟩ := Service.prefixGroupRecord_cases h
  have hb : base.Storable := by
    subst hbase
    cases found with
    | some r => exact hfound r rfl
    | none =>
        exact ⟨⟨hkey, hreq, FieldText.clean_blank, hgid, FieldText.clean_blank,
          FieldText.clean_blank, FieldText.clean_blank, FieldText.clean_blank,
          FieldText.clean_blank, fun _ _ => FieldText.clean_blank, fun _ _ => rfl⟩, fun _ => rfl⟩
  exact { hb.addMember hhash hadd with }

namespace Service

variable {svc svc' : Service} {ctx : BlockCtx}

/-- The record an interrupted chain leaves. -/
lemma storable_groupEntry (hctx : ctx.Clean) (hs : ∀ r ∈ svc.records.entries, r.Storable)
    {gk : FieldText 96} {g : Record} (hg : ctx.buildGroupKey = some gk)
    (h : ctx.groupEntry (svc.findRecord gk.bytes) gk = some g) : g.Storable :=
  storable_prefixGroupRecord (fun r hr => hs r (SlotTable.lookup_mem hr)) (clean_groupKey hctx hg)
    hctx.requestId hctx.groupId hctx.blockHash h

lemma valid_groupEntry {gk : FieldText 96} {g : Record} (hg : ctx.buildGroupKey = some gk)
    (h : ctx.groupEntry (svc.findRecord gk.bytes) gk = some g) : ValidRecord g := by
  have hof : GroupOf gk ctx.blockHash g :=
    groupOf_prefixGroupRecord (fun _ hr => key_of_findRecord hr) h
  refine ⟨hof.key ▸ groupKey_ne_nil hg, ?_⟩
  rw [hof.kind]
  decide

lemma valid_prefixEntry {pk : FieldText 96} (hp : ctx.buildPrefixKey = some pk) :
    ValidRecord (ctx.prefixEntry pk) := by
  refine ⟨prefixKey_ne_nil hp, ?_⟩
  show RecordKind.requestPrefix ≠ RecordKind.none
  decide

namespace BootstrapChain

variable (c : BootstrapChain svc ctx) (state : KvcacheState)

lemma mem_published {r : Record} (h : r ∈ c.published state) :
    r = ctx.publishedBlock c.blockKey state := by
  unfold published at h
  split at h
  · cases h
  · exact List.mem_singleton.mp h

lemma mem_registered {r : Record} (h : r ∈ c.registered state) :
    r = ctx.registeredPrefix c.prefixKey state ∨ r = ctx.publishedBlock c.blockKey state := by
  unfold registered at h
  split at h
  · cases h
  · simpa using h

/-- Every record a block request may write. -/
def Writes (r : Record) : Prop :=
  r ∈ c.records ∨ r = ctx.registeredPrefix c.prefixKey state ∨
    r = ctx.publishedBlock c.blockKey state

lemma writes_published {r : Record} (h : r ∈ c.records ++ c.published state) :
    c.Writes state r := by
  rcases List.mem_append.mp h with h | h
  · exact .inl h
  · exact .inr (.inr (c.mem_published state h))

lemma writes_registered {r : Record} (h : r ∈ c.records ++ c.registered state) :
    c.Writes state r := by
  rcases List.mem_append.mp h with h | h
  · exact .inl h
  · exact .inr (c.mem_registered state h)

/-- Everything is written under one of the three keys. -/
lemma keyBytes {r : Record} (h : c.Writes state r) : r.keyBytes = c.groupKey.bytes ∨
    r.keyBytes = c.prefixKey.bytes ∨ r.keyBytes = c.blockKey.bytes := by
  have hgroup : c.group.keyBytes = c.groupKey.bytes := congrArg FieldText.bytes c.groupOf.key
  have hgroup' : c.groupWithResult.keyBytes = c.groupKey.bytes :=
    congrArg FieldText.bytes c.groupOf_result.key
  simp only [Writes, records, List.mem_cons, List.not_mem_nil, or_false] at h
  rcases h with (rfl | rfl | rfl | rfl | rfl | rfl) | rfl | rfl
  · exact .inl hgroup
  · exact .inr (.inl rfl)
  · exact .inr (.inr rfl)
  · exact .inr (.inr rfl)
  · exact .inl hgroup'
  · exact .inr (.inl rfl)
  · exact .inr (.inl rfl)
  · exact .inr (.inr rfl)

lemma valid {r : Record} (h : c.Writes state r) : ValidRecord r := by
  have hgroup : ValidRecord c.group := valid_groupEntry c.buildGroupKey c.groupEntry
  have hgroup' : ValidRecord c.groupWithResult := by
    refine ⟨c.groupOf_result.key ▸ groupKey_ne_nil c.buildGroupKey, ?_⟩
    rw [c.groupOf_result.kind]
    decide
  have hp : c.prefixKey.bytes ≠ [] ∧ RecordKind.requestPrefix ≠ RecordKind.none :=
    ⟨prefixKey_ne_nil c.buildPrefixKey, by decide⟩
  have hb : c.blockKey.bytes ≠ [] ∧ RecordKind.blockMeta ≠ RecordKind.none :=
    ⟨blockKey_ne_nil c.buildBlockKey, by decide⟩
  simp only [Writes, records, List.mem_cons, List.not_mem_nil, or_false] at h
  rcases h with (rfl | rfl | rfl | rfl | rfl | rfl) | rfl | rfl
  · exact hgroup
  · exact hp
  · exact hb
  · exact hb
  · exact hgroup'
  · exact hp
  · exact hp
  · exact hb

lemma storable (hctx : ctx.Clean) (hs : ∀ r ∈ svc.records.entries, r.Storable) {r : Record}
    (h : c.Writes state r) : r.Storable := by
  have hgroup := storable_groupEntry hctx hs c.buildGroupKey c.groupEntry
  have hgroup' : c.groupWithResult.Storable :=
    storable_prefixGroupRecord (fun r hr => by cases hr; exact hgroup)
      (clean_groupKey hctx c.buildGroupKey) hctx.requestId hctx.groupId hctx.blockHash
      c.groupResult
  have hp := storable_prefixEntry hctx c.buildPrefixKey
  have hb := storable_blockEntry hctx c.buildBlockKey
  simp only [Writes, records, List.mem_cons, List.not_mem_nil, or_false] at h
  rcases h with (rfl | rfl | rfl | rfl | rfl | rfl) | rfl | rfl
  · exact hgroup
  · exact hp
  · exact hb
  · exact { hb with }
  · exact hgroup'
  · exact { hp with }
  · exact { hp with }
  · exact { hb with }

end BootstrapChain

end Service

/-! ## One shape for all record writers -/

/-- Every record of the table comes back from a store as it is. -/
def Service.RecordsStorable (svc : Service) : Prop := ∀ r ∈ svc.records.entries, r.Storable

/-- A chain of writes of valid records, which are storable if the request's texts are clean and the
table was storable. -/
structure WriteChain (svc : Service) (clean : Prop) (rs : List Record) (svc' : Service) : Prop where
  put : svc.putAll rs = some svc'
  valid : ∀ r ∈ rs, Service.ValidRecord r
  storable : clean → svc.RecordsStorable → ∀ r ∈ rs, r.Storable

/-- What a record writer does: a chain of writes, and a refusal or an answer about one record of
the table it leaves. -/
structure RecordWrite (svc : Service) (clean : Prop) (out : Service × Reply) : Prop where
  chain : ∃ rs, WriteChain svc clean rs out.1
  reply : (∃ s, s ≠ WireStatus.ok ∧ out.2 = .fail s) ∨
    ∃ r ∈ out.1.records.entries, ReplyOf r out.2

lemma WriteChain.nil (svc : Service) (clean : Prop) : WriteChain svc clean [] svc :=
  ⟨rfl, by simp, by simp⟩

lemma RecordWrite.refused {svc : Service} {clean : Prop} {s : WireStatus}
    (hs : s ≠ WireStatus.ok) : RecordWrite svc clean (svc, .fail s) :=
  ⟨⟨[], .nil svc clean⟩, .inl ⟨s, hs, rfl⟩⟩

lemma SingleWrite.recordWrite {svc : Service} {p : Payload} {kind : RecordKind} {clean : Prop}
    {out : Service × Reply} (h : SingleWrite svc p kind clean out)
    (hkind : kind ≠ RecordKind.none) (hu : svc.records.UniqueKeys Record.keyBytes) :
    RecordWrite svc clean out := by
  cases h with
  | refused hs => exact .refused hs
  | @wrote r svc' reply hkey hk hput hclean hreply =>
      have hall : svc.putAll [r] = some svc' := by
        rw [Service.putAll_cons, hput]
        rfl
      refine ⟨⟨[r], hall, ?_, ?_⟩, .inr ⟨r, ?_, hreply⟩⟩
      · intro q hq
        obtain rfl := List.mem_singleton.mp hq
        exact ⟨(Payload.getField_eq_some hkey).2, hk ▸ hkind⟩
      · intro hc _ q hq
        obtain rfl := List.mem_singleton.mp hq
        exact hclean hc
      · obtain ⟨t, ht, rfl⟩ := Service.putRecord_eq_some hput
        exact (SlotTable.mem_entries_upsert hu ht).mpr (.inl rfl)

/-- What an interrupted bootstrap chain leaves behind. -/
lemma Service.bootstrapKvcache_error {svc svc₁ : Service} {ctx : BlockCtx}
    (hu : svc.records.UniqueKeys Record.keyBytes) (h : svc.bootstrapKvcache ctx = .error svc₁) :
    ∃ rs, WriteChain svc ctx.Clean rs svc₁ := by
  have hout := bootstrapKvcache_outcome hu ctx
  rw [h] at hout
  cases hout with
  | keyTooLong _ => exact ⟨[], .nil svc _⟩
  | groupRefused _ _ _ _ => exact ⟨[], .nil svc _⟩
  | @noRoomForPrefix pk gk bk g _ hp hg hb hgroup h₁ _ =>
      refine ⟨[g], h₁, ?_, ?_⟩
      · intro r hr
        obtain rfl := List.mem_singleton.mp hr
        exact valid_groupEntry hg hgroup
      · intro hc hs r hr
        obtain rfl := List.mem_singleton.mp hr
        exact storable_groupEntry hc hs hg hgroup
  | @noRoomForBlock pk gk bk g _ hp hg hb hgroup h₂ _ =>
      refine ⟨[g, ctx.prefixEntry pk], h₂, ?_, ?_⟩
      · simp only [List.forall_mem_cons, List.not_mem_nil, false_implies, implies_true, and_true]
        exact ⟨valid_groupEntry hg hgroup, valid_prefixEntry hp⟩
      · intro hc hs
        simp only [List.forall_mem_cons, List.not_mem_nil, false_implies, implies_true, and_true]
        exact ⟨storable_groupEntry hc hs hg hgroup, storable_prefixEntry hc hp⟩

/-- The block a request describes has clean texts. -/
def Payload.BlockClean (p : Payload) : Prop := ∀ ctx, fillBlockCtx p = some ctx → ctx.Clean

lemma WriteChain.imp {svc svc' : Service} {clean clean' : Prop} {rs : List Record}
    (h : WriteChain svc clean rs svc') (hc : clean' → clean) : WriteChain svc clean' rs svc' :=
  ⟨h.put, h.valid, fun h' => h.storable (hc h')⟩

lemma publishKv_recordWrite {svc : Service} (hu : svc.records.UniqueKeys Record.keyBytes)
    (p : Payload) : RecordWrite svc p.BlockClean (publishKv svc p) := by
  have hout := publishKv_outcome hu p
  generalize publishKv svc p = out at hout
  cases hout with
  | noContext _ => exact .refused (by decide)
  | failed hctx h =>
      obtain ⟨rs, hchain⟩ := Service.bootstrapKvcache_error hu h
      exact ⟨⟨rs, hchain.imp fun hc => hc _ hctx⟩, .inl ⟨_, by decide, rfl⟩⟩
  | done hctx c h hr hreply =>
      refine ⟨⟨_, h, fun r hr => ?_, fun hc hs r hr => ?_⟩,
        .inr ⟨_, SlotTable.lookup_mem hr, hreply⟩⟩
      · exact c.valid _ (c.writes_published _ hr)
      · exact c.storable _ (hc _ hctx) hs (c.writes_published _ hr)

lemma registerPrefix_recordWrite {svc : Service} (hu : svc.records.UniqueKeys Record.keyBytes)
    (p : Payload) : RecordWrite svc p.BlockClean (registerPrefix svc p) := by
  have hout := registerPrefix_outcome hu p
  generalize registerPrefix svc p = out at hout
  cases hout with
  | refused hs => exact .refused hs
  | known _ hr => exact ⟨⟨[], .nil svc _⟩, .inr ⟨_, hr, replyOf_payloadFields _⟩⟩
  | failed hctx _ h =>
      obtain ⟨rs, hchain⟩ := Service.bootstrapKvcache_error hu h
      exact ⟨⟨rs, hchain.imp fun hc => hc _ hctx⟩, .inl ⟨_, by decide, rfl⟩⟩
  | done hctx _ c h hr hreply =>
      refine ⟨⟨_, h, fun r hr => ?_, fun hc hs r hr => ?_⟩,
        .inr ⟨_, SlotTable.lookup_mem hr, hreply⟩⟩
      · exact c.valid _ (c.writes_registered _ hr)
      · exact c.storable _ (hc _ hctx) hs (c.writes_registered _ hr)

/-! ## Requests that reach the bootstrap chain -/

/-- The chain starts writing: the three keys fit their buffers and the group takes the block. -/
def Service.ChainStarts (svc : Service) (ctx : BlockCtx) : Prop :=
  ∃ pk gk bk g, ctx.buildPrefixKey = some pk ∧ ctx.buildGroupKey = some gk ∧
    ctx.buildBlockKey = some bk ∧ ctx.groupEntry (svc.findRecord gk.bytes) gk = some g

/-- The request takes `ctx` through the bootstrap chain. -/
structure Bootstraps (svc : Service) (req : Request) (ctx : BlockCtx) : Prop where
  context : fillBlockCtx req.payload = some ctx
  operation : req.operation = WireOperation.publishKvSegment.code ∨
    (req.operation = WireOperation.registerPrefixEntry.code ∧ RegisterAdmits svc ctx)
  starts : svc.ChainStarts ctx

lemma Service.BootstrapChain.chainStarts {svc : Service} {ctx : BlockCtx}
    (c : svc.BootstrapChain ctx) : svc.ChainStarts ctx :=
  ⟨c.prefixKey, c.groupKey, c.blockKey, c.group, c.buildPrefixKey, c.buildGroupKey,
    c.buildBlockKey, c.groupEntry⟩

/-- The writes of a chain that ran out of slots: the group record, and the prefix entry if it got
that far. -/
inductive Service.CutShort (svc : Service) (ctx : BlockCtx) : List Record → Prop
  | beforePrefix {pk gk bk : FieldText 96} {g : Record} {svc₁ : Service}
      (hp : ctx.buildPrefixKey = some pk) (hg : ctx.buildGroupKey = some gk)
      (hb : ctx.buildBlockKey = some bk)
      (hgroup : ctx.groupEntry (svc.findRecord gk.bytes) gk = some g)
      (hput : svc.putAll [g] = some svc₁) (hfull : svc₁.putRecord (ctx.prefixEntry pk) = none) :
      Service.CutShort svc ctx [g]
  | beforeBlock {pk gk bk : FieldText 96} {g : Record} {svc₁ : Service}
      (hp : ctx.buildPrefixKey = some pk) (hg : ctx.buildGroupKey = some gk)
      (hb : ctx.buildBlockKey = some bk)
      (hgroup : ctx.groupEntry (svc.findRecord gk.bytes) gk = some g)
      (hput : svc.putAll [g, ctx.prefixEntry pk] = some svc₁)
      (hfull : svc₁.putRecord (ctx.blockEntry bk) = none) :
      Service.CutShort svc ctx [g, ctx.prefixEntry pk]

/-- What a publish or register request does to the records. -/
inductive ChainOutcome (svc : Service) (req : Request) : Service × Reply → Prop
  | untouched {reply : Reply} : ChainOutcome svc req (svc, reply)
  | cutShort {ctx : BlockCtx} {rs : List Record} {svc₁ : Service} (hboot : Bootstraps svc req ctx)
      (hcut : svc.CutShort ctx rs) (hput : svc.putAll rs = some svc₁) :
      ChainOutcome svc req (svc₁, .fail WireStatus.internal)
  | done {ctx : BlockCtx} {extra : List Record} {svc' : Service} {reply : Reply}
      (hboot : Bootstraps svc req ctx) (c : svc.BootstrapChain ctx)
      (hextra : (req.operation = WireOperation.publishKvSegment.code ∧
          extra = c.published (req.payload.getState KvcacheState.filled)) ∨
        (req.operation = WireOperation.registerPrefixEntry.code ∧
          extra = c.registered (req.payload.getState KvcacheState.filled)))
      (hput : svc.putAll (c.records ++ extra) = some svc')
      (hok : reply.status = WireStatus.ok) : ChainOutcome svc req (svc', reply)

lemma chainOutcome_error {svc svc₁ : Service} (hu : svc.records.UniqueKeys Record.keyBytes)
    {req : Request} {ctx : BlockCtx} (hctx : fillBlockCtx req.payload = some ctx)
    (hop : req.operation = WireOperation.publishKvSegment.code ∨
      (req.operation = WireOperation.registerPrefixEntry.code ∧ RegisterAdmits svc ctx))
    (h : svc.bootstrapKvcache ctx = .error svc₁) :
    ChainOutcome svc req (svc₁, .fail WireStatus.internal) := by
  have hout := Service.bootstrapKvcache_outcome hu ctx
  rw [h] at hout
  cases hout with
  | keyTooLong _ => exact .untouched
  | groupRefused _ _ _ _ => exact .untouched
  | noRoomForPrefix hp hg hb hgroup h₁ hfull =>
      exact .cutShort ⟨hctx, hop, _, _, _, _, hp, hg, hb, hgroup⟩
        (.beforePrefix hp hg hb hgroup h₁ hfull) h₁
  | noRoomForBlock hp hg hb hgroup h₂ hfull =>
      exact .cutShort ⟨hctx, hop, _, _, _, _, hp, hg, hb, hgroup⟩
        (.beforeBlock hp hg hb hgroup h₂ hfull) h₂

lemma publishKv_chain {svc : Service} (hu : svc.records.UniqueKeys Record.keyBytes)
    {req : Request} (hop : req.operation = WireOperation.publishKvSegment.code) :
    ChainOutcome svc req (publishKv svc req.payload) := by
  have hout := publishKv_outcome hu req.payload
  generalize publishKv svc req.payload = out at hout
  cases hout with
  | noContext _ => exact .untouched
  | failed hctx h => exact chainOutcome_error hu hctx (.inl hop) h
  | done hctx c h hr hreply =>
      exact .done ⟨hctx, .inl hop, c.chainStarts⟩ c (.inl ⟨hop, rfl⟩) h hreply.status

lemma registerPrefix_chain {svc : Service} (hu : svc.records.UniqueKeys Record.keyBytes)
    {req : Request} (hop : req.operation = WireOperation.registerPrefixEntry.code) :
    ChainOutcome svc req (registerPrefix svc req.payload) := by
  have hout := registerPrefix_outcome hu req.payload
  generalize registerPrefix svc req.payload = out at hout
  cases hout with
  | refused _ => exact .untouched
  | known _ _ => exact .untouched
  | failed hctx hadm h => exact chainOutcome_error hu hctx (.inr ⟨hop, hadm⟩) h
  | done hctx hadm c h hr hreply =>
      exact .done ⟨hctx, .inr ⟨hop, hadm⟩, c.chainStarts⟩ c (.inr ⟨hop, rfl⟩) h hreply.status

/-- How a record writer writes: one record under the key of the request, which the quota counts, or a
bootstrap chain. -/
inductive Written (svc : Service) (req : Request) (out : Service × Reply) : Prop
  | single {kind : RecordKind} {clean : Prop}
      (hest : estimateNewRecordCount svc req.payload req.operation =
        estimateNewKeyRecordCount svc req.payload)
      (h : SingleWrite svc req.payload kind clean out) : Written svc req out
  | chain (h : ChainOutcome svc req out) : Written svc req out

/-! ## Dispatch -/

/-- The texts a request stores in records come back from a store as they are. -/
def Request.RecordTextClean (req : Request) : Prop :=
  match WireOperation.ofCode req.operation with
  | some .putObject => req.payload.KeyClean
  | some .publishRuntimeHandoff => req.payload.ArtifactClean
  | some .registerExecutionArtifact => req.payload.ArtifactClean
  | some .registerTrainingArtifact => req.payload.ArtifactClean
  | some .publishKvSegment => req.payload.BlockClean
  | some .registerPrefixEntry => req.payload.BlockClean
  | _ => True

/-- Every staged service is well formed. -/
def StageWellFormed (stage : Option RestoreStage) : Prop :=
  ∀ st, stage = some st → st.svc.WellFormed

/-- What a dispatched request does. -/
inductive Effect (s : ServiceState) (req : Request) : ServiceState × Reply → Prop
  | unchanged {reply : Reply} (h : operationMutates req.operation req.payload →
      ∃ st, st ≠ WireStatus.ok ∧ reply = .fail st) : Effect s req (s, reply)
  | staged {stage : Option RestoreStage} {reply : Reply}
      (hmut : operationMutates req.operation req.payload = false)
      (hstage : StageWellFormed s.stage → StageWellFormed stage) :
      Effect s req (⟨s.svc, stage⟩, reply)
  | wrote {out : Service × Reply} (hmut : operationMutates req.operation req.payload)
      (h : RecordWrite s.svc req.RecordTextClean out) (hw : Written s.svc req out) :
      Effect s req (⟨out.1, s.stage⟩, out.2)
  | restored {base restored : Service} (hmut : operationMutates req.operation req.payload)
      (hop : req.operation = WireOperation.restoreSnapshot.code) (hbase : s.svc.initLike = some base)
      (himp : importSnapshotText base req.payload.bytes = some restored) :
      Effect s req (⟨s.svc.install restored, s.stage⟩, restoredReply (s.svc.install restored))
  | committed {st : RestoreStage} (hmut : operationMutates req.operation req.payload)
      (hop : req.operation = WireOperation.restoreSnapshotPage.code) (hst : s.stage = some st) :
      Effect s req (⟨s.svc.install st.committed, none⟩,
        restoredReply (s.svc.install st.committed))

lemma wellFormed_initLike {svc base : Service} (h : svc.initLike = some base) :
    base.WellFormed := by
  obtain rfl := Service.init_eq_some h
  exact Service.wellFormed_fresh

lemma restoreSnapshot_effect (s : ServiceState) {req : Request}
    (hop : WireOperation.ofCode req.operation = some .restoreSnapshot) :
    Effect s req (s.writes (restoreSnapshot s.svc req.payload)) := by
  unfold restoreSnapshot
  split
  · exact .unchanged fun _ => ⟨_, by decide, rfl⟩
  · split
    · exact .unchanged fun _ => ⟨_, by decide, rfl⟩
    · rename_i restored h
      obtain ⟨base, hbase, himp⟩ := Option.bind_eq_some_iff.mp h
      exact .restored (by simp only [operationMutates, hop])
        (WireOperation.code_of_ofCode hop).symm hbase himp

lemma stageWellFormed_append {stage : Option RestoreStage} {p : Payload}
    (h : StageWellFormed stage) : StageWellFormed (restorePageAppend stage p).1 := by
  unfold restorePageAppend
  split
  · rename_i st pageIndex _
    split
    · exact h
    · split
      · rintro _ ⟨⟩
      · rename_i staged n himp
        dsimp only
        split
        · rintro _ ⟨⟩
        · rintro _ ⟨⟩
          exact wellFormed_importSnapshotRecordsText p.noNul himp (h st rfl)
  · exact h

lemma restoreSnapshotPage_effect (s : ServiceState) {req : Request}
    (hop : WireOperation.ofCode req.operation = some .restoreSnapshotPage) :
    Effect s req (⟨(restoreSnapshotPage s.svc s.stage req.payload).1,
      (restoreSnapshotPage s.svc s.stage req.payload).2.1⟩,
      (restoreSnapshotPage s.svc s.stage req.payload).2.2) := by
  have hmut : ∀ action, req.payload.getString "action" 32 = action →
      operationMutates req.operation req.payload = (action == some (ascii "commit")) := by
    rintro _ rfl
    simp only [operationMutates, hop]
  unfold restoreSnapshotPage
  split
  · rename_i haction
    exact .unchanged fun h => ⟨_, by decide, rfl⟩
  rename_i action haction
  have hmut := hmut _ haction
  split
  · rename_i hb
    rw [hb] at hmut
    refine .staged (hmut.trans (by decide)) fun _ st hst => ?_
    unfold restorePageBegin at hst
    split at hst
    · cases hst
    · rename_i base hbase
      cases hst
      exact wellFormed_initLike hbase
  split
  · rename_i hb
    rw [hb] at hmut
    exact .staged (hmut.trans (by decide)) stageWellFormed_append
  split
  · rename_i hcommit
    rw [hcommit] at hmut
    have hrefuse : ∀ {stage : Option RestoreStage} {st : WireStatus}, s.stage = stage →
        st ≠ WireStatus.ok → Effect s req (⟨s.svc, stage⟩, .fail st) := by
      rintro _ st rfl hst
      exact .unchanged fun _ => ⟨st, hst, rfl⟩
    unfold restorePageCommit
    split
    · rename_i hst
      exact hrefuse hst (by decide)
    · rename_i st hst
      split
      · exact hrefuse hst (by decide)
      split
      · exact hrefuse hst (by decide)
      · exact .committed (hmut.trans (by decide)) (WireOperation.code_of_ofCode hop).symm hst
  split
  · rename_i hb
    rw [hb] at hmut
    refine .staged (hmut.trans (by decide)) ?_
    rintro _ _ ⟨⟩
  · exact .unchanged fun h => ⟨_, by decide, rfl⟩

/-- **Dispatch.**  A request leaves the service alone, writes records, or replaces the tables. -/
lemma dispatchOperation_effect (env : Env) (storageRoot : Bool) {s : ServiceState}
    (hu : s.svc.records.UniqueKeys Record.keyBytes) (req : Request) :
    Effect s req (dispatchOperation env storageRoot s req.operation req.payload) := by
  have hread : ∀ {reply : Reply}, operationMutates req.operation req.payload = false →
      Effect s req (s, reply) := by
    intro reply h
    refine .unchanged fun ht => ?_
    rw [h] at ht
    cases ht
  have hwrite : ∀ {out : Service × Reply} {clean : Prop},
      operationMutates req.operation req.payload = true → req.RecordTextClean = clean →
      RecordWrite s.svc clean out → Written s.svc req out → Effect s req (s.writes out) := by
    rintro out _ h rfl hrec hw
    exact .wrote h hrec hw
  have hone : ∀ {kind : RecordKind} {clean : Prop} {out : Service × Reply},
      operationMutates req.operation req.payload = true → req.RecordTextClean = clean →
      estimateNewRecordCount s.svc req.payload req.operation =
        estimateNewKeyRecordCount s.svc req.payload → kind ≠ RecordKind.none →
      SingleWrite s.svc req.payload kind clean out → Effect s req (s.writes out) := by
    intro kind clean out hmut hclean hest hkind hsw
    exact hwrite hmut hclean (hsw.recordWrite hkind hu) (.single hest hsw)
  have hcode : ∀ {op : WireOperation}, WireOperation.ofCode req.operation = some op →
      req.operation = op.code := fun h => (WireOperation.code_of_ofCode h).symm
  unfold dispatchOperation
  cases hop : WireOperation.ofCode req.operation with
  | none => exact hread (by simp only [operationMutates, hop])
  | some op =>
    cases op with
    | restoreSnapshot => exact restoreSnapshot_effect s hop
    | restoreSnapshotPage => exact restoreSnapshotPage_effect s hop
    | putObject =>
        exact hone (by simp only [operationMutates, hop])
          (by simp only [Request.RecordTextClean, hop])
          (by simp only [estimateNewRecordCount, hop]) (by decide)
          (putObject_cases env storageRoot s.svc req.payload)
    | registerPrefixEntry =>
        exact hwrite (by simp only [operationMutates, hop])
          (by simp only [Request.RecordTextClean, hop]) (registerPrefix_recordWrite hu req.payload)
          (.chain (registerPrefix_chain hu (hcode hop)))
    | publishKvSegment =>
        exact hwrite (by simp only [operationMutates, hop])
          (by simp only [Request.RecordTextClean, hop]) (publishKv_recordWrite hu req.payload)
          (.chain (publishKv_chain hu (hcode hop)))
    | publishRuntimeHandoff =>
        exact hone (by simp only [operationMutates, hop])
          (by simp only [Request.RecordTextClean, hop])
          (by simp only [estimateNewRecordCount, hop]) (by decide)
          (storeArtifact_cases env storageRoot s.svc req.payload _)
    | registerExecutionArtifact =>
        exact hone (by simp only [operationMutates, hop])
          (by simp only [Request.RecordTextClean, hop])
          (by simp only [estimateNewRecordCount, hop]) (by decide)
          (storeArtifact_cases env storageRoot s.svc req.payload _)
    | registerTrainingArtifact =>
        exact hone (by simp only [operationMutates, hop])
          (by simp only [Request.RecordTextClean, hop])
          (by simp only [estimateNewRecordCount, hop]) (by decide)
          (storeArtifact_cases env storageRoot s.svc req.payload _)
    | health => exact hread (by simp only [operationMutates, hop])
    | ready => exact hread (by simp only [operationMutates, hop])
    | status => exact hread (by simp only [operationMutates, hop])
    | listRecords => exact hread (by simp only [operationMutates, hop])
    | metrics => exact hread (by simp only [operationMutates, hop])
    | exportSnapshot => exact hread (by simp only [operationMutates, hop])
    | exportSnapshotPage => exact hread (by simp only [operationMutates, hop])
    | auditLog => exact hread (by simp only [operationMutates, hop])
    | getObject => exact hread (by simp only [operationMutates, hop])
    | inspectObject => exact hread (by simp only [operationMutates, hop])
    | materializeObject => exact hread (by simp only [operationMutates, hop])
    | lookupPrefixEntry => exact hread (by simp only [operationMutates, hop])
    | resolveKvSegment => exact hread (by simp only [operationMutates, hop])
    | resolveRuntimeHandoff => exact hread (by simp only [operationMutates, hop])
    | queryExecutionArtifact => exact hread (by simp only [operationMutates, hop])
    | queryTrainingArtifact => exact hread (by simp only [operationMutates, hop])

end MemService
