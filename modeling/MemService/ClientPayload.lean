import MemService.FieldLines

/-!
# What the client writes into a request

The client builds a request from one of four structures, a `name=value` line for every field that is
set.  A builder looks only at whether the line fits the buffer it writes to.  The daemon reads the
fields with its getters, each into a buffer of its own.

The value of a text field is copied as it stands.  A line feed in it ends the line, so what follows is
another line to the daemon, and a text longer than the daemon's buffer is cut without notice.
`client_fields_decoded_iff` says that nothing else can go wrong.
-/

open ByteText CNumeral

namespace MemService

/-! ## Fields of the client's structures -/

/-- A C string the caller passes; the empty one stands for `NULL` too. -/
structure ClientText where
  bytes : Bytes
  noNul : NUL ∉ bytes

@[ext] lemma ClientText.ext {s t : ClientText} (h : s.bytes = t.bytes) : s = t := by
  cases s
  cases t
  cases h
  rfl

instance : DecidableEq ClientText := fun _ _ => decidable_of_iff _ ClientText.ext_iff.symm

/-- A text that is not passed. -/
def ClientText.absent : ClientText := ⟨[], List.not_mem_nil⟩

/-- A field of a structure: a text, which may have to be there, or a number with its `has_` flag. -/
inductive ClientValue
  | required (v : ClientText)
  | optional (v : ClientText)
  | u32 (v : Option UInt32)
  | u64 (v : Option UInt64)

/-- The text of a field, if the field is a text and is set. -/
def ClientValue.text : ClientValue → Option Bytes
  | .required v | .optional v => if v.bytes = [] then none else some v.bytes
  | .u32 _ | .u64 _ => none

/-- What is printed for a field, if it is set. -/
def ClientValue.printed : ClientValue → Option Bytes
  | .required v | .optional v => if v.bytes = [] then none else some v.bytes
  | .u32 v => v.map showU32
  | .u64 v => v.map showU64

/-- `struct mem_service_client_object`. -/
structure ClientObject where
  key : ClientText
  idempotencyKey : ClientText := .absent
  owner : Option UInt32 := none
  payloadKind : Option UInt32 := none
  backingOffset : Option UInt64 := none
  backingLen : Option UInt64 := none
  checksum : Option UInt64 := none
  version : Option UInt64 := none
  backendKind : Option UInt32 := none
  backendNode : Option UInt32 := none
  backendDeviceCna : Option UInt32 := none
  backendBlockHi : Option UInt64 := none
  backendBlockLo : Option UInt64 := none
  backendBlockVersion : Option UInt64 := none
  backendBlockOffset : Option UInt64 := none
  backendBlockBytes : Option UInt64 := none
  backendBlockChecksum : Option UInt64 := none
  payloadInline : ClientText := .absent
  payloadPath : ClientText := .absent

/-- `struct mem_service_client_block_entry`. -/
structure ClientBlockEntry where
  requestId : ClientText
  prefixGroup : ClientText
  groupId : ClientText
  blockHash : ClientText
  idempotencyKey : ClientText := .absent
  placementNode : Option UInt32 := none
  placementLevel : Option UInt32 := none
  hotSegmentId : Option UInt64 := none
  state : ClientText := .absent
  resultSegmentId : Option UInt64 := none

/-- `struct mem_service_client_artifact`. -/
structure ClientArtifact where
  key : ClientText
  idempotencyKey : ClientText := .absent
  sessionId : ClientText := .absent
  requestId : ClientText := .absent
  modelKey : ClientText := .absent
  artifactKind : ClientText := .absent
  artifactId : ClientText := .absent
  owner : Option UInt32 := none
  payloadKind : Option UInt32 := none
  backingOffset : Option UInt64 := none
  backingLen : Option UInt64 := none
  checksum : Option UInt64 := none
  version : Option UInt64 := none
  payloadInline : ClientText := .absent
  payloadPath : ClientText := .absent

/-- `struct mem_service_client_artifact_query`. -/
structure ClientArtifactQuery where
  key : ClientText
  expectedSessionId : ClientText := .absent
  expectedModelKey : ClientText := .absent
  expectedArtifactKind : ClientText := .absent
  expectedArtifactId : ClientText := .absent
  expectedOwner : Option UInt32 := none
  expectedVersion : Option UInt64 := none
  expectedChecksum : Option UInt64 := none

/-! ## The builders -/

section Builders

variable (cap : ℕ)

/-- `mem_service_wire_payload_append_field`, into a buffer of `cap` bytes. -/
def appendField (payload : Bytes) (name : String) (value : Bytes) : Option Bytes :=
  if value = [] then some payload
  else if payload.length ≥ cap then none
  else if (fieldLine name value ++ [LF]).length ≥ cap - payload.length then none
  else some (payload ++ (fieldLine name value ++ [LF]))

/-- `mem_service_client_append_required_string`, `..._optional_string`, `..._optional_u32` and
`..._optional_u64`. -/
def appendClientField (payload : Bytes) : String × ClientValue → Option Bytes
  | (name, .required v) => if v.bytes = [] then none else appendField cap payload name v.bytes
  | (name, .optional v) => if v.bytes = [] then some payload else appendField cap payload name v.bytes
  | (name, .u32 v) => v.elim (some payload) fun n => appendField cap payload name (showU32 n)
  | (name, .u64 v) => v.elim (some payload) fun n => appendField cap payload name (showU64 n)

/-- One field after the other, until one fails. -/
def appendClientFields (payload : Bytes) (fs : List (String × ClientValue)) : Option Bytes :=
  fs.foldlM (appendClientField cap) payload

end Builders

/-- The fields of `mem_service_client_append_object_payload`, in order. -/
def ClientObject.fields (o : ClientObject) : List (String × ClientValue) :=
  [("key", .required o.key), ("idempotency_key", .optional o.idempotencyKey),
    ("owner", .u32 o.owner), ("payload_kind", .u32 o.payloadKind),
    ("backing_offset", .u64 o.backingOffset), ("backing_len", .u64 o.backingLen),
    ("checksum", .u64 o.checksum), ("version", .u64 o.version),
    ("backend_kind", .u32 o.backendKind), ("backend_node", .u32 o.backendNode),
    ("backend_device_cna", .u32 o.backendDeviceCna), ("backend_block_hi", .u64 o.backendBlockHi),
    ("backend_block_lo", .u64 o.backendBlockLo),
    ("backend_block_version", .u64 o.backendBlockVersion),
    ("backend_block_offset", .u64 o.backendBlockOffset),
    ("backend_block_bytes", .u64 o.backendBlockBytes),
    ("backend_block_checksum", .u64 o.backendBlockChecksum),
    ("payload_inline", .optional o.payloadInline), ("payload_path", .optional o.payloadPath)]

/-- The fields of `mem_service_client_append_block_payload` in front of the result. -/
def ClientBlockEntry.contextFields (e : ClientBlockEntry) : List (String × ClientValue) :=
  [("request_id", .required e.requestId), ("prefix_group", .required e.prefixGroup),
    ("group_id", .required e.groupId), ("block_hash", .required e.blockHash),
    ("idempotency_key", .optional e.idempotencyKey), ("placement_node", .u32 e.placementNode),
    ("placement_level", .u32 e.placementLevel), ("hot_segment_id", .u64 e.hotSegmentId),
    ("state", .optional e.state)]

/-- The fields of `mem_service_client_append_artifact_payload`, in order. -/
def ClientArtifact.fields (a : ClientArtifact) : List (String × ClientValue) :=
  [("key", .required a.key), ("idempotency_key", .optional a.idempotencyKey),
    ("session_id", .optional a.sessionId), ("request_id", .optional a.requestId),
    ("model_key", .optional a.modelKey), ("artifact_kind", .optional a.artifactKind),
    ("artifact_id", .optional a.artifactId), ("owner", .u32 a.owner),
    ("payload_kind", .u32 a.payloadKind), ("backing_offset", .u64 a.backingOffset),
    ("backing_len", .u64 a.backingLen), ("checksum", .u64 a.checksum), ("version", .u64 a.version),
    ("payload_inline", .optional a.payloadInline), ("payload_path", .optional a.payloadPath)]

/-- The fields of `mem_service_client_append_artifact_query_payload`, in order. -/
def ClientArtifactQuery.fields (q : ClientArtifactQuery) : List (String × ClientValue) :=
  [("key", .required q.key), ("expected_session_id", .optional q.expectedSessionId),
    ("expected_model_key", .optional q.expectedModelKey),
    ("expected_artifact_kind", .optional q.expectedArtifactKind),
    ("expected_artifact_id", .optional q.expectedArtifactId),
    ("expected_owner", .u32 q.expectedOwner), ("expected_version", .u64 q.expectedVersion),
    ("expected_checksum", .u64 q.expectedChecksum)]

/-- `mem_service_client_append_object_payload`. -/
def appendObjectPayload (cap : ℕ) (payload : Bytes) (o : ClientObject) : Option Bytes :=
  appendClientFields cap payload o.fields

/-- `mem_service_client_append_block_payload`. -/
def appendBlockPayload (cap : ℕ) (payload : Bytes) (e : ClientBlockEntry) (requireResult : Bool) :
    Option Bytes := do
  let payload ← appendClientFields cap payload e.contextFields
  if requireResult ∧ (e.resultSegmentId = none ∨ e.resultSegmentId = some 0) then none
  appendClientField cap payload ("result_segment_id", .u64 e.resultSegmentId)

/-- `mem_service_client_append_artifact_payload`. -/
def appendArtifactPayload (cap : ℕ) (payload : Bytes) (a : ClientArtifact) : Option Bytes :=
  appendClientFields cap payload a.fields

/-- `mem_service_client_append_artifact_query_payload`. -/
def appendArtifactQueryPayload (cap : ℕ) (payload : Bytes) (q : ClientArtifactQuery) : Option Bytes :=
  appendClientFields cap payload q.fields

/-- What a client can ask a builder for. -/
inductive ClientRequest
  | object (o : ClientObject)
  | block (e : ClientBlockEntry) (requireResult : Bool)
  | artifact (a : ClientArtifact)
  | query (q : ClientArtifactQuery)

/-- The fields of the structure. -/
def ClientRequest.fields : ClientRequest → List (String × ClientValue)
  | .object o => o.fields
  | .block e _ => e.contextFields ++ [("result_segment_id", .u64 e.resultSegmentId)]
  | .artifact a => a.fields
  | .query q => q.fields

/-- The payload that is built in an empty buffer of `cap` bytes. -/
def ClientRequest.build (cap : ℕ) : ClientRequest → Option Bytes
  | .object o => appendObjectPayload cap [] o
  | .block e requireResult => appendBlockPayload cap [] e requireResult
  | .artifact a => appendArtifactPayload cap [] a
  | .query q => appendArtifactQueryPayload cap [] q

/-! ## The daemon's getters -/

/-- A getter of the daemon, with the size of the buffer it reads a text into. -/
inductive PayloadGetter
  | string (size : ℕ)
  | headerString (size : ℕ)
  | u32
  | u64

/-- What a field holds and a getter returns. -/
inductive ValueSort
  | text
  | u32
  | u64
  deriving DecidableEq

@[inherit_doc ValueSort]
def ClientValue.sort : ClientValue → ValueSort
  | .required _ | .optional _ => .text
  | .u32 _ => .u32
  | .u64 _ => .u64

@[inherit_doc ValueSort]
def PayloadGetter.sort : PayloadGetter → ValueSort
  | .string _ | .headerString _ => .text
  | .u32 => .u32
  | .u64 => .u64

/-- The buffer of a getter. -/
def PayloadGetter.size : PayloadGetter → ℕ
  | .string size | .headerString size => size
  | .u32 | .u64 => 48

/-- The getter returns exactly what the field says: its value if it is set, and nothing else. -/
def PayloadGetter.Reads (payload : Bytes) (name : String) : PayloadGetter → ClientValue → Prop
  | .string size, .required v =>
      payloadGetString payload (ascii name) size = (ClientValue.required v).text
  | .string size, .optional v =>
      payloadGetString payload (ascii name) size = (ClientValue.optional v).text
  | .headerString size, .required v =>
      payloadGetHeaderString payload (ascii name) size = (ClientValue.required v).text
  | .headerString size, .optional v =>
      payloadGetHeaderString payload (ascii name) size = (ClientValue.optional v).text
  | .u32, .u32 v => payloadGetU32Checked payload (ascii name) = v
  | .u64, .u64 v => payloadGetU64Checked payload (ascii name) = v
  | _, _ => False

/-- The getters `mem_service_put_object` reads an object with. -/
def objectGetters : List (String × PayloadGetter) :=
  [("key", .string 96), ("idempotency_key", .headerString 96), ("owner", .u32),
    ("payload_kind", .u32), ("backing_offset", .u64), ("backing_len", .u64), ("checksum", .u64),
    ("version", .u64), ("backend_kind", .u32), ("backend_node", .u32), ("backend_device_cna", .u32),
    ("backend_block_hi", .u64), ("backend_block_lo", .u64), ("backend_block_version", .u64),
    ("backend_block_offset", .u64), ("backend_block_bytes", .u64), ("backend_block_checksum", .u64),
    ("payload_inline", .string 1024), ("payload_path", .string 512)]

/-- The getters of `mem_service_fill_block_ctx` and its callers. -/
def blockGetters : List (String × PayloadGetter) :=
  [("request_id", .string 64), ("prefix_group", .string 64), ("group_id", .string 64),
    ("block_hash", .string 96), ("idempotency_key", .headerString 96), ("placement_node", .u32),
    ("placement_level", .u32), ("hot_segment_id", .u64), ("state", .string 32),
    ("result_segment_id", .u64)]

/-- The getters of `mem_service_store_artifact`. -/
def artifactGetters : List (String × PayloadGetter) :=
  [("key", .string 96), ("idempotency_key", .headerString 96), ("session_id", .string 96),
    ("request_id", .string 96), ("model_key", .string 96), ("artifact_kind", .string 96),
    ("artifact_id", .string 96), ("owner", .u32), ("payload_kind", .u32), ("backing_offset", .u64),
    ("backing_len", .u64), ("checksum", .u64), ("version", .u64), ("payload_inline", .string 1024),
    ("payload_path", .string 512)]

/-- The getters of `mem_service_query_artifact`. -/
def queryGetters : List (String × PayloadGetter) :=
  [("key", .string 96), ("expected_session_id", .string 96), ("expected_model_key", .string 96),
    ("expected_artifact_kind", .string 96), ("expected_artifact_id", .string 96),
    ("expected_owner", .u32), ("expected_version", .u64), ("expected_checksum", .u64)]

@[inherit_doc objectGetters]
def ClientRequest.getters : ClientRequest → List (String × PayloadGetter)
  | .object _ => objectGetters
  | .block _ _ => blockGetters
  | .artifact _ => artifactGetters
  | .query _ => queryGetters

/-! ## The built payload -/

/-- The lines of the fields that are set. -/
def printedFields (fs : List (String × ClientValue)) : List (String × Bytes) :=
  fs.filterMap fun f => f.2.printed.map fun v => (f.1, v)

section Build

variable {cap : ℕ} {payload out : Bytes}

lemma appendField_eq {name : String} {v : Bytes} (hv : v ≠ [])
    (h : appendField cap payload name v = some out) :
    out = payload ++ unlines [fieldLine name v] := by
  rw [appendField, if_neg hv] at h
  split at h
  · cases h
  split at h
  · cases h
  cases h
  simp [unlines]

lemma appendClientField_eq {f : String × ClientValue} (h : appendClientField cap payload f = some out) :
    out = payload ++ unlines ((printedFields [f]).map fun f => fieldLine f.1 f.2) := by
  obtain ⟨name, value⟩ := f
  cases value with
  | required v =>
      rw [appendClientField] at h
      split at h
      · cases h
      · rename_i hv
        rw [appendField_eq hv h]
        simp [printedFields, ClientValue.printed, hv]
  | optional v =>
      rw [appendClientField] at h
      split at h
      · rename_i hv
        cases h
        simp [printedFields, ClientValue.printed, hv, unlines]
      · rename_i hv
        rw [appendField_eq hv h]
        simp [printedFields, ClientValue.printed, hv]
  | u32 v =>
      cases v with
      | none =>
          cases h
          simp [printedFields, ClientValue.printed, unlines]
      | some n => exact appendField_eq (decimal_ne_nil _) h
  | u64 v =>
      cases v with
      | none =>
          cases h
          simp [printedFields, ClientValue.printed, unlines]
      | some n => exact appendField_eq (decimal_ne_nil _) h

lemma printedFields_append (fs gs : List (String × ClientValue)) :
    printedFields (fs ++ gs) = printedFields fs ++ printedFields gs := List.filterMap_append

/-- One line after the other: the induction is on the fields. -/
lemma appendClientFields_eq {fs : List (String × ClientValue)}
    (h : appendClientFields cap payload fs = some out) :
    out = payload ++ unlines ((printedFields fs).map fun f => fieldLine f.1 f.2) := by
  induction fs generalizing payload with
  | nil =>
      cases h
      simp [printedFields, unlines]
  | cons f fs ih =>
      rw [appendClientFields, List.foldlM_cons] at h
      obtain ⟨mid, hmid, hout⟩ := Option.bind_eq_some_iff.mp h
      rw [ih hout, appendClientField_eq hmid, show f :: fs = [f] ++ fs from rfl,
        printedFields_append, List.map_append, unlines_append, List.append_assoc]

end Build

/-- A built payload is the lines of the fields that are set. -/
lemma ClientRequest.build_eq {c : ClientRequest} {cap : ℕ} {payload : Bytes}
    (h : c.build cap = some payload) :
    payload = unlines ((printedFields c.fields).map fun f => fieldLine f.1 f.2) := by
  cases c with
  | object o => exact appendClientFields_eq h
  | artifact a => exact appendClientFields_eq h
  | query q => exact appendClientFields_eq h
  | block e requireResult =>
      obtain ⟨mid, hmid, hout⟩ := Option.bind_eq_some_iff.mp h
      split at hout
      · cases hout
      rw [appendClientField_eq hout, appendClientFields_eq hmid, List.nil_append,
        ClientRequest.fields, printedFields_append, List.map_append, unlines_append]

/-! ## Names -/

/-- Names of fields: all different, without equals signs and line feeds. -/
def FieldNames (names : List String) : Prop :=
  (names.map ascii).Nodup ∧ ∀ n ∈ names, EQ ∉ ascii n ∧ Plain (ascii n)

instance (names : List String) : Decidable (FieldNames names) := inferInstanceAs (Decidable (_ ∧ _))

namespace ClientRequest

variable (c : ClientRequest)

/-- The client's table of fields and the daemon's table of getters agree, field by field. -/
lemma sorts_agree :
    c.fields.map (fun f => (f.1, f.2.sort)) = c.getters.map fun g => (g.1, g.2.sort) := by
  cases c <;> rfl

lemma fieldNames_getters : FieldNames (c.getters.map Prod.fst) := by
  have hobject : FieldNames (objectGetters.map Prod.fst) := by decide +kernel
  have hblock : FieldNames (blockGetters.map Prod.fst) := by decide +kernel
  have hartifact : FieldNames (artifactGetters.map Prod.fst) := by decide +kernel
  have hquery : FieldNames (queryGetters.map Prod.fst) := by decide +kernel
  cases c with
  | object o => exact hobject
  | block e requireResult => exact hblock
  | artifact a => exact hartifact
  | query q => exact hquery

lemma fieldNames : FieldNames (c.fields.map Prod.fst) := by
  have hnames : c.fields.map Prod.fst = c.getters.map Prod.fst := by
    have h := congrArg (List.map Prod.fst) c.sorts_agree
    rw [List.map_map, List.map_map] at h
    exact h
  rw [hnames]
  exact c.fieldNames_getters

end ClientRequest

/-- A name is looked up where it stands. -/
lemma lookup_of_mem {gs : List (String × PayloadGetter)} (h : FieldNames (gs.map Prod.fst))
    {name : String} {g : PayloadGetter} (hg : (name, g) ∈ gs) : gs.lookup name = some g := by
  induction gs with
  | nil => cases hg
  | cons first gs ih =>
      obtain ⟨⟨hnew, hnodup⟩, hplain⟩ := And.imp_left List.nodup_cons.mp h
      rcases List.mem_cons.mp hg with rfl | hg
      · exact List.lookup_cons_self
      · have hne : name ≠ first.1 := by
          rintro rfl
          exact hnew (List.mem_map.mpr ⟨_, List.mem_map.mpr ⟨_, hg, rfl⟩, rfl⟩)
        rw [List.lookup_cons, beq_eq_false_iff_ne.mpr hne]
        exact ih ⟨hnodup, fun n hn => hplain n (by simp [hn])⟩ hg

/-- Every field has a getter of its sort. -/
lemma ClientRequest.exists_getter (c : ClientRequest) {f : String × ClientValue} (hf : f ∈ c.fields) :
    ∃ g, c.getters.lookup f.1 = some g ∧ g.sort = f.2.sort := by
  have hmem : (f.1, f.2.sort) ∈ c.getters.map fun g => (g.1, g.2.sort) := by
    rw [← c.sorts_agree]
    exact List.mem_map.mpr ⟨f, hf, rfl⟩
  obtain ⟨⟨name, g⟩, hg, heq⟩ := List.mem_map.mp hmem
  obtain ⟨rfl, hsort⟩ := Prod.mk.inj heq
  exact ⟨g, lookup_of_mem c.fieldNames_getters hg, hsort⟩

/-! ## Reading it back -/

section Read

variable {fs : List (String × ClientValue)}

lemma mem_printedFields {g : String × Bytes} :
    g ∈ printedFields fs ↔ ∃ f ∈ fs, f.1 = g.1 ∧ f.2.printed = some g.2 := by
  simp only [printedFields, List.mem_filterMap, Option.map_eq_some_iff]
  constructor
  · rintro ⟨f, hf, v, hv, rfl⟩
    exact ⟨f, hf, rfl, hv⟩
  · rintro ⟨f, hf, hname, hv⟩
    exact ⟨f, hf, g.2, hv, by rw [hname]⟩

/-- Among the printed lines, a field's name is found with what was printed for it. -/
lemma find_printedFields (h : FieldNames (fs.map Prod.fst)) {f : String × ClientValue} (hf : f ∈ fs) :
    (printedFields fs).find? (fun g => decide (ascii f.1 = ascii g.1)) =
      f.2.printed.map fun v => (f.1, v) := by
  have hunique : ∀ f' ∈ fs, ascii f.1 = ascii f'.1 → f' = f := by
    intro f' hf' hname
    rw [FieldNames, List.map_map] at h
    exact List.inj_on_of_nodup_map h.1 hf' hf hname.symm
  cases hv : f.2.printed with
  | none =>
      rw [Option.map_none, List.find?_eq_none]
      intro g hg hname
      obtain ⟨f', hf', hf'name, hprinted⟩ := mem_printedFields.mp hg
      rw [decide_eq_true_eq, ← hf'name] at hname
      rw [hunique f' hf' hname, hv] at hprinted
      cases hprinted
  | some v =>
      have hsome : ((printedFields fs).find? fun g => decide (ascii f.1 = ascii g.1)).isSome := by
        rw [List.find?_isSome]
        exact ⟨(f.1, v), mem_printedFields.mpr ⟨f, hf, rfl, hv⟩, by simp⟩
      obtain ⟨g, hg⟩ := Option.isSome_iff_exists.mp hsome
      obtain ⟨f', hf', hf'name, hprinted⟩ := mem_printedFields.mp (List.mem_of_find?_eq_some hg)
      have hname := List.find?_some hg
      rw [decide_eq_true_eq, ← hf'name] at hname
      obtain rfl := hunique f' hf' hname
      rw [hv] at hprinted
      cases hprinted
      rw [hg, Option.map_some, hf'name]

/-- No text has a line feed: the lines are those that were printed. -/
lemma plain_printedFields (h : FieldNames (fs.map Prod.fst))
    (hlf : ∀ f ∈ fs, ∀ v, f.2.text = some v → LF ∉ v) :
    ∀ g ∈ printedFields fs, EQ ∉ ascii g.1 ∧ Plain (ascii g.1) ∧ Plain g.2 := by
  intro g hg
  obtain ⟨f, hf, hname, hprinted⟩ := mem_printedFields.mp hg
  obtain ⟨heq, hplain⟩ := h.2 f.1 (List.mem_map.mpr ⟨f, hf, rfl⟩)
  rw [← hname]
  refine ⟨heq, hplain, ?_⟩
  have hlf := hlf f hf
  cases hvalue : f.2 with
  | required v | optional v =>
      rw [hvalue] at hlf hprinted
      rw [ClientValue.printed] at hprinted
      rw [ClientValue.text] at hlf
      split at hprinted
      · cases hprinted
      · rename_i hv
        rw [if_neg hv] at hlf
        rw [← Option.some_inj.mp hprinted]
        intro b hb
        exact ⟨fun h0 => v.noNul (h0 ▸ hb), fun hbLf => hlf _ rfl (hbLf ▸ hb)⟩
  | u32 v | u64 v =>
      rw [hvalue] at hprinted
      obtain ⟨n, -, hn⟩ := Option.map_eq_some_iff.mp hprinted
      rw [← hn]
      exact plain_decimal _

/-- A text that is set goes through a buffer with room for it. -/
lemma fitValue_printed {v : ClientValue} {name : String} {size : ℕ} (hsort : v.sort = .text)
    (hsize : ∀ t, v.text = some t → t.length < size) :
    ((v.printed.map fun t => (name, t)).bind fun f => fitValue size f.2) = v.text := by
  cases v with
  | required v | optional v =>
      rw [ClientValue.text] at hsize ⊢
      rw [ClientValue.printed]
      split
      · rfl
      · rename_i hv
        have hlen := hsize v.bytes (if_neg hv)
        rw [Option.map_some, Option.bind_some, fitValue, List.take_of_length_le (by dsimp only; omega),
          if_neg hv]
  | u32 v | u64 v => cases hsort

lemma fitValue_printed_u64 {v : Option UInt64} {name : String} :
    (((v.map showU64).map fun t => (name, t)).bind fun f => fitValue 48 f.2).bind (readU64 0) = v := by
  cases v with
  | none => rfl
  | some n =>
      have hlen := length_decimal_u64 n
      rw [Option.map_some, Option.map_some, Option.bind_some, showU64, fitValue_decimal (by omega),
        Option.bind_some, readU64_decimal]

/-- The getter of a field returns what the field says, if no text has a line feed and its own fits. -/
lemma reads_printedFields (h : FieldNames (fs.map Prod.fst))
    (hlf : ∀ f ∈ fs, ∀ v, f.2.text = some v → LF ∉ v) {f : String × ClientValue} (hf : f ∈ fs)
    {g : PayloadGetter} (hsort : g.sort = f.2.sort)
    (hsize : ∀ v, f.2.text = some v → v.length < g.size) :
    g.Reads (unlines ((printedFields fs).map fun f => fieldLine f.1 f.2)) f.1 f.2 := by
  have hblock := plain_printedFields h hlf
  have hname := (h.2 f.1 (List.mem_map.mpr ⟨f, hf, rfl⟩)).1
  have hstring := fun size => payloadGetString_block size hname hblock
  have hheader := fun size => @payloadGetHeaderString_block _ (ascii f.1) size hblock
  rw [find_printedFields h hf] at hstring hheader
  cases g with
  | string size =>
      have hread := (hstring size).trans (fitValue_printed hsort.symm hsize)
      cases hvalue : f.2 with
      | required v | optional v =>
          rw [hvalue] at hread
          exact hread
      | u32 v | u64 v =>
          rw [hvalue] at hsort
          cases hsort
  | headerString size =>
      have hread := (hheader size).trans (fitValue_printed hsort.symm hsize)
      cases hvalue : f.2 with
      | required v | optional v =>
          rw [hvalue] at hread
          exact hread
      | u32 v | u64 v =>
          rw [hvalue] at hsort
          cases hsort
  | u32 =>
      cases hvalue : f.2 with
      | required v | optional v | u64 v =>
          rw [hvalue] at hsort
          cases hsort
      | u32 v =>
          have hprinted : (ClientValue.u32 v).printed =
              (v.map UInt32.toUInt64).map showU64 := by
            rw [Option.map_map]
            exact congrArg (Option.map · v) (funext showU32_eq)
          rw [hvalue, hprinted] at hstring
          rw [PayloadGetter.Reads, payloadGetU32Checked, payloadGetU64Checked, hstring,
            fitValue_printed_u64]
          cases v with
          | none => rfl
          | some n =>
              rw [Option.map_some, Option.bind_some, UInt32.toNat_toUInt64, if_pos n.toNat_lt]
              simp
  | u64 =>
      cases hvalue : f.2 with
      | required v | optional v | u32 v =>
          rw [hvalue] at hsort
          cases hsort
      | u64 v =>
          rw [hvalue] at hstring
          rw [PayloadGetter.Reads, payloadGetU64Checked, hstring]
          exact fitValue_printed_u64

end Read

/-! ## When the daemon reads what the client set -/

/-- The daemon reads the structure off the payload: every getter returns its field, and under no other
name is there anything. -/
structure ClientRequest.Decoded (c : ClientRequest) (payload : Bytes) : Prop where
  fields : ∀ f ∈ c.fields, ∃ g, c.getters.lookup f.1 = some g ∧ g.Reads payload f.1 f.2
  others : ∀ name, EQ ∉ name → (∀ f ∈ c.fields, f.2.printed ≠ none → name ≠ ascii f.1) →
    ∀ size, payloadGetString payload name size = none ∧
      payloadGetHeaderString payload name size = none

/-- No text of the structure has a line feed, and each is shorter than the buffer it is read into. -/
def ClientRequest.Fits (c : ClientRequest) : Prop :=
  ∀ f ∈ c.fields, ∀ v, f.2.text = some v →
    LF ∉ v ∧ ∀ g, c.getters.lookup f.1 = some g → v.length < g.size

instance (c : ClientRequest) : Decidable c.Fits :=
  inferInstanceAs (Decidable (∀ f ∈ c.fields, ∀ v ∈ f.2.text,
    LF ∉ v ∧ ∀ g ∈ c.getters.lookup f.1, v.length < g.size))

/-- What a getter returns is part of one line, and shorter than its buffer. -/
lemma PayloadGetter.Reads.text {payload : Bytes} {name : String} {g : PayloadGetter} {value : ClientValue}
    (h : g.Reads payload name value) {v : Bytes} (hv : value.text = some v) :
    LF ∉ v ∧ v.length < g.size := by
  have hline : ∀ {v : Bytes}, (v ≠ [] ∧ ∃ l ∈ lines payload, v ⊆ l) → LF ∉ v := by
    rintro v ⟨-, l, hl, hsub⟩ hmem
    exact lf_notMem_of_mem_lines hl (hsub hmem)
  cases g with
  | string size =>
      cases value with
      | required w | optional w =>
          have hread := h.trans hv
          exact ⟨hline (payloadGetString_subset hread), length_payloadGetString hread⟩
      | u32 w | u64 w => cases hv
  | headerString size =>
      cases value with
      | required w | optional w =>
          have hread := h.trans hv
          exact ⟨hline (payloadGetHeaderString_subset hread), length_payloadGetHeaderString hread⟩
      | u32 w | u64 w => cases hv
  | u32 =>
      cases value with
      | required w | optional w => cases h
      | u32 w | u64 w => cases hv
  | u64 =>
      cases value with
      | required w | optional w => cases h
      | u32 w | u64 w => cases hv

/-- **What the client sets is what the daemon reads.**  For each of the four structures and every payload
its builder makes of it, in a buffer of any size: the daemon reads exactly the fields that are set, and
no others, if and only if no text has a line feed and every text fits the daemon's buffer. -/
theorem client_fields_decoded_iff (c : ClientRequest) (cap : ℕ) {payload : Bytes}
    (h : c.build cap = some payload) : c.Decoded payload ↔ c.Fits := by
  rw [ClientRequest.build_eq h]
  constructor
  · intro hdecoded f hf v hv
    obtain ⟨g, hg, hreads⟩ := hdecoded.fields f hf
    refine ⟨(hreads.text hv).1, fun g' hg' => ?_⟩
    rw [hg, Option.some_inj] at hg'
    rw [← hg']
    exact (hreads.text hv).2
  · intro hfits
    have hlf : ∀ f ∈ c.fields, ∀ v, f.2.text = some v → LF ∉ v := fun f hf v hv => (hfits f hf v hv).1
    refine ⟨fun f hf => ?_, fun name hname hother size => ?_⟩
    · obtain ⟨g, hg, hsort⟩ := c.exists_getter hf
      exact ⟨g, hg, reads_printedFields c.fieldNames hlf hf hsort fun v hv => (hfits f hf v hv).2 g hg⟩
    · have hblock := plain_printedFields c.fieldNames hlf
      have hnone : (printedFields c.fields).find? (fun g => decide (name = ascii g.1)) = none := by
        rw [List.find?_eq_none]
        intro g hg hgname
        obtain ⟨f, hf, hfname, hprinted⟩ := mem_printedFields.mp hg
        refine hother f hf (by rw [hprinted]; simp) ?_
        rw [hfname]
        exact of_decide_eq_true hgname
      rw [payloadGetString_block size hname hblock, payloadGetHeaderString_block size hblock, hnone]
      exact ⟨rfl, rfl⟩

/-- An object with a key, a version and an inline payload. -/
def ClientObject.plain : ClientObject where
  key := ⟨ascii "a", by decide⟩
  version := some 7
  payloadInline := ⟨ascii "x=y", by decide⟩

theorem client_fields_decoded_iff_plain :
    (ClientRequest.object .plain).build 512 =
      some (unlines [ascii "key=a", ascii "version=7", ascii "payload_inline=x=y"]) ∧
    (ClientRequest.object .plain).Decoded
      (unlines [ascii "key=a", ascii "version=7", ascii "payload_inline=x=y"]) := by
  have hbuild : (ClientRequest.object .plain).build 512 =
      some (unlines [ascii "key=a", ascii "version=7", ascii "payload_inline=x=y"]) := by decide +kernel
  exact ⟨hbuild, (client_fields_decoded_iff (.object .plain) 512 hbuild).mpr (by decide +kernel)⟩

/-- An object whose key has a line feed in it. -/
def ClientObject.twoLines : ClientObject where
  key := ⟨ascii "a" ++ LF :: ascii "version=9", by decide⟩

/-- **A field is smuggled in.**  The daemon reads another key than the client set, and a version that it
did not set. -/
theorem client_key_sets_version :
    (ClientRequest.object .twoLines).build 512 = some (unlines [ascii "key=a", ascii "version=9"]) ∧
    payloadGetString (unlines [ascii "key=a", ascii "version=9"]) (ascii "key") 96 =
      some (ascii "a") ∧
    payloadGetU64Checked (unlines [ascii "key=a", ascii "version=9"]) (ascii "version") = some 9 ∧
    ¬ (ClientRequest.object .twoLines).Decoded (unlines [ascii "key=a", ascii "version=9"]) := by
  refine ⟨by decide +kernel, by decide +kernel, by decide +kernel, fun hdecoded => ?_⟩
  obtain ⟨g, hg, hreads⟩ := hdecoded.fields ("version", .u64 none) (by
    simp [ClientRequest.fields, ClientObject.fields, ClientObject.twoLines])
  cases hg
  exact absurd hreads (by
    rw [PayloadGetter.Reads]
    decide +kernel)

end MemService
