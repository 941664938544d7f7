import MemService.StoreText
import Mathlib.Tactic.IntervalCases
import Mathlib.Tactic.FinCases

/-!
# What comes back from a store

Every frame writer is inverted by the shared importer up to a *normal form*, and this module says
which one.  A line loses the carriage returns at its end, so `Record.stored` trims every text
field; the writer skips what it considers absent, so `Record.stored` clears the backend reference
of a record without a backend and the members past the member count.  `Record.snapshotted` clears
the backend reference always, since the snapshot writer never prints it.

`importStoreLines_saveRecord`, `importStoreLines_saveIdempotencyRecord` and
`importStoreLines_saveAuditEvent` are the three spec lemmas: the frame's lines, read back, install
exactly the normal form.  The conditions under which the normal form is the value itself
(`Record.stored_eq_self_iff` and its siblings) are equivalences.
-/

open ByteText CNumeral

namespace MemService

/-! ## Numbers -/

@[simp] lemma parseU64Value_decimal (x d : UInt64) : parseU64Value (decimal x.toNat) d = x := by
  simp [parseU64Value, readU64_decimal]

@[simp] lemma parseU32Value_decimal (x d : UInt32) : parseU32Value (decimal x.toNat) d = x := by
  have h : parseU64Value (decimal x.toNat) d.toUInt64 = x.toUInt64 := by
    have := parseU64Value_decimal x.toUInt64 d.toUInt64
    rwa [UInt32.toNat_toUInt64] at this
  have hlt : x.toUInt64.toNat < 2 ^ 32 := by
    rw [UInt32.toNat_toUInt64]
    exact x.toNat_lt
  rw [parseU32Value, h, if_pos hlt, UInt32.toUInt32_toUInt64]

@[simp] lemma parseI64Value_signedDecimal (x d : Int64) :
    parseI64Value (signedDecimal x.toInt) d = x := by
  simp [parseI64Value, readI64_signedDecimal]

lemma length_decimal_u64 (x : UInt64) : (decimal x.toNat).length ≤ 20 :=
  length_decimal_le (by norm_num) (Nat.lt_trans x.toNat_lt (by norm_num))

lemma length_decimal_u32 (x : UInt32) : (decimal x.toNat).length ≤ 10 :=
  length_decimal_le (by norm_num) (Nat.lt_trans x.toNat_lt (by norm_num))

/-! ## One line -/

/-- The line reader works on trimmed lines, and skips the empty ones. -/
def readBack (ls : List Bytes) : List Bytes := (ls.map trimLine).filter (· ≠ [])

lemma readBack_append (ls ms : List Bytes) : readBack (ls ++ ms) = readBack ls ++ readBack ms := by
  simp [readBack]

/-- A line that can be written and read: it is plain and fits the line buffer. -/
def FitsLine (l : Bytes) : Prop := Plain l ∧ l.length ≤ lineCap

instance (l : Bytes) : Decidable (FitsLine l) := inferInstanceAs (Decidable (_ ∧ _))

lemma nonBlank_unlines_fits {ls : List Bytes} (h : ∀ l ∈ ls, FitsLine l) (rest : Bytes) :
    nonBlank lineCap (unlines ls ++ rest) = readBack ls ++ nonBlank lineCap rest :=
  nonBlank_unlines h rest

/-- A field name the importer can read: not empty, no equals sign, and it fits the name buffer. -/
def FieldName (n : Bytes) : Prop := n ≠ [] ∧ EQ ∉ n ∧ n.length ≤ 95

instance (n : Bytes) : Decidable (FieldName n) := inferInstanceAs (Decidable (_ ∧ _ ∧ _))

lemma parseLineField_field {n v : Bytes} (hn : FieldName n) (hv : v.length ≤ 511) :
    parseLineField (n ++ EQ :: v) = some (n, v) := by
  obtain ⟨hne, heq, hlen⟩ := hn
  rw [parseLineField, splitEq_field heq]
  obtain ⟨b, n', rfl⟩ := List.exists_cons_of_ne_nil hne
  simp only [List.take_of_length_le hlen, List.take_of_length_le hv]

lemma ne_of_eq_notMem {l n v : Bytes} (h : EQ ∉ l) : n ++ EQ :: v ≠ l := by
  rintro rfl
  simp at h

/-- What a field line does to the frame that is open. -/
def fieldStep (o : OpenFrame) (n v : Bytes) : Option OpenFrame :=
  match o with
  | .record r => some (.record (parseStoreRecordField r n v))
  | .idempotency r => (parseStoreIdempotencyField r n v).map .idempotency
  | .audit e => some (.audit (parseStoreAuditField e n v))
  | .closed => some .closed

/-- A field line is never one of the frame keywords, so it reaches the frame that is open. -/
lemma importStoreLine_field (s : Service × OpenFrame) {n v : Bytes} (hn : FieldName n)
    (hv : v.length ≤ 511) :
    importStoreLine s (n ++ EQ :: v) = (fieldStep s.2 n v).map fun o => (s.1, o) := by
  unfold importStoreLine
  rw [if_neg (by simp), if_neg (ne_of_eq_notMem (by decide)), if_neg (ne_of_eq_notMem (by decide)),
    if_neg (ne_of_eq_notMem (by decide)), if_neg (ne_of_eq_notMem (by decide)),
    if_neg (ne_of_eq_notMem (by decide)), if_neg (ne_of_eq_notMem (by decide)),
    parseLineField_field hn hv]
  obtain ⟨svc, o⟩ := s
  cases o with
  | idempotency r => simp [fieldStep, Option.map_map, Function.comp_def]
  | _ => rfl

lemma readBack_fields {α : Type*} (name : α → String) (text : α → Bytes) (l : List α) :
    readBack (l.map fun a => fieldLine (name a) (text a)) =
      l.map fun a => fieldLine (name a) (trimLine (text a)) := by
  unfold readBack
  rw [List.map_map, List.filter_eq_self.mpr]
  · refine List.map_congr_left fun a _ => ?_
    exact trimLine_field _ _
  · intro x hx
    obtain ⟨a, -, rfl⟩ := List.mem_map.mp hx
    simp [fieldLine, trimLine_field]

lemma importStoreLines_append (s : Service × OpenFrame) (ls ms : List Bytes) :
    importStoreLines s (ls ++ ms) = (importStoreLines s ls).bind fun t => importStoreLines t ms := by
  simp only [importStoreLines, List.foldlM_append]
  rfl

lemma importStoreLines_cons (s : Service × OpenFrame) (l : Bytes) (ls : List Bytes) :
    importStoreLines s (l :: ls) = (importStoreLine s l).bind fun t => importStoreLines t ls := by
  simp only [importStoreLines, List.foldlM_cons]
  rfl

@[simp] lemma importStoreLines_nil (s : Service × OpenFrame) : importStoreLines s [] = some s := rfl

/-! ## Records -/

namespace RecordField

lemma fieldName (f : RecordField) : FieldName (ascii f.name) := by
  cases f <;> decide

/-- A field's name finds the field, and no field is taken for a member. -/
lemma parseStoreRecordField_name (f : RecordField) (r : Record) (v : Bytes) :
    parseStoreRecordField r (ascii f.name) v = f.assign v r := by
  cases f <;> rfl

lemma plain_text (f : RecordField) (r : Record) : Plain (f.text r) := by
  cases f <;> first
    | exact plain_decimal _
    | exact plain_signedDecimal _
    | exact FieldText.plain _

lemma length_text_le (f : RecordField) (r : Record) : (f.text r).length ≤ 95 := by
  have htext : ∀ {cap : ℕ} (t : FieldText cap), cap ≤ 96 → t.bytes.length ≤ 95 := by
    intro cap t hcap
    have := t.length_lt
    omega
  have hoff : r.objectPublishSupernodeOffsetMs.toInt.natAbs < 10 ^ 19 := by
    have hlo := r.objectPublishSupernodeOffsetMs.le_toInt
    have hhi := r.objectPublishSupernodeOffsetMs.toInt_lt
    norm_num at hlo hhi ⊢
    omega
  cases f <;> simp only [text] <;> first
    | with_reducible exact Nat.le_trans (length_decimal_u64 _) (by norm_num)
    | with_reducible exact Nat.le_trans (length_decimal_u32 _) (by norm_num)
    | with_reducible exact htext _ (by norm_num)
    | with_reducible exact Nat.le_trans (length_signedDecimal_le (by norm_num) hoff) (by norm_num)
    | exact Nat.le_trans (length_decimal_le (k := 1) (by norm_num) (Nat.lt_trans r.memberCount.isLt
        (by norm_num))) (by norm_num)

lemma length_name_le (f : RecordField) : (ascii f.name).length ≤ 40 := by
  cases f <;> decide

lemma plain_name (f : RecordField) : Plain (ascii f.name) := by
  cases f <;> decide

end RecordField

lemma fitsLine_field {n v : Bytes} {k : ℕ} (hn : Plain n) (hv : Plain v) (hnk : n.length ≤ k)
    (hvk : v.length + k + 1 ≤ lineCap) : FitsLine (n ++ EQ :: v) := by
  refine ⟨?_, ?_⟩
  · intro b hb
    rcases List.mem_append.mp hb with h | h
    · exact hn b h
    · rcases List.mem_cons.mp h with rfl | h
      · decide
      · exact hv b h
  · simp only [List.length_append, List.length_cons]
    omega

lemma fitsLine_recordField (f : RecordField) (r : Record) :
    FitsLine (fieldLine f.name (f.text r)) := by
  have := f.length_text_le r
  refine fitsLine_field f.plain_name (f.plain_text r) f.length_name_le ?_
  show _ ≤ 511
  omega

lemma memberName (i : Fin maxGroupMembers) :
    FieldName (ascii "member" ++ decimal i.val) ∧
      memberIndexFromName (ascii "member" ++ decimal i.val) = some i ∧
      Plain (ascii "member" ++ decimal i.val) ∧
      (ascii "member" ++ decimal i.val).length ≤ 40 := by
  revert i
  decide

lemma fitsLine_memberLines {r : Record} {l : Bytes} (h : l ∈ memberLines r) : FitsLine l := by
  obtain ⟨i, -, rfl⟩ := List.mem_map.mp h
  obtain ⟨-, -, hp, hlen⟩ := memberName i
  have := (r.memberBlockHashes i).length_lt
  refine fitsLine_field hp (r.memberBlockHashes i).plain hlen ?_
  show _ ≤ 511
  omega

lemma fitsLine_snapshotRecord {r : Record} {l : Bytes} (h : l ∈ snapshotRecord r) :
    FitsLine l := by
  simp only [snapshotRecord, List.mem_append, List.mem_singleton, recordFieldLines,
    List.mem_map] at h
  rcases h with ((rfl | ⟨f, -, rfl⟩) | h) | rfl
  · decide
  · exact fitsLine_recordField f r
  · exact fitsLine_memberLines h
  · decide

lemma fitsLine_saveRecord {r : Record} {l : Bytes} (h : l ∈ saveRecord r) : FitsLine l := by
  simp only [saveRecord, List.mem_append, List.mem_singleton, recordFieldLines,
    List.mem_map] at h
  rcases h with (((rfl | ⟨f, -, rfl⟩) | h) | h) | rfl
  · decide
  · exact fitsLine_recordField f r
  · split at h
    · obtain ⟨f, -, rfl⟩ := List.mem_map.mp h
      exact fitsLine_recordField f r
    · cases h
  · exact fitsLine_memberLines h
  · decide

namespace Record

/-- A record as the snapshot text carries it. -/
def snapshotted (r : Record) : Record :=
  { r with
    key := r.key.trim
    requestId := r.requestId.trim
    prefixGroup := r.prefixGroup.trim
    groupId := r.groupId.trim
    blockHash := r.blockHash.trim
    sessionId := r.sessionId.trim
    modelKey := r.modelKey.trim
    artifactKind := r.artifactKind.trim
    artifactId := r.artifactId.trim
    objectBackend := {}
    memberBlockHashes := fun i =>
      if i.val < r.memberCount.val then (r.memberBlockHashes i).trim else FieldText.blank }

/-- A record as the store text carries it. -/
def stored (r : Record) : Record :=
  { r.snapshotted with
    objectBackend := if r.objectBackend.kind ≠ objectBackendObmmPool then r.objectBackend else {} }

/-- The text fields come back unchanged, and nothing is held past the member count. -/
structure TextClean (r : Record) : Prop where
  key : r.key.Clean
  requestId : r.requestId.Clean
  prefixGroup : r.prefixGroup.Clean
  groupId : r.groupId.Clean
  blockHash : r.blockHash.Clean
  sessionId : r.sessionId.Clean
  modelKey : r.modelKey.Clean
  artifactKind : r.artifactKind.Clean
  artifactId : r.artifactId.Clean
  members : ∀ i : Fin maxGroupMembers, i.val < r.memberCount.val →
    (r.memberBlockHashes i).Clean
  hiddenMembers : ∀ i : Fin maxGroupMembers, r.memberCount.val ≤ i.val →
    r.memberBlockHashes i = FieldText.blank

/-- A record the store text carries whole. -/
structure Storable (r : Record) : Prop extends r.TextClean where
  backend : r.objectBackend.kind = objectBackendObmmPool → r.objectBackend = {}

lemma snapshotted_eq_self_iff {r : Record} :
    r.snapshotted = r ↔ r.TextClean ∧ r.objectBackend = {} := by
  constructor
  · intro h
    have hm : ∀ i, (if i.val < r.memberCount.val then (r.memberBlockHashes i).trim
        else FieldText.blank) = r.memberBlockHashes i :=
      fun i => congrFun (congrArg Record.memberBlockHashes h) i
    refine ⟨⟨?_, ?_, ?_, ?_, ?_, ?_, ?_, ?_, ?_, ?_, ?_⟩,
      (congrArg Record.objectBackend h).symm⟩
    · exact FieldText.trim_eq_self_iff.mp (congrArg Record.key h)
    · exact FieldText.trim_eq_self_iff.mp (congrArg Record.requestId h)
    · exact FieldText.trim_eq_self_iff.mp (congrArg Record.prefixGroup h)
    · exact FieldText.trim_eq_self_iff.mp (congrArg Record.groupId h)
    · exact FieldText.trim_eq_self_iff.mp (congrArg Record.blockHash h)
    · exact FieldText.trim_eq_self_iff.mp (congrArg Record.sessionId h)
    · exact FieldText.trim_eq_self_iff.mp (congrArg Record.modelKey h)
    · exact FieldText.trim_eq_self_iff.mp (congrArg Record.artifactKind h)
    · exact FieldText.trim_eq_self_iff.mp (congrArg Record.artifactId h)
    · intro i hi
      have := hm i
      rw [if_pos hi] at this
      exact FieldText.trim_eq_self_iff.mp this
    · intro i hi
      have := hm i
      rw [if_neg (by omega)] at this
      exact this.symm
  · rintro ⟨h, hb⟩
    have hmembers : (fun i : Fin maxGroupMembers => if i.val < r.memberCount.val
        then (r.memberBlockHashes i).trim else FieldText.blank) = r.memberBlockHashes := by
      funext i
      split
      · rename_i hi
        exact FieldText.trim_eq_self_iff.mpr (h.members i hi)
      · rename_i hi
        exact (h.hiddenMembers i (by omega)).symm
    unfold snapshotted
    rw [hmembers, FieldText.trim_eq_self_iff.mpr h.key, FieldText.trim_eq_self_iff.mpr h.requestId,
      FieldText.trim_eq_self_iff.mpr h.prefixGroup, FieldText.trim_eq_self_iff.mpr h.groupId,
      FieldText.trim_eq_self_iff.mpr h.blockHash, FieldText.trim_eq_self_iff.mpr h.sessionId,
      FieldText.trim_eq_self_iff.mpr h.modelKey, FieldText.trim_eq_self_iff.mpr h.artifactKind,
      FieldText.trim_eq_self_iff.mpr h.artifactId, ← hb]

lemma stored_eq_self_iff {r : Record} : r.stored = r ↔ r.Storable := by
  -- the backend reference is independent of the rest, so it is split off first
  have hsplit : r.stored = r ↔ ({ r with objectBackend := {} } : Record).snapshotted
      = { r with objectBackend := {} } ∧
      (if r.objectBackend.kind ≠ objectBackendObmmPool then r.objectBackend else {}) =
        r.objectBackend := by
    constructor
    · intro h
      refine ⟨?_, congrArg Record.objectBackend h⟩
      have := congrArg (fun q : Record => ({ q with objectBackend := {} } : Record)) h
      exact this
    · rintro ⟨h, hb⟩
      have := congrArg (fun q : Record => ({ q with objectBackend := r.objectBackend } : Record)) h
      unfold stored
      rw [hb]
      exact this
  rw [hsplit, snapshotted_eq_self_iff]
  constructor
  · rintro ⟨⟨ht, -⟩, hb⟩
    refine ⟨⟨ht.key, ht.requestId, ht.prefixGroup, ht.groupId, ht.blockHash, ht.sessionId,
      ht.modelKey, ht.artifactKind, ht.artifactId, ht.members, ht.hiddenMembers⟩, ?_⟩
    intro hk
    rw [if_neg (by simp [hk])] at hb
    exact hb.symm
  · rintro ⟨ht, hb⟩
    refine ⟨⟨⟨ht.key, ht.requestId, ht.prefixGroup, ht.groupId, ht.blockHash, ht.sessionId,
      ht.modelKey, ht.artifactKind, ht.artifactId, ht.members, ht.hiddenMembers⟩, rfl⟩, ?_⟩
    by_cases hk : r.objectBackend.kind = objectBackendObmmPool
    · rw [if_neg (by simp [hk]), hb hk]
    · rw [if_pos hk]

end Record

/-- The record fields' lines, read back, make the fields' assignments. -/
lemma importStoreLines_recordFields (svc : Service) (fs : List RecordField) (r acc : Record) :
    importStoreLines (svc, .record acc) (readBack (recordFieldLines fs r)) =
      some (svc, .record (fs.foldl (fun q f => f.assign (trimLine (f.text r)) q) acc)) := by
  rw [recordFieldLines, readBack_fields]
  induction fs generalizing acc with
  | nil => rfl
  | cons f fs ih =>
      have hlen : (trimLine (f.text r)).length ≤ 511 := by
        have h₁ := (List.rdropWhile_prefix (p := isEol) (f.text r)).length_le
        have h₂ := f.length_text_le r
        exact Nat.le_trans h₁ (Nat.le_trans h₂ (by norm_num))
      rw [List.map_cons, importStoreLines_cons, fieldLine,
        importStoreLine_field _ f.fieldName hlen]
      simp only [fieldStep, RecordField.parseStoreRecordField_name]
      exact ih _

lemma importStoreLines_memberLines (svc : Service) (is : List (Fin maxGroupMembers))
    (hash : Fin maxGroupMembers → FieldText 96) (acc : Record)
    (hcount : ∀ i ∈ is, i.val < acc.memberCount.val) :
    importStoreLines (svc, .record acc) (readBack (is.map fun i =>
        ascii "member" ++ decimal i.val ++ EQ :: (hash i).bytes)) =
      some (svc, .record { acc with
        memberBlockHashes := fun i => if i ∈ is then (hash i).trim
          else acc.memberBlockHashes i }) := by
  induction is generalizing acc with
  | nil => simp [readBack]
  | cons i is ih =>
      obtain ⟨hname, hidx, -, -⟩ := memberName i
      have hlen : (trimLine (hash i).bytes).length ≤ 511 := by
        have := (hash i).trim.length_lt
        exact Nat.le_trans (Nat.le_of_lt this) (by norm_num)
      have hi : i.val < acc.memberCount.val := hcount i (by simp)
      have hline : readBack ((i :: is).map fun i =>
          ascii "member" ++ decimal i.val ++ EQ :: (hash i).bytes) =
          (ascii "member" ++ decimal i.val ++ EQ :: trimLine (hash i).bytes) ::
            readBack (is.map fun i => ascii "member" ++ decimal i.val ++ EQ :: (hash i).bytes) := by
        simp only [readBack, List.map_cons, trimLine_field]
        rw [List.filter_cons_of_pos (by simp)]
      rw [hline, importStoreLines_cons, importStoreLine_field _ hname hlen]
      simp only [fieldStep, parseStoreRecordField, hidx, Option.map_some, Option.bind_some, if_neg (Nat.not_le.mpr hi),
        FieldText.copy_trimLine]
      rw [ih]
      · congr 4
        funext j
        by_cases hj : j = i
        · subst hj
          simp
        · by_cases hm : j ∈ is <;> simp [hj, hm, Function.update_of_ne]
      · intro j hj
        exact hcount j (by simp [hj])

/-- The field of one record assigned to another. -/
def RecordField.transfer (f : RecordField) (src dst : Record) : Record :=
  match f with
  | kind => { dst with kind := src.kind }
  | key => { dst with key := src.key }
  | requestId => { dst with requestId := src.requestId }
  | prefixGroup => { dst with prefixGroup := src.prefixGroup }
  | groupId => { dst with groupId := src.groupId }
  | blockHash => { dst with blockHash := src.blockHash }
  | sessionId => { dst with sessionId := src.sessionId }
  | modelKey => { dst with modelKey := src.modelKey }
  | artifactKind => { dst with artifactKind := src.artifactKind }
  | artifactId => { dst with artifactId := src.artifactId }
  | placementNode => { dst with placementNode := src.placementNode }
  | placementLevel => { dst with placementLevel := src.placementLevel }
  | hotSegmentId => { dst with hotSegmentId := src.hotSegmentId }
  | state => { dst with state := src.state }
  | version => { dst with version := src.version }
  | lastResultSegment => { dst with lastResultSegment := src.lastResultSegment }
  | objectOwnerNode => { dst with objectOwnerNode := src.objectOwnerNode }
  | objectPayloadKind => { dst with objectPayloadKind := src.objectPayloadKind }
  | objectBackingOffset => { dst with objectBackingOffset := src.objectBackingOffset }
  | objectBackingLen => { dst with objectBackingLen := src.objectBackingLen }
  | objectPayloadChecksum => { dst with objectPayloadChecksum := src.objectPayloadChecksum }
  | objectBackendKind => { dst with objectBackend.kind := src.objectBackend.kind }
  | objectBackendNode => { dst with objectBackend.node := src.objectBackend.node }
  | objectBackendDeviceCna => { dst with objectBackend.deviceCna := src.objectBackend.deviceCna }
  | objectBackendFlags => { dst with objectBackend.flags := src.objectBackend.flags }
  | objectBackendBlockHi => { dst with objectBackend.blockHi := src.objectBackend.blockHi }
  | objectBackendBlockLo => { dst with objectBackend.blockLo := src.objectBackend.blockLo }
  | objectBackendBlockVersion =>
      { dst with objectBackend.blockVersion := src.objectBackend.blockVersion }
  | objectBackendBlockOffset =>
      { dst with objectBackend.blockOffset := src.objectBackend.blockOffset }
  | objectBackendBlockBytes => { dst with objectBackend.blockBytes := src.objectBackend.blockBytes }
  | objectBackendBlockChecksum =>
      { dst with objectBackend.blockChecksum := src.objectBackend.blockChecksum }
  | objectPublishMonotonicMs =>
      { dst with objectPublishMonotonicMs := src.objectPublishMonotonicMs }
  | objectPublishSupernodeMs =>
      { dst with objectPublishSupernodeMs := src.objectPublishSupernodeMs }
  | objectPublishSupernodeOffsetMs =>
      { dst with objectPublishSupernodeOffsetMs := src.objectPublishSupernodeOffsetMs }
  | memberCount => { dst with memberCount := src.memberCount }

/-- Assigning a field's own printed text, read back, is assigning the field: the importer's
assignment inverts the writer's text, field by field. -/
lemma RecordField.assign_text (f : RecordField) (r dst : Record) :
    f.assign (trimLine (f.text r)) dst =
      f.transfer { r.snapshotted with objectBackend := r.objectBackend } dst := by
  have hcount : parseU32Value (decimal r.memberCount.val) 0 = UInt32.ofNat r.memberCount.val := by
    have hnat : (UInt32.ofNat r.memberCount.val).toNat = r.memberCount.val := by
      rw [UInt32.toNat_ofNat_of_lt']
      exact Nat.lt_trans r.memberCount.isLt (by decide)
    have hparse := parseU32Value_decimal (UInt32.ofNat r.memberCount.val) 0
    rwa [hnat] at hparse
  cases f
  case memberCount =>
    have hlt := r.memberCount.isLt
    have hval : (⟨min (UInt32.ofNat r.memberCount.val).toNat maxGroupMembers, by omega⟩ :
        Fin (maxGroupMembers + 1)) = r.memberCount := by
      apply Fin.ext
      simp only
      rw [UInt32.toNat_ofNat_of_lt' (Nat.lt_trans hlt (by decide))]
      omega
    simp only [assign, text, transfer, trimLine_decimal, hcount, hval, Record.snapshotted]
  all_goals
    simp only [assign, text, transfer, trimLine_decimal, trimLine_signedDecimal,
      parseU64Value_decimal, parseU32Value_decimal, parseI64Value_signedDecimal,
      FieldText.copy_trimLine, Record.snapshotted]

lemma foldl_transfer_printed (src : Record) :
    RecordField.printed.foldl (fun q f => f.transfer src q) {} =
      { src with objectBackend := {}, memberBlockHashes := fun _ => FieldText.blank } := by
  dsimp only [RecordField.printed, List.foldl_cons, List.foldl_nil, RecordField.transfer]

lemma foldl_transfer_backend (src dst : Record) :
    RecordField.backend.foldl (fun q f => f.transfer src q) dst =
      { dst with objectBackend := src.objectBackend } := by
  dsimp only [RecordField.backend, List.foldl_cons, List.foldl_nil, RecordField.transfer]

/-- Everything the writers print of a record before its members, read into a blank record. -/
lemma foldl_printed (r : Record) :
    RecordField.printed.foldl (fun q f => f.assign (trimLine (f.text r)) q) {} =
      { r.snapshotted with memberBlockHashes := fun _ => FieldText.blank } := by
  simp only [RecordField.assign_text]
  rw [foldl_transfer_printed]
  rfl

/-- The backend fields set the backend reference and nothing else. -/
lemma foldl_backend (r acc : Record) :
    RecordField.backend.foldl (fun q f => f.assign (trimLine (f.text r)) q) acc =
      { acc with objectBackend := r.objectBackend } := by
  simp only [RecordField.assign_text]
  rw [foldl_transfer_backend]

lemma importStoreLine_recordBegin (svc : Service) :
    importStoreLine (svc, .closed) (ascii "record_begin") = some (svc, .record {}) := rfl

lemma importStoreLine_recordEnd (svc : Service) (r : Record) :
    importStoreLine (svc, .record r) (ascii "record_end") =
      (svc.storeImportRecord r).map fun svc => (svc, .closed) := rfl

lemma mem_finRange_filter (r : Record) (i : Fin maxGroupMembers) :
    i ∈ (List.finRange maxGroupMembers).filter (fun i => i.val < r.memberCount.val) ↔
      i.val < r.memberCount.val := by
  simp

/-- The lines of a record's frame, read back, install the record's normal form. -/
lemma importStoreLines_snapshotRecord (svc : Service) (r : Record) :
    importStoreLines (svc, .closed) (readBack (snapshotRecord r)) =
      (svc.storeImportRecord r.snapshotted).map fun svc => (svc, .closed) := by
  have hbegin : readBack [ascii "record_begin"] = [ascii "record_begin"] := by decide
  have hend : readBack [ascii "record_end"] = [ascii "record_end"] := by decide
  rw [snapshotRecord, readBack_append, readBack_append, readBack_append, hbegin, hend,
    List.append_assoc, List.append_assoc, List.singleton_append, importStoreLines_cons,
    importStoreLine_recordBegin, Option.bind_some, importStoreLines_append,
    importStoreLines_recordFields, Option.bind_some, importStoreLines_append, foldl_printed,
    memberLines, importStoreLines_memberLines, Option.bind_some, importStoreLines_cons,
    importStoreLine_recordEnd]
  · simp only [mem_finRange_filter, importStoreLines_nil, Option.bind_fun_some]
    rfl
  · intro i hi
    exact (mem_finRange_filter r i).mp hi

lemma importStoreLines_saveRecord (svc : Service) (r : Record) :
    importStoreLines (svc, .closed) (readBack (saveRecord r)) =
      (svc.storeImportRecord r.stored).map fun svc => (svc, .closed) := by
  have hbegin : readBack [ascii "record_begin"] = [ascii "record_begin"] := by decide
  have hend : readBack [ascii "record_end"] = [ascii "record_end"] := by decide
  have hbackend : ∀ acc : Record, acc.objectBackend = {} →
      importStoreLines (svc, .record acc) (readBack
        (if r.objectBackend.kind ≠ objectBackendObmmPool then
          recordFieldLines RecordField.backend r else [])) =
      some (svc, .record { acc with objectBackend :=
        if r.objectBackend.kind ≠ objectBackendObmmPool then r.objectBackend else {} }) := by
    intro acc hacc
    split
    · rw [importStoreLines_recordFields, foldl_backend]
    · simp [readBack, ← hacc]
  rw [saveRecord, readBack_append, readBack_append, readBack_append, readBack_append, hbegin, hend,
    List.append_assoc, List.append_assoc, List.append_assoc, List.singleton_append,
    importStoreLines_cons, importStoreLine_recordBegin, Option.bind_some, importStoreLines_append,
    importStoreLines_recordFields, Option.bind_some, importStoreLines_append, foldl_printed,
    hbackend _ rfl, Option.bind_some, importStoreLines_append, memberLines,
    importStoreLines_memberLines, Option.bind_some, importStoreLines_cons,
    importStoreLine_recordEnd]
  · simp only [mem_finRange_filter, importStoreLines_nil, Option.bind_fun_some]
    rfl
  · intro i hi
    exact (mem_finRange_filter r i).mp hi

/-! ## Frames of plain fields -/

/-- A field a frame writer prints: its name and its text fit the importer's buffers and the line
buffer. -/
def FieldFits (p : String × Bytes) : Prop :=
  FieldName (ascii p.1) ∧ Plain (ascii p.1) ∧ Plain p.2 ∧ (ascii p.1).length + p.2.length + 1 ≤ lineCap

lemma FieldFits.fitsLine {p : String × Bytes} (h : FieldFits p) : FitsLine (fieldLine p.1 p.2) := by
  obtain ⟨-, hn, hv, hlen⟩ := h
  refine fitsLine_field hn hv (Nat.le_refl _) ?_
  omega

lemma FieldFits.length_trim_le {p : String × Bytes} (h : FieldFits p) :
    (trimLine p.2).length ≤ 511 := by
  have h₁ := (List.rdropWhile_prefix (p := isEol) p.2).length_le
  have h₂ : (ascii p.1).length + p.2.length + 1 ≤ 511 := h.2.2.2
  exact Nat.le_trans h₁ (by omega)

/-- A frame's field lines, read back, step the open frame field by field. -/
lemma importStoreLines_fields (svc : Service) {ps : List (String × Bytes)}
    (h : ∀ p ∈ ps, FieldFits p) (o : OpenFrame) :
    importStoreLines (svc, o) (readBack (ps.map fun p => fieldLine p.1 p.2)) =
      (ps.foldlM (fun o p => fieldStep o (ascii p.1) (trimLine p.2)) o).map fun o => (svc, o) := by
  rw [readBack_fields (fun p : String × Bytes => p.1) (fun p => p.2)]
  induction ps generalizing o with
  | nil => rfl
  | cons p ps ih =>
      have hp := h p (by simp)
      rw [List.map_cons, importStoreLines_cons, fieldLine,
        importStoreLine_field _ hp.1 hp.length_trim_le, List.foldlM_cons]
      cases hstep : fieldStep o (ascii p.1) (trimLine p.2) with
      | none => simp
      | some o' =>
          simp only [Option.map_some, Option.bind_some]
          exact ih (fun q hq => h q (by simp [hq])) o'

lemma foldlM_fieldStep_audit (ps : List (String × Bytes)) (acc : AuditEvent) :
    ps.foldlM (fun o p => fieldStep o (ascii p.1) (trimLine p.2)) (.audit acc) =
      some (.audit (ps.foldl
        (fun e p => parseStoreAuditField e (ascii p.1) (trimLine p.2)) acc)) := by
  induction ps generalizing acc with
  | nil => rfl
  | cons p ps ih =>
      rw [List.foldlM_cons, List.foldl_cons]
      exact ih _

lemma foldlM_fieldStep_idempotency (ps : List (String × Bytes)) (acc : IdempotencyRecord) :
    ps.foldlM (fun o p => fieldStep o (ascii p.1) (trimLine p.2)) (.idempotency acc) =
      (ps.foldlM (fun r p => parseStoreIdempotencyField r (ascii p.1) (trimLine p.2)) acc).map
        OpenFrame.idempotency := by
  induction ps generalizing acc with
  | nil => rfl
  | cons p ps ih =>
      rw [List.foldlM_cons, List.foldlM_cons, fieldStep]
      cases parseStoreIdempotencyField acc (ascii p.1) (trimLine p.2) with
      | none => rfl
      | some r => exact ih r

lemma fieldFits_of_le {name : String} {v : Bytes} (hname : FieldName (ascii name) ∧
    Plain (ascii name) ∧ (ascii name).length ≤ 40) (hv : Plain v) (hlen : v.length ≤ 95) :
    FieldFits (name, v) := by
  refine ⟨hname.1, hname.2.1, hv, ?_⟩
  have h₁ := hname.2.2
  show _ ≤ 511
  simp only
  omega

lemma fieldFits_u64 {name : String} (hname : FieldName (ascii name) ∧
    Plain (ascii name) ∧ (ascii name).length ≤ 40) (x : UInt64) :
    FieldFits (name, decimal x.toNat) :=
  fieldFits_of_le hname (plain_decimal _) (Nat.le_trans (length_decimal_u64 x) (by norm_num))

lemma fieldFits_u32 {name : String} (hname : FieldName (ascii name) ∧
    Plain (ascii name) ∧ (ascii name).length ≤ 40) (x : UInt32) :
    FieldFits (name, decimal x.toNat) :=
  fieldFits_of_le hname (plain_decimal _) (Nat.le_trans (length_decimal_u32 x) (by norm_num))

lemma fieldFits_text {name : String} (hname : FieldName (ascii name) ∧
    Plain (ascii name) ∧ (ascii name).length ≤ 40) {cap : ℕ} (hcap : cap ≤ 96)
    (t : FieldText cap) : FieldFits (name, t.bytes) := by
  have := t.length_lt
  exact fieldFits_of_le hname t.plain (by omega)

/-! ## Audit events -/

namespace AuditEvent

/-- An audit event as the store text carries it. -/
def stored (e : AuditEvent) : AuditEvent :=
  { e with
    key := e.key.trim
    sessionId := e.sessionId.trim
    modelKey := e.modelKey.trim
    artifactKind := e.artifactKind.trim
    artifactId := e.artifactId.trim
    idempotencyKey := e.idempotencyKey.trim }

/-- An audit event the store text carries whole. -/
structure Storable (e : AuditEvent) : Prop where
  key : e.key.Clean
  sessionId : e.sessionId.Clean
  modelKey : e.modelKey.Clean
  artifactKind : e.artifactKind.Clean
  artifactId : e.artifactId.Clean
  idempotencyKey : e.idempotencyKey.Clean

lemma stored_eq_self_iff {e : AuditEvent} : e.stored = e ↔ e.Storable := by
  constructor
  · intro h
    exact ⟨FieldText.trim_eq_self_iff.mp (congrArg key h),
      FieldText.trim_eq_self_iff.mp (congrArg sessionId h),
      FieldText.trim_eq_self_iff.mp (congrArg modelKey h),
      FieldText.trim_eq_self_iff.mp (congrArg artifactKind h),
      FieldText.trim_eq_self_iff.mp (congrArg artifactId h),
      FieldText.trim_eq_self_iff.mp (congrArg idempotencyKey h)⟩
  · intro h
    rw [stored, FieldText.trim_eq_self_iff.mpr h.key, FieldText.trim_eq_self_iff.mpr h.sessionId,
      FieldText.trim_eq_self_iff.mpr h.modelKey, FieldText.trim_eq_self_iff.mpr h.artifactKind,
      FieldText.trim_eq_self_iff.mpr h.artifactId,
      FieldText.trim_eq_self_iff.mpr h.idempotencyKey]

/-- The fields of an audit frame. -/
def fields (e : AuditEvent) : List (String × Bytes) :=
  [("sequence", decimal e.sequence.toNat), ("monotonic_ms", decimal e.monotonicMs.toNat),
    ("operation", decimal e.operation.toNat), ("status", decimal e.status.code.toNat),
    ("request_checksum", decimal e.requestChecksum.toNat),
    ("response_checksum", decimal e.responseChecksum.toNat),
    ("idempotency_replay", decimal e.idempotencyReplay.toNat), ("key", e.key.bytes),
    ("session_id", e.sessionId.bytes), ("model_key", e.modelKey.bytes),
    ("artifact_kind", e.artifactKind.bytes), ("artifact_id", e.artifactId.bytes),
    ("idempotency_key", e.idempotencyKey.bytes), ("version", decimal e.version.toNat),
    ("checksum", decimal e.checksum.toNat)]

lemma saveAuditEvent_eq (e : AuditEvent) : saveAuditEvent e =
    [ascii "audit_begin"] ++ (e.fields.map fun p => fieldLine p.1 p.2) ++ [ascii "audit_end"] :=
  rfl

lemma fieldFits_fields {e : AuditEvent} {p : String × Bytes} (h : p ∈ e.fields) :
    FieldFits p := by
  simp only [fields, List.mem_cons, List.not_mem_nil, or_false] at h
  rcases h with rfl | rfl | rfl | rfl | rfl | rfl | rfl | rfl | rfl | rfl | rfl | rfl | rfl |
    rfl | rfl
  · exact fieldFits_u64 (by decide) _
  · exact fieldFits_u64 (by decide) _
  · exact fieldFits_u32 (by decide) _
  · exact fieldFits_u32 (by decide) _
  · exact fieldFits_u32 (by decide) _
  · exact fieldFits_u32 (by decide) _
  · exact fieldFits_u32 (by decide) _
  · exact fieldFits_text (by decide) (by norm_num) _
  · exact fieldFits_text (by decide) (by norm_num) _
  · exact fieldFits_text (by decide) (by norm_num) _
  · exact fieldFits_text (by decide) (by norm_num) _
  · exact fieldFits_text (by decide) (by norm_num) _
  · exact fieldFits_text (by decide) (by norm_num) _
  · exact fieldFits_u64 (by decide) _
  · exact fieldFits_u64 (by decide) _

end AuditEvent

lemma fitsLine_saveAuditEvent {e : AuditEvent} {l : Bytes} (h : l ∈ saveAuditEvent e) :
    FitsLine l := by
  simp only [AuditEvent.saveAuditEvent_eq, List.mem_append, List.mem_singleton,
    List.mem_map] at h
  rcases h with (rfl | ⟨p, hp, rfl⟩) | rfl
  · decide
  · exact (AuditEvent.fieldFits_fields hp).fitsLine
  · decide

lemma foldl_auditFields (e : AuditEvent) :
    e.fields.foldl (fun e p => parseStoreAuditField e (ascii p.1) (trimLine p.2)) {} =
      e.stored := by
  have hseq : ∀ e v, parseStoreAuditField e (ascii "sequence") v =
    { e with sequence := parseU64Value v 0 } := fun _ _ => rfl
  have hms : ∀ e v, parseStoreAuditField e (ascii "monotonic_ms") v =
    { e with monotonicMs := parseU64Value v 0 } := fun _ _ => rfl
  have hop : ∀ e v, parseStoreAuditField e (ascii "operation") v =
    { e with operation := parseU32Value v 0 } := fun _ _ => rfl
  have hst : ∀ e v, parseStoreAuditField e (ascii "status") v =
    { e with status := ⟨parseU32Value v 0⟩ } := fun _ _ => rfl
  have hrq : ∀ e v, parseStoreAuditField e (ascii "request_checksum") v =
    { e with requestChecksum := parseU32Value v 0 } := fun _ _ => rfl
  have hrs : ∀ e v, parseStoreAuditField e (ascii "response_checksum") v =
    { e with responseChecksum := parseU32Value v 0 } := fun _ _ => rfl
  have hir : ∀ e v, parseStoreAuditField e (ascii "idempotency_replay") v =
    { e with idempotencyReplay := parseU32Value v 0 } := fun _ _ => rfl
  have hkey : ∀ e v, parseStoreAuditField e (ascii "key") v =
    { e with key := .copy v } := fun _ _ => rfl
  have hse : ∀ e v, parseStoreAuditField e (ascii "session_id") v =
    { e with sessionId := .copy v } := fun _ _ => rfl
  have hmk : ∀ e v, parseStoreAuditField e (ascii "model_key") v =
    { e with modelKey := .copy v } := fun _ _ => rfl
  have hak : ∀ e v, parseStoreAuditField e (ascii "artifact_kind") v =
    { e with artifactKind := .copy v } := fun _ _ => rfl
  have hai : ∀ e v, parseStoreAuditField e (ascii "artifact_id") v =
    { e with artifactId := .copy v } := fun _ _ => rfl
  have hik : ∀ e v, parseStoreAuditField e (ascii "idempotency_key") v =
    { e with idempotencyKey := .copy v } := fun _ _ => rfl
  have hve : ∀ e v, parseStoreAuditField e (ascii "version") v =
    { e with version := parseU64Value v 0 } := fun _ _ => rfl
  have hck : ∀ e v, parseStoreAuditField e (ascii "checksum") v =
    { e with checksum := parseU64Value v 0 } := fun _ _ => rfl
  simp only [AuditEvent.fields, List.foldl_cons, List.foldl_nil, hseq, hms, hop, hst, hrq, hrs,
    hir, hkey, hse, hmk, hak, hai, hik, hve, hck, trimLine_decimal, parseU64Value_decimal,
    parseU32Value_decimal, FieldText.copy_trimLine]
  rfl

/-- The lines of an audit frame, read back, install the event's normal form. -/
lemma importStoreLines_saveAuditEvent (svc : Service) (e : AuditEvent) :
    importStoreLines (svc, .closed) (readBack (saveAuditEvent e)) =
      (svc.storeImportAudit e.stored).map fun svc => (svc, .closed) := by
  have hbegin : readBack [ascii "audit_begin"] = [ascii "audit_begin"] := by decide
  have hend : readBack [ascii "audit_end"] = [ascii "audit_end"] := by decide
  have hopen : importStoreLine (svc, .closed) (ascii "audit_begin") = some (svc, .audit {}) := rfl
  have hclose : ∀ e, importStoreLine (svc, .audit e) (ascii "audit_end") =
      (svc.storeImportAudit e).map fun svc => (svc, .closed) := fun _ => rfl
  rw [AuditEvent.saveAuditEvent_eq, readBack_append, readBack_append, hbegin, hend,
    List.append_assoc, List.singleton_append, importStoreLines_cons, hopen, Option.bind_some,
    importStoreLines_append, importStoreLines_fields svc fun p hp =>
      AuditEvent.fieldFits_fields hp, foldlM_fieldStep_audit, Option.map_some, Option.bind_some,
    foldl_auditFields, importStoreLines_cons, hclose]
  simp only [importStoreLines_nil, Option.bind_fun_some]

/-! ## Idempotency records -/

/-- A response a store line by line keeps: it is empty or ends in a line feed, and every line of it
fits a `response_line=` line. -/
structure ResponseLines (s : Bytes) : Prop where
  ended : s = [] ∨ s.getLast? = some LF
  fits : ∀ l ∈ lines s, l.length ≤ 497

namespace IdempotencyRecord

/-- An idempotency record as the store text carries it. -/
def stored (r : IdempotencyRecord) : IdempotencyRecord :=
  { r with
    key := r.key.trim
    response := .copy (unlines ((lines r.response.bytes).map trimLine)) }

/-- An idempotency record the store text carries whole. -/
structure Storable (r : IdempotencyRecord) : Prop where
  key : r.key.Clean
  response : ∀ l ∈ lines r.response.bytes, NoTrailingCR l

/-- The fields of an idempotency frame in front of the response. -/
def fields (r : IdempotencyRecord) : List (String × Bytes) :=
  [("key", r.key.bytes), ("operation", decimal r.operation.toNat),
    ("request_checksum", decimal r.requestChecksum.toNat),
    ("status", decimal r.status.code.toNat),
    ("response_len", decimal r.response.bytes.length)]

lemma saveIdempotencyRecord_eq (r : IdempotencyRecord) : saveIdempotencyRecord r =
    [ascii "idempotency_begin"] ++ ((r.fields ++ (lines r.response.bytes).map
      fun l => ("response_line", l)).map fun p => fieldLine p.1 p.2) ++
      [ascii "idempotency_end"] := by
  simp [saveIdempotencyRecord, fields]

lemma fieldFits_fields {r : IdempotencyRecord} {p : String × Bytes} (h : p ∈ r.fields) :
    FieldFits p := by
  simp only [fields, List.mem_cons, List.not_mem_nil, or_false] at h
  rcases h with rfl | rfl | rfl | rfl | rfl
  · exact fieldFits_text (by decide) (by norm_num) _
  · exact fieldFits_u32 (by decide) _
  · exact fieldFits_u32 (by decide) _
  · exact fieldFits_u32 (by decide) _
  · have hlen : (decimal r.response.bytes.length).length ≤ 4 :=
      length_decimal_le (by norm_num) (Nat.lt_trans r.response.length_lt (by decide))
    exact fieldFits_of_le (by decide) (plain_decimal _) (Nat.le_trans hlen (by norm_num))

lemma fieldFits_responseLine {r : IdempotencyRecord} (h : ResponseLines r.response.bytes)
    {l : Bytes} (hl : l ∈ lines r.response.bytes) : FieldFits ("response_line", l) := by
  have hname : FieldName (ascii "response_line") ∧ Plain (ascii "response_line") := by decide
  refine ⟨hname.1, hname.2, ?_, ?_⟩
  · intro b hb
    refine ⟨?_, ?_⟩
    · rintro rfl
      exact r.response.noNul (subset_of_mem_lines hl hb)
    · rintro rfl
      exact lf_notMem_of_mem_lines hl hb
  · have h₁ := h.fits l hl
    have h₂ : (ascii "response_line").length = 13 := by decide
    simp only [h₂]
    show _ ≤ 511
    omega

lemma fieldFits_all {r : IdempotencyRecord} (h : ResponseLines r.response.bytes)
    {p : String × Bytes}
    (hp : p ∈ r.fields ++ (lines r.response.bytes).map fun l => ("response_line", l)) :
    FieldFits p := by
  rcases List.mem_append.mp hp with hp | hp
  · exact fieldFits_fields hp
  · obtain ⟨l, hl, rfl⟩ := List.mem_map.mp hp
    exact fieldFits_responseLine h hl

end IdempotencyRecord

lemma fitsLine_saveIdempotencyRecord {r : IdempotencyRecord} (hr : ResponseLines r.response.bytes)
    {l : Bytes} (h : l ∈ saveIdempotencyRecord r) : FitsLine l := by
  simp only [IdempotencyRecord.saveIdempotencyRecord_eq, List.mem_append, List.mem_singleton] at h
  rcases h with (rfl | h) | rfl
  · decide
  · obtain ⟨p, hp, rfl⟩ := List.mem_map.mp h
    exact (IdempotencyRecord.fieldFits_all hr hp).fitsLine
  · decide

lemma length_unlines_trim_le (ls : List Bytes) :
    (unlines (ls.map trimLine)).length ≤ (unlines ls).length := by
  induction ls with
  | nil => rfl
  | cons l ls ih =>
      have := (List.rdropWhile_prefix (p := isEol) l).length_le
      rw [List.map_cons, unlines_cons, unlines_cons]
      simp only [List.length_append, List.length_cons, trimLine] at ih ⊢
      omega

lemma nul_notMem_unlines {ls : List Bytes} (h : ∀ l ∈ ls, NUL ∉ l) : NUL ∉ unlines ls := by
  induction ls with
  | nil => simp
  | cons l ls ih =>
      rw [unlines_cons]
      have h₁ := h l (by simp)
      have h₂ := ih fun m hm => h m (by simp [hm])
      have h₃ : NUL ≠ LF := by decide
      simp [h₁, h₂, h₃]

/-- Response lines append to the response, line by line. -/
lemma foldlM_responseLines (ls : List Bytes) (acc : IdempotencyRecord)
    (hnul : ∀ l ∈ ls, NUL ∉ l)
    (hlen : acc.response.bytes.length + (unlines ls).length < maxPayloadLen) :
    (ls.map fun l => ("response_line", l)).foldlM
        (fun r p => parseStoreIdempotencyField r (ascii p.1) p.2) acc =
      some { acc with response := .copy (acc.response.bytes ++ unlines ls) } := by
  have hparse : ∀ r v, parseStoreIdempotencyField r (ascii "response_line") v =
      appendIdempotencyResponseLine r v := fun _ _ => rfl
  induction ls generalizing acc with
  | nil => simp
  | cons l ls ih =>
      rw [unlines_cons, List.length_append, List.length_cons] at hlen
      have hl := hnul l (by simp)
      have hls : NUL ∉ unlines ls := nul_notMem_unlines fun m hm => hnul m (by simp [hm])
      have hcopy : (ResponseText.copy (acc.response.bytes ++ l ++ [LF])).bytes =
          acc.response.bytes ++ l ++ [LF] := by
        refine ResponseText.bytes_copy ?_ ?_
        · have h₃ : NUL ≠ LF := by decide
          simp [acc.response.noNul, hl, h₃]
        · simp only [List.length_append, List.length_singleton]
          omega
      rw [List.map_cons, List.foldlM_cons]
      simp only [hparse, appendIdempotencyResponseLine]
      rw [if_neg (by omega)]
      simp only [Option.bind_eq_bind, Option.bind_some]
      rw [ih _ (fun m hm => hnul m (by simp [hm])) (by
        simp only [hcopy, List.length_append, List.length_singleton]
        omega)]
      simp only [hcopy]
      simp only [unlines_cons, List.append_assoc, List.singleton_append]

lemma foldlM_idempotencyFields {r : IdempotencyRecord} (h : ResponseLines r.response.bytes) :
    (r.fields ++ (lines r.response.bytes).map fun l => ("response_line", l)).foldlM
        (fun r p => parseStoreIdempotencyField r (ascii p.1) (trimLine p.2)) {} =
      some r.stored := by
  have hkey : ∀ r v, parseStoreIdempotencyField r (ascii "key") v =
    some { r with key := .copy v } := fun _ _ => rfl
  have hop : ∀ r v, parseStoreIdempotencyField r (ascii "operation") v =
    some { r with operation := parseU32Value v 0 } := fun _ _ => rfl
  have hrq : ∀ r v, parseStoreIdempotencyField r (ascii "request_checksum") v =
    some { r with requestChecksum := parseU32Value v 0 } := fun _ _ => rfl
  have hst : ∀ r v, parseStoreIdempotencyField r (ascii "status") v =
    some { r with status := ⟨parseU32Value v 0⟩ } := fun _ _ => rfl
  have hlen : ∀ r v, parseStoreIdempotencyField r (ascii "response_len") v = some r :=
    fun _ _ => rfl
  have hlines : ∀ acc : IdempotencyRecord,
      ((lines r.response.bytes).map fun l => ("response_line", l)).foldlM
        (fun r p => parseStoreIdempotencyField r (ascii p.1) (trimLine p.2)) acc =
      (((lines r.response.bytes).map trimLine).map fun l => ("response_line", l)).foldlM
        (fun r p => parseStoreIdempotencyField r (ascii p.1) p.2) acc := by
    intro acc
    rw [List.foldlM_map, List.map_map, List.foldlM_map]
    rfl
  have hfits : (unlines ((lines r.response.bytes).map trimLine)).length < maxPayloadLen := by
    refine Nat.lt_of_le_of_lt (length_unlines_trim_le _) ?_
    rw [unlines_lines, if_pos h.ended]
    exact r.response.length_lt
  have hnul : ∀ l ∈ (lines r.response.bytes).map trimLine, NUL ∉ l := by
    intro l hl hm
    obtain ⟨m, hm', rfl⟩ := List.mem_map.mp hl
    exact r.response.noNul (subset_of_mem_lines hm' (trimLine_subset _ hm))
  rw [List.foldlM_append]
  simp only [IdempotencyRecord.fields, List.foldlM_cons, List.foldlM_nil, hkey, hop, hrq, hst,
    hlen, trimLine_decimal, parseU32Value_decimal, FieldText.copy_trimLine, Option.bind_eq_bind,
    Option.bind_some, Option.pure_def, hlines]
  rw [foldlM_responseLines _ _ hnul (by simpa [ResponseText.empty] using hfits)]
  simp [IdempotencyRecord.stored, ResponseText.empty]

/-- The lines of an idempotency frame, read back, install the record's normal form. -/
lemma importStoreLines_saveIdempotencyRecord (svc : Service) {r : IdempotencyRecord}
    (h : ResponseLines r.response.bytes) :
    importStoreLines (svc, .closed) (readBack (saveIdempotencyRecord r)) =
      (svc.storeImportIdempotency r.stored).map fun svc => (svc, .closed) := by
  have hbegin : readBack [ascii "idempotency_begin"] = [ascii "idempotency_begin"] := by decide
  have hend : readBack [ascii "idempotency_end"] = [ascii "idempotency_end"] := by decide
  have hopen : importStoreLine (svc, .closed) (ascii "idempotency_begin") =
      some (svc, .idempotency {}) := rfl
  have hclose : ∀ r, importStoreLine (svc, .idempotency r) (ascii "idempotency_end") =
      (svc.storeImportIdempotency r).map fun svc => (svc, .closed) := fun _ => rfl
  rw [IdempotencyRecord.saveIdempotencyRecord_eq, readBack_append, readBack_append, hbegin, hend,
    List.append_assoc, List.singleton_append, importStoreLines_cons, hopen, Option.bind_some,
    importStoreLines_append, importStoreLines_fields svc fun p hp =>
      IdempotencyRecord.fieldFits_all h hp, foldlM_fieldStep_idempotency,
    foldlM_idempotencyFields h, Option.map_some, Option.map_some, Option.bind_some,
    importStoreLines_cons, hclose]
  simp only [importStoreLines_nil, Option.bind_fun_some]

namespace IdempotencyRecord

lemma bytes_stored_response {r : IdempotencyRecord} (h : ResponseLines r.response.bytes) :
    r.stored.response.bytes = unlines ((lines r.response.bytes).map trimLine) := by
  refine ResponseText.bytes_copy ?_ ?_
  · refine nul_notMem_unlines ?_
    intro l hl hm
    obtain ⟨m, hm', rfl⟩ := List.mem_map.mp hl
    exact r.response.noNul (subset_of_mem_lines hm' (trimLine_subset _ hm))
  · refine Nat.lt_of_le_of_lt (length_unlines_trim_le _) ?_
    rw [unlines_lines, if_pos h.ended]
    exact r.response.length_lt

/-- The response comes back as it was exactly if no line of it ends in a carriage return. -/
lemma stored_response_eq_iff {r : IdempotencyRecord} (h : ResponseLines r.response.bytes) :
    r.stored.response.bytes = r.response.bytes ↔
      ∀ l ∈ lines r.response.bytes, NoTrailingCR l := by
  have hlf : ∀ l ∈ lines r.response.bytes, LF ∉ l := fun l hl => lf_notMem_of_mem_lines hl
  constructor
  · intro heq
    have hresp : lines r.stored.response.bytes = lines r.response.bytes := by rw [heq]
    rw [bytes_stored_response h, ← List.append_nil (unlines _), lines_unlines, lines_nil,
      List.append_nil] at hresp
    · intro l hl
      rw [← trimLine_eq_self_iff (hlf l hl)]
      exact List.map_inj_left.mp (hresp.trans (List.map_id _).symm) l hl
    · intro l hl hm
      obtain ⟨m, hm', rfl⟩ := List.mem_map.mp hl
      exact hlf m hm' (trimLine_subset _ hm)
  · intro hs
    have hmap : (lines r.response.bytes).map trimLine = lines r.response.bytes := by
      conv_rhs => rw [← List.map_id (lines r.response.bytes)]
      refine List.map_congr_left fun l hl => ?_
      exact (trimLine_eq_self_iff (hlf l hl)).mpr (hs l hl)
    rw [bytes_stored_response h, hmap, unlines_lines, if_pos h.ended]

lemma stored_eq_self_iff {r : IdempotencyRecord} (h : ResponseLines r.response.bytes) :
    r.stored = r ↔ r.Storable := by
  constructor
  · intro heq
    exact ⟨FieldText.trim_eq_self_iff.mp (congrArg key heq),
      (stored_response_eq_iff h).mp (congrArg (fun q => q.response.bytes) heq)⟩
  · intro hs
    have hresponse : r.stored.response = r.response :=
      ResponseText.ext ((stored_response_eq_iff h).mpr hs.response)
    have hkey : r.stored.key = r.key := FieldText.trim_eq_self_iff.mpr hs.key
    have hrest : r.stored = { r with key := r.stored.key, response := r.stored.response } := rfl
    rw [hrest, hkey, hresponse]

end IdempotencyRecord

end MemService
