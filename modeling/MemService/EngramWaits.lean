import MemService.EngramPublish

/-!
# What the waits for an engram return

The waits of `mem_service_qwen3_engram_wait_flow.c` look a record up in a record table that the owner has
published, by its key or by the place a descriptor names, and read the words it points to.  Nothing in a
record says which publication it belongs to but its version, and only the words say which step.

`engram_waits` takes any record of any table that was published in a run, and says what each wait makes of
it: the values of the publication that put it, if its step, its version and the room of the caller are
those the wait asks for, and nothing otherwise.
-/

open ByteText CNumeral

namespace MemService

/-! ## Words -/

lemma payloadWord_wordsImage (words : List UInt64) (i : ℕ) :
    payloadWord (wordsImage words) i = words.getD i 0 := by
  have hfits : ∀ n ∈ words.map UInt64.toNat, n < 256 ^ 8 := by
    intro n hn
    obtain ⟨w, -, rfl⟩ := List.mem_map.mp hn
    exact w.toNat_lt
  change UInt64.ofNat (WordArray.word 8 (WordArray.image 8 (words.map UInt64.toNat)) i) = _
  rw [WordArray.word_image hfits, List.getD_eq_getElem?_getD, List.getD_eq_getElem?_getD, List.getElem?_map]
  cases words[i]? with
  | none => rfl
  | some w => exact UInt64.ofNat_toNat

lemma take_wordsImage (words : List UInt64) (i : ℕ) :
    (wordsImage words).take (i * 8) = wordsImage (words.take i) := by
  rw [wordsImage, wordsImage, Nat.mul_comm, WordArray.take_image, List.map_take]

/-- Sealed words carry the checksum of those in front of it. -/
lemma payloadWord_sealWords (words : List UInt64) :
    payloadWord (wordsImage (sealWords words)) words.length =
      checksumBytes ((wordsImage (sealWords words)).take (words.length * 8)) := by
  rw [payloadWord_wordsImage, take_wordsImage, sealWords, List.getD_eq_getElem?_getD,
    List.getElem?_append_right (le_refl _), List.take_left]
  simp

/-- The words in front of the checksum. -/
lemma payloadWord_sealWords_of_lt {words : List UInt64} {i : ℕ} (h : i < words.length) :
    payloadWord (wordsImage (sealWords words)) i = words.getD i 0 := by
  rw [payloadWord_wordsImage, sealWords, List.getD_eq_getElem?_getD, List.getElem?_append_left h,
    List.getD_eq_getElem?_getD]

/-! ## What is made of the words -/

/-- What the wait for candidates returns of a publication. -/
def CandidatesCall.values (call : CandidatesCall) : EngramCandidates where
  tokens := call.packed.map EngramCandidate.token
  logitBits := call.packed.map EngramCandidate.logitBits
  textChecksums := call.packed.map EngramCandidate.textChecksum
  pieceBytes := call.packed.map EngramCandidate.pieceBytes
  pieceWord0 := call.packed.map EngramCandidate.pieceWord0
  pieceWord1 := call.packed.map EngramCandidate.pieceWord1
  checksum := checksumBytes (EngramObject.candidates call).payload

/-- What the wait for the history returns of a publication. -/
def DecisionCall.history (call : DecisionCall) : List UInt64 × UInt64 :=
  (call.historyTokens ++ [call.selectedToken], checksumBytes (EngramObject.history call).payload)

/-- The decision is the one that a wait for the state expects. -/
def ExpectedState.Agrees (expected : ExpectedState) (call : DecisionCall) : Prop :=
  expected.historyTokenCount = call.historyTokenCount ∧ expected.selectedToken = call.selectedToken ∧
    expected.historyChecksum = checksumBytes (wordsImage call.historyWords) ∧
    expected.noRepeatNgramSize = call.noRepeatNgramSize ∧
    expected.repetitionPenaltyMilli = call.repetitionPenaltyMilli

section Results

variable {step : UInt64} {r : Record}

lemma selectedResult_eq_some_iff {call : DecisionCall} {token : UInt64}
    (hsum : r.objectPayloadChecksum = checksumBytes (EngramObject.selected call).payload) :
    selectedResult step r (EngramObject.selected call).payload = some token ↔
      call.decodeStep = step ∧ token = call.selectedToken := by
  have hstep : payloadWord (EngramObject.selected call).payload 0 = call.decodeStep :=
    payloadWord_wordsImage _ 0
  have htoken : payloadWord (EngramObject.selected call).payload 1 = call.selectedToken :=
    payloadWord_wordsImage _ 1
  rw [selectedResult, hstep, htoken, hsum]
  by_cases h : call.decodeStep = step
  · simp [h, eq_comm]
  · simp [h]

lemma stateResult_eq_some_iff {call : DecisionCall} {expected : ExpectedState} {sum : UInt64}
    (hsum : r.objectPayloadChecksum = checksumBytes (EngramObject.state call).payload) :
    stateResult step expected r (EngramObject.state call).payload = some sum ↔
      call.decodeStep = step ∧ expected.Agrees call ∧
        sum = checksumBytes (EngramObject.state call).payload := by
  have hseal : payloadWord (EngramObject.state call).payload 15 =
      checksumBytes ((EngramObject.state call).payload.take (15 * 8)) := payloadWord_sealWords _
  have hword (i : ℕ) (hi : i < 15) : payloadWord (EngramObject.state call).payload i =
      [call.decodeStep, call.historyTokenCount, call.selectedToken,
        checksumBytes (wordsImage call.historyWords), call.noRepeatNgramSize, call.repetitionPenaltyMilli,
        call.blockedCount, call.fallbackUsed, call.rawSampledToken, call.runnerUpToken,
        call.topScoreMilli.toUInt64, call.runnerUpScoreMilli.toUInt64, call.historyWindow,
        call.logitsChecksum, call.textChecksum].getD i 0 :=
    payloadWord_sealWords_of_lt hi
  rw [stateResult, hseal, hsum, hword 0 (by decide), hword 1 (by decide), hword 2 (by decide),
    hword 3 (by decide), hword 4 (by decide), hword 5 (by decide)]
  simp only [List.getD_cons_zero, List.getD_cons_succ, beq_self_eq_true, Bool.and_true, Bool.and_eq_true,
    beq_iff_eq, Option.ite_none_right_eq_some, Option.some.injEq, ExpectedState.Agrees, and_assoc]
  constructor
  · rintro ⟨h0, h1, h2, h3, h4, h5, h6⟩
    exact ⟨h0, h1.symm, h2.symm, h3.symm, h4.symm, h5.symm, h6.symm⟩
  · rintro ⟨h0, h1, h2, h3, h4, h5, h6⟩
    exact ⟨h0, h1.symm, h2.symm, h3.symm, h4.symm, h5.symm, h6.symm⟩

/-- The words of packed candidates that are used. -/
lemma payloadWord_candidates (call : CandidatesCall) {i : ℕ} (h : i < 2 + 7 * call.packed.length) :
    payloadWord (EngramObject.candidates call).payload i =
      (call.decodeStep :: UInt64.ofNat call.packed.length ::
        (call.packed.zipIdx.flatMap fun p => p.1.words p.2)).getD i 0 := by
  have hpacked : call.packed.length ≤ 4 := List.length_take_le 4 call.candidates
  have hentries := length_candidateWords call
  refine (payloadWord_sealWords_of_lt (by rw [length_candidateFront]; omega)).trans ?_
  rw [List.getD_eq_getElem?_getD, List.getD_eq_getElem?_getD, candidateFront, List.getElem?_append_left]
  rw [List.length_cons, List.length_cons, hentries]
  omega

/-- A column of packed candidates. -/
lemma candidates_column (call : CandidatesCall) (field : EngramCandidate → UInt64) (k : ℕ) (hk : k < 7)
    (hfield : ∀ c i, (EngramCandidate.words c i)[k]? = some (field c)) :
    ((List.range call.packed.length).map fun i =>
      payloadWord (EngramObject.candidates call).payload (2 + i * 7 + k)) = call.packed.map field := by
  apply List.ext_getElem
  · simp
  · intro i _ hi
    rw [List.length_map] at hi
    have hindex : 2 + i * 7 + k = 7 * i + k + 1 + 1 := by omega
    have hblock : ∀ p ∈ call.packed.zipIdx, (p.1.words p.2).length = 7 := fun _ _ => rfl
    rw [List.getElem_map, List.getElem_range, payloadWord_candidates call (by omega), hindex,
      List.getD_cons_succ, List.getD_cons_succ, List.getD_eq_getElem?_getD,
      WordArray.getElem?_flatMap hblock i hk, List.getElem?_zipIdx, List.getElem?_eq_getElem hi,
      List.getElem_map]
    simp [hfield]

lemma candidatesResult_eq_some_iff {call : CandidatesCall} {capacity : UInt64} {out : EngramCandidates}
    (hsome : call.candidates ≠ [])
    (hsum : r.objectPayloadChecksum = checksumBytes (EngramObject.candidates call).payload) :
    candidatesResult step capacity r (EngramObject.candidates call).payload = some out ↔
      call.decodeStep = step ∧ call.packed.length ≤ capacity.toNat ∧ out = call.values := by
  have hpacked : call.packed.length ≤ 4 := List.length_take_le 4 call.candidates
  have hpos : 0 < call.packed.length := by
    have := List.length_pos_iff.mpr hsome
    rw [CandidatesCall.packed, List.length_take]
    omega
  have hstep : payloadWord (EngramObject.candidates call).payload 0 = call.decodeStep :=
    payloadWord_candidates call (by omega)
  have hcount : payloadWord (EngramObject.candidates call).payload 1 = UInt64.ofNat call.packed.length :=
    payloadWord_candidates call (by omega)
  have hseal : payloadWord (EngramObject.candidates call).payload 31 =
      checksumBytes ((EngramObject.candidates call).payload.take (31 * 8)) := by
    have hsealed := payloadWord_sealWords (candidateFront call)
    rwa [length_candidateFront] at hsealed
  have htoNat : (UInt64.ofNat call.packed.length).toNat = call.packed.length :=
    UInt64.toNat_ofNat_of_lt' (Nat.lt_of_le_of_lt hpacked (by decide))
  have hfour : (4 : UInt64).toNat = 4 := rfl
  unfold candidatesResult
  dsimp only
  rw [hstep, hcount, hseal, hsum, htoNat,
    candidates_column call EngramCandidate.token 1 (by decide) fun _ _ => rfl,
    candidates_column call EngramCandidate.logitBits 2 (by decide) fun _ _ => rfl,
    candidates_column call EngramCandidate.textChecksum 3 (by decide) fun _ _ => rfl,
    candidates_column call EngramCandidate.pieceBytes 4 (by decide) fun _ _ => rfl,
    candidates_column call EngramCandidate.pieceWord0 5 (by decide) fun _ _ => rfl,
    candidates_column call EngramCandidate.pieceWord1 6 (by decide) fun _ _ => rfl]
  rw [← CandidatesCall.values]
  simp only [beq_self_eq_true, Bool.and_true, Bool.and_eq_true, beq_iff_eq, decide_eq_true_eq,
    Option.ite_none_right_eq_some, Option.some.injEq, UInt64.lt_iff_toNat_lt, UInt64.le_iff_toNat_le,
    htoNat, hfour, gt_iff_lt]
  constructor
  · rintro ⟨⟨⟨⟨h0, -⟩, -⟩, hcap⟩, rfl⟩
    exact ⟨h0, hcap, rfl⟩
  · rintro ⟨h0, hcap, rfl⟩
    exact ⟨⟨⟨⟨h0, hpos⟩, hpacked⟩, hcap⟩, rfl⟩

/-- A word of a history, in the buffer of the wait. -/
lemma payloadWord_history (call : DecisionCall) (zeros : Bytes) {i : ℕ}
    (h : i < call.historyTokens.length + 3) :
    payloadWord ((EngramObject.history call).payload ++ zeros) i = call.historyWords.getD i 0 := by
  have happend : payloadWord ((EngramObject.history call).payload ++ zeros) i =
      payloadWord (EngramObject.history call).payload i :=
    congrArg UInt64.ofNat (WordArray.word_append zeros (by rw [length_history]; omega))
  exact happend.trans (payloadWord_wordsImage _ i)

/-- The tokens of a history. -/
lemma history_tokens (call : DecisionCall) (zeros : Bytes) :
    ((List.range (call.historyTokens.length + 1)).map fun i =>
      payloadWord ((EngramObject.history call).payload ++ zeros) (2 + i)) =
      call.historyTokens ++ [call.selectedToken] := by
  apply List.ext_getElem
  · simp
  · intro i hi hi'
    rw [List.length_map, List.length_range] at hi
    have hindex : 2 + i = i + 1 + 1 := by omega
    rw [List.getElem_map, List.getElem_range, payloadWord_history call zeros (by omega), hindex,
      DecisionCall.historyWords, List.getD_cons_succ, List.getD_cons_succ, List.getD_eq_getElem?_getD,
      List.getElem?_eq_getElem hi', Option.getD_some]

lemma historyResult_eq_some_iff {call : DecisionCall} {capacity : UInt64} {out : List UInt64 × UInt64}
    (hfits : (EngramObject.history call).payload.length ≤ engramHistoryBytes)
    (hlen : r.objectBackingLen = (EngramObject.history call).len)
    (hsum : r.objectPayloadChecksum = checksumBytes (EngramObject.history call).payload) :
    historyResult step capacity r (EngramObject.history call).payload = some out ↔
      call.decodeStep = step ∧ call.historyTokens.length + 1 ≤ capacity.toNat ∧ out = call.history := by
  have hshort : call.historyTokens.length + 3 ≤ 1024 := by
    rw [length_history, engramHistoryBytes] at hfits
    omega
  have htoNat : call.historyTokenCount.toNat = call.historyTokens.length + 1 :=
    UInt64.toNat_ofNat_of_lt' (Nat.lt_of_lt_of_le (by omega : _ < 1024) (by decide))
  have htwo : (2 : UInt64).toNat = 2 := rfl
  have height : (8 : UInt64).toNat = 8 := rfl
  have hbytes : (call.historyTokenCount + 2) * 8 = r.objectBackingLen := by
    apply UInt64.toNat_inj.mp
    rw [hlen, EngramObject.toNat_len (Nat.lt_of_le_of_lt hfits (by decide)), length_history,
      UInt64.toNat_mul, UInt64.toNat_add, htoNat, htwo, height]
    omega
  have hfirst (zeros : Bytes) :
      payloadWord ((EngramObject.history call).payload ++ zeros) 0 = call.decodeStep + 1 :=
    payloadWord_history call zeros (by omega)
  have hsecond (zeros : Bytes) :
      payloadWord ((EngramObject.history call).payload ++ zeros) 1 = call.historyTokenCount :=
    payloadWord_history call zeros (by omega)
  unfold historyResult
  dsimp only
  rw [hfirst, hsecond, htoNat, history_tokens, hbytes, hsum, ← DecisionCall.history]
  simp only [beq_self_eq_true, Bool.and_true, Bool.and_eq_true, beq_iff_eq, decide_eq_true_eq,
    Option.ite_none_right_eq_some, Option.some.injEq, UInt64.lt_iff_toNat_lt, UInt64.le_iff_toNat_le,
    htoNat, gt_iff_lt, UInt64.add_left_inj]
  constructor
  · rintro ⟨⟨⟨h0, -⟩, hcap⟩, rfl⟩
    exact ⟨h0, hcap, rfl⟩
  · rintro ⟨h0, hcap, rfl⟩
    exact ⟨⟨⟨h0, Nat.succ_pos _⟩, hcap⟩, rfl⟩

end Results

/-! ## Looks -/

/-- The region of a node as its peers see it. -/
def ClusterNode.mapping (node : ClusterNode) : MappedRegion where
  mapped := true
  len := UInt64.ofNat node.regionLen
  bytes := node.regionBytes

/-- An object has at least and at most as many bytes as its wait asks for. -/
def EngramObject.minLen : EngramObject → ℕ
  | candidates _ => engramCandidatesBytes
  | history _ => 24
  | selected _ => engramSelectedBytes
  | state _ => engramStateBytes

@[inherit_doc EngramObject.minLen]
def EngramObject.maxLen : EngramObject → ℕ
  | history _ => engramHistoryBuffer
  | o => o.minLen

namespace EngramPlaced

variable {env : EngramEnv} {node : ClusterNode} {r : Record} {o : EngramObject}

/-- The fields of the record. -/
lemma fields (h : EngramPlaced env node r o) : r.kind = o.recordKind ∧ r.objectPayloadKind = o.payloadKind ∧
    r.objectBackingLen = o.len ∧ r.objectPayloadChecksum = checksumBytes o.payload := by
  obtain ⟨ownerNode, version, hr⟩ := h.record
  rw [hr]
  exact ⟨rfl, rfl, rfl, rfl⟩

lemma checksum (h : EngramPlaced env node r o) :
    r.objectPayloadChecksum = checksumBytes o.payload := h.fields.2.2.2

/-- A record that is placed passes the check of its wait when the version does. -/
lemma accepted_iff (h : EngramPlaced env node r o) (version : Option UInt64) :
    engramRecordAccepted o.recordKind o.payloadKind version o.minLen o.maxLen node.mapping r = true ↔
      version.all (fun v => r.version == v) = true := by
  obtain ⟨hkind, hpayload, hlen, -⟩ := h.fields
  have hbytes := EngramObject.toNat_len h.fits.short
  have hinside := h.inside
  have hregion := node.regionLen_lt
  have hsum : sumFits node.mapping r = true := by
    have hlenNat : (UInt64.ofNat node.regionLen).toNat = node.regionLen :=
      UInt64.toNat_ofNat_of_lt' (hregion.trans (by decide))
    refine decide_eq_true (UInt64.le_iff_toNat_le.mpr ?_)
    rw [UInt64.toNat_add, hlen, hbytes, Nat.mod_eq_of_lt (by omega)]
    exact hinside.trans (le_of_eq hlenNat.symm)
  have hbounds : o.minLen ≤ o.payload.length ∧ o.payload.length ≤ o.maxLen := by
    cases o with
    | candidates call => exact ⟨(length_candidates call).ge, (length_candidates call).le⟩
    | history call =>
      have hfits : _ ≤ engramHistoryBytes := h.fits
      rw [length_history, engramHistoryBytes] at hfits
      rw [length_history, EngramObject.minLen, EngramObject.maxLen, engramHistoryBuffer]
      omega
    | selected call => exact ⟨(length_selected call).ge, (length_selected call).le⟩
    | state call => exact ⟨(length_state call).ge, (length_state call).le⟩
  have hmapped : node.mapping.mapped = true := rfl
  simp [engramRecordAccepted, hkind, hpayload, hlen, hbytes, hsum, hbounds, hmapped]

/-- What is read there. -/
lemma payload (h : EngramPlaced env node r o) : node.mapping.payload r o.payload.length = o.payload :=
  h.bytes

end EngramPlaced

/-- A wait, compared with the objects of its kind. -/
structure EngramWaitFor (kind : RecordKind) (payloadKind : UInt32) (minLen maxLen : ℕ) (count : Record → ℕ)
    (o : EngramObject) : Prop where
  kind : o.recordKind = kind
  payloadKind : o.payloadKind = payloadKind
  minLen : o.minLen = minLen
  maxLen : o.maxLen = maxLen
  count : ∀ r : Record, r.objectBackingLen = o.len → o.Fits → count r = o.payload.length

namespace EngramState.Sound

variable {env : EngramEnv} {s : EngramState} {t : List Record} {r : Record} {β : Type} {kind : RecordKind}
  {payloadKind : UInt32} {version : Option UInt64} {minLen maxLen : ℕ} {count : Record → ℕ}
  {use : Record → Bytes → Option β} {out : β}

/-- **A look at a published record.**  What comes of it comes of the words of an object that was put. -/
lemma look_iff (h : s.Sound env) (ht : t ∈ s.tables) (hr : r ∈ t) (hmem : payloadKind ∈ engramKinds)
    (hwait : ∀ o : EngramObject, o.payloadKind = payloadKind →
      EngramWaitFor kind payloadKind minLen maxLen count o) :
    (lookAt (engramRecordAccepted kind payloadKind version minLen maxLen) count use s.node.mapping
        (some r)).2 = some out ↔
      ∃ o, (r, o) ∈ s.puts ∧ o.payloadKind = payloadKind ∧
        version.all (fun v => r.version == v) = true ∧ use r o.payload = some out := by
  have hlook (accepted : MappedRegion → Record → Bool) :
      (lookAt accepted count use s.node.mapping (some r)).2 = some out ↔
        accepted s.node.mapping r = true ∧ use r (s.node.mapping.payload r (count r)) = some out := by
    unfold lookAt
    by_cases haccepted : accepted s.node.mapping r = true
    · simp [haccepted]
    · simp [haccepted]
  rw [hlook]
  have hput (o : EngramObject) (ho : (r, o) ∈ s.puts) (hkind : o.payloadKind = payloadKind) :
      (engramRecordAccepted kind payloadKind version minLen maxLen s.node.mapping r = true ↔
        version.all (fun v => r.version == v) = true) ∧
      s.node.mapping.payload r (count r) = o.payload := by
    have hplaced := h.puts _ ho
    have hfor := hwait o hkind
    obtain ⟨-, -, hlen, -⟩ := hplaced.fields
    constructor
    · rw [← hfor.kind, ← hfor.payloadKind, ← hfor.minLen, ← hfor.maxLen]
      exact hplaced.accepted_iff version
    · rw [hfor.count r hlen hplaced.fits]
      exact hplaced.payload
  constructor
  · rintro ⟨haccepted, huse⟩
    have hkind : r.objectPayloadKind = payloadKind := by
      simp only [engramRecordAccepted, Bool.and_eq_true, beq_iff_eq] at haccepted
      exact haccepted.1.1.1.1.2
    obtain ⟨o, ho⟩ := h.tables t ht r hr (by rwa [hkind])
    have hkind' : o.payloadKind = payloadKind := (h.puts _ ho).fields.2.1.symm.trans hkind
    obtain ⟨hiff, hpayload⟩ := hput o ho hkind'
    rw [hpayload] at huse
    exact ⟨o, ho, hkind', hiff.mp haccepted, huse⟩
  · rintro ⟨o, ho, hkind, hversion, huse⟩
    obtain ⟨hiff, hpayload⟩ := hput o ho hkind
    rw [hpayload]
    exact ⟨hiff.mpr hversion, huse⟩

end EngramState.Sound

/-! ## The four waits -/

namespace EngramObject

variable {o : EngramObject}

/-- The kind of its payload tells which object it is. -/
lemma cases_payloadKind (o : EngramObject) :
    (o.payloadKind = kindEngramCandidates → ∃ call, o = candidates call) ∧
    (o.payloadKind = kindEngramHistory → ∃ call, o = history call) ∧
    (o.payloadKind = kindEngramSelected → ∃ call, o = selected call) ∧
    (o.payloadKind = kindEngramState → ∃ call, o = state call) := by
  cases o <;> simp [payloadKind, kindEngramCandidates, kindEngramHistory, kindEngramSelected,
    kindEngramState]

end EngramObject

section Waits

variable {env : EngramEnv} {s : EngramState} {t : List Record} {r : Record}

lemma lookAtCandidates_iff (h : s.Sound env) (ht : t ∈ s.tables) (hr : r ∈ t) (step capacity : UInt64)
    (out : EngramCandidates) :
    (lookAtCandidates step capacity s.node.mapping (some r)).2 = some out ↔
      ∃ call, (r, .candidates call) ∈ s.puts ∧ call.decodeStep = step ∧ r.version = 1 ∧
        call.packed.length ≤ capacity.toNat ∧ out = call.values := by
  unfold lookAtCandidates candidatesRecordAccepted
  rw [h.look_iff ht hr (by decide)]
  swap
  · intro o ho
    obtain ⟨call, rfl⟩ := o.cases_payloadKind.1 ho
    exact ⟨rfl, rfl, rfl, rfl, fun _ _ _ => (length_candidates call).symm⟩
  have hresult (call : CandidatesCall) (hput : (r, .candidates call) ∈ s.puts) :
      candidatesResult step capacity r (EngramObject.candidates call).payload = some out ↔
        call.decodeStep = step ∧ call.packed.length ≤ capacity.toNat ∧ out = call.values := by
    have hplaced : EngramPlaced env s.node r (.candidates call) := h.puts _ hput
    exact candidatesResult_eq_some_iff hplaced.fits hplaced.checksum
  constructor
  · rintro ⟨o, hput, ho, hversion, huse⟩
    obtain ⟨call, rfl⟩ := o.cases_payloadKind.1 ho
    obtain ⟨hstep, hcapacity, hout⟩ := (hresult call hput).mp huse
    exact ⟨call, hput, hstep, beq_iff_eq.mp hversion, hcapacity, hout⟩
  · rintro ⟨call, hput, hstep, hversion, hcapacity, hout⟩
    exact ⟨_, hput, rfl, beq_iff_eq.mpr hversion, (hresult call hput).mpr ⟨hstep, hcapacity, hout⟩⟩

lemma lookAtSelected_iff (h : s.Sound env) (ht : t ∈ s.tables) (hr : r ∈ t) (step token : UInt64) :
    (lookAtSelected step s.node.mapping (some r)).2 = some token ↔
      ∃ call, (r, .selected call) ∈ s.puts ∧ call.decodeStep = step ∧ token = call.selectedToken := by
  unfold lookAtSelected selectedRecordAccepted
  rw [h.look_iff ht hr (by decide)]
  swap
  · intro o ho
    obtain ⟨call, rfl⟩ := o.cases_payloadKind.2.2.1 ho
    exact ⟨rfl, rfl, rfl, rfl, fun _ _ _ => (length_selected call).symm⟩
  constructor
  · rintro ⟨o, hput, ho, -, huse⟩
    obtain ⟨call, rfl⟩ := o.cases_payloadKind.2.2.1 ho
    exact ⟨call, hput, (selectedResult_eq_some_iff (h.puts _ hput).checksum).mp huse⟩
  · rintro ⟨call, hput, hresult⟩
    exact ⟨_, hput, rfl, rfl, (selectedResult_eq_some_iff (h.puts _ hput).checksum).mpr hresult⟩

lemma lookAtHistory_iff (h : s.Sound env) (ht : t ∈ s.tables) (hr : r ∈ t) (step capacity : UInt64)
    (out : List UInt64 × UInt64) :
    (lookAtHistory step capacity s.node.mapping (some r)).2 = some out ↔
      ∃ call, (r, .history call) ∈ s.puts ∧ call.decodeStep = step ∧ r.version = step + 1 ∧
        call.historyTokens.length + 1 ≤ capacity.toNat ∧ out = call.history := by
  unfold lookAtHistory historyRecordAccepted
  rw [h.look_iff ht hr (by decide)]
  swap
  · intro o ho
    obtain ⟨call, rfl⟩ := o.cases_payloadKind.2.1 ho
    refine ⟨rfl, rfl, rfl, rfl, fun r hlen hfits => ?_⟩
    rw [hlen, EngramObject.toNat_len hfits.short]
  have hresult (call : DecisionCall) (hput : (r, .history call) ∈ s.puts) :
      historyResult step capacity r (EngramObject.history call).payload = some out ↔
        call.decodeStep = step ∧ call.historyTokens.length + 1 ≤ capacity.toNat ∧ out = call.history := by
    have hplaced : EngramPlaced env s.node r (.history call) := h.puts _ hput
    exact historyResult_eq_some_iff hplaced.fits hplaced.fields.2.2.1 hplaced.checksum
  constructor
  · rintro ⟨o, hput, ho, hversion, huse⟩
    obtain ⟨call, rfl⟩ := o.cases_payloadKind.2.1 ho
    obtain ⟨hstep, hcapacity, hout⟩ := (hresult call hput).mp huse
    exact ⟨call, hput, hstep, beq_iff_eq.mp hversion, hcapacity, hout⟩
  · rintro ⟨call, hput, hstep, hversion, hcapacity, hout⟩
    exact ⟨_, hput, rfl, beq_iff_eq.mpr hversion, (hresult call hput).mpr ⟨hstep, hcapacity, hout⟩⟩

lemma lookAtState_iff (h : s.Sound env) (ht : t ∈ s.tables) (hr : r ∈ t) (step : UInt64)
    (expected : ExpectedState) (sum : UInt64) :
    (lookAtState step expected s.node.mapping (some r)).2 = some sum ↔
      ∃ call, (r, .state call) ∈ s.puts ∧ call.decodeStep = step ∧ r.version = 1 ∧
        expected.Agrees call ∧ sum = checksumBytes (EngramObject.state call).payload := by
  unfold lookAtState stateRecordAccepted
  rw [h.look_iff ht hr (by decide)]
  swap
  · intro o ho
    obtain ⟨call, rfl⟩ := o.cases_payloadKind.2.2.2 ho
    exact ⟨rfl, rfl, rfl, rfl, fun _ _ _ => (length_state call).symm⟩
  constructor
  · rintro ⟨o, hput, ho, hversion, huse⟩
    obtain ⟨call, rfl⟩ := o.cases_payloadKind.2.2.2 ho
    obtain ⟨hstep, hagrees, hsum⟩ :=
      (stateResult_eq_some_iff (h.puts _ hput).checksum).mp huse
    exact ⟨call, hput, hstep, beq_iff_eq.mp hversion, hagrees, hsum⟩
  · rintro ⟨call, hput, hstep, hversion, hagrees, hsum⟩
    exact ⟨_, hput, rfl, beq_iff_eq.mpr hversion,
      (stateResult_eq_some_iff (h.puts _ hput).checksum).mpr ⟨hstep, hagrees, hsum⟩⟩

end Waits

/-! ## The waits of a run -/

/-- **What the waits for an engram return.**  In a run from a node that has no record of an engram,
everything that is put is an object of a publication of the run.  A wait that looks at a record of a
published table returns the values of the publication that put it, if the step, the version and the room
are those it asks for, and nothing otherwise. -/
theorem engram_waits (image : Record → Vector UInt8 recordSize) (lib : Qwen3Library) (env : EngramEnv)
    (node : ClusterNode) (harena : node.ArenaReady)
    (hnone : ∀ r ∈ node.svc.records.entries, r.objectPayloadKind ∉ engramKinds)
    (moves : List EngramMove) (hapart : ∀ m ∈ moves, m.Apart) :
    let s := Run.run (EngramState.step image lib env) (.start node) moves
    (∀ p ∈ s.puts, ∃ m ∈ moves, p.2 ∈ m.objects) ∧
    ∀ t ∈ s.tables, ∀ r ∈ t,
      (∀ step capacity out, (lookAtCandidates step capacity s.node.mapping (some r)).2 = some out ↔
        ∃ call, (r, EngramObject.candidates call) ∈ s.puts ∧ call.decodeStep = step ∧ r.version = 1 ∧
          call.packed.length ≤ capacity.toNat ∧ out = call.values) ∧
      (∀ step token, (lookAtSelected step s.node.mapping (some r)).2 = some token ↔
        ∃ call, (r, EngramObject.selected call) ∈ s.puts ∧ call.decodeStep = step ∧
          token = call.selectedToken) ∧
      (∀ step capacity out, (lookAtHistory step capacity s.node.mapping (some r)).2 = some out ↔
        ∃ call, (r, EngramObject.history call) ∈ s.puts ∧ call.decodeStep = step ∧
          r.version = step + 1 ∧ call.historyTokens.length + 1 ≤ capacity.toNat ∧ out = call.history) ∧
      (∀ step expected sum, (lookAtState step expected s.node.mapping (some r)).2 = some sum ↔
        ∃ call, (r, EngramObject.state call) ∈ s.puts ∧ call.decodeStep = step ∧ r.version = 1 ∧
          expected.Agrees call ∧ sum = checksumBytes (EngramObject.state call).payload) := by
  intro s
  have hstart : (EngramState.start node).Sound env := EngramState.sound_start harena hnone
  obtain ⟨hsound, hputs⟩ : s.Sound env ∧ _ := EngramState.sound_run hapart hstart
  refine ⟨fun p hp => ?_, fun t ht r hr => ⟨?_, ?_, ?_, ?_⟩⟩
  · rcases hputs p hp with hp | hm
    · cases hp
    · exact hm
  · exact lookAtCandidates_iff hsound ht hr
  · exact lookAtSelected_iff hsound ht hr
  · exact lookAtHistory_iff hsound ht hr
  · exact lookAtState_iff hsound ht hr

/-- One candidate for the first step. -/
def oneCandidate : CandidatesCall := ⟨0, [⟨11, 12, 13, 14, 15, 16⟩]⟩

/-- The decision for that step: the token 11, behind two others. -/
def oneDecision : DecisionCall where
  decodeStep := 0
  historyTokens := [7, 8]
  rawSampledToken := 11
  runnerUpToken := 12
  selectedToken := 11
  blockedCount := 0
  fallbackUsed := 0
  topScoreMilli := 900
  runnerUpScoreMilli := 400
  noRepeatNgramSize := 3
  repetitionPenaltyMilli := 1100
  historyWindow := 64
  logitsChecksum := 21
  textChecksum := 22

/-- What a wait for its state expects. -/
def oneExpectation : ExpectedState where
  historyTokenCount := 3
  selectedToken := 11
  historyChecksum := checksumBytes (wordsImage oneDecision.historyWords)
  noRepeatNgramSize := 3
  repetitionPenaltyMilli := 1100

/-- The environment says that the first node is the owner. -/
def firstOwns : EngramEnv := ⟨none, some (ascii "1")⟩

/-- The owner publishes the candidate and the decision. -/
def oneStep : List EngramMove :=
  [.candidates 0 2 oneCandidate ⟨true, true⟩, .decision 0 2 oneDecision ⟨true, true⟩]

/-- The kind of its payload tells which object of the step it is. -/
lemma object_of_oneStep {o : EngramObject} (ho : ∃ m ∈ oneStep, o ∈ m.objects) :
    (o.payloadKind = kindEngramCandidates → o = .candidates oneCandidate) ∧
    (o.payloadKind = kindEngramHistory → o = .history oneDecision) ∧
    (o.payloadKind = kindEngramSelected → o = .selected oneDecision) ∧
    (o.payloadKind = kindEngramState → o = .state oneDecision) := by
  have hobjects : o ∈ [.candidates oneCandidate, .history oneDecision, .selected oneDecision,
      .state oneDecision] := List.mem_flatMap.mpr ho
  simp only [List.mem_cons, List.not_mem_nil, or_false] at hobjects
  rcases hobjects with rfl | rfl | rfl | rfl <;>
    simp [EngramObject.payloadKind, kindEngramCandidates, kindEngramHistory, kindEngramSelected,
      kindEngramState]

/-- The four waits find what they wait for, and nothing for another step or in a smaller room. -/
theorem engram_waits_of_oneStep :
    let s := Run.run (EngramState.step (fun _ => Vector.replicate recordSize 0) (ringOf 2) firstOwns)
      (.start emptyNode) oneStep
    ∃ t ∈ s.tables, (∃ r ∈ t,
        (lookAtCandidates 0 1 s.node.mapping (some r)).2 = some oneCandidate.values ∧
        (lookAtCandidates 1 1 s.node.mapping (some r)).2 = none) ∧
      (∃ r ∈ t, (lookAtSelected 0 s.node.mapping (some r)).2 = some 11) ∧
      (∃ r ∈ t, (lookAtHistory 0 3 s.node.mapping (some r)).2 = some oneDecision.history ∧
        (lookAtHistory 0 2 s.node.mapping (some r)).2 = none) ∧
      ∃ r ∈ t, (lookAtState 0 oneExpectation s.node.mapping (some r)).2 =
        some (checksumBytes (EngramObject.state oneDecision).payload) := by
  intro s
  have hnone : ∀ r ∈ emptyNode.svc.records.entries, r.objectPayloadKind ∉ engramKinds := by
    decide +kernel
  obtain ⟨hputs, hwaits⟩ := engram_waits (fun _ => Vector.replicate recordSize 0) (ringOf 2) firstOwns
    emptyNode (.inl ⟨rfl, rfl⟩) hnone oneStep (by simp [oneStep, EngramMove.Apart])
  have hobject := fun p (hp : p ∈ s.puts) => object_of_oneStep (hputs p hp)
  have hfound : ∃ t ∈ s.tables,
      (∃ p ∈ s.puts, p.1 ∈ t ∧ p.2.payloadKind = kindEngramCandidates ∧ p.1.version = 1) ∧
      (∃ p ∈ s.puts, p.1 ∈ t ∧ p.2.payloadKind = kindEngramSelected) ∧
      (∃ p ∈ s.puts, p.1 ∈ t ∧ p.2.payloadKind = kindEngramHistory ∧ p.1.version = 1) ∧
      ∃ p ∈ s.puts, p.1 ∈ t ∧ p.2.payloadKind = kindEngramState ∧ p.1.version = 1 := by
    decide +kernel
  obtain ⟨t, ht, ⟨⟨rc, oc⟩, hpc, hrc, hkc, hvc⟩, ⟨⟨rt, ot⟩, hpt, hrt, hkt⟩, ⟨⟨rh, oh⟩, hph, hrh, hkh, hvh⟩,
    ⟨⟨rs, os⟩, hps, hrs, hks, hvs⟩⟩ := hfound
  obtain rfl : oc = .candidates oneCandidate := (hobject _ hpc).1 hkc
  obtain rfl : oh = .history oneDecision := (hobject _ hph).2.1 hkh
  obtain rfl : ot = .selected oneDecision := (hobject _ hpt).2.2.1 hkt
  obtain rfl : os = .state oneDecision := (hobject _ hps).2.2.2 hks
  obtain ⟨hcandidates, -⟩ := hwaits t ht rc hrc
  obtain ⟨-, hselected, -⟩ := hwaits t ht rt hrt
  obtain ⟨-, -, hhistory, -⟩ := hwaits t ht rh hrh
  obtain ⟨-, -, -, hstate⟩ := hwaits t ht rs hrs
  refine ⟨t, ht, ⟨rc, hrc, ?_, ?_⟩, ⟨rt, hrt, ?_⟩, ⟨rh, hrh, ?_, ?_⟩, ⟨rs, hrs, ?_⟩⟩
  · exact (hcandidates 0 1 _).mpr ⟨_, hpc, rfl, hvc, by decide, rfl⟩
  · rw [Option.eq_none_iff_forall_ne_some]
    intro out hout
    obtain ⟨call, hput, hstep, -⟩ := (hcandidates 1 1 out).mp hout
    cases (hobject _ hput).1 rfl
    cases hstep
  · exact (hselected 0 11).mpr ⟨_, hpt, rfl, rfl⟩
  · exact (hhistory 0 3 _).mpr ⟨_, hph, rfl, hvh, by decide, rfl⟩
  · rw [Option.eq_none_iff_forall_ne_some]
    intro out hout
    obtain ⟨call, hput, -, -, hroom, -⟩ := (hhistory 0 2 out).mp hout
    cases (hobject _ hput).2.1 rfl
    exact absurd hroom (by decide)
  · exact (hstate 0 oneExpectation _).mpr ⟨_, hps, rfl, hvs, ⟨rfl, rfl, rfl, rfl, rfl⟩, rfl⟩

end MemService
