import MemService.RegionLayout
import MemService.Lib.SharedReads

/-!
# Reading a peer's record table while it is written

`mem_service_write_cluster_payload` zeroes the table, copies the new one over it with
`publish_done_seq = 0`, and then sets `publish_done_seq` to `publish_seq`.  A peer reads the table
through its mapping while that goes on, with no lock: it reads the header, whatever it is after, and
the header again, and takes what it has read if both headers agree and are those of a finished
publication.

The stores become visible in the order of addresses.  That is what the reader relies on: the magic
number, at the front, is the first to be zeroed, so a header whose sequence numbers are still those of
the publication but whose magic number was read after them is one of a table that nobody has touched.
-/

open ByteText BigEndian

namespace MemService

/-! ## The writer -/

/-- Where the writer is in a publication: how many bytes are zeroed, or copied. -/
inductive WritePhase
  | idle
  | zeroing (svc : Service) (seq : UInt32) (count : ℕ)
  | copying (svc : Service) (seq : UInt32) (count : ℕ)

/-- The table in the region, and the publications that are finished, oldest first. -/
structure TableWriter where
  region : ℕ → UInt8
  publishSeq : UInt32
  published : List (Service × UInt32)
  phase : WritePhase

inductive WriterMove
  -- a call of `mem_service_write_cluster_payload`
  | publish (svc : Service)
  -- the next store of the call becomes visible
  | store

namespace TableWriter

section Writer

-- how the compiler lays a record out
variable (image : Record → Vector UInt8 recordSize)

/-- The bytes that are copied: `publish_done_seq` is still 0. -/
def stagedPayload (svc : Service) (seq : UInt32) : ℕ → UInt8 :=
  ByteRegion.write (ByteRegion.ofList (clusterPayload image svc seq)) 12 (wordLE 4 0)

def step (s : TableWriter) : WriterMove → TableWriter
  | .publish svc =>
      match s.phase with
      | .idle =>
          let next := s.publishSeq + 1
          let seq := if next = 0 then next + 1 else next
          { s with publishSeq := seq, phase := .zeroing svc seq 0 }
      | _ => s
  | .store =>
      match s.phase with
      | .idle => s
      | .zeroing svc seq count =>
          if count < clusterPayloadSize then
            { s with
              region := ByteRegion.write s.region count [0]
              phase := .zeroing svc seq (count + 1) }
          else { s with phase := .copying svc seq 0 }
      | .copying svc seq count =>
          if count < clusterPayloadSize then
            { s with
              region := ByteRegion.write s.region count [stagedPayload image svc seq count]
              phase := .copying svc seq (count + 1) }
          else
            { s with
              region := ByteRegion.write s.region 12 (wordLE 4 seq.toNat)
              published := s.published ++ [(svc, seq)]
              phase := .idle }

/-- A region that nothing was published in. -/
def start : TableWriter := ⟨fun _ => 0, 0, [], .idle⟩

/-- The writer after the first `n` moves. -/
def after (moves : List WriterMove) (n : ℕ) : TableWriter := Run.run (step image) start (moves.take n)

end Writer

/-- How many publications have begun. -/
def begun (s : TableWriter) : ℕ :=
  s.published.length + match s.phase with
    | .idle => 0
    | _ => 1

/-- How far the writer has come, in stores. -/
def progress (s : TableWriter) : ℕ :=
  s.published.length * (2 * clusterPayloadSize + 3) + match s.phase with
    | .idle => 0
    | .zeroing _ _ count => 1 + count
    | .copying _ _ count => clusterPayloadSize + 2 + count

end TableWriter

/-! ## The readers -/

/-- `struct mem_service_cluster_payload_header`. -/
structure PayloadHeader where
  magic : UInt32
  version : UInt16
  recordCount : UInt16
  publishSeq : UInt32
  publishDoneSeq : UInt32
  deriving DecidableEq

/-- A little-endian number in memory. -/
def leValue (s : Bytes) : ℕ := value s.reverse

/-- The header in its two words. -/
def PayloadHeader.ofWords (w₀ w₁ : Bytes) : PayloadHeader where
  magic := UInt32.ofNat (leValue (w₀.take 4))
  version := UInt16.ofNat (leValue ((w₀.drop 4).take 2))
  recordCount := UInt16.ofNat (leValue (w₀.drop 6))
  publishSeq := UInt32.ofNat (leValue (w₁.take 4))
  publishDoneSeq := UInt32.ofNat (leValue (w₁.drop 4))

/-- What every reader asks of a header. -/
def PayloadHeader.finished (h : PayloadHeader) : Bool :=
  !(h.publishSeq == 0 || h.publishSeq != h.publishDoneSeq || h.magic != 0x57344450 ||
    h.version != 1 || h.recordCount == 0 || h.recordCount.toNat > clusterMaxRecords)

variable (t : Timeline UInt8)

/-- The header, copied out of the mapping. -/
def readHeader (n : ℕ) : PayloadHeader × ℕ :=
  let (bytes, n) := t.copy 0 16 n
  (.ofWords (bytes.take 8) (bytes.drop 8), n)

/-- The offset of a record in the table. -/
def recordOffset (i : ℕ) : ℕ := 64 + i * recordSize

/-- The copies of `count` records, from the `i`-th on. -/
def readRecords : ℕ → ℕ → ℕ → List Bytes × ℕ
  | 0, _, n => ([], n)
  | count + 1, i, n =>
      let (record, n) := t.copy (recordOffset i) recordSize n
      let (rest, n) := readRecords count (i + 1) n
      (record :: rest, n)

/-- `mem_service_try_read_stable_payload_region` on a remote slot: the header and the records. -/
def tryReadStablePayloadRegion (n : ℕ) : Option (PayloadHeader × List Bytes) :=
  let (header, n) := readHeader t n
  if !header.finished then none
  else
    let (records, n) := readRecords t header.recordCount.toNat 0 n
    let (confirm, _) := readHeader t n
    if confirm ≠ header then none else some (header, records)

/-- `mem_service_try_read_stable_compact_summary_region` on a remote slot: the header and the bytes of
the summary. -/
def tryReadStableCompactSummaryRegion (n : ℕ) : Option (PayloadHeader × Bytes) :=
  let (header, n) := readHeader t n
  if !header.finished then none
  else
    let (summary, n) := t.copy 16 48 n
    let (confirm, _) := readHeader t n
    if confirm ≠ header || UInt16.ofNat (leValue (summary.take 2)) ≠ header.recordCount then none
    else some (header, summary)

/-- `strncmp(a, b, 96) == 0`. -/
def sameKey (a b : Bytes) : Bool := (cstr a).take 96 == (cstr b).take 96

/-- The loop of `mem_service_slot_find_record` over `count` records, from the `i`-th on. -/
def slotFindLoop (key : Bytes) (header : PayloadHeader) : ℕ → ℕ → ℕ → Option Bytes
  | 0, _, _ => none
  | count + 1, i, n =>
      let (inUse, n) := t.copy (recordOffset i) 1 n
      if inUse == [0] then slotFindLoop key header count (i + 1) n
      else
        let (kind, n) := t.copy (recordOffset i + 4) 4 n
        if leValue kind < 1 || leValue kind > 16 then none
        else
          let (recordKey, n) := t.copy (recordOffset i + 8) 96 n
          if sameKey recordKey key then
            let (record, n) := t.copy (recordOffset i) recordSize n
            let (confirm, _) := readHeader t n
            if confirm ≠ header then none else some record
          else slotFindLoop key header count (i + 1) n

/-- `mem_service_slot_find_record` on a remote slot: the record. -/
def slotFindRecord (key : Bytes) (n : ℕ) : Option Bytes :=
  let (header, n) := readHeader t n
  if !header.finished then none else slotFindLoop t key header header.recordCount.toNat 0 n

/-! ## What is in the region -/

namespace TableWriter

variable (image : Record → Vector UInt8 recordSize)

/-- What one move does: nothing, a publication begins, a byte is zeroed, the zeroing is over, a byte is
copied, or the publication is finished. -/
inductive Moved (s : TableWriter) : TableWriter → Prop
  | stays : Moved s s
  | begins (svc : Service) (seq : UInt32) (hidle : s.phase = .idle)
      (hseq : s.publishSeq.toNat + 1 < 2 ^ 32 → seq.toNat = s.publishSeq.toNat + 1) :
      Moved s { s with publishSeq := seq, phase := .zeroing svc seq 0 }
  | zeroes (svc : Service) (seq : UInt32) (count : ℕ) (hphase : s.phase = .zeroing svc seq count)
      (hlt : count < clusterPayloadSize) :
      Moved s { s with
        region := ByteRegion.write s.region count [0]
        phase := .zeroing svc seq (count + 1) }
  | turns (svc : Service) (seq : UInt32) (count : ℕ) (hphase : s.phase = .zeroing svc seq count)
      (hle : clusterPayloadSize ≤ count) : Moved s { s with phase := .copying svc seq 0 }
  | copies (svc : Service) (seq : UInt32) (count : ℕ) (hphase : s.phase = .copying svc seq count)
      (hlt : count < clusterPayloadSize) :
      Moved s { s with
        region := ByteRegion.write s.region count [stagedPayload image svc seq count]
        phase := .copying svc seq (count + 1) }
  | finishes (svc : Service) (seq : UInt32) (count : ℕ) (hphase : s.phase = .copying svc seq count)
      (hle : clusterPayloadSize ≤ count) :
      Moved s { s with
        region := ByteRegion.write s.region 12 (wordLE 4 seq.toNat)
        published := s.published ++ [(svc, seq)]
        phase := .idle }

variable {image}

lemma step_moved (s : TableWriter) (m : WriterMove) : Moved image s (s.step image m) := by
  cases m with
  | publish svc =>
    unfold step
    cases hphase : s.phase with
    | idle =>
      refine .begins svc _ hphase fun hlt => ?_
      have hnext : (s.publishSeq + 1).toNat = s.publishSeq.toNat + 1 := by
        rw [UInt32.toNat_add]
        exact Nat.mod_eq_of_lt hlt
      rw [if_neg, hnext]
      intro hzero
      rw [hzero] at hnext
      cases hnext
    | zeroing svc' seq count => exact .stays
    | copying svc' seq count => exact .stays
  | store =>
    unfold step
    cases hphase : s.phase with
    | idle => exact .stays
    | zeroing svc seq count =>
      dsimp only
      split
      · exact .zeroes svc seq count hphase ‹_›
      · exact .turns svc seq count hphase (by omega)
    | copying svc seq count =>
      dsimp only
      split
      · exact .copies svc seq count hphase ‹_›
      · exact .finishes svc seq count hphase (by omega)

/-- The bytes of the table that was published last; zeros before the first publication. -/
def lastTable (image : Record → Vector UInt8 recordSize) (s : TableWriter) : ℕ → UInt8 :=
  match s.published.getLast? with
  | none => fun _ => 0
  | some p => ByteRegion.ofList (clusterPayload image p.1 p.2)

/-- What the region holds in each phase, and how the publications are numbered. -/
structure Shows (image : Record → Vector UInt8 recordSize) (s : TableWriter) : Prop where
  numbered : ∀ i p, s.published[i]? = some p → p.2.toNat = i + 1
  counter : s.publishSeq.toNat = s.begun
  idle : s.phase = .idle → ∀ a < clusterPayloadSize, s.region a = s.lastTable image a
  zeroing : ∀ svc seq count, s.phase = .zeroing svc seq count →
    count ≤ clusterPayloadSize ∧ seq = s.publishSeq ∧
      ∀ a < clusterPayloadSize, s.region a = if a < count then 0 else s.lastTable image a
  copying : ∀ svc seq count, s.phase = .copying svc seq count →
    count ≤ clusterPayloadSize ∧ seq = s.publishSeq ∧
      ∀ a < clusterPayloadSize,
        s.region a = if a < count then stagedPayload image svc seq a else 0

lemma begun_le_of_moved {s s' : TableWriter} (h : Moved image s s') : s.begun ≤ s'.begun := by
  cases h with
  | stays => exact Nat.le_refl _
  | begins svc seq hidle | zeroes svc seq count hidle | turns svc seq count hidle
  | copies svc seq count hidle | finishes svc seq count hidle =>
    simp [begun, hidle]

/-- The table with its parts in front: the first word, the two sequence numbers and the rest. -/
lemma clusterPayload_eq (image : Record → Vector UInt8 recordSize) (svc : Service) (seq : UInt32) :
    ∃ rest,
    clusterPayload image svc seq =
      (wordLE 4 0x57344450 ++ wordLE 2 1 ++ wordLE 2 (snapshotMetadataRecords svc).length) ++
        (wordLE 4 seq.toNat ++ (wordLE 4 seq.toNat ++ rest)) := by
  refine ⟨(buildCompactSummary (snapshotMetadataRecords svc)).image ++
    ((snapshotMetadataRecords svc).map fun r => (image r).toList).flatten ++
    List.replicate ((clusterMaxRecords - (snapshotMetadataRecords svc).length) * recordSize) 0, ?_⟩
  simp only [clusterPayload, List.append_assoc]

lemma read_table (svc : Service) (seq : UInt32) {off n : ℕ} (h : off + n ≤ clusterPayloadSize) :
    ByteRegion.read (ByteRegion.ofList (clusterPayload image svc seq)) off n =
      ((clusterPayload image svc seq).drop off).take n :=
  ByteRegion.read_ofList (by rwa [length_clusterPayload])

/-- The sequence number at the end of the header. -/
lemma read_doneSeq (image : Record → Vector UInt8 recordSize) (svc : Service) (seq : UInt32) :
    ByteRegion.read (ByteRegion.ofList (clusterPayload image svc seq)) 12 4 = wordLE 4 seq.toNat := by
  obtain ⟨rest, hparts⟩ := clusterPayload_eq image svc seq
  rw [read_table svc seq (by unfold clusterPayloadSize; omega), hparts, ← List.append_assoc,
    List.drop_left' (by simp), List.take_left' (by simp)]

/-- The sequence number in front of it. -/
lemma read_publishSeq (image : Record → Vector UInt8 recordSize) (svc : Service) (seq : UInt32) :
    ByteRegion.read (ByteRegion.ofList (clusterPayload image svc seq)) 8 4 = wordLE 4 seq.toNat := by
  obtain ⟨rest, hparts⟩ := clusterPayload_eq image svc seq
  rw [read_table svc seq (by unfold clusterPayloadSize; omega), hparts, List.drop_left' (by simp),
    List.take_left' (by simp)]

/-- Setting `publish_done_seq` makes the copied table the published one. -/
lemma write_stagedPayload (image : Record → Vector UInt8 recordSize) (svc : Service) (seq : UInt32) :
    ByteRegion.write (stagedPayload image svc seq) 12 (wordLE 4 seq.toNat) =
      ByteRegion.ofList (clusterPayload image svc seq) := by
  rw [stagedPayload, ByteRegion.write_write (by simp), ← read_doneSeq image svc seq]
  exact ByteRegion.write_read _ 12 4

/-- One more byte of a memory that is filled from the front. -/
lemma write_next {m old : ℕ → UInt8} (next : ℕ → UInt8) {count size : ℕ}
    (h : ∀ a < size, m a = if a < count then next a else old a) :
    ∀ a < size, ByteRegion.write m count [next count] a = if a < count + 1 then next a else old a := by
  intro a ha
  by_cases hac : a = count
  · subst hac
    simp [ByteRegion.write]
  · rw [ByteRegion.write_outside (by simp only [List.length_singleton]; omega), h a ha]
    by_cases hlt : a < count
    · rw [if_pos hlt, if_pos (by omega)]
    · rw [if_neg hlt, if_neg (by omega)]

lemma Shows.moved {s s' : TableWriter} (h : s.Shows image) (hm : Moved image s s')
    (hfew : s'.begun < 2 ^ 32) : s'.Shows image := by
  cases hm with
  | stays => exact h
  | begins svc seq hidle hseq =>
    have hbegun : s.begun = s.published.length := by simp [begun, hidle]
    have hcounter := h.counter
    have hnext : seq.toNat = s.publishSeq.toNat + 1 := hseq (by simp [begun] at hfew; omega)
    refine ⟨h.numbered, ?_, fun hc => (by cases hc), ?_, fun _ _ _ hc => (by cases hc)⟩
    · simp only [begun]
      omega
    · rintro _ _ _ ⟨⟩
      refine ⟨Nat.zero_le _, rfl, fun a ha => ?_⟩
      rw [if_neg (Nat.not_lt_zero a)]
      exact h.idle hidle a ha
  | zeroes svc seq count hphase hlt =>
    obtain ⟨-, hseq, hregion⟩ := h.zeroing svc seq count hphase
    refine ⟨h.numbered, ?_, fun hc => (by cases hc), ?_, fun _ _ _ hc => (by cases hc)⟩
    · have := h.counter
      simpa [begun, hphase] using this
    · rintro _ _ _ ⟨⟩
      exact ⟨hlt, hseq, write_next (fun _ => 0) hregion⟩
  | turns svc seq count hphase hle =>
    obtain ⟨hcount, hseq, hregion⟩ := h.zeroing svc seq count hphase
    refine ⟨h.numbered, ?_, fun hc => (by cases hc), fun _ _ _ hc => (by cases hc), ?_⟩
    · have := h.counter
      simpa [begun, hphase] using this
    · rintro _ _ _ ⟨⟩
      refine ⟨Nat.zero_le _, hseq, fun a ha => ?_⟩
      rw [if_neg (Nat.not_lt_zero a)]
      change s.region a = 0
      rw [hregion a ha, if_pos (by omega)]
  | copies svc seq count hphase hlt =>
    obtain ⟨-, hseq, hregion⟩ := h.copying svc seq count hphase
    refine ⟨h.numbered, ?_, fun hc => (by cases hc), fun _ _ _ hc => (by cases hc), ?_⟩
    · have := h.counter
      simpa [begun, hphase] using this
    · rintro _ _ _ ⟨⟩
      exact ⟨hlt, hseq, write_next (stagedPayload image svc seq) hregion⟩
  | finishes svc seq count hphase hle =>
    obtain ⟨hcount, hseq, hregion⟩ := h.copying svc seq count hphase
    have hcounter := h.counter
    simp only [begun, hphase] at hcounter
    refine ⟨?_, ?_, ?_, fun _ _ _ hc => (by cases hc), fun _ _ _ hc => (by cases hc)⟩
    · intro i p hp
      rw [List.getElem?_append] at hp
      split at hp
      · exact h.numbered i p hp
      · rw [List.getElem?_singleton] at hp
        split at hp
        · cases hp
          rw [hseq, hcounter]
          omega
        · cases hp
    · simpa [begun] using hcounter
    · intro _ a ha
      rw [lastTable]
      simp only [List.getLast?_append, List.getLast?_singleton, Option.some_or]
      rw [← write_stagedPayload image svc seq]
      have hstaged : s.region a = stagedPayload image svc seq a := by
        rw [hregion a ha, if_pos (by omega)]
      simp only [ByteRegion.write, hstaged]

/-- The writer comes on. -/
lemma progress_le_of_moved {s s' : TableWriter} (h : s.Shows image) (hm : Moved image s s') :
    s.progress ≤ s'.progress := by
  cases hm with
  | stays => exact Nat.le_refl _
  | begins svc seq hidle => simp [progress, hidle]
  | zeroes svc seq count hphase => simp [progress, hphase]
  | turns svc seq count hphase =>
    have := (h.zeroing svc seq count hphase).1
    simp only [progress, hphase]
    omega
  | copies svc seq count hphase => simp [progress, hphase]
  | finishes svc seq count hphase =>
    have := (h.copying svc seq count hphase).1
    simp only [progress, hphase, List.length_append, List.length_singleton, Nat.add_mul, Nat.one_mul]
    omega

/-! ## What a header says -/

lemma leValue_wordLE {width n : ℕ} (h : n < 256 ^ width) : leValue (wordLE width n) = n := by
  rw [leValue, wordLE, List.reverse_reverse, value_bytes h]

lemma leValue_zero_cons (s : Bytes) : leValue (0 :: s) = 256 * leValue s := by
  rw [leValue, List.reverse_cons, value_concat, leValue]
  change _ * 256 + 0 = _
  omega

/-- A number that is all zeros in memory. -/
lemma leValue_read_zero {m : ℕ → UInt8} {off : ℕ} (h : ∀ i < 4, m (off + i) = 0) :
    leValue (ByteRegion.read m off 4) = 0 := by
  have hread : ByteRegion.read m off 4 = ByteRegion.read (fun _ => 0) off 4 :=
    ByteRegion.read_congr h
  rw [hread]
  simp only [ByteRegion.read, List.map_const', List.length_range]
  decide

section Window

variable {s : TableWriter}

lemma getLast?_numbered (h : s.Shows image) {p : Service × UInt32}
    (hp : s.published.getLast? = some p) : p.2.toNat = s.published.length := by
  rw [List.getLast?_eq_getElem?] at hp
  have hpos : s.published.length - 1 < s.published.length := (List.getElem?_eq_some_iff.mp hp).1
  rw [h.numbered _ p hp]
  omega

/-- The finished publication that a `publish_done_seq` names. -/
lemma doneSeq_lastTable
    (hdone : leValue (ByteRegion.read (s.lastTable image) 12 4) ≠ 0) :
    ∃ p, s.published.getLast? = some p ∧
      leValue (ByteRegion.read (s.lastTable image) 12 4) = p.2.toNat := by
  unfold lastTable at hdone ⊢
  cases hlast : s.published.getLast? with
  | none =>
    simp only [hlast] at hdone
    exact absurd (leValue_read_zero fun _ _ => rfl) hdone
  | some p =>
    refine ⟨p, rfl, ?_⟩
    dsimp only
    rw [read_doneSeq, leValue_wordLE]
    exact p.2.toNat_lt

/-- Two equal sequence numbers are those of the publication that was finished last, and the table is
not being filled again. -/
lemma finished_of_sameSeq (h : s.Shows image)
    (hsame : leValue (ByteRegion.read s.region 8 4) = leValue (ByteRegion.read s.region 12 4))
    (hdone : leValue (ByteRegion.read s.region 12 4) ≠ 0) :
    ∃ p, s.published.getLast? = some p ∧
      leValue (ByteRegion.read s.region 12 4) = p.2.toNat ∧
      (s.phase = .idle ∨ ∃ svc seq count, s.phase = .zeroing svc seq count) := by
  have hsize : 16 ≤ clusterPayloadSize := by
    unfold clusterPayloadSize
    omega
  cases hphase : s.phase with
  | idle =>
    have hread : ByteRegion.read s.region 12 4 = ByteRegion.read (s.lastTable image) 12 4 :=
      ByteRegion.read_congr fun i hi => h.idle hphase _ (by omega)
    rw [hread] at hdone ⊢
    obtain ⟨p, hp, hval⟩ := doneSeq_lastTable hdone
    exact ⟨p, hp, hval, .inl rfl⟩
  | zeroing svc seq count =>
    obtain ⟨-, -, hregion⟩ := h.zeroing svc seq count hphase
    by_cases hcount : count ≤ 12
    · have hread : ByteRegion.read s.region 12 4 = ByteRegion.read (s.lastTable image) 12 4 :=
        ByteRegion.read_congr fun i hi => by
          rw [hregion _ (by omega), if_neg (by omega)]
      rw [hread] at hdone ⊢
      obtain ⟨p, hp, hval⟩ := doneSeq_lastTable hdone
      exact ⟨p, hp, hval, .inr ⟨svc, seq, count, rfl⟩⟩
    · -- the first sequence number is gone
      have hzero : leValue (ByteRegion.read s.region 8 4) = 0 :=
        leValue_read_zero fun i hi => by rw [hregion _ (by omega), if_pos (by omega)]
      exact absurd (hsame.symm.trans hzero) hdone
  | copying svc seq count =>
    obtain ⟨-, -, hregion⟩ := h.copying svc seq count hphase
    have hzero : leValue (ByteRegion.read s.region 12 4) = 0 := by
      refine leValue_read_zero fun i hi => ?_
      rw [hregion _ (by omega)]
      split
      · rw [stagedPayload, ByteRegion.write_inside (by rw [length_wordLE]; exact hi)]
        have hzeros : wordLE 4 0 = List.replicate 4 0 := by decide
        simp only [hzeros, List.getElem_replicate]
      · rfl
    exact absurd hzero hdone

/-- While the magic number is there nothing of the table is zeroed. -/
lemma untouched_of_magic (h : s.Shows image)
    (hphase : s.phase = .idle ∨ ∃ svc seq count, s.phase = .zeroing svc seq count)
    (hmagic : UInt32.ofNat (leValue (ByteRegion.read s.region 0 4)) = 0x57344450) :
    s.phase = .idle ∨ ∃ svc seq, s.phase = .zeroing svc seq 0 := by
  obtain hidle | ⟨svc, seq, count, hz⟩ := hphase
  · exact .inl hidle
  obtain ⟨-, -, hregion⟩ := h.zeroing svc seq count hz
  rcases Nat.eq_zero_or_pos count with rfl | hpos
  · exact .inr ⟨svc, seq, hz⟩
  exfalso
  have hfirst : s.region 0 = 0 := by
    rw [hregion 0 (by unfold clusterPayloadSize; omega), if_pos hpos]
  have hcons : ByteRegion.read s.region 0 4 = 0 :: ByteRegion.read s.region 1 3 := by
    rw [show (4 : ℕ) = 1 + 3 from rfl, ByteRegion.read_append]
    simp [ByteRegion.read, hfirst]
  rw [hcons, leValue_zero_cons] at hmagic
  have hval : 256 * leValue (ByteRegion.read s.region 1 3) % 2 ^ 32 = 0x57344450 := by
    simpa using congrArg UInt32.toNat hmagic
  omega

/-- A table that nothing is zeroed of is the one published last. -/
lemma region_eq_lastTable (h : s.Shows image)
    (hphase : s.phase = .idle ∨ ∃ svc seq, s.phase = .zeroing svc seq 0) :
    ∀ a < clusterPayloadSize, s.region a = s.lastTable image a := by
  intro a ha
  obtain hidle | ⟨svc, seq, hz⟩ := hphase
  · exact h.idle hidle a ha
  · obtain ⟨-, -, hregion⟩ := h.zeroing svc seq 0 hz
    rw [hregion a ha, if_neg (Nat.not_lt_zero a)]

end Window

/-! ## The writer's run -/

section After

variable (image) (moves : List WriterMove)

lemma after_moved (n : ℕ) : Moved image (after image moves n) (after image moves (n + 1)) := by
  unfold after
  by_cases hn : n < moves.length
  · rw [List.take_succ_eq_append_getElem hn, Run.run_append]
    exact step_moved _ _
  · rw [List.take_of_length_le (by omega), List.take_of_length_le (by omega)]
    exact .stays

variable {image moves}

lemma begun_after_le {n n' : ℕ} (h : n ≤ n') :
    (after image moves n).begun ≤ (after image moves n').begun :=
  monotone_nat_of_le_succ (fun k => begun_le_of_moved (after_moved image moves k)) h

lemma after_length {n : ℕ} (h : moves.length ≤ n) :
    after image moves n = after image moves moves.length := by
  rw [after, after, List.take_of_length_le h, List.take_length]

lemma shows_start : start.Shows image where
  numbered := by simp [start]
  counter := rfl
  idle := fun _ _ _ => rfl
  zeroing := fun _ _ _ h => by cases h
  copying := fun _ _ _ h => by cases h

variable (hfew : (after image moves moves.length).begun < 2 ^ 32)

include hfew in
lemma shows_after (n : ℕ) : (after image moves n).Shows image := by
  have hbound (k : ℕ) : (after image moves k).begun < 2 ^ 32 := by
    refine Nat.lt_of_le_of_lt ?_ hfew
    rcases Nat.le_total k moves.length with h | h
    · exact begun_after_le h
    · rw [after_length h]
  induction n with
  | zero => exact shows_start
  | succ n ih => exact ih.moved (after_moved image moves n) (hbound (n + 1))

include hfew in
lemma progress_after_le {n n' : ℕ} (h : n ≤ n') :
    (after image moves n).progress ≤ (after image moves n').progress :=
  monotone_nat_of_le_succ
    (fun k => progress_le_of_moved (shows_after hfew k) (after_moved image moves k)) h

lemma published_after_grows {n n' : ℕ} (h : n ≤ n') :
    (after image moves n).published <+: (after image moves n').published := by
  induction n', h using Nat.le_induction with
  | base => exact List.prefix_rfl
  | succ n' _ ih =>
    refine ih.trans ?_
    have hmoved := after_moved image moves n'
    generalize after image moves (n' + 1) = s' at hmoved
    cases hmoved with
    | finishes => exact List.prefix_append _ _
    | _ => exact List.prefix_rfl

end After

/-- The stores of one publication. -/
lemma progress_bounds {s : TableWriter} (h : s.Shows image) :
    s.published.length * (2 * clusterPayloadSize + 3) ≤ s.progress ∧
      s.progress < (s.published.length + 1) * (2 * clusterPayloadSize + 3) := by
  unfold progress
  cases hphase : s.phase with
  | idle =>
    simp only
    rw [Nat.add_mul]
    omega
  | zeroing svc seq count =>
    have := (h.zeroing svc seq count hphase).1
    simp only
    rw [Nat.add_mul]
    omega
  | copying svc seq count =>
    have := (h.copying svc seq count hphase).1
    simp only
    rw [Nat.add_mul]
    omega

lemma progress_le_of_zeroing {s : TableWriter} (h : s.Shows image)
    (hphase : s.phase = .idle ∨ ∃ svc seq count, s.phase = .zeroing svc seq count) :
    s.progress ≤ s.published.length * (2 * clusterPayloadSize + 3) + 1 + clusterPayloadSize := by
  obtain hidle | ⟨svc, seq, count, hz⟩ := hphase
  · simp only [progress, hidle]
    omega
  · have := (h.zeroing svc seq count hz).1
    simp only [progress, hz]
    omega

/-- Where a writer is that has come as far as a publication `k` that is finished, and not further than
the first zeros. -/
lemma phase_of_progress {s : TableWriter} (h : s.Shows image) {k : ℕ}
    (hlow : k * (2 * clusterPayloadSize + 3) ≤ s.progress)
    (hhigh : s.progress ≤ k * (2 * clusterPayloadSize + 3) + 1 + clusterPayloadSize) :
    s.published.length = k ∧
      (s.phase = .idle ∨ ∃ svc seq count, s.phase = .zeroing svc seq count) ∧
      (s.progress ≤ k * (2 * clusterPayloadSize + 3) + 1 →
        s.phase = .idle ∨ ∃ svc seq, s.phase = .zeroing svc seq 0) := by
  obtain ⟨hl, hu⟩ := progress_bounds h
  have hk : s.published.length = k := by
    have hroom : k * (2 * clusterPayloadSize + 3) + 1 + clusterPayloadSize <
        (k + 1) * (2 * clusterPayloadSize + 3) := by
      rw [Nat.add_mul]
      omega
    have hle := Nat.lt_of_mul_lt_mul_right (Nat.lt_of_le_of_lt (hl.trans hhigh) hroom)
    have hge := Nat.lt_of_mul_lt_mul_right (Nat.lt_of_le_of_lt hlow hu)
    omega
  refine ⟨hk, ?_, ?_⟩
  · unfold progress at hhigh
    rw [hk] at hhigh
    cases hphase : s.phase with
    | idle => exact .inl rfl
    | zeroing svc seq count => exact .inr ⟨svc, seq, count, rfl⟩
    | copying svc seq count =>
      simp only [hphase] at hhigh
      omega
  · intro hfirst
    unfold progress at hfirst
    rw [hk] at hfirst
    cases hphase : s.phase with
    | idle => exact .inl rfl
    | zeroing svc seq count =>
      simp only [hphase] at hfirst
      obtain rfl : count = 0 := by omega
      exact .inr ⟨svc, seq, rfl⟩
    | copying svc seq count =>
      simp only [hphase] at hfirst
      omega

end TableWriter

/-! ## Stable reads -/

/-- The header of a finished publication. -/
def publishedHeader (p : Service × UInt32) : PayloadHeader where
  magic := 0x57344450
  version := 1
  recordCount := UInt16.ofNat (snapshotMetadataRecords p.1).length
  publishSeq := p.2
  publishDoneSeq := p.2

lemma readHeader_eq (t : Timeline UInt8) (n : ℕ) :
    readHeader t n =
      (.ofWords (ByteRegion.read (t.seen n) 0 8) (ByteRegion.read (t.seen (n + 1)) 8 8), n + 2) := by
  have hcopy : t.copy 0 16 n =
      (ByteRegion.read (t.seen n) 0 8 ++ ByteRegion.read (t.seen (n + 1)) 8 8, n + 2) := by
    simp [Timeline.copy, Timeline.copyUnits, Timeline.fetch]
  rw [readHeader, hcopy]
  dsimp only
  rw [List.take_left' (by simp), List.drop_left' (by simp)]

lemma leValue_read_lt (m : ℕ → UInt8) (off : ℕ) : leValue (ByteRegion.read m off 4) < 2 ^ 32 := by
  have h := value_lt (ByteRegion.read m off 4).reverse
  rwa [List.length_reverse, ByteRegion.length_read] at h

lemma read_take (m : ℕ → UInt8) (off : ℕ) :
    (ByteRegion.read m off 8).take 4 = ByteRegion.read m off 4 := by
  rw [show (8 : ℕ) = 4 + 4 from rfl, ByteRegion.read_append, List.take_left' (by simp)]

lemma read_drop (m : ℕ → UInt8) (off : ℕ) :
    (ByteRegion.read m off 8).drop 4 = ByteRegion.read m (off + 4) 4 := by
  rw [show (8 : ℕ) = 4 + 4 from rfl, ByteRegion.read_append, List.drop_left' (by simp)]

/-- The fields of a finished header, as numbers in memory. -/
lemma ofWords_finished {m₀ m₁ : ℕ → UInt8}
    (h : (PayloadHeader.ofWords (ByteRegion.read m₀ 0 8) (ByteRegion.read m₁ 8 8)).finished = true) :
    leValue (ByteRegion.read m₁ 8 4) = leValue (ByteRegion.read m₁ 12 4) ∧
      leValue (ByteRegion.read m₁ 12 4) ≠ 0 ∧
      UInt32.ofNat (leValue (ByteRegion.read m₀ 0 4)) = 0x57344450 := by
  simp only [PayloadHeader.finished, PayloadHeader.ofWords, read_take, read_drop, Bool.not_eq_true',
    Bool.or_eq_false_iff, beq_eq_false_iff_ne, bne_eq_false_iff_eq, ne_eq] at h
  obtain ⟨⟨⟨⟨⟨hzero, hsame⟩, hmagic⟩, -⟩, -⟩, -⟩ := h
  have hval (m : ℕ → UInt8) (off : ℕ) :
      (UInt32.ofNat (leValue (ByteRegion.read m off 4))).toNat = leValue (ByteRegion.read m off 4) :=
    UInt32.toNat_ofNat_of_lt' (leValue_read_lt m off)
  have hsame' := congrArg UInt32.toNat hsame
  rw [hval, hval] at hsame'
  refine ⟨hsame', fun hdone => hzero ?_, hmagic⟩
  rw [hsame', hdone]
  rfl

/-- The first word of a published table. -/
lemma read_firstWord (image : Record → Vector UInt8 recordSize) (p : Service × UInt32) :
    ByteRegion.read (ByteRegion.ofList (clusterPayload image p.1 p.2)) 0 8 =
      wordLE 4 0x57344450 ++ wordLE 2 1 ++ wordLE 2 (snapshotMetadataRecords p.1).length := by
  obtain ⟨rest, hparts⟩ := TableWriter.clusterPayload_eq image p.1 p.2
  rw [TableWriter.read_table p.1 p.2 (by unfold clusterPayloadSize; omega), hparts, List.drop_zero,
    List.take_left' (by simp)]

/-- A table's first word and its sequence number make its header. -/
lemma ofWords_published {image : Record → Vector UInt8 recordSize} {p : Service × UInt32}
    {m₀ m₁ : ℕ → UInt8}
    (htable : ∀ a < clusterPayloadSize, m₀ a = ByteRegion.ofList (clusterPayload image p.1 p.2) a)
    (hsame : leValue (ByteRegion.read m₁ 8 4) = leValue (ByteRegion.read m₁ 12 4))
    (hseq : leValue (ByteRegion.read m₁ 12 4) = p.2.toNat) :
    PayloadHeader.ofWords (ByteRegion.read m₀ 0 8) (ByteRegion.read m₁ 8 8) = publishedHeader p := by
  have hfirst : ByteRegion.read m₀ 0 8 =
      wordLE 4 0x57344450 ++ wordLE 2 1 ++ wordLE 2 (snapshotMetadataRecords p.1).length := by
    rw [← read_firstWord image p]
    refine ByteRegion.read_congr fun i hi => htable _ ?_
    unfold clusterPayloadSize
    omega
  have hcount : (snapshotMetadataRecords p.1).length < 256 ^ 2 :=
    Nat.lt_of_le_of_lt (List.length_take_le _ _) (by decide)
  rw [PayloadHeader.ofWords, publishedHeader, hfirst, read_take, read_drop, hsame, hseq]
  congr 1
  · rw [List.drop_left' (by simp), TableWriter.leValue_wordLE hcount]
  · exact UInt32.ofNat_toNat
  · exact UInt32.ofNat_toNat

section Readers

open TableWriter

variable {image : Record → Vector UInt8 recordSize} {moves : List WriterMove} {t : Timeline UInt8}
  (hmem : ∀ k, t.mem k = (after image moves k).region)
  (hfew : (after image moves moves.length).begun < 2 ^ 32)

include hmem hfew in
/-- Between two readings of the header of a finished publication nobody has touched the table. -/
lemma untouched_between {n n' : ℕ} (hn : n + 1 ≤ n')
    (hfinished : (PayloadHeader.ofWords (ByteRegion.read (t.seen n) 0 8)
      (ByteRegion.read (t.seen (n + 1)) 8 8)).finished = true)
    (hconfirm : PayloadHeader.ofWords (ByteRegion.read (t.seen n') 0 8)
        (ByteRegion.read (t.seen (n' + 1)) 8 8) =
      PayloadHeader.ofWords (ByteRegion.read (t.seen n) 0 8) (ByteRegion.read (t.seen (n + 1)) 8 8)) :
    ∃ p ∈ (after image moves moves.length).published,
      PayloadHeader.ofWords (ByteRegion.read (t.seen n) 0 8) (ByteRegion.read (t.seen (n + 1)) 8 8) =
        publishedHeader p ∧
      ∀ m, n + 1 ≤ m → m ≤ n' → ∀ a < clusterPayloadSize,
        t.seen m a = ByteRegion.ofList (clusterPayload image p.1 p.2) a := by
  have hseen (m : ℕ) : t.seen m = (after image moves (t.time m)).region := hmem _
  have hshows (m : ℕ) := shows_after hfew (t.time m)
  have hprogress {m m' : ℕ} (h : m ≤ m') := progress_after_le hfew (t.mono h)
  obtain ⟨hsame₁, hdone₁, -⟩ := ofWords_finished hfinished
  rw [← hconfirm] at hfinished
  obtain ⟨hsame₂, hdone₂, hmagic⟩ := ofWords_finished hfinished
  rw [hseen] at hsame₁ hdone₁ hsame₂ hdone₂ hmagic
  obtain ⟨p, hp, hseq₁, hphase₁⟩ := finished_of_sameSeq (hshows (n + 1)) hsame₁ hdone₁
  obtain ⟨q, hq, hseq₂, hphase₂⟩ := finished_of_sameSeq (hshows (n' + 1)) hsame₂ hdone₂
  -- both headers name the publication by its number
  have hdoneSeq : leValue (ByteRegion.read (after image moves (t.time (n' + 1))).region 12 4) =
      leValue (ByteRegion.read (after image moves (t.time (n + 1))).region 12 4) := by
    have h := congrArg (fun header => header.publishDoneSeq.toNat) hconfirm
    simp only [PayloadHeader.ofWords, read_drop, hseen] at h
    rwa [UInt32.toNat_ofNat_of_lt' (leValue_read_lt _ _),
      UInt32.toNat_ofNat_of_lt' (leValue_read_lt _ _)] at h
  obtain ⟨k, hk⟩ : ∃ k, (after image moves (t.time (n + 1))).published.length = k := ⟨_, rfl⟩
  have hk' : (after image moves (t.time (n' + 1))).published.length = k := by
    rw [← hk, ← getLast?_numbered (hshows _) hq, ← getLast?_numbered (hshows _) hp, ← hseq₁, ← hseq₂,
      hdoneSeq]
  have hlow := (progress_bounds (hshows (n + 1))).1
  have hhigh := progress_le_of_zeroing (hshows (n' + 1)) hphase₂
  rw [hk] at hlow
  rw [hk'] at hhigh
  -- the magic number was read in between
  obtain ⟨-, hphase, -⟩ := phase_of_progress (hshows n') (hlow.trans (hprogress hn))
    ((hprogress (Nat.le_succ n')).trans hhigh)
  have hfirst := untouched_of_magic (hshows n') hphase hmagic
  have hn'k : (after image moves (t.time n')).progress ≤ k * (2 * clusterPayloadSize + 3) + 1 := by
    have hlen := (phase_of_progress (hshows n') (hlow.trans (hprogress hn))
      ((hprogress (Nat.le_succ n')).trans hhigh)).1
    obtain hidle | ⟨svc, seq, hz⟩ := hfirst
    · simp [progress, hlen, hidle]
    · simp [progress, hlen, hz]
  have htable : ∀ m, n + 1 ≤ m → m ≤ n' → ∀ a < clusterPayloadSize,
      t.seen m a = ByteRegion.ofList (clusterPayload image p.1 p.2) a := by
    intro m hm hm' a ha
    have hle := (hprogress hm').trans hn'k
    obtain ⟨hlen, -, hstill⟩ := phase_of_progress (hshows m) (hlow.trans (hprogress hm)) (by omega)
    have hpub : (after image moves (t.time (n + 1))).published =
        (after image moves (t.time m)).published :=
      (published_after_grows (t.mono hm)).eq_of_length (hk.trans hlen.symm)
    rw [hseen, region_eq_lastTable (hshows m) (hstill hle) a ha, lastTable, ← hpub, hp]
  refine ⟨p, ?_, ?_, htable⟩
  · have hmem := List.mem_of_getLast? hp
    rcases Nat.le_total (t.time (n + 1)) moves.length with h | h
    · exact (published_after_grows h).subset hmem
    · rw [after_length h] at hmem
      exact hmem
  · rw [← hconfirm]
    have hsame := hsame₂
    have hseq := hdoneSeq.trans hseq₁
    rw [← hseen] at hsame hseq
    exact ofWords_published (htable n' hn (Nat.le_refl n')) hsame hseq

lemma recordOffset_le {i : ℕ} (hi : i < clusterMaxRecords) :
    recordOffset i + recordSize ≤ clusterPayloadSize := by
  unfold recordOffset clusterPayloadSize
  have := Nat.mul_le_mul_right recordSize (Nat.succ_le_of_lt hi)
  rw [Nat.succ_mul] at this
  omega

/-- The table behind its header: the summary, the records and zeros. -/
lemma drop_header (p : Service × UInt32) :
    (clusterPayload image p.1 p.2).drop 16 =
      (buildCompactSummary (snapshotMetadataRecords p.1)).image ++
        (((snapshotMetadataRecords p.1).map fun r => (image r).toList).flatten ++
          List.replicate ((clusterMaxRecords - (snapshotMetadataRecords p.1).length) * recordSize) 0) := by
  simp only [clusterPayload, List.append_assoc]
  rw [← List.append_assoc, ← List.append_assoc, ← List.append_assoc, ← List.append_assoc,
    List.drop_left' (by simp)]

lemma drop_records (l : List Record) (i : ℕ) :
    ((l.map fun r => (image r).toList).flatten).drop (i * recordSize) =
      ((l.drop i).map fun r => (image r).toList).flatten := by
  induction l generalizing i with
  | nil => simp
  | cons r l ih =>
    cases i with
    | zero => simp
    | succ i =>
      have hlen : (image r).toList.length = recordSize := by simp
      rw [List.map_cons, List.flatten_cons, Nat.succ_mul, Nat.add_comm, ← List.drop_drop,
        List.drop_left' hlen, ih, List.drop_succ_cons]

/-- The `i`-th record of a published table. -/
lemma read_record (p : Service × UInt32) {i : ℕ} (hi : i < (snapshotMetadataRecords p.1).length) :
    ByteRegion.read (ByteRegion.ofList (clusterPayload image p.1 p.2)) (recordOffset i) recordSize =
      (image ((snapshotMetadataRecords p.1)[i])).toList := by
  have hmax : i < clusterMaxRecords := Nat.lt_of_lt_of_le hi (List.length_take_le _ _)
  have hlen : (image ((snapshotMetadataRecords p.1)[i])).toList.length = recordSize := by simp
  have hroom : i * recordSize ≤
      (((snapshotMetadataRecords p.1).map fun r => (image r).toList).flatten).length := by
    have hall : (List.map List.length ((snapshotMetadataRecords p.1).map fun r => (image r).toList)) =
        List.replicate (snapshotMetadataRecords p.1).length recordSize := by
      simp [List.map_map, Function.comp_def]
    rw [List.length_flatten, hall, List.sum_replicate_nat]
    exact Nat.mul_le_mul_right _ hi.le
  rw [read_table p.1 p.2 (recordOffset_le hmax),
    show recordOffset i = 16 + (48 + i * recordSize) by unfold recordOffset; omega, ← List.drop_drop,
    drop_header, ← List.drop_drop, List.drop_left' (CompactSummary.length_image _),
    List.drop_append_of_le_length hroom, drop_records, List.drop_eq_getElem_cons hi, List.map_cons,
    List.flatten_cons, List.append_assoc, List.take_left' hlen]

/-- The compact summary of a published table. -/
lemma read_summary (image : Record → Vector UInt8 recordSize) (p : Service × UInt32) :
    ByteRegion.read (ByteRegion.ofList (clusterPayload image p.1 p.2)) 16 48 =
      (buildCompactSummary (snapshotMetadataRecords p.1)).image := by
  rw [read_table p.1 p.2 (by unfold clusterPayloadSize; omega), drop_header,
    List.take_left' (CompactSummary.length_image _)]

lemma readRecords_succ (count i n : ℕ) :
    readRecords t (count + 1) i n =
      ((t.copy (recordOffset i) recordSize n).1 ::
          (readRecords t count (i + 1) (t.copy (recordOffset i) recordSize n).2).1,
        (readRecords t count (i + 1) (t.copy (recordOffset i) recordSize n).2).2) := rfl

lemma readRecords_snd_le (count i n : ℕ) : n ≤ (readRecords t count i n).2 := by
  induction count generalizing i n with
  | zero => exact Nat.le_refl n
  | succ count ih =>
    rw [readRecords_succ]
    exact (Timeline.le_copy_snd _ _ n).trans (ih _ _)

/-- Records that are copied while nobody touches the table are its records. -/
lemma readRecords_eq {p : Service × UInt32} {count i n : ℕ}
    (hi : i + count = (snapshotMetadataRecords p.1).length)
    (hstill : ∀ m, n ≤ m → m < (readRecords t count i n).2 → ∀ a < clusterPayloadSize,
      t.seen m a = ByteRegion.ofList (clusterPayload image p.1 p.2) a) :
    (readRecords t count i n).1 =
      ((snapshotMetadataRecords p.1).drop i).map fun r => (image r).toList := by
  induction count generalizing i n with
  | zero =>
    rw [List.drop_of_length_le (by omega)]
    rfl
  | succ count ih =>
    have hlt : i < (snapshotMetadataRecords p.1).length := by omega
    have hmax : i < clusterMaxRecords := Nat.lt_of_lt_of_le hlt (List.length_take_le _ _)
    have hfit := recordOffset_le hmax
    rw [readRecords_succ] at hstill ⊢
    have hrecord : (t.copy (recordOffset i) recordSize n).1 =
        (image ((snapshotMetadataRecords p.1)[i])).toList := by
      rw [← read_record p hlt]
      refine Timeline.copy_eq_read fun m hm hm' a _ ha => hstill m hm ?_ a (by omega)
      exact Nat.lt_of_lt_of_le hm' (readRecords_snd_le _ _ _)
    have hrest := ih (show i + 1 + count = _ by omega) fun m hm hm' =>
      hstill m ((Timeline.le_copy_snd _ _ n).trans hm) hm'
    dsimp only
    rw [hrecord, hrest, List.drop_eq_getElem_cons hlt, List.map_cons]

lemma toNat_recordCount (p : Service × UInt32) :
    (publishedHeader p).recordCount.toNat = (snapshotMetadataRecords p.1).length := by
  refine UInt16.toNat_ofNat_of_lt' (Nat.lt_of_le_of_lt (List.length_take_le _ _) ?_)
  decide

include hmem hfew in
lemma payload_of_one {n : ℕ} {header : PayloadHeader} {records : List Bytes}
    (h : tryReadStablePayloadRegion t n = some (header, records)) :
    ∃ p ∈ (after image moves moves.length).published, header = publishedHeader p ∧
      records = (snapshotMetadataRecords p.1).map fun r => (image r).toList := by
  simp only [tryReadStablePayloadRegion, readHeader_eq] at h
  split at h
  · cases h
  rename_i hfinished
  split at h
  · cases h
  rename_i hconfirm
  cases h
  simp only [Bool.not_eq_true', Bool.not_eq_false, ne_eq, not_not] at hfinished hconfirm
  have hle : n + 1 ≤ (readRecords t (PayloadHeader.ofWords (ByteRegion.read (t.seen n) 0 8)
      (ByteRegion.read (t.seen (n + 1)) 8 8)).recordCount.toNat 0 (n + 2)).2 :=
    (Nat.le_succ (n + 1)).trans (readRecords_snd_le _ _ _)
  obtain ⟨p, hp, hheader, htable⟩ := untouched_between hmem hfew hle hfinished hconfirm
  refine ⟨p, hp, hheader, ?_⟩
  refine readRecords_eq ?_ fun m hm hm' => htable m (by omega) hm'.le
  rw [hheader, toNat_recordCount, Nat.zero_add]

include hmem hfew in
lemma summary_of_one {n : ℕ} {header : PayloadHeader} {summary : Bytes}
    (h : tryReadStableCompactSummaryRegion t n = some (header, summary)) :
    ∃ p ∈ (after image moves moves.length).published, header = publishedHeader p ∧
      summary = (buildCompactSummary (snapshotMetadataRecords p.1)).image := by
  simp only [tryReadStableCompactSummaryRegion, readHeader_eq] at h
  split at h
  · cases h
  rename_i hfinished
  split at h
  · cases h
  rename_i hconfirm
  cases h
  simp only [Bool.not_eq_true', Bool.not_eq_false, Bool.or_eq_true, decide_eq_true_eq, not_or,
    not_not, ne_eq] at hfinished hconfirm
  have hle : n + 1 ≤ (t.copy 16 48 (n + 2)).2 :=
    (Nat.le_succ (n + 1)).trans (Timeline.le_copy_snd _ _ _)
  obtain ⟨p, hp, hheader, htable⟩ := untouched_between hmem hfew hle hfinished hconfirm.1
  refine ⟨p, hp, hheader, ?_⟩
  refine (Timeline.copy_eq_read fun m hm hm' a _ ha => ?_).trans (read_summary image p)
  refine htable m (by omega) hm'.le a ?_
  unfold clusterPayloadSize
  omega

/-- What a search has read that finds the record of slot `j`: the key, from access `m` on, the record
and the header again. -/
def FoundAt (t : Timeline UInt8) (key : Bytes) (header : PayloadHeader) (record : Bytes) (j m : ℕ) :
    Prop :=
  sameKey (t.copy (recordOffset j + 8) 96 m).1 key = true ∧
    record = (t.copy (recordOffset j) recordSize (t.copy (recordOffset j + 8) 96 m).2).1 ∧
    (readHeader t (t.copy (recordOffset j) recordSize (t.copy (recordOffset j + 8) 96 m).2).2).1 =
      header

lemma slotFindLoop_eq_some {key : Bytes} {header : PayloadHeader} {count i n : ℕ} {record : Bytes}
    (h : slotFindLoop t key header count i n = some record) :
    ∃ j m, j < i + count ∧ n ≤ m ∧ FoundAt t key header record j m := by
  induction count generalizing i n with
  | zero => cases h
  | succ count ih =>
    have hnext {m : ℕ} (hm : n ≤ m) (h : slotFindLoop t key header count (i + 1) m = some record) :
        ∃ j m, j < i + (count + 1) ∧ n ≤ m ∧ FoundAt t key header record j m := by
      obtain ⟨j, m', hj, hm', hfound⟩ := ih h
      exact ⟨j, m', by omega, hm.trans hm', hfound⟩
    have hinUse := Timeline.le_copy_snd (t := t) (recordOffset i) 1 n
    simp only [slotFindLoop] at h
    split at h
    · exact hnext hinUse h
    have hkind := Timeline.le_copy_snd (t := t) (recordOffset i + 4) 4 (t.copy (recordOffset i) 1 n).2
    split at h
    · cases h
    split at h
    · rename_i hkey
      split at h
      · cases h
      rename_i hconfirm
      cases h
      exact ⟨i, _, by omega, hinUse.trans hkind, hkey, rfl, not_not.mp hconfirm⟩
    · exact hnext (hinUse.trans (hkind.trans (Timeline.le_copy_snd _ _ _))) h

include hmem hfew in
lemma record_of_one {key : Bytes} {n : ℕ} {record : Bytes}
    (h : slotFindRecord t key n = some record) :
    ∃ p ∈ (after image moves moves.length).published, ∃ r ∈ snapshotMetadataRecords p.1,
      record = (image r).toList ∧ sameKey ((record.drop 8).take 96) key = true := by
  simp only [slotFindRecord, readHeader_eq] at h
  split at h
  · cases h
  rename_i hfinished
  simp only [Bool.not_eq_true', Bool.not_eq_false] at hfinished
  obtain ⟨j, m, hj, hm, hkey, hrecord, hconfirm⟩ := slotFindLoop_eq_some h
  rw [readHeader_eq] at hconfirm
  have hkeyLe := Timeline.le_copy_snd (t := t) (recordOffset j + 8) 96 m
  have hrecordLe := Timeline.le_copy_snd (t := t) (recordOffset j) recordSize
    (t.copy (recordOffset j + 8) 96 m).2
  obtain ⟨p, hp, hheader, htable⟩ := untouched_between hmem hfew
    (show n + 1 ≤ (t.copy (recordOffset j) recordSize (t.copy (recordOffset j + 8) 96 m).2).2 by omega)
    hfinished hconfirm
  rw [hheader, toNat_recordCount, Nat.zero_add] at hj
  have hfit := recordOffset_le (Nat.lt_of_lt_of_le hj (List.length_take_le _ _))
  have hread : record = ByteRegion.read (ByteRegion.ofList (clusterPayload image p.1 p.2))
      (recordOffset j) recordSize := by
    rw [hrecord]
    exact Timeline.copy_eq_read fun k hk hk' a _ ha => htable k (by omega) hk'.le a (by omega)
  have hreadKey : (t.copy (recordOffset j + 8) 96 m).1 =
      ByteRegion.read (ByteRegion.ofList (clusterPayload image p.1 p.2)) (recordOffset j + 8) 96 := by
    refine Timeline.copy_eq_read fun k hk hk' a _ ha => htable k (by omega) (by omega) a ?_
    have : recordSize = 1232 := rfl
    omega
  refine ⟨p, hp, (snapshotMetadataRecords p.1)[j], List.getElem_mem hj, ?_, ?_⟩
  · rw [hread, read_record p hj]
  · rw [hread, ByteRegion.read_part (by decide), ← hreadKey]
    exact hkey

end Readers

/-- **Stable remote reads.**  The writer publishes any number of tables below `2 ^ 32`, a reader reads
between any of its stores.  What one of the three readers returns is the header and the records of one
publication. -/
theorem stable_remote_reads (image : Record → Vector UInt8 recordSize) (moves : List WriterMove)
    (hfew : (TableWriter.after image moves moves.length).begun < 2 ^ 32) (t : Timeline UInt8)
    (hmem : ∀ k, t.mem k = (TableWriter.after image moves k).region) (n : ℕ) :
    (∀ header records, tryReadStablePayloadRegion t n = some (header, records) →
      ∃ p ∈ (TableWriter.after image moves moves.length).published, header = publishedHeader p ∧
        records = (snapshotMetadataRecords p.1).map fun r => (image r).toList) ∧
    (∀ header summary, tryReadStableCompactSummaryRegion t n = some (header, summary) →
      ∃ p ∈ (TableWriter.after image moves moves.length).published, header = publishedHeader p ∧
        summary = (buildCompactSummary (snapshotMetadataRecords p.1)).image) ∧
    ∀ key record, slotFindRecord t key n = some record →
      ∃ p ∈ (TableWriter.after image moves moves.length).published,
        ∃ r ∈ snapshotMetadataRecords p.1,
          record = (image r).toList ∧ sameKey ((record.drop 8).take 96) key = true :=
  ⟨fun _ _ h => payload_of_one hmem hfew h, fun _ _ h => summary_of_one hmem hfew h,
    fun _ _ h => record_of_one hmem hfew h⟩

/-! ## A table at rest -/

lemma finished_publishedHeader {p : Service × UInt32} (hseq : p.2 ≠ 0)
    (hsome : snapshotMetadataRecords p.1 ≠ []) : (publishedHeader p).finished = true := by
  have hcount := toNat_recordCount p
  have hle : (snapshotMetadataRecords p.1).length ≤ clusterMaxRecords := List.length_take_le _ _
  have hne : (publishedHeader p).recordCount ≠ 0 := by
    intro h
    rw [h] at hcount
    exact hsome (List.length_eq_zero_iff.mp hcount.symm)
  have hmax : ¬ (publishedHeader p).recordCount.toNat > clusterMaxRecords := by
    rw [hcount]
    omega
  have hsame : (publishedHeader p).publishSeq = (publishedHeader p).publishDoneSeq := rfl
  have hmagic : (publishedHeader p).magic = 0x57344450 := rfl
  have hversion : (publishedHeader p).version = 1 := rfl
  have hseq' : (publishedHeader p).publishDoneSeq ≠ 0 := hseq
  simp [PayloadHeader.finished, hsame, hmagic, hversion, hseq', hne, hmax]

section Rest

variable {image : Record → Vector UInt8 recordSize} {t : Timeline UInt8} {p : Service × UInt32} {n : ℕ}
  (hrest : ∀ m, n ≤ m → ∀ a < clusterPayloadSize,
    t.seen m a = ByteRegion.ofList (clusterPayload image p.1 p.2) a)

include hrest in
lemma readHeader_at_rest {m : ℕ} (hm : n ≤ m) : (readHeader t m).1 = publishedHeader p := by
  have hpart (off : ℕ) (hoff : off + 4 ≤ 16) : ByteRegion.read (t.seen (m + 1)) off 4 =
      ByteRegion.read (ByteRegion.ofList (clusterPayload image p.1 p.2)) off 4 := by
    refine ByteRegion.read_congr fun i hi => hrest (m + 1) (by omega) _ ?_
    unfold clusterPayloadSize
    omega
  rw [readHeader_eq]
  refine ofWords_published (hrest m hm) ?_ ?_
  · rw [hpart 8 (by omega), hpart 12 (by omega), TableWriter.read_doneSeq, TableWriter.read_publishSeq]
  · rw [hpart 12 (by omega), TableWriter.read_doneSeq, TableWriter.leValue_wordLE p.2.toNat_lt]

include hrest in
/-- A reader that nobody disturbs gets the table. -/
theorem payload_at_rest (hseq : p.2 ≠ 0) (hsome : snapshotMetadataRecords p.1 ≠ []) :
    tryReadStablePayloadRegion t n =
      some (publishedHeader p, (snapshotMetadataRecords p.1).map fun r => (image r).toList) := by
  have hheader := readHeader_at_rest hrest (Nat.le_refl n)
  have hnext : (readHeader t n).2 = n + 2 := by rw [readHeader_eq]
  have hrecords : (readRecords t (publishedHeader p).recordCount.toNat 0 (n + 2)).1 =
      (snapshotMetadataRecords p.1).map fun r => (image r).toList :=
    readRecords_eq (by rw [toNat_recordCount, Nat.zero_add]) fun m hm _ => hrest m (by omega)
  have hconfirm := readHeader_at_rest hrest (m := (readRecords t
    (publishedHeader p).recordCount.toNat 0 (n + 2)).2)
    ((Nat.le_add_right n 2).trans (readRecords_snd_le _ _ _))
  rw [tryReadStablePayloadRegion]
  dsimp only
  rw [hheader, hnext, finished_publishedHeader hseq hsome, hconfirm, hrecords]
  simp

end Rest

namespace TableWriter

variable {image : Record → Vector UInt8 recordSize}

/-- Stores that zero. -/
lemma run_zeroing (image : Record → Vector UInt8 recordSize) {s : TableWriter} {svc : Service}
    {seq : UInt32} {count : ℕ} (k : ℕ)
    (hphase : s.phase = .zeroing svc seq count) (hk : count + k ≤ clusterPayloadSize) :
    (Run.run (step image) s (List.replicate k .store)).phase = .zeroing svc seq (count + k) ∧
      (Run.run (step image) s (List.replicate k .store)).published = s.published := by
  induction k generalizing s count with
  | zero => exact ⟨hphase, rfl⟩
  | succ k ih =>
    have hstep : s.step image .store =
        { s with
          region := ByteRegion.write s.region count [0]
          phase := .zeroing svc seq (count + 1) } := by
      simp only [step, hphase]
      rw [if_pos (by omega)]
    have hnext : (s.step image .store).phase = .zeroing svc seq (count + 1) := by rw [hstep]
    obtain ⟨hp, hpub⟩ := ih hnext (by omega)
    rw [List.replicate_succ, Run.run_cons, hp, hpub, hstep, Nat.add_right_comm]
    exact ⟨rfl, rfl⟩

/-- Stores that copy. -/
lemma run_copying (image : Record → Vector UInt8 recordSize) {s : TableWriter} {svc : Service}
    {seq : UInt32} {count : ℕ} (k : ℕ)
    (hphase : s.phase = .copying svc seq count) (hk : count + k ≤ clusterPayloadSize) :
    (Run.run (step image) s (List.replicate k .store)).phase = .copying svc seq (count + k) ∧
      (Run.run (step image) s (List.replicate k .store)).published = s.published := by
  induction k generalizing s count with
  | zero => exact ⟨hphase, rfl⟩
  | succ k ih =>
    have hstep : s.step image .store =
        { s with
          region := ByteRegion.write s.region count [stagedPayload image svc seq count]
          phase := .copying svc seq (count + 1) } := by
      simp only [step, hphase]
      rw [if_pos (by omega)]
    have hnext : (s.step image .store).phase = .copying svc seq (count + 1) := by rw [hstep]
    obtain ⟨hp, hpub⟩ := ih hnext (by omega)
    rw [List.replicate_succ, Run.run_cons, hp, hpub, hstep, Nat.add_right_comm]
    exact ⟨rfl, rfl⟩

/-- The moves of one publication. -/
def publication (svc : Service) : List WriterMove :=
  .publish svc :: (List.replicate clusterPayloadSize .store ++ (.store ::
    (List.replicate clusterPayloadSize .store ++ [.store])))

/-- A publication that is not interrupted finishes. -/
lemma run_publication {s : TableWriter} (svc : Service) (hidle : s.phase = .idle)
    (hseq : s.publishSeq + 1 ≠ 0) :
    (Run.run (step image) s (publication svc)).phase = .idle ∧
      (Run.run (step image) s (publication svc)).published =
        s.published ++ [(svc, s.publishSeq + 1)] := by
  have hbegin : (s.step image (.publish svc)).phase = .zeroing svc (s.publishSeq + 1) 0 ∧
      (s.step image (.publish svc)).published = s.published := by
    simp only [step, hidle, if_neg hseq, and_self]
  -- the number of stores must not be computed with
  obtain ⟨size, hsize⟩ : ∃ size, clusterPayloadSize = size := ⟨_, rfl⟩
  rw [publication, hsize, Run.run_cons, Run.run_append]
  obtain ⟨hz, hzpub⟩ := run_zeroing image size hbegin.1 (by omega)
  generalize Run.run (step image) (s.step image (.publish svc)) (List.replicate size .store) = s₁
    at hz hzpub ⊢
  have hturn : (s₁.step image .store).phase = .copying svc (s.publishSeq + 1) 0 ∧
      (s₁.step image .store).published = s₁.published := by
    simp only [step, hz]
    rw [if_neg (by omega)]
    exact ⟨rfl, rfl⟩
  rw [Run.run_cons, Run.run_append]
  obtain ⟨hc, hcpub⟩ := run_copying image size hturn.1 (by omega)
  generalize Run.run (step image) (s₁.step image .store) (List.replicate size .store) = s₂
    at hc hcpub ⊢
  have hpub : s₂.published = s.published := hcpub.trans (hturn.2.trans (hzpub.trans hbegin.2))
  rw [Run.run_cons, Run.run_nil]
  simp only [step, hc]
  rw [if_neg (by omega), hpub]
  exact ⟨rfl, rfl⟩

end TableWriter

/-- A service with one record. -/
def oneRecord : Service :=
  { Service.fresh with
    records := SlotTable.empty.put 0 { kind := RecordKind.blockMeta, key := .copy (ascii "a") } }

def plainImage : Record → Vector UInt8 recordSize := fun _ => .replicate recordSize 1

/-- A service with another one. -/
def otherRecord : Service :=
  { Service.fresh with
    records := SlotTable.empty.put 0 { kind := RecordKind.blockMeta, key := .copy (ascii "b") } }

/-- The writer publishes one table and begins to publish another. -/
def overlappingMoves (svc svc' : Service) : List WriterMove :=
  TableWriter.publication svc ++ [.publish svc']

/-- When a reader makes its accesses that looks for the first time when one move has been made, and goes
on behind the `n`-th, with one more move between its accesses. -/
def lookTimes (n m : ℕ) : ℕ := if m < 2 then 1 else if m < 4 then n else n + 1

lemma monotone_lookTimes {n : ℕ} (hn : 0 < n) : Monotone (lookTimes n) := by
  intro m m' hm
  unfold lookTimes
  split_ifs <;> omega

lemma TableWriter.publication_pos (svc : Service) : 0 < (publication svc).length := by
  unfold publication
  exact List.length_pos_of_ne_nil (List.cons_ne_nil _ _)

/-- A reader that looks for the first time when the first publication has begun, and goes on behind it;
the second publication begins between its accesses. -/
def readingDuring (image : Record → Vector UInt8 recordSize) (svc svc' : Service) : Timeline UInt8 where
  mem k := (TableWriter.after image (overlappingMoves svc svc') k).region
  time := lookTimes (TableWriter.publication svc).length
  mono := monotone_lookTimes (TableWriter.publication_pos svc)

section During

variable {image : Record → Vector UInt8 recordSize} {svc svc' : Service}

lemma region_publish (s : TableWriter) (svc : Service) :
    (s.step image (.publish svc)).region = s.region := by
  simp only [TableWriter.step]
  split <;> rfl

/-- The writer behind the first publication. -/
lemma after_publication :
    (TableWriter.after image (overlappingMoves svc svc')
        (TableWriter.publication svc).length).phase = .idle ∧
      (TableWriter.after image (overlappingMoves svc svc')
        (TableWriter.publication svc).length).published = [(svc, 1)] := by
  unfold TableWriter.after overlappingMoves
  rw [List.take_left]
  exact TableWriter.run_publication svc rfl (by decide)

/-- The writer when the second one has begun. -/
lemma after_overlappingMoves : TableWriter.after image (overlappingMoves svc svc')
      (overlappingMoves svc svc').length =
    (TableWriter.after image (overlappingMoves svc svc') (TableWriter.publication svc).length).step image
      (.publish svc') := by
  rw [TableWriter.after, TableWriter.after, List.take_length, overlappingMoves, List.take_left,
    Run.run_append, Run.run_cons, Run.run_nil]

lemma begun_publish_le {s : TableWriter} (hidle : s.phase = .idle) (svc : Service) :
    (s.step image (.publish svc)).begun ≤ s.published.length + 1 := by
  simp only [TableWriter.step, hidle]
  split <;> simp [TableWriter.begun]

lemma begun_overlappingMoves : (TableWriter.after image (overlappingMoves svc svc')
    (overlappingMoves svc svc').length).begun < 2 ^ 32 := by
  obtain ⟨hidle, hpub⟩ := @after_publication image svc svc'
  have hle := @begun_publish_le image _ hidle svc'
  rw [hpub, List.length_singleton] at hle
  rw [after_overlappingMoves]
  exact lt_of_le_of_lt hle (by decide)

/-- From its second look on the reader sees the first table. -/
lemma seen_during {m : ℕ} (hm : 2 ≤ m) : ∀ a < clusterPayloadSize,
    (readingDuring image svc svc').seen m a = ByteRegion.ofList (clusterPayload image svc 1) a := by
  intro a ha
  obtain ⟨hidle, hpub⟩ := @after_publication image svc svc'
  have hfirst : (TableWriter.after image (overlappingMoves svc svc')
      (TableWriter.publication svc).length).region a = ByteRegion.ofList (clusterPayload image svc 1) a := by
    rw [(TableWriter.shows_after begun_overlappingMoves _).idle hidle a ha, TableWriter.lastTable, hpub,
      List.getLast?_singleton]
  have hlength : (overlappingMoves svc svc').length = (TableWriter.publication svc).length + 1 := by
    rw [overlappingMoves, List.length_append, List.length_singleton]
  change (TableWriter.after image (overlappingMoves svc svc')
    (lookTimes (TableWriter.publication svc).length m)).region a = _
  rw [lookTimes, if_neg (by omega)]
  split_ifs with hsecond
  · exact hfirst
  · rw [← hlength, after_overlappingMoves, region_publish]
    exact hfirst

/-- At its first look it sees an empty region. -/
lemma seen_first {m : ℕ} (hm : m < 2) : (readingDuring image svc svc').seen m = fun _ => 0 := by
  change (TableWriter.after image (overlappingMoves svc svc')
    (lookTimes (TableWriter.publication svc).length m)).region = _
  rw [lookTimes, if_pos hm]
  unfold TableWriter.after overlappingMoves TableWriter.publication
  rw [List.cons_append, List.take_succ_cons, List.take_zero, Run.run_cons, Run.run_nil, region_publish]
  rfl

end During

/-- The first look fails; the second one gets the first table, although the writer has begun with the next
when it is over. -/
theorem stable_remote_reads_overlapping :
    tryReadStablePayloadRegion (readingDuring plainImage oneRecord otherRecord) 0 = none ∧
    ∃ header records,
      tryReadStablePayloadRegion (readingDuring plainImage oneRecord otherRecord) 2 =
        some (header, records) ∧
      ∃ p ∈ (TableWriter.after plainImage (overlappingMoves oneRecord otherRecord)
          (overlappingMoves oneRecord otherRecord).length).published,
        header = publishedHeader p ∧
          records = (snapshotMetadataRecords p.1).map fun r => (plainImage r).toList := by
  have hsome : snapshotMetadataRecords oneRecord ≠ [] := by decide +kernel
  have hread := @payload_at_rest plainImage (readingDuring plainImage oneRecord otherRecord)
    (oneRecord, 1) 2 (fun m hm => seen_during hm) (by decide) hsome
  have hreads := (stable_remote_reads plainImage (overlappingMoves oneRecord otherRecord)
    begun_overlappingMoves (readingDuring plainImage oneRecord otherRecord) (fun _ => rfl) 2).1 _ _ hread
  refine ⟨?_, _, _, hread, hreads⟩
  rw [tryReadStablePayloadRegion, readHeader_eq, seen_first (by decide), seen_first (by decide)]
  rfl

end MemService
