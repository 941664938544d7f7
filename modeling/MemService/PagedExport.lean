import Mathlib.Algebra.Order.BigOperators.Group.List
import MemService.FieldLines
import MemService.RoundTrip

/-!
# The paged export is complete

A page of the snapshot export is cut by a number of records and by the size of the response buffer.
The size never stops the first record of a page, because every record's text fits the page with room
to spare; so every page but the last carries a record, and following the next index the pages carry
every record once, in slot order.

The client is modelled too: it reads `next_index` and `complete` from the text of the response, with
the getters both sides share, and asks again until the page says it is complete.
-/

open ByteText CNumeral

namespace MemService

/-! ## The size of a record -/

/-- A bound on a field's printed text. -/
def RecordField.textCap : RecordField → ℕ
  | key | blockHash | artifactId => 95
  | requestId | prefixGroup | groupId | sessionId | modelKey | artifactKind => 63
  | _ => 20

lemma RecordField.length_text_le_textCap (f : RecordField) (r : Record) :
    (f.text r).length ≤ f.textCap := by
  have htext : ∀ {cap : ℕ} (t : FieldText cap), t.bytes.length ≤ cap - 1 := by
    intro cap t
    have := t.length_lt
    omega
  have hoff : r.objectPublishSupernodeOffsetMs.toInt.natAbs < 10 ^ 19 := by
    have hlo := r.objectPublishSupernodeOffsetMs.le_toInt
    have hhi := r.objectPublishSupernodeOffsetMs.toInt_lt
    norm_num at hlo hhi ⊢
    omega
  cases f <;> simp only [text, textCap] <;> first
    | with_reducible exact length_decimal_u64 _
    | with_reducible exact Nat.le_trans (length_decimal_u32 _) (by norm_num)
    | with_reducible exact htext _
    | with_reducible exact length_signedDecimal_le (by norm_num) hoff
    | exact Nat.le_trans (length_decimal_le (k := 1) (by norm_num) (Nat.lt_trans r.memberCount.isLt
        (by norm_num))) (by norm_num)

lemma length_unlines (ls : List Bytes) : (unlines ls).length = (ls.map fun l => l.length + 1).sum := by
  simp [unlines, List.length_flatten, Function.comp_def]

/-- The text of a record in a snapshot. -/
def recordText (r : Record) : Bytes := unlines (snapshotRecord r)

/-- **Every record fits a page.** -/
lemma length_recordText_le (r : Record) : (recordText r).length ≤ 2048 := by
  have hfields : (unlines (recordFieldLines RecordField.printed r)).length ≤ 1600 := by
    rw [length_unlines, recordFieldLines, List.map_map]
    refine Nat.le_trans (List.sum_le_sum (g := fun f : RecordField =>
      (ascii f.name).length + f.textCap + 2) fun f _ => ?_) (by decide)
    have := f.length_text_le_textCap r
    simp only [Function.comp_apply, fieldLine, List.length_append, List.length_cons]
    omega
  have hmembers : (unlines (memberLines r)).length ≤ 420 := by
    have hname : ∀ i : Fin maxGroupMembers, (ascii "member" ++ decimal i.val).length = 7 := by
      decide
    rw [length_unlines, memberLines, List.map_map]
    refine Nat.le_trans (List.sum_le_card_nsmul _ 104 fun n hn => ?_) ?_
    · obtain ⟨i, -, rfl⟩ := List.mem_map.mp hn
      have hname := hname i
      have := (r.memberBlockHashes i).length_lt
      rw [List.length_append] at hname
      simp only [Function.comp_apply, List.length_append, List.length_cons]
      omega
    · have := List.length_filter_le (fun i : Fin maxGroupMembers => decide (i.val < r.memberCount.val))
        (List.finRange maxGroupMembers)
      rw [List.length_finRange] at this
      have h4 : maxGroupMembers = 4 := rfl
      rw [List.length_map]
      show _ * 104 ≤ 420
      omega
  have hends : (unlines [ascii "record_begin"]).length + (unlines [ascii "record_end"]).length = 24 := by
    decide
  rw [recordText, snapshotRecord, unlines_append, unlines_append, unlines_append]
  simp only [List.length_append]
  omega

/-! ## One page -/

/-- The lines in front of the records of a page. -/
def pageHeader (svc : Service) (startIndex nextIndex emitted : ℕ) (complete : Bool) :
    List (String × Bytes) :=
  [("snapshot_page", decimal 1), ("store_magic", storeMagic), ("store_schema_version", decimal 1),
    ("record_count", decimal svc.recordCount), ("start_index", decimal startIndex),
    ("next_index", decimal nextIndex), ("records_emitted", decimal emitted),
    ("complete", decimal complete.toNat)]

/-- The text of a page with the records `g`. -/
def pageText (svc : Service) (startIndex nextIndex : ℕ) (complete : Bool)
    (g : List (ℕ × Record)) : Bytes :=
  unlines ((pageHeader svc startIndex nextIndex g.length complete).map fun f => fieldLine f.1 f.2) ++
    g.flatMap fun r => recordText r.2

lemma fillBuffer_fits {cap : ℕ} {used : Bytes} {ts : List Bytes}
    (h : used.length + ts.flatten.length < cap) :
    fillBuffer cap used ts = (used ++ ts.flatten, true) := by
  induction ts generalizing used with
  | nil => simp [fillBuffer]
  | cons t ts ih =>
      rw [List.flatten_cons, List.length_append] at h
      rw [fillBuffer, if_neg (by omega), ih (by rw [List.length_append]; omega)]
      simp

lemma length_fillBuffer_lt {cap : ℕ} {used : Bytes} (ts : List Bytes) (h : used.length < cap) :
    (fillBuffer cap used ts).1.length < cap := by
  induction ts generalizing used with
  | nil => exact h
  | cons t ts ih =>
      unfold fillBuffer
      split
      · exact h
      · rename_i hfit
        exact ih (by rw [List.length_append]; omega)

/-- How the record loop cuts the records it is given: those it printed, and the rest. -/
structure PageLoop.Cut (s s' : PageLoop) (cap : ℕ) (g rest : List (ℕ × Record)) : Prop where
  text : s'.text = s.text ++ g.flatMap fun r => recordText r.2
  short : s'.text.length < cap
  emitted : s'.emitted = s.emitted + g.length
  progress : s.emitted = 0 → g ++ rest ≠ [] → g ≠ []
  done : rest = [] → s'.stoppedOnCapacity = false ∧
    s'.nextIndex = (g.getLast?.map fun r => r.1 + 1).getD s.nextIndex
  next : ∀ i r tail, rest = (i, r) :: tail → s'.nextIndex = i

/-- **The record loop** never fails on its first record, since every record fits. -/
lemma pageLoop_cut {cap maxRecords : ℕ} (hcap : 2048 < cap) (rs : List (ℕ × Record)) (s : PageLoop)
    (hshort : s.text.length < cap) (hempty : s.emitted = 0 → s.text = [])
    (hrun : s.stoppedOnCapacity = false) :
    ∃ s' g rest, pageLoop cap maxRecords rs s = some s' ∧ rs = g ++ rest ∧ s.Cut s' cap g rest := by
  induction rs generalizing s with
  | nil =>
      refine ⟨s, [], [], rfl, rfl, by simp, hshort, rfl, fun _ h => absurd rfl h,
        fun _ => ⟨hrun, rfl⟩, by simp⟩
  | cons a rs ih =>
      obtain ⟨i, r⟩ := a
      unfold pageLoop
      by_cases hmax : maxRecords ≠ 0 ∧ s.emitted ≥ maxRecords
      · rw [if_pos hmax]
        refine ⟨_, [], (i, r) :: rs, rfl, rfl, by simp, hshort, rfl, fun h0 => ?_, by simp, ?_⟩
        · omega
        · rintro j q tail ⟨⟩
          rfl
      rw [if_neg hmax]
      rcases hfill : fillBuffer cap s.text (recordPieces r) with ⟨text, fits⟩
      cases fits with
      | true =>
          have hlen := length_fillBuffer_lt (recordPieces r) hshort
          have htext := fillBuffer_complete (congrArg Prod.snd hfill)
          rw [hfill] at hlen htext
          rw [flatten_recordPieces] at htext
          dsimp only at htext hlen
          obtain ⟨s', g, rest, hs', rfl, hcut⟩ :=
            ih { s with text := text, emitted := s.emitted + 1, nextIndex := i + 1 } hlen
              (fun h => absurd h (Nat.succ_ne_zero _)) hrun
          refine ⟨s', (i, r) :: g, rest, hs', rfl, ?_, hcut.short, ?_, by simp, fun hrest => ?_,
            hcut.next⟩
          · rw [hcut.text]
            simp only [htext, recordText, List.flatMap_cons, List.append_assoc]
          · rw [hcut.emitted]
            simp only [List.length_cons]
            omega
          · obtain ⟨hno, hnext⟩ := hcut.done hrest
            refine ⟨hno, hnext.trans ?_⟩
            cases hg : g.getLast? with
            | none =>
                rw [List.getLast?_eq_none_iff] at hg
                simp [hg]
            | some q =>
                rw [List.getLast?_cons, hg]
                rfl
      | false =>
          have hne : s.emitted ≠ 0 := by
            intro h0
            have hfits : fillBuffer cap s.text (recordPieces r) =
                (s.text ++ (recordPieces r).flatten, true) := by
              refine fillBuffer_fits ?_
              rw [flatten_recordPieces, hempty h0]
              have : (unlines (snapshotRecord r)).length ≤ 2048 := length_recordText_le r
              simp only [List.length_nil]
              omega
            rw [hfits] at hfill
            cases hfill
          dsimp only
          rw [if_neg hne]
          refine ⟨_, [], (i, r) :: rs, rfl, rfl, by simp, hshort, rfl, fun h0 => absurd h0 hne,
            by simp, ?_⟩
          rintro j q tail ⟨⟩
          rfl

/-- Where the next page starts: at the first record that is left, or past the table. -/
def nextStart : List (ℕ × Record) → ℕ
  | [] => maxRecords
  | (i, _) :: _ => i

/-- The fields of a page header are whole lines with short values. -/
lemma pageHeader_fields {svc : Service} (hcount : svc.recordCount < 2 ^ 64)
    {startIndex nextIndex emitted : ℕ} (hstart : startIndex < 2 ^ 64) (hnext : nextIndex < 2 ^ 64)
    (hemitted : emitted < 2 ^ 64) (complete : Bool) :
    ∀ f ∈ pageHeader svc startIndex nextIndex emitted complete,
      (EQ ∉ ascii f.1 ∧ Plain (ascii f.1) ∧ Plain f.2) ∧ (ascii f.1).length + f.2.length ≤ 40 := by
  have hdec : ∀ n, n < 2 ^ 64 → Plain (decimal n) ∧ (decimal n).length ≤ 20 := by
    intro n hn
    exact ⟨plain_decimal n, length_decimal_le (by norm_num) (Nat.lt_trans hn (by norm_num))⟩
  have hfield : ∀ (name : String) (n : ℕ), (EQ ∉ ascii name ∧ Plain (ascii name)) →
      (ascii name).length ≤ 20 → n < 2 ^ 64 →
      (EQ ∉ ascii name ∧ Plain (ascii name) ∧ Plain (decimal n)) ∧
        (ascii name).length + (decimal n).length ≤ 40 := by
    intro name n hname hlen hn
    have := hdec n hn
    exact ⟨⟨hname.1, hname.2, this.1⟩, by omega⟩
  simp only [pageHeader, List.forall_mem_cons, List.not_mem_nil, false_implies, implies_true,
    and_true]
  refine ⟨hfield _ _ (by decide) (by decide) (by norm_num), by decide,
    hfield _ _ (by decide) (by decide) (by norm_num), hfield _ _ (by decide) (by decide) hcount,
    hfield _ _ (by decide) (by decide) hstart, hfield _ _ (by decide) (by decide) hnext,
    hfield _ _ (by decide) (by decide) hemitted, hfield _ _ (by decide) (by decide) ?_⟩
  cases complete <;> norm_num

lemma length_indexedFrom_le (t : SlotTable Record maxRecords) (start : ℕ) :
    (t.indexedFrom start).length ≤ maxRecords := by
  have h := List.length_filterMap_le (fun s : Option Record × ℕ => s.1.map fun a => (s.2, a))
    (t.slots.zipIdx.drop start)
  rw [List.length_drop, List.length_zipIdx] at h
  have := t.bounded
  rw [SlotTable.indexedFrom]
  omega

/-- Nothing is left behind a page that printed all records it was given. -/
lemma indexedFrom_done {svc : Service} {start : ℕ} {g : List (ℕ × Record)}
    (h : svc.records.indexedFrom start = g) :
    svc.records.indexedFrom ((g.getLast?.map fun r => r.1 + 1).getD start) = [] := by
  rcases List.eq_nil_or_concat g with rfl | ⟨g', ⟨i, r⟩, rfl⟩
  · exact h
  · rw [List.concat_eq_append, List.getLast?_concat] at *
    exact (SlotTable.indexedFrom_of_append h).2

/-- **One page**: it is answered with the first records from its start on, as many as it takes, at
least one if there is one, and says where the next page starts. -/
lemma exportSnapshotPage_eq {svc : Service} (hcount : svc.recordCount < 2 ^ 64) (p : Payload) :
    ∃ g rest, svc.records.indexedFrom (min (p.getU64 "start_index" 0).toNat maxRecords) = g ++ rest ∧
      (g ++ rest ≠ [] → g ≠ []) ∧
      exportSnapshotPage svc p = ⟨WireStatus.ok,
        pageText svc (min (p.getU64 "start_index" 0).toNat maxRecords) (nextStart rest)
          rest.isEmpty g⟩ := by
  have hmaxr : maxRecords = 1024 := rfl
  unfold exportSnapshotPage
  dsimp only
  generalize hstart : min (p.getU64 "start_index" 0).toNat maxRecords = start
  have hstart' : start ≤ maxRecords := by omega
  obtain ⟨s', g, rest, hloop, hsplit, hcut⟩ := pageLoop_cut
    (show 2048 < maxPayloadLen - snapshotPageHeaderReserve by decide)
    (svc.records.indexedFrom start) ⟨[], 0, start, false⟩
    (show 0 < maxPayloadLen - snapshotPageHeaderReserve by decide) (fun _ => rfl) rfl
  refine ⟨g, rest, hsplit, hcut.progress rfl, ?_⟩
  rw [hloop]
  dsimp only
  -- the page is complete exactly when no record is left
  have hcomplete : (!s'.stoppedOnCapacity && !hasRecordAtOrAfter svc s'.nextIndex) =
      rest.isEmpty := by
    cases rest with
    | nil =>
        obtain ⟨hno, hnext⟩ := hcut.done rfl
        rw [List.append_nil] at hsplit
        rw [hno, hasRecordAtOrAfter, hnext, indexedFrom_done hsplit]
        rfl
    | cons a tail =>
        obtain ⟨i, r⟩ := a
        rw [hasRecordAtOrAfter, hcut.next i r tail rfl, (SlotTable.indexedFrom_of_append hsplit).1]
        simp
  have hnext : (if (!s'.stoppedOnCapacity && !hasRecordAtOrAfter svc s'.nextIndex) = true then
      maxRecords else s'.nextIndex) = nextStart rest := by
    rw [hcomplete]
    cases rest with
    | nil => rfl
    | cons a tail => exact hcut.next a.1 a.2 tail rfl
  have hemitted : s'.emitted = g.length := by
    rw [hcut.emitted]
    exact Nat.zero_add _
  have htext : s'.text = g.flatMap fun r => recordText r.2 := by
    rw [hcut.text]
    rfl
  rw [hnext, hcomplete, hemitted]
  have hglen : g.length ≤ maxRecords := by
    have := length_indexedFrom_le svc.records start
    rw [hsplit, List.length_append] at this
    omega
  have hnextlt : nextStart rest < 2 ^ 64 := by
    cases rest with
    | nil => norm_num [nextStart, hmaxr]
    | cons a tail =>
        have hget := SlotTable.get_of_mem_indexedFrom
          (show (a.1, a.2) ∈ svc.records.indexedFrom start by rw [hsplit]; simp)
        have := SlotTable.lt_cap_of_get hget
        show a.1 < 2 ^ 64
        omega
  have hheader := @pageHeader_fields svc hcount start (nextStart rest) g.length (by omega) hnextlt
    (by omega) rest.isEmpty
  have hlen : (unlines ((pageHeader svc start (nextStart rest) g.length rest.isEmpty).map
      fun f => fieldLine f.1 f.2)).length ≤ 8 * 42 := by
    rw [length_unlines, List.map_map]
    refine Nat.le_trans (List.sum_le_card_nsmul _ 42 fun n hn => ?_) (Nat.le_of_eq rfl)
    obtain ⟨f, hf, rfl⟩ := List.mem_map.mp hn
    have := (hheader f hf).2
    simp only [Function.comp_apply, fieldLine, List.length_append, List.length_cons]
    omega
  have hrecords := hcut.short
  rw [htext] at hrecords
  have hpage : pageText svc start (nextStart rest) rest.isEmpty g = unlines
      [fieldLine "snapshot_page" (decimal 1),
        fieldLine "store_magic" storeMagic,
        fieldLine "store_schema_version" (decimal 1),
        fieldLine "record_count" (decimal svc.recordCount),
        fieldLine "start_index" (decimal start),
        fieldLine "next_index" (decimal (nextStart rest)),
        fieldLine "records_emitted" (decimal g.length),
        fieldLine "complete" (decimal rest.isEmpty.toNat)] ++ s'.text := by
    rw [htext]
    rfl
  have hshort : (pageText svc start (nextStart rest) rest.isEmpty g).length < 4095 := by
    rw [pageText, List.length_append]
    have h1 : maxPayloadLen - snapshotPageHeaderReserve = 3584 := rfl
    omega
  have h2 : maxPayloadLen = 4096 := rfl
  rw [← hpage, snprintf, List.take_of_length_le (by omega), if_neg (by omega)]

/-! ## Following the pages -/

/-- A request for the page from `start` on. -/
def pageRequestFields (start maxRecords : UInt64) : List (String × Bytes) :=
  [("start_index", showU64 start), ("max_records", showU64 maxRecords)]

lemma pageRequestFields_plain (start maxRecords : UInt64) :
    ∀ f ∈ pageRequestFields start maxRecords,
      EQ ∉ ascii f.1 ∧ Plain (ascii f.1) ∧ Plain f.2 := by
  simp only [pageRequestFields, List.forall_mem_cons, List.not_mem_nil, false_implies,
    implies_true, and_true]
  exact ⟨⟨by decide, by decide, plain_decimal _⟩, by decide, by decide, plain_decimal _⟩

lemma length_pageRequest_le (start maxRecords : UInt64) :
    (unlines ((pageRequestFields start maxRecords).map fun f => fieldLine f.1 f.2)).length ≤
      maxPayloadLen := by
  have h₁ := length_decimal_u64 start
  have h₂ := length_decimal_u64 maxRecords
  have h₃ : (ascii "start_index").length = 11 ∧ (ascii "max_records").length = 11 := by decide
  have h₄ : maxPayloadLen = 4096 := rfl
  rw [length_unlines]
  simp only [pageRequestFields, List.map_cons, List.map_nil, List.sum_cons, List.sum_nil, fieldLine,
    List.length_append, List.length_cons, showU64]
  omega

@[inherit_doc pageRequestFields]
def pageRequest (start maxRecords : UInt64) : Payload where
  bytes := unlines ((pageRequestFields start maxRecords).map fun f => fieldLine f.1 f.2)
  noNul := nul_notMem_fieldLines (pageRequestFields_plain start maxRecords)
  length_le := length_pageRequest_le start maxRecords

lemma pageRequest_startIndex (start maxRecords : UInt64) :
    (pageRequest start maxRecords).getU64 "start_index" 0 = start := by
  have h := @payloadGetU64Checked_fields (pageRequestFields start maxRecords) [] (ascii "start_index")
    ("start_index", showU64 start) start (by decide) (pageRequestFields_plain _ _)
    rfl rfl
  rw [List.append_nil] at h
  rw [Payload.getU64, payloadGetU64]
  exact congrArg (Option.getD · 0) h

/-- Whether the text of a page says that it is complete. -/
def pageComplete (response : Bytes) : Bool := payloadGetU32 response (ascii "complete") 0 != 0

/-- The client: from `start` on, ask for the next page until one is complete or refused.  The answers
it got, for at most `fuel` requests. -/
def pagedExport (svc : Service) (maxRecords : UInt64) : ℕ → UInt64 → List Reply
  | 0, _ => []
  | fuel + 1, start =>
      let reply := exportSnapshotPage svc (pageRequest start maxRecords)
      if reply.status ≠ WireStatus.ok ∨ pageComplete reply.response then [reply]
      else
        reply :: pagedExport svc maxRecords fuel
          (payloadGetU64 reply.response (ascii "next_index") 0)

section Read

variable {svc : Service} {startIndex nextIndex : ℕ} {g : List (ℕ × Record)}

/-- The client reads the next index and the end of the export from a page. -/
lemma pageText_read (hcount : svc.recordCount < 2 ^ 64) (hstart : startIndex < 2 ^ 64)
    (hnext : nextIndex < 2 ^ 64) (hg : g.length < 2 ^ 64) (complete : Bool) :
    pageComplete (pageText svc startIndex nextIndex complete g) = complete ∧
      (payloadGetU64 (pageText svc startIndex nextIndex complete g) (ascii "next_index") 0).toNat =
        nextIndex := by
  have hfields := fun f hf => (pageHeader_fields hcount hstart hnext hg complete f hf).1
  constructor
  · have h := @payloadGetU64Checked_fields _ (g.flatMap fun r => recordText r.2) (ascii "complete")
      ("complete", decimal complete.toNat) (if complete then 1 else 0) (by decide) hfields
      rfl
      (by cases complete <;> rfl)
    rw [pageComplete, payloadGetU32, payloadGetU32Checked, pageText, h]
    cases complete <;> rfl
  · have h := @payloadGetU64Checked_fields _ (g.flatMap fun r => recordText r.2) (ascii "next_index")
      ("next_index", decimal nextIndex) (UInt64.ofNat nextIndex) (by decide) hfields
      rfl
      (by rw [UInt64.toNat_ofNat_of_lt' hnext])
    rw [payloadGetU64, pageText, h, Option.getD_some, UInt64.toNat_ofNat_of_lt' hnext]

end Read

/-- A page that was answered with the records `g`. -/
def PageOf (svc : Service) (reply : Reply) (g : List (ℕ × Record)) : Prop :=
  reply.status = WireStatus.ok ∧ ∃ startIndex nextIndex complete,
    reply.response = pageText svc startIndex nextIndex complete g

/-- The pages from `start` on: the induction is on the requests, and every page but the last takes a
record off those that are left. -/
lemma pagedExport_from {svc : Service} (hcount : svc.recordCount < 2 ^ 64) (pageSize : UInt64)
    (fuel : ℕ) (start : UInt64)
    (hfuel : (svc.records.indexedFrom (min start.toNat maxRecords)).length < fuel) :
    ∃ gs, gs.flatten = svc.records.indexedFrom (min start.toNat maxRecords) ∧
      List.Forall₂ (PageOf svc) (pagedExport svc pageSize fuel start) gs ∧
      ∃ last, (pagedExport svc pageSize fuel start).getLast? = some last ∧
        pageComplete last.response := by
  induction fuel generalizing start with
  | zero => cases hfuel
  | succ fuel ih =>
      have hmaxr : maxRecords = 1024 := rfl
      obtain ⟨g, rest, hsplit, hprogress, hpage⟩ :=
        exportSnapshotPage_eq hcount (pageRequest start pageSize)
      rw [pageRequest_startIndex] at hsplit hpage
      have hlens : g.length + rest.length ≤ maxRecords := by
        have := length_indexedFrom_le svc.records (min start.toNat maxRecords)
        rwa [hsplit, List.length_append] at this
      have hnext : nextStart rest ≤ maxRecords := by
        cases rest with
        | nil => exact le_rfl
        | cons a tail =>
            have hget := SlotTable.get_of_mem_indexedFrom (show (a.1, a.2) ∈
              svc.records.indexedFrom (min start.toNat maxRecords) by rw [hsplit]; simp)
            exact Nat.le_of_lt (SlotTable.lt_cap_of_get hget)
      obtain ⟨hcomplete, hread⟩ := pageText_read (g := g) hcount
        (show min start.toNat maxRecords < 2 ^ 64 by omega)
        (show nextStart rest < 2 ^ 64 by omega) (by omega) rest.isEmpty
      have hof : PageOf svc ⟨WireStatus.ok, pageText svc (min start.toNat maxRecords)
          (nextStart rest) rest.isEmpty g⟩ g := ⟨rfl, _, _, _, rfl⟩
      simp only [pagedExport, hpage, hcomplete, ne_eq, not_true_eq_false, false_or]
      cases rest with
      | nil =>
          rw [List.append_nil] at hsplit
          simp only [List.isEmpty_nil, if_true]
          refine ⟨[g], by simp [hsplit], .cons hof .nil, _, rfl, hcomplete⟩
      | cons a tail =>
          obtain ⟨i, r⟩ := a
          have hg : g ≠ [] := hprogress (by simp)
          have hi : i ≤ maxRecords := hnext
          have hrest := (SlotTable.indexedFrom_of_append hsplit).1
          simp only [List.isEmpty_cons, Bool.false_eq_true, if_false] at hread hof ⊢
          have hstart : min (payloadGetU64 (pageText svc (min start.toNat maxRecords)
              (nextStart ((i, r) :: tail)) false g) (ascii "next_index") 0).toNat maxRecords = i := by
            rw [hread]
            show min i maxRecords = i
            omega
          have hpos := List.length_pos_of_ne_nil hg
          rw [hsplit, List.length_append] at hfuel
          obtain ⟨gs, hflat, hpages, last, hlast, hend⟩ := ih _ (by rw [hstart, hrest]; omega)
          rw [hstart, hrest] at hflat
          refine ⟨g :: gs, by rw [List.flatten_cons, hflat, hsplit], .cons hof hpages, last, ?_, hend⟩
          rw [List.getLast?_cons, hlast]
          rfl

/-- **The paged export is complete.**  For every record table and every page size, following the next
index from the start ends with a complete page after at most one request more than there are records,
no page is refused, and the pages carry every record in use once, in slot order. -/
theorem paged_export_complete {svc : Service} (hcount : svc.recordCount < 2 ^ 64)
    (pageSize : UInt64) {fuel : ℕ} (hfuel : svc.records.count < fuel) :
    ∃ gs, gs.flatten = svc.records.indexedFrom 0 ∧
      List.Forall₂ (PageOf svc) (pagedExport svc pageSize fuel 0) gs ∧
      ∃ last, (pagedExport svc pageSize fuel 0).getLast? = some last ∧
        pageComplete last.response := by
  have hzero : min (0 : UInt64).toNat maxRecords = 0 := by simp
  have h := pagedExport_from hcount pageSize fuel 0
  rw [hzero] at h
  refine h ?_
  rw [← List.length_map Prod.snd, SlotTable.map_snd_indexedFrom]
  exact hfuel

/-- A service with two objects. -/
def Service.twoObjects : Service := (Daemon.fresh.run .durable [.putA, .putB]).state.svc

/-- Pages of one record: there are two. -/
theorem paged_export_complete_twoObjects :
    (pagedExport Service.twoObjects 1 3 0).length = 2 ∧
      ∃ gs, gs.flatten = Service.twoObjects.records.indexedFrom 0 ∧
        List.Forall₂ (PageOf Service.twoObjects) (pagedExport Service.twoObjects 1 3 0) gs := by
  obtain ⟨gs, hflat, hpages, -⟩ :=
    @paged_export_complete Service.twoObjects (by decide +kernel) 1 3 (by decide +kernel)
  exact ⟨by decide +kernel, gs, hflat, hpages⟩

end MemService
