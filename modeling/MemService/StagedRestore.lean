import MemService.Idempotency

/-!
# Staged restores

A snapshot that does not fit one request is restored page by page: a begin request opens the stage,
append requests import their pages into it, and a commit request installs the staged records.  Seen
from outside, the stage is determined by the exchanges so far: the last begin, and the pages accepted
since.  `staging` computes that from the history, `Tracks` says that the stage agrees with it, and the
results about commits follow.

A page's text is imported line by line, so its records reach the stage before the page is known to be
well formed.  That does no harm, since a page that is refused resets the whole stage.

The stage is one for all clients.  What a commit installs are the pages accepted since the last begin,
whoever sent them.
-/

open ByteText CNumeral

namespace MemService

/-! ## What a page carries -/

/-- The records between `record_begin` and `record_end` lines, each made of the fields between them;
`cur` is the record that is open. -/
def recordFrames (cur : Option Record) : List Bytes → List Record
  | [] => []
  | l :: ls =>
      if l = ascii "record_begin" then recordFrames (some {}) ls
      else if l = ascii "record_end" then cur.toList ++ recordFrames none ls
      else
        match parseLineField l with
        | some (n, v) => recordFrames (cur.map fun r => parseStoreRecordField r n v) ls
        | none => recordFrames cur ls

/-- The records a page carries. -/
def pageRecords (page : Bytes) : List Record := recordFrames none ((lines page).map trimLine)

/-- The record an open frame is about. -/
def OpenFrame.record? : OpenFrame → Option Record
  | .record r => some r
  | _ => none

/-- The page reader over a line without a field that is no record frame line. -/
lemma recordFrames_skip (cur : Option Record) {l : Bytes} (ls : List Bytes)
    (hb : l ≠ ascii "record_begin") (he : l ≠ ascii "record_end") (hf : parseLineField l = none) :
    recordFrames cur (l :: ls) = recordFrames cur ls := by
  rw [recordFrames, if_neg hb, if_neg he, hf]

lemma Service.records_storeImportIdempotency {svc svc' : Service} {r : IdempotencyRecord}
    (h : svc.storeImportIdempotency r = some svc') : svc'.records = svc.records := by
  unfold storeImportIdempotency at h
  split at h
  · cases h
  · obtain ⟨t, -, rfl⟩ := Option.map_eq_some_iff.mp h
    rfl

lemma Service.records_storeImportAudit {svc svc' : Service} {e : AuditEvent}
    (h : svc.storeImportAudit e = some svc') : svc'.records = svc.records := by
  unfold storeImportAudit at h
  split at h
  · cases h
  · obtain rfl := Option.some.inj h
    rfl

/-- One line of an import: the records it adds to the table are those it closes. -/
lemma importStoreLine_records {s s' : Service × OpenFrame} {line : Bytes}
    (h : importStoreLine s line = some s') (ls : List Bytes) :
    ∃ rs, recordFrames s.2.record? (line :: ls) = rs ++ recordFrames s'.2.record? ls ∧
      s.1.records.upsertAll Record.keyBytes rs = some s'.1.records := by
  obtain ⟨svc, o⟩ := s
  unfold importStoreLine at h
  dsimp only at h ⊢
  split at h
  · rename_i hl
    subst hl
    cases h
    exact ⟨[], recordFrames_skip _ _ (by decide) (by decide) (by decide), rfl⟩
  split at h
  · rename_i hl
    split at h
    · cases h
      exact ⟨[], by rw [recordFrames, if_pos hl]; rfl, rfl⟩
    · cases h
  rename_i hbegin
  split at h
  · rename_i hl
    split at h
    · rename_i r
      obtain ⟨svc', hsvc', rfl⟩ := Option.map_eq_some_iff.mp h
      refine ⟨[r], by rw [recordFrames, if_neg hbegin, if_pos hl]; rfl, ?_⟩
      unfold Service.storeImportRecord at hsvc'
      split at hsvc'
      · cases hsvc'
      · obtain ⟨t, ht, rfl⟩ := Service.putRecord_eq_some hsvc'
        simp only [SlotTable.upsertAll, List.foldlM_cons, ht, List.foldlM_nil]
        rfl
    · cases h
  rename_i hend
  split at h
  · rename_i hl
    split at h
    · cases h
      exact ⟨[], recordFrames_skip _ _ hbegin hend (by rw [hl]; decide), rfl⟩
    · cases h
  split at h
  · rename_i hl
    split at h
    · obtain ⟨svc', hsvc', rfl⟩ := Option.map_eq_some_iff.mp h
      refine ⟨[], recordFrames_skip _ _ hbegin hend (by rw [hl]; decide), ?_⟩
      rw [Service.records_storeImportIdempotency hsvc']
      rfl
    · cases h
  split at h
  · rename_i hl
    split at h
    · cases h
      exact ⟨[], recordFrames_skip _ _ hbegin hend (by rw [hl]; decide), rfl⟩
    · cases h
  split at h
  · rename_i hl
    split at h
    · obtain ⟨svc', hsvc', rfl⟩ := Option.map_eq_some_iff.mp h
      refine ⟨[], recordFrames_skip _ _ hbegin hend (by rw [hl]; decide), ?_⟩
      rw [Service.records_storeImportAudit hsvc']
      rfl
    · cases h
  split at h
  · cases h
  · rename_i n v hfield
    have hframes : ∀ cur, recordFrames cur (line :: ls) =
        recordFrames (cur.map fun r => parseStoreRecordField r n v) ls := by
      intro cur
      rw [recordFrames, if_neg hbegin, if_neg hend, hfield]
    split at h
    · cases h
      exact ⟨[], hframes _, rfl⟩
    · obtain ⟨r', -, rfl⟩ := Option.map_eq_some_iff.mp h
      exact ⟨[], hframes _, rfl⟩
    · cases h
      exact ⟨[], hframes _, rfl⟩
    · cases h
      exact ⟨[], hframes _, rfl⟩

/-- Outside every record a line that opens or closes none is passed over. -/
lemma recordFrames_none {l : Bytes} (ls : List Bytes) (hb : l ≠ ascii "record_begin")
    (he : l ≠ ascii "record_end") : recordFrames none (l :: ls) = recordFrames none ls := by
  rw [recordFrames, if_neg hb, if_neg he]
  split <;> rfl

lemma importVersionedLine_records {s s' : (Service × OpenFrame) × Bool} {line : Bytes}
    (h : importVersionedLine s line = some s') (ls : List Bytes) :
    ∃ rs, recordFrames s.1.2.record? (line :: ls) = rs ++ recordFrames s'.1.2.record? ls ∧
      s.1.1.records.upsertAll Record.keyBytes rs = some s'.1.1.records := by
  unfold importVersionedLine at h
  split at h
  · cases h
  · rename_i hclosed hknown
    cases h
    refine ⟨[], ?_, rfl⟩
    rw [hclosed]
    refine recordFrames_none ls ?_ ?_
    · rintro rfl
      exact absurd hknown (by decide)
    · rintro rfl
      exact absurd hknown (by decide)
  · obtain ⟨t, ht, rfl⟩ := Option.map_eq_some_iff.mp h
    exact importStoreLine_records ht ls

lemma importPageLines_records {ls : List Bytes} {s s' : ((Service × OpenFrame) × Bool) × ℕ}
    (h : ls.foldlM importPageLine s = some s') :
    s.1.1.1.records.upsertAll Record.keyBytes
      (recordFrames s.1.1.2.record? (ls.map trimLine)) = some s'.1.1.1.records := by
  induction ls generalizing s with
  | nil =>
      obtain rfl := Option.some.inj h
      rfl
  | cons l ls ih =>
      obtain ⟨s₁, h₁, h⟩ := Option.bind_eq_some_iff.mp h
      obtain ⟨t, ht, rfl⟩ := Option.map_eq_some_iff.mp h₁
      unfold importSnapshotLine at ht
      split at ht
      · cases ht
      obtain ⟨rs, hframes, hput⟩ := importVersionedLine_records ht (ls.map trimLine)
      rw [List.map_cons, hframes, SlotTable.upsertAll_append, hput, Option.bind_some]
      exact ih h

/-- **An imported page** puts the records it carries into the table, in their order. -/
lemma importSnapshotRecordsText_records {svc : Service} {page : Bytes} {r : Service × ℕ}
    (h : importSnapshotRecordsText svc page = some r) :
    svc.records.upsertAll Record.keyBytes (pageRecords page) = some r.1.records := by
  unfold importSnapshotRecordsText at h
  split at h
  · cases h
  · obtain ⟨s, hfold, hclosed⟩ := Option.bind_eq_some_iff.mp h
    obtain ⟨svc', hsvc', rfl⟩ := Option.map_eq_some_iff.mp hclosed
    obtain rfl := eq_of_closedService hsvc'
    exact importPageLines_records hfold

/-! ## The stage after a page request -/

/-- What a page request does to the service and the stage. -/
inductive PageStep (svc : Service) (stage : Option RestoreStage) (p : Payload) :
    Service × Option RestoreStage × Reply → Prop
  | begun {base : Service} {reply : Reply} (haction : p.getString "action" 32 = some (ascii "begin"))
      (hbase : svc.initLike = some base) (hok : reply.status = WireStatus.ok) :
      PageStep svc stage p (svc, some
        { expectedRecords := p.getU64Checked "expected_records"
          sawComplete := p.getU64Checked "expected_records" == some 0
          nextPageIndex := 0
          svc := base }, reply)
  | appended {st : RestoreStage} {staged : Service} {n : ℕ} {reply : Reply}
      (haction : p.getString "action" 32 = some (ascii "append")) (hst : stage = some st)
      (hindex : p.getU64Checked "page_index" = some st.nextPageIndex)
      (himp : importSnapshotRecordsText st.svc p.bytes = some (staged, n))
      (hok : reply.status = WireStatus.ok) :
      PageStep svc stage p (svc, some
        { st with
          svc := staged
          nextPageIndex := st.nextPageIndex + 1
          sawComplete := st.sawComplete || p.getU32 "complete" 0 != 0 }, reply)
  | passed {stage' : Option RestoreStage} {reply : Reply}
      (hstage : stage' = none ∨ stage' = stage ∧ p.getString "action" 32 ≠ some (ascii "begin"))
      (hfail : p.getString "action" 32 = some (ascii "append") ∨
        p.getString "action" 32 = some (ascii "commit") → reply.status ≠ WireStatus.ok) :
      PageStep svc stage p (svc, stage', reply)
  | committed {st : RestoreStage} (haction : p.getString "action" 32 = some (ascii "commit"))
      (hst : stage = some st)
      (hexpected : ∀ n, st.expectedRecords = some n → st.svc.recordCount = n.toNat)
      (hcomplete : st.expectedRecords = none → st.sawComplete) :
      PageStep svc stage p (svc.install st.committed, none,
        restoredReply (svc.install st.committed))

lemma ne_ok_versionConflict : WireStatus.versionConflict ≠ WireStatus.ok := by decide

lemma ne_ok_invalidSession : WireStatus.invalidSession ≠ WireStatus.ok := by decide

lemma restorePageAppend_step {svc : Service} {stage : Option RestoreStage} {p : Payload}
    (haction : p.getString "action" 32 = some (ascii "append")) :
    PageStep svc stage p (svc, restorePageAppend stage p) := by
  have hno : p.getString "action" 32 ≠ some (ascii "begin") := by
    rw [haction]
    decide
  unfold restorePageAppend
  split
  · rename_i st pageIndex hindex
    split
    · exact .passed (.inr ⟨rfl, hno⟩) fun _ => ne_ok_versionConflict
    rename_i heq
    split
    · exact .passed (.inl rfl) fun _ => ne_ok_invalidSession
    rename_i staged n himp
    dsimp only
    split
    · exact .passed (.inl rfl) fun _ => ne_ok_versionConflict
    · rw [not_not] at heq
      exact .appended haction rfl (heq ▸ hindex) himp rfl
  · exact .passed (.inr ⟨rfl, hno⟩) fun _ => ne_ok_invalidSession

lemma restorePageCommit_step {svc : Service} {stage : Option RestoreStage} {p : Payload}
    (haction : p.getString "action" 32 = some (ascii "commit")) :
    PageStep svc stage p (restorePageCommit svc stage) := by
  have hno : p.getString "action" 32 ≠ some (ascii "begin") := by
    rw [haction]
    decide
  unfold restorePageCommit
  split
  · exact .passed (.inl rfl) fun _ => ne_ok_invalidSession
  · rename_i st
    split
    · exact .passed (.inr ⟨rfl, hno⟩) fun _ => ne_ok_versionConflict
    rename_i hcount
    split
    · exact .passed (.inr ⟨rfl, hno⟩) fun _ => ne_ok_invalidSession
    rename_i hcomplete
    refine .committed haction rfl (fun n hn => ?_) fun hnone => ?_
    · simpa [hn] using hcount
    · simpa [hnone] using hcomplete

lemma restoreSnapshotPage_step (svc : Service) (stage : Option RestoreStage) (p : Payload) :
    PageStep svc stage p (restoreSnapshotPage svc stage p) := by
  unfold restoreSnapshotPage
  split
  · rename_i haction
    refine .passed (.inr ⟨rfl, ?_⟩) fun _ => ne_ok_invalidSession
    rw [haction]
    simp
  rename_i action haction
  split
  · rename_i hb
    subst hb
    unfold restorePageBegin
    split
    · refine .passed (.inl rfl) fun h => ?_
      rw [haction] at h
      exact absurd h (by decide)
    · rename_i base hbase
      exact .begun haction hbase rfl
  rename_i hbegin
  have hno : p.getString "action" 32 ≠ some (ascii "begin") := by
    rw [haction]
    exact fun h => hbegin (Option.some.inj h)
  split
  · rename_i ha
    subst ha
    exact restorePageAppend_step haction
  split
  · rename_i hc
    subst hc
    exact restorePageCommit_step haction
  rename_i happend hcommit
  split
  · refine .passed (.inl rfl) fun h => ?_
    rw [haction] at h
    exact absurd h (by simp [happend, hcommit])
  · exact .passed (.inr ⟨rfl, hno⟩) fun _ => ne_ok_invalidSession

/-- A page request is not executed only if it is a commit, and then it leaves the stage alone. -/
lemma dispatchOperation_page (env : Env) (storageRoot : Bool) (s : ServiceState) (p : Payload) :
    dispatchOperation env storageRoot s WireOperation.restoreSnapshotPage.code p =
      (⟨(restoreSnapshotPage s.svc s.stage p).1, (restoreSnapshotPage s.svc s.stage p).2.1⟩,
        (restoreSnapshotPage s.svc s.stage p).2.2) := by
  simp only [dispatchOperation, WireOperation.ofCode_code]

/-- Only page requests touch the stage. -/
lemma dispatchOperation_stage (env : Env) (storageRoot : Bool) (s : ServiceState)
    {operation : UInt32} (p : Payload) (hop : operation ≠ WireOperation.restoreSnapshotPage.code) :
    (dispatchOperation env storageRoot s operation p).1.stage = s.stage := by
  unfold dispatchOperation
  split
  all_goals first
    | rfl
    | (rename_i h
       exact absurd (WireOperation.code_of_ofCode h).symm hop)

/-! ## The stage and the history -/

/-- A request with the answer its client got. -/
structure Exchange where
  req : Request
  reply : Reply

/-- The exchanges of a run. -/
def Daemon.history (cfg : Config) : Daemon → List Step → List Exchange
  | _, [] => []
  | d, st :: steps => ⟨st.req, d.answer cfg st⟩ :: (d.step cfg st).history cfg steps

/-- What a page request asks for. -/
def Request.restoreAction (req : Request) : Option Bytes :=
  if req.operation = WireOperation.restoreSnapshotPage.code then req.payload.getString "action" 32
  else none

/-- A begin request and the pages accepted after it. -/
structure Staging where
  begun : Payload
  pages : List Payload

/-- A staging after one more exchange. -/
def Staging.next (s : Option Staging) (x : Exchange) : Option Staging :=
  if x.req.restoreAction = some (ascii "begin") then some ⟨x.req.payload, []⟩
  else if x.req.restoreAction = some (ascii "append") ∧ x.reply.status = WireStatus.ok then
    s.map fun s => { s with pages := s.pages ++ [x.req.payload] }
  else s

/-- The last begin of a history and the pages accepted since. -/
def staging (xs : List Exchange) : Option Staging := xs.foldl Staging.next none

/-- The records of several pages, in order. -/
def Staging.records (s : Staging) : List Record := s.pages.flatMap fun p => pageRecords p.bytes

/-- The stage is what the begin and the pages make of an empty service. -/
structure Staging.Tracks (s : Staging) (st : RestoreStage) : Prop where
  records : (SlotTable.empty : SlotTable Record maxRecords).upsertAll Record.keyBytes s.records =
    some st.svc.records
  order : ∀ i p, s.pages[i]? = some p → p.getU64Checked "page_index" = some (UInt64.ofNat i)
  next : st.nextPageIndex = UInt64.ofNat s.pages.length
  expected : st.expectedRecords = s.begun.getU64Checked "expected_records"
  complete : st.sawComplete → s.begun.getU64Checked "expected_records" = some 0 ∨
    ∃ p ∈ s.pages, p.getU32 "complete" 0 ≠ 0

/-- The stage, if there is one, is what the history says. -/
def Staged (s : Option Staging) (stage : Option RestoreStage) : Prop :=
  ∀ st, stage = some st → ∃ t, s = some t ∧ t.Tracks st

lemma Staging.tracks_begin {svc base : Service} {p : Payload} (h : svc.initLike = some base) :
    (⟨p, []⟩ : Staging).Tracks
      { expectedRecords := p.getU64Checked "expected_records"
        sawComplete := p.getU64Checked "expected_records" == some 0
        nextPageIndex := 0
        svc := base } := by
  obtain rfl := Service.init_eq_some h
  refine ⟨rfl, by simp, rfl, rfl, fun hc => .inl ?_⟩
  simpa using hc

lemma Staging.Tracks.append {s : Staging} {st : RestoreStage} (h : s.Tracks st) {p : Payload}
    {staged : Service} {n : ℕ} (hindex : p.getU64Checked "page_index" = some st.nextPageIndex)
    (himp : importSnapshotRecordsText st.svc p.bytes = some (staged, n)) :
    ({ s with pages := s.pages ++ [p] } : Staging).Tracks
      { st with
        svc := staged
        nextPageIndex := st.nextPageIndex + 1
        sawComplete := st.sawComplete || p.getU32 "complete" 0 != 0 } where
  records := by
    have hpage := importSnapshotRecordsText_records himp
    simp only [Staging.records, List.flatMap_append, List.flatMap_cons, List.flatMap_nil,
      List.append_nil]
    rw [SlotTable.upsertAll_append]
    have := h.records
    unfold Staging.records at this
    rw [this, Option.bind_some, hpage]
  order := by
    intro i q hq
    rw [List.getElem?_append] at hq
    split at hq
    · exact h.order i q hq
    · rename_i hi
      obtain ⟨hi', rfl⟩ : i - s.pages.length = 0 ∧ p = q := by
        cases hk : i - s.pages.length with
        | zero =>
            rw [hk] at hq
            exact ⟨rfl, Option.some.inj hq⟩
        | succ k =>
            rw [hk] at hq
            cases hq
      rw [hindex, h.next]
      congr 2
      omega
  next := by
    rw [h.next, List.length_append]
    simp
  expected := h.expected
  complete := by
    intro hc
    simp only [Bool.or_eq_true, bne_iff_ne, ne_eq] at hc
    rcases hc with hc | hc
    · rcases h.complete hc with hz | ⟨q, hq, hq'⟩
      · exact .inl hz
      · exact .inr ⟨q, by simp [hq], hq'⟩
    · exact .inr ⟨p, by simp, hc⟩

/-! ## Runs -/

section Step

variable {cfg : Config} {d : Daemon} {st : Step}

lemma operationMutates_page (p : Payload) :
    operationMutates WireOperation.restoreSnapshotPage.code p =
      (p.getString "action" 32 == some (ascii "commit")) := by
  simp only [operationMutates, WireOperation.ofCode_code]

/-- A request that changes nothing is executed: it has no stored answer and needs no slot. -/
lemma executes_of_reads (svc : Service) {req : Request}
    (hmut : operationMutates req.operation req.payload = false) : Executes cfg svc req := by
  have hest : estimateNewRecordCount svc req.payload req.operation = some 0 := by
    unfold estimateNewRecordCount
    split
    all_goals first
      | (rename_i hop
         simp [operationMutates, hop] at hmut
         done)
      | rw [hmut]
        rfl
  refine ⟨⟨none, by simp [tryIdempotencyReplay, hmut]⟩, ?_⟩
  rw [hest]
  cases cfg.limits with
  | none => rfl
  | some l => simp [quotaRefuses]

/-- A page request that is no commit is executed. -/
lemma executes_page (svc : Service) {req : Request}
    (hop : req.operation = WireOperation.restoreSnapshotPage.code)
    (hno : req.payload.getString "action" 32 ≠ some (ascii "commit")) : Executes cfg svc req := by
  refine executes_of_reads svc ?_
  rw [hop, operationMutates_page]
  exact beq_false_of_ne hno

/-- The answer to a request that changes nothing reaches the client. -/
lemma Daemon.answer_of_reads (hmut : operationMutates st.req.operation st.req.payload = false) :
    d.answer cfg st = (answerRequest cfg st.env d.state st.req).reply := by
  have hanswer : d.answer cfg st = (persistRequest cfg st.env st.writes d.disk
    (answerRequest cfg st.env d.state st.req) st.req
    (auditRequest cfg st.env (answerRequest cfg st.env d.state st.req) st.req)).reply := rfl
  rw [hanswer]
  obtain ⟨-, hr⟩ | ⟨hm, -⟩ := persistRequest_cases cfg st.env st.writes d.disk
    (answerRequest cfg st.env d.state st.req) st.req
    (auditRequest cfg st.env (answerRequest cfg st.env d.state st.req) st.req)
  · exact hr
  · rw [hmut] at hm
    cases hm

/-- The stage and the answer of an executed request are those of dispatch. -/
lemma answerRequest_executes (h : Executes cfg d.state.svc st.req) :
    (answerRequest cfg st.env d.state st.req).state.stage =
        (dispatchOperation st.env cfg.storageRoot d.state st.req.operation
          st.req.payload).1.stage ∧
      (answerRequest cfg st.env d.state st.req).reply =
        (dispatchOperation st.env cfg.storageRoot d.state st.req.operation st.req.payload).2 := by
  have ha := answerRequest_answered cfg st.env d.state st.req
  generalize answerRequest cfg st.env d.state st.req = a at ha
  obtain ⟨⟨pending, hexec⟩, hq⟩ := h
  cases ha with
  | replayed hr =>
      rw [hexec] at hr
      cases hr
  | overQuota _ hq' _ =>
      rw [hq] at hq'
      cases hq'
  | executed _ _ hout _ =>
      rw [hout]
      exact ⟨rfl, rfl⟩

/-- The answer to a request that changes nothing is the handler's. -/
lemma Daemon.answer_of_read (hmut : operationMutates st.req.operation st.req.payload = false) :
    d.answer cfg st = (dispatchOperation st.env cfg.storageRoot d.state st.req.operation
      st.req.payload).2 := by
  rw [Daemon.answer_of_reads hmut, (answerRequest_executes (executes_of_reads _ hmut)).2]

/-- A request that is not executed leaves the stage alone. -/
lemma answerRequest_not_executes (h : ¬ Executes cfg d.state.svc st.req) :
    (answerRequest cfg st.env d.state st.req).state.stage = d.state.stage := by
  have ha := answerRequest_answered cfg st.env d.state st.req
  generalize answerRequest cfg st.env d.state st.req = a at ha
  cases ha with
  | replayed _ => rfl
  | overQuota _ _ _ => rfl
  | executed hexec hq _ _ => exact absurd ⟨⟨_, hexec⟩, hq⟩ h

/-- One request keeps the stage in step with the history. -/
lemma Staged.step {s : Option Staging} (h : Staged s d.state.stage) (st : Step) :
    Staged (Staging.next s ⟨st.req, d.answer cfg st⟩) (d.step cfg st).state.stage := by
  have hstage : (d.step cfg st).state.stage =
    (answerRequest cfg st.env d.state st.req).state.stage := rfl
  rw [hstage]
  by_cases hop : st.req.operation = WireOperation.restoreSnapshotPage.code
  swap
  · have haction : st.req.restoreAction = none := by rw [Request.restoreAction, if_neg hop]
    have hnext : Staging.next s ⟨st.req, d.answer cfg st⟩ = s := by
      simp [Staging.next, haction]
    rw [hnext]
    by_cases hex : Executes cfg d.state.svc st.req
    · rw [(answerRequest_executes hex).1, dispatchOperation_stage _ _ _ _ hop]
      exact h
    · rw [answerRequest_not_executes hex]
      exact h
  have haction : st.req.restoreAction = st.req.payload.getString "action" 32 := by
    rw [Request.restoreAction, if_pos hop]
  by_cases hex : Executes cfg d.state.svc st.req
  swap
  · -- only a commit is ever answered without being executed
    have hcommit : st.req.restoreAction = some (ascii "commit") := by
      by_contra hno
      rw [haction] at hno
      exact hex (executes_page d.state.svc hop hno)
    have hnext : Staging.next s ⟨st.req, d.answer cfg st⟩ = s := by
      unfold Staging.next
      rw [hcommit, if_neg (by decide), if_neg]
      rintro ⟨hab, -⟩
      exact absurd hab (by decide)
    rw [hnext, answerRequest_not_executes hex]
    exact h
  obtain ⟨hs, hr⟩ := answerRequest_executes hex
  rw [hop, dispatchOperation_page] at hs hr
  rw [hs]
  dsimp only at hr ⊢
  have hpage := restoreSnapshotPage_step d.state.svc d.state.stage st.req.payload
  have hanswer : st.req.payload.getString "action" 32 ≠ some (ascii "commit") →
      d.answer cfg st = (restoreSnapshotPage d.state.svc d.state.stage st.req.payload).2.2 := by
    intro hno
    rw [← hr]
    refine Daemon.answer_of_reads ?_
    rw [hop, operationMutates_page]
    exact beq_false_of_ne hno
  generalize restoreSnapshotPage d.state.svc d.state.stage st.req.payload = out at hpage hanswer
  cases hpage with
  | begun hbegin hbase _ =>
      rintro _ ⟨⟩
      refine ⟨_, ?_, Staging.tracks_begin hbase⟩
      unfold Staging.next
      rw [if_pos (haction.trans hbegin)]
  | @appended stg staged n reply happend hst hindex himp hok =>
      obtain ⟨t, rfl, ht⟩ := h stg hst
      rintro _ ⟨⟩
      have hstatus : (d.answer cfg st).status = WireStatus.ok := by
        rw [hanswer (by rw [happend]; decide)]
        exact hok
      refine ⟨_, ?_, ht.append hindex himp⟩
      unfold Staging.next
      rw [if_neg (by rw [haction, happend]; decide), if_pos ⟨haction.trans happend, hstatus⟩]
      rfl
  | @passed stage' reply hstage' hfail =>
      rcases hstage' with rfl | ⟨rfl, hno⟩
      · rintro _ ⟨⟩
      · have hnext : Staging.next s ⟨st.req, d.answer cfg st⟩ = s := by
          unfold Staging.next
          rw [if_neg (by rw [haction]; exact hno), if_neg]
          rintro ⟨ha, hok⟩
          rw [haction] at ha
          rw [hanswer (by rw [ha]; decide)] at hok
          exact hfail (.inl ha) hok
        rw [hnext]
        exact h
  | committed _ _ _ _ => rintro _ ⟨⟩

end Step

/-- **Staging.**  After every run the stage, if there is one, is what the last begin and the pages
accepted since make of an empty service. -/
lemma staged_run (cfg : Config) {d : Daemon} {s : Option Staging} (h : Staged s d.state.stage)
    (steps : List Step) :
    Staged ((d.history cfg steps).foldl Staging.next s) (d.run cfg steps).state.stage := by
  induction steps generalizing d s with
  | nil => exact h
  | cons st steps ih => exact ih (h.step st)

/-! ## Requests that leave only their own entries -/

/-- The request leaves the live tables alone, but for its own idempotency record and its own audit
event. -/
structure OwnEntries (cfg : Config) (d : Daemon) (st : Step) : Prop where
  records : SameRecords d.state.svc (d.step cfg st).state.svc
  idempotency : (d.step cfg st).state.svc.idempotency = d.state.svc.idempotency ∨
    ∃ slot key, idempotencyKey st.req.payload = some key ∧
      d.state.svc.idempotency.get slot = none ∧
      (d.step cfg st).state.svc.idempotency =
        d.state.svc.idempotency.put slot (completedRecord key st.req (d.answer cfg st))
  audit : (d.step cfg st).state.svc.auditPart = d.state.svc.auditPart ∨
    ∃ replayed, (d.step cfg st).state.svc.auditPart =
      ((d.state.svc.recordAudit (auditEvent d.state.svc.nextSequence st.env.monotonicMs st.req
        (d.answer cfg st) replayed)).applyAuditRetention
          (cfg.limits.elim 0 DaemonLimits.maxAuditEvents)).1.auditPart

/-- Audit retention reads the audit part only. -/
lemma Service.auditPart_applyAuditRetention {svc svc' : Service} (h : svc.auditPart = svc'.auditPart)
    (limit : UInt64) : (svc.applyAuditRetention limit).1.auditPart =
      (svc'.applyAuditRetention limit).1.auditPart := by
  simp only [auditPart, Prod.mk.injEq] at h
  obtain ⟨haudit, hnext, hcount⟩ := h
  simp only [applyAuditRetention, haudit, hnext, hcount]
  split
  · simp only [auditPart, haudit, hnext, hcount]
  · simp only [auditPart]

/-- An idempotency record does not show in the audit part. -/
lemma auditPart_complete (svc : Service) (pending : Option (ℕ × FieldText 96)) (req : Request)
    (reply : Reply) (e : AuditEvent) :
    ((svc.complete pending req reply).recordAudit e).auditPart = (svc.recordAudit e).auditPart := by
  unfold Service.complete
  split <;> rfl

/-- A request whose first stage only fills its slot, and whose answer stands, leaves only its own
entries. -/
lemma ownEntries_of_complete {cfg : Config} {d : Daemon} {st : Step}
    (hsvc : (answerRequest cfg st.env d.state st.req).state.svc =
      d.state.svc.complete (answerRequest cfg st.env d.state st.req).pending st.req
        (answerRequest cfg st.env d.state st.req).reply)
    (hland : operationMutates st.req.operation st.req.payload → cfg.storePath = true →
      (answerRequest cfg st.env d.state st.req).reply.status = WireStatus.ok →
        st.writes.Land d.disk) : OwnEntries cfg d st := by
  have ha := answerRequest_answered cfg st.env d.state st.req
  have hfree : ∀ slot key, (answerRequest cfg st.env d.state st.req).pending = some (slot, key) →
      idempotencyKey st.req.payload = some key ∧ d.state.svc.idempotency.get slot = none := by
    intro slot key hp
    obtain ⟨pending, hexec, rfl⟩ : ∃ pending, tryIdempotencyReplay d.state.svc st.req.operation
        st.req.payload = .execute pending ∧ pending = some (slot, key) := by
      generalize answerRequest cfg st.env d.state st.req = a at ha hp
      cases ha with
      | replayed _ => cases hp
      | overQuota h _ _ => exact ⟨_, h, hp⟩
      | executed h _ _ _ => exact ⟨_, h, hp⟩
    obtain ⟨hnone, -⟩ | ⟨slot', key', hsome, -, hkey, -, halloc⟩ :=
      tryIdempotencyReplay_execute hexec
    · cases hnone
    · cases hsome
      exact ⟨hkey, (SlotTable.firstFree?_eq_some halloc).2⟩
  generalize hans : answerRequest cfg st.env d.state st.req = a at ha hsvc hland hfree
  have hstep : (d.step cfg st).state.svc = (persistRequest cfg st.env st.writes d.disk a st.req
      (auditRequest cfg st.env a st.req)).svc := by
    rw [← hans]
    rfl
  have hanswer : d.answer cfg st = (persistRequest cfg st.env st.writes d.disk a st.req
      (auditRequest cfg st.env a st.req)).reply := by
    rw [← hans]
    rfl
  obtain ⟨hp, hr⟩ | ⟨hmut, hok, hpath, -, -, hr⟩ := persistRequest_cases cfg st.env st.writes d.disk
    a st.req (auditRequest cfg st.env a st.req)
  swap
  · -- the second audit needs a success whose writes did not land
    have hstands := @persistRequest_reply cfg st.env st.writes d.disk a st.req
      (auditRequest cfg st.env a st.req) fun h h' => hland hmut h h'
    rw [hr] at hstands
    rw [← hstands] at hok
    exact absurd hok (by decide)
  rw [hp] at hstep
  rw [hr] at hanswer
  have hpart : (d.step cfg st).state.svc.records = d.state.svc.records ∧
      (d.step cfg st).state.svc.recordCount = d.state.svc.recordCount := by
    have hc := records_complete d.state.svc a.pending st.req a.reply
    have := d.step_records cfg st
    rw [hans, hsvc] at this
    exact ⟨this.1.trans hc.1, this.2.trans hc.2⟩
  have hidem : (d.step cfg st).state.svc.idempotency =
      (d.state.svc.complete a.pending st.req a.reply).idempotency := by
    rw [hstep, ← hsvc]
    obtain ⟨-, heq⟩ | ⟨-, e, -, heq⟩ := auditRequest_cases cfg st.env a st.req
    · rw [heq]
    · rw [heq]
      dsimp only
      rw [Service.applyAuditRetention_frame]
      rfl
  refine ⟨hpart, ?_, ?_⟩
  · rw [hidem, hanswer]
    cases hpending : a.pending with
    | none => exact .inl rfl
    | some sk =>
        obtain ⟨hkey, hslot⟩ := hfree sk.1 sk.2 hpending
        exact .inr ⟨sk.1, sk.2, hkey, hslot, rfl⟩
  · obtain ⟨-, heq⟩ | ⟨-, e, he, heq⟩ := auditRequest_cases cfg st.env a st.req
    · left
      rw [hstep, heq, hsvc]
      unfold Service.complete
      split <;> rfl
    · refine .inr ⟨a.replayed, ?_⟩
      have hseq : a.state.svc.nextSequence = d.state.svc.nextSequence := by
        rw [hsvc]
        unfold Service.complete
        split <;> rfl
      rw [hstep, heq, hanswer, he, hseq, hsvc]
      exact Service.auditPart_applyAuditRetention (auditPart_complete _ _ _ _ _) _

/-! ## Page requests -/

/-- The answer to the request is in the idempotency table. -/
def Service.HasAnswer (svc : Service) (req : Request) : Prop :=
  ∃ key r, idempotencyKey req.payload = some key ∧ svc.findIdempotencyRecord key.bytes = some r

lemma not_executes_of_hasAnswer {cfg : Config} {svc : Service} {req : Request}
    (hmut : operationMutates req.operation req.payload) (h : svc.HasAnswer req) :
    ¬ Executes cfg svc req := by
  rintro ⟨⟨pending, hexec⟩, -⟩
  obtain ⟨key, r, hkey, hfind⟩ := h
  obtain ⟨-, hnone⟩ | ⟨slot, key', -, -, hkey', hfind', -⟩ := tryIdempotencyReplay_execute hexec
  · rw [hnone hmut] at hkey
    cases hkey
  · rw [hkey] at hkey'
    cases hkey'
    rw [hfind] at hfind'
    cases hfind'

/-- A request that is answered without a stored answer is refused. -/
lemma tryIdempotencyReplay_unknown {svc : Service} {req : Request} {reply : Reply}
    (h : tryIdempotencyReplay svc req.operation req.payload = .handled reply)
    (hnew : ¬ svc.HasAnswer req) : reply.status = WireStatus.capacityExceeded := by
  unfold tryIdempotencyReplay at h
  split at h
  · cases h
  split at h
  · cases h
  rename_i key hkey
  split at h
  · split at h
    · cases h
      rfl
    · cases h
  · rename_i r hfind
    exact absurd ⟨key, r, hkey, hfind⟩ hnew

/-- A page request that is no successful commit leaves only its own entries. -/
lemma ownEntries_page {cfg : Config} {d : Daemon} {st : Step}
    (hop : st.req.operation = WireOperation.restoreSnapshotPage.code)
    (h : st.req.payload.getString "action" 32 ≠ some (ascii "commit") ∨
      ((cfg.storePath = true → st.writes.Land d.disk) ∧
        ((d.answer cfg st).status ≠ WireStatus.ok ∨ d.state.svc.HasAnswer st.req))) :
    OwnEntries cfg d st := by
  have hmut : operationMutates st.req.operation st.req.payload =
      (st.req.payload.getString "action" 32 == some (ascii "commit")) := by
    rw [hop, operationMutates_page]
  have hland : operationMutates st.req.operation st.req.payload → cfg.storePath = true →
      (answerRequest cfg st.env d.state st.req).reply.status = WireStatus.ok →
        st.writes.Land d.disk := by
    intro hm hpath _
    rw [hmut, beq_iff_eq] at hm
    exact (h.resolve_left (not_not.mpr hm)).1 hpath
  refine ownEntries_of_complete ?_ hland
  have hstands := Daemon.answer_cases cfg d st
  have ha := answerRequest_answered cfg st.env d.state st.req
  generalize answerRequest cfg st.env d.state st.req = a at ha hland hstands
  cases ha with
  | replayed _ => rfl
  | overQuota _ _ _ => rfl
  | @executed pending out svc cp rp hreplay hq hout hexec =>
      dsimp only at hstands ⊢
      rw [hop, dispatchOperation_page] at hout
      have hpage := restoreSnapshotPage_step d.state.svc d.state.stage st.req.payload
      generalize restoreSnapshotPage d.state.svc d.state.stage st.req.payload = page at hpage hout
      subst hout
      -- neither pass runs, since the request is no successful commit
      have hsame : page.1 = d.state.svc → (page.2.2.status = WireStatus.ok →
          st.req.payload.getString "action" 32 ≠ some (ascii "commit")) → svc = d.state.svc := by
        intro hpsvc hno
        have hflag : cp = true ∨ rp = true → False := by
          intro hf
          obtain ⟨hok, hm⟩ := hexec.success hf
          rw [hmut, beq_iff_eq] at hm
          exact hno hok hm
        exact (hexec.kept (Bool.eq_false_iff.mpr fun hc => hflag (.inl hc))
          (Bool.eq_false_iff.mpr fun hc => hflag (.inr hc))).trans hpsvc
      cases hpage with
      | begun hbegin _ _ => rw [hsame rfl fun _ => by rw [hbegin]; decide]
      | appended happend _ _ _ _ => rw [hsame rfl fun _ => by rw [happend]; decide]
      | passed _ hfail => rw [hsame rfl fun hok hc => hfail (.inr hc) hok]
      | committed hcommit _ _ _ =>
          obtain ⟨hwrites, hrefused⟩ := h.resolve_left (not_not.mpr hcommit)
          have hm : operationMutates st.req.operation st.req.payload = true := by
            rw [hmut, hcommit]
            decide
          rcases hrefused with herr | hstored
          · rcases hstands with hr | ⟨-, hpath, hland', -⟩
            · rw [hr] at herr
              exact absurd rfl herr
            · exact absurd (hwrites hpath) hland'
          · exact absurd ⟨⟨_, hreplay⟩, hq⟩ (not_executes_of_hasAnswer hm hstored)

/-- The table holds exactly the records of the staged pages, the last one under each key; the pages
came in order, and they are as many records as the begin said or end with a page that says so. -/
structure Staging.Installed (t : Staging) (svc : Service) : Prop where
  unique : svc.records.UniqueKeys Record.keyBytes
  records : ∀ k, svc.findRecord k = t.records.reverse.find? fun r => r.keyBytes = k
  order : ∀ i p, t.pages[i]? = some p → p.getU64Checked "page_index" = some (UInt64.ofNat i)
  expected : ∀ n, t.begun.getU64Checked "expected_records" = some n → svc.recordCount = n.toNat
  complete : t.begun.getU64Checked "expected_records" = none →
    ∃ p ∈ t.pages, p.getU32 "complete" 0 ≠ 0

/-- No retention pass deletes records of a restored table. -/
def Config.RetainsRecords (cfg : Config) : Prop :=
  ∀ l, cfg.limits = some l → l.maxRetainedRecords = 0 ∧ l.maxRetainedRecordAgeMs = 0

lemma Staging.Tracks.installed {t : Staging} {st : RestoreStage} (h : t.Tracks st) (svc : Service)
    (hexpected : ∀ n, st.expectedRecords = some n → st.svc.recordCount = n.toNat)
    (hcomplete : st.expectedRecords = none → st.sawComplete) :
    t.Installed (svc.install st.committed) where
  unique := SlotTable.UniqueKeys.upsertAll (SlotTable.uniqueKeys_empty _) h.records
  records := by
    intro k
    have := SlotTable.lookup_upsertAll (SlotTable.uniqueKeys_empty _) h.records k
    rw [show (SlotTable.empty : SlotTable Record maxRecords).lookup Record.keyBytes k = none from rfl,
      Option.or_none] at this
    exact this
  order := h.order
  expected := by
    intro n hn
    rw [← h.expected] at hn
    exact hexpected n hn
  complete := by
    intro hnone
    rw [← h.expected] at hnone
    rcases h.complete (hcomplete hnone) with hz | hpage
    · rw [← h.expected, hnone] at hz
      cases hz
    · exact hpage

lemma applyRecordRetention_off (svc : Service) {l : DaemonLimits} (nowMs : UInt64)
    (h : l.maxRetainedRecords = 0 ∧ l.maxRetainedRecordAgeMs = 0) :
    svc.applyRecordRetention l nowMs = (svc, false) := by
  simp [Service.applyRecordRetention, h.1, h.2]

/-- Without limits on records a request that registers no training artifact prunes nothing. -/
lemma answerRequest_retains {cfg : Config} {env : Env} {s : ServiceState} {req : Request}
    (hno : req.operation ≠ WireOperation.registerTrainingArtifact.code) (h : cfg.RetainsRecords) :
    (answerRequest cfg env s req).checkpointPruned = false ∧
      (answerRequest cfg env s req).recordPruned = false := by
  have hexec : (executeOperation cfg env s req).2.2 = (false, false) := by
    unfold executeOperation
    generalize dispatchOperation env cfg.storageRoot s req.operation req.payload = out
    obtain ⟨s₁, reply⟩ := out
    cases hl : cfg.limits with
    | none => rfl
    | some l =>
        simp only [hno, and_false, if_false]
        split
        · rw [applyRecordRetention_off _ _ (h l hl)]
        · rfl
  unfold answerRequest
  split
  · exact ⟨rfl, rfl⟩
  · dsimp only
    split
    · exact ⟨rfl, rfl⟩
    · rw [hexec]
      exact ⟨rfl, rfl⟩

/-- A commit that is answered as a success, and is no repeat, installs the staging. -/
lemma installed_of_commit {cfg : Config} {d : Daemon} {st : Step} {s : Option Staging}
    (hs : Staged s d.state.stage)
    (haction : st.req.restoreAction = some (ascii "commit"))
    (hnew : ¬ d.state.svc.HasAnswer st.req) (hok : (d.answer cfg st).status = WireStatus.ok) :
    ∃ t installed retained, s = some t ∧ t.Installed installed ∧ installed.Pruned retained ∧
      SameRecords retained (d.step cfg st).state.svc ∧
      (cfg.RetainsRecords → SameRecords installed (d.step cfg st).state.svc) := by
  have hop : st.req.operation = WireOperation.restoreSnapshotPage.code := by
    by_contra hno
    rw [Request.restoreAction, if_neg hno] at haction
    cases haction
  rw [Request.restoreAction, if_pos hop] at haction
  have hrecords : SameRecords (answerRequest cfg st.env d.state st.req).state.svc
    (d.step cfg st).state.svc := d.step_records cfg st
  have hreply : (answerRequest cfg st.env d.state st.req).reply.status = WireStatus.ok := by
    rcases d.answer_cases cfg st with h | ⟨-, -, -, h⟩
    · rw [← h]
      exact hok
    · rw [h] at hok
      exact absurd hok (by decide)
  have hflags := fun h => @answerRequest_retains cfg st.env d.state st.req
    (by rw [hop]; decide) h
  have ha := answerRequest_answered cfg st.env d.state st.req
  generalize answerRequest cfg st.env d.state st.req = a at ha hrecords hreply hflags
  cases ha with
  | replayed h =>
      rw [tryIdempotencyReplay_unknown h hnew] at hreply
      exact absurd hreply (by decide)
  | overQuota _ _ hq =>
      rw [hq] at hreply
      exact absurd hreply (by show ¬ WireStatus.capacityExceeded = WireStatus.ok; decide)
  | @executed pending out svc cp rp hreplay hq hout hexec =>
      rw [hop, dispatchOperation_page] at hout
      have hpage := restoreSnapshotPage_step d.state.svc d.state.stage st.req.payload
      generalize restoreSnapshotPage d.state.svc d.state.stage st.req.payload = page at hpage hout
      subst hout
      have hcompleted : SameRecords svc (d.step cfg st).state.svc :=
        SameRecords.trans (records_complete svc pending st.req page.2.2) hrecords
      cases hpage with
      | begun hbegin _ _ =>
          rw [hbegin] at haction
          exact absurd haction (by decide)
      | appended happend _ _ _ _ =>
          rw [happend] at haction
          exact absurd haction (by decide)
      | passed _ hfail => exact absurd hreply (hfail (.inr haction))
      | @committed stg hcommit hst hexpected hcomplete =>
          obtain ⟨t, hst', ht⟩ := hs stg hst
          refine ⟨t, _, svc, hst', ht.installed d.state.svc hexpected hcomplete, hexec.pruned,
            hcompleted, fun hret => ?_⟩
          have hsvc := hexec.kept (hflags hret).1 (hflags hret).2
          rw [show svc = _ from hsvc] at hcompleted
          exact hcompleted

/-- **The staged restore.**  For every sequence of requests from a start: a begin, append or cancel
request, and a commit that is answered with an error or from the idempotency table (its writes
landing), leaves the live tables alone but for its own entries; and a commit that is answered as a
success and is no repeat installs exactly the records of the pages accepted since the last begin, in
order and as many as expected, of which the retention pass of the same request may delete some. -/
theorem staged_restore {cfg : Config} {start : Daemon} (h : start.state.stage = none)
    (steps : List Step) (st : Step)
    (hop : st.req.operation = WireOperation.restoreSnapshotPage.code) {d : Daemon}
    (hd : d = start.run cfg steps) :
    (st.req.restoreAction ≠ some (ascii "commit") ∨
        ((cfg.storePath = true → st.writes.Land d.disk) ∧
          ((d.answer cfg st).status ≠ WireStatus.ok ∨ d.state.svc.HasAnswer st.req)) →
      OwnEntries cfg d st) ∧
    (st.req.restoreAction = some (ascii "commit") → ¬ d.state.svc.HasAnswer st.req →
      (d.answer cfg st).status = WireStatus.ok →
      ∃ t installed retained,
        staging (start.history cfg steps) = some t ∧
        t.Installed installed ∧ installed.Pruned retained ∧
        SameRecords retained (d.step cfg st).state.svc ∧
        (cfg.RetainsRecords → SameRecords installed (d.step cfg st).state.svc)) := by
  subst hd
  refine ⟨fun hno => ownEntries_page hop ?_, installed_of_commit ?_⟩
  · rwa [Request.restoreAction, if_pos hop] at hno
  · refine staged_run cfg ?_ steps
    rw [h]
    rintro _ ⟨⟩

/-- The first page of a restore, and its only one, with an object. -/
def onlyPage (key : Bytes) : Bytes :=
  unlines [ascii "action=append", ascii "page_index=0", ascii "complete=1", ascii "record_begin",
    ascii "kind=5", ascii "key=" ++ key, ascii "record_end"]

namespace Step

/-- The requests of a restore of one page. -/
def beginRestore : Step := .idle .restoreSnapshotPage ⟨ascii "action=begin", by decide, by decide⟩
@[inherit_doc beginRestore] def appendA : Step :=
  .idle .restoreSnapshotPage ⟨onlyPage (ascii "a"), by decide, by decide⟩
@[inherit_doc beginRestore] def appendB : Step :=
  .idle .restoreSnapshotPage ⟨onlyPage (ascii "b"), by decide, by decide⟩
@[inherit_doc beginRestore] def commit : Step :=
  .idle .restoreSnapshotPage ⟨ascii "action=commit", by decide, by decide⟩
@[inherit_doc beginRestore] def keyedCommit : Step :=
  .idle .restoreSnapshotPage
    ⟨unlines [ascii "idempotency_key=i", ascii "action=commit"], by decide, by decide⟩

end Step

theorem staged_restore_commit :
    ∃ installed, SameRecords installed
        ((Daemon.fresh.run Config.durable [.beginRestore, .appendA]).step Config.durable
          .commit).state.svc ∧
      ∃ t : Staging, t.Installed installed ∧
        staging (Daemon.fresh.history Config.durable [.beginRestore, .appendA]) = some t := by
  obtain ⟨t, installed, -, ht, hinst, -, -, hsame⟩ :=
    (@staged_restore Config.durable Daemon.fresh rfl [.beginRestore, .appendA] .commit rfl _ rfl).2
      (by decide +kernel)
      (by
        rintro ⟨key, r, hkey, -⟩
        rw [show idempotencyKey Step.commit.req.payload = none from by decide +kernel] at hkey
        cases hkey)
      (by decide +kernel)
  exact ⟨installed, hsame (by rintro _ ⟨⟩), t, hinst, ht⟩

/-- A repeated commit is answered from the idempotency table and installs nothing of what was staged
since; a commit that cannot be saved is answered as an internal error and has installed its
records. -/
theorem commit_answered_otherwise :
    (((Daemon.fresh.run Config.durable [.beginRestore, .appendA, .keyedCommit, .beginRestore,
        .appendB]).answer Config.durable .keyedCommit).status = WireStatus.ok ∧
      (staging (Daemon.fresh.history Config.durable [.beginRestore, .appendA, .keyedCommit,
        .beginRestore, .appendB])).map (fun t => t.records.map Record.keyBytes) =
        some [ascii "b"] ∧
      ((Daemon.fresh.run Config.durable [.beginRestore, .appendA, .keyedCommit, .beginRestore,
        .appendB, .keyedCommit]).state.svc.findRecord (ascii "b")) = none) ∧
    (((Daemon.fresh.run Config.durable [.beginRestore, .appendA]).answer Config.durable
        { Step.commit with writes := { Writes.allDone with save := false } }).status =
          WireStatus.internal ∧
      ((Daemon.fresh.run Config.durable [.beginRestore, .appendA,
        { Step.commit with writes := { Writes.allDone with save := false } }]).state.svc.findRecord
          (ascii "a")).isSome) := by
  decide +kernel

end MemService
