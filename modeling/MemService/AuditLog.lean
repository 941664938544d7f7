import MemService.AuditRing

/-!
# Reading the audit log in pages

A page of the audit log carries the events from a number on, at most as many as the client asks for and
at most 32, and says with which number to go on.  Unlike the paged export, it has no way to carry fewer
events than that: a page whose text does not fit the response is refused as a whole.

`auditPages_complete` is about a client that reads `next_sequence` and `complete` from the text of each
page.  If the pages fit, it gets every event of a sound ring once, by increasing numbers, and ends with a
page that says it is complete.
-/

open ByteText CNumeral

namespace MemService

/-! ## The text of a page -/

/-- The fields of one event of the log. -/
def auditLogFields (e : AuditEvent) : List (String × Bytes) :=
  [("sequence", showU64 e.sequence), ("monotonic_ms", showU64 e.monotonicMs),
    ("operation", showU32 e.operation), ("operation_name", operationName e.operation),
    ("status", showU32 e.status.code), ("status_name", e.status.name),
    ("request_checksum", showU32 e.requestChecksum),
    ("response_checksum", showU32 e.responseChecksum),
    ("idempotency_replay", showU32 e.idempotencyReplay), ("key", e.key.bytes),
    ("session_id", e.sessionId.bytes), ("model_key", e.modelKey.bytes),
    ("artifact_kind", e.artifactKind.bytes), ("artifact_id", e.artifactId.bytes),
    ("idempotency_key", e.idempotencyKey.bytes), ("version", showU64 e.version),
    ("checksum", showU64 e.checksum)]

/-- The fields in front of the events of a page. -/
def auditPageHeader (svc : Service) (start : UInt64) : List (String × Bytes) :=
  [("audit_log", decimal 1), ("retained_events", showU64 svc.auditEventCount),
    ("first_sequence", showU64 svc.auditFirstSequence), ("start_sequence", showU64 start)]

/-- The fields after the events of a page. -/
def auditPageTrailer (emitted : ℕ) (next : UInt64) (complete : Bool) : List (String × Bytes) :=
  [("events_emitted", decimal emitted), ("next_sequence", showU64 next),
    ("complete", decimal complete.toNat)]

/-- The number after the events of a page. -/
def nextAfterPage (start : UInt64) (events : List AuditEvent) : UInt64 :=
  (events.getLast?.map fun e => e.sequence + 1).getD start

/-- The text of a page from `start` on with these events. -/
def auditPageText (svc : Service) (start : UInt64) (events : List AuditEvent) : Bytes :=
  unlines ((auditPageHeader svc start).map fun f => fieldLine f.1 f.2) ++
    (unlines (events.flatMap auditLogLines) ++
      unlines ((auditPageTrailer events.length (nextAfterPage start events)
        (decide (nextAfterPage start events ≥ svc.auditNextSequence))).map
          fun f => fieldLine f.1 f.2))

/-- The number of events a page may carry. -/
def auditPageSize (maxEvents : UInt64) : ℕ := min (if maxEvents = 0 then 16 else maxEvents).toNat 32

/-- The number a page starts with. -/
def Service.auditStart (svc : Service) (asked : UInt64) : UInt64 :=
  if asked = 0 ∨ asked < svc.auditFirstSequence then svc.auditFirstSequence else asked

/-- A page is answered with its text if that fits. -/
lemma auditLog_eq {svc : Service} {p : Payload} {start : UInt64} {events : List AuditEvent}
    (hstart : start = svc.auditStart (p.getU64 "start_sequence" 0))
    (hevents : events = (svc.auditWindow start.toNat).take
      (auditPageSize (p.getU64 "max_events" 16)))
    (hfits : (auditPageText svc start events).length < maxPayloadLen) :
    auditLog svc p = ⟨WireStatus.ok, auditPageText svc start events⟩ := by
  have hflat : (unlines ((auditPageHeader svc start).map fun f => fieldLine f.1 f.2) ::
      events.map (fun e => unlines (auditLogLines e)) ++
      [unlines ((auditPageTrailer events.length (nextAfterPage start events)
        (decide (nextAfterPage start events ≥ svc.auditNextSequence))).map
          fun f => fieldLine f.1 f.2)]).flatten = auditPageText svc start events := by
    have hmap : (events.map fun e => unlines (auditLogLines e)).flatten =
        unlines (events.flatMap auditLogLines) := by
      clear hfits hevents
      induction events with
      | nil => rfl
      | cons e events ih =>
          rw [List.map_cons, List.flatten_cons, ih, List.flatMap_cons, unlines_append]
    rw [List.cons_append, List.flatten_cons, List.flatten_append, hmap]
    simp [auditPageText]
  have hpieces : auditLog svc p = .pieces
      (unlines ((auditPageHeader svc start).map fun f => fieldLine f.1 f.2) ::
        events.map (fun e => unlines (auditLogLines e)) ++
        [unlines ((auditPageTrailer events.length (nextAfterPage start events)
          (decide (nextAfterPage start events ≥ svc.auditNextSequence))).map
            fun f => fieldLine f.1 f.2)]) := by
    subst hevents hstart
    rfl
  rw [hpieces, Reply.pieces, fillBuffer_fits, hflat]
  · rfl
  · rw [hflat]
    simpa using hfits

/-! ## Reading a page -/

/-- A getter passes over lines that do not start with its name. -/
lemma payloadGetString_skip {ls : List Bytes} {name : Bytes}
    (hls : ∀ l ∈ ls, LF ∉ l ∧ (name ++ [EQ]).isPrefixOf l = false) (rest : Bytes) (cap : ℕ) :
    payloadGetString (unlines ls ++ rest) name cap = payloadGetString rest name cap := by
  have hnone : ls.find? (fun l => (name ++ [EQ]).isPrefixOf l) = none :=
    List.find?_eq_none.mpr fun l hl => by simp [(hls l hl).2]
  rw [payloadGetString, payloadGetString, lines_unlines fun l hl => (hls l hl).1, List.find?_append,
    hnone, Option.none_or]

/-- Fields of other names are passed over. -/
lemma skip_fieldLine {name : Bytes} (hname : EQ ∉ name) {f : String × Bytes}
    (hf : (EQ ∉ ascii f.1 ∧ Plain (ascii f.1)) ∧ name ≠ ascii f.1) (hplain : Plain f.2) :
    LF ∉ fieldLine f.1 f.2 ∧ (name ++ [EQ]).isPrefixOf (fieldLine f.1 f.2) = false := by
  refine ⟨?_, ?_⟩
  · intro hmem
    rcases List.mem_append.mp hmem with h | h
    · exact hf.1.2.lf h
    · rcases List.mem_cons.mp h with h | h
      · exact absurd h (by decide)
      · exact hplain.lf h
  · rw [fieldLine, isPrefixOf_field hname hf.1.1]
    exact decide_eq_false hf.2

lemma plain_operationName (code : UInt32) : Plain (operationName code) := by
  unfold operationName
  cases WireOperation.ofCode code with
  | none => decide
  | some o => cases o <;> decide

lemma plain_statusName (s : WireStatus) : Plain s.name := by
  unfold WireStatus.name
  repeat' split
  all_goals decide

lemma plain_auditLogFields (e : AuditEvent) : ∀ f ∈ auditLogFields e, Plain f.2 := by
  simp only [auditLogFields, List.forall_mem_cons, List.not_mem_nil, false_implies, implies_true,
    and_true]
  exact ⟨plain_decimal _, plain_decimal _, plain_decimal _, plain_operationName _, plain_decimal _,
    plain_statusName _, plain_decimal _, plain_decimal _, plain_decimal _, e.key.plain,
    e.sessionId.plain, e.modelKey.plain, e.artifactKind.plain, e.artifactId.plain,
    e.idempotencyKey.plain, plain_decimal _, plain_decimal _⟩

lemma plain_auditPageHeader (svc : Service) (start : UInt64) :
    ∀ f ∈ auditPageHeader svc start, Plain f.2 := by
  simp only [auditPageHeader, List.forall_mem_cons, List.not_mem_nil, false_implies, implies_true,
    and_true]
  exact ⟨plain_decimal _, plain_decimal _, plain_decimal _, plain_decimal _⟩

/-- The names a client looks for stand after the events only. -/
lemma payloadGetString_auditPage {name : Bytes}
    (hname : name = ascii "next_sequence" ∨ name = ascii "complete") (svc : Service) (start : UInt64)
    (events : List AuditEvent) (rest : Bytes) (cap : ℕ) :
    payloadGetString (unlines ((auditPageHeader svc start).map fun f => fieldLine f.1 f.2) ++
      (unlines (events.flatMap auditLogLines) ++ rest)) name cap = payloadGetString rest name cap := by
  have heq : EQ ∉ name := by rcases hname with rfl | rfl <;> decide
  have hheader : ∀ f ∈ auditPageHeader svc start,
      (EQ ∉ ascii f.1 ∧ Plain (ascii f.1)) ∧ name ≠ ascii f.1 := by
    simp only [auditPageHeader, List.forall_mem_cons, List.not_mem_nil, false_implies, implies_true,
      and_true]
    rcases hname with rfl | rfl <;> decide
  have hfields : ∀ e, ∀ f ∈ auditLogFields e,
      (EQ ∉ ascii f.1 ∧ Plain (ascii f.1)) ∧ name ≠ ascii f.1 := by
    intro e f hf
    have hnames : ∀ n ∈ ["sequence", "monotonic_ms", "operation", "operation_name", "status",
        "status_name", "request_checksum", "response_checksum", "idempotency_replay", "key",
        "session_id", "model_key", "artifact_kind", "artifact_id", "idempotency_key", "version",
        "checksum"], (EQ ∉ ascii n ∧ Plain (ascii n)) ∧ name ≠ ascii n := by
      rcases hname with rfl | rfl <;> decide
    exact hnames f.1 (List.mem_map_of_mem (f := Prod.fst) hf)
  have hmarks : ∀ l ∈ [ascii "audit_begin", ascii "audit_end"],
      LF ∉ l ∧ (name ++ [EQ]).isPrefixOf l = false := by
    rcases hname with rfl | rfl <;> decide
  rw [payloadGetString_skip, payloadGetString_skip]
  · intro l hl
    obtain ⟨e, -, hl⟩ := List.mem_flatMap.mp hl
    have hlines : auditLogLines e = [ascii "audit_begin"] ++
        (auditLogFields e).map (fun f => fieldLine f.1 f.2) ++ [ascii "audit_end"] := rfl
    rw [hlines, List.mem_append, List.mem_append] at hl
    rcases hl with (hl | hl) | hl
    · exact hmarks l (by simp_all)
    · obtain ⟨f, hf, rfl⟩ := List.mem_map.mp hl
      exact skip_fieldLine heq (hfields e f hf) (plain_auditLogFields e f hf)
    · exact hmarks l (by simp_all)
  · intro l hl
    obtain ⟨f, hf, rfl⟩ := List.mem_map.mp hl
    exact skip_fieldLine heq (hheader f hf) (plain_auditPageHeader svc start f hf)

lemma auditPageTrailer_plain (emitted : ℕ) (next : UInt64) (complete : Bool) :
    ∀ f ∈ auditPageTrailer emitted next complete,
      EQ ∉ ascii f.1 ∧ Plain (ascii f.1) ∧ Plain f.2 := by
  simp only [auditPageTrailer, List.forall_mem_cons, List.not_mem_nil, false_implies, implies_true,
    and_true]
  exact ⟨⟨by decide, by decide, plain_decimal _⟩, ⟨by decide, by decide, plain_decimal _⟩,
    ⟨by decide, by decide, plain_decimal _⟩⟩

/-- The client reads the next number and the end of the log from a page. -/
lemma auditPageText_read (svc : Service) (start : UInt64) (events : List AuditEvent) :
    pageComplete (auditPageText svc start events) =
        decide (nextAfterPage start events ≥ svc.auditNextSequence) ∧
      payloadGetU64 (auditPageText svc start events) (ascii "next_sequence") 0 =
        nextAfterPage start events := by
  have hchecked : ∀ {name : Bytes} {f : String × Bytes} {x : UInt64},
      (name = ascii "next_sequence" ∨ name = ascii "complete") →
      (auditPageTrailer events.length (nextAfterPage start events)
        (decide (nextAfterPage start events ≥ svc.auditNextSequence))).find?
          (fun f => decide (name = ascii f.1)) = some f → f.2 = decimal x.toNat →
      payloadGetU64Checked (auditPageText svc start events) name = some x := by
    intro name f x hname hfind hf
    have heq : EQ ∉ name := by rcases hname with rfl | rfl <;> decide
    have h := @payloadGetU64Checked_fields _ [] name f x heq
      (auditPageTrailer_plain events.length _ _) hfind hf
    rw [List.append_nil] at h
    rw [payloadGetU64Checked, auditPageText, payloadGetString_auditPage hname]
    exact h
  constructor
  · rw [pageComplete, payloadGetU32, payloadGetU32Checked,
      @hchecked _ _ (if decide (nextAfterPage start events ≥ svc.auditNextSequence) then 1 else 0)
        (.inr rfl) rfl (by cases decide (nextAfterPage start events ≥ svc.auditNextSequence) <;> rfl)]
    cases decide (nextAfterPage start events ≥ svc.auditNextSequence) <;> rfl
  · rw [payloadGetU64, @hchecked _ _ (nextAfterPage start events) (.inl rfl) rfl rfl,
      Option.getD_some]

/-! ## The client -/

/-- The fields of a request for a page. -/
def auditRequestFields (start maxEvents : UInt64) : List (String × Bytes) :=
  [("start_sequence", showU64 start), ("max_events", showU64 maxEvents)]

lemma auditRequestFields_plain (start maxEvents : UInt64) :
    ∀ f ∈ auditRequestFields start maxEvents, EQ ∉ ascii f.1 ∧ Plain (ascii f.1) ∧ Plain f.2 := by
  simp only [auditRequestFields, List.forall_mem_cons, List.not_mem_nil, false_implies, implies_true,
    and_true]
  exact ⟨⟨by decide, by decide, plain_decimal _⟩, ⟨by decide, by decide, plain_decimal _⟩⟩

lemma length_auditRequest_le (start maxEvents : UInt64) :
    (unlines ((auditRequestFields start maxEvents).map fun f => fieldLine f.1 f.2)).length ≤
      maxPayloadLen := by
  have h₁ := length_decimal_u64 start
  have h₂ := length_decimal_u64 maxEvents
  have h₃ : (ascii "start_sequence").length = 14 ∧ (ascii "max_events").length = 10 := by decide
  have h₄ : maxPayloadLen = 4096 := rfl
  rw [length_unlines]
  simp only [auditRequestFields, List.map_cons, List.map_nil, List.sum_cons, List.sum_nil, fieldLine,
    List.length_append, List.length_cons, showU64]
  omega

/-- The request for the page from `start` on. -/
def auditRequestPayload (start maxEvents : UInt64) : Payload where
  bytes := unlines ((auditRequestFields start maxEvents).map fun f => fieldLine f.1 f.2)
  noNul := nul_notMem_fieldLines (auditRequestFields_plain start maxEvents)
  length_le := length_auditRequest_le start maxEvents

lemma auditRequestPayload_fields (start maxEvents : UInt64) :
    (auditRequestPayload start maxEvents).getU64 "start_sequence" 0 = start ∧
      (auditRequestPayload start maxEvents).getU64 "max_events" 16 = maxEvents := by
  have h₁ := @payloadGetU64Checked_fields (auditRequestFields start maxEvents) []
    (ascii "start_sequence") ("start_sequence", showU64 start) start (by decide)
    (auditRequestFields_plain _ _) rfl rfl
  have h₂ := @payloadGetU64Checked_fields (auditRequestFields start maxEvents) []
    (ascii "max_events") ("max_events", showU64 maxEvents) maxEvents (by decide)
    (auditRequestFields_plain _ _) rfl rfl
  rw [List.append_nil] at h₁ h₂
  constructor
  · rw [Payload.getU64, payloadGetU64]
    exact congrArg (Option.getD · 0) h₁
  · rw [Payload.getU64, payloadGetU64]
    exact congrArg (Option.getD · 16) h₂

/-- The client: from `start` on, ask for the next page until one is complete or refused.  The answers
it got, for at most `fuel` requests. -/
def auditPages (svc : Service) (maxEvents : UInt64) : ℕ → UInt64 → List Reply
  | 0, _ => []
  | fuel + 1, start =>
      let reply := auditLog svc (auditRequestPayload start maxEvents)
      if reply.status ≠ WireStatus.ok ∨ pageComplete reply.response then [reply]
      else
        reply :: auditPages svc maxEvents fuel
          (payloadGetU64 reply.response (ascii "next_sequence") 0)

/-- The events the ring retains, by increasing numbers. -/
def Service.retainedEvents (svc : Service) : List AuditEvent :=
  svc.auditWindow svc.auditFirstSequence.toNat

/-- The text of every page a client asks for fits the response. -/
def Service.AuditPagesFit (svc : Service) (maxEvents : UInt64) : Prop :=
  ∀ k, k = 0 ∨ k * auditPageSize maxEvents < svc.retainedEvents.length →
    (auditPageText svc (svc.auditFirstSequence + UInt64.ofNat (k * auditPageSize maxEvents))
      ((svc.retainedEvents.drop (k * auditPageSize maxEvents)).take
        (auditPageSize maxEvents))).length < maxPayloadLen

lemma length_statusName_le (s : WireStatus) : s.name.length ≤ 21 := by
  unfold WireStatus.name
  repeat' split
  all_goals decide

lemma length_operationName_le (code : UInt32) : (operationName code).length ≤ 32 := by
  unfold operationName
  cases WireOperation.ofCode code with
  | none => decide
  | some o => cases o <;> decide

/-- The lines of one event fit into 900 bytes, whatever its texts are. -/
lemma length_auditLogLines_le (e : AuditEvent) : (unlines (auditLogLines e)).length ≤ 900 := by
  have hline : ∀ {name : String} {v : Bytes} {n k : ℕ}, (ascii name).length = n → v.length ≤ k →
      (fieldLine name v).length + 1 ≤ n + k + 2 := by
    intro name v n k hn hk
    rw [fieldLine, List.length_append, List.length_cons]
    omega
  have hnumber : ∀ {name : String} {n : ℕ} (x : UInt64), (ascii name).length = n →
      (fieldLine name (showU64 x)).length + 1 ≤ n + 22 :=
    fun x hn => hline hn (length_decimal_u64 x)
  have hcode : ∀ {name : String} {n : ℕ} (x : UInt32), (ascii name).length = n →
      (fieldLine name (showU32 x)).length + 1 ≤ n + 12 :=
    fun x hn => hline hn (length_decimal_u32 x)
  have htext : ∀ {name : String} {n cap : ℕ} (t : FieldText cap), (ascii name).length = n →
      (fieldLine name t.bytes).length + 1 ≤ n + cap + 1 := by
    intro name n cap t hn
    have ht := t.length_lt
    exact (hline hn (Nat.le_sub_one_of_lt ht)).trans (by omega)
  rw [length_unlines]
  simp only [auditLogLines, List.map_cons, List.map_nil, List.sum_cons, List.sum_nil]
  refine (Nat.add_le_add (show _ ≤ 12 by decide) <|
    Nat.add_le_add (hnumber _ (n := 8) (by decide)) <|
    Nat.add_le_add (hnumber _ (n := 12) (by decide)) <|
    Nat.add_le_add (hcode _ (n := 9) (by decide)) <|
    Nat.add_le_add (hline (n := 14) (by decide) (length_operationName_le _)) <|
    Nat.add_le_add (hcode _ (n := 6) (by decide)) <|
    Nat.add_le_add (hline (n := 11) (by decide) (length_statusName_le _)) <|
    Nat.add_le_add (hcode _ (n := 16) (by decide)) <|
    Nat.add_le_add (hcode _ (n := 17) (by decide)) <|
    Nat.add_le_add (hcode _ (n := 18) (by decide)) <|
    Nat.add_le_add (htext _ (n := 3) (by decide)) <|
    Nat.add_le_add (htext _ (n := 10) (by decide)) <|
    Nat.add_le_add (htext _ (n := 9) (by decide)) <|
    Nat.add_le_add (htext _ (n := 13) (by decide)) <|
    Nat.add_le_add (htext _ (n := 11) (by decide)) <|
    Nat.add_le_add (htext _ (n := 15) (by decide)) <|
    Nat.add_le_add (hnumber _ (n := 7) (by decide)) <|
    Nat.add_le_add (hnumber _ (n := 8) (by decide)) (show _ ≤ 10 by decide)).trans (by decide)

/-- A page of four events fits the response. -/
lemma length_auditPageText_lt (svc : Service) (start : UInt64) {events : List AuditEvent}
    (h : events.length ≤ 4) : (auditPageText svc start events).length < maxPayloadLen := by
  have hevents : (unlines (events.flatMap auditLogLines)).length ≤ 900 * events.length := by
    clear h
    induction events with
    | nil => exact Nat.zero_le _
    | cons e events ih =>
        have he := length_auditLogLines_le e
        rw [List.flatMap_cons, unlines_append, List.length_append, List.length_cons]
        omega
  have hnames : (ascii "audit_log").length = 9 ∧ (ascii "retained_events").length = 15 ∧
      (ascii "first_sequence").length = 14 ∧ (ascii "start_sequence").length = 14 ∧
      (ascii "events_emitted").length = 14 ∧ (ascii "next_sequence").length = 13 ∧
      (ascii "complete").length = 8 := by
    decide
  have hone : (decimal 1).length = 1 := by decide
  have hcount := length_decimal_u64 svc.auditEventCount
  have hfirst := length_decimal_u64 svc.auditFirstSequence
  have hstart := length_decimal_u64 start
  have hnext := length_decimal_u64 (nextAfterPage start events)
  have hemitted : (decimal events.length).length ≤ 20 := length_decimal_le (by decide) (by omega)
  have hcomplete : ∀ b : Bool, (decimal b.toNat).length = 1 := by decide
  have hpayload : maxPayloadLen = 4096 := rfl
  rw [auditPageText, List.length_append, List.length_append, length_unlines, length_unlines (List.map _ _)]
  simp only [auditPageHeader, auditPageTrailer, List.map_cons, List.map_nil, List.sum_cons,
    List.sum_nil, fieldLine, List.length_append, List.length_cons, showU64, hcomplete, hone, hnames]
  omega

lemma auditPageSize_pos (maxEvents : UInt64) : 0 < auditPageSize maxEvents := by
  unfold auditPageSize
  split
  · decide
  · rename_i hne
    have : maxEvents.toNat ≠ 0 := fun hz => hne (UInt64.toNat_inj.mp hz)
    omega

namespace Service.RingSound

variable {svc : Service}

lemma auditFirstSequence_toNat (h : svc.RingSound) : svc.auditFirstSequence.toNat =
    svc.auditNextSequence.toNat - svc.auditEventCount.toNat := by
  have hlt := h.count_lt
  unfold auditFirstSequence
  split
  · rename_i hz
    have hcount := hz.resolve_right h.next_ne_zero
    have hzero : svc.auditEventCount.toNat = 0 := by rw [hcount]; rfl
    rw [hzero, h.started hzero]
    rfl
  · have hgt : svc.auditEventCount < svc.auditNextSequence := UInt64.lt_iff_toNat_lt.mpr hlt
    rw [if_neg (UInt64.not_le.mpr hgt), UInt64.toNat_sub_of_le _ _ (UInt64.le_of_lt hgt)]

lemma retainedEvents_numbers (h : svc.RingSound) : svc.retainedEvents.map AuditEvent.number =
    List.range' (svc.auditNextSequence.toNat - svc.auditEventCount.toNat)
      svc.auditEventCount.toNat := by
  have hlt := h.count_lt
  rw [retainedEvents, h.auditFirstSequence_toNat, h.auditWindow_numbers (max_self _).symm]
  congr 1
  omega

/-- The events from a later number on are what is left. -/
lemma auditWindow_drop (h : svc.RingSound) {start : ℕ} (hlo : svc.auditFirstSequence.toNat ≤ start)
    (hhi : start ≤ svc.auditNextSequence.toNat) :
    svc.auditWindow start = svc.retainedEvents.drop (start - svc.auditFirstSequence.toNat) := by
  have hfirst := h.auditFirstSequence_toNat
  have hsplit := @List.range'_append svc.auditFirstSequence.toNat
    (start - svc.auditFirstSequence.toNat) (svc.auditNextSequence.toNat - start) 1
  rw [show svc.auditFirstSequence.toNat + 1 * (start - svc.auditFirstSequence.toNat) = start by omega,
    show start - svc.auditFirstSequence.toNat + (svc.auditNextSequence.toNat - start) =
      svc.auditNextSequence.toNat - svc.auditFirstSequence.toNat by omega] at hsplit
  have hlen : ((List.range' svc.auditFirstSequence.toNat
      (start - svc.auditFirstSequence.toNat)).filterMap svc.findAuditSequence).length =
        start - svc.auditFirstSequence.toNat := by
    rw [List.filterMap_length_eq_length.mpr, List.length_range']
    intro k hk
    rw [List.mem_range'_1] at hk
    have hnumber := h.findAuditSequence_number k
    rw [if_pos ⟨by omega, by omega⟩] at hnumber
    obtain ⟨e, he, -⟩ := Option.map_eq_some_iff.mp hnumber
    rw [he]
    rfl
  have hall : svc.retainedEvents = (List.range' svc.auditFirstSequence.toNat
      (start - svc.auditFirstSequence.toNat)).filterMap svc.findAuditSequence ++
        svc.auditWindow start := by
    rw [retainedEvents, auditWindow, ← hsplit, List.filterMap_append]
    rfl
  rw [hall, List.drop_left' hlen]

end Service.RingSound

/-- A page that was answered with the events `g`. -/
def AuditPageOf (svc : Service) (reply : Reply) (g : List AuditEvent) : Prop :=
  reply.status = WireStatus.ok ∧ ∃ start, reply.response = auditPageText svc start g

/-- The number after a page: as many further as it has events. -/
lemma nextAfterPage_toNat {start : UInt64} {g : List AuditEvent}
    (hg : g.map AuditEvent.number = List.range' start.toNat g.length)
    (hroom : start.toNat + g.length < 2 ^ 64) :
    (nextAfterPage start g).toNat = start.toNat + g.length := by
  rcases g.eq_nil_or_concat with rfl | ⟨init, e, rfl⟩
  · rfl
  · rw [List.concat_eq_append, List.length_append, List.length_singleton] at hg hroom ⊢
    have hlast : e.number = start.toNat + init.length := by
      rw [List.map_append, List.range'_concat] at hg
      have := List.append_inj_right' hg rfl
      simpa using this
    have hsucc : (e.sequence + 1).toNat = e.sequence.toNat + 1 :=
      toNat_succ (by rw [AuditEvent.number] at hlast; omega)
    rw [AuditEvent.number] at hlast
    rw [nextAfterPage, List.getLast?_concat, Option.map_some, Option.getD_some, hsucc]
    omega

/-- The pages from the `k`-th on: the induction is on the requests. -/
lemma auditPages_from {svc : Service} (h : svc.RingSound) {maxEvents : UInt64}
    (hfits : svc.AuditPagesFit maxEvents) (fuel k : ℕ) {asked : UInt64}
    (hk : k = 0 ∨ k * auditPageSize maxEvents < svc.retainedEvents.length)
    (hasked : svc.auditStart asked =
      svc.auditFirstSequence + UInt64.ofNat (k * auditPageSize maxEvents))
    (hfuel : svc.retainedEvents.length - k * auditPageSize maxEvents < fuel) :
    ∃ gs, gs.flatten = svc.retainedEvents.drop (k * auditPageSize maxEvents) ∧
      List.Forall₂ (AuditPageOf svc) (auditPages svc maxEvents fuel asked) gs ∧
      ∃ last, (auditPages svc maxEvents fuel asked).getLast? = some last ∧
        pageComplete last.response := by
  induction fuel generalizing k asked with
  | zero => cases hfuel
  | succ fuel ih =>
      have hpos := auditPageSize_pos maxEvents
      have hpage := hfits k hk
      generalize hm : auditPageSize maxEvents = m at hpos hpage hk hasked hfuel ih ⊢
      have hnumbers := h.retainedEvents_numbers
      have hlen : svc.retainedEvents.length = svc.auditEventCount.toNat := by
        have := congrArg List.length hnumbers
        rwa [List.length_map, List.length_range'] at this
      have hlt := h.count_lt
      have hfirst := h.auditFirstSequence_toNat
      have hnext := svc.auditNextSequence.toNat_lt
      have hoffset : k * m ≤ svc.retainedEvents.length := by
        rcases hk with rfl | hk
        · omega
        · omega
      have hstart : (svc.auditFirstSequence + UInt64.ofNat (k * m)).toNat =
          svc.auditFirstSequence.toNat + k * m := by
        rw [UInt64.toNat_add, UInt64.toNat_ofNat', Nat.mod_eq_of_lt (show k * m < 2 ^ 64 by omega),
          Nat.mod_eq_of_lt (by omega)]
      generalize hs : svc.auditFirstSequence + UInt64.ofNat (k * m) = start at hstart hpage hasked
      generalize hg : (svc.retainedEvents.drop (k * m)).take m = g at hpage
      have hwindow : svc.auditWindow start.toNat = svc.retainedEvents.drop (k * m) := by
        rw [h.auditWindow_drop (by omega) (by omega), hstart]
        congr 1
        omega
      obtain ⟨hreadStart, hreadMax⟩ := auditRequestPayload_fields asked maxEvents
      have hreply : auditLog svc (auditRequestPayload asked maxEvents) =
          ⟨WireStatus.ok, auditPageText svc start g⟩ := by
        refine auditLog_eq (by rw [hreadStart, hasked]) ?_ hpage
        rw [hreadMax, hm, hwindow, hg]
      have hglen : g.length = min m (svc.retainedEvents.length - k * m) := by
        rw [← hg, List.length_take, List.length_drop]
      have hgnumbers : g.map AuditEvent.number = List.range' start.toNat g.length := by
        have hdrop : (svc.retainedEvents.drop (k * m)).map AuditEvent.number =
            List.range' start.toNat (svc.auditEventCount.toNat - k * m) := by
          rw [List.map_drop, hnumbers, List.drop_range', Nat.mul_one, hstart, hfirst]
        have htake : (svc.retainedEvents.drop (k * m)).take m =
            (svc.retainedEvents.drop (k * m)).take g.length := by
          rw [hglen, List.take_eq_take_min, List.length_drop]
        conv_lhs => rw [← hg, htake, List.map_take, hdrop]
        exact List.take_range'_of_length_ge (by omega)
      have hnextPage := nextAfterPage_toNat hgnumbers (by omega)
      obtain ⟨hcomplete, hread⟩ := auditPageText_read svc start g
      have hof : AuditPageOf svc ⟨WireStatus.ok, auditPageText svc start g⟩ g := ⟨rfl, start, rfl⟩
      simp only [auditPages, hreply, hcomplete, hread, ne_eq, not_true_eq_false, false_or]
      by_cases hlast : svc.retainedEvents.length ≤ k * m + m
      · have hge : nextAfterPage start g ≥ svc.auditNextSequence := by
          rw [ge_iff_le, UInt64.le_iff_toNat_le, hnextPage]
          omega
        rw [if_pos (decide_eq_true hge)]
        refine ⟨[g], ?_, .cons hof .nil, ⟨WireStatus.ok, auditPageText svc start g⟩, rfl,
          hcomplete.trans (decide_eq_true hge)⟩
        rw [List.flatten_cons, List.flatten_nil, List.append_nil, ← hg, List.take_of_length_le]
        rw [List.length_drop]
        omega
      · have hnot : ¬ nextAfterPage start g ≥ svc.auditNextSequence := by
          rw [ge_iff_le, UInt64.le_iff_toNat_le, hnextPage]
          omega
        rw [if_neg (by rw [decide_eq_true_eq]; exact hnot)]
        have hmul : (k + 1) * m = k * m + m := Nat.succ_mul k m
        have hresume : svc.auditStart (nextAfterPage start g) =
            svc.auditFirstSequence + UInt64.ofNat ((k + 1) * m) := by
          have hnat : (nextAfterPage start g).toNat = svc.auditFirstSequence.toNat + (k + 1) * m := by
            omega
          have heq : nextAfterPage start g =
              svc.auditFirstSequence + UInt64.ofNat ((k + 1) * m) := by
            refine UInt64.toNat_inj.mp ?_
            rw [hnat, UInt64.toNat_add, UInt64.toNat_ofNat',
              Nat.mod_eq_of_lt (show (k + 1) * m < 2 ^ 64 by omega), Nat.mod_eq_of_lt (by omega)]
          rw [Service.auditStart, if_neg, heq]
          rintro (hz | hz)
          · rw [hz] at hnat
            have : (0 : UInt64).toNat = 0 := rfl
            omega
          · rw [UInt64.lt_iff_toNat_lt] at hz
            omega
        obtain ⟨gs, hflat, hpages, last, hgetLast, hend⟩ := ih (k + 1) (.inr (by omega)) hresume
          (by omega)
        refine ⟨g :: gs, ?_, .cons hof hpages, last, ?_, hend⟩
        · rw [List.flatten_cons, hflat, ← hg, hmul, ← List.drop_drop, List.take_append_drop]
        · rw [List.getLast?_cons, hgetLast]
          rfl

/-- **Reading the log in pages.**  From a sound ring whose pages fit, a client gets every retained event
once, by increasing numbers, and ends with a complete page. -/
lemma auditPages_complete {svc : Service} (h : svc.RingSound) {maxEvents : UInt64}
    (hfits : svc.AuditPagesFit maxEvents) {fuel : ℕ} (hfuel : svc.auditEventCount.toNat < fuel) :
    ∃ gs, gs.flatten = svc.retainedEvents ∧
      List.Forall₂ (AuditPageOf svc) (auditPages svc maxEvents fuel 0) gs ∧
      ∃ last, (auditPages svc maxEvents fuel 0).getLast? = some last ∧
        pageComplete last.response := by
  have hlen : svc.retainedEvents.length = svc.auditEventCount.toNat := by
    have := congrArg List.length h.retainedEvents_numbers
    rwa [List.length_map, List.length_range'] at this
  have hstart : svc.auditStart 0 =
      svc.auditFirstSequence + UInt64.ofNat (0 * auditPageSize maxEvents) := by
    rw [Service.auditStart, if_pos (.inl rfl), Nat.zero_mul]
    exact (UInt64.add_zero _).symm
  have hpages := auditPages_from h hfits fuel 0 (.inl rfl) hstart (by omega)
  rwa [Nat.zero_mul, List.drop_zero] at hpages

end MemService
