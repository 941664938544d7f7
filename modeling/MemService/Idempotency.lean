import MemService.Reachable

/-!
# Exactly-once answers

A mutating request with an idempotency key leaves its answer in the idempotency table.  A repeat is
answered from the table and not executed; another mutating request under the same key is refused; and
a new key that finds the table full is refused before anything runs, so that an answer is dropped only
by a retention pass or a restore.

What the client of a repeat gets is the stored answer with one exception.  The repeat is itself
audited and made durable, and a stored success whose repeat cannot be made durable is answered as an
internal error.
-/

open ByteText CNumeral

namespace MemService

/-! ## The idempotency table after a request -/

/-- Nothing but its own answer happens to the idempotency table during the request: no retention pass
deletes and no restore replaces the tables. -/
structure KeepsAnswers (cfg : Config) (d : Daemon) (st : Step) : Prop where
  checkpoint : (answerRequest cfg st.env d.state st.req).checkpointPruned = false
  record : (answerRequest cfg st.env d.state st.req).recordPruned = false
  restore : operationMutates st.req.operation st.req.payload →
    st.req.operation ≠ WireOperation.restoreSnapshot.code ∧
      st.req.operation ≠ WireOperation.restoreSnapshotPage.code

lemma get_complete {svc : Service} {slot : ℕ} {key : FieldText 96} {req : Request} {reply : Reply}
    (hslot : slot < maxIdempotencyRecords) (i : ℕ) :
    (svc.complete (some (slot, key)) req reply).idempotency.get i =
      if i = slot then some (completedRecord key req reply) else svc.idempotency.get i :=
  SlotTable.get_put hslot _ _

/-- Filling the slot a second time forgets the first. -/
lemma get_complete_complete {svc svc' : Service} {pending : Option (ℕ × FieldText 96)}
    {req : Request} {reply reply' : Reply} (hres : svc'.Reserves pending) (i : ℕ) :
    ((svc.complete pending req reply).complete pending req reply').idempotency.get i =
      (svc.complete pending req reply').idempotency.get i := by
  cases pending with
  | none => rfl
  | some sk =>
      obtain ⟨slot, key⟩ := sk
      obtain ⟨hslot, -, -⟩ := hres slot key rfl
      rw [get_complete hslot, get_complete hslot, get_complete hslot]
      by_cases hi : i = slot
      · rw [if_pos hi, if_pos hi]
      · rw [if_neg hi, if_neg hi, if_neg hi]

/-- The table of an answered request is some table with the answer in its slot, and the table of
before with the answer in its slot if nothing else happens to it. -/
lemma Answered.completes {cfg : Config} {d : Daemon} {st : Step} (hw : d.state.svc.WellFormed) :
    ∃ svc : Service, (answerRequest cfg st.env d.state st.req).state.svc =
        svc.complete (answerRequest cfg st.env d.state st.req).pending st.req
          (answerRequest cfg st.env d.state st.req).reply ∧
      (KeepsAnswers cfg d st → svc.idempotency = d.state.svc.idempotency) := by
  have ha := answerRequest_answered cfg st.env d.state st.req
  have hkept : KeepsAnswers cfg d st → _ := fun h => h
  revert hkept
  generalize hans : answerRequest cfg st.env d.state st.req = a at ha
  intro hkept
  cases ha with
  | replayed _ => exact ⟨_, rfl, fun _ => rfl⟩
  | overQuota _ _ _ => exact ⟨_, rfl, fun _ => rfl⟩
  | @executed pending out svc cp rp h _ hout hexec =>
      refine ⟨svc, rfl, fun hkeep => ?_⟩
      have hcp : cp = false := by
        have := hkeep.checkpoint
        rwa [hans] at this
      have hrp : rp = false := by
        have := hkeep.record
        rwa [hans] at this
      have hsvc : svc = out.1.svc := hexec.kept hcp hrp
      have heff := dispatchOperation_effect st.env cfg.storageRoot hw.recordKeys st.req
      rw [hout] at heff
      rw [hsvc]
      cases heff with
      | unchanged _ => rfl
      | staged _ _ => rfl
      | wrote _ hwrite _ =>
          obtain ⟨rs, hchain⟩ := hwrite.chain
          rw [Service.putAll_frame hchain.put]
      | restored hmut hop _ _ => exact absurd hop (hkeep.restore hmut).1
      | committed hmut hop _ => exact absurd hop (hkeep.restore hmut).2

/-- The stored answers after a request: those of the answered request, with the answer the client got in
its slot. -/
lemma Daemon.WellFormed.step_idempotency_of {d : Daemon} (hw : d.WellFormed) {cfg : Config}
    {st : Step} {svc : Service}
    (hsvc : (answerRequest cfg st.env d.state st.req).state.svc =
      svc.complete (answerRequest cfg st.env d.state st.req).pending st.req
        (answerRequest cfg st.env d.state st.req).reply) (i : ℕ) :
    (d.step cfg st).state.svc.idempotency.get i =
      (svc.complete (answerRequest cfg st.env d.state st.req).pending st.req
        (d.answer cfg st)).idempotency.get i := by
  have ha := answerRequest_answered cfg st.env d.state st.req
  obtain ⟨hwa, -, hres⟩ := ha.wellFormed hw.1 hw.2
  obtain ⟨-, hidem⟩ := wellFormed_auditRequest ha hwa
  have hshow : (d.step cfg st).state.svc = (persistRequest cfg st.env st.writes d.disk
    (answerRequest cfg st.env d.state st.req) st.req
    (auditRequest cfg st.env (answerRequest cfg st.env d.state st.req) st.req)).svc := rfl
  have hanswer : d.answer cfg st = (persistRequest cfg st.env st.writes d.disk
    (answerRequest cfg st.env d.state st.req) st.req
    (auditRequest cfg st.env (answerRequest cfg st.env d.state st.req) st.req)).reply := rfl
  rw [hshow, hanswer]
  obtain ⟨hp, hr⟩ | ⟨-, -, -, -, hp, hr⟩ := persistRequest_cases cfg st.env st.writes d.disk
    (answerRequest cfg st.env d.state st.req) st.req
    (auditRequest cfg st.env (answerRequest cfg st.env d.state st.req) st.req)
  · rw [hp, hr, hidem, hsvc]
  · rw [hp, hr]
    -- the slot is filled a second time, with the failure
    have hagain : ∀ s s' : Service, s'.idempotency = s.idempotency →
        (s'.complete (answerRequest cfg st.env d.state st.req).pending st.req
          saveFailedReply).idempotency =
        (s.complete (answerRequest cfg st.env d.state st.req).pending st.req
          saveFailedReply).idempotency := by
      intro s s' hs
      unfold Service.complete
      split
      · exact hs
      · simp only [hs]
    have hframe : ∀ (s : Service) (e : AuditEvent), (s.recordAudit e).idempotency =
        s.idempotency := fun _ _ => rfl
    rw [hframe, hagain _ _ (hidem.trans (congrArg Service.idempotency hsvc))]
    exact get_complete_complete hres i

/-- The table after a request, with the answer the client got in its slot. -/
lemma Daemon.WellFormed.step_idempotency {d : Daemon} (hw : d.WellFormed) (cfg : Config)
    (st : Step) :
    ∃ svc : Service, (∀ i, (d.step cfg st).state.svc.idempotency.get i =
        (svc.complete (answerRequest cfg st.env d.state st.req).pending st.req
          (d.answer cfg st)).idempotency.get i) ∧
      (KeepsAnswers cfg d st → svc.idempotency = d.state.svc.idempotency) := by
  obtain ⟨svc, hsvc, hkeep⟩ := @Answered.completes cfg d st hw.1
  exact ⟨svc, hw.step_idempotency_of hsvc, hkeep⟩

/-! ## Stored answers -/

/-- The table holds the answer to the request under its key. -/
def Service.Remembers (svc : Service) (key : FieldText 96) (req : Request) (reply : Reply) : Prop :=
  svc.findIdempotencyRecord key.bytes = some (completedRecord key req reply)

/-- A request with a new key is executed with a slot for its answer, unless no slot is free. -/
lemma tryIdempotencyReplay_new {svc : Service} {req : Request} {key : FieldText 96}
    (hmut : operationMutates req.operation req.payload)
    (hkey : idempotencyKey req.payload = some key)
    (hnew : svc.findIdempotencyRecord key.bytes = none)
    (hroom : svc.idempotency.count < maxIdempotencyRecords) :
    ∃ slot, tryIdempotencyReplay svc req.operation req.payload = .execute (some (slot, key)) := by
  have halloc : svc.allocIdempotencyRecord ≠ none := by
    intro hnone
    have := SlotTable.firstFree?_eq_none_iff.mp hnone
    omega
  obtain ⟨slot, hslot⟩ := Option.ne_none_iff_exists'.mp halloc
  refine ⟨slot, ?_⟩
  simp only [tryIdempotencyReplay, hmut, hkey, hnew, hslot, Bool.not_true, Bool.false_eq_true,
    if_false]

/-- An executed request with a key leaves the answer the client got in the table. -/
lemma Daemon.WellFormed.remembers {cfg : Config} {d : Daemon} (hw : d.WellFormed) {st : Step}
    {key : FieldText 96} (hmut : operationMutates st.req.operation st.req.payload)
    (hkey : idempotencyKey st.req.payload = some key)
    (hnew : d.state.svc.findIdempotencyRecord key.bytes = none)
    (hroom : d.state.svc.idempotency.count < maxIdempotencyRecords) :
    (d.step cfg st).state.svc.Remembers key st.req (d.answer cfg st) := by
  obtain ⟨slot, hreplay⟩ := tryIdempotencyReplay_new hmut hkey hnew hroom
  have hpending : (answerRequest cfg st.env d.state st.req).pending = some (slot, key) := by
    simp only [answerRequest, hreplay]
  have hslot : slot < maxIdempotencyRecords := (reserves_of_execute hreplay slot key rfl).1
  obtain ⟨svc, hget, -⟩ := hw.step_idempotency cfg st
  have hslotget := hget slot
  rw [hpending, get_complete hslot, if_pos rfl] at hslotget
  have huniq := (show (d.step cfg st).WellFormed from hw.step st).1.idempotencyKeys
  exact (huniq.lookup_eq_some_iff).mpr ⟨SlotTable.mem_entries_of_get hslotget, rfl⟩

/-- A request that does not prune or restore keeps every stored answer where it is. -/
lemma Daemon.WellFormed.keeps_answers {cfg : Config} {d : Daemon} (hw : d.WellFormed) {st : Step}
    (hkeep : KeepsAnswers cfg d st) {i : ℕ} {r : IdempotencyRecord}
    (hr : d.state.svc.idempotency.get i = some r) :
    (d.step cfg st).state.svc.idempotency.get i = some r := by
  obtain ⟨svc, hget, hsame⟩ := hw.step_idempotency cfg st
  rw [hget]
  cases hpending : (answerRequest cfg st.env d.state st.req).pending with
  | none =>
      show svc.idempotency.get i = some r
      rw [hsame hkeep, hr]
  | some sk =>
      obtain ⟨slot, key⟩ := sk
      obtain ⟨hslot, hfree⟩ : slot < maxIdempotencyRecords ∧
          d.state.svc.idempotency.get slot = none := by
        have ha := answerRequest_answered cfg st.env d.state st.req
        obtain ⟨pending, hreplay, hp⟩ : ∃ pending, tryIdempotencyReplay d.state.svc
            st.req.operation st.req.payload = .execute pending ∧
            pending = some (slot, key) := by
          generalize answerRequest cfg st.env d.state st.req = a at ha hpending
          cases ha with
          | replayed _ => cases hpending
          | overQuota h _ _ => exact ⟨_, h, hpending⟩
          | executed h _ _ _ => exact ⟨_, h, hpending⟩
        obtain ⟨hnone, -⟩ | ⟨slot', key', hsome, -, -, -, halloc⟩ :=
          tryIdempotencyReplay_execute hreplay
        · rw [hnone] at hp
          cases hp
        · rw [hp] at hsome
          cases hsome
          exact SlotTable.firstFree?_eq_some halloc
      have hne : i ≠ slot := by
        rintro rfl
        rw [hfree] at hr
        cases hr
      rw [get_complete hslot, if_neg hne, hsame hkeep, hr]

/-- A stored answer outlasts every run without pruning and restores. -/
lemma Daemon.WellFormed.remembers_run {cfg : Config} {d : Daemon} (hw : d.WellFormed)
    {key : FieldText 96} {req : Request} {reply : Reply}
    (h : d.state.svc.Remembers key req reply) {later : List Step}
    (hlater : Daemon.Along cfg (KeepsAnswers cfg) d later) :
    (d.run cfg later).state.svc.Remembers key req reply := by
  have hinv := Run.Along.invariant hlater
    (I := fun d => d.WellFormed ∧ d.state.svc.Remembers key req reply) ⟨hw, h⟩ ?_ later.length
  · rw [List.take_length] at hinv
    exact hinv.2
  · rintro d st ⟨hw, h⟩ hkeep
    have hw' : (d.step cfg st).WellFormed := hw.step st
    refine ⟨hw', ?_⟩
    obtain ⟨hmem, hk⟩ := (hw.1.idempotencyKeys.lookup_eq_some_iff).mp h
    obtain ⟨i, hi⟩ := SlotTable.mem_entries.mp hmem
    exact (hw'.1.idempotencyKeys.lookup_eq_some_iff).mpr
      ⟨SlotTable.mem_entries_of_get (hw.keeps_answers hkeep hi), hk⟩

/-! ## Repeats -/

/-- What looking up a remembered key decides. -/
lemma tryIdempotencyReplay_remembered {svc : Service} {req req' : Request} {key : FieldText 96}
    {reply : Reply} (h : svc.Remembers key req reply)
    (hmut : operationMutates req'.operation req'.payload)
    (hkey : idempotencyKey req'.payload = some key) :
    tryIdempotencyReplay svc req'.operation req'.payload =
      .handled (if req.operation ≠ req'.operation ∨
          wireChecksum req.payload.bytes ≠ wireChecksum req'.payload.bytes then
        ⟨WireStatus.versionConflict, respond [fieldLine "status" (ascii "version_conflict"),
          fieldLine "idempotency_key" key.bytes]⟩
      else ⟨reply.status, (ResponseText.copy reply.response).bytes⟩) := by
  have hfind : svc.findIdempotencyRecord key.bytes = some (completedRecord key req reply) := h
  simp only [tryIdempotencyReplay, hmut, hkey, hfind, completedRecord, Bool.not_true,
    Bool.false_eq_true, if_false]
  split <;> rfl

/-- A request answered from the table is not executed. -/
lemma answerRequest_handled {cfg : Config} {env : Env} {s : ServiceState} {req : Request}
    {reply : Reply} (h : tryIdempotencyReplay s.svc req.operation req.payload = .handled reply) :
    answerRequest cfg env s req = ⟨s, reply, none, true, false, false⟩ := by
  simp only [answerRequest, h]

lemma not_executes_of_handled {cfg : Config} {svc : Service} {req : Request} {reply : Reply}
    (h : tryIdempotencyReplay svc req.operation req.payload = .handled reply) :
    ¬ Executes cfg svc req := by
  rintro ⟨⟨pending, hexec⟩, -⟩
  rw [h] at hexec
  cases hexec

/-- The answer a client got fits the table. -/
lemma Daemon.WellFormed.answer_fits {cfg : Config} {d : Daemon} (hw : d.WellFormed) {st : Step}
    (hp : (answerRequest cfg st.env d.state st.req).pending ≠ none) :
    ResponseFits (d.answer cfg st).response := by
  have ha := answerRequest_answered cfg st.env d.state st.req
  rcases d.answer_cases cfg st with h | ⟨-, -, -, h⟩
  · rw [h]
    exact (ha.responseFits hw.1 hw.2 hp).2
  · rw [h]
    exact responseFits_saveFailedReply

/-- A request that is answered from the table leaves the table, the records and the stage alone. -/
lemma Daemon.WellFormed.step_handled {cfg : Config} {d : Daemon} (hw : d.WellFormed) {st : Step}
    {reply : Reply}
    (h : tryIdempotencyReplay d.state.svc st.req.operation st.req.payload = .handled reply) :
    SameRecords d.state.svc (d.step cfg st).state.svc ∧
      (d.step cfg st).state.svc.idempotency = d.state.svc.idempotency ∧
      (d.step cfg st).state.stage = d.state.stage := by
  have hans : answerRequest cfg st.env d.state st.req = ⟨d.state, reply, none, true, false, false⟩ :=
    answerRequest_handled h
  have ha := answerRequest_answered cfg st.env d.state st.req
  rw [hans] at ha
  obtain ⟨-, hidem⟩ := wellFormed_auditRequest ha hw.1
  refine ⟨sameRecords_of_not_executes (not_executes_of_handled h), ?_, ?_⟩
  · have hshow : (d.step cfg st).state.svc = (persistRequest cfg st.env st.writes d.disk
      (answerRequest cfg st.env d.state st.req) st.req
      (auditRequest cfg st.env (answerRequest cfg st.env d.state st.req) st.req)).svc := rfl
    rw [hshow, hans]
    obtain ⟨hp, -⟩ | ⟨-, -, -, -, hp, -⟩ := persistRequest_cases cfg st.env st.writes d.disk
      ⟨d.state, reply, none, true, false, false⟩ st.req
      (auditRequest cfg st.env ⟨d.state, reply, none, true, false, false⟩ st.req)
    · rw [hp, hidem]
    · rw [hp]
      exact hidem
  · have hshow : (d.step cfg st).state.stage =
      (answerRequest cfg st.env d.state st.req).state.stage := rfl
    rw [hshow, hans]

/-- A refusal from the table reaches the client as it is. -/
lemma Daemon.answer_of_refused {cfg : Config} {d : Daemon} {st : Step} {reply : Reply}
    (h : tryIdempotencyReplay d.state.svc st.req.operation st.req.payload = .handled reply)
    (herr : reply.status ≠ WireStatus.ok) : d.answer cfg st = reply := by
  have hans : answerRequest cfg st.env d.state st.req = ⟨d.state, reply, none, true, false, false⟩ :=
    answerRequest_handled h
  rcases d.answer_cases cfg st with hanswer | ⟨hok, -, -, -⟩
  · rw [hanswer, hans]
  · rw [hans] at hok
    exact absurd hok herr

/-- The client of a repeat gets the first answer, unless that was a success and the repeat cannot be
made durable. -/
def RepeatAnswer (cfg : Config) (d : Daemon) (st : Step) (first : Reply) : Prop :=
  d.answer cfg st = first ∨ (first.status = WireStatus.ok ∧ cfg.storePath = true ∧
    ¬ st.writes.Land d.disk ∧ d.answer cfg st = saveFailedReply)

/-- A mutating request under a remembered key. -/
lemma Daemon.WellFormed.repeated {cfg : Config} {d : Daemon} (hw : d.WellFormed) {st : Step}
    {key : FieldText 96} {req : Request} {reply : Reply}
    (h : d.state.svc.Remembers key req reply) (hfits : ResponseFits reply.response)
    (hmut : operationMutates st.req.operation st.req.payload)
    (hkey : idempotencyKey st.req.payload = some key) :
    SameRecords d.state.svc (d.step cfg st).state.svc ∧
      (st.req = req → RepeatAnswer cfg d st reply) ∧
      (st.req.operation ≠ req.operation ∨
          wireChecksum st.req.payload.bytes ≠ wireChecksum req.payload.bytes →
        (d.answer cfg st).status = WireStatus.versionConflict) := by
  have hreplay := tryIdempotencyReplay_remembered h hmut hkey
  refine ⟨(hw.step_handled hreplay).1, ?_, ?_⟩
  · rintro rfl
    have hans := @answerRequest_handled cfg st.env d.state st.req _ hreplay
    rw [if_neg (by simp), ResponseText.bytes_copy hfits.noNul hfits.short] at hans
    rcases d.answer_cases cfg st with hanswer | ⟨hok, hpath, hland, hanswer⟩
    · left
      rw [hanswer, hans]
    · rw [hans] at hok
      exact .inr ⟨hok, hpath, hland, hanswer⟩
  · intro hdiff
    rw [if_pos (hdiff.imp Ne.symm Ne.symm)] at hreplay
    have hconflict : WireStatus.versionConflict ≠ WireStatus.ok := by decide
    rw [Daemon.answer_of_refused hreplay hconflict]

/-- A new key that finds the table full is refused. -/
lemma Daemon.WellFormed.refused_full {cfg : Config} {d : Daemon} (hw : d.WellFormed) {st : Step}
    {key : FieldText 96} (hmut : operationMutates st.req.operation st.req.payload)
    (hkey : idempotencyKey st.req.payload = some key)
    (hnew : d.state.svc.findIdempotencyRecord key.bytes = none)
    (hfull : d.state.svc.idempotency.count = maxIdempotencyRecords) :
    (d.answer cfg st).status = WireStatus.capacityExceeded ∧
      SameRecords d.state.svc (d.step cfg st).state.svc ∧
      (d.step cfg st).state.svc.idempotency = d.state.svc.idempotency ∧
      (d.step cfg st).state.stage = d.state.stage := by
  have halloc : d.state.svc.allocIdempotencyRecord = none :=
    SlotTable.firstFree?_eq_none_iff.mpr hfull
  have hreplay : tryIdempotencyReplay d.state.svc st.req.operation st.req.payload =
      .handled ⟨WireStatus.capacityExceeded, respond
        [fieldLine "status" (ascii "capacity_exceeded"),
          fieldLine "idempotency_key" key.bytes]⟩ := by
    simp only [tryIdempotencyReplay, hmut, hkey, hnew, halloc, Bool.not_true, Bool.false_eq_true,
      if_false]
  have hcapacity : WireStatus.capacityExceeded ≠ WireStatus.ok := by decide
  refine ⟨?_, hw.step_handled hreplay⟩
  rw [Daemon.answer_of_refused hreplay hcapacity]

/-- **Exactly-once execution.**  In every reachable state: once a mutating request with a new key was
executed, and as long as nothing prunes or restores, the same request is answered as it was (or, when
the repeat of a success cannot be made durable, as an internal error), another mutating request under
the key is a version conflict, and neither touches the records; a new key that finds the table full is
refused before anything runs; and no request that does not prune or restore drops an answer. -/
theorem answered_once {cfg : Config} {d : Daemon} (h : Daemon.Reachable cfg d) (st : Step) :
    (∀ key, operationMutates st.req.operation st.req.payload →
      idempotencyKey st.req.payload = some key →
      d.state.svc.findIdempotencyRecord key.bytes = none →
      (d.state.svc.idempotency.count < maxIdempotencyRecords →
        ∀ later, Daemon.Along cfg (KeepsAnswers cfg) (d.step cfg st) later → ∀ st' : Step,
          operationMutates st'.req.operation st'.req.payload →
          idempotencyKey st'.req.payload = some key →
          SameRecords ((d.step cfg st).run cfg later).state.svc
              (((d.step cfg st).run cfg later).step cfg st').state.svc ∧
            (st'.req = st.req →
              RepeatAnswer cfg ((d.step cfg st).run cfg later) st' (d.answer cfg st)) ∧
            (st'.req.operation ≠ st.req.operation ∨
                wireChecksum st'.req.payload.bytes ≠ wireChecksum st.req.payload.bytes →
              (((d.step cfg st).run cfg later).answer cfg st').status =
                WireStatus.versionConflict)) ∧
      (d.state.svc.idempotency.count = maxIdempotencyRecords →
        (d.answer cfg st).status = WireStatus.capacityExceeded ∧
          SameRecords d.state.svc (d.step cfg st).state.svc ∧
          (d.step cfg st).state.svc.idempotency = d.state.svc.idempotency ∧
          (d.step cfg st).state.stage = d.state.stage)) ∧
    (KeepsAnswers cfg d st → ∀ r ∈ d.state.svc.idempotency.entries,
      r ∈ (d.step cfg st).state.svc.idempotency.entries) := by
  have hw := h.wellFormed
  refine ⟨fun key hmut hkey hnew => ⟨fun hroom later hlater st' hmut' hkey' => ?_, ?_⟩, ?_⟩
  · have hw' : (d.step cfg st).WellFormed := hw.step st
    have hmem := hw'.remembers_run (hw.remembers hmut hkey hnew hroom) hlater
    refine Daemon.WellFormed.repeated ((h.step st).run later).wellFormed hmem ?_ hmut' hkey'
    refine hw.answer_fits ?_
    obtain ⟨slot, hreplay⟩ := tryIdempotencyReplay_new hmut hkey hnew hroom
    simp [answerRequest, hreplay]
  · exact fun hfull => hw.refused_full hmut hkey hnew hfull
  · intro hkeep r hr
    obtain ⟨i, hi⟩ := SlotTable.mem_entries.mp hr
    exact SlotTable.mem_entries_of_get (hw.keeps_answers hkeep hi)

/-- A put of the key `a` under the idempotency key `i`. -/
def Payload.keyedObject : Payload :=
  ⟨unlines [ascii "idempotency_key=i", ascii "key=a"], by decide, by decide⟩

/-- The put, with the save of the store failing. -/
def Step.unsavedPut : Step :=
  { Step.idle .putObject Payload.keyedObject with writes := { Writes.allDone with save := false } }

/-- Another put under another key, and a read. -/
def inBetween : List Step :=
  [.idle .putObject ⟨unlines [ascii "idempotency_key=j", ascii "key=b"], by decide, by decide⟩,
    .idle .getObject Payload.keyedObject]

/-- The daemon after the put and these. -/
def Daemon.later : Daemon := (Daemon.after .putObject Payload.keyedObject).run .durable inBetween

/-- The put of another object under the key `i`. -/
def Step.otherPut : Step :=
  .idle .putObject ⟨unlines [ascii "idempotency_key=i", ascii "key=c"], by decide, by decide⟩

theorem answered_once_later :
    RepeatAnswer .durable Daemon.later (Step.idle .putObject Payload.keyedObject)
        (Daemon.fresh.answer .durable (Step.idle .putObject Payload.keyedObject)) ∧
      (Daemon.later.answer .durable Step.otherPut).status = WireStatus.versionConflict ∧
      SameRecords Daemon.later.state.svc (Daemon.later.step .durable Step.otherPut).state.svc := by
  have hkeeps : Daemon.Along .durable (KeepsAnswers .durable)
      (Daemon.fresh.step .durable (Step.idle .putObject Payload.keyedObject)) inBetween :=
    ⟨⟨by decide +kernel, by decide +kernel, by decide⟩,
      ⟨by decide +kernel, by decide +kernel, by decide⟩, trivial⟩
  have hafter := ((answered_once (Daemon.reachable_fresh .durable)
    (Step.idle .putObject Payload.keyedObject)).1 (FieldText.copy (ascii "i")) (by decide)
      (by decide +kernel) (by decide)).1 (by decide) inBetween hkeeps
  obtain ⟨-, hrepeat, -⟩ := hafter (Step.idle .putObject Payload.keyedObject) (by decide)
    (by decide +kernel)
  obtain ⟨hsame, -, hconflict⟩ := hafter Step.otherPut (by decide) (by decide +kernel)
  exact ⟨hrepeat rfl, hconflict (.inr (by decide +kernel)), hsame⟩

/-- A repeated success is answered as an internal error when the repeat cannot be saved, and a read
under the same key is no conflict. -/
theorem repeat_answered_otherwise :
    (Daemon.fresh.answer Config.durable
        (Step.idle .putObject Payload.keyedObject)).status = WireStatus.ok ∧
      ((Daemon.after .putObject Payload.keyedObject).answer Config.durable
        Step.unsavedPut).status = WireStatus.internal ∧
      ((Daemon.after .putObject Payload.keyedObject).answer Config.durable
        (Step.idle .getObject Payload.keyedObject)).status = WireStatus.ok := by
  decide +kernel

end MemService
