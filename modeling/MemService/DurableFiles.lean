import MemService.Truncation

/-!
# What a request leaves in the files

With every write succeeding, a request that is audited appends its frames to the journal and saves the
store; afterwards the journal may be cut, and it is cut for sure if a retention pass has deleted
something.  A request that is not audited touches neither the service nor the files.  `Daemon.step_files`
says this, in terms of the frames of the journal.
-/

open ByteText CNumeral

namespace MemService

/-! ## Journals -/

/-- The journal is made of these frames; a file that does not exist has none. -/
def Disk.Journals (disk : Disk) (fs : List JournalFrame) : Prop :=
  disk.journal = some (journalText fs) ∨ (disk.journal = none ∧ fs = [])

/-- A journal of frames takes the frames of another call at its end. -/
lemma Disk.Journals.append {disk : Disk} {fs : List JournalFrame} (h : disk.Journals fs)
    (c : JournalCall) : disk.append c.idempotency c.event .done =
      ({ disk with journal := some (journalText (fs ++ c.frames)) }, true) := by
  obtain ⟨store, journal⟩ := disk
  rcases h with h | ⟨h, rfl⟩
  · have hjournal : journal = some (journalText fs) := h
    rw [hjournal, journalText_eq, Disk.append, appendJournal_magic, c.entryLines_eq,
      journalText_eq, List.flatMap_append, unlines_append]
    simp only [List.append_assoc, List.cons_append]
  · have hjournal : journal = none := h
    rw [hjournal, Disk.append, List.nil_append, journalText_eq, ← c.entryLines_eq]
    simp [appendJournal, journalNeedsHeader, unlines_cons]

lemma Disk.Journals.needsHeader {disk : Disk} {fs : List JournalFrame} (h : disk.Journals fs) :
    journalNeedsHeader disk.journal ≠ none := by
  have happend := h.append ⟨none, none, by simp⟩
  have hok : (disk.append none none .done).2 = true := by rw [happend]
  exact (Disk.append_ok_iff.mp hok).1

/-- A cut leaves a journal without frames, or the journal as it was. -/
lemma Disk.compact_journal {disk : Disk} {fs : List JournalFrame}
    (h : disk.journal = some (journalText fs)) :
    ∃ fs', (disk.compact true).1.journal = some (journalText fs') ∧ (fs' = fs ∨ fs' = []) := by
  unfold Disk.compact
  rw [h]
  dsimp only
  split
  · exact ⟨fs, h, .inl rfl⟩
  · exact ⟨[], rfl, .inr rfl⟩

/-- The end of the third stage, with every write done. -/
lemma compactRequest_files {cfg : Config} {a : Answer} {req : Request} {auditPruned : Bool}
    {p : Persisted} {fs : List JournalFrame} (hpath : cfg.storePath = true)
    (hstore : p.disk.store = some (saveStore p.svc))
    (hjournal : p.disk.journal = some (journalText fs)) :
    ∃ fs', (compactRequest cfg .allDone a req auditPruned p).1 =
        ⟨some (saveStore p.svc), some (journalText fs')⟩ ∧ (fs' = fs ∨ fs' = []) ∧
      (auditPruned = true ∨ a.checkpointPruned = true ∨ a.recordPruned = true → fs' = []) := by
  obtain ⟨fs₁, hcompact, hfs₁⟩ : ∃ fs₁, (if p.reply.status = WireStatus.ok ∧
      operationMutates req.operation req.payload = true ∧ cfg.storePath = true then
        p.disk.compact true else (p.disk, [])).1 = ⟨some (saveStore p.svc), some (journalText fs₁)⟩ ∧
      (fs₁ = fs ∨ fs₁ = []) := by
    split
    · obtain ⟨fs₁, hj, hfs₁⟩ := Disk.compact_journal hjournal
      refine ⟨fs₁, ?_, hfs₁⟩
      rw [← hj, ← hstore, ← Disk.store_compact p.disk true]
    · exact ⟨fs, by rw [← hstore, ← hjournal], .inl rfl⟩
  have hcut : ∀ c : Disk, c.store = some (saveStore p.svc) → (c.compactNow true).1 =
      ⟨some (saveStore p.svc), some (journalText [])⟩ := by
    intro c hc
    rw [← hc]
    rfl
  have hsync : ∀ c : Disk, (c.syncRetention p.svc true true).1 =
      ⟨some (saveStore p.svc), some (journalText [])⟩ := fun _ => rfl
  unfold compactRequest
  simp only [Writes.allDone, hpath, and_true]
  simp only [hpath, and_true] at hcompact
  generalize (if p.reply.status = WireStatus.ok ∧ operationMutates req.operation req.payload = true
    then p.disk.compact true else (p.disk, [])) = c at hcompact
  cases hrecord : a.recordPruned with
  | true => exact ⟨[], by simp only [if_true]; exact hsync _, .inr rfl, fun _ => rfl⟩
  | false =>
      cases hcheckpoint : a.checkpointPruned with
      | true =>
          refine ⟨[], ?_, .inr rfl, fun _ => rfl⟩
          simp only [Bool.false_eq_true, if_false, if_true]
          exact hsync _
      | false =>
          cases auditPruned with
          | true =>
              refine ⟨[], ?_, .inr rfl, fun _ => rfl⟩
              simp only [Bool.false_eq_true, if_false, if_true]
              exact hcut _ (by rw [hcompact])
          | false =>
              refine ⟨fs₁, ?_, hfs₁, by simp⟩
              simp only [Bool.false_eq_true, if_false]
              exact hcompact

/-! ## The frames of a journal -/

namespace JournalFrame

/-- The audit event of an audit frame. -/
def audit? : JournalFrame → Option AuditEvent
  | idempotency _ _ => none
  | audit e => some e

/-- The idempotency record of an idempotency frame. -/
def idempotency? : JournalFrame → Option IdempotencyRecord
  | idempotency r _ => some r
  | audit _ => none

/-- The audit events of some frames, in order. -/
def audits (fs : List JournalFrame) : List AuditEvent := fs.filterMap audit?

/-- The idempotency records of some frames, in order. -/
def idempotencies (fs : List JournalFrame) : List IdempotencyRecord := fs.filterMap idempotency?

end JournalFrame

namespace JournalCall

variable (fs : List JournalFrame) (c : JournalCall)

lemma audits_append : JournalFrame.audits (fs ++ c.frames) =
    JournalFrame.audits fs ++ c.event.toList := by
  rw [JournalFrame.audits, List.filterMap_append, ← JournalFrame.audits]
  obtain ⟨i, e, fits⟩ := c
  cases i <;> cases e <;> rfl

lemma idempotencies_append : JournalFrame.idempotencies (fs ++ c.frames) =
    JournalFrame.idempotencies fs ++ c.idempotency.toList := by
  rw [JournalFrame.idempotencies, List.filterMap_append, ← JournalFrame.idempotencies]
  obtain ⟨i, e, fits⟩ := c
  cases i <;> cases e <;> rfl

end JournalCall

/-! ## One request -/

namespace Answered

variable {cfg : Config} {env : Env} {s : ServiceState} {req : Request} {a : Answer}

/-- The answer to a request that does not mutate leaves the service as it was. -/
lemma svc_eq (h : Answered cfg env s req a) (hs : s.svc.WellFormed)
    (hmut : operationMutates req.operation req.payload = false) :
    a.state.svc = s.svc ∧ a.checkpointPruned = false ∧ a.recordPruned = false := by
  have hpending : ∀ {pending}, tryIdempotencyReplay s.svc req.operation req.payload =
      .execute pending → pending = none := by
    intro pending h
    obtain ⟨rfl, -⟩ | ⟨slot, key, -, hm, -⟩ := tryIdempotencyReplay_execute h
    · rfl
    · rw [hmut] at hm
      cases hm
  cases h with
  | replayed _ => exact ⟨rfl, rfl, rfl⟩
  | overQuota h _ _ =>
      obtain rfl := hpending h
      exact ⟨rfl, rfl, rfl⟩
  | @executed pending out svc cp rp h _ hout hexec =>
      obtain rfl := hpending h
      have hno : ∀ b : Bool, (b = true → operationMutates req.operation req.payload = true) →
          b = false := by
        intro b hb
        rw [hmut] at hb
        exact Bool.eq_false_iff.mpr fun h => absurd (hb h) (by decide)
      have hcp : cp = false := hno cp fun h => (hexec.success (.inl h)).2
      have hrp : rp = false := hno rp fun h => (hexec.success (.inr h)).2
      have heff := dispatchOperation_effect env cfg.storageRoot hs.recordKeys req
      rw [hout] at heff
      exact ⟨(hexec.kept hcp hrp).trans (heff.svc_eq hmut), hcp, hrp⟩

/-- The record an answer leaves for the journal fits a frame. -/
lemma pendingFits (h : Answered cfg env s req a) (hs : s.svc.WellFormed)
    (hst : StageWellFormed s.stage) {r : IdempotencyRecord}
    (hr : pendingRecord a.pending req a.reply = some r) : ResponseLines r.response.bytes := by
  obtain ⟨sk, hsk, rfl⟩ := Option.map_eq_some_iff.mp hr
  obtain ⟨-, hfits⟩ := h.responseFits hs hst (by rw [hsk]; simp)
  show ResponseLines (ResponseText.copy a.reply.response).bytes
  rw [ResponseText.bytes_copy hfits.noNul hfits.short]
  exact hfits.lines

end Answered

/-- What a request leaves, with every write done: nothing new, or its service in the store and its
frames in the journal, which may have been cut and has been if a retention pass deleted something. -/
inductive Filed (d : Daemon) (fs : List JournalFrame) (req : Request) (a : Answer) (au : Audited)
    (after : Daemon) : Prop
  | untouched (hevent : au.event = none) (hsvc : after.state.svc = d.state.svc)
      (hdisk : after.disk = d.disk)
  | filed {c : JournalCall} {e : AuditEvent} {fs' : List JournalFrame} (hevent : au.event = some e)
      (hc : c.idempotency = pendingRecord a.pending req a.reply ∧ c.event = some e)
      (hsvc : after.state.svc = au.svc)
      (hdisk : after.disk = ⟨some (saveStore au.svc), some (journalText fs')⟩)
      (hfs : fs' = fs ++ c.frames ∨ fs' = [])
      (hcut : au.pruned = true ∨ a.checkpointPruned = true ∨ a.recordPruned = true → fs' = [])

lemma Daemon.step_files {cfg : Config} {d : Daemon} {st : Step} {fs : List JournalFrame}
    (hd : d.WellFormed) (hpath : cfg.storePath = true) (hw : st.writes = .allDone)
    (hj : d.disk.Journals fs) :
    Filed d fs st.req (answerRequest cfg st.env d.state st.req)
      (auditRequest cfg st.env (answerRequest cfg st.env d.state st.req) st.req) (d.step cfg st) := by
  have ha := answerRequest_answered cfg st.env d.state st.req
  have hshow : d.step cfg st = (handleOperation cfg d st.req st.env st.writes).daemon := rfl
  rw [hshow, hw, handleOperation]
  dsimp only
  generalize answerRequest cfg st.env d.state st.req = a at ha
  obtain ⟨hno, heq⟩ | ⟨-, e, -, heq⟩ := auditRequest_cases cfg st.env a st.req
  · have hmut : operationMutates st.req.operation st.req.payload = false :=
      (Bool.or_eq_false_iff.mp hno).1
    obtain ⟨hsame, hcp, hrp⟩ := ha.svc_eq hd.1 hmut
    have hpersist : persistRequest cfg st.env .allDone d.disk a st.req ⟨a.state.svc, none, false⟩ =
        ⟨a.state.svc, d.disk, a.reply⟩ := rfl
    rw [heq, hpersist]
    refine .untouched rfl hsame ?_
    simp only [compactRequest, hmut, hcp, hrp, Bool.false_eq_true, false_and, and_false, if_false]
  · generalize hau : ((a.state.svc.recordAudit e).applyAuditRetention
      (cfg.limits.elim 0 DaemonLimits.maxAuditEvents)) = retained at heq
    rw [heq]
    have happend := hj.append ⟨pendingRecord a.pending st.req a.reply, some e,
      fun r hr => ha.pendingFits hd.1 hd.2 hr⟩
    have hpersist : persistRequest cfg st.env .allDone d.disk a st.req
        ⟨retained.1, some e, retained.2⟩ =
        ⟨retained.1, ⟨some (saveStore retained.1), some (journalText (fs ++
          (JournalCall.mk (pendingRecord a.pending st.req a.reply) (some e)
            fun r hr => ha.pendingFits hd.1 hd.2 hr).frames))⟩, a.reply⟩ := by
      unfold persistRequest
      rw [hpath]
      dsimp only
      unfold persist
      simp only [Writes.allDone, happend, Bool.and_self, if_true, Disk.save]
    rw [hpersist]
    obtain ⟨fs', hfiles, hfs', hcut⟩ := @compactRequest_files cfg a st.req retained.2
      ⟨retained.1, ⟨some (saveStore retained.1), some (journalText (fs ++
        (JournalCall.mk (pendingRecord a.pending st.req a.reply) (some e)
          fun r hr => ha.pendingFits hd.1 hd.2 hr).frames))⟩, a.reply⟩ _ hpath rfl rfl
    exact .filed rfl ⟨rfl, rfl⟩ rfl hfiles hfs' hcut

end MemService
