import MemService.AuditRing

/-!
# Cutting the journal

The journal is cut back to its header in four places: past a size, and after each of the three retention
passes.  A cut is safe if what the removed frames carry, as far as the service still holds it, is in the
store.  The store is written before the journal is cut, so a cut that follows a save is safe, whatever
the journal carries: the save wrote every record, every idempotency record and, if the ring is recent,
every audit event.

The cut after audit retention does not look whether the request's saves succeeded.  `Step.CutsSafely` is
the condition that is left, and `cuts_keep_live` says that it is enough, for every pattern of failing
writes and whatever earlier requests left in the journal.
-/

open ByteText CNumeral

namespace MemService

/-! ## Frames in a file -/

/-- A file has a frame: the frame's lines stand in it one after the other, from the start of a line. -/
def HasFrame (file : Option Bytes) (frame : List Bytes) : Prop :=
  ∃ before rest, file = some (unlines before ++ unlines frame ++ rest)

/-- What the journal carries and the service still holds is in the store. -/
structure Service.KeptBy (svc : Service) (disk : Disk) : Prop where
  records : ∀ r ∈ svc.records.entries,
    HasFrame disk.journal (saveRecord r) → HasFrame disk.store (saveRecord r)
  idempotency : ∀ r ∈ svc.idempotency.entries,
    HasFrame disk.journal (saveIdempotencyRecord r) →
      HasFrame disk.store (saveIdempotencyRecord r)
  audit : ∀ e ∈ svc.audit.entries,
    HasFrame disk.journal (saveAuditEvent e) → HasFrame disk.store (saveAuditEvent e)

lemma hasFrame_flatMap {α : Type*} {save : α → List Bytes} {l : List α} {a : α} (ha : a ∈ l)
    (before after : List Bytes) :
    HasFrame (some (unlines (before ++ l.flatMap save ++ after))) (save a) := by
  obtain ⟨l₁, l₂, rfl⟩ := List.append_of_mem ha
  refine ⟨before ++ l₁.flatMap save, unlines (l₂.flatMap save ++ after), ?_⟩
  simp only [List.flatMap_append, List.flatMap_cons, unlines_append, List.append_assoc]

/-- The live events of a recent ring are those a save looks for. -/
lemma Service.AuditRecent.mem_auditWindow {svc : Service} (h : svc.AuditRecent)
    (hw : svc.WellFormed) {e : AuditEvent} (he : e ∈ svc.audit.entries) :
    e ∈ svc.auditWindow svc.savedFrom := by
  obtain ⟨i, hi⟩ := SlotTable.mem_entries.mp he
  have hbelow := h.recent.below i e hi
  have hsince := h.recent.since i e hi
  have hpos := h.recent.positive i e hi
  refine hw.mem_auditWindow.mpr ⟨he, ?_, UInt64.lt_iff_toNat_lt.mpr hbelow⟩
  change savedFrom svc ≤ e.number
  unfold savedFrom
  split <;> omega

/-- A saved store has a frame for everything that is live. -/
lemma Service.keptBy_saveStore {svc : Service} (hw : svc.WellFormed) (hr : svc.AuditRecent)
    (journal : Option Bytes) : svc.KeptBy ⟨some (saveStore svc), journal⟩ where
  records := fun r hmem _ => by
    have := @hasFrame_flatMap _ saveRecord _ _ hmem (storeHeader svc)
      (svc.idempotency.entries.flatMap saveIdempotencyRecord ++
        (svc.auditWindow svc.savedFrom).flatMap saveAuditEvent)
    rwa [← List.append_assoc] at this
  idempotency := fun r hmem _ => hasFrame_flatMap hmem _ _
  audit := fun e hmem _ => by
    have := @hasFrame_flatMap _ saveAuditEvent _ _ (hr.mem_auditWindow hw hmem) (storeHeader svc ++
      svc.records.entries.flatMap saveRecord ++
        svc.idempotency.entries.flatMap saveIdempotencyRecord) []
    rwa [List.append_nil] at this

/-! ## What a request saves -/

/-- A save of the request succeeds: the first, after the append, or the second, which a success that was
not made durable gets. -/
def Step.Saves (cfg : Config) (d : Daemon) (st : Step) : Prop :=
  st.writes.Land d.disk ∨
    ((answerRequest cfg st.env d.state st.req).reply.status = WireStatus.ok ∧
      operationMutates st.req.operation st.req.payload = true ∧ st.writes.saveAgain = true)

lemma Disk.append_ok_iff {disk : Disk} {i : Option IdempotencyRecord} {e : Option AuditEvent}
    {outcome : AppendOutcome} : (disk.append i e outcome).2 = true ↔
      journalNeedsHeader disk.journal ≠ none ∧ outcome = .done := by
  unfold Disk.append appendJournal
  cases journalNeedsHeader disk.journal with
  | none => simp
  | some needs => cases outcome <;> simp

section Persist

variable {cfg : Config} {env : Env} {w : Writes} {disk : Disk} {a : Answer} {req : Request}
  {au : Audited} {e : AuditEvent}

/-- A save that succeeds leaves the service of the request in the store. -/
lemma persistRequest_store (hevent : au.event = some e) (hpath : cfg.storePath = true)
    (h : w.Land disk ∨ (a.reply.status = WireStatus.ok ∧
      operationMutates req.operation req.payload = true ∧ w.saveAgain = true)) :
    (persistRequest cfg env w disk a req au).disk.store =
      some (saveStore (persistRequest cfg env w disk a req au).svc) := by
  unfold persistRequest
  rw [hevent, hpath]
  dsimp only
  unfold persist
  dsimp only
  split
  · rename_i hlanded
    rw [Bool.and_eq_true] at hlanded
    simp only [hlanded.1, hlanded.2, if_true, Disk.save]
  · rename_i hfailed
    have hno : ¬ w.Land disk := by
      rintro ⟨hheader, happend, hsave⟩
      refine hfailed ?_
      rw [Bool.and_eq_true, Disk.append_ok_iff]
      exact ⟨⟨hheader, happend⟩, hsave⟩
    obtain ⟨hok, hmut, hagain⟩ := h.resolve_left hno
    rw [if_pos ⟨hok, hmut⟩]
    simp only [Disk.save, hagain, if_true]

/-- A success that stands was saved. -/
lemma persistRequest_store_of_ok (hevent : au.event = some e) (hpath : cfg.storePath = true)
    (hmut : operationMutates req.operation req.payload = true)
    (hok : (persistRequest cfg env w disk a req au).reply.status = WireStatus.ok) :
    (persistRequest cfg env w disk a req au).disk.store =
      some (saveStore (persistRequest cfg env w disk a req au).svc) := by
  by_cases hland : w.Land disk
  · exact persistRequest_store hevent hpath (.inl hland)
  exfalso
  have hfailed : ((disk.append (pendingRecord a.pending req a.reply) (some e) w.append).2 &&
      w.save) = false := by
    rw [← Bool.not_eq_true, Bool.and_eq_true, Disk.append_ok_iff]
    exact fun h => hland ⟨h.1.1, h.1.2, h.2⟩
  unfold persistRequest at hok
  rw [hevent, hpath] at hok
  unfold persist at hok
  simp only [hfailed, Bool.false_eq_true, if_false] at hok
  split at hok
  · exact absurd hok (show ¬ WireStatus.internal = WireStatus.ok by decide)
  · rename_i hno
    exact hno ⟨hok, hmut⟩

end Persist

/-! ## The cuts -/

/-- The files at every moment the request cuts the journal. -/
def Daemon.cuts (cfg : Config) (d : Daemon) (st : Step) : List Disk :=
  (handleOperation cfg d st.req st.env st.writes).truncated

/-- A cut after audit retention comes with a save, and the ring stays recent. -/
structure Step.CutsSafely (cfg : Config) (d : Daemon) (st : Step) : Prop where
  fits : Step.AuditFits Service.AuditRecent d.state.svc st.req
  saved : cfg.storePath = true →
    (auditRequest cfg st.env (answerRequest cfg st.env d.state st.req) st.req).pruned = true →
      st.writes.compactAudit = true → st.Saves cfg d

lemma Disk.mem_compactNow {disk cut : Disk} {ok : Bool} (h : cut ∈ (disk.compactNow ok).2) :
    ok = true ∧ cut = disk := by
  unfold Disk.compactNow at h
  split at h
  · rename_i hok
    exact ⟨hok, List.mem_singleton.mp h⟩
  · cases h

lemma Disk.store_compactNow (disk : Disk) (ok : Bool) : (disk.compactNow ok).1.store = disk.store := by
  unfold Disk.compactNow
  split <;> rfl

lemma Disk.mem_compact {disk cut : Disk} {ok : Bool} (h : cut ∈ (disk.compact ok).2) :
    cut = disk := by
  unfold Disk.compact at h
  split at h
  · cases h
  · split at h
    · cases h
    · exact (Disk.mem_compactNow h).2

lemma Disk.store_compact (disk : Disk) (ok : Bool) : (disk.compact ok).1.store = disk.store := by
  unfold Disk.compact
  split
  · rfl
  · split
    · rfl
    · exact disk.store_compactNow ok

lemma Disk.mem_syncRetention {disk cut : Disk} {svc : Service} {saved compacted : Bool}
    (h : cut ∈ (disk.syncRetention svc saved compacted).2) : cut.store = some (saveStore svc) := by
  unfold Disk.syncRetention at h
  split at h
  · obtain ⟨-, rfl⟩ := Disk.mem_compactNow h
    rfl
  · cases h

/-- Every cut finds the service of the request in the store. -/
lemma compactRequest_store {cfg : Config} {w : Writes} {a : Answer} {req : Request}
    {auditPruned : Bool} {p : Persisted}
    (hok : p.reply.status = WireStatus.ok → operationMutates req.operation req.payload = true →
      cfg.storePath = true → p.disk.store = some (saveStore p.svc))
    (hpruned : cfg.storePath = true → auditPruned = true → w.compactAudit = true →
      p.disk.store = some (saveStore p.svc))
    {cut : Disk} (hcut : cut ∈ (compactRequest cfg w a req auditPruned p).2) :
    cut.store = some (saveStore p.svc) := by
  have hcompacted : ∀ c, c = (if p.reply.status = WireStatus.ok ∧
      operationMutates req.operation req.payload = true ∧ cfg.storePath = true then
        p.disk.compact w.compact else (p.disk, [])) →
      c.1.store = p.disk.store ∧ (cut ∈ c.2 → cut.store = some (saveStore p.svc)) := by
    rintro _ rfl
    split
    · rename_i h
      refine ⟨Disk.store_compact _ _, fun hmem => ?_⟩
      rw [Disk.mem_compact hmem]
      exact hok h.1 h.2.1 h.2.2
    · exact ⟨rfl, fun hmem => by cases hmem⟩
  unfold compactRequest at hcut
  dsimp only at hcut
  generalize (if p.reply.status = WireStatus.ok ∧ operationMutates req.operation req.payload = true ∧
    cfg.storePath = true then p.disk.compact w.compact else (p.disk, [])) = c at hcut hcompacted
  obtain ⟨hstore, hfirst⟩ := hcompacted c rfl
  simp only [List.mem_append] at hcut
  rcases hcut with ((hcut | hcut) | hcut) | hcut
  · exact hfirst hcut
  · split at hcut
    · rename_i h
      obtain ⟨hdone, rfl⟩ := Disk.mem_compactNow hcut
      rw [hstore]
      exact hpruned h.2 h.1 hdone
    · cases hcut
  · split at hcut
    · exact Disk.mem_syncRetention hcut
    · cases hcut
  · split at hcut
    · exact Disk.mem_syncRetention hcut
    · cases hcut

/-- A request that is to be made durable has an event. -/
lemma auditRequest_event {cfg : Config} {env : Env} {a : Answer} {req : Request}
    (h : operationMutates req.operation req.payload = true ∨
      (auditRequest cfg env a req).pruned = true) :
    ∃ e, (auditRequest cfg env a req).event = some e := by
  obtain ⟨hno, heq⟩ | ⟨-, e, -, heq⟩ := auditRequest_cases cfg env a req
  · rw [heq] at h
    rcases h with hmut | hpruned
    · rw [shouldAudit, hmut, Bool.true_or] at hno
      cases hno
    · cases hpruned
  · exact ⟨e, by rw [heq]⟩

/-- One request: every cut finds the service that the request leaves in the store. -/
lemma Daemon.cuts_store {cfg : Config} {d : Daemon} {st : Step} (h : st.CutsSafely cfg d) {cut : Disk}
    (hcut : cut ∈ d.cuts cfg st) : cut.store = some (saveStore (d.step cfg st).state.svc) := by
  refine compactRequest_store ?_ ?_ hcut
  · intro hok hmut hpath
    obtain ⟨e, he⟩ := auditRequest_event (.inl hmut)
    exact persistRequest_store_of_ok he hpath hmut hok
  · intro hpath hpruned hdone
    obtain ⟨e, he⟩ := auditRequest_event (.inr hpruned)
    exact persistRequest_store he hpath (h.saved hpath hpruned hdone)

/-- What is known in every state of a run: the tables are well formed and the ring is recent. -/
def Daemon.AuditRecent (d : Daemon) : Prop := d.WellFormed ∧ d.state.svc.AuditRecent

lemma Daemon.AuditRecent.step {cfg : Config} {d : Daemon} {st : Step} (hd : d.AuditRecent)
    (h : Step.AuditFits Service.AuditRecent d.state.svc st.req) : (d.step cfg st).AuditRecent :=
  ⟨hd.1.step st, auditStable_auditRecent.step hd.1.1 hd.2 (fun _ h => h.positive) h⟩

/-- **Cutting the journal is safe.**  In every run in which a cut after audit retention comes with a
save of its request, whatever the writes do otherwise: whenever the journal is cut, all that it carries
and the service still holds is in the store. -/
theorem cuts_keep_live {cfg : Config} {d : Daemon} (hd : d.AuditRecent) {steps : List Step}
    (h : d.Along cfg (fun d st => st.CutsSafely cfg d) steps) {n : ℕ} (hn : n < steps.length) :
    ∀ cut ∈ (d.run cfg (steps.take n)).cuts cfg steps[n],
      ((d.run cfg (steps.take n)).step cfg steps[n]).state.svc.KeptBy cut := by
  intro cut hcut
  have hinv : (d.run cfg (steps.take n)).AuditRecent :=
    Run.Along.invariant h hd (fun _ _ hd hst => hd.step hst.fits) n
  have hstep : steps[n].CutsSafely cfg (d.run cfg (steps.take n)) := Run.Along.get h hn
  obtain ⟨hw, hr⟩ := @Daemon.AuditRecent.step cfg _ _ hinv hstep.fits
  have hstore := Daemon.cuts_store hstep hcut
  have hkept := Service.keptBy_saveStore hw.1 hr cut.journal
  rw [← hstore] at hkept
  exact hkept

/-- A daemon that keeps one audit event. -/
def Config.keepsEvent : Config := ⟨true, true, some { maxAuditEvents := 1 }⟩

section Letter

variable {key : Bytes} (h : key = ascii "a" ∨ key = ascii "b")

include h

lemma nul_notMem_letter : NUL ∉ unlines [ascii "key=" ++ key] := by
  rcases h with rfl | rfl <;> decide

lemma length_letter_le : (unlines [ascii "key=" ++ key]).length ≤ maxPayloadLen := by
  rcases h with rfl | rfl <;> decide

end Letter

/-- A put of an object under a one-letter key. -/
def Step.putLetter (key : Bytes) (h : key = ascii "a" ∨ key = ascii "b") (writes : Writes) : Step :=
  ⟨⟨WireOperation.putObject.code, ⟨unlines [ascii "key=" ++ key], nul_notMem_letter h,
    length_letter_le h⟩⟩, Env.idle, writes⟩

/-- A put leaves the ring recent, and its writes land. -/
lemma Step.cutsSafely_putLetter {cfg : Config} {d : Daemon} {key : Bytes}
    {h : key = ascii "a" ∨ key = ascii "b"} (hroom : d.state.svc.auditNextSequence.toNat + 2 < 2 ^ 64)
    (hjournal : journalNeedsHeader d.disk.journal ≠ none) :
    (Step.putLetter key h Writes.allDone).CutsSafely cfg d where
  fits := .of_room hroom
    (show WireOperation.putObject.code ≠ WireOperation.restoreSnapshot.code by decide)
  saved := fun _ _ _ => .inl ⟨hjournal, rfl, rfl⟩

/-- The second of two puts prunes the first event and cuts the journal. -/
theorem cuts_keep_live_pruned :
    ((Daemon.fresh.run .keepsEvent [.putLetter (ascii "a") (.inl rfl) Writes.allDone]).cuts .keepsEvent
        (.putLetter (ascii "b") (.inr rfl) Writes.allDone)).length = 1 ∧
    ∀ cut ∈ (Daemon.fresh.run .keepsEvent [.putLetter (ascii "a") (.inl rfl) Writes.allDone]).cuts
        .keepsEvent (.putLetter (ascii "b") (.inr rfl) Writes.allDone),
      (Daemon.fresh.run .keepsEvent [.putLetter (ascii "a") (.inl rfl) Writes.allDone,
        .putLetter (ascii "b") (.inr rfl) Writes.allDone]).state.svc.KeptBy cut := by
  have hfresh : Daemon.fresh.AuditRecent :=
    ⟨(Daemon.reachable_fresh Config.keepsEvent).wellFormed, Service.auditRecent_fresh⟩
  refine ⟨by decide +kernel, ?_⟩
  refine @cuts_keep_live .keepsEvent .fresh hfresh [.putLetter (ascii "a") (.inl rfl) Writes.allDone,
    .putLetter (ascii "b") (.inr rfl) Writes.allDone] ⟨?_, ?_, trivial⟩ 1 (by decide)
  · exact Step.cutsSafely_putLetter (by decide +kernel) (by decide +kernel)
  · exact Step.cutsSafely_putLetter (by decide +kernel) (by decide +kernel)

/-- Both saves fail, and everything else succeeds. -/
def Writes.unsaved : Writes := { Writes.allDone with save := false, saveAgain := false }

lemma infix_of_hasFrame {text : Bytes} {frame : List Bytes} (h : HasFrame (some text) frame) :
    unlines frame <:+: text := by
  obtain ⟨before, rest, heq⟩ := h
  exact ⟨unlines before, rest, (Option.some.inj heq).symm⟩

/-- Audit retention cuts the journal although no save of the request succeeded, and the frame of a live
event goes that the store does not have. -/
theorem cut_loses_event : ∃ cut ∈ (Daemon.fresh.run .keepsEvent
      [.putLetter (ascii "a") (.inl rfl) Writes.allDone]).cuts .keepsEvent
        (.putLetter (ascii "b") (.inr rfl) Writes.unsaved),
    ¬ (Daemon.fresh.run .keepsEvent [.putLetter (ascii "a") (.inl rfl) Writes.allDone,
      .putLetter (ascii "b") (.inr rfl) Writes.unsaved]).state.svc.KeptBy cut := by
  have hlost : ((Daemon.fresh.run .keepsEvent
      [.putLetter (ascii "a") (.inl rfl) Writes.allDone]).state.svc.audit.get 0).any (fun first =>
      ((Daemon.fresh.run .keepsEvent [.putLetter (ascii "a") (.inl rfl) Writes.allDone,
        .putLetter (ascii "b") (.inr rfl) Writes.unsaved]).state.svc.audit.get 1).any fun e =>
      ((Daemon.fresh.run .keepsEvent
        [.putLetter (ascii "a") (.inl rfl) Writes.allDone]).cuts .keepsEvent
          (.putLetter (ascii "b") (.inr rfl) Writes.unsaved)).any fun cut =>
        cut.journal.any (fun text =>
          decide (unlines (journalMagic :: saveAuditEvent first) ++ unlines (saveAuditEvent e) <+:
            text)) &&
        cut.store.any fun text => decide (¬ unlines (saveAuditEvent e) <:+: text)) = true := by
    decide +kernel
  obtain ⟨first, -, hlost⟩ := (Option.any_eq_true _ _).mp hlost
  obtain ⟨e, he, hlost⟩ := (Option.any_eq_true _ _).mp hlost
  obtain ⟨cut, hcut, hlost⟩ := List.any_eq_true.mp hlost
  obtain ⟨hjournal, hstore⟩ := Bool.and_eq_true_iff.mp hlost
  obtain ⟨text, htext, hcarried⟩ := (Option.any_eq_true _ _).mp hjournal
  obtain ⟨saved, hsaved, hmissing⟩ := (Option.any_eq_true _ _).mp hstore
  obtain ⟨rest, rfl⟩ := of_decide_eq_true hcarried
  refine ⟨cut, hcut, fun hkept => ?_⟩
  have hframe := hkept.audit e (SlotTable.mem_entries_of_get he) ⟨_, rest, htext⟩
  rw [hsaved] at hframe
  exact of_decide_eq_true hmissing (infix_of_hasFrame hframe)

end MemService
