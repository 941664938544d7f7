import MemService.AuditLog
import MemService.BlockGc
import MemService.DurableFiles

/-!
# The ring over restarts

A service that is restarted fills its ring from two files: first from the events of the store, then from
those of the journal, where every event takes the slot of its number.  If the journal carries consecutive
numbers up to the newest event, the ring comes back with the numbers it had, also when the journal is
longer than the ring.

That is what requests keep up, with every write succeeding, as long as no restore replaces the ring while
the journal still has frames: those frames stay, with numbers of the ring that is gone.  `AuditReached`
are the states that are reached this way, and `audit_ring` says what holds in all of them.
-/

open ByteText CNumeral

namespace MemService

/-! ## Imports and the audit part -/

lemma Service.auditPart_storeImportRecord {svc svc' : Service} {r : Record}
    (h : svc.storeImportRecord r = some svc') : svc'.auditPart = svc.auditPart := by
  unfold Service.storeImportRecord at h
  split at h
  · cases h
  · obtain ⟨t, -, rfl⟩ := Service.putRecord_eq_some h
    rfl

lemma Service.auditPart_storeImportIdempotency {svc svc' : Service} {r : IdempotencyRecord}
    (h : svc.storeImportIdempotency r = some svc') : svc'.auditPart = svc.auditPart := by
  unfold Service.storeImportIdempotency at h
  split at h
  · cases h
  · obtain ⟨t, -, rfl⟩ := Option.map_eq_some_iff.mp h
    rfl

/-- An event is imported into the audit part alone. -/
lemma Service.auditPart_storeImportAudit {svc svc' base : Service} {e : AuditEvent}
    (h : svc.storeImportAudit e = some svc') (hsame : base.auditPart = svc.auditPart) :
    ∃ base', base.storeImportAudit e = some base' ∧ base'.auditPart = svc'.auditPart := by
  obtain ⟨haudit, hnext, hcount⟩ := auditPart_eq hsame
  unfold Service.storeImportAudit at h ⊢
  split at h
  · cases h
  · rename_i hvalid
    rw [if_neg hvalid]
    cases h
    exact ⟨_, rfl, by simp only [Service.auditPart, haudit, hnext, hcount]⟩

/-- The frames of a store fill the ring with their events. -/
lemma importFrames_auditPart {base svc : Service} {rs : List Record} {is : List IdempotencyRecord}
    {es : List AuditEvent} (h : importFrames base rs is es = some svc) :
    ∃ mid : Service, mid.auditPart = base.auditPart ∧
      es.foldlM Service.storeImportAudit mid = some svc := by
  obtain ⟨svc₁, h₁, h⟩ := Option.bind_eq_some_iff.mp h
  obtain ⟨svc₂, h₂, h⟩ := Option.bind_eq_some_iff.mp h
  refine ⟨svc₂, ?_, h⟩
  have hrecords : svc₁.auditPart = base.auditPart :=
    SlotTable.foldlM_induction (P := fun s : Service => s.auditPart = base.auditPart) h₁ rfl
      fun _ _ _ _ hs hstep => (Service.auditPart_storeImportRecord hstep).trans hs
  exact SlotTable.foldlM_induction (P := fun s : Service => s.auditPart = base.auditPart) h₂ hrecords
    fun _ _ _ _ hs hstep => (Service.auditPart_storeImportIdempotency hstep).trans hs

/-- The frames of a journal fill the ring with their events. -/
lemma applyAll_auditPart {svc svc' base : Service} {fs : List JournalFrame}
    (h : JournalFrame.applyAll svc fs = some svc') (hsame : base.auditPart = svc.auditPart) :
    ∃ base', ((JournalFrame.audits fs).map AuditEvent.stored).foldlM Service.storeImportAudit base =
      some base' ∧ base'.auditPart = svc'.auditPart := by
  induction fs generalizing svc base with
  | nil =>
      cases h
      exact ⟨base, rfl, hsame⟩
  | cons f fs ih =>
      rw [JournalFrame.applyAll, List.foldlM_cons] at h
      obtain ⟨svc₁, h₁, hrest⟩ := Option.bind_eq_some_iff.mp h
      cases f with
      | idempotency r hr =>
          exact ih hrest (hsame.trans (Service.auditPart_storeImportIdempotency h₁).symm)
      | audit e =>
          obtain ⟨base₁, hbase, hpart⟩ := Service.auditPart_storeImportAudit h₁ hsame
          obtain ⟨base', hfold, hpart'⟩ := ih hrest hpart
          refine ⟨base', ?_, hpart'⟩
          show (e.stored :: (JournalFrame.audits fs).map AuditEvent.stored).foldlM _ base = _
          rw [List.foldlM_cons, hbase]
          exact hfold

lemma map_number_stored (es : List AuditEvent) :
    (es.map AuditEvent.stored).map AuditEvent.number = es.map AuditEvent.number := by
  rw [List.map_map]
  rfl

lemma Importable.stored {es : List AuditEvent} (h : Importable es) :
    Importable (es.map AuditEvent.stored) := by
  intro e he
  obtain ⟨q, hq, rfl⟩ := List.mem_map.mp he
  exact h q hq

/-! ## What a store and a snapshot bring back -/

/-- Two services count the same events. -/
def Service.SameCounts (svc svc' : Service) : Prop :=
  svc'.auditNextSequence = svc.auditNextSequence ∧ svc'.auditEventCount = svc.auditEventCount

/-- The whole of a sound ring, imported into an empty one. -/
lemma Service.RingSound.importFrames {svc restored : Service} (h : svc.RingSound)
    (hw : svc.WellFormed) {rs : List Record} {is : List IdempotencyRecord} {first : ℕ}
    (hfirst : first ≤ svc.auditNextSequence.toNat - svc.auditEventCount.toNat)
    (himp : MemService.importFrames fresh rs is ((svc.auditWindow first).map AuditEvent.stored) =
      some restored) : restored.RingSound ∧ svc.SameCounts restored := by
  obtain ⟨mid, hmid, hfold⟩ := importFrames_auditPart himp
  have hlt := h.count_lt
  have hnumbers : ((svc.auditWindow first).map AuditEvent.stored).map AuditEvent.number =
      List.range' (svc.auditNextSequence.toNat - svc.auditEventCount.toNat)
        svc.auditEventCount.toNat := by
    rw [map_number_stored, h.auditWindow_numbers (Nat.max_eq_right hfirst).symm]
    congr 1
    omega
  have hvalid : Importable (svc.auditWindow first) :=
    fun e he => hw.auditValid e (hw.mem_auditWindow.mp he).1
  obtain ⟨svc', hfold', hsound, hnext, hcount⟩ := Service.RingSound.foldlM_fresh hmid hnumbers
    hvalid.stored h.count_le hlt h.started svc.auditNextSequence.toNat_lt
  cases hfold.symm.trans hfold'
  exact ⟨hsound, UInt64.toNat_inj.mp hnext, UInt64.toNat_inj.mp hcount⟩

lemma Service.RingSound.savedFrom_le {svc : Service} (h : svc.RingSound) :
    svc.savedFrom ≤ svc.auditNextSequence.toNat - svc.auditEventCount.toNat := by
  have hlt := h.count_lt
  have hle : svc.auditEventCount.toNat ≤ 256 := h.count_le
  have h256 : maxAuditEvents = 256 := rfl
  unfold savedFrom
  split <;> omega

/-- A restored export of a sound ring is a sound ring. -/
lemma Service.RingSound.restored {svc restored : Service} (h : svc.RingSound) (hw : svc.WellFormed)
    (hok : (exportSnapshot svc).status = WireStatus.ok)
    (himp : importSnapshotText fresh (exportSnapshot svc).response = some restored) :
    restored.RingSound ∧ svc.SameCounts restored := by
  rw [importSnapshotText_exportSnapshot hw hok] at himp
  have hall : svc.exportedAudit = svc.auditWindow svc.auditFirstSequence.toNat := by
    unfold exportedAudit
    split
    · rfl
    · rename_i hno
      have hzero : svc.auditEventCount.toNat = 0 := by
        by_contra hne
        exact hno (UInt64.lt_iff_toNat_lt.mpr (Nat.pos_of_ne_zero hne))
      have hnumbers := h.auditWindow_numbers (max_self _).symm
      rw [← h.auditFirstSequence_toNat, h.auditFirstSequence_toNat, hzero, Nat.sub_zero, Nat.sub_self,
        List.range'_zero, List.map_eq_nil_iff] at hnumbers
      rw [h.auditFirstSequence_toNat, hzero, Nat.sub_zero, hnumbers]
  rw [hall] at himp
  exact h.importFrames hw (le_of_eq h.auditFirstSequence_toNat) himp

/-! ## Journals in sequence -/

/-- The audit events of a journal have consecutive numbers up to the newest event, and the recent ones
are in the ring. -/
structure FramesFollow (fs : List JournalFrame) (svc : Service) : Prop where
  valid : Importable (JournalFrame.audits fs)
  short : (JournalFrame.audits fs).length < svc.auditNextSequence.toNat
  numbers : (JournalFrame.audits fs).map AuditEvent.number =
    List.range' (svc.auditNextSequence.toNat - (JournalFrame.audits fs).length)
      (JournalFrame.audits fs).length
  recent : ∀ e ∈ JournalFrame.audits fs,
    svc.auditNextSequence.toNat ≤ e.number + maxAuditEvents →
      svc.auditNextSequence.toNat - svc.auditEventCount.toNat ≤ e.number

namespace FramesFollow

variable {svc svc' : Service} {fs : List JournalFrame}

lemma nil (h : svc.auditNextSequence ≠ 0) : FramesFollow [] svc where
  valid := by
    intro e he
    cases he
  short := Nat.pos_of_ne_zero fun hz => h (UInt64.toNat_inj.mp hz)
  numbers := rfl
  recent := by
    intro e he
    cases he

lemma congr (h : FramesFollow fs svc) (hsame : svc.SameCounts svc') : FramesFollow fs svc' := by
  obtain ⟨hnext, hcount⟩ := hsame
  exact ⟨h.valid, by rw [hnext]; exact h.short, by rw [hnext]; exact h.numbers,
    by rw [hnext, hcount]; exact h.recent⟩

/-- The frames of a request continue the journal. -/
lemma push (h : FramesFollow fs svc) (hring : svc.RingSound) {e : AuditEvent} {c : JournalCall}
    (hc : c.event = some e) (hseq : e.sequence = svc.nextSequence) (hop : e.operation ≠ 0)
    (hroom : svc.auditNextSequence.toNat + 1 < 2 ^ 64) :
    FramesFollow (fs ++ c.frames) (svc.recordAudit e) := by
  rw [Service.nextSequence_eq hring.next_ne_zero] at hseq
  have hnumber : e.number = svc.auditNextSequence.toNat := congrArg UInt64.toNat hseq
  have hsound : (svc.recordAudit e).RingSound := auditStable_ringSound.record hring hroom
    (by rw [Service.nextSequence_eq hring.next_ne_zero, hseq])
  have hnext : (svc.recordAudit e).auditNextSequence.toNat = svc.auditNextSequence.toNat + 1 := by
    rw [Service.recordAudit, hseq]
    exact toNat_succ hroom
  have haudits : JournalFrame.audits (fs ++ c.frames) = JournalFrame.audits fs ++ [e] := by
    rw [JournalCall.audits_append, hc]
    rfl
  have hshort := h.short
  have hlt := hring.count_lt
  have hle : svc.auditEventCount.toNat ≤ 256 := hring.count_le
  have h256 : maxAuditEvents = 256 := rfl
  refine ⟨?_, ?_, ?_, ?_⟩
  · rw [haudits]
    intro q hq
    rcases List.mem_append.mp hq with hq | hq
    · exact h.valid q hq
    · cases List.mem_singleton.mp hq
      exact ⟨hseq ▸ hring.next_ne_zero, hop⟩
  · rw [haudits, hnext, List.length_append, List.length_singleton]
    omega
  · rw [haudits, hnext, List.map_append, h.numbers, List.length_append, List.length_singleton,
      List.range'_concat, List.map_singleton, hnumber, Nat.add_sub_add_right, Nat.one_mul]
    congr 2
    omega
  · rw [haudits, hnext]
    have hcount : svc.auditEventCount.toNat + 1 ≤ 256 →
        (svc.recordAudit e).auditEventCount.toNat = svc.auditEventCount.toNat + 1 := by
      intro hle
      have hlt : svc.auditEventCount < 256 := UInt64.lt_iff_toNat_lt.mpr hle
      rw [Service.recordAudit]
      dsimp only
      rw [if_pos hlt]
      exact toNat_succ (by omega)
    have hfull : svc.auditEventCount.toNat = 256 →
        (svc.recordAudit e).auditEventCount.toNat = 256 := by
      intro heq
      have hnot : ¬ svc.auditEventCount < 256 := by
        rw [UInt64.not_lt, UInt64.le_iff_toNat_le]
        exact le_of_eq heq.symm
      rw [Service.recordAudit]
      dsimp only
      rw [if_neg hnot, heq]
    intro q hq hrecent
    rcases List.mem_append.mp hq with hq | hq
    · have hold := h.recent q hq (by omega)
      by_cases heq : svc.auditEventCount.toNat = 256
      · rw [hfull heq]
        omega
      · rw [hcount (by omega)]
        omega
    · cases List.mem_singleton.mp hq
      by_cases heq : svc.auditEventCount.toNat = 256
      · rw [hfull heq]
        omega
      · rw [hcount (by omega)]
        omega

end FramesFollow

/-! ## Files in step with the ring -/

/-- A store that brings back a sound ring with the events the service counts. -/
def Disk.StoresRing (disk : Disk) (svc : Service) : Prop :=
  ∀ base legacy, loadStore Service.fresh disk.store = some (base, legacy) →
    legacy = false ∧ base.RingSound ∧ svc.SameCounts base

/-- The ring is sound, and the files bring it back. -/
structure Daemon.InStep (d : Daemon) : Prop where
  ring : d.state.svc.RingSound
  store : d.disk.StoresRing d.state.svc
  journal : ∃ fs, d.disk.Journals fs ∧ FramesFollow fs d.state.svc

lemma Service.SameCounts.symm {svc svc' : Service} (h : svc.SameCounts svc') :
    svc'.SameCounts svc := ⟨h.1.symm, h.2.symm⟩

lemma Service.SameCounts.trans {svc₁ svc₂ svc₃ : Service} (h : svc₁.SameCounts svc₂)
    (h' : svc₂.SameCounts svc₃) : svc₁.SameCounts svc₃ := ⟨h'.1.trans h.1, h'.2.trans h.2⟩

lemma Service.sameCounts_of_auditPart {svc svc' : Service} (h : svc'.auditPart = svc.auditPart) :
    svc.SameCounts svc' := by
  obtain ⟨-, hnext, hcount⟩ := auditPart_eq h
  exact ⟨hnext, hcount⟩

namespace Daemon.InStep

variable {cfg : Config} {d : Daemon} {st : Step}

lemma fresh : Daemon.fresh.InStep where
  ring := Service.ringSound_fresh
  store := by
    intro base legacy h
    have hload : loadStore Service.fresh none = some (Service.fresh, false) := rfl
    obtain ⟨rfl, rfl⟩ := Prod.mk.inj (Option.some.inj (hload.symm.trans h))
    exact ⟨rfl, Service.ringSound_fresh, rfl, rfl⟩
  journal := ⟨[], .inr ⟨rfl, rfl⟩, .nil (by decide)⟩

/-- A service that was saved, with a journal that follows it. -/
lemma of_saved {svc : Service} {stage : Option RestoreStage} {fs : List JournalFrame}
    (hw : svc.WellFormed) (hring : svc.RingSound) (hfs : FramesFollow fs svc) :
    Daemon.InStep ⟨⟨svc, stage⟩, ⟨some (saveStore svc), some (journalText fs)⟩⟩ where
  ring := hring
  store := by
    intro base legacy h
    have h : loadStore Service.fresh (some (saveStore svc)) = some (base, legacy) := h
    rw [loadStore_saveStore hw.recordCount_lt hw.responseLines] at h
    obtain ⟨restored, himp, heq⟩ := Option.map_eq_some_iff.mp h
    obtain ⟨rfl, rfl⟩ := Prod.mk.inj heq
    exact ⟨rfl, hring.importFrames hw hring.savedFrom_le himp⟩
  journal := ⟨fs, .inl rfl, hfs⟩

/-- **A restart.**  Files in step bring back a sound ring, and are in step with it. -/
lemma reload (h : d.InStep) {svc : Service} {disk' : Disk}
    (hload : loadDurableStore d.disk = some (svc, disk')) :
    Daemon.InStep ⟨⟨svc, none⟩, disk'⟩ := by
  obtain ⟨fs, hjournal, hfollow⟩ := h.journal
  obtain ⟨⟨base, legacy⟩, hstore, hrest⟩ := Option.bind_eq_some_iff.mp hload
  obtain ⟨loaded, happly, heq⟩ := Option.map_eq_some_iff.mp hrest
  obtain ⟨rfl, hring, hcounts⟩ := h.store base legacy hstore
  obtain ⟨rfl, rfl⟩ := Prod.mk.inj heq
  have hframes : JournalFrame.applyAll base fs = some loaded := by
    rcases hjournal with hj | ⟨hj, rfl⟩
    · rwa [hj, loadJournal_journalText] at happly
    · rw [hj] at happly
      exact happly
  obtain ⟨base', hfold, hpart⟩ := applyAll_auditPart hframes rfl
  have hbase := hfollow.congr hcounts
  obtain ⟨svc', hfold', hring', hcounts'⟩ := hring.foldlM_log hbase.short
    (by rw [map_number_stored]; exact hbase.numbers) hbase.valid.stored (by
      intro e he hrecent
      obtain ⟨q, hq, rfl⟩ := List.mem_map.mp he
      exact hbase.recent q hq hrecent)
  obtain rfl := Option.some.inj (hfold.symm.trans hfold')
  have hsame : base.SameCounts loaded :=
    ⟨(auditPart_eq hpart).2.1.symm.trans hcounts'.1, (auditPart_eq hpart).2.2.symm.trans hcounts'.2⟩
  have hlive : d.state.svc.SameCounts loaded := hcounts.trans hsame
  refine ⟨auditStable_ringSound.congr hpart.symm hring', ?_, fs, hjournal, hfollow.congr hlive⟩
  intro base₁ legacy₁ h₁
  obtain ⟨hlegacy, hring₁, hcounts₁⟩ := h.store base₁ legacy₁ h₁
  exact ⟨hlegacy, hring₁, hlive.symm.trans hcounts₁⟩

end Daemon.InStep

/-! ## Requests, passes and restarts -/

/-- A sound ring with too many events loses one. -/
lemma Service.RingSound.applyAuditRetention_kept {svc : Service} (hring : svc.RingSound)
    {maxEvents : UInt64} (h : (svc.applyAuditRetention maxEvents).2 = false) :
    (svc.applyAuditRetention maxEvents).1 = svc := by
  unfold Service.applyAuditRetention at h ⊢
  split at h
  · rename_i hno
    rw [if_pos hno]
  rename_i hno
  exfalso
  simp only [not_or] at hno
  obtain ⟨hzero, -, hmore, -⟩ := hno
  have hlt := hring.count_lt
  have hpos : 0 < maxEvents.toNat := Nat.pos_of_ne_zero fun hz => hzero (UInt64.toNat_inj.mp hz)
  rw [UInt64.not_le, UInt64.lt_iff_toNat_lt] at hmore
  have hgt : maxEvents < svc.auditNextSequence := by
    rw [UInt64.lt_iff_toNat_lt]
    omega
  obtain ⟨e, he, hnumber⟩ := hring.filled (svc.auditNextSequence.toNat - svc.auditEventCount.toNat)
    le_rfl (by omega)
  refine absurd h (Bool.not_eq_false _ |>.mpr (List.any_eq_true.mpr
    ⟨e, SlotTable.mem_entries_of_get he, ?_⟩))
  rw [decide_eq_true_eq, if_pos hgt, UInt64.lt_iff_toNat_lt,
    UInt64.toNat_sub_of_le _ _ (UInt64.le_of_lt hgt)]
  have hnumber : e.sequence.toNat = _ := hnumber
  omega

/-- The request restores a snapshot, or installs a staged one. -/
def Request.replacesTables (req : Request) : Bool :=
  match WireOperation.ofCode req.operation with
  | some .restoreSnapshot => true
  | some .restoreSnapshotPage => req.payload.getString "action" 32 == some (ascii "commit")
  | _ => false

/-- The journal has no frames: there is none, or a header alone. -/
def Disk.journalEmpty (disk : Disk) : Bool := disk.journal == none || disk.journal == some headerOnly

/-- A request after which the files are in step with the ring, if they were: every write is done, and no
table is replaced over a journal with frames. -/
def Step.keepsInStep (d : Daemon) (st : Step) : Prop :=
  st.writes = .allDone ∧ (st.req.replacesTables = true → d.disk.journalEmpty = true)

lemma Step.keepsInStep_of_tables {d : Daemon} {st : Step} (hwrites : st.writes = .allDone)
    (htables : st.req.replacesTables = false) : st.keepsInStep d :=
  ⟨hwrites, fun h => absurd (htables.symm.trans h) Bool.false_ne_true⟩

namespace Daemon.InStep

variable {cfg : Config} {d : Daemon} {st : Step}

lemma journals_nil {disk : Disk} {fs : List JournalFrame} (hempty : disk.journalEmpty = true)
    (h : disk.Journals fs) : fs = [] := by
  rcases h with h | ⟨-, rfl⟩
  · have htext : journalText fs = headerOnly := by
      simpa [Disk.journalEmpty, h] using hempty
    cases fs with
    | nil => rfl
    | cons f fs =>
        have hnil : unlines ((f :: fs).flatMap JournalFrame.lines) = [] := by
          have hcons := htext
          rw [journalText_eq, headerOnly_eq, journalText_eq] at hcons
          simpa using hcons
        rw [unlines_eq_nil_iff, List.flatMap_cons, f.lines_eq] at hnil
        simp at hnil
  · rfl

/-- The journal follows the answer to a request, as it followed the service. -/
lemma follow_answer {fs : List JournalFrame} {a : Answer} (hd : d.WellFormed)
    (ha : Answered cfg st.env d.state st.req a) (hjournal : d.disk.Journals fs)
    (hfollow : FramesFollow fs d.state.svc) (hafter : a.state.svc.auditNextSequence ≠ 0)
    (hreplaces : st.req.replacesTables = true → d.disk.journalEmpty = true) :
    FramesFollow fs a.state.svc := by
  have hreplaced : st.req.replacesTables = true → FramesFollow fs a.state.svc := by
    intro h
    rw [journals_nil (hreplaces h) hjournal]
    exact .nil hafter
  cases hmut : operationMutates st.req.operation st.req.payload with
  | false =>
      rw [(ha.svc_eq hd.1 hmut).1]
      exact hfollow
  | true =>
      cases ha.auditBase hd.1 with
      | same h => exact hfollow.congr (Service.sameCounts_of_auditPart h)
      | restored hop _ _ =>
          refine hreplaced ?_
          rw [Request.replacesTables, hop]
          rfl
      | committed hop _ =>
          refine hreplaced ?_
          rw [operationMutates, hop] at hmut
          rw [Request.replacesTables, hop]
          exact hmut

/-- **A request.**  It keeps the files in step. -/
lemma request (h : d.InStep) (hd : d.WellFormed) (hpath : cfg.storePath = true)
    (hkeeps : st.keepsInStep d) (hfits : Step.AuditFits Service.RingSound d.state.svc st.req) :
    (d.step cfg st).InStep := by
  obtain ⟨hw, hreplaces⟩ := hkeeps
  obtain ⟨fs, hjournal, hfollow⟩ := h.journal
  have hring : (d.step cfg st).state.svc.RingSound :=
    auditStable_ringSound.step hd.1 h.ring (fun _ hs => hs.next_ne_zero) hfits
  have ha := answerRequest_answered cfg st.env d.state st.req
  obtain ⟨hafter, hroom⟩ := auditStable_ringSound.answer (ha.auditBase hd.1) h.ring hfits
  have hfollow' := follow_answer hd ha hjournal hfollow hafter.next_ne_zero hreplaces
  have hwell : (d.step cfg st).WellFormed := hd.step st
  cases Daemon.step_files hd hpath hw hjournal with
  | untouched _ hsvc hdisk =>
      refine ⟨hring, ?_, fs, ?_, ?_⟩
      · rw [hsvc, hdisk]
        exact h.store
      · rw [hdisk]
        exact hjournal
      · rw [hsvc]
        exact hfollow
  | @filed c e fs' hevent hc hsvc hdisk hfs hcut =>
      have hcontinued : FramesFollow fs' (d.step cfg st).state.svc := by
        rcases hfs with rfl | rfl
        swap
        · exact .nil hring.next_ne_zero
        obtain ⟨-, heq⟩ | ⟨hshould, q, hq, heq⟩ := auditRequest_cases cfg st.env
          (answerRequest cfg st.env d.state st.req) st.req
        · rw [heq] at hevent
          cases hevent
        rw [heq] at hevent hsvc hcut
        obtain rfl := Option.some.inj hevent
        cases hpruned : ((((answerRequest cfg st.env d.state st.req).state.svc.recordAudit
            q).applyAuditRetention (cfg.limits.elim 0 DaemonLimits.maxAuditEvents)).2) with
        | true =>
            rw [hcut (.inl hpruned)]
            exact .nil hring.next_ne_zero
        | false =>
            have hrecord := auditStable_ringSound.record hafter (by omega)
              (show q.sequence = _ by rw [hq]; rfl)
            rw [hsvc, hrecord.applyAuditRetention_kept hpruned]
            exact hfollow'.push hafter hc.2 (by rw [hq]; rfl)
              (by rw [hq]; exact ha.operation_ne_zero_of_audit hshould) (by omega)
      have hsaved : (d.step cfg st).InStep ↔ Daemon.InStep ⟨⟨(d.step cfg st).state.svc,
          (d.step cfg st).state.stage⟩, ⟨some (saveStore (d.step cfg st).state.svc),
            some (journalText fs')⟩⟩ := by
        rw [hsvc, ← hdisk, ← hsvc]
      exact hsaved.mpr (of_saved hwell.1 hring hcontinued)

end Daemon.InStep

/-- The passes at a start are those of the daemon with a block store. -/
lemma World.daemon_retention (cfg : Config) (w : World) (limits : DaemonLimits) (nowMs : UInt64) :
    (w.step cfg (.retention limits nowMs)).daemon = w.daemon.startRetention cfg limits nowMs := rfl

lemma Service.RingSound.startRetention {svc : Service} (h : svc.RingSound) (limits : DaemonLimits)
    (nowMs : UInt64) : (svc.startRetention limits nowMs).1.RingSound ∧
      ((svc.startRetention limits nowMs).2 = false →
        (svc.startRetention limits nowMs).1 = svc) := by
  have hretain := auditStable_ringSound.retain limits.maxAuditEvents h
  have hcheckpoint := Service.passed_applyCheckpointRetention
    (svc.applyAuditRetention limits.maxAuditEvents).1 limits.maxCheckpointRecords
  have hrecord := Service.passed_applyRecordRetention
    ((svc.applyAuditRetention limits.maxAuditEvents).1.applyCheckpointRetention
      limits.maxCheckpointRecords).1 limits nowMs
  refine ⟨auditStable_ringSound.congr (hrecord.pruned.shrinks.audit.trans
    hcheckpoint.pruned.shrinks.audit) hretain, fun hno => ?_⟩
  obtain ⟨hno, hrecords⟩ := Bool.or_eq_false_iff.mp hno
  obtain ⟨haudit, hcheckpoints⟩ := Bool.or_eq_false_iff.mp hno
  exact (hrecord.kept hrecords).trans
    ((hcheckpoint.kept hcheckpoints).trans (h.applyAuditRetention_kept haudit))

/-- **A retention pass.**  It keeps the files in step. -/
lemma Daemon.InStep.startRetention {cfg : Config} {d : Daemon} (h : d.InStep) (hd : d.WellFormed)
    (hpath : cfg.storePath = true) (limits : DaemonLimits) (nowMs : UInt64) :
    (d.startRetention cfg limits nowMs).InStep := by
  obtain ⟨hring, hkept⟩ := h.ring.startRetention limits nowMs
  unfold Daemon.startRetention
  cases hpruned : (d.state.svc.startRetention limits nowMs).2 with
  | false =>
      simp only [hpruned, hkept hpruned, Bool.false_eq_true, false_and, if_false]
      exact h
  | true =>
      simp only [hpruned, hpath, and_self, if_true]
      exact .of_saved (hd.1.startRetention limits nowMs) hring (.nil hring.next_ne_zero)

/-! ## What a run reaches -/

/-- The states of a daemon that is sent requests, prunes its tables, restores snapshots it exported and
is restarted from its own files.  The index says whether the files are in step with the ring, as far as
the steps tell; a daemon is only restarted when they are. -/
inductive AuditReached (cfg : Config) : Prop → Daemon → Prop
  | start : AuditReached cfg True Daemon.fresh
  | request {inStep : Prop} {d : Daemon} (h : AuditReached cfg inStep d) (st : Step)
      (hroom : d.state.svc.auditNextSequence.toNat + 2 < 2 ^ 64)
      (hop : st.req.operation ≠ WireOperation.restoreSnapshot.code) :
      AuditReached cfg (inStep ∧ st.keepsInStep d) (d.step cfg st)
  | restore {inStep early : Prop} {d exporter : Daemon} (h : AuditReached cfg inStep d)
      (hearly : AuditReached cfg early exporter) (st : Step)
      (hroom : d.state.svc.auditNextSequence.toNat + 2 < 2 ^ 64)
      (hroomEarly : exporter.state.svc.auditNextSequence.toNat + 2 < 2 ^ 64)
      (hexport : (exportSnapshot exporter.state.svc).status = WireStatus.ok)
      (hpayload : st.req.payload.bytes = (exportSnapshot exporter.state.svc).response) :
      AuditReached cfg (inStep ∧ st.keepsInStep d) (d.step cfg st)
  | retention {inStep : Prop} {d : Daemon} (h : AuditReached cfg inStep d) (limits : DaemonLimits)
      (nowMs : UInt64) : AuditReached cfg inStep (d.startRetention cfg limits nowMs)
  | reload {inStep : Prop} {d : Daemon} (h : AuditReached cfg inStep d) (hin : inStep)
      (hpath : cfg.storePath = true) {svc : Service} {disk' : Disk}
      (hload : loadDurableStore d.disk = some (svc, disk')) :
      AuditReached cfg True ⟨⟨svc, none⟩, disk'⟩

/-- The invariant of these states. -/
structure Daemon.RingKept (cfg : Config) (inStep : Prop) (d : Daemon) : Prop where
  wellFormed : d.WellFormed
  ring : d.state.svc.RingSound
  files : cfg.storePath = true → inStep → d.InStep

lemma Daemon.RingKept.step {cfg : Config} {inStep : Prop} {d : Daemon} (h : d.RingKept cfg inStep)
    {st : Step} (hfits : Step.AuditFits Service.RingSound d.state.svc st.req) :
    (d.step cfg st).RingKept cfg (inStep ∧ st.keepsInStep d) where
  wellFormed := h.wellFormed.step st
  ring := auditStable_ringSound.step h.wellFormed.1 h.ring (fun _ hs => hs.next_ne_zero) hfits
  files := fun hpath hin => (h.files hpath hin.1).request h.wellFormed hpath hin.2 hfits

lemma AuditReached.ringKept {cfg : Config} {inStep : Prop} {d : Daemon}
    (h : AuditReached cfg inStep d) : d.RingKept cfg inStep := by
  induction h with
  | start =>
      exact ⟨(Daemon.reachable_fresh cfg).wellFormed, Service.ringSound_fresh, fun _ _ => .fresh⟩
  | request _ st hroom hop ih => exact ih.step (.of_room hroom hop)
  | @restore _ _ d exporter _ _ st hroom hroomEarly hexport hpayload ih ihEarly =>
      refine ih.step ⟨hroom, fun _ snapshot himp => ?_⟩
      rw [hpayload] at himp
      obtain ⟨hring, hnext, -⟩ := ihEarly.ring.restored ihEarly.wellFormed.1 hexport himp
      exact ⟨hring, by rw [hnext]; exact hroomEarly⟩
  | retention _ limits nowMs ih =>
      exact ⟨⟨ih.wellFormed.1.startRetention limits nowMs, ih.wellFormed.2⟩,
        (ih.ring.startRetention limits nowMs).1,
        fun hpath hin => (ih.files hpath hin).startRetention ih.wellFormed hpath limits nowMs⟩
  | reload _ hin hpath hload ih =>
      have hfiles := (ih.files hpath hin).reload hload
      exact ⟨⟨wellFormed_loadDurableStore hload, by rintro _ ⟨⟩⟩, hfiles.ring, fun _ _ => hfiles⟩

/-- Small pages always fit. -/
lemma Service.auditPagesFit_of_le {svc : Service} {maxEvents : UInt64}
    (h : auditPageSize maxEvents ≤ 4) : svc.AuditPagesFit maxEvents :=
  fun _ _ => length_auditPageText_lt _ _ ((List.length_take_le _ _).trans h)

/-- **The audit ring.**  In every state a daemon reaches by requests, retention, restoring its own
exports, and restarts from files that are in step, the events in use have distinct numbers, each stands
in the slot of its number, their numbers are exactly those of the interval that ends at the next number
and is as long as the event count, which counts the slots in use; and a client that reads the log page
by page, by pages that fit the response (those of four events always do), gets every retained event once,
by increasing numbers, and ends with a complete page. -/
theorem audit_ring {cfg : Config} {inStep : Prop} {d : Daemon} (h : AuditReached cfg inStep d) :
    (∀ i e, d.state.svc.audit.get i = some e → i = (e.number - 1) % 256) ∧
    (∀ i j e q, d.state.svc.audit.get i = some e → d.state.svc.audit.get j = some q →
      e.number = q.number → i = j) ∧
    (∀ n, (∃ e ∈ d.state.svc.audit.entries, e.number = n) ↔
      d.state.svc.auditNextSequence.toNat - d.state.svc.auditEventCount.toNat ≤ n ∧
        n < d.state.svc.auditNextSequence.toNat) ∧
    d.state.svc.auditEventCount.toNat = d.state.svc.audit.count ∧
    d.state.svc.retainedEvents.map AuditEvent.number =
      List.range' (d.state.svc.auditNextSequence.toNat - d.state.svc.auditEventCount.toNat)
        d.state.svc.auditEventCount.toNat ∧
    (∀ maxEvents : UInt64, auditPageSize maxEvents ≤ 4 → d.state.svc.AuditPagesFit maxEvents) ∧
    ∀ (maxEvents : UInt64) (fuel : ℕ), d.state.svc.AuditPagesFit maxEvents →
      d.state.svc.auditEventCount.toNat < fuel →
      ∃ gs, gs.flatten = d.state.svc.retainedEvents ∧
        List.Forall₂ (AuditPageOf d.state.svc) (auditPages d.state.svc maxEvents fuel 0) gs ∧
        ∃ last, (auditPages d.state.svc maxEvents fuel 0).getLast? = some last ∧
          pageComplete last.response := by
  have hring := h.ringKept.ring
  refine ⟨hring.slots, ?_, fun n => ?_, hring.count_eq.symm, ?_,
    fun _ => Service.auditPagesFit_of_le, fun _ _ hfits hfuel => auditPages_complete hring hfits hfuel⟩
  · intro i j e q he hq hn
    rw [hring.slots i e he, hring.slots j q hq, hn]
  · have hmem := hring.mem_map_entries (n := n)
    rwa [List.mem_map, Finset.mem_Ico] at hmem
  · rw [hring.retainedEvents_numbers]

/-- The daemon that keeps one event, started again. -/
theorem audit_ring_keptOne : ∃ svc disk',
    loadDurableStore Daemon.keptOne.disk = some (svc, disk') ∧ svc.audit.count = 1 ∧
      svc.retainedEvents.map AuditEvent.number = [2] := by
  have hstart : AuditReached .durable True Daemon.fresh := .start
  have hkept := ((hstart.request .putA (by decide) (by decide)).request .putB (by decide +kernel)
    (by decide)).retention { maxRetainedRecords := 1, maxAuditEvents := 1 } 0
  have hloads : (loadDurableStore Daemon.keptOne.disk).any (fun loaded =>
      loaded.1.auditNextSequence == 3 && loaded.1.auditEventCount == 1) = true := by
    decide +kernel
  obtain ⟨⟨svc, disk'⟩, hload, hcounts⟩ := (Option.any_eq_true _ _).mp hloads
  simp only [Bool.and_eq_true, beq_iff_eq] at hcounts
  obtain ⟨hnext, hevents⟩ := hcounts
  have hin : (True ∧ Step.putA.keepsInStep Daemon.fresh) ∧
      Step.putB.keepsInStep (Daemon.fresh.step .durable .putA) :=
    ⟨⟨trivial, Step.keepsInStep_of_tables rfl rfl⟩, Step.keepsInStep_of_tables rfl rfl⟩
  have hloaded := hkept.reload hin rfl hload
  obtain ⟨-, -, -, hcount, hnumbers, -⟩ := audit_ring hloaded
  rw [hevents] at hcount hnumbers
  rw [hnext] at hnumbers
  exact ⟨svc, disk', hload, hcount.symm, hnumbers⟩

/-- Two objects on a daemon that keeps one record, the second put twice, and a restore of an empty
export over them. -/
def emptyRestore : List Step :=
  [.idle .putObject ⟨unlines [ascii "key=a"], by decide, by decide⟩,
    .idle .putObject ⟨unlines [ascii "key=b"], by decide, by decide⟩,
    .idle .putObject ⟨unlines [ascii "key=b"], by decide, by decide⟩,
    .idle .restoreSnapshotPage
      ⟨unlines [ascii "action=begin", ascii "expected_records=0"], by decide, by decide⟩,
    .idle .restoreSnapshotPage ⟨unlines [ascii "action=commit"], by decide, by decide⟩]

/-- The restore starts the numbers anew, the journal goes on with the old ones: after a restart the ring
has the events 1 and 3, and counts two events up to 3. -/
theorem ring_broken_by_restart : ∃ svc disk',
    loadDurableStore (Daemon.fresh.run .keepsOne emptyRestore).disk = some (svc, disk') ∧
    svc.audit.entries.map AuditEvent.number = [1, 3] ∧ svc.auditNextSequence = 4 ∧
    svc.auditEventCount = 2 := by
  have hsome : (loadDurableStore (Daemon.fresh.run .keepsOne emptyRestore).disk).any (fun loaded =>
      loaded.1.audit.entries.map AuditEvent.number == [1, 3] && loaded.1.auditNextSequence == 4 &&
        loaded.1.auditEventCount == 2) = true := by
    decide +kernel
  obtain ⟨⟨svc, disk'⟩, hload, hall⟩ := (Option.any_eq_true _ _).mp hsome
  simp only [Bool.and_eq_true, beq_iff_eq] at hall
  exact ⟨svc, disk', hload, hall.1.1, hall.1.2, hall.2⟩

end MemService
