import MemService.AuditReload
import MemService.Idempotency
import MemService.RoundTrip

/-!
# Restarts

The store file holds the tables as they were saved last, the journal what was answered and audited since it
was cut last.  Every audited request saves the tables, so that the journal tells nothing new: its answers are
in the idempotency table and its recent events in the ring, and what it tells of older events is told again
by newer ones.

`restart_equivalence` is what follows for a daemon that is started from its files.  It asks for what the
format cannot carry: that every text of the tables reads back as it is, and that no request replaces the
tables over a journal with frames.
-/

namespace MemService

open ByteText

/-! ## Journals that tell nothing new -/

/-- The answers of a journal are in the idempotency table, and its recent events in the ring. -/
structure Retold (fs : List JournalFrame) (svc : Service) : Prop where
  follow : FramesFollow fs svc
  answers : ∀ r ∈ JournalFrame.idempotencies fs, r ∈ svc.idempotency.entries
  events : ∀ e ∈ JournalFrame.audits fs, svc.auditNextSequence.toNat ≤ e.number + maxAuditEvents →
    e ∈ svc.audit.entries

/-- A service with the same answers and the same ring, perhaps in other slots. -/
structure SameLog (svc svc' : Service) : Prop where
  answers : ∀ r, r ∈ svc'.idempotency.entries ↔ r ∈ svc.idempotency.entries
  ring : ∀ i, svc'.audit.get i = svc.audit.get i
  counts : svc.SameCounts svc'

section Replay

variable {svc svc' : Service} {fs : List JournalFrame}

lemma SameLog.mem_audit (h : SameLog svc svc') {e : AuditEvent} :
    e ∈ svc'.audit.entries ↔ e ∈ svc.audit.entries := by
  simp only [SlotTable.mem_entries, h.ring]

lemma Retold.congr (h : Retold fs svc) (hsame : SameLog svc svc') : Retold fs svc' where
  follow := h.follow.congr hsame.counts
  answers := fun r hr => (hsame.answers r).mpr (h.answers r hr)
  events := fun e he hrecent => hsame.mem_audit.mpr (h.events e he (hsame.counts.1 ▸ hrecent))

/-- An answer that the table holds already changes nothing. -/
lemma storeImportIdempotency_held (hw : svc.WellFormed) {r : IdempotencyRecord}
    (hr : r ∈ svc.idempotency.entries) : svc.storeImportIdempotency r = some svc := by
  obtain ⟨hkey, hop⟩ := hw.idempotencyValid r hr
  have hheld : svc.idempotency.upsert IdempotencyRecord.keyBytes r = some svc.idempotency := by
    have hfound := (hw.idempotencyKeys.lookup_eq_some_iff (k := r.keyBytes)).mpr ⟨hr, rfl⟩
    cases hup : svc.idempotency.upsert IdempotencyRecord.keyBytes r with
    | none =>
      obtain ⟨hnone, -⟩ := SlotTable.upsert_eq_none_iff.mp hup
      exact absurd (hnone.symm.trans hfound) nofun
    | some t =>
      obtain ⟨i, b, hget, hk, -, rfl⟩ | ⟨i, -, -, hnone, -⟩ := SlotTable.upsert_cases hup
      · have hb := SlotTable.mem_entries_of_get hget
        obtain rfl := hw.idempotencyKeys.eq hb hr hk
        rw [SlotTable.put_self hget]
      · exact absurd (hnone.symm.trans hfound) nofun
  rw [Service.storeImportIdempotency, if_neg (not_or.mpr ⟨hkey, hop⟩), hheld, Option.map_some]

/-- Of a journal whose answers are all held, the events remain. -/
lemma applyAll_of_answers (hw : svc.WellFormed)
    (hr : ∀ r ∈ JournalFrame.idempotencies fs, r.stored = r ∧ r ∈ svc.idempotency.entries) :
    JournalFrame.applyAll svc fs =
      ((JournalFrame.audits fs).map AuditEvent.stored).foldlM Service.storeImportAudit svc := by
  induction fs generalizing svc with
  | nil => rfl
  | cons f fs ih =>
    cases f with
    | idempotency r fits =>
      have hr' : ∀ q ∈ JournalFrame.idempotencies fs, q.stored = q ∧ q ∈ svc.idempotency.entries :=
        fun q hq => hr q (List.mem_cons_of_mem _ hq)
      obtain ⟨hstored, hmem⟩ := hr r (List.mem_cons_self ..)
      have happly : (JournalFrame.idempotency r fits).apply svc = some svc := by
        rw [JournalFrame.apply, hstored]
        exact storeImportIdempotency_held hw hmem
      rw [JournalFrame.applyAll, List.foldlM_cons, happly]
      exact ih hw hr'
    | audit e =>
      have haudits : JournalFrame.audits (.audit e :: fs) = e :: JournalFrame.audits fs := rfl
      have hidem : JournalFrame.idempotencies (.audit e :: fs) = JournalFrame.idempotencies fs := rfl
      rw [haudits, List.map_cons, List.foldlM_cons, JournalFrame.applyAll, List.foldlM_cons]
      rw [hidem] at hr
      have happly : (JournalFrame.audit e).apply svc = svc.storeImportAudit e.stored := rfl
      rw [happly]
      cases himp : svc.storeImportAudit e.stored with
      | none => rfl
      | some svc₁ =>
        have hsame : svc₁.idempotency = svc.idempotency := by
          unfold Service.storeImportAudit at himp
          split at himp
          · cases himp
          · obtain rfl := Option.some.inj himp
            rfl
        exact ih (hw.storeImportAudit himp) (hsame ▸ hr)

/-- **The journal is told again.**  It leaves the tables as they are. -/
lemma Retold.replay (h : Retold fs svc) (hw : svc.WellFormed) (hring : svc.RingSound) (hs : svc.Storable) :
    ∃ svc', JournalFrame.applyAll svc fs = some svc' ∧ svc'.records = svc.records ∧
      svc'.idempotency = svc.idempotency ∧ (∀ i, svc'.audit.get i = svc.audit.get i) ∧
      svc.SameCounts svc' := by
  have hanswers : ∀ r ∈ JournalFrame.idempotencies fs, r.stored = r ∧ r ∈ svc.idempotency.entries := by
    intro r hr
    have hmem := h.answers r hr
    exact ⟨(IdempotencyRecord.stored_eq_self_iff (hw.responseLines r hmem)).mpr (hs.idempotency r hmem), hmem⟩
  rw [applyAll_of_answers hw hanswers]
  have hnumbers : ((JournalFrame.audits fs).map AuditEvent.stored).map AuditEvent.number =
      List.range' (svc.auditNextSequence.toNat - (JournalFrame.audits fs).length)
        (JournalFrame.audits fs).length := by
    rw [map_number_stored]
    exact h.follow.numbers
  have hrecent : ∀ e ∈ (JournalFrame.audits fs).map AuditEvent.stored,
      svc.auditNextSequence.toNat ≤ e.number + maxAuditEvents →
        svc.auditNextSequence.toNat - svc.auditEventCount.toNat ≤ e.number := by
    intro e he hrecent
    obtain ⟨q, hq, rfl⟩ := List.mem_map.mp he
    exact h.follow.recent q hq hrecent
  obtain ⟨svc', hfold, -, hnext, hcount⟩ :=
    hring.foldlM_log h.follow.short hnumbers h.follow.valid.stored hrecent
  obtain ⟨ring, c, hfold', hget⟩ := foldlM_storeImportAudit h.follow.valid.stored svc
  obtain rfl := Option.some.inj (hfold.symm.trans hfold')
  refine ⟨_, hfold, rfl, rfl, fun i => ?_, hnext, hcount⟩
  dsimp only
  rw [hget]
  -- the last event of the journal with this slot is recent, so it is the one in the ring
  cases hfind : ((JournalFrame.audits fs).map AuditEvent.stored).reverse.find? fun e =>
      Service.auditSlot e.sequence = i with
  | none => rfl
  | some e =>
    have he : e ∈ (JournalFrame.audits fs).map AuditEvent.stored := by
      simpa using List.mem_of_find?_eq_some hfind
    have hslot : Service.auditSlot e.sequence = i := by simpa using List.find?_some hfind
    have hlast : ((JournalFrame.audits fs).map AuditEvent.stored).reverse.find?
        (fun e => SeqRing.slot maxAuditEvents e.number = i) = some e := by
      rw [← hfind]
      refine List.find?_congr fun q hq => ?_
      rw [Service.auditSlot_eq (h.follow.valid.stored q (by simpa using hq)).1]
      rfl
    have hnew := SeqRing.recent_of_find?_reverse (by decide) hnumbers h.follow.short hlast
    obtain ⟨q, hq, rfl⟩ := List.mem_map.mp he
    have hlive := h.events q hq hnew
    rw [AuditEvent.stored_eq_self_iff.mpr (hs.audit q hlive)] at hslot ⊢
    rw [Option.some_or, ← hslot, hw.get_auditSlot hlive]

lemma Service.RingSound.auditCurrent (h : svc.RingSound) : svc.AuditCurrent where
  since := by
    intro e he
    obtain ⟨i, hi⟩ := SlotTable.mem_entries.mp he
    exact h.savedFrom_le.trans (h.within i e hi)
  below := by
    intro e he
    obtain ⟨i, hi⟩ := SlotTable.mem_entries.mp he
    exact UInt64.lt_iff_toNat_lt.mpr (h.below i e hi)
  newest := by
    have hlt := h.count_lt
    by_cases hzero : svc.auditEventCount.toNat = 0
    · exact .inl (UInt64.toNat_inj.mp (h.started hzero))
    · obtain ⟨e, hget, hnumber⟩ := h.filled (svc.auditNextSequence.toNat - 1) (by omega) (by omega)
      refine .inr ⟨e, SlotTable.mem_entries_of_get hget, UInt64.toNat_inj.mp ?_⟩
      have hbound := svc.auditNextSequence.toNat_lt
      change e.sequence.toNat = _ at hnumber
      rw [toNat_succ (by omega), hnumber]
      omega

lemma Retold.nil (h : svc.auditNextSequence ≠ 0) : Retold [] svc :=
  ⟨.nil h, by simp [JournalFrame.idempotencies], by simp [JournalFrame.audits]⟩

/-- The number of an event of the journal has been given out. -/
lemma FramesFollow.number_lt (h : FramesFollow fs svc) {e : AuditEvent} (he : e ∈ JournalFrame.audits fs) :
    0 < e.number ∧ e.number < svc.auditNextSequence.toNat := by
  have hmem := List.mem_map_of_mem (f := AuditEvent.number) he
  rw [h.numbers, List.mem_range'_1] at hmem
  have hshort := h.short
  omega

/-- The frames of a request tell what the tables hold after it. -/
lemma Retold.push (h : Retold fs svc) (hring : svc.RingSound) {e : AuditEvent} {c : JournalCall}
    (hc : c.event = some e) (hseq : e.sequence = svc.nextSequence) (hop : e.operation ≠ 0)
    (hroom : svc.auditNextSequence.toNat + 1 < 2 ^ 64)
    (hanswer : ∀ r, c.idempotency = some r → r ∈ svc.idempotency.entries) :
    Retold (fs ++ c.frames) (svc.recordAudit e) where
  follow := h.follow.push hring hc hseq hop hroom
  answers := by
    intro r hr
    rw [JournalCall.idempotencies_append] at hr
    rcases List.mem_append.mp hr with hr | hr
    · exact h.answers r hr
    · exact hanswer r (Option.mem_toList.mp hr)
  events := by
    intro q hq hrecent
    have hnumber : e.number = svc.auditNextSequence.toNat := by
      rw [AuditEvent.number, hseq, Service.nextSequence_eq hring.next_ne_zero]
    have hnext : (svc.recordAudit e).auditNextSequence.toNat = svc.auditNextSequence.toNat + 1 := by
      rw [Service.recordAudit, hseq, Service.nextSequence_eq hring.next_ne_zero]
      exact toNat_succ hroom
    have hget := SlotTable.get_put (t := svc.audit) (Service.auditSlot_lt e.sequence) e
    rw [JournalCall.audits_append, hc] at hq
    rw [hnext] at hrecent
    rcases List.mem_append.mp hq with hq | hq
    · obtain ⟨hpos, hlt⟩ := h.follow.number_lt hq
      obtain ⟨i, hi⟩ := SlotTable.mem_entries.mp (h.events q hq (by omega))
      have hslot : i ≠ Service.auditSlot e.sequence := by
        have hslotq := hring.slots i q hi
        have hslote : Service.auditSlot e.sequence = SeqRing.slot maxAuditEvents e.number :=
          Service.auditSlot_eq (by rw [hseq]; exact Service.nextSequence_ne_zero svc)
        have h256 : maxAuditEvents = 256 := rfl
        rw [hslotq, hslote, SeqRing.slot, SeqRing.slot, hnumber, h256]
        omega
      refine SlotTable.mem_entries.mpr ⟨i, ?_⟩
      rw [Service.recordAudit, hget, if_neg hslot]
      exact hi
    · obtain rfl := List.mem_singleton.mp hq
      refine SlotTable.mem_entries.mpr ⟨Service.auditSlot q.sequence, ?_⟩
      rw [Service.recordAudit, hget, if_pos rfl]

end Replay

/-! ## Files that hold the tables -/

/-- A service with the same tables, perhaps in other slots. -/
structure Mirrors (svc base : Service) : Prop where
  wellFormed : base.WellFormed
  records : ∀ r, r ∈ base.records.entries ↔ r ∈ svc.records.entries
  log : SameLog svc base

/-- The files of a daemon hold its tables. -/
structure Daemon.Mirrored (d : Daemon) : Prop where
  wellFormed : d.WellFormed
  ring : d.state.svc.RingSound
  store : ∃ base, Mirrors d.state.svc base ∧
    (d.disk.store = some (saveStore base) ∨ (d.disk.store = none ∧ base = Service.fresh))
  journal : ∃ fs, d.disk.Journals fs ∧ Retold fs d.state.svc

namespace Mirrors

variable {svc base : Service}

lemma refl (hw : svc.WellFormed) : Mirrors svc svc :=
  ⟨hw, fun _ => Iff.rfl, fun _ => Iff.rfl, fun _ => rfl, rfl, rfl⟩

lemma trans {svc' : Service} (h : Mirrors svc base) (h' : Mirrors base svc') : Mirrors svc svc' where
  wellFormed := h'.wellFormed
  records := fun r => (h'.records r).trans (h.records r)
  log := {
    answers := fun r => (h'.log.answers r).trans (h.log.answers r)
    ring := fun i => (h'.log.ring i).trans (h.log.ring i)
    counts := h.log.counts.trans h'.log.counts }

lemma symm (h : Mirrors svc base) (hw : svc.WellFormed) : Mirrors base svc where
  wellFormed := hw
  records := fun r => (h.records r).symm
  log := {
    answers := fun r => (h.log.answers r).symm
    ring := fun i => (h.log.ring i).symm
    counts := h.log.counts.symm }

lemma storable (h : Mirrors svc base) (hs : svc.Storable) : base.Storable where
  records := fun r hr => hs.records r ((h.records r).mp hr)
  idempotency := fun r hr => hs.idempotency r ((h.log.answers r).mp hr)
  audit := fun e he => hs.audit e (h.log.mem_audit.mp he)

lemma ringSound (h : Mirrors svc base) (hring : svc.RingSound) : base.RingSound := by
  unfold Service.RingSound
  rw [h.log.counts.1, h.log.counts.2]
  exact SeqRing.Holds.congr hring fun i => by rw [h.log.ring]

lemma sameTables (h : Mirrors svc base) (hw : svc.WellFormed) : SameTables svc base where
  records := fun _ => h.wellFormed.recordKeys.lookup_congr hw.recordKeys fun r _ => h.records r
  idempotency := fun _ => h.wellFormed.idempotencyKeys.lookup_congr hw.idempotencyKeys fun r _ =>
    h.log.answers r
  audit := fun _ => h.log.mem_audit
  nextSequence := h.log.counts.1

end Mirrors

namespace Daemon.Mirrored

variable {cfg : Config} {d : Daemon} {st : Step}

lemma fresh : Daemon.fresh.Mirrored where
  wellFormed := (Daemon.reachable_fresh Config.durable).wellFormed
  ring := Service.ringSound_fresh
  store := ⟨Service.fresh, .refl Service.wellFormed_fresh, .inr ⟨rfl, rfl⟩⟩
  journal := ⟨[], .inr ⟨rfl, rfl⟩, .nil (by decide), by simp [JournalFrame.idempotencies],
    by simp [JournalFrame.audits]⟩

/-- **The files are read.**  When every text of the tables reads back, they bring the tables back. -/
lemma load (h : d.Mirrored) (hs : d.state.svc.Storable) :
    ∃ svc', loadDurableStore d.disk = some (svc', d.disk) ∧ Mirrors d.state.svc svc' := by
  obtain ⟨base, hbase, hstore⟩ := h.store
  obtain ⟨fs, hjournal, hretold⟩ := h.journal
  have hring := hbase.ringSound h.ring
  -- the store brings back tables that mirror those saved
  obtain ⟨loaded, hload, hloaded⟩ : ∃ loaded, loadStore Service.fresh d.disk.store = some (loaded, false) ∧
      Mirrors d.state.svc loaded := by
    rcases hstore with hsome | ⟨hnone, rfl⟩
    · obtain ⟨ring, c, hload, hget⟩ := Service.loadStore_saveStore_fresh hbase.wellFormed
        (hbase.storable hs) hring.auditCurrent
      rw [← hsome] at hload
      refine ⟨_, hload, wellFormed_loadStore hload Service.wellFormed_fresh, ?_, ?_, ?_, ?_⟩
      · intro r
        change r ∈ base.records.pack.entries ↔ _
        rw [SlotTable.entries_pack]
        exact hbase.records r
      · intro r
        change r ∈ base.idempotency.pack.entries ↔ _
        rw [SlotTable.entries_pack]
        exact hbase.log.answers r
      · intro i
        exact (hget i).trans (hbase.log.ring i)
      · refine hbase.log.counts.trans ?_
        rw [hsome, loadStore_saveStore hbase.wellFormed.recordCount_lt hbase.wellFormed.responseLines] at hload
        obtain ⟨restored, himp, heq⟩ := Option.map_eq_some_iff.mp hload
        obtain ⟨rfl, -⟩ := Prod.mk.inj heq
        exact (hring.importFrames hbase.wellFormed hring.savedFrom_le himp).2
    · exact ⟨Service.fresh, by rw [hnone]; rfl, hbase⟩
  obtain ⟨svc', happly, hrecords, hanswers, hget, hcounts⟩ :=
    (hretold.congr hloaded.log).replay hloaded.wellFormed (hloaded.ringSound h.ring) (hloaded.storable hs)
  have hfiles : loadDurableStore d.disk = some (svc', d.disk) := by
    rw [loadDurableStore, hload, Option.bind_some]
    dsimp only
    rcases hjournal with hj | ⟨hj, rfl⟩
    · rw [hj, loadJournal_journalText, happly]
      rfl
    · rw [hj]
      obtain rfl := Option.some.inj happly
      rfl
  refine ⟨svc', hfiles, wellFormed_loadDurableStore hfiles, ?_, ?_, ?_, ?_⟩
  · intro r
    rw [hrecords]
    exact hloaded.records r
  · intro r
    rw [hanswers]
    exact hloaded.log.answers r
  · intro i
    rw [hget]
    exact hloaded.log.ring i
  · exact hloaded.log.counts.trans hcounts

/-- The slot that an answer goes to was free. -/
lemma slot_free {env : Env} {s : ServiceState} {req : Request} {a : Answer} (h : Answered cfg env s req a)
    {slot : ℕ} {key : FieldText 96} (hp : a.pending = some (slot, key)) :
    s.svc.idempotency.get slot = none := by
  have hfree {pending : Option (ℕ × FieldText 96)} (hp : pending = some (slot, key))
      (hexec : tryIdempotencyReplay s.svc req.operation req.payload = .execute pending) :
      s.svc.idempotency.get slot = none := by
    obtain ⟨rfl, -⟩ | ⟨slot', key', rfl, -, -, -, halloc⟩ := tryIdempotencyReplay_execute hexec
    · cases hp
    · obtain ⟨rfl, rfl⟩ := Prod.mk.inj (Option.some.inj hp)
      exact (SlotTable.firstFree?_eq_some halloc).2
  cases h with
  | replayed _ => cases hp
  | overQuota hexec _ _ => exact hfree hp hexec
  | executed hexec _ _ _ => exact hfree hp hexec

/-- The journal follows the answer to a request, as it followed the service. -/
lemma retold_answer {fs : List JournalFrame} (hd : d.WellFormed) (hjournal : d.disk.Journals fs)
    (hretold : Retold fs d.state.svc) {a : Answer} (hans : answerRequest cfg st.env d.state st.req = a)
    (hafter : a.state.svc.auditNextSequence ≠ 0)
    (hreplaces : st.req.replacesTables = true → d.disk.journalEmpty = true)
    (hkept : a.checkpointPruned = false ∧ a.recordPruned = false) : Retold fs a.state.svc := by
  have ha := answerRequest_answered cfg st.env d.state st.req
  obtain ⟨svc, hcomplete, hsame⟩ := @Answered.completes cfg d st hd.1
  rw [hans] at ha hcomplete
  by_cases hreplaced : st.req.replacesTables = true
  · rw [InStep.journals_nil (hreplaces hreplaced) hjournal]
    exact .nil hafter
  rw [Bool.not_eq_true] at hreplaced
  have hrestore : operationMutates st.req.operation st.req.payload →
      st.req.operation ≠ WireOperation.restoreSnapshot.code ∧
        st.req.operation ≠ WireOperation.restoreSnapshotPage.code := by
    intro hmut
    refine ⟨fun hop => ?_, fun hop => ?_⟩
    all_goals
      rw [operationMutates, hop] at hmut
      rw [Request.replacesTables, hop] at hreplaced
    · exact Bool.noConfusion hreplaced
    · exact Bool.noConfusion (hmut.symm.trans hreplaced)
  have hidem : svc.idempotency = d.state.svc.idempotency :=
    hsame ⟨by rw [hans]; exact hkept.1, by rw [hans]; exact hkept.2, hrestore⟩
  have hpart : a.state.svc.auditPart = d.state.svc.auditPart := by
    cases hmut : operationMutates st.req.operation st.req.payload with
    | false => rw [(ha.svc_eq hd.1 hmut).1]
    | true =>
      cases ha.auditBase hd.1 with
      | same h => exact h
      | restored hop _ _ => exact absurd hop (hrestore hmut).1
      | committed hop _ => exact absurd hop (hrestore hmut).2
  obtain ⟨haudit, hnext, hcount⟩ := auditPart_eq hpart
  refine ⟨hretold.follow.congr ⟨hnext, hcount⟩, ?_, ?_⟩
  · intro r hr
    obtain ⟨i, hi⟩ := SlotTable.mem_entries.mp (hretold.answers r hr)
    refine SlotTable.mem_entries.mpr ⟨i, ?_⟩
    rw [hcomplete]
    cases hp : a.pending with
    | none =>
      rw [Service.complete, hidem]
      exact hi
    | some sk =>
      obtain ⟨slot, key⟩ := sk
      have hfree := slot_free ha hp
      have hne : i ≠ slot := by
        rintro rfl
        rw [hfree] at hi
        cases hi
      obtain ⟨hslot, -⟩ := (ha.wellFormed hd.1 hd.2).2.2 slot key hp
      rw [get_complete hslot, if_neg hne, hidem]
      exact hi
  · intro e he hrecent
    rw [haudit]
    exact hretold.events e he (hnext ▸ hrecent)

/-- The answer that goes to the journal is in the table. -/
lemma pending_held (hd : d.WellFormed) {a : Answer} (hans : answerRequest cfg st.env d.state st.req = a)
    {r : IdempotencyRecord} (hr : pendingRecord a.pending st.req a.reply = some r) :
    r ∈ a.state.svc.idempotency.entries := by
  have ha := answerRequest_answered cfg st.env d.state st.req
  obtain ⟨svc, hcomplete, -⟩ := @Answered.completes cfg d st hd.1
  rw [hans] at ha hcomplete
  obtain ⟨⟨slot, key⟩, hp, rfl⟩ := Option.map_eq_some_iff.mp hr
  obtain ⟨hslot, -⟩ := (ha.wellFormed hd.1 hd.2).2.2 slot key hp
  refine SlotTable.mem_entries.mpr ⟨slot, ?_⟩
  rw [hcomplete, hp, get_complete hslot, if_pos rfl]

/-- **A request.**  Its writes leave the tables in the files. -/
lemma request (h : d.Mirrored) (hpath : cfg.storePath = true) (hkeeps : st.keepsInStep d)
    (hfits : Step.AuditFits Service.RingSound d.state.svc st.req) : (d.step cfg st).Mirrored := by
  obtain ⟨hw, hreplaces⟩ := hkeeps
  obtain ⟨fs, hjournal, hretold⟩ := h.journal
  have hd := h.wellFormed
  have hring : (d.step cfg st).state.svc.RingSound :=
    auditStable_ringSound.step hd.1 h.ring (fun _ hs => hs.next_ne_zero) hfits
  have ha := answerRequest_answered cfg st.env d.state st.req
  obtain ⟨hafter, hroom⟩ := auditStable_ringSound.answer (ha.auditBase hd.1) h.ring hfits
  have hwell : (d.step cfg st).WellFormed := hd.step st
  cases Daemon.step_files hd hpath hw hjournal with
  | untouched _ hsvc hdisk =>
    refine ⟨hwell, hring, ?_, fs, ?_, ?_⟩
    · rw [hsvc, hdisk]
      exact h.store
    · rw [hdisk]
      exact hjournal
    · rw [hsvc]
      exact hretold
  | @filed c e fs' hevent hc hsvc hdisk hfs hcut =>
    refine ⟨hwell, hring, ⟨_, .refl hwell.1, .inl (by rw [hdisk, hsvc])⟩, fs', .inl (by rw [hdisk]), ?_⟩
    rcases hfs with rfl | rfl
    swap
    · exact .nil hring.next_ne_zero
    by_cases hpruned : (auditRequest cfg st.env (answerRequest cfg st.env d.state st.req) st.req).pruned =
        true ∨ (answerRequest cfg st.env d.state st.req).checkpointPruned = true ∨
        (answerRequest cfg st.env d.state st.req).recordPruned = true
    · rw [hcut hpruned]
      exact .nil hring.next_ne_zero
    simp only [not_or, Bool.not_eq_true] at hpruned
    obtain ⟨hau, hkept⟩ := hpruned
    have hretold' := retold_answer hd hjournal hretold rfl hafter.next_ne_zero hreplaces hkept
    obtain ⟨-, heq⟩ | ⟨hshould, q, hq, heq⟩ := auditRequest_cases cfg st.env
      (answerRequest cfg st.env d.state st.req) st.req
    · rw [heq] at hevent
      cases hevent
    rw [heq] at hevent hsvc hau
    obtain rfl := Option.some.inj hevent
    have hrecord := auditStable_ringSound.record hafter (by omega) (show q.sequence = _ by rw [hq]; rfl)
    rw [hsvc, hrecord.applyAuditRetention_kept hau]
    exact hretold'.push hafter hc.2 (by rw [hq]; rfl)
      (by rw [hq]; exact ha.operation_ne_zero_of_audit hshould) (by omega)
      fun r hr => pending_held hd rfl (hc.1 ▸ hr)

/-- **A retention pass.**  It prunes nothing, or saves what it pruned. -/
lemma startRetention (h : d.Mirrored) (hpath : cfg.storePath = true) (limits : DaemonLimits)
    (nowMs : UInt64) : (d.startRetention cfg limits nowMs).Mirrored := by
  obtain ⟨hring, hkept⟩ := h.ring.startRetention limits nowMs
  have hw := h.wellFormed.1.startRetention limits nowMs
  unfold Daemon.startRetention
  cases hpruned : (d.state.svc.startRetention limits nowMs).2 with
  | false =>
    simp only [hpruned, hkept hpruned, Bool.false_eq_true, false_and, if_false]
    exact h
  | true =>
    simp only [hpruned, hpath, and_self, if_true]
    exact ⟨⟨hw, h.wellFormed.2⟩, hring, ⟨_, .refl hw, .inl rfl⟩, [], .inl rfl, .nil hring.next_ne_zero⟩

/-- **A restart.**  The files hold the tables that were read from them. -/
lemma reload (h : d.Mirrored) (hs : d.state.svc.Storable) {svc : Service} {disk' : Disk}
    (hload : loadDurableStore d.disk = some (svc, disk')) : Daemon.Mirrored ⟨⟨svc, none⟩, disk'⟩ := by
  obtain ⟨svc', hload', hsvc⟩ := h.load hs
  obtain ⟨rfl, rfl⟩ := Prod.mk.inj (Option.some.inj (hload.symm.trans hload'))
  obtain ⟨base, hbase, hstore⟩ := h.store
  obtain ⟨fs, hjournal, hretold⟩ := h.journal
  exact ⟨⟨hsvc.wellFormed, nofun⟩, hsvc.ringSound h.ring,
    ⟨base, (hsvc.symm h.wellFormed.1).trans hbase, hstore⟩, fs, hjournal, hretold.congr hsvc.log⟩

end Daemon.Mirrored

/-! ## What reads back once reads back again -/

lemma Record.storable_stored (r : Record) : r.stored.Storable where
  toTextClean :=
    have hclean := (Record.snapshotted_eq_self_iff.mp r.snapshotted_snapshotted).1
    ⟨hclean.key, hclean.requestId, hclean.prefixGroup, hclean.groupId, hclean.blockHash, hclean.sessionId,
      hclean.modelKey, hclean.artifactKind, hclean.artifactId, hclean.members, hclean.hiddenMembers⟩
  backend := by
    intro hkind
    unfold Record.stored at hkind ⊢
    by_cases hpool : r.objectBackend.kind = objectBackendObmmPool
    · simp only [hpool, ne_eq, not_true_eq_false, if_false]
    · simp only [hpool, ne_eq, not_false_eq_true, if_true] at hkind

lemma AuditEvent.storable_stored (e : AuditEvent) : e.stored.Storable :=
  AuditEvent.stored_eq_self_iff.mp e.stored_stored

lemma IdempotencyRecord.storable_stored {r : IdempotencyRecord} (h : ResponseLines r.response.bytes) :
    r.stored.Storable where
  key := noTrailingCR_trimLine r.key.bytes
  response := by
    have hlf : ∀ l ∈ (lines r.response.bytes).map trimLine, LF ∉ l := by
      intro l hl hmem
      obtain ⟨m, hm, rfl⟩ := List.mem_map.mp hl
      exact lf_notMem_of_mem_lines hm (trimLine_subset _ hmem)
    rw [bytes_stored_response h, ← List.append_nil (unlines _), lines_unlines hlf, lines_nil, List.append_nil]
    intro l hl
    obtain ⟨m, -, rfl⟩ := List.mem_map.mp hl
    exact noTrailingCR_trimLine m

namespace ImportedFrom

variable {rs : List Record} {is : List IdempotencyRecord} {es : List AuditEvent} {svc svc' : Service}

/-- A journal puts its own answers and events into the tables, and nothing else. -/
lemma applyAll {fs : List JournalFrame} (h : ImportedFrom rs is es svc)
    (hi : ∀ r ∈ JournalFrame.idempotencies fs, r.stored ∈ is)
    (he : ∀ e ∈ JournalFrame.audits fs, e.stored ∈ es)
    (happly : JournalFrame.applyAll svc fs = some svc') : ImportedFrom rs is es svc' := by
  refine SlotTable.foldlM_induction happly h fun a b f hf ha hb => ?_
  cases f with
  | idempotency r fits =>
    refine ha.storeImportIdempotency (hi r ?_) hb
    exact List.mem_filterMap.mpr ⟨_, hf, rfl⟩
  | audit e =>
    refine ha.storeImportAudit (he e ?_) hb
    exact List.mem_filterMap.mpr ⟨_, hf, rfl⟩

lemma mono {is' : List IdempotencyRecord} {es' : List AuditEvent} (h : ImportedFrom rs is es svc)
    (his : is ⊆ is') (hes : es ⊆ es') : ImportedFrom rs is' es' svc where
  recordKeys := h.recordKeys
  records := h.records
  idempotencyKeys := h.idempotencyKeys
  idempotency := fun r hr => his (h.idempotency r hr)
  audit := fun e he => hes (h.audit e he)
  nextSequence := h.nextSequence.imp_right fun ⟨e, he, heq⟩ => ⟨e, hes he, heq⟩

end ImportedFrom

/-- Tables that were read from the files hold only texts that read back. -/
lemma Daemon.Mirrored.storable_of_load {d : Daemon} (h : d.Mirrored) {svc : Service} {disk' : Disk}
    (hload : loadDurableStore d.disk = some (svc, disk')) : svc.Storable := by
  obtain ⟨base, hbase, hstore⟩ := h.store
  obtain ⟨fs, hjournal, hretold⟩ := h.journal
  obtain ⟨⟨loaded, legacy⟩, hloaded, hrest⟩ := Option.bind_eq_some_iff.mp hload
  obtain ⟨svc₁, happly, heq⟩ := Option.map_eq_some_iff.mp hrest
  obtain ⟨rfl, -⟩ := Prod.mk.inj heq
  have hframes : JournalFrame.applyAll loaded fs = some svc₁ := by
    rcases hjournal with hj | ⟨hj, rfl⟩
    · rwa [hj, loadJournal_journalText] at happly
    · rw [hj] at happly
      exact happly
  obtain ⟨es, hfrom⟩ : ∃ es : List AuditEvent, ImportedFrom (base.records.entries.map Record.stored)
      (base.idempotency.entries.map IdempotencyRecord.stored) (es.map AuditEvent.stored) loaded := by
    rcases hstore with hsome | ⟨hnone, rfl⟩
    · rw [hsome, loadStore_saveStore hbase.wellFormed.recordCount_lt hbase.wellFormed.responseLines]
        at hloaded
      obtain ⟨restored, himp, heq⟩ := Option.map_eq_some_iff.mp hloaded
      obtain ⟨rfl, -⟩ := Prod.mk.inj heq
      exact ⟨_, .importFrames himp⟩
    · rw [hnone] at hloaded
      obtain ⟨rfl, -⟩ := Prod.mk.inj (Option.some.inj hloaded)
      exact ⟨[], .importFrames rfl⟩
  have hall := (hfrom.mono (List.subset_append_left _ ((JournalFrame.idempotencies fs).map .stored))
    (List.subset_append_left _ ((JournalFrame.audits fs).map AuditEvent.stored))).applyAll
    (fun r hr => List.mem_append_right _ (List.mem_map_of_mem hr))
    (fun e he => List.mem_append_right _ (List.mem_map_of_mem he)) hframes
  refine ⟨fun r hr => ?_, fun r hr => ?_, fun e he => ?_⟩
  · obtain ⟨q, -, rfl⟩ := List.mem_map.mp (hall.records r hr)
    exact q.storable_stored
  · rcases List.mem_append.mp (hall.idempotency r hr) with hr | hr
    · obtain ⟨q, hq, rfl⟩ := List.mem_map.mp hr
      exact IdempotencyRecord.storable_stored (hbase.wellFormed.responseLines q hq)
    · obtain ⟨q, hq, rfl⟩ := List.mem_map.mp hr
      exact IdempotencyRecord.storable_stored (h.wellFormed.1.responseLines q (hretold.answers q hq))
  · rcases List.mem_append.mp (hall.audit e he) with he | he
    · obtain ⟨q, -, rfl⟩ := List.mem_map.mp he
      exact q.storable_stored
    · obtain ⟨q, -, rfl⟩ := List.mem_map.mp he
      exact q.storable_stored

lemma SameTables.storable {svc svc' : Service} (h : SameTables svc svc') (hw : svc.WellFormed)
    (hs : svc'.Storable) : svc.Storable where
  records := by
    intro r hr
    have hfound : svc.findRecord r.keyBytes = some r := hw.recordKeys.lookup_eq_some_iff.mpr ⟨hr, rfl⟩
    exact hs.records r (SlotTable.lookup_mem ((h.records r.keyBytes).trans hfound))
  idempotency := by
    intro r hr
    have hfound : svc.findIdempotencyRecord r.keyBytes = some r :=
      hw.idempotencyKeys.lookup_eq_some_iff.mpr ⟨hr, rfl⟩
    exact hs.idempotency r (SlotTable.lookup_mem ((h.idempotency r.keyBytes).trans hfound))
  audit := fun e he => hs.audit e ((h.audit e).mpr he)

lemma Service.storable_of_stored {svc : Service} (hw : svc.WellFormed)
    (hrecords : ∀ r ∈ svc.records.entries, r.stored = r)
    (hidempotency : ∀ r ∈ svc.idempotency.entries, r.stored = r)
    (haudit : ∀ e ∈ svc.audit.entries, e.stored = e) : svc.Storable where
  records r hr := Record.stored_eq_self_iff.mp (hrecords r hr)
  idempotency r hr :=
    (IdempotencyRecord.stored_eq_self_iff (hw.responseLines r hr)).mp (hidempotency r hr)
  audit e he := AuditEvent.stored_eq_self_iff.mp (haudit e he)

/-! ## Runs with restarts -/

/-- The states of a daemon that is sent requests, prunes its tables, and is stopped and started again.
Every write is done; a request that replaces the tables finds the journal cut; a daemon is only started
again from tables whose texts read back. -/
inductive Daemon.Restarted (cfg : Config) : Daemon → Prop
  | start : Restarted cfg Daemon.fresh
  | request {d : Daemon} (h : Restarted cfg d) (st : Step) (hkeeps : st.keepsInStep d)
      (hfits : Step.AuditFits Service.RingSound d.state.svc st.req) : Restarted cfg (d.step cfg st)
  | retention {d : Daemon} (h : Restarted cfg d) (limits : DaemonLimits) (nowMs : UInt64) :
      Restarted cfg (d.startRetention cfg limits nowMs)
  | reload {d : Daemon} (h : Restarted cfg d) (hs : d.state.svc.Storable) {svc : Service} {disk' : Disk}
      (hload : loadDurableStore d.disk = some (svc, disk')) : Restarted cfg ⟨⟨svc, none⟩, disk'⟩

lemma Daemon.Restarted.mirrored {cfg : Config} {d : Daemon} (h : Restarted cfg d)
    (hpath : cfg.storePath = true) : d.Mirrored := by
  induction h with
  | start => exact .fresh
  | request _ st hkeeps hfits ih => exact ih.request hpath hkeeps hfits
  | retention _ limits nowMs ih => exact ih.startRetention hpath limits nowMs
  | reload _ hs hload ih => exact ih.reload hs hload

/-- **Restarts.**  A daemon with a store path, after requests, retention passes and restarts, can be
started from its files with the same record and the same answer under every key, the same event in every
slot of the ring and the same counts, and with its files unchanged, exactly if every text of its tables
reads back. -/
theorem restart_equivalence {cfg : Config} {d : Daemon} (h : Daemon.Restarted cfg d)
    (hpath : cfg.storePath = true) :
    (∃ svc, loadDurableStore d.disk = some (svc, d.disk) ∧ SameTables d.state.svc svc ∧
      (∀ i, svc.audit.get i = d.state.svc.audit.get i) ∧
      svc.auditEventCount = d.state.svc.auditEventCount) ↔ d.state.svc.Storable := by
  have hmirrored := h.mirrored hpath
  have hw := hmirrored.wellFormed.1
  constructor
  · rintro ⟨svc, hload, hsame, -, -⟩
    exact hsame.storable hw (hmirrored.storable_of_load hload)
  · intro hs
    obtain ⟨svc, hload, hsvc⟩ := hmirrored.load hs
    exact ⟨svc, hload, hsvc.sameTables hw, hsvc.log.ring, hsvc.log.counts.2⟩

/-- The daemon that keeps one object, started again and sent a put under an idempotency key. -/
def Daemon.servedAgain : Daemon :=
  Daemon.step .durable
    ((loadDurableStore Daemon.keptOne.disk).elim Daemon.fresh fun loaded =>
      ⟨⟨loaded.1, none⟩, loaded.2⟩)
    (Step.idle .putObject Payload.plainPut)

theorem restart_equivalence_of_servedAgain :
    ∃ svc, loadDurableStore Daemon.servedAgain.disk = some (svc, Daemon.servedAgain.disk) ∧
      SameTables Daemon.servedAgain.state.svc svc ∧
      (∀ i, svc.audit.get i = Daemon.servedAgain.state.svc.audit.get i) ∧
      svc.auditEventCount = Daemon.servedAgain.state.svc.auditEventCount := by
  have hkept : Daemon.Restarted .durable Daemon.keptOne :=
    ((Daemon.Restarted.start.request .putA (Step.keepsInStep_of_tables rfl rfl)
      (.of_room (by decide) (by decide))).request .putB (Step.keepsInStep_of_tables rfl rfl)
        (.of_room (by decide +kernel) (by decide))).retention
          { maxRetainedRecords := 1, maxAuditEvents := 1 } 0
  have hstored : Daemon.keptOne.state.svc.Storable :=
    Service.storable_of_stored (hkept.mirrored rfl).wellFormed.1 (by decide +kernel)
      (by decide +kernel) (by decide +kernel)
  obtain ⟨svc, hload, -⟩ := (restart_equivalence hkept rfl).mpr hstored
  have hloaded := hkept.reload hstored hload
  have hroom : svc.auditNextSequence.toNat + 2 < 2 ^ 64 := by
    have hnext : (loadDurableStore Daemon.keptOne.disk).all (fun loaded =>
        loaded.1.auditNextSequence == 3) = true := by decide +kernel
    rw [hload, Option.all_some, beq_iff_eq] at hnext
    rw [hnext]
    decide
  have hagain : Daemon.servedAgain = Daemon.step .durable ⟨⟨svc, none⟩, Daemon.keptOne.disk⟩
      (Step.idle .putObject Payload.plainPut) := by
    rw [Daemon.servedAgain, hload, Option.elim_some]
  have hserved : Daemon.Restarted .durable Daemon.servedAgain :=
    hagain ▸ hloaded.request (Step.idle .putObject Payload.plainPut)
      (Step.keepsInStep_of_tables rfl rfl) (.of_room hroom (by decide))
  exact (restart_equivalence hserved rfl).mpr
    (Service.storable_of_stored (hserved.mirrored rfl).wellFormed.1 (by decide +kernel)
      (by decide +kernel) (by decide +kernel))

end MemService
