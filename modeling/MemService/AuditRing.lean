import Mathlib.Data.List.Find
import MemService.Lib.SeqRing
import MemService.PagedExport

/-!
# The audit ring

Audit events are numbered from one, and the last 256 are kept in a ring.  Three things are redundant in
it: the numbers of the events, the next number, and the count.  `Service.RingSound` says how they fit
together, `Service.AuditRecent` only that no event is older than the ring is long.

A request touches the ring in few ways: it may replace it (a restore or a commit), it may append an
event and prune the oldest ones, and once more append an event when its durable write failed.
`Daemon.step_auditPart` says so, and `AuditStable.step` is the rule it gives: what survives appending and
pruning survives a request.
-/

open ByteText CNumeral

namespace MemService

/-! ## Numbers and slots -/

/-- The number of an event. -/
def AuditEvent.number (e : AuditEvent) : ℕ := e.sequence.toNat

lemma AuditEvent.number_pos {e : AuditEvent} (h : e.sequence ≠ 0) : 0 < e.number :=
  Nat.pos_of_ne_zero fun hz => h (UInt64.toNat_inj.mp hz)

lemma Service.auditSlot_eq {n : UInt64} (h : n ≠ 0) :
    Service.auditSlot n = SeqRing.slot maxAuditEvents n.toNat := by
  have hpos : 0 < n.toNat := Nat.pos_of_ne_zero fun hz => h (UInt64.toNat_inj.mp hz)
  have hone : (1 : UInt64).toNat = 1 := rfl
  have hle : (1 : UInt64) ≤ n := by
    rw [UInt64.le_iff_toNat_le]
    omega
  rw [Service.auditSlot, UInt64.toNat_mod, UInt64.toNat_sub_of_le _ _ hle]
  rfl

namespace Service

/-- The ring holds exactly the numbers before the next one, as many as are counted. -/
def RingSound (svc : Service) : Prop :=
  SeqRing.Holds AuditEvent.number svc.audit svc.auditNextSequence.toNat svc.auditEventCount.toNat

/-- Every event of the ring is among the last 256 numbers. -/
structure AuditRecent (svc : Service) : Prop where
  recent : SeqRing.Recent AuditEvent.number svc.audit svc.auditNextSequence.toNat
  positive : svc.auditNextSequence ≠ 0

variable {svc : Service}

lemma ringSound_fresh : fresh.RingSound := SeqRing.holds_empty

lemma auditRecent_fresh : fresh.AuditRecent := ⟨SeqRing.recent_empty _, by decide⟩

lemma RingSound.next_ne_zero (h : svc.RingSound) : svc.auditNextSequence ≠ 0 := by
  intro hz
  have := h.count_lt
  rw [hz] at this
  exact absurd this (Nat.not_lt_zero _)

lemma nextSequence_eq (h : svc.auditNextSequence ≠ 0) : svc.nextSequence = svc.auditNextSequence :=
  if_neg h

end Service

/-! ## What survives appending and pruning -/

/-- A property of the audit part that an empty ring has and that appending and pruning keep, as long
as the numbers do not run out. -/
structure AuditStable (P : Service → Prop) : Prop where
  congr : ∀ {svc svc' : Service}, svc'.auditPart = svc.auditPart → P svc → P svc'
  record : ∀ {svc : Service} {e : AuditEvent}, P svc → svc.auditNextSequence.toNat + 1 < 2 ^ 64 →
    e.sequence = svc.nextSequence → P (svc.recordAudit e)
  retain : ∀ {svc : Service} (maxEvents : UInt64), P svc → P (svc.applyAuditRetention maxEvents).1
  empty : ∀ {svc : Service}, svc.auditPart = (SlotTable.empty, 1, 0) → P svc

lemma toNat_succ {n : UInt64} (h : n.toNat + 1 < 2 ^ 64) : (n + 1).toNat = n.toNat + 1 := by
  have hone : (1 : UInt64).toNat = 1 := rfl
  rw [UInt64.toNat_add, hone, Nat.mod_eq_of_lt h]

lemma auditPart_eq {svc svc' : Service} (h : svc'.auditPart = svc.auditPart) :
    svc'.audit = svc.audit ∧ svc'.auditNextSequence = svc.auditNextSequence ∧
      svc'.auditEventCount = svc.auditEventCount := by
  simpa [Service.auditPart] using h

lemma auditPart_recordAudit {svc svc' : Service} (h : svc'.auditPart = svc.auditPart)
    (e : AuditEvent) : (svc'.recordAudit e).auditPart = (svc.recordAudit e).auditPart := by
  obtain ⟨haudit, -, hcount⟩ := auditPart_eq h
  simp only [Service.auditPart, Service.recordAudit, haudit, hcount]

/-- Audit retention keeps the events from a number on. -/
lemma Service.applyAuditRetention_eq (svc : Service) (maxEvents : UInt64) :
    svc.applyAuditRetention maxEvents = (svc, false) ∨
    ∃ first : UInt64, 0 < maxEvents.toNat ∧ maxEvents < svc.auditEventCount ∧
      first = (if svc.auditNextSequence > maxEvents then svc.auditNextSequence - maxEvents else 1) ∧
      (svc.applyAuditRetention maxEvents).1 = { svc with
        audit := svc.audit.keep fun e => decide (first ≤ e.sequence)
        auditEventCount := UInt64.ofNat
          (svc.audit.keep fun e => decide (first ≤ e.sequence)).count } := by
  unfold applyAuditRetention
  split
  · exact .inl rfl
  · rename_i hno
    simp only [not_or] at hno
    obtain ⟨hzero, -, hcount, -⟩ := hno
    refine .inr ⟨_, ?_, UInt64.not_le.mp hcount, rfl, rfl⟩
    exact Nat.pos_of_ne_zero fun hz => hzero (UInt64.toNat_inj.mp hz)

lemma auditStable_auditRecent : AuditStable Service.AuditRecent where
  congr := by
    intro svc svc' hsame h
    obtain ⟨haudit, hnext, -⟩ := auditPart_eq hsame
    exact ⟨by rw [haudit, hnext]; exact h.recent, by rw [hnext]; exact h.positive⟩
  record := by
    intro svc e h hroom he
    rw [Service.nextSequence_eq h.positive] at he
    have hpos : 0 < svc.auditNextSequence.toNat :=
      Nat.pos_of_ne_zero fun hz => h.positive (UInt64.toNat_inj.mp hz)
    have hnext : (svc.recordAudit e).auditNextSequence.toNat = svc.auditNextSequence.toNat + 1 := by
      rw [Service.recordAudit, he]
      exact toNat_succ hroom
    refine ⟨?_, fun hz => ?_⟩
    · rw [hnext, Service.recordAudit, Service.auditSlot_eq (he ▸ h.positive), he]
      exact h.recent.push (by decide) hpos (congrArg UInt64.toNat he)
    · rw [hz] at hnext
      exact absurd hnext (Nat.succ_ne_zero _).symm
  retain := by
    intro svc maxEvents h
    obtain heq | ⟨first, -, -, -, heq⟩ := svc.applyAuditRetention_eq maxEvents
    · rw [heq]
      exact h
    · rw [heq]
      exact ⟨h.recent.keep _, h.positive⟩
  empty := by
    intro svc h
    obtain ⟨haudit, hnext, -⟩ := @auditPart_eq Service.fresh svc h
    exact ⟨by rw [haudit]; exact SeqRing.recent_empty _, by rw [hnext]; decide⟩

lemma auditStable_ringSound : AuditStable Service.RingSound where
  congr := by
    intro svc svc' hsame h
    obtain ⟨haudit, hnext, hcount⟩ := auditPart_eq hsame
    unfold Service.RingSound
    rw [haudit, hnext, hcount]
    exact h
  record := by
    intro svc e h hroom he
    rw [Service.nextSequence_eq h.next_ne_zero] at he
    have hnext : (svc.recordAudit e).auditNextSequence.toNat = svc.auditNextSequence.toNat + 1 := by
      rw [Service.recordAudit, he]
      exact toNat_succ hroom
    have hle := h.count_le
    have hcount : (svc.recordAudit e).auditEventCount.toNat =
        min (svc.auditEventCount.toNat + 1) maxAuditEvents := by
      rw [Service.recordAudit]
      dsimp only
      have h256 : (256 : UInt64).toNat = 256 := rfl
      split
      · rename_i hlt
        rw [UInt64.lt_iff_toNat_lt] at hlt
        rw [toNat_succ (by omega)]
        show _ = min _ 256
        omega
      · rename_i hnot
        rw [UInt64.not_lt, UInt64.le_iff_toNat_le] at hnot
        show _ = min _ 256
        have : svc.auditEventCount.toNat ≤ 256 := hle
        omega
    unfold Service.RingSound
    rw [hnext, hcount, Service.recordAudit, Service.auditSlot_eq (he ▸ h.next_ne_zero), he]
    exact SeqRing.Holds.push h (by decide) (congrArg UInt64.toNat he)
  retain := by
    intro svc maxEvents h
    obtain heq | ⟨first, hpos, hmore, hfirst, heq⟩ := svc.applyAuditRetention_eq maxEvents
    · rw [heq]
      exact h
    have hlt := h.count_lt
    have hle : svc.auditEventCount.toNat ≤ 256 := h.count_le
    rw [UInt64.lt_iff_toNat_lt] at hmore
    have hfrom : first.toNat = svc.auditNextSequence.toNat - maxEvents.toNat := by
      have hgt : maxEvents < svc.auditNextSequence := by
        rw [UInt64.lt_iff_toNat_lt]
        omega
      rw [hfirst, if_pos hgt, UInt64.toNat_sub_of_le _ _ (UInt64.le_of_lt hgt)]
    have hkept : SeqRing.Holds AuditEvent.number (svc.audit.keep fun e => decide (first ≤ e.sequence))
        svc.auditNextSequence.toNat (min svc.auditEventCount.toNat
          (svc.auditNextSequence.toNat - first.toNat)) := by
      refine SeqRing.Holds.keepFrom h (by omega) fun e => ?_
      rw [decide_eq_true_eq, UInt64.le_iff_toNat_le]
      rfl
    have hcount := hkept.count_eq
    have hsize : (svc.audit.keep fun e => decide (first ≤ e.sequence)).count < UInt64.size := by
      have : UInt64.size = 2 ^ 64 := rfl
      omega
    rw [heq]
    unfold Service.RingSound
    dsimp only
    rw [UInt64.toNat_ofNat_of_lt' hsize, hcount]
    exact hkept
  empty := by
    intro svc h
    obtain ⟨haudit, hnext, hcount⟩ := @auditPart_eq Service.fresh svc h
    unfold Service.RingSound
    rw [haudit, hnext, hcount]
    exact SeqRing.holds_empty

/-! ## Reading the ring in order -/

namespace Service.RingSound

variable {svc : Service}

/-- A number is found if it is in the interval. -/
lemma findAuditSequence_number (h : svc.RingSound) (k : ℕ) :
    (svc.findAuditSequence k).map AuditEvent.number =
      if svc.auditNextSequence.toNat - svc.auditEventCount.toNat ≤ k ∧
        k < svc.auditNextSequence.toNat then some k else none := by
  cases hfind : svc.findAuditSequence k with
  | none =>
      rw [if_neg]
      · rfl
      · rintro ⟨hlo, hhi⟩
        obtain ⟨e, he, hnumber⟩ := h.filled k hlo hhi
        have := List.find?_eq_none.mp hfind e (SlotTable.mem_entries_of_get he)
        exact this (decide_eq_true hnumber)
  | some e =>
      obtain ⟨hmem, hnumber⟩ := mem_of_findAuditSequence hfind
      obtain ⟨i, hi⟩ := SlotTable.mem_entries.mp hmem
      have hlo := h.within i e hi
      have hhi := h.below i e hi
      have hk : e.number = k := hnumber
      rw [Option.map_some, hk, if_pos ⟨by omega, by omega⟩]

/-- A window of the ring has every number from its start on. -/
lemma auditWindow_numbers (h : svc.RingSound) {first start : ℕ}
    (hstart : start = max first (svc.auditNextSequence.toNat - svc.auditEventCount.toNat)) :
    (svc.auditWindow first).map AuditEvent.number =
      List.range' start (svc.auditNextSequence.toNat - start) := by
  have hlt := h.count_lt
  have hpart : ∀ a b, svc.auditNextSequence.toNat - svc.auditEventCount.toNat ≤ a →
      a + b ≤ svc.auditNextSequence.toNat →
      (List.range' a b).filterMap (fun k => (svc.findAuditSequence k).map AuditEvent.number) =
        List.range' a b := by
    intro a b hlo hhi
    conv_rhs => rw [← List.filterMap_some (l := List.range' a b)]
    refine List.filterMap_congr fun k hk => ?_
    rw [List.mem_range'_1] at hk
    rw [h.findAuditSequence_number, if_pos ⟨by omega, by omega⟩]
  have hnone : ∀ a b, a + b ≤ svc.auditNextSequence.toNat - svc.auditEventCount.toNat →
      (List.range' a b).filterMap (fun k => (svc.findAuditSequence k).map AuditEvent.number) = [] := by
    intro a b hhi
    rw [List.filterMap_eq_nil_iff]
    intro k hk
    rw [List.mem_range'_1] at hk
    rw [h.findAuditSequence_number, if_neg (by omega)]
  have hsplit : List.range' first (svc.auditNextSequence.toNat - first) =
      List.range' first (start - first) ++
        List.range' start (svc.auditNextSequence.toNat - start) := by
    by_cases hle : start ≤ svc.auditNextSequence.toNat
    · have := @List.range'_append first (start - first) (svc.auditNextSequence.toNat - start) 1
      rw [show first + 1 * (start - first) = start by omega,
        show start - first + (svc.auditNextSequence.toNat - start) =
          svc.auditNextSequence.toNat - first by omega] at this
      exact this.symm
    · rw [show start = first by omega, Nat.sub_self]
      rfl
  rw [auditWindow, List.map_filterMap, hsplit, List.filterMap_append]
  by_cases hle : start ≤ svc.auditNextSequence.toNat
  · rw [hpart start _ (by omega) (by omega)]
    by_cases hfirst : first ≤ svc.auditNextSequence.toNat - svc.auditEventCount.toNat
    · rw [hnone first _ (by omega), List.nil_append]
    · rw [show start - first = 0 by omega]
      rfl
  · rw [show start - first = 0 by omega, show svc.auditNextSequence.toNat - start = 0 by omega]
    rfl

end Service.RingSound

/-! ## Filling the ring from a file -/

/-- The events of a file can be imported. -/
def Importable (es : List AuditEvent) : Prop := ∀ e ∈ es, e.sequence ≠ 0 ∧ e.operation ≠ 0

/-- An import never counts past a full ring. -/
lemma foldlM_count_full {svc svc' : Service} {es : List AuditEvent}
    (hfull : svc.auditEventCount = 256)
    (h : es.foldlM Service.storeImportAudit svc = some svc') :
    svc'.auditEventCount = svc.auditEventCount := by
  refine SlotTable.foldlM_induction (P := fun s : Service =>
    s.auditEventCount = svc.auditEventCount) h rfl fun s s' e _ hs hstep => ?_
  unfold Service.storeImportAudit at hstep
  split at hstep
  · cases hstep
  · cases hstep
    simp [hs, hfull]

namespace Service.RingSound

variable {svc : Service} {e : AuditEvent} {es : List AuditEvent}

/-- The event with the next number is imported as it is recorded. -/
lemma storeImportAudit_next (h : svc.RingSound) (hseq : e.sequence = svc.auditNextSequence)
    (hop : e.operation ≠ 0) : svc.storeImportAudit e = some (svc.recordAudit e) := by
  have hdup : ((svc.audit.get (auditSlot e.sequence)).any fun old => old.sequence == e.sequence) =
      false := by
    cases hget : svc.audit.get (auditSlot e.sequence) with
    | none => rfl
    | some old =>
        have hlt := h.below _ old hget
        rw [Option.any_some, beq_eq_false_iff_ne]
        intro heq
        rw [AuditEvent.number, heq, hseq] at hlt
        exact absurd hlt (Nat.lt_irrefl _)
  have hzero : e.sequence ≠ 0 := hseq ▸ h.next_ne_zero
  rw [Service.storeImportAudit, if_neg (by simp [hzero, hop])]
  dsimp only
  rw [hdup, hseq, if_pos (UInt64.le_refl _)]
  simp only [Bool.not_false, Bool.true_and, decide_eq_true_eq, recordAudit, hseq]

/-- A first event may have any number. -/
lemma storeImportAudit_first (hempty : svc.auditPart = (SlotTable.empty, 1, 0))
    (hseq : e.sequence ≠ 0) (hop : e.operation ≠ 0) (hroom : e.number + 1 < 2 ^ 64) :
    ∃ svc', svc.storeImportAudit e = some svc' ∧ svc'.RingSound ∧
      svc'.auditNextSequence.toNat = e.number + 1 ∧ svc'.auditEventCount.toNat = 1 := by
  obtain ⟨haudit, hnext, hcount⟩ := @auditPart_eq Service.fresh svc hempty
  have hpos := AuditEvent.number_pos hseq
  have hle : svc.auditNextSequence ≤ e.sequence := by
    rw [hnext, UInt64.le_iff_toNat_le]
    exact hpos
  have hone : svc.auditEventCount + 1 = 1 := by rw [hcount]; rfl
  have hlt : svc.auditEventCount < 256 := by rw [hcount]; decide
  have htable : svc.audit = SlotTable.empty := haudit
  refine ⟨{ svc with
    audit := svc.audit.put (auditSlot e.sequence) e
    auditNextSequence := e.sequence + 1
    auditEventCount := 1 }, ?_, ?_, toNat_succ hroom, rfl⟩
  · rw [Service.storeImportAudit, if_neg (by simp [hseq, hop])]
    dsimp only
    rw [if_pos hle, htable, SlotTable.get_empty]
    simp only [Option.any_none, Bool.not_false, Bool.true_and, decide_eq_true_eq, if_pos hlt, hone]
  · unfold Service.RingSound
    dsimp only
    rw [htable, toNat_succ hroom, auditSlot_eq hseq]
    exact SeqRing.holds_first (by decide) hpos

/-- An event whose number the ring holds replaces the one it has. -/
lemma storeImportAudit_held (h : svc.RingSound) (hseq : e.sequence ≠ 0) (hop : e.operation ≠ 0)
    (hlo : svc.auditNextSequence.toNat - svc.auditEventCount.toNat ≤ e.number)
    (hhi : e.number < svc.auditNextSequence.toNat) :
    ∃ svc', svc.storeImportAudit e = some svc' ∧ svc'.RingSound ∧
      svc'.auditNextSequence = svc.auditNextSequence ∧
      svc'.auditEventCount = svc.auditEventCount := by
  obtain ⟨old, hold, hnumber⟩ := h.filled e.number hlo hhi
  have hslot := auditSlot_eq hseq
  have hdup : ((svc.audit.get (auditSlot e.sequence)).any fun old => old.sequence == e.sequence) =
      true := by
    rw [hslot]
    show (svc.audit.get (SeqRing.slot maxAuditEvents e.number)).any _ = true
    rw [hold, Option.any_some, beq_iff_eq]
    exact UInt64.toNat_inj.mp hnumber
  have hnot : ¬ svc.auditNextSequence ≤ e.sequence := by
    rw [UInt64.not_le, UInt64.lt_iff_toNat_lt]
    exact hhi
  refine ⟨{ svc with audit := svc.audit.put (auditSlot e.sequence) e }, ?_, ?_, rfl, rfl⟩
  · rw [Service.storeImportAudit, if_neg (by simp [hseq, hop])]
    dsimp only
    rw [hdup, if_neg hnot]
    simp only [Bool.not_true, Bool.false_and, Bool.false_eq_true, if_false]
  · unfold Service.RingSound
    dsimp only
    rw [hslot]
    exact SeqRing.Holds.replace h (by decide) hlo hhi

/-- Events with the next numbers, one after the other. -/
lemma foldlM_next (h : svc.RingSound) {m : ℕ}
    (hes : es.map AuditEvent.number = List.range' svc.auditNextSequence.toNat m)
    (hvalid : Importable es) (hroom : svc.auditNextSequence.toNat + m < 2 ^ 64) :
    ∃ svc', es.foldlM storeImportAudit svc = some svc' ∧ svc'.RingSound ∧
      svc'.auditNextSequence.toNat = svc.auditNextSequence.toNat + m ∧
      svc'.auditEventCount.toNat = min (svc.auditEventCount.toNat + m) maxAuditEvents := by
  induction es generalizing svc m with
  | nil =>
      have hm : m = 0 := by simpa using (congrArg List.length hes).symm
      have hle := h.count_le
      exact ⟨svc, rfl, h, by omega, by omega⟩
  | cons e es ih =>
      obtain ⟨m, rfl⟩ : ∃ m', m = m' + 1 := by
        cases m with
        | zero => simp at hes
        | succ m => exact ⟨m, rfl⟩
      rw [List.map_cons, List.range'_succ, List.cons.injEq] at hes
      have hseq : e.sequence = svc.auditNextSequence := UInt64.toNat_inj.mp hes.1
      have himport := h.storeImportAudit_next hseq (hvalid e (by simp)).2
      have hsound : (svc.recordAudit e).RingSound :=
        auditStable_ringSound.record h (by omega) (by rw [nextSequence_eq h.next_ne_zero, hseq])
      have hnext : (svc.recordAudit e).auditNextSequence.toNat =
          svc.auditNextSequence.toNat + 1 := by
        rw [recordAudit, hseq]
        exact toNat_succ (by omega)
      have hcount : (svc.recordAudit e).auditEventCount.toNat =
          min (svc.auditEventCount.toNat + 1) maxAuditEvents := by
        have hle : svc.auditEventCount.toNat ≤ 256 := h.count_le
        have h256 : (256 : UInt64).toNat = 256 := rfl
        show _ = min _ 256
        rw [recordAudit]
        dsimp only
        split
        · rename_i hlt
          rw [UInt64.lt_iff_toNat_lt] at hlt
          rw [toNat_succ (by omega)]
          omega
        · rename_i hnot
          rw [UInt64.not_lt, UInt64.le_iff_toNat_le] at hnot
          omega
      obtain ⟨svc', hfold, hs, hn, hc⟩ := ih hsound (by rw [hnext]; exact hes.2)
        (fun q hq => hvalid q (by simp [hq])) (by omega)
      refine ⟨svc', ?_, hs, by omega, ?_⟩
      · rw [List.foldlM_cons, himport]
        exact hfold
      · rw [hc, hcount]
        omega

/-- Events with consecutive numbers, into an empty ring. -/
lemma foldlM_fresh (hempty : svc.auditPart = (SlotTable.empty, 1, 0)) {n c : ℕ}
    (hes : es.map AuditEvent.number = List.range' (n - c) c) (hvalid : Importable es)
    (hle : c ≤ maxAuditEvents) (hlt : c < n) (hstarted : c = 0 → n = 1) (hroom : n < 2 ^ 64) :
    ∃ svc', es.foldlM storeImportAudit svc = some svc' ∧ svc'.RingSound ∧
      svc'.auditNextSequence.toNat = n ∧ svc'.auditEventCount.toNat = c := by
  cases es with
  | nil =>
      have hc : c = 0 := by simpa using (congrArg List.length hes).symm
      obtain ⟨-, hnext, hcount⟩ := @auditPart_eq Service.fresh svc hempty
      refine ⟨svc, rfl, auditStable_ringSound.empty hempty, ?_, ?_⟩
      · rw [hnext, hstarted hc]
        rfl
      · rw [hcount, hc]
        rfl
  | cons e es =>
      obtain ⟨c, rfl⟩ : ∃ c', c = c' + 1 := by
        cases c with
        | zero => simp at hes
        | succ c => exact ⟨c, rfl⟩
      rw [List.map_cons, List.range'_succ, List.cons.injEq] at hes
      obtain ⟨hseq, hop⟩ := hvalid e (by simp)
      obtain ⟨svc₁, himport, hsound, hnext, hcount⟩ :=
        storeImportAudit_first hempty hseq hop (by omega)
      obtain ⟨svc', hfold, hs, hn, hc⟩ := hsound.foldlM_next (by rw [hnext, hes.1]; exact hes.2)
        (fun q hq => hvalid q (by simp [hq])) (by omega)
      refine ⟨svc', ?_, hs, by omega, by omega⟩
      rw [List.foldlM_cons, himport]
      exact hfold

/-- Events that the ring holds. -/
lemma foldlM_held (h : svc.RingSound) (hvalid : Importable es)
    (hheld : ∀ e ∈ es, svc.auditNextSequence.toNat - svc.auditEventCount.toNat ≤ e.number ∧
      e.number < svc.auditNextSequence.toNat) :
    ∃ svc', es.foldlM storeImportAudit svc = some svc' ∧ svc'.RingSound ∧
      svc'.auditNextSequence = svc.auditNextSequence ∧
      svc'.auditEventCount = svc.auditEventCount := by
  induction es generalizing svc with
  | nil => exact ⟨svc, rfl, h, rfl, rfl⟩
  | cons e es ih =>
      obtain ⟨hseq, hop⟩ := hvalid e (by simp)
      obtain ⟨hlo, hhi⟩ := hheld e (by simp)
      obtain ⟨svc₁, himport, hsound, hnext, hcount⟩ := h.storeImportAudit_held hseq hop hlo hhi
      obtain ⟨svc', hfold, hs, hn, hc⟩ := ih hsound (fun q hq => hvalid q (by simp [hq]))
        (by rw [hnext, hcount]; exact fun q hq => hheld q (by simp [hq]))
      refine ⟨svc', ?_, hs, hn.trans hnext, hc.trans hcount⟩
      rw [List.foldlM_cons, himport]
      exact hfold

/-- Events with consecutive numbers up to the newest, where those that are recent are in the ring: the
ring ends up with the numbers it had. -/
lemma foldlM_log (h : svc.RingSound) {m : ℕ} (hm : m < svc.auditNextSequence.toNat)
    (hes : es.map AuditEvent.number = List.range' (svc.auditNextSequence.toNat - m) m)
    (hvalid : Importable es)
    (hrecent : ∀ e ∈ es, svc.auditNextSequence.toNat ≤ e.number + maxAuditEvents →
      svc.auditNextSequence.toNat - svc.auditEventCount.toNat ≤ e.number) :
    ∃ svc', es.foldlM storeImportAudit svc = some svc' ∧ svc'.RingSound ∧
      svc'.auditNextSequence = svc.auditNextSequence ∧
      svc'.auditEventCount = svc.auditEventCount := by
  have hnumbers : ∀ e ∈ es, svc.auditNextSequence.toNat - m ≤ e.number ∧
      e.number < svc.auditNextSequence.toNat := by
    intro e he
    have := List.mem_map_of_mem (f := AuditEvent.number) he
    rw [hes, List.mem_range'_1] at this
    omega
  by_cases hmc : m ≤ svc.auditEventCount.toNat
  · refine h.foldlM_held hvalid fun e he => ?_
    have := hnumbers e he
    omega
  -- the log is longer than the ring, so the ring is full
  have hle : svc.auditEventCount.toNat ≤ 256 := h.count_le
  have hfull : svc.auditEventCount.toNat = 256 := by
    by_contra hne
    have hmem : svc.auditNextSequence.toNat - svc.auditEventCount.toNat - 1 ∈
        es.map AuditEvent.number := by
      rw [hes, List.mem_range'_1]
      omega
    obtain ⟨e, he, hnumber⟩ := List.mem_map.mp hmem
    have h256 : maxAuditEvents = 256 := rfl
    have := hrecent e he (by omega)
    omega
  obtain ⟨ring, c, hfold, hget⟩ := foldlM_storeImportAudit hvalid svc
  have hnext : nextAfter svc.auditNextSequence es = svc.auditNextSequence := by
    obtain ⟨hlo, hhi, -⟩ := nextAfter_bounds
      (fun e he => UInt64.lt_iff_toNat_lt.mpr (hnumbers e he).2)
      (UInt64.le_refl svc.auditNextSequence)
    exact UInt64.le_antisymm hhi hlo
  have hcount : c = svc.auditEventCount :=
    foldlM_count_full (UInt64.toNat_inj.mp hfull) hfold
  refine ⟨_, hfold, ?_, hnext, hcount⟩
  unfold Service.RingSound
  dsimp only
  rw [hnext, hcount]
  refine SeqRing.Holds.congr h fun i => ?_
  rw [hget]
  cases hfind : es.reverse.find? fun e => auditSlot e.sequence = i with
  | none => rfl
  | some e =>
      have he : e ∈ es := by simpa using List.mem_of_find?_eq_some hfind
      have hslot : auditSlot e.sequence = i := by simpa using List.find?_some hfind
      have hfind' : es.reverse.find? (fun e => SeqRing.slot maxAuditEvents e.number = i) =
          some e := by
        rw [← hfind]
        refine List.find?_congr fun q hq => ?_
        rw [auditSlot_eq (hvalid q (by simpa using hq)).1]
        rfl
      have hlive := hrecent e he
        (SeqRing.recent_of_find?_reverse (by decide) hes hm hfind')
      obtain ⟨old, hold, hnumber⟩ := h.filled e.number hlive (hnumbers e he).2
      rw [Option.some_or, Option.map_some, ← hslot, auditSlot_eq (hvalid e he).1]
      show some e.number = (svc.audit.get (SeqRing.slot maxAuditEvents e.number)).map _
      rw [hold, Option.map_some, hnumber]

end Service.RingSound

/-! ## One request -/

lemma Service.auditPart_complete (svc : Service) (pending : Option (ℕ × FieldText 96)) (req : Request)
    (reply : Reply) : (svc.complete pending req reply).auditPart = svc.auditPart := by
  unfold Service.complete
  split <;> rfl

/-- The audit part an answer leaves: that of the service, or of a snapshot it restored, or an empty
one. -/
inductive AuditBase (svc : Service) (req : Request) (after : Service) : Prop
  | same (h : after.auditPart = svc.auditPart)
  | restored {snapshot : Service} (hop : req.operation = WireOperation.restoreSnapshot.code)
      (himp : importSnapshotText Service.fresh req.payload.bytes = some snapshot)
      (h : after.auditPart = snapshot.auditPart)
  | committed (hop : req.operation = WireOperation.restoreSnapshotPage.code)
      (h : after.auditPart = (SlotTable.empty, 1, 0))

lemma AuditBase.congr {svc after after' : Service} {req : Request} (h : AuditBase svc req after)
    (hsame : after'.auditPart = after.auditPart) : AuditBase svc req after' := by
  cases h with
  | same h => exact .same (hsame.trans h)
  | restored hop himp h => exact .restored hop himp (hsame.trans h)
  | committed hop h => exact .committed hop (hsame.trans h)

lemma Effect.auditBase {s : ServiceState} {req : Request} {out : ServiceState × Reply}
    (h : Effect s req out) : AuditBase s.svc req out.1.svc := by
  cases h with
  | unchanged _ => exact .same rfl
  | staged _ _ => exact .same rfl
  | wrote _ hw _ =>
      obtain ⟨rs, hchain⟩ := hw.chain
      refine .same ?_
      rw [Service.putAll_frame hchain.put]
      rfl
  | restored _ hop hbase himp =>
      obtain rfl := Service.init_eq_some hbase
      exact .restored hop himp rfl
  | committed _ hop _ => exact .committed hop rfl

lemma Answered.auditBase {cfg : Config} {env : Env} {s : ServiceState} {req : Request} {a : Answer}
    (h : Answered cfg env s req a) (hs : s.svc.WellFormed) : AuditBase s.svc req a.state.svc := by
  cases h with
  | replayed _ => exact .same rfl
  | overQuota _ _ _ => exact .same (Service.auditPart_complete _ _ _ _)
  | executed _ _ hout hexec =>
      have heff := dispatchOperation_effect env cfg.storageRoot hs.recordKeys req
      rw [hout] at heff
      refine heff.auditBase.congr ?_
      rw [Service.auditPart_complete]
      exact hexec.pruned.shrinks.audit

/-- The limit on audit events. -/
def Config.maxAuditEvents (cfg : Config) : UInt64 := cfg.limits.elim 0 DaemonLimits.maxAuditEvents

/-- What a request does to the ring: it leaves it as the answer did, or it appends an event and prunes,
and may then append another. -/
lemma Daemon.step_auditPart (cfg : Config) (d : Daemon) (st : Step) :
    ∀ after, after = (answerRequest cfg st.env d.state st.req).state.svc →
    (d.step cfg st).state.svc.auditPart = after.auditPart ∨
    ∃ e : AuditEvent, e.sequence = after.nextSequence ∧
      ((d.step cfg st).state.svc.auditPart =
        ((after.recordAudit e).applyAuditRetention cfg.maxAuditEvents).1.auditPart ∨
      ∃ e' : AuditEvent, e'.sequence =
          ((after.recordAudit e).applyAuditRetention cfg.maxAuditEvents).1.nextSequence ∧
        (d.step cfg st).state.svc.auditPart =
          (((after.recordAudit e).applyAuditRetention cfg.maxAuditEvents).1.recordAudit
            e').auditPart) := by
  rintro after rfl
  have hshow : (d.step cfg st).state.svc = (persistRequest cfg st.env st.writes d.disk
    (answerRequest cfg st.env d.state st.req) st.req
    (auditRequest cfg st.env (answerRequest cfg st.env d.state st.req) st.req)).svc := rfl
  rw [hshow]
  generalize answerRequest cfg st.env d.state st.req = a
  obtain ⟨-, heq⟩ | ⟨-, e, he, heq⟩ := auditRequest_cases cfg st.env a st.req
  · obtain ⟨hsvc, -⟩ | ⟨-, -, -, hevent, -, -⟩ := persistRequest_cases cfg st.env st.writes d.disk a
      st.req (auditRequest cfg st.env a st.req)
    · rw [hsvc, heq]
      exact .inl rfl
    · rw [heq] at hevent
      exact absurd rfl hevent
  · refine .inr ⟨e, by rw [he]; rfl, ?_⟩
    obtain ⟨hsvc, -⟩ | ⟨-, -, -, -, hsvc, -⟩ := persistRequest_cases cfg st.env st.writes d.disk a
      st.req (auditRequest cfg st.env a st.req)
    · rw [hsvc, heq]
      exact .inl rfl
    · rw [hsvc, heq]
      refine .inr ⟨auditEvent ((a.state.svc.recordAudit e).applyAuditRetention
        cfg.maxAuditEvents).1.nextSequence st.env.failureMonotonicMs st.req saveFailedReply a.replayed,
        rfl, ?_⟩
      exact auditPart_recordAudit (Service.auditPart_complete _ _ _ _) _

/-- A request has numbers left for its events, and a snapshot it restores has too, with a ring that
meets `P`. -/
structure Step.AuditFits (P : Service → Prop) (svc : Service) (req : Request) : Prop where
  room : svc.auditNextSequence.toNat + 2 < 2 ^ 64
  restored : req.operation = WireOperation.restoreSnapshot.code → ∀ snapshot,
    importSnapshotText Service.fresh req.payload.bytes = some snapshot →
      P snapshot ∧ snapshot.auditNextSequence.toNat + 2 < 2 ^ 64

lemma Step.AuditFits.of_room {P : Service → Prop} {svc : Service} {req : Request}
    (hroom : svc.auditNextSequence.toNat + 2 < 2 ^ 64)
    (hop : req.operation ≠ WireOperation.restoreSnapshot.code) : Step.AuditFits P svc req :=
  ⟨hroom, fun h => absurd h hop⟩

namespace AuditStable

variable {P : Service → Prop}

/-- The answer keeps the property, and leaves numbers for the events to come. -/
lemma answer (hP : AuditStable P) {svc after : Service} {req : Request} (hb : AuditBase svc req after)
    (h : P svc) (hfits : Step.AuditFits P svc req) :
    P after ∧ after.auditNextSequence.toNat + 2 < 2 ^ 64 := by
  cases hb with
  | same hsame =>
      refine ⟨hP.congr hsame h, ?_⟩
      rw [(auditPart_eq hsame).2.1]
      exact hfits.room
  | @restored snapshot hop himp hsame =>
      obtain ⟨hp, hroom⟩ := hfits.restored hop snapshot himp
      refine ⟨hP.congr hsame hp, ?_⟩
      rw [(auditPart_eq hsame).2.1]
      exact hroom
  | committed _ hempty =>
      refine ⟨hP.empty hempty, ?_⟩
      rw [(@auditPart_eq Service.fresh after hempty).2.1]
      decide

/-- **The rule of the ring.**  What survives appending and pruning survives a request. -/
lemma step (hP : AuditStable P) {cfg : Config} {d : Daemon} (hd : d.state.svc.WellFormed) {st : Step}
    (h : P d.state.svc) (hpos : ∀ svc, P svc → svc.auditNextSequence ≠ 0)
    (hfits : Step.AuditFits P d.state.svc st.req) : P (d.step cfg st).state.svc := by
  obtain ⟨hafter, hroom⟩ := hP.answer
    ((answerRequest_answered cfg st.env d.state st.req).auditBase hd) h hfits
  obtain hsame | ⟨e, he, hstep⟩ := d.step_auditPart cfg st _ rfl
  · exact hP.congr hsame hafter
  have hrecord := hP.record hafter (by omega) he
  have hretain := hP.retain cfg.maxAuditEvents hrecord
  rcases hstep with hsame | ⟨e', he', hsame⟩
  · exact hP.congr hsame hretain
  · refine hP.congr hsame (hP.record hretain ?_ he')
    rw [Service.applyAuditRetention_frame]
    show (e.sequence + 1).toNat + 1 < 2 ^ 64
    rw [he, Service.nextSequence_eq (hpos _ hafter), toNat_succ (by omega)]
    omega

end AuditStable

end MemService
