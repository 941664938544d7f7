import MemService.RegionLayout
import Mathlib.Data.List.MinMax

/-!
# Putting an object's record

`mem_service_put_obmm_object_record` finds the record of its key, or allocates a slot, or lets a
recycler give one up, and then writes the slot from scratch.  The recycler of the model runtime
reads the decode step out of the keys: in a full table it gives up a record of the oldest step, if
that step lies more than sixteen steps behind the incoming one.

The definitions here change the table in place, slot by slot, as the source does;
`putObjectRecord_eq` says that the result is that of `putObmmObjectRecord`, in which the slot is
chosen first and written once.
-/

open ByteText CNumeral

namespace MemService

/-! ## Decode steps in keys -/

/-- `mem_service_qwen3_record_kind_recyclable`. -/
def qwen3RecordKindRecyclable (kind : RecordKind) : Bool :=
  kind == RecordKind.hiddenRangeInput || kind == RecordKind.hiddenRangeOutput ||
    kind == RecordKind.kvcacheObject || kind == RecordKind.modelTokenResult ||
    kind == RecordKind.modelEngramCandidates || kind == RecordKind.modelEngramSelected ||
    kind == RecordKind.modelEngramState

/-- `mem_service_qwen3_key_decode_step`: the number behind the first `decode-step` of the key, or
else behind the first `/step/`.  There must be a digit right there, and the number must not
overflow; what follows it does not matter. -/
def qwen3KeyDecodeStep (key : Bytes) : Option UInt64 :=
  let needle := match afterFirst (ascii "decode-step") key with
    | some rest => some rest
    | none => afterFirst (ascii "/step/") key
  needle.bind fun s =>
    match s with
    | [] => none
    | b :: _ =>
        if b < 48 || b > 57 then none
        else
          let parsed := (scanDigits 10 0 s).1
          if parsed < 2 ^ 64 then some (UInt64.ofNat parsed) else none

/-- `MEM_SERVICE_QWEN3_RECORD_RETAIN_STEPS`. -/
def qwen3RecordRetainSteps : UInt64 := 16

/-- The decode step of a record that the recycler may give up. -/
def recyclableStep (r : Record) : Option UInt64 :=
  if qwen3RecordKindRecyclable r.kind then qwen3KeyDecodeStep r.keyBytes else none

/-- The slots that the loop of the recycler does not pass over, with their decode steps.  The sum is
one of 64 bits. -/
def recycleCandidates (svc : Service) (incomingStep : UInt64) : List (ℕ × UInt64) :=
  (svc.records.indexedFrom 0).filterMap fun s =>
    (recyclableStep s.2).bind fun recStep =>
      if recStep + qwen3RecordRetainSteps ≥ incomingStep then none else some (s.1, recStep)

/-- The slot `mem_service_recycle_qwen3_runtime_record` gives up: the first of the least decode
step. -/
def recycleQwen3RuntimeRecord (svc : Service) (incomingKey : Bytes) : Option ℕ :=
  (qwen3KeyDecodeStep incomingKey).bind fun incomingStep =>
    if incomingStep ≤ qwen3RecordRetainSteps then none
    else ((recycleCandidates svc incomingStep).argmin fun c => c.2.toNat).map Prod.fst

/-! ## The put, in place -/

/-- `mem_service_alloc_record`: the first free slot, marked as in use and counted.  What it holds
is not yet anything. -/
def allocRecord (svc : Service) : Service × Option ℕ :=
  match svc.records.firstFree? with
  | some i => ({ svc with records := svc.records.put i {}, recordCount := svc.recordCount + 1 }, some i)
  | none => (svc, none)

/-- A recycler run: the slot it gives up is zeroed, and thereby free. -/
def recycleRecord (recycle : Service → Bytes → Option ℕ) (svc : Service) (incomingKey : Bytes) :
    Service × Option ℕ :=
  match recycle svc incomingKey with
  | some i => ({ svc with records := svc.records.clear i }, some i)
  | none => (svc, none)

/-- The slot a put writes, and the table as it is then. -/
def objectRecordSlot (svc : Service) (object : ObjectRecord) : Service × Option ℕ :=
  match svc.records.findIdx? fun b => decide (b.keyBytes = object.key) with
  | some i => (svc, some i)
  | none =>
      match allocRecord svc with
      | (svc, some i) => (svc, some i)
      | (svc, none) => recycleRecord object.recycle svc object.key

/-- The version a put gives its record. -/
def nextVersion (svc : Service) (key : Bytes) : UInt64 :=
  match svc.findRecord key with
  | some rec => if rec.version ≠ UInt64.ofNat (2 ^ 64 - 1) then rec.version + 1 else 1
  | none => 1

/-- The slot as a put writes it: everything it does not assign is zero. -/
def obmmObjectRecord (object : ObjectRecord) (ownerNode : UInt32)
    (offset len checksum version : UInt64) : Record where
  kind := object.recordKind
  key := .copy object.key
  placementNode := ownerNode
  placementLevel := 2
  hotSegmentId := offset
  state := KvcacheState.hot
  version := version
  lastResultSegment := offset + len
  objectOwnerNode := ownerNode
  objectPayloadKind := object.payloadKind
  objectBackingOffset := offset
  objectBackingLen := len
  objectPayloadChecksum := checksum

/-- `mem_service_put_obmm_object_record`, with the table after it in either case. -/
def putObjectRecord (svc : Service) (object : ObjectRecord) (ownerNode : UInt32)
    (offset len checksum : UInt64) : Service × Option Record :=
  if len = 0 then (svc, none)
  else
    let record := obmmObjectRecord object ownerNode offset len checksum (nextVersion svc object.key)
    match objectRecordSlot svc object with
    | (svc, none) => (svc, none)
    | (svc, some i) => ({ svc with records := svc.records.put i record }, some record)

/-! ## The slot that is written -/

/-- What the runtime's recycler gives up is a record in use whose step, in 64-bit arithmetic, is
more than sixteen behind, and no such record has a smaller one. -/
lemma recycleQwen3RuntimeRecord_eq_some {svc : Service} {key : Bytes} {i : ℕ}
    (h : recycleQwen3RuntimeRecord svc key = some i) :
    ∃ incoming victim step, qwen3KeyDecodeStep key = some incoming ∧
      svc.records.get i = some victim ∧ recyclableStep victim = some step ∧
      step + qwen3RecordRetainSteps < incoming ∧
      ∀ r ∈ svc.records.entries, ∀ s, recyclableStep r = some s →
        s + qwen3RecordRetainSteps < incoming → step.toNat ≤ s.toNat := by
  have hmem {incoming : UInt64} {j : ℕ} {s : UInt64} :
      (j, s) ∈ recycleCandidates svc incoming ↔ ∃ r, (j, r) ∈ svc.records.indexedFrom 0 ∧
        recyclableStep r = some s ∧ s + qwen3RecordRetainSteps < incoming := by
    simp only [recycleCandidates, List.mem_filterMap, Option.bind_eq_some_iff]
    constructor
    · rintro ⟨⟨k, r⟩, hr, t, ht, hif⟩
      split at hif
      · cases hif
      · rename_i hlt
        cases hif
        exact ⟨r, hr, ht, UInt64.not_le.mp hlt⟩
    · rintro ⟨r, hr, hs, hlt⟩
      exact ⟨(j, r), hr, s, hs, by rw [if_neg (UInt64.not_le.mpr hlt)]⟩
  obtain ⟨incoming, hincoming, h⟩ := Option.bind_eq_some_iff.mp h
  split at h
  · cases h
  obtain ⟨⟨j, step⟩, hleast, rfl⟩ := Option.map_eq_some_iff.mp h
  obtain ⟨victim, hv, hstep, hlt⟩ := hmem.mp (List.argmin_mem hleast)
  refine ⟨incoming, victim, step, hincoming, SlotTable.get_of_mem_indexedFrom hv, hstep, hlt, ?_⟩
  intro r hr s hs hslt
  obtain ⟨k, hk⟩ := SlotTable.mem_entries.mp hr
  have hcand : (k, s) ∈ recycleCandidates svc incoming :=
    hmem.mpr ⟨r, SlotTable.mem_indexedFrom_of_get hk, hs, hslt⟩
  exact List.le_of_mem_argmin (f := fun c : ℕ × UInt64 => c.2.toNat) hcand hleast

/-- Which slot a put writes, and how the table stood there. -/
inductive PutSlot (svc : Service) (object : ObjectRecord) (i : ℕ) : Prop
  | overwrite (old : Record) (hget : svc.records.get i = some old)
      (hkey : old.keyBytes = object.key)
  | fresh (hlt : i < maxRecords) (hget : svc.records.get i = none)
      (hnew : svc.findRecord object.key = none)
  | recycled (hfull : svc.records.count = maxRecords) (hnew : svc.findRecord object.key = none)
      (hslot : object.recycle svc object.key = some i)

/-- A put that finds no slot has changed nothing. -/
lemma objectRecordSlot_eq_none {svc svc₁ : Service} {object : ObjectRecord}
    (h : objectRecordSlot svc object = (svc₁, none)) : svc₁ = svc := by
  unfold objectRecordSlot at h
  split at h
  · cases h
  unfold allocRecord recycleRecord at h
  cases hfree : svc.records.firstFree? with
  | some i => simp [hfree] at h
  | none =>
    rw [hfree] at h
    cases hrec : object.recycle svc object.key with
    | some i => simp [hrec] at h
    | none =>
      simp only [hrec, Prod.mk.injEq, and_true] at h
      exact h.symm

/-- A slot that was found can be written as if the table had not been touched, and the count is
right then. -/
lemma objectRecordSlot_eq_some {svc svc₁ : Service} {object : ObjectRecord} {i : ℕ}
    (hvalid : ∀ i, object.recycle svc object.key = some i → ∃ r, svc.records.get i = some r)
    (h : objectRecordSlot svc object = (svc₁, some i)) :
    PutSlot svc object i ∧ i < maxRecords ∧
      (∀ record, svc₁.records.put i record = svc.records.put i record) ∧
      ∀ record, svc.recordCount = svc.records.count →
        svc₁.recordCount = (svc.records.put i record).count := by
  unfold objectRecordSlot at h
  split at h
  · rename_i j hj
    cases h
    obtain ⟨old, hold, -, hkey⟩ := SlotTable.get_of_findIdx? hj
    refine ⟨.overwrite old hold (by simpa using hkey), SlotTable.lt_cap_of_get hold,
      fun _ => rfl, fun record hc => ?_⟩
    rw [hc, SlotTable.count_put_of_used hold]
  rename_i hnone
  have hnew : svc.findRecord object.key = none := by
    refine SlotTable.lookup_eq_none_iff.mpr fun a ha => ?_
    simpa using SlotTable.findIdx?_eq_none_iff.mp hnone a ha
  unfold allocRecord recycleRecord at h
  cases hfree : svc.records.firstFree? with
  | some j =>
    simp only [hfree, Prod.mk.injEq, Option.some.injEq] at h
    obtain ⟨rfl, rfl⟩ := h
    obtain ⟨hlt, hget⟩ := SlotTable.firstFree?_eq_some hfree
    refine ⟨.fresh hlt hget hnew, hlt, fun record => SlotTable.put_put _ _ _ _, fun record hc => ?_⟩
    rw [SlotTable.count_put_of_free hlt hget, hc]
  | none =>
    rw [hfree] at h
    cases hrec : object.recycle svc object.key with
    | none => simp [hrec] at h
    | some j =>
      simp only [hrec, Prod.mk.injEq, Option.some.injEq] at h
      obtain ⟨rfl, rfl⟩ := h
      obtain ⟨r, hr⟩ := hvalid j hrec
      refine ⟨.recycled (SlotTable.firstFree?_eq_none_iff.mp hfree) hnew hrec,
        SlotTable.lt_cap_of_get hr, fun record => ?_, fun record hc => ?_⟩
      · exact SlotTable.put_clear _ (SlotTable.lt_cap_of_get hr) record
      · rw [SlotTable.count_put_of_used hr, hc]

/-- The put in place does what the put of the region layout does. -/
theorem putObjectRecord_eq {svc : Service} {object : ObjectRecord}
    (hvalid : ∀ i, object.recycle svc object.key = some i → ∃ r, svc.records.get i = some r)
    (ownerNode : UInt32) (offset len checksum : UInt64) :
    putObjectRecord svc object ownerNode offset len checksum =
      match putObmmObjectRecord svc object ownerNode offset len checksum with
      | none => (svc, none)
      | some (svc', record) => (svc', some record) := by
  have hwritten : putObmmObjectRecord svc object ownerNode offset len checksum =
      if len = 0 then none
      else
        let record := obmmObjectRecord object ownerNode offset len checksum (nextVersion svc object.key)
        match svc.records.findIdx? fun b => decide (b.keyBytes = object.key) with
        | some i => some ({ svc with records := svc.records.put i record }, record)
        | none =>
            match svc.records.firstFree? with
            | some i =>
                some ({ svc with
                    records := svc.records.put i record
                    recordCount := svc.recordCount + 1 }, record)
            | none => (object.recycle svc object.key).map fun i =>
                ({ svc with records := svc.records.put i record }, record) := rfl
  rw [hwritten, putObjectRecord]
  by_cases hlen : len = 0
  · simp [hlen]
  simp only [if_neg hlen, objectRecordSlot, allocRecord, recycleRecord]
  cases hfind : svc.records.findIdx? fun b => decide (b.keyBytes = object.key) with
  | some i => rfl
  | none =>
    cases hfree : svc.records.firstFree? with
    | some i => simp [SlotTable.put_put]
    | none =>
      cases hrec : object.recycle svc object.key with
      | none => simp [hrec]
      | some i =>
        obtain ⟨r, hr⟩ := hvalid i hrec
        simp [hrec, SlotTable.put_clear _ (SlotTable.lt_cap_of_get hr)]

/-! ## What a put does to the table -/

/-- The record may be replaced by one under the incoming key: its decode step is the least of all
records of a recyclable kind and lies more than the retained steps behind. -/
def Outdated (svc : Service) (incomingKey : Bytes) (victim : Record) : Prop :=
  ∃ step incoming, recyclableStep victim = some step ∧
    qwen3KeyDecodeStep incomingKey = some incoming ∧
    step.toNat + qwen3RecordRetainSteps.toNat < incoming.toNat ∧
    ∀ r ∈ svc.records.entries, ∀ s, recyclableStep r = some s → step.toNat ≤ s.toNat

/-- The table after a put that succeeded, compared with the table before: slot `i` holds the
record. -/
structure PutDone (svc svc' : Service) (key : Bytes) (record : Record) (i : ℕ) : Prop where
  holds : svc'.records.get i = some record
  keyed : record.keyBytes = key
  only : ∀ j r, svc'.records.get j = some r → r.keyBytes = key → j = i
  found : svc'.findRecord key = some record
  version : record.version.toNat =
    match svc.findRecord key with
    | some old => if old.version.toNat = 2 ^ 64 - 1 then 1 else old.version.toNat + 1
    | none => 1
  others : ∀ j, j ≠ i → svc'.records.get j = svc.records.get j
  slot : (∃ old, svc.records.get i = some old ∧ old.keyBytes = key) ∨
    (svc.records.get i = none ∧ svc.findRecord key = none) ∨
    (svc.records.count = maxRecords ∧ svc.findRecord key = none ∧
      ∃ victim, svc.records.get i = some victim ∧ Outdated svc key victim)
  count : svc'.recordCount = svc'.records.count

lemma toNat_nextVersion (svc : Service) (key : Bytes) :
    (nextVersion svc key).toNat =
      match svc.findRecord key with
      | some old => if old.version.toNat = 2 ^ 64 - 1 then 1 else old.version.toNat + 1
      | none => 1 := by
  unfold nextVersion
  cases svc.findRecord key with
  | none => rfl
  | some old =>
    have hmax : old.version = UInt64.ofNat (2 ^ 64 - 1) ↔ old.version.toNat = 2 ^ 64 - 1 := by
      rw [← UInt64.toNat_inj]
      rfl
    simp only [ne_eq, hmax]
    by_cases h : old.version.toNat = 2 ^ 64 - 1
    · simp [h]
    · have hlt := old.version.toNat_lt
      simp only [h, not_false_eq_true, if_true, if_false]
      rw [UInt64.toNat_add, Nat.mod_eq_of_lt]
      · rfl
      · change old.version.toNat + 1 < 2 ^ 64
        omega

/-- Away from the end of the 64-bit range a record that is given up is outdated. -/
lemma outdated_of_recycle {svc : Service} {key : Bytes} {i : ℕ}
    (hsteps : ∀ r ∈ svc.records.entries, ∀ s, recyclableStep r = some s →
      s.toNat + qwen3RecordRetainSteps.toNat < 2 ^ 64)
    (h : recycleQwen3RuntimeRecord svc key = some i) :
    ∃ victim, svc.records.get i = some victim ∧ Outdated svc key victim := by
  obtain ⟨incoming, victim, step, hincoming, hget, hstep, hlt, hleast⟩ :=
    recycleQwen3RuntimeRecord_eq_some h
  have hsum {r : Record} {s : UInt64} (hr : r ∈ svc.records.entries) (hs : recyclableStep r = some s) :
      s + qwen3RecordRetainSteps < incoming ↔
        s.toNat + qwen3RecordRetainSteps.toNat < incoming.toNat := by
    rw [UInt64.lt_iff_toNat_lt, UInt64.toNat_add, Nat.mod_eq_of_lt (hsteps r hr s hs)]
  have hbehind := (hsum (SlotTable.mem_entries_of_get hget) hstep).mp hlt
  refine ⟨victim, hget, step, incoming, hstep, hincoming, hbehind, fun r hr s hs => ?_⟩
  by_cases hold : s + qwen3RecordRetainSteps < incoming
  · exact hleast r hr s hs hold
  · -- a record that may not go is not older than one that may
    have hyoung := mt (hsum hr hs).mpr hold
    omega

/-- **Putting an object's record.**  A put fails and leaves the service as it is, or it leaves
exactly one record under its key, of the next version, and has replaced nothing but the former
record of the key or, in a full table, one outdated record. -/
theorem object_record_put {svc : Service}
    (hkeys : SlotTable.UniqueKeys Record.keyBytes svc.records)
    (hcount : svc.recordCount = svc.records.count)
    {object : ObjectRecord} (hrecycle : object.recycle = recycleQwen3RuntimeRecord)
    (hplain : Plain object.key) (hshort : object.key.length < 96)
    (hsteps : ∀ r ∈ svc.records.entries, ∀ s, recyclableStep r = some s →
      s.toNat + qwen3RecordRetainSteps.toNat < 2 ^ 64)
    (ownerNode : UInt32) (offset len checksum : UInt64) :
    match putObjectRecord svc object ownerNode offset len checksum with
    | (svc', none) => svc' = svc
    | (svc', some record) => ∃ i, PutDone svc svc' object.key record i := by
  unfold putObjectRecord
  split
  · rename_i h
    split at h
    · cases h
      rfl
    split at h
    · cases h
      exact objectRecordSlot_eq_none ‹_›
    · cases h
  rename_i svc' record h
  split at h
  · cases h
  split at h
  · cases h
  rename_i svc₁ i hslot
  cases h
  have hvalid : ∀ j, object.recycle svc object.key = some j → ∃ r, svc.records.get j = some r := by
    intro j hj
    rw [hrecycle] at hj
    obtain ⟨victim, hv, -⟩ := outdated_of_recycle hsteps hj
    exact ⟨victim, hv⟩
  obtain ⟨hcase, hlt, hput, hcount'⟩ := objectRecordSlot_eq_some hvalid hslot
  set record := obmmObjectRecord object ownerNode offset len checksum (nextVersion svc object.key)
    with hrecord
  have hkey : record.keyBytes = object.key := by
    change (FieldText.copy object.key : FieldText 96).bytes = object.key
    rw [FieldText.bytes_copy hplain, List.take_of_length_le (by omega)]
  -- a record of the key is in the slot that is written, if anywhere
  have honly : ∀ j r, svc.records.get j = some r → r.keyBytes = record.keyBytes → j = i := by
    intro j r hj hr
    rw [hkey] at hr
    cases hcase with
    | overwrite old hget hold => exact hkeys j i r old hj hget (hr.trans hold.symm)
    | fresh _ _ hnew | recycled _ hnew _ =>
      exact absurd hr (SlotTable.lookup_eq_none_iff.mp hnew r (SlotTable.mem_entries_of_get hj))
  have hkeys' : SlotTable.UniqueKeys Record.keyBytes (svc.records.put i record) :=
    hkeys.put hlt honly
  have hholds : (svc.records.put i record).get i = some record := by
    rw [SlotTable.get_put hlt, if_pos rfl]
  refine ⟨i, ?_, hkey, ?_, ?_, toNat_nextVersion svc object.key, ?_, ?_, ?_⟩
  · rw [hput]
    exact hholds
  · intro j r hj hr
    rw [hput] at hj
    exact hkeys' j i r record hj hholds (hr.trans hkey.symm)
  · change (svc₁.records.put i record).lookup Record.keyBytes object.key = some record
    rw [hput, hkeys'.lookup_eq_some_iff]
    exact ⟨SlotTable.mem_entries_of_get hholds, hkey⟩
  · intro j hj
    rw [hput, SlotTable.get_put hlt, if_neg hj]
  · cases hcase with
    | overwrite old hget hold => exact .inl ⟨old, hget, hold⟩
    | fresh _ hget hnew => exact .inr (.inl ⟨hget, hnew⟩)
    | recycled hfull hnew hslot =>
      rw [hrecycle] at hslot
      exact .inr (.inr ⟨hfull, hnew, outdated_of_recycle hsteps hslot⟩)
  · rw [hput]
    exact hcount' record hcount

/-- A hidden range of decode step 21. -/
def hiddenRangeObject : ObjectRecord where
  recordKind := RecordKind.hiddenRangeInput
  key := ascii "hidden/m/decode-step21"
  payloadKind := 6
  recycle := recycleQwen3RuntimeRecord

/-- A table that holds one record of it. -/
def oneHiddenRange (version : UInt64) : Service :=
  { Service.fresh with
    records := SlotTable.empty.put 0 (obmmObjectRecord hiddenRangeObject 0 64 128 3 version)
    recordCount := 1 }

lemma uniqueKeys_oneHiddenRange (version : UInt64) :
    SlotTable.UniqueKeys Record.keyBytes (oneHiddenRange version).records := by
  refine (SlotTable.uniqueKeys_empty _).put (by decide) fun j b hb => ?_
  rw [SlotTable.get_empty] at hb
  cases hb

theorem object_record_put_again :
    (∃ i, PutDone (oneHiddenRange 5)
      (putObjectRecord (oneHiddenRange 5) hiddenRangeObject 0 64 128 7).1 hiddenRangeObject.key
      (obmmObjectRecord hiddenRangeObject 0 64 128 7 6) i) ∧
    nextVersion (oneHiddenRange 5) hiddenRangeObject.key = 6 := by
  have hput : putObjectRecord (oneHiddenRange 5) hiddenRangeObject 0 64 128 7 =
      ((putObjectRecord (oneHiddenRange 5) hiddenRangeObject 0 64 128 7).1,
        some (obmmObjectRecord hiddenRangeObject 0 64 128 7 6)) := by decide +kernel
  have hstep : ∀ r ∈ (oneHiddenRange 5).records.entries, recyclableStep r = some 21 := by
    decide +kernel
  have hplain : Plain hiddenRangeObject.key := by decide +kernel
  have hshort : hiddenRangeObject.key.length < 96 := by decide +kernel
  have h := object_record_put (uniqueKeys_oneHiddenRange 5) (by decide +kernel) rfl hplain hshort
    (fun r hr s hs => by
      rw [hstep r hr] at hs
      cases hs
      decide) 0 64 128 7
  rw [hput] at h
  exact ⟨h, by decide +kernel⟩

/-- `UINT64_MAX`. -/
def lastVersion : UInt64 := 0xffffffffffffffff

/-- The last version is followed by the first. -/
theorem object_version_restarts :
    SlotTable.UniqueKeys Record.keyBytes (oneHiddenRange lastVersion).records ∧
    (oneHiddenRange lastVersion).recordCount = (oneHiddenRange lastVersion).records.count ∧
    ∃ old record,
      (oneHiddenRange lastVersion).findRecord hiddenRangeObject.key = some old ∧
      (putObjectRecord (oneHiddenRange lastVersion) hiddenRangeObject 0 64 128 7).2 = some record ∧
      record.version ≠ old.version + 1 ∧ record.version.toNat ≠ old.version.toNat + 1 := by
  refine ⟨uniqueKeys_oneHiddenRange _, by decide +kernel,
    obmmObjectRecord hiddenRangeObject 0 64 128 3 lastVersion,
    obmmObjectRecord hiddenRangeObject 0 64 128 7 1, ?_, ?_, ?_, ?_⟩
  · decide +kernel
  · decide +kernel
  · decide +kernel
  · decide +kernel

end MemService
