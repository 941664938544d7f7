import MemService.StoreLoad

/-!
# The durable files: appending, saving, compacting, loading

The daemon keeps two files.  The store is replaced whole, by a write to a temporary file and a
rename.  The journal is appended to, one call of `mem_service_append_journal` for each audited
request, and cut back to its magic line by compaction.

A call appends at most one idempotency frame and one audit frame.  `JournalCall` is what the daemon
passes; its one condition is that the response of an idempotency record is made of lines that fit,
which every completed record satisfies.  `journalText` is the journal that a list of frames makes,
and `loadJournal_journalText` says that loading it applies the frames in order.
-/

open ByteText CNumeral

namespace MemService

/-! ## Frames -/

/-- A frame of the journal. -/
inductive JournalFrame
  | idempotency (r : IdempotencyRecord) (fits : ResponseLines r.response.bytes)
  | audit (e : AuditEvent)

namespace JournalFrame

/-- The frame's first line. -/
def beginLine : JournalFrame → Bytes
  | idempotency _ _ => ascii "idempotency_begin"
  | audit _ => ascii "audit_begin"

/-- The frame's last line. -/
def endLine : JournalFrame → Bytes
  | idempotency _ _ => ascii "idempotency_end"
  | audit _ => ascii "audit_end"

/-- The frame's fields. -/
def fields : JournalFrame → List (String × Bytes)
  | idempotency r _ => r.fields ++ (lines r.response.bytes).map fun l => ("response_line", l)
  | audit e => e.fields

/-- The frame's lines. -/
def lines : JournalFrame → List Bytes
  | idempotency r _ => saveIdempotencyRecord r
  | audit e => saveAuditEvent e

/-- The effect of the frame, once it is closed. -/
def apply : JournalFrame → Service → Option Service
  | idempotency r _, svc => svc.storeImportIdempotency r.stored
  | audit e, svc => svc.storeImportAudit e.stored

/-- The effect of several frames. -/
def applyAll (svc : Service) (fs : List JournalFrame) : Option Service :=
  fs.foldlM (fun svc f => JournalFrame.apply f svc) svc

lemma lines_eq (f : JournalFrame) :
    f.lines = f.beginLine :: (f.fields.map fun p => fieldLine p.1 p.2) ++ [f.endLine] := by
  cases f with
  | idempotency r h => exact r.saveIdempotencyRecord_eq
  | audit e => rfl

lemma fieldFits (f : JournalFrame) {p : String × Bytes} (hp : p ∈ f.fields) : FieldFits p := by
  cases f with
  | idempotency r h => exact IdempotencyRecord.fieldFits_all h hp
  | audit e => exact AuditEvent.fieldFits_fields hp

lemma fitsLine (f : JournalFrame) {l : Bytes} (hl : l ∈ f.lines) : FitsLine l := by
  cases f with
  | idempotency r h => exact fitsLine_saveIdempotencyRecord h hl
  | audit e => exact fitsLine_saveAuditEvent hl

lemma importStoreLines_lines (f : JournalFrame) (svc : Service) :
    importStoreLines (svc, .closed) (readBack f.lines) =
      (f.apply svc).map fun svc => (svc, .closed) := by
  cases f with
  | idempotency r h => exact importStoreLines_saveIdempotencyRecord svc h
  | audit e => exact importStoreLines_saveAuditEvent svc e

end JournalFrame

/-! ## The journal file -/

/-- What one call of `mem_service_append_journal` is given. -/
structure JournalCall where
  idempotency : Option IdempotencyRecord
  event : Option AuditEvent
  fits : ∀ r, idempotency = some r → ResponseLines r.response.bytes

/-- The frames a call writes, the idempotency frame first. -/
def JournalCall.frames (c : JournalCall) : List JournalFrame :=
  (match h : c.idempotency with
    | some r => [.idempotency r (c.fits r h)]
    | none => []) ++
  (match c.event with
    | some e => [.audit e]
    | none => [])

/-- The lines an append writes after the header. -/
def entryLines (idempotency : Option IdempotencyRecord) (event : Option AuditEvent) : List Bytes :=
  (idempotency.map saveIdempotencyRecord).getD [] ++ (event.map saveAuditEvent).getD []

lemma JournalCall.entryLines_eq (c : JournalCall) :
    entryLines c.idempotency c.event = c.frames.flatMap JournalFrame.lines := by
  obtain ⟨i, e, fits⟩ := c
  cases i <;> cases e <;> simp [entryLines, frames, JournalFrame.lines]

/-- `mem_service_journal_needs_header`: an absent or empty file needs one, a file that starts with
another line is refused. -/
def journalNeedsHeader (journal : Option Bytes) : Option Bool :=
  match fileLines lineCap (journal.getD []) with
  | [] => some true
  | l :: _ => if l = journalMagic then some false else none

/-- How an append ends: written whole and synced; not opened; or failed after some bytes of the text
reached the file. -/
inductive AppendOutcome
  | done
  | notOpened
  | torn (written : ℕ)
  deriving DecidableEq, Repr

/-- `mem_service_append_journal`: the file afterwards and whether the call succeeded. -/
def appendJournal (journal : Option Bytes) (idempotency : Option IdempotencyRecord)
    (event : Option AuditEvent) (outcome : AppendOutcome) : Option Bytes × Bool :=
  match journalNeedsHeader journal with
  | none => (journal, false)
  | some needsHeader =>
      let text := unlines ((if needsHeader then [journalMagic] else []) ++
        entryLines idempotency event)
      match outcome with
      | .done => (some (journal.getD [] ++ text), true)
      | .notOpened => (journal, false)
      | .torn n => (some (journal.getD [] ++ text.take n), false)

/-- Successful calls, one after the other. -/
def appendAll (journal : Option Bytes) (calls : List JournalCall) : Option (Option Bytes) :=
  calls.foldlM (fun j c =>
    let (j', ok) := appendJournal j c.idempotency c.event .done
    if ok then some j' else none) journal

/-- `MEM_SERVICE_JOURNAL_COMPACTION_THRESHOLD_BYTES`. -/
def journalCompactionThresholdBytes : ℕ := 4096

/-- The file `mem_service_rewrite_journal_header` leaves. -/
def headerOnly : Bytes := unlines [journalMagic]

/-- The journal made of these frames. -/
def journalText (fs : List JournalFrame) : Bytes :=
  unlines (journalMagic :: fs.flatMap JournalFrame.lines)

lemma headerOnly_eq : headerOnly = journalText [] := rfl

/-! ## Loading a journal -/

lemma journalText_eq (fs : List JournalFrame) :
    journalText fs = journalMagic ++ LF :: unlines (fs.flatMap JournalFrame.lines) :=
  unlines_cons _ _

/-- A file that starts with the magic line is loaded line by line. -/
lemma loadJournal_magic (svc : Service) (body : Bytes) :
    loadJournal svc (some (journalMagic ++ LF :: body)) =
      (importStoreLines (svc, .closed) (nonBlank lineCap body)).map Prod.fst := by
  have hmagic : trimLine journalMagic = journalMagic := by decide
  simp only [loadJournal]
  rw [fileLines_line (by decide) (by decide)]
  simp only [hmagic, if_true]
  rfl

lemma nonBlank_frames (fs : List JournalFrame) (rest : Bytes) :
    nonBlank lineCap (unlines (fs.flatMap JournalFrame.lines) ++ rest) =
      readBack (fs.flatMap JournalFrame.lines) ++ nonBlank lineCap rest := by
  refine nonBlank_unlines_fits ?_ rest
  intro l hl
  obtain ⟨f, -, hf⟩ := List.mem_flatMap.mp hl
  exact f.fitsLine hf

lemma importStoreLines_flatMap_lines (fs : List JournalFrame) (svc : Service) :
    importStoreLines (svc, .closed) (readBack (fs.flatMap JournalFrame.lines)) =
      (JournalFrame.applyAll svc fs).map fun svc => (svc, .closed) :=
  importStoreLines_flatMap JournalFrame.lines (fun svc f => f.apply svc) fs
    (fun f _ svc => f.importStoreLines_lines svc) svc

/-- Loading whole frames applies them in order; what follows them is read with no frame open. -/
lemma loadJournal_frames (svc : Service) (fs : List JournalFrame) (rest : Bytes) :
    loadJournal svc (some (journalText fs ++ rest)) =
      (JournalFrame.applyAll svc fs).bind fun svc =>
        (importStoreLines (svc, .closed) (nonBlank lineCap rest)).map Prod.fst := by
  rw [journalText_eq, List.append_assoc, List.cons_append, loadJournal_magic, nonBlank_frames,
    importStoreLines_append, importStoreLines_flatMap_lines]
  cases JournalFrame.applyAll svc fs <;> rfl

lemma loadJournal_journalText (svc : Service) (fs : List JournalFrame) :
    loadJournal svc (some (journalText fs)) = JournalFrame.applyAll svc fs := by
  have := loadJournal_frames svc fs []
  rw [List.append_nil] at this
  rw [this]
  cases JournalFrame.applyAll svc fs <;> rfl

/-! ## Appending to a journal -/

/-- A file that starts with the magic line takes appends at its end. -/
lemma appendJournal_magic (body : Bytes) (i : Option IdempotencyRecord) (e : Option AuditEvent) :
    appendJournal (some (journalMagic ++ LF :: body)) i e .done =
      (some (journalMagic ++ LF :: body ++ unlines (entryLines i e)), true) := by
  have hmagic : trimLine journalMagic = journalMagic := by decide
  have hneeds : journalNeedsHeader (some (journalMagic ++ LF :: body)) = some false := by
    simp only [journalNeedsHeader, Option.getD_some]
    rw [fileLines_line (by decide) (by decide)]
    simp only [hmagic, if_true]
  simp [appendJournal, hneeds]

lemma appendAll_magic (calls : List JournalCall) (body : Bytes) :
    appendAll (some (journalMagic ++ LF :: body)) calls =
      some (some (journalMagic ++ LF :: body ++
        unlines ((calls.flatMap JournalCall.frames).flatMap JournalFrame.lines))) := by
  induction calls generalizing body with
  | nil => simp [appendAll]
  | cons c calls ih =>
      have hstep : appendAll (some (journalMagic ++ LF :: body)) (c :: calls) =
          appendAll (some (journalMagic ++ LF ::
            (body ++ unlines (entryLines c.idempotency c.event)))) calls := by
        simp [appendAll, List.foldlM_cons, appendJournal_magic]
      rw [hstep, ih, c.entryLines_eq]
      simp [List.append_assoc]

/-- The journal of a run of calls on an absent file: the magic line and the calls' frames. -/
lemma appendAll_none {calls : List JournalCall} (hne : calls ≠ []) :
    appendAll none calls = some (some (journalText (calls.flatMap JournalCall.frames))) := by
  obtain ⟨c, calls, rfl⟩ := List.exists_cons_of_ne_nil hne
  have hfirst : appendJournal none c.idempotency c.event .done =
      (some (journalMagic ++ LF :: unlines (entryLines c.idempotency c.event)), true) := by
    simp [appendJournal, journalNeedsHeader, unlines_cons]
  have hstep : appendAll none (c :: calls) =
      appendAll (some (journalMagic ++ LF :: unlines (entryLines c.idempotency c.event))) calls := by
    simp [appendAll, List.foldlM_cons, hfirst]
  rw [hstep, appendAll_magic, journalText_eq, c.entryLines_eq]
  simp [List.append_assoc]

end MemService
