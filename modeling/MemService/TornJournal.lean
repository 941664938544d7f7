import MemService.Journal

/-!
# Torn journals

A crash in the middle of an append leaves a journal that ends inside a frame.  The loader drops a
frame that is open at the end of the file, but it parses every line on the way, and a line that was
cut is parsed like any other.

`loadJournal_cut` says exactly what a cut costs.  The cut leaves whole frames, then whole lines of
one more frame, then the front of a line.  Everything turns on that last piece: if it is empty, or
contains the equals sign of its field, or is a whole `_begin` or `_end` line, the file loads and has
the effect of its whole frames; otherwise the piece is no line of the format and the load fails.
A frame whose last line is whole counts as whole, even when its line feed is missing.

`loadJournal_append_after_tear` is about the second life of such a file.  The loader does not tell
the writer about the open frame and the writer does not truncate it, so the next frame's `_begin`
line stands inside a frame.
-/

open ByteText CNumeral

namespace MemService

/-! ## One cut line -/

/-- The keyword lines of the format. -/
def keywords : List Bytes :=
  [ascii "record_begin", ascii "record_end", ascii "idempotency_begin", ascii "idempotency_end",
    ascii "audit_begin", ascii "audit_end"]

/-- The last piece of a journal can be read: it is empty, it has got past the equals sign of its
field, or it is the whole of a frame's first or last line. -/
def ReadableTail (t : Bytes) : Prop :=
  t = [] ∨ EQ ∈ t ∨ t ∈ [ascii "idempotency_begin", ascii "idempotency_end", ascii "audit_begin",
    ascii "audit_end"]

instance (t : Bytes) : Decidable (ReadableTail t) := inferInstanceAs (Decidable (_ ∨ _ ∨ _))

/-- A line that is neither blank, nor a keyword, nor a field is refused. -/
lemma importStoreLine_unreadable (s : Service × OpenFrame) {t : Bytes} (hne : t ≠ [])
    (heq : EQ ∉ t) (hk : t ∉ keywords) : importStoreLine s t = none := by
  have hparse : parseLineField t = none := by
    simp [parseLineField, splitEq_eq_none_iff.mpr heq]
  simp only [keywords, List.mem_cons, List.not_mem_nil, or_false, not_or] at hk
  obtain ⟨h₁, h₂, h₃, h₄, h₅, h₆⟩ := hk
  unfold importStoreLine
  rw [if_neg hne, if_neg h₁, if_neg h₂, if_neg h₃, if_neg h₄, if_neg h₅, if_neg h₆, hparse]

/-- The front of a frame's first or last line: nothing, the whole line, or no line at all. -/
lemma prefix_marker {b t : Bytes} (hb : b ∈ [ascii "idempotency_begin", ascii "idempotency_end",
    ascii "audit_begin", ascii "audit_end"]) (ht : t <+: b) :
    t = [] ∨ t = b ∨ (t ∉ keywords ∧ EQ ∉ t ∧ trimLine t = t ∧ ¬ ReadableTail t) := by
  have hall : ∀ b ∈ [ascii "idempotency_begin", ascii "idempotency_end", ascii "audit_begin",
      ascii "audit_end"], ∀ t ∈ b.inits,
      t = [] ∨ t = b ∨ (t ∉ keywords ∧ EQ ∉ t ∧ trimLine t = t ∧ ¬ ReadableTail t) := by
    decide +kernel
  exact hall b hb t ((List.mem_inits t b).mpr ht)

/-- The field names of the journal's frames. -/
def journalFieldNames : List String :=
  ["key", "operation", "request_checksum", "status", "response_len", "response_line", "sequence",
    "monotonic_ms", "response_checksum", "idempotency_replay", "session_id", "model_key",
    "artifact_kind", "artifact_id", "idempotency_key", "version", "checksum"]

lemma JournalFrame.name_mem (f : JournalFrame) {p : String × Bytes} (hp : p ∈ f.fields) :
    p.1 ∈ journalFieldNames := by
  cases f with
  | idempotency r h =>
      rcases List.mem_append.mp hp with hp | hp
      · simp only [IdempotencyRecord.fields, List.mem_cons, List.not_mem_nil, or_false] at hp
        rcases hp with rfl | rfl | rfl | rfl | rfl <;> simp [journalFieldNames]
      · obtain ⟨l, -, rfl⟩ := List.mem_map.mp hp
        simp [journalFieldNames]
  | audit e =>
      simp only [fields, AuditEvent.fields, List.mem_cons, List.not_mem_nil, or_false] at hp
      rcases hp with rfl | rfl | rfl | rfl | rfl | rfl | rfl | rfl | rfl | rfl | rfl | rfl | rfl |
        rfl | rfl <;> simp [journalFieldNames]

lemma fieldName_noCR : ∀ n ∈ journalFieldNames, CR ∉ ascii n := by
  decide +kernel

lemma fieldName_noKeyword : ∀ n ∈ journalFieldNames, ∀ k ∈ keywords, ¬ k <+: ascii n := by
  decide +kernel

/-- A front of a field's name is no line. -/
lemma prefix_fieldName {n : String} (hn : n ∈ journalFieldNames) {t : Bytes} (ht : t <+: ascii n)
    (hne : t ≠ []) (heq : EQ ∉ t) : t ∉ keywords ∧ trimLine t = t ∧ ¬ ReadableTail t := by
  have hk : t ∉ keywords := fun h => fieldName_noKeyword n hn t h ht
  have hplain : LF ∉ t := by
    have hall : ∀ n ∈ journalFieldNames, LF ∉ ascii n := by decide +kernel
    exact fun h => hall n hn (ht.subset h)
  refine ⟨hk, (trimLine_eq_self_iff hplain).mpr ?_, ?_⟩
  · intro h
    exact fieldName_noCR n hn (ht.subset (List.mem_of_getLast? h))
  · rintro (h | h | h)
    · exact hne h
    · exact heq h
    · exact hk (by
        simp only [List.mem_cons, List.not_mem_nil, or_false] at h
        rcases h with rfl | rfl | rfl | rfl <;> simp [keywords])

/-! ## One torn frame -/

namespace JournalFrame

/-- The frame as its first line opens it. -/
def blank : JournalFrame → OpenFrame
  | idempotency _ _ => .idempotency {}
  | audit _ => .audit {}

lemma importStoreLine_begin (f : JournalFrame) (svc : Service) :
    importStoreLine (svc, .closed) f.beginLine = some (svc, f.blank) := by
  cases f <;> rfl

lemma beginLine_mem (f : JournalFrame) : f.beginLine ∈ [ascii "idempotency_begin",
    ascii "idempotency_end", ascii "audit_begin", ascii "audit_end"] := by
  cases f <;> simp [beginLine]

lemma endLine_mem (f : JournalFrame) : f.endLine ∈ [ascii "idempotency_begin",
    ascii "idempotency_end", ascii "audit_begin", ascii "audit_end"] := by
  cases f <;> simp [endLine]

lemma readBack_beginLine (f : JournalFrame) : readBack [f.beginLine] = [f.beginLine] := by
  cases f <;> simp only [beginLine] <;> decide

/-- Any number of the frame's fields is read into a frame that stays open. -/
lemma foldlM_fields (f : JournalFrame) {ps qs : List (String × Bytes)} (h : f.fields = ps ++ qs) :
    ∃ o, ps.foldlM (fun o p => fieldStep o (ascii p.1) (trimLine p.2)) f.blank = some o ∧
      o ≠ .closed := by
  have hfull : ∃ o, f.fields.foldlM (fun o p => fieldStep o (ascii p.1) (trimLine p.2))
      f.blank = some o := by
    cases f with
    | idempotency r hr =>
        exact ⟨.idempotency r.stored, by
          rw [blank, foldlM_fieldStep_idempotency, fields, foldlM_idempotencyFields hr,
            Option.map_some]⟩
    | audit e => exact ⟨_, foldlM_fieldStep_audit _ _⟩
  obtain ⟨o, ho⟩ := hfull
  rw [h, List.foldlM_append] at ho
  obtain ⟨o₁, ho₁, -⟩ := Option.bind_eq_some_iff.mp ho
  refine ⟨o₁, ho₁, ?_⟩
  rintro rfl
  cases f with
  | idempotency r hr =>
      rw [blank, foldlM_fieldStep_idempotency] at ho₁
      obtain ⟨r', -, h'⟩ := Option.map_eq_some_iff.mp ho₁
      cases h'
  | audit e =>
      rw [blank, foldlM_fieldStep_audit] at ho₁
      cases ho₁

/-- A shorter value is read wherever a longer one is. -/
lemma fieldStep_shorter {o o' : OpenFrame} {n v w : Bytes} (h : fieldStep o n v = some o')
    (hw : w.length ≤ v.length) : ∃ o'', fieldStep o n w = some o'' := by
  cases o with
  | idempotency r =>
      simp only [fieldStep] at h ⊢
      obtain ⟨r', hr', -⟩ := Option.map_eq_some_iff.mp h
      have : ∃ r'', parseStoreIdempotencyField r n w = some r'' := by
        unfold parseStoreIdempotencyField at hr' ⊢
        repeat' split
        all_goals first
          | exact ⟨_, rfl⟩
          | skip
        rename_i h₁ h₂ h₃ h₄ h₅ h₆
        rw [if_neg h₁, if_neg h₂, if_neg h₃, if_neg h₄, if_neg h₅, if_pos h₆] at hr'
        unfold appendIdempotencyResponseLine at hr' ⊢
        split at hr'
        · cases hr'
        · rename_i hlt
          rw [if_neg (by omega)]
          exact ⟨_, rfl⟩
      obtain ⟨r'', hr''⟩ := this
      exact ⟨.idempotency r'', by rw [hr'', Option.map_some]⟩
  | record r => exact ⟨_, rfl⟩
  | audit e => exact ⟨_, rfl⟩
  | closed => exact ⟨_, rfl⟩

/-- The frame's lines up to some field leave it open, with the service untouched. -/
lemma importStoreLines_front (f : JournalFrame) (svc : Service) {ps qs : List (String × Bytes)}
    (h : f.fields = ps ++ qs) :
    ∃ o, importStoreLines (svc, .closed)
        (readBack (f.beginLine :: ps.map fun p => fieldLine p.1 p.2)) = some (svc, o) ∧
      ps.foldlM (fun o p => fieldStep o (ascii p.1) (trimLine p.2)) f.blank = some o ∧
      o ≠ .closed := by
  obtain ⟨o, ho, hopen⟩ := f.foldlM_fields h
  refine ⟨o, ?_, ho, hopen⟩
  rw [← List.singleton_append, readBack_append, f.readBack_beginLine, List.singleton_append,
    importStoreLines_cons, f.importStoreLine_begin, Option.bind_some,
    importStoreLines_fields svc fun p hp => f.fieldFits (by rw [h]; simp [hp]), ho, Option.map_some]

/-- What reading whole lines of a frame and the front of one more line gives, unless that is the
whole frame: a frame left open, or a refusal. -/
lemma importStoreLines_torn (f : JournalFrame) (svc : Service) {done rest : List Bytes}
    {l t : Bytes} (hls : f.lines = done ++ l :: rest) (ht : t <+: l)
    (hnot : ¬ (rest = [] ∧ t = l)) :
    if ReadableTail t then
      ∃ o, importStoreLines (svc, .closed) (readBack done ++ nonBlank lineCap t) = some (svc, o)
    else importStoreLines (svc, .closed) (readBack done ++ nonBlank lineCap t) = none := by
  have hfits : FitsLine l := f.fitsLine (by rw [hls]; simp)
  have hlast : nonBlank lineCap t = readBack [t] :=
    nonBlank_last (hfits.1.of_subset ht.subset) (Nat.le_trans ht.length_le hfits.2)
  -- an unreadable last piece is refused in every state
  have hbad : t ≠ [] → t ∉ keywords → EQ ∉ t → trimLine t = t → ¬ ReadableTail t → ∀ s,
      importStoreLines s (nonBlank lineCap t) = none := by
    intro hne hk heq htrim _ s
    have hrb : readBack [t] = [t] := by simp [readBack, htrim, hne]
    rw [hlast, hrb, importStoreLines_cons, importStoreLine_unreadable s hne heq hk]
    rfl
  have hnil : t = [] → nonBlank lineCap t = [] := by
    rintro rfl
    rfl
  rw [f.lines_eq, List.cons_append] at hls
  cases done with
  | nil =>
      -- the cut is in the first line
      obtain ⟨rfl, -⟩ := List.cons.inj hls
      rcases prefix_marker f.beginLine_mem ht with h | h | ⟨hk, heq, htrim, hr⟩
      · rw [if_pos (.inl h), hnil h]
        exact ⟨.closed, rfl⟩
      · rw [if_pos (.inr (.inr (h ▸ f.beginLine_mem))), hlast, h, f.readBack_beginLine]
        exact ⟨f.blank, by
          simp [readBack, importStoreLines_cons, f.importStoreLine_begin]⟩
      · rw [if_neg hr, importStoreLines_append]
        have hne : t ≠ [] := fun h => hr (.inl h)
        exact Option.bind_eq_none_iff.mpr fun s _ => hbad hne hk heq htrim hr s
  | cons b done =>
      obtain ⟨rfl, htail⟩ := List.cons.inj (hls.trans (List.cons_append ..))
      rcases List.append_eq_append_iff.mp htail with ⟨as, hdone, has⟩ | ⟨cs, hfields, hcs⟩
      · -- every field is whole: the cut is in the last line
        cases as with
        | cons a as => simp at has
        | nil =>
            obtain ⟨rfl, rfl⟩ := List.cons.inj has
            rw [List.append_nil] at hdone
            subst hdone
            obtain ⟨o, ho, -, -⟩ := f.importStoreLines_front svc (List.append_nil f.fields).symm
            rcases prefix_marker f.endLine_mem ht with h | h | ⟨hk, heq, htrim, hr⟩
            · rw [if_pos (.inl h), hnil h, List.append_nil]
              exact ⟨o, ho⟩
            · exact absurd ⟨rfl, h⟩ hnot
            · have hne : t ≠ [] := fun h => hr (.inl h)
              rw [if_neg hr, importStoreLines_append, ho, Option.bind_some,
                hbad hne hk heq htrim hr]
      · cases cs with
        | nil =>
            simp only [List.nil_append] at hcs
            obtain ⟨rfl, rfl⟩ := List.cons.inj hcs
            rw [List.append_nil] at hfields
            subst hfields
            obtain ⟨o, ho, -, -⟩ := f.importStoreLines_front svc (List.append_nil f.fields).symm
            rcases prefix_marker f.endLine_mem ht with h | h | ⟨hk, heq, htrim, hr⟩
            · rw [if_pos (.inl h), hnil h, List.append_nil]
              exact ⟨o, ho⟩
            · exact absurd ⟨rfl, h⟩ hnot
            · have hne : t ≠ [] := fun h => hr (.inl h)
              rw [if_neg hr, importStoreLines_append, ho, Option.bind_some,
                hbad hne hk heq htrim hr]
        | cons c cs =>
            -- the cut is in the line of field `q`
            obtain ⟨rfl, -⟩ := List.cons.inj hcs
            obtain ⟨ps, qs', hsplit, rfl, hqs⟩ := List.map_eq_append_iff.mp hfields
            obtain ⟨q, qs, rfl, hq, -⟩ := List.map_eq_cons_iff.mp hqs
            subst hq
            obtain ⟨o, ho, hfold, hopen⟩ := f.importStoreLines_front svc hsplit
            have hsplit' : f.fields = (ps ++ [q]) ++ qs := by
              rw [hsplit]
              simp
            obtain ⟨o', ho', -⟩ := f.foldlM_fields hsplit'
            rw [List.foldlM_append, hfold] at ho'
            have hq : q ∈ f.fields := by
              rw [hsplit]
              simp
            have hqf := f.fieldFits hq
            have hfront := prefix_field ht hqf.1.2.1
            rw [importStoreLines_append, ho, Option.bind_some]
            by_cases heq : EQ ∈ t
            · rw [if_pos heq] at hfront
              obtain ⟨w, hw, rfl⟩ := hfront
              rw [if_pos (.inr (.inl heq)), hlast]
              have hrb : readBack [ascii q.1 ++ EQ :: w] = [ascii q.1 ++ EQ :: trimLine w] := by
                simp [readBack, trimLine_field]
              have hstep : fieldStep o (ascii q.1) (trimLine q.2) = some o' := by
                simpa using ho'
              obtain ⟨o'', ho''⟩ := fieldStep_shorter hstep (trimLine_isPrefix hw).length_le
              refine ⟨o'', ?_⟩
              rw [hrb, importStoreLines_cons, importStoreLine_field _ hqf.1
                (Nat.le_trans (trimLine_isPrefix hw).length_le hqf.length_trim_le), ho'']
              rfl
            · rw [if_neg heq] at hfront
              by_cases hne : t = []
              · rw [if_pos (.inl hne), hnil hne]
                exact ⟨o, rfl⟩
              · obtain ⟨hk, htrim, hr⟩ := prefix_fieldName (f.name_mem hq) hfront hne heq
                rw [if_neg hr, hbad hne hk heq htrim hr]

lemma two_le_length (f : JournalFrame) : 2 ≤ (unlines f.lines).length := by
  rw [f.lines_eq, List.cons_append, unlines_cons]
  simp only [List.length_append, List.length_cons]
  have : 1 ≤ f.beginLine.length := by cases f <;> simp only [beginLine] <;> decide
  omega

end JournalFrame

/-! ## A cut journal -/

/-- The frames that are whole among the first `p` bytes of their text; the line feed after the last
line of a frame may be missing. -/
def completeBefore : List JournalFrame → ℕ → List JournalFrame
  | [], _ => []
  | f :: fs, p =>
      if (unlines f.lines).length ≤ p + 1 then
        f :: completeBefore fs (p - (unlines f.lines).length)
      else []

lemma completeBefore_zero (fs : List JournalFrame) : completeBefore fs 0 = [] := by
  cases fs with
  | nil => rfl
  | cons f fs =>
      have := f.two_le_length
      rw [completeBefore, if_neg (by omega)]

/-- Reading a cut body with no frame open. -/
lemma importStoreLines_cut (fs : List JournalFrame) (svc : Service) (p : ℕ) :
    (importStoreLines (svc, .closed)
      (nonBlank lineCap ((unlines (fs.flatMap JournalFrame.lines)).take p))).map Prod.fst =
      if ReadableTail (lastPiece ((unlines (fs.flatMap JournalFrame.lines)).take p)) then
        JournalFrame.applyAll svc (completeBefore fs p)
      else none := by
  induction fs generalizing svc p with
  | nil =>
      have hr : ReadableTail (lastPiece []) := .inl rfl
      simp only [List.flatMap_nil, unlines_nil, List.take_nil, hr, if_true, nonBlank_nil,
        importStoreLines_nil, Option.map_some, completeBefore]
      rfl
  | cons f fs ih =>
      rw [List.flatMap_cons, unlines_append]
      rcases Nat.lt_or_ge p (unlines f.lines).length with hlt | hge
      · -- the cut is in the first frame
        rw [List.take_append_of_le_length (Nat.le_of_lt hlt)]
        obtain ⟨done, l, rest, t, hls, ht, htake, hiff⟩ := take_unlines hlt
        have hl : FitsLine l := f.fitsLine (by rw [hls]; simp)
        have hlf : LF ∉ t := fun h => hl.1.lf (ht.subset h)
        have hfits : ∀ m ∈ done, FitsLine m := fun m hm => f.fitsLine (by rw [hls]; simp [hm])
        rw [htake, lastPiece_unlines, lastPiece_of_notMem hlf, nonBlank_unlines_fits hfits]
        by_cases hwhole : rest = [] ∧ t = l
        · obtain ⟨rfl, rfl⟩ := hwhole
          have hp := hiff.mpr ⟨rfl, rfl⟩
          have hend : t = f.endLine := by
            have hlasts := congrArg List.getLast? hls
            rw [f.lines_eq, List.getLast?_concat, List.getLast?_concat] at hlasts
            exact (Option.some.inj hlasts).symm
          have hlast : nonBlank lineCap t = readBack [t] := nonBlank_last hl.1 hl.2
          have hcomplete : completeBefore (f :: fs) p = [f] := by
            rw [completeBefore, if_pos (by omega), Nat.sub_eq_zero_of_le (by omega),
              completeBefore_zero]
          rw [if_pos (.inr (.inr (hend ▸ f.endLine_mem))), hlast, ← readBack_append, ← hls,
            f.importStoreLines_lines, hcomplete, JournalFrame.applyAll, List.foldlM_cons]
          cases f.apply svc <;> rfl
        · have hne : ¬ p + 1 = (unlines f.lines).length := fun h => hwhole (hiff.mp h)
          have htorn := f.importStoreLines_torn svc hls ht hwhole
          have hcomplete : completeBefore (f :: fs) p = [] := by
            rw [completeBefore, if_neg (by omega)]
          rw [hcomplete]
          split
          · rename_i hr
            rw [if_pos hr] at htorn
            obtain ⟨o, ho⟩ := htorn
            rw [ho]
            rfl
          · rename_i hr
            rw [if_neg hr] at htorn
            rw [htorn]
            rfl
      · -- the first frame is whole
        have hcut : ((unlines f.lines) ++ unlines (fs.flatMap JournalFrame.lines)).take p =
            unlines f.lines ++
              (unlines (fs.flatMap JournalFrame.lines)).take (p - (unlines f.lines).length) := by
          rw [List.take_append, List.take_of_length_le hge]
        have hcomplete : completeBefore (f :: fs) p =
            f :: completeBefore fs (p - (unlines f.lines).length) := by
          rw [completeBefore, if_pos (by omega)]
        rw [hcut, lastPiece_unlines, nonBlank_unlines_fits fun m hm => f.fitsLine hm,
          importStoreLines_append, f.importStoreLines_lines, hcomplete,
          JournalFrame.applyAll, List.foldlM_cons]
        cases f.apply svc with
        | none => simp
        | some svc' => exact ih svc' _

lemma completeBefore_isPrefix (fs : List JournalFrame) (p : ℕ) : completeBefore fs p <+: fs := by
  induction fs generalizing p with
  | nil => exact List.prefix_refl _
  | cons f fs ih =>
      rw [completeBefore]
      split
      · exact List.prefix_cons_inj f |>.mpr (ih _)
      · exact List.nil_prefix

/-- Where all frames can be applied, the first ones can. -/
lemma JournalFrame.applyAll_prefix {fs gs : List JournalFrame} {svc : Service} (h : gs <+: fs)
    (hall : applyAll svc fs ≠ none) : applyAll svc gs ≠ none := by
  obtain ⟨rest, rfl⟩ := h
  intro hnone
  apply hall
  unfold applyAll at hnone ⊢
  rw [List.foldlM_append, hnone]
  rfl

lemma take_journalText (fs : List JournalFrame) {k : ℕ} (hk : journalMagic.length < k) :
    (journalText fs).take k = journalMagic ++ LF ::
      (unlines (fs.flatMap JournalFrame.lines)).take (k - (journalMagic.length + 1)) := by
  have hsplit : ∀ body : Bytes, journalMagic ++ LF :: body = (journalMagic ++ [LF]) ++ body := by
    simp
  have hlen : k = (journalMagic ++ [LF]).length + (k - (journalMagic.length + 1)) := by
    simp only [List.length_append, List.length_singleton]
    omega
  rw [journalText_eq, hsplit (unlines _), hsplit (List.take _ _)]
  conv_lhs => rw [hlen]
  exact List.take_length_add_append _

/-- **Torn-journal recovery.**  Take the journal of any run of append calls and cut it anywhere after
its magic line.  If the last piece can be read, loading the cut file is loading the journal of the
frames that are whole before the cut, so the partial frame has no effect, and the load succeeds if
the whole journal's does; if the piece cannot be read, the load fails. -/
theorem loadJournal_cut (svc : Service) (calls : List JournalCall) {text : Bytes}
    (htext : appendAll none calls = some (some text)) (k : ℕ) (hk : journalMagic.length < k) :
    (ReadableTail (lastPiece (text.take k)) →
      loadJournal svc (some (text.take k)) =
        loadJournal svc (some (journalText (completeBefore (calls.flatMap JournalCall.frames)
          (k - (journalMagic.length + 1))))) ∧
      (loadJournal svc (some text) ≠ none → loadJournal svc (some (text.take k)) ≠ none)) ∧
    (¬ ReadableTail (lastPiece (text.take k)) → loadJournal svc (some (text.take k)) = none) := by
  have hne : calls ≠ [] := by
    rintro rfl
    cases htext
  rw [appendAll_none hne] at htext
  obtain rfl : journalText (calls.flatMap JournalCall.frames) = text := by
    simpa using htext
  rw [take_journalText _ hk, loadJournal_magic, lastPiece_lf, importStoreLines_cut,
    loadJournal_journalText, loadJournal_journalText]
  constructor
  · intro hread
    rw [if_pos hread]
    exact ⟨rfl, JournalFrame.applyAll_prefix (completeBefore_isPrefix _ _)⟩
  · intro hread
    rw [if_neg hread]

/-- The audit event of a `PUT_OBJECT` request without fields. -/
def putEvent (sequence : UInt64) : AuditEvent :=
  { sequence := sequence, operation := WireOperation.putObject.code }

/-- The call that writes it. -/
def putCall (sequence : UInt64) : JournalCall where
  idempotency := none
  event := some (putEvent sequence)
  fits := by simp

/-- Cut inside its `audit_begin` line, a journal of one frame is refused. -/
theorem loadJournal_cut_in_keyword :
    ∃ text k, appendAll none [putCall 1] = some (some text) ∧ journalMagic.length < k ∧
      loadJournal Service.fresh (some text) ≠ none ∧
      loadJournal Service.fresh (some (text.take k)) = none :=
  ⟨journalText (putCall 1).frames, journalMagic.length + 4, by decide +kernel, by decide +kernel,
    by decide +kernel, by decide +kernel⟩

/-- Cut after its `audit_begin` line, the same journal loads and the frame has no effect. -/
theorem loadJournal_cut_after_begin :
    loadJournal Service.fresh (some ((journalText (putCall 1).frames).take
      (journalMagic.length + 13))) = some Service.fresh := by
  have htext : appendAll none [putCall 1] = some (some (journalText (putCall 1).frames)) := by
    decide +kernel
  have hcut := loadJournal_cut Service.fresh [putCall 1] htext (journalMagic.length + 13)
    (by decide +kernel)
  rw [(hcut.1 (by decide +kernel)).1]
  decide +kernel

/-! ## Appending behind a tear -/

/-- A frame of which some lines, but not all, were written leaves the import inside a frame. -/
lemma JournalFrame.importStoreLines_open (f : JournalFrame) (svc : Service) {j : ℕ} (hpos : j ≠ 0)
    (hj : j < f.lines.length) :
    ∃ o, importStoreLines (svc, .closed) (readBack (f.lines.take j)) = some (svc, o) ∧
      o ≠ .closed := by
  obtain ⟨i, rfl⟩ := Nat.exists_eq_succ_of_ne_zero hpos
  have hi : i ≤ (f.fields.map fun p => fieldLine p.1 p.2).length := by
    rw [f.lines_eq] at hj
    simp only [List.cons_append, List.length_cons, List.length_append, List.length_nil] at hj
    omega
  have htake : f.lines.take (i + 1) =
      f.beginLine :: ((f.fields.take i).map fun p => fieldLine p.1 p.2) := by
    rw [f.lines_eq, List.cons_append, List.take_succ_cons, List.take_append_of_le_length hi,
      List.map_take]
  obtain ⟨o, ho, -, hopen⟩ :=
    f.importStoreLines_front svc (List.take_append_drop i f.fields).symm
  exact ⟨o, by rw [htake]; exact ho, hopen⟩

/-- Inside a frame, the first line of another frame is refused. -/
lemma JournalFrame.importStoreLine_begin_open (f : JournalFrame) (svc : Service) {o : OpenFrame}
    (ho : o ≠ .closed) : importStoreLine (svc, o) f.beginLine = none := by
  cases f <;> cases o <;> first | exact absurd rfl ho | rfl

/-- Frames read inside a frame are refused, unless there are none. -/
lemma importStoreLines_frames_open (fs : List JournalFrame) (svc : Service) {o : OpenFrame}
    (ho : o ≠ .closed) (hne : fs ≠ []) :
    importStoreLines (svc, o) (readBack (fs.flatMap JournalFrame.lines)) = none := by
  obtain ⟨f, fs, rfl⟩ := List.exists_cons_of_ne_nil hne
  rw [List.flatMap_cons, f.lines_eq, List.cons_append, List.cons_append,
    ← List.singleton_append, readBack_append, f.readBack_beginLine, List.singleton_append,
    importStoreLines_cons, f.importStoreLine_begin_open svc ho]
  rfl

/-- The journal on which the frames `fs` are whole and of `f` the first `j` lines were written. -/
def tornText (fs : List JournalFrame) (f : JournalFrame) (j : ℕ) : Bytes :=
  journalText fs ++ unlines (f.lines.take j)

/-- **Appending behind a tear.**  The extended journal loads, with the effect of the frames before
the tear and of every later frame, exactly when the tear left no frame open or nothing was appended,
and the tables have room for these frames. -/
theorem loadJournal_append_after_tear (svc : Service) (fs : List JournalFrame) (f : JournalFrame)
    (j : ℕ) (hj : j < f.lines.length) (later : List JournalCall) :
    ∃ ext, appendAll (some (tornText fs f j)) later = some (some ext) ∧
      ((∃ svc', JournalFrame.applyAll svc (fs ++ later.flatMap JournalCall.frames) = some svc' ∧
          loadJournal svc (some ext) = some svc') ↔
        (j = 0 ∨ later.flatMap JournalCall.frames = []) ∧
          JournalFrame.applyAll svc (fs ++ later.flatMap JournalCall.frames) ≠ none) := by
  set gs := later.flatMap JournalCall.frames with hgs
  have htorn : tornText fs f j = journalMagic ++ LF ::
      (unlines (fs.flatMap JournalFrame.lines) ++ unlines (f.lines.take j)) := by
    rw [tornText, journalText_eq, List.append_assoc, List.cons_append]
  refine ⟨journalText fs ++ (unlines (f.lines.take j) ++ unlines (gs.flatMap JournalFrame.lines)),
    ?_, ?_⟩
  · rw [htorn, appendAll_magic, ← htorn, tornText, List.append_assoc]
  have hload : loadJournal svc (some (journalText fs ++
      (unlines (f.lines.take j) ++ unlines (gs.flatMap JournalFrame.lines)))) =
      (JournalFrame.applyAll svc fs).bind fun svc =>
        (importStoreLines (svc, .closed) (readBack (f.lines.take j) ++
          readBack (gs.flatMap JournalFrame.lines))).map Prod.fst := by
    have hrest := nonBlank_frames gs []
    rw [List.append_nil, nonBlank_nil, List.append_nil] at hrest
    rw [loadJournal_frames, nonBlank_unlines_fits fun l hl =>
      f.fitsLine (List.mem_of_mem_take hl), hrest]
  have hsplit : JournalFrame.applyAll svc (fs ++ gs) =
      (JournalFrame.applyAll svc fs).bind fun svc => JournalFrame.applyAll svc gs := by
    rw [JournalFrame.applyAll, List.foldlM_append]
    rfl
  have hclosed : ∀ svc : Service, (importStoreLines (svc, .closed)
      (readBack (gs.flatMap JournalFrame.lines))).map Prod.fst = JournalFrame.applyAll svc gs := by
    intro svc
    rw [importStoreLines_flatMap_lines]
    cases JournalFrame.applyAll svc gs <;> rfl
  rw [hload, hsplit]
  cases hfs : JournalFrame.applyAll svc fs with
  | none => simp
  | some svc₁ =>
      have hempty : readBack [] = [] := rfl
      simp only [Option.bind_some]
      rw [importStoreLines_append]
      by_cases hzero : j = 0
      · subst hzero
        simp only [List.take_zero, hempty, importStoreLines_nil, Option.bind_some, hclosed,
          true_or, true_and, and_self]
        exact Option.ne_none_iff_exists'.symm
      · obtain ⟨o, ho, hopen⟩ := f.importStoreLines_open svc₁ hzero hj
        rw [ho, Option.bind_some]
        by_cases hnil : gs = []
        · simp [hnil, JournalFrame.applyAll, hempty]
        · rw [importStoreLines_frames_open gs svc₁ hopen hnil]
          simp [hzero, hnil]

/-- A journal of one frame, torn after its first line: the next append makes the file unloadable. -/
theorem loadJournal_append_after_open_frame :
    ∃ ext,
      loadJournal Service.fresh (some (tornText [] (.audit (putEvent 1)) 1)) = some Service.fresh ∧
      appendAll (some (tornText [] (.audit (putEvent 1)) 1)) [putCall 1] = some (some ext) ∧
      loadJournal Service.fresh (some ext) = none :=
  ⟨tornText [] (.audit (putEvent 1)) 1 ++ unlines (saveAuditEvent (putEvent 1)),
    by decide +kernel, by decide +kernel, by decide +kernel⟩

/-- Torn between two frames, the journal takes the next append. -/
theorem loadJournal_append_after_whole_frames :
    0 < (JournalFrame.audit (putEvent 2)).lines.length ∧
      ∃ ext svc',
        appendAll (some (tornText (putCall 1).frames (.audit (putEvent 2)) 0)) [putCall 2] =
          some (some ext) ∧
        loadJournal Service.fresh (some ext) = some svc' ∧ svc'.auditNextSequence = 3 := by
  have hpos : 0 < (JournalFrame.audit (putEvent 2)).lines.length := by decide +kernel
  obtain ⟨ext, hext, hiff⟩ := loadJournal_append_after_tear Service.fresh (putCall 1).frames
    (.audit (putEvent 2)) 0 hpos [putCall 2]
  obtain ⟨svc', happly, hload⟩ := hiff.mpr ⟨.inl rfl, by decide +kernel⟩
  refine ⟨hpos, ext, svc', hext, hload, ?_⟩
  have hnext : (JournalFrame.applyAll Service.fresh ((putCall 1).frames ++
      [putCall 2].flatMap JournalCall.frames)).map Service.auditNextSequence = some 3 := by
    decide +kernel
  rw [happly] at hnext
  exact Option.some.inj hnext

end MemService
