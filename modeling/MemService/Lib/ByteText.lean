import Mathlib.Data.FinEnum
import Mathlib.Data.List.Basic
import Mathlib.Data.List.DropRight
import Mathlib.Data.List.TakeDrop
import Mathlib.Tactic.Lemma

/-!
# Byte text: lines, line buffers and line ends

Text as a C program sees it: lists of bytes, cut into lines at `LF`.

Two readers are modelled.  `lines` is the in-memory reader, a cursor that jumps from one `LF` to
the next with `strchr` and stops at the end of the string.  `chunks cap` is the file reader, a loop
of `fgets` into a buffer that takes `cap` bytes: a chunk ends after an `LF`, or when the buffer is
full, or at the end of the file.  `trimLine` removes the line end, which is every trailing `LF` and
`CR`, and `nonBlank cap` is the list of lines a "trim, skip when empty" loop over the file works on.

The facts about both readers are *prefix* facts: what happens to a line that is known to be
followed by an `LF`.  `nonBlank_line` is the one a text writer's round trip is assembled from; it
covers a line that fills the buffer exactly, whose `LF` then arrives as a chunk of its own and is
skipped as blank.
-/

/-- Byte strings. -/
abbrev Bytes := List UInt8

namespace ByteText

/-! ## Bytes -/

/-- The string terminator. -/
def NUL : UInt8 := 0
/-- Line feed. -/
def LF : UInt8 := 10
/-- Carriage return. -/
def CR : UInt8 := 13
/-- The equals sign, which parts a field's name from its value. -/
def EQ : UInt8 := 61

/-- The bytes of an ASCII literal. -/
def ascii (s : String) : Bytes := s.toByteArray.data.toList

/-- A text no reader stops inside: it has no terminator and no line feed. -/
def Plain (s : Bytes) : Prop := ∀ b ∈ s, b ≠ NUL ∧ b ≠ LF

-- by the list, not by the 256 bytes
instance (s : Bytes) : Decidable (Plain s) := List.decidableBAll _ s

lemma Plain.lf {s : Bytes} (h : Plain s) : LF ∉ s := fun hm => (h LF hm).2 rfl

lemma Plain.append {s t : Bytes} (hs : Plain s) (ht : Plain t) : Plain (s ++ t) := by
  intro b hb
  rcases List.mem_append.mp hb with h | h
  · exact hs b h
  · exact ht b h

lemma Plain.of_subset {s t : Bytes} (h : Plain t) (hst : s ⊆ t) : Plain s :=
  fun b hb => h b (hst hb)

lemma plain_nil : Plain [] := by simp [Plain]

/-- What a C function sees of a buffer: the bytes in front of the first terminator. -/
def cstr (s : Bytes) : Bytes := s.takeWhile (· ≠ NUL)

lemma cstr_eq_self {s : Bytes} (h : NUL ∉ s) : cstr s = s := by
  rw [cstr, List.takeWhile_eq_self_iff]
  intro b hb
  simpa using fun h0 : b = NUL => h (h0 ▸ hb)

lemma Plain.nul {s : Bytes} (h : Plain s) : NUL ∉ s := fun hm => (h NUL hm).1 rfl

/-! ## Lines of a string -/

/-- The lines a `strchr` cursor visits: the pieces between line feeds, without an empty piece
after the last one. -/
def lines : Bytes → List Bytes
  | [] => []
  | b :: s =>
      if b = LF then [] :: lines s
      else
        match lines s with
        | [] => [[b]]
        | l :: ls => (b :: l) :: ls

@[simp] lemma lines_nil : lines [] = [] := rfl

lemma lines_line {l : Bytes} (hl : LF ∉ l) (rest : Bytes) :
    lines (l ++ LF :: rest) = l :: lines rest := by
  induction l with
  | nil => simp [lines]
  | cons b l ih =>
      have hb : b ≠ LF := fun h => hl (by simp [h])
      have hl' : LF ∉ l := fun h => hl (by simp [h])
      simp [lines, hb, ih hl']

/-- The text of a list of lines, each followed by a line feed. -/
def unlines (ls : List Bytes) : Bytes := (ls.map (· ++ [LF])).flatten

@[simp] lemma unlines_nil : unlines [] = [] := rfl

lemma unlines_cons (l : Bytes) (ls : List Bytes) : unlines (l :: ls) = l ++ LF :: unlines ls := by
  simp [unlines]

@[simp] lemma unlines_append (ls ms : List Bytes) :
    unlines (ls ++ ms) = unlines ls ++ unlines ms := by
  simp [unlines]

lemma lines_unlines {ls : List Bytes} (h : ∀ l ∈ ls, LF ∉ l) (rest : Bytes) :
    lines (unlines ls ++ rest) = ls ++ lines rest := by
  induction ls with
  | nil => rfl
  | cons l ls ih =>
      rw [unlines_cons, List.append_assoc, List.cons_append, lines_line (h l (by simp)),
        ih fun m hm => h m (by simp [hm])]
      rfl

/-- A text is the lines of its cursor, with the line feed of the last one restored when it is
missing. -/
lemma unlines_lines (s : Bytes) :
    unlines (lines s) = if s = [] ∨ s.getLast? = some LF then s else s ++ [LF] := by
  induction s with
  | nil => simp
  | cons b s ih =>
      by_cases hs : s = []
      · subst hs
        by_cases hb : b = LF <;> simp [lines, hb, unlines]
      · have hlast : (b :: s).getLast? = s.getLast? := by
          obtain ⟨c, s', rfl⟩ := List.exists_cons_of_ne_nil hs
          exact List.getLast?_cons_cons
        rw [hlast]
        simp only [hs, false_or, reduceCtorEq] at ih ⊢
        by_cases hb : b = LF
        · have hu : unlines (lines (b :: s)) = b :: unlines (lines s) := by
            simp [lines, hb, unlines_cons]
          rw [hu, ih]
          split <;> simp
        · have hne : lines s ≠ [] := by
            intro h0
            rw [h0] at ih
            split at ih
            · exact hs ih.symm
            · simp at ih
          obtain ⟨l, ls, hl⟩ := List.exists_cons_of_ne_nil hne
          have hu : unlines (lines (b :: s)) = b :: unlines (lines s) := by
            simp [lines, hb, hl, unlines_cons]
          rw [hu, ih]
          split <;> simp

lemma unlines_eq_nil_iff {ls : List Bytes} : unlines ls = [] ↔ ls = [] := by
  cases ls <;> simp [unlines_cons]

/-- A text of lines, cut anywhere: whole lines, then the front of one more line.  The cut takes the
text's last byte alone exactly when it leaves the whole last line. -/
lemma take_unlines {ls : List Bytes} {p : ℕ} (hp : p < (unlines ls).length) :
    ∃ done l rest t, ls = done ++ l :: rest ∧ t <+: l ∧ (unlines ls).take p = unlines done ++ t ∧
      (p + 1 = (unlines ls).length ↔ rest = [] ∧ t = l) := by
  induction ls generalizing p with
  | nil => simp at hp
  | cons l ls ih =>
      have hlen : (unlines (l :: ls)).length = l.length + 1 + (unlines ls).length := by
        rw [unlines_cons]
        simp only [List.length_append, List.length_cons]
        omega
      rcases Nat.lt_or_ge p (l.length + 1) with hlt | hge
      · refine ⟨[], l, ls, l.take p, rfl, List.take_prefix _ _, ?_, ?_⟩
        · rw [unlines_cons, List.take_append_of_le_length (by omega)]
          rfl
        · have hnil : (unlines ls).length = 0 ↔ ls = [] := by
            rw [List.length_eq_zero_iff, unlines_eq_nil_iff]
          rw [hlen, ← hnil, List.take_eq_self_iff]
          omega
      · obtain ⟨done, m, rest, t, rfl, ht, htake, hiff⟩ := ih (p := p - (l.length + 1)) (by omega)
        refine ⟨l :: done, m, rest, t, rfl, ht, ?_, ?_⟩
        · have hsplit : unlines (l :: (done ++ m :: rest)) =
              (l ++ [LF]) ++ unlines (done ++ m :: rest) := by simp [unlines_cons]
          have hcut : p = (l ++ [LF]).length + (p - (l.length + 1)) := by
            simp only [List.length_append, List.length_singleton]
            omega
          rw [hsplit, hcut, List.take_length_add_append, htake]
          simp [unlines_cons]
        · rw [← hiff]
          omega

/-- What stands after the last line feed. -/
def lastPiece : Bytes → Bytes
  | [] => []
  | b :: s => if LF ∈ b :: s then lastPiece s else b :: s

lemma lastPiece_of_notMem {s : Bytes} (h : LF ∉ s) : lastPiece s = s := by
  cases s with
  | nil => rfl
  | cons b s => rw [lastPiece, if_neg h]

lemma lastPiece_lf (s t : Bytes) : lastPiece (s ++ LF :: t) = lastPiece t := by
  induction s with
  | nil => simp [lastPiece]
  | cons b s ih =>
      rw [List.cons_append, lastPiece, if_pos (by simp)]
      exact ih

lemma lastPiece_unlines (ls : List Bytes) (t : Bytes) :
    lastPiece (unlines ls ++ t) = lastPiece t := by
  induction ls with
  | nil => rfl
  | cons l ls ih => rw [unlines_cons, List.append_assoc, List.cons_append, lastPiece_lf, ih]

lemma lf_notMem_of_mem_lines {s l : Bytes} (h : l ∈ lines s) : LF ∉ l := by
  induction s generalizing l with
  | nil => simp at h
  | cons b s ih =>
      unfold lines at h
      split at h
      · rcases List.mem_cons.mp h with rfl | h
        · simp
        · exact ih h
      · rename_i hb
        have hcons : ∀ l', LF ∉ l' → LF ∉ b :: l' := by
          intro l' hl' hm
          rcases List.mem_cons.mp hm with h' | h'
          · exact hb h'.symm
          · exact hl' h'
        split at h
        · simp only [List.mem_singleton] at h
          subst h
          exact hcons [] (by simp)
        · rename_i l₀ ls heq
          rcases List.mem_cons.mp h with rfl | h
          · exact hcons l₀ (ih (by simp [heq]))
          · exact ih (by simp [heq, h])

lemma subset_of_mem_lines {s l : Bytes} (h : l ∈ lines s) : l ⊆ s := by
  induction s generalizing l with
  | nil => simp at h
  | cons b s ih =>
      unfold lines at h
      split at h
      · rcases List.mem_cons.mp h with rfl | h
        · simp
        · exact List.Subset.trans (ih h) (by simp)
      · split at h
        · simp only [List.mem_singleton] at h
          subst h
          simp
        · rename_i l₀ ls heq
          rcases List.mem_cons.mp h with rfl | h
          · exact List.cons_subset_cons b (ih (by simp [heq]))
          · exact List.Subset.trans (ih (by simp [heq, h])) (by simp)

/-! ## Line ends -/

/-- Is `b` a byte of a line end? -/
def isEol (b : UInt8) : Bool := b == LF || b == CR

/-- Remove every trailing `LF` and `CR`. -/
def trimLine (l : Bytes) : Bytes := l.rdropWhile isEol

/-- A line whose end the trimmer leaves alone: its last byte is no `CR`. -/
def NoTrailingCR (l : Bytes) : Prop := l.getLast? ≠ some CR

instance (l : Bytes) : Decidable (NoTrailingCR l) := inferInstanceAs (Decidable (_ ≠ _))

@[simp] lemma trimLine_nil : trimLine [] = [] := rfl

@[simp] lemma trimLine_lf (l : Bytes) : trimLine (l ++ [LF]) = trimLine l := by
  rw [trimLine, List.rdropWhile_concat_pos _ _ _ (by decide)]
  rfl

lemma trimLine_subset (l : Bytes) : trimLine l ⊆ l :=
  (List.rdropWhile_prefix (p := isEol) l).subset

lemma trimLine_eq_self_iff {l : Bytes} (hl : LF ∉ l) : trimLine l = l ↔ NoTrailingCR l := by
  unfold NoTrailingCR trimLine
  rw [List.rdropWhile_eq_self_iff]
  cases hne : l.getLast? with
  | none =>
      rw [List.getLast?_eq_none_iff] at hne
      simp [hne]
  | some b =>
      have hb : b ≠ LF := fun h => hl (h ▸ List.mem_of_getLast? hne)
      have hnil : l ≠ [] := by
        rintro rfl
        simp at hne
      have hlast : l.getLast hnil = b := by
        rw [List.getLast?_eq_some_getLast hnil] at hne
        exact Option.some.inj hne
      simp [isEol, hnil, hlast, hb]

lemma noTrailingCR_nil : NoTrailingCR [] := by decide

/-- The trimmer's output never ends in a `CR`. -/
lemma noTrailingCR_trimLine (l : Bytes) : NoTrailingCR (trimLine l) := by
  intro h
  have hne : trimLine l ≠ [] := by
    intro h0
    rw [h0] at h
    cases h
  have hlast := List.rdropWhile_last_not isEol l hne
  rw [List.getLast?_eq_some_getLast hne] at h
  exact hlast (by rw [show (List.rdropWhile isEol l).getLast hne = CR from Option.some.inj h]; rfl)

lemma noTrailingCR_append {l m : Bytes} (hm : NoTrailingCR m) (hne : m ≠ []) :
    NoTrailingCR (l ++ m) := by
  rwa [NoTrailingCR, List.getLast?_append_of_ne_nil _ hne]

/-- Trimming reaches into a field's value only. -/
lemma trimLine_field (n v : Bytes) : trimLine (n ++ EQ :: v) = n ++ EQ :: trimLine v := by
  rw [trimLine, trimLine]
  induction v using List.reverseRecOn with
  | nil => rw [List.rdropWhile_concat_neg _ _ _ (by decide)]; rfl
  | append_singleton v b ih =>
      by_cases hb : isEol b
      · rw [List.rdropWhile_concat_pos _ _ _ hb, ← List.cons_append, ← List.append_assoc,
          List.rdropWhile_concat_pos _ _ _ hb]
        exact ih
      · rw [List.rdropWhile_concat_neg _ _ _ hb, ← List.cons_append, ← List.append_assoc,
          List.rdropWhile_concat_neg _ _ _ hb, List.append_assoc, List.cons_append]

/-- Trimming the front of a line gives a front of the trimmed line. -/
lemma trimLine_isPrefix {v w : Bytes} (h : v <+: w) : trimLine v <+: trimLine w := by
  obtain ⟨s, rfl⟩ := h
  induction s using List.reverseRecOn with
  | nil => simp
  | append_singleton s b ih =>
      rw [← List.append_assoc]
      by_cases hb : isEol b
      · rwa [trimLine, trimLine, List.rdropWhile_concat_pos _ _ _ hb]
      · rw [trimLine, trimLine, List.rdropWhile_concat_neg _ _ _ hb, List.append_assoc]
        exact (List.rdropWhile_prefix (p := isEol) v).trans (List.prefix_append _ _)

/-! ## Reading a file through a line buffer -/

/-- The chunks a loop of `fgets` reads, with room for `room` more bytes in the current chunk and
for `cap` in every later one. -/
def chunks (cap : ℕ) : ℕ → Bytes → List Bytes
  | _, [] => []
  | room, b :: s =>
      if b = LF ∨ room ≤ 1 then [b] :: chunks cap cap s
      else
        match chunks cap (room - 1) s with
        | [] => [[b]]
        | c :: cs => (b :: c) :: cs

lemma chunks_line {cap room : ℕ} {l : Bytes} (hl : LF ∉ l) (hroom : l.length < room)
    (rest : Bytes) :
    chunks cap room (l ++ LF :: rest) = (l ++ [LF]) :: chunks cap cap rest := by
  induction l generalizing room with
  | nil => simp [chunks]
  | cons b l ih =>
      have hb : b ≠ LF := fun h => hl (by simp [h])
      have hl' : LF ∉ l := fun h => hl (by simp [h])
      simp only [List.length_cons] at hroom
      have hr : ¬ room ≤ 1 := by omega
      simp [chunks, hb, hr, ih hl' (show l.length < room - 1 by omega)]

lemma chunks_full {cap : ℕ} {l : Bytes} (hl : LF ∉ l) (hne : l ≠ []) (rest : Bytes) :
    chunks cap l.length (l ++ rest) = l :: chunks cap cap rest := by
  induction l with
  | nil => exact absurd rfl hne
  | cons b l ih =>
      have hb : b ≠ LF := fun h => hl (by simp [h])
      have hl' : LF ∉ l := fun h => hl (by simp [h])
      by_cases hnil : l = []
      · subst hnil
        simp [chunks]
      · have hpos : 0 < l.length := List.length_pos_of_ne_nil hnil
        have hr : ¬ l.length + 1 ≤ 1 := by omega
        simp [chunks, hb, ih hl' hnil, hr]

lemma chunks_last {cap room : ℕ} {l : Bytes} (hl : LF ∉ l) (hne : l ≠ [])
    (hroom : l.length ≤ room) : chunks cap room l = [l] := by
  induction l generalizing room with
  | nil => exact absurd rfl hne
  | cons b l ih =>
      have hb : b ≠ LF := fun h => hl (by simp [h])
      have hl' : LF ∉ l := fun h => hl (by simp [h])
      simp only [List.length_cons] at hroom
      by_cases hnil : l = []
      · subst hnil
        by_cases hr : room ≤ 1 <;> simp [chunks, hb, hr]
      · have hpos : 0 < l.length := List.length_pos_of_ne_nil hnil
        have hr : ¬ room ≤ 1 := by omega
        simp [chunks, hb, hr, ih hl' hnil (show l.length ≤ room - 1 by omega)]

/-- The trimmed lines of a file read through a buffer of `cap` bytes. -/
def fileLines (cap : ℕ) (s : Bytes) : List Bytes :=
  (chunks cap cap s).map fun c => trimLine (cstr c)

@[simp] lemma fileLines_nil (cap : ℕ) : fileLines cap [] = [] := rfl

lemma cstr_line {l : Bytes} (hl : Plain l) : cstr (l ++ [LF]) = l ++ [LF] :=
  cstr_eq_self (by simpa using ⟨hl.nul, by decide⟩)

lemma fileLines_line {cap : ℕ} {l : Bytes} (hl : Plain l) (hlen : l.length < cap)
    (rest : Bytes) : fileLines cap (l ++ LF :: rest) = trimLine l :: fileLines cap rest := by
  rw [fileLines, chunks_line hl.lf hlen, List.map_cons, cstr_line hl, trimLine_lf]
  rfl

/-- A chunk: at most `n` bytes, and a line feed at most at its end. -/
def IsChunk (n : ℕ) (c : Bytes) : Prop := c ≠ [] ∧ c.length ≤ n ∧ LF ∉ c.dropLast

lemma isChunk_chunks {cap : ℕ} (hcap : 1 ≤ cap) (s : Bytes) {room : ℕ} (hroom : 1 ≤ room) :
    ∀ c cs, chunks cap room s = c :: cs → IsChunk room c ∧ ∀ d ∈ cs, IsChunk cap d := by
  induction s generalizing room with
  | nil =>
      intro c cs h
      cases h
  | cons b s ih =>
      intro c cs h
      rw [chunks] at h
      split at h
      · obtain ⟨rfl, rfl⟩ := List.cons.inj h
        refine ⟨⟨by simp, by simpa using hroom, by simp⟩, fun d hd => ?_⟩
        cases hs : chunks cap cap s with
        | nil => simp [hs] at hd
        | cons e es =>
            obtain ⟨he, hes⟩ := ih hcap e es hs
            rw [hs] at hd
            rcases List.mem_cons.mp hd with rfl | hd
            · exact he
            · exact hes d hd
      · rename_i hb
        rw [not_or] at hb
        split at h
        · obtain ⟨rfl, rfl⟩ := List.cons.inj h
          exact ⟨⟨by simp, by simpa using hroom, by simp⟩, by simp⟩
        · rename_i e es hs
          obtain ⟨rfl, rfl⟩ := List.cons.inj h
          obtain ⟨⟨hne, hlen, hlf⟩, hes⟩ := ih (by omega) e es hs
          refine ⟨⟨by simp, ?_, ?_⟩, hes⟩
          · simp only [List.length_cons]
            omega
          · rw [List.dropLast_cons_of_ne_nil hne]
            simp only [List.mem_cons, not_or]
            exact ⟨fun h => hb.1 h.symm, hlf⟩

/-- Every line a loop of `fgets` delivers is plain and fits the buffer. -/
lemma plain_of_mem_fileLines {cap : ℕ} (hcap : 1 ≤ cap) {s l : Bytes} (h : l ∈ fileLines cap s) :
    Plain l ∧ l.length ≤ cap := by
  obtain ⟨c, hc, rfl⟩ := List.mem_map.mp h
  have hchunk : IsChunk cap c := by
    cases hs : chunks cap cap s with
    | nil => simp [hs] at hc
    | cons e es =>
        obtain ⟨he, hes⟩ := isChunk_chunks hcap s hcap e es hs
        rw [hs] at hc
        rcases List.mem_cons.mp hc with rfl | hc
        · exact he
        · exact hes c hc
  obtain ⟨hne, hlen, hlf⟩ := hchunk
  have hpre : trimLine (cstr c) <+: c :=
    (List.rdropWhile_prefix _ (cstr c)).trans (List.takeWhile_prefix _)
  refine ⟨fun b hb => ⟨?_, ?_⟩, Nat.le_trans hpre.length_le hlen⟩
  · have := List.mem_takeWhile_imp (trimLine_subset _ hb)
    simpa using this
  · rintro rfl
    -- the only line feed a chunk can hold is its last byte, which trimming drops
    obtain ⟨rest, hrest⟩ := hpre
    rcases List.eq_nil_or_concat rest with rfl | ⟨init, x, rfl⟩
    · rw [List.append_nil] at hrest
      have hlast : c.getLast? = some LF := by
        rw [hrest] at hb
        rcases List.eq_nil_or_concat c with rfl | ⟨init, x, rfl⟩
        · cases hb
        · simp only [List.concat_eq_append, List.dropLast_concat] at hlf
          simp only [List.concat_eq_append, List.mem_append, List.mem_singleton] at hb
          rcases hb with hb | rfl
          · exact absurd hb hlf
          · simp
      have hnot : ∀ hn : trimLine (cstr c) ≠ [], ¬ isEol ((trimLine (cstr c)).getLast hn) :=
        fun hn => List.rdropWhile_last_not _ _ hn
      have hne' : trimLine (cstr c) ≠ [] := List.ne_nil_of_mem hb
      have hgl : (trimLine (cstr c)).getLast hne' = LF := by
        have hlf' : (trimLine (cstr c)).getLast? = some LF := by rw [hrest]; exact hlast
        rw [List.getLast?_eq_some_getLast hne'] at hlf'
        exact Option.some.inj hlf'
      exact hnot hne' (by rw [hgl]; rfl)
    · apply hlf
      rw [← hrest, List.concat_eq_append, ← List.append_assoc, List.dropLast_concat]
      exact List.mem_append_left _ hb

/-- The non-blank ones among the lines of a file. -/
def nonBlank (cap : ℕ) (s : Bytes) : List Bytes := (fileLines cap s).filter (· ≠ [])

@[simp] lemma nonBlank_nil (cap : ℕ) : nonBlank cap [] = [] := rfl

/-- One text line in front of a file contributes its trimmed text, unless that is empty. -/
lemma nonBlank_line {cap : ℕ} {l : Bytes} (hl : Plain l) (hlen : l.length ≤ cap) (rest : Bytes) :
    nonBlank cap (l ++ LF :: rest) = [trimLine l].filter (· ≠ []) ++ nonBlank cap rest := by
  rcases Nat.lt_or_ge l.length cap with hlt | hge
  · rw [nonBlank, fileLines_line hl hlt, ← List.singleton_append, List.filter_append]
    rfl
  · -- the line fills the buffer, so its line feed is read as a chunk of its own
    have hcap : cap = l.length := by omega
    have hlf : fileLines cap (LF :: rest) = [] :: fileLines cap rest := by
      simp only [fileLines, chunks, true_or, if_true, List.map_cons]
      congr 1
    by_cases hnil : l = []
    · subst hnil
      simp only [List.nil_append, nonBlank, hlf]
      simp
    · have hfull : fileLines cap (l ++ LF :: rest) = trimLine l :: fileLines cap (LF :: rest) := by
        conv_lhs => rw [hcap]
        rw [fileLines, chunks_full hl.lf hnil, ← hcap, List.map_cons, cstr_eq_self hl.nul]
        rfl
      rw [nonBlank, hfull, hlf, ← List.singleton_append, List.filter_append]
      simp [nonBlank]

/-- An unterminated last line. -/
lemma nonBlank_last {cap : ℕ} {l : Bytes} (hl : Plain l) (hlen : l.length ≤ cap) :
    nonBlank cap l = [trimLine l].filter (· ≠ []) := by
  by_cases hnil : l = []
  · subst hnil
    simp [nonBlank]
  · rw [nonBlank, fileLines, chunks_last hl.lf hnil hlen, List.map_singleton,
      cstr_eq_self hl.nul]

/-- A text of lines in front of a file contributes its trimmed lines, the empty ones left out. -/
lemma nonBlank_unlines {cap : ℕ} {ls : List Bytes} (h : ∀ l ∈ ls, Plain l ∧ l.length ≤ cap)
    (rest : Bytes) :
    nonBlank cap (unlines ls ++ rest) =
      (ls.map trimLine).filter (· ≠ []) ++ nonBlank cap rest := by
  induction ls with
  | nil => rfl
  | cons l ls ih =>
      obtain ⟨hp, hlen⟩ := h l (by simp)
      rw [unlines_cons, List.append_assoc, List.cons_append, nonBlank_line hp hlen,
        ih fun m hm => h m (by simp [hm]), List.map_cons, ← List.append_assoc,
        ← List.filter_append]
      rfl

/-! ## Splitting a field -/

/-- Split a line at its first equals sign. -/
def splitEq : Bytes → Option (Bytes × Bytes)
  | [] => none
  | b :: l => if b = EQ then some ([], l) else (splitEq l).map fun p => (b :: p.1, p.2)

lemma splitEq_field {n : Bytes} (hn : EQ ∉ n) (v : Bytes) :
    splitEq (n ++ EQ :: v) = some (n, v) := by
  induction n with
  | nil => simp [splitEq]
  | cons b n ih =>
      have hb : b ≠ EQ := fun h => hn (by simp [h])
      simp [splitEq, hb, ih fun h => hn (by simp [h])]

lemma splitEq_eq_none_iff {l : Bytes} : splitEq l = none ↔ EQ ∉ l := by
  induction l with
  | nil => simp [splitEq]
  | cons b l ih =>
      by_cases hb : b = EQ
      · simp [splitEq, hb]
      · simp [splitEq, hb, ih, Ne.symm hb]

/-- The front of a field line is a front of the name, or the name, the equals sign and a front of
the value. -/
lemma prefix_field {t n v : Bytes} (h : t <+: n ++ EQ :: v) (hn : EQ ∉ n) :
    if EQ ∈ t then ∃ w, w <+: v ∧ t = n ++ EQ :: w else t <+: n := by
  induction n generalizing t with
  | nil =>
      cases t with
      | nil => simp
      | cons b t =>
          obtain ⟨rfl, ht⟩ := List.cons_prefix_cons.mp h
          simpa using ht
  | cons a n ih =>
      cases t with
      | nil => simp
      | cons b t =>
          rw [List.cons_append, List.cons_prefix_cons] at h
          obtain ⟨rfl, ht⟩ := h
          have ha : EQ ≠ b := fun h => hn (by simp [h])
          have := ih ht fun h => hn (by simp [h])
          by_cases he : EQ ∈ t
          · rw [if_pos he] at this
            obtain ⟨w, hw, rfl⟩ := this
            rw [if_pos (by simp)]
            exact ⟨w, hw, rfl⟩
          · rw [if_neg he] at this
            rw [if_neg (by simp [ha, he])]
            exact List.cons_prefix_cons.mpr ⟨rfl, this⟩

lemma eq_of_splitEq {l n v : Bytes} (h : splitEq l = some (n, v)) :
    l = n ++ EQ :: v ∧ EQ ∉ n := by
  induction l generalizing n with
  | nil => cases h
  | cons b l ih =>
      unfold splitEq at h
      split at h
      · rename_i hb
        cases h
        simp [hb]
      · rename_i hb
        obtain ⟨⟨n', v'⟩, hp, heq⟩ := Option.map_eq_some_iff.mp h
        cases heq
        obtain ⟨rfl, hn⟩ := ih hp
        refine ⟨rfl, ?_⟩
        simp [hn, Ne.symm hb]

/-! ## Searching -/

/-- What follows the first occurrence of `needle`: `strstr`, moved on by `strlen(needle)`. -/
def afterFirst (needle : Bytes) : Bytes → Option Bytes
  | [] => if needle = [] then some [] else none
  | b :: s =>
      if needle.isPrefixOf (b :: s) then some ((b :: s).drop needle.length) else afterFirst needle s

end ByteText
