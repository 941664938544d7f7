import MemService.Lib.ByteText

/-!
# The pieces of lines

A loop of `fgets` delivers a text in pieces: a line that fits the buffer is one piece, a longer one
comes in several, and the program that reads cannot tell.  Here the pieces know where they are from:
`pieces` is what `chunks` delivers, with the line each piece is part of, its number, and whether the
piece begins the line.
-/

namespace ByteText

/-! ## Whole lines -/

/-- The lines of a text, each with its line feed. -/
def fullLines : Bytes → List Bytes
  | [] => []
  | b :: s =>
      if b = LF then [b] :: fullLines s
      else
        match fullLines s with
        | [] => [[b]]
        | l :: ls => (b :: l) :: ls

/-- A line: not empty, with a line feed at most at its end. -/
def IsLine (l : Bytes) : Prop := l ≠ [] ∧ LF ∉ l.dropLast

lemma isLine_of_mem_fullLines {s l : Bytes} (h : l ∈ fullLines s) : IsLine l := by
  induction s generalizing l with
  | nil => cases h
  | cons b s ih =>
      unfold fullLines at h
      split at h
      · rcases List.mem_cons.mp h with rfl | h
        · exact ⟨by simp, by simp⟩
        · exact ih h
      · rename_i hb
        cases hs : fullLines s with
        | nil =>
            rw [hs] at h
            rw [List.mem_singleton.mp h]
            exact ⟨by simp, by simp⟩
        | cons m ls =>
            rw [hs] at h ih
            rcases List.mem_cons.mp h with rfl | h
            · obtain ⟨hne, hlf⟩ := ih (l := m) (by simp)
              refine ⟨by simp, ?_⟩
              rw [List.dropLast_cons_of_ne_nil hne, List.mem_cons, not_or]
              exact ⟨fun h => hb h.symm, hlf⟩
            · exact ih (by simp [h])

/-! ## What `fgets` delivers of a line -/

variable {cap : ℕ}

/-- The first piece of a line fills the buffer or is the whole line. -/
lemma chunks_isLine {room : ℕ} {l : Bytes} (hl : IsLine l) (hroom : 1 ≤ room) :
    chunks cap room l = l.take room :: chunks cap cap (l.drop room) := by
  induction l generalizing room with
  | nil => exact absurd rfl hl.1
  | cons b l ih =>
      obtain ⟨room, rfl⟩ : ∃ n, room = n + 1 := ⟨room - 1, by omega⟩
      by_cases hnil : l = []
      · subst hnil
        unfold chunks
        split <;> simp [chunks]
      · obtain ⟨-, hlf⟩ := hl
        rw [List.dropLast_cons_of_ne_nil hnil, List.mem_cons, not_or] at hlf
        have hb : b ≠ LF := fun h => hlf.1 h.symm
        rw [List.take_succ_cons, List.drop_succ_cons]
        by_cases hr : room = 0
        · subst hr
          simp [chunks]
        · have hone : ¬ room + 1 ≤ 1 := by omega
          have hrest := ih ⟨hnil, hlf.2⟩ (show 1 ≤ room by omega)
          simp only [chunks, hb, hone, or_self, if_false, Nat.add_sub_cancel, hrest]

/-- Reading goes on with the next line when the line feed has been read. -/
lemma chunks_append_line {room : ℕ} {l : Bytes} (hl : LF ∉ l) (rest : Bytes) :
    chunks cap room (l ++ LF :: rest) = chunks cap room (l ++ [LF]) ++ chunks cap cap rest := by
  induction l generalizing room with
  | nil => simp [chunks]
  | cons b l ih =>
      have hb : b ≠ LF := fun h => hl (by simp [h])
      have hl' : LF ∉ l := fun h => hl (by simp [h])
      simp only [List.cons_append, chunks, hb, false_or]
      by_cases hr : room ≤ 1
      · simp only [hr, if_true, ih hl', List.cons_append]
      · simp only [hr, if_false, ih hl']
        cases hc : chunks cap (room - 1) (l ++ [LF]) with
        | nil =>
            exfalso
            have hne : IsLine (l ++ [LF]) := ⟨by simp, by simpa using hl'⟩
            have hpos : 1 ≤ room - 1 := by omega
            rw [chunks_isLine hne hpos] at hc
            cases hc
        | cons c cs => rfl

lemma fullLines_line {l : Bytes} (hl : LF ∉ l) (rest : Bytes) :
    fullLines (l ++ LF :: rest) = (l ++ [LF]) :: fullLines rest := by
  induction l with
  | nil => simp [fullLines]
  | cons b l ih =>
      have hb : b ≠ LF := fun h => hl (by simp [h])
      have hl' : LF ∉ l := fun h => hl (by simp [h])
      simp [fullLines, hb, ih hl']

lemma fullLines_last {l : Bytes} (hl : LF ∉ l) (hne : l ≠ []) : fullLines l = [l] := by
  induction l with
  | nil => exact absurd rfl hne
  | cons b l ih =>
      have hb : b ≠ LF := fun h => hl (by simp [h])
      have hl' : LF ∉ l := fun h => hl (by simp [h])
      by_cases hnil : l = []
      · subst hnil
        simp [fullLines, hb]
      · simp [fullLines, hb, ih hl' hnil]

/-! ## Pieces -/

/-- A piece of a line. -/
structure Piece where
  lineNo : ℕ
  line : Bytes
  begins : Bool
  bytes : Bytes
  deriving DecidableEq

/-- The pieces of one line. -/
def linePieces (cap i : ℕ) (l : Bytes) : List Piece :=
  match chunks cap cap l with
  | [] => []
  | c :: cs => ⟨i, l, true, c⟩ :: cs.map fun d => ⟨i, l, false, d⟩

/-- The pieces of lines numbered from `i` on. -/
def piecesFrom (cap : ℕ) : ℕ → List Bytes → List Piece
  | _, [] => []
  | i, l :: ls => linePieces cap i l ++ piecesFrom cap (i + 1) ls

/-- The pieces of a text. -/
def pieces (cap : ℕ) (s : Bytes) : List Piece := piecesFrom cap 0 (fullLines s)

lemma map_bytes_linePieces (cap i : ℕ) (l : Bytes) :
    (linePieces cap i l).map Piece.bytes = chunks cap cap l := by
  unfold linePieces
  cases chunks cap cap l with
  | nil => rfl
  | cons c cs => simp [Function.comp_def]

/-- **The pieces are what `fgets` delivers.** -/
theorem map_bytes_piecesFrom (cap i : ℕ) (s : Bytes) :
    (piecesFrom cap i (fullLines s)).map Piece.bytes = chunks cap cap s := by
  induction hn : s.length using Nat.strong_induction_on generalizing i s with
  | _ n ih =>
      by_cases hlf : LF ∈ s
      · obtain ⟨l, rest, rfl, hl⟩ := List.eq_append_cons_of_mem hlf
        rw [fullLines_line hl, piecesFrom, List.map_append, map_bytes_linePieces,
          chunks_append_line hl rest, ih rest.length (by simp at hn; omega) _ _ rfl]
      · by_cases hnil : s = []
        · subst hnil
          rfl
        · rw [fullLines_last hlf hnil, piecesFrom, List.map_append, map_bytes_linePieces]
          simp [piecesFrom]

section Lines

variable {i : ℕ} {ls : List Bytes} {p : Piece}

lemma mem_linePieces {l : Bytes} (hcap : 1 ≤ cap) (hl : IsLine l) (h : p ∈ linePieces cap i l) :
    p.lineNo = i ∧ p.line = l ∧ (p.begins = true → p.bytes = l.take cap) := by
  rw [linePieces, chunks_isLine hl hcap] at h
  rcases List.mem_cons.mp h with rfl | h
  · exact ⟨rfl, rfl, fun _ => rfl⟩
  · obtain ⟨d, -, rfl⟩ := List.mem_map.mp h
    exact ⟨rfl, rfl, fun h => by cases h⟩

/-- A piece is part of the line it names. -/
lemma mem_piecesFrom (hcap : 1 ≤ cap) (hls : ∀ l ∈ ls, IsLine l) (h : p ∈ piecesFrom cap i ls) :
    i ≤ p.lineNo ∧ ls[p.lineNo - i]? = some p.line ∧
      (p.begins = true → p.bytes = p.line.take cap) := by
  induction ls generalizing i with
  | nil => cases h
  | cons l ls ih =>
      rcases List.mem_append.mp h with h | h
      · obtain ⟨hno, hline, hbytes⟩ := mem_linePieces hcap (hls l (by simp)) h
        refine ⟨hno.ge, ?_, hline ▸ hbytes⟩
        rw [hno, Nat.sub_self, hline]
        rfl
      · obtain ⟨hle, hget, hbytes⟩ := ih (fun l hl => hls l (by simp [hl])) h
        refine ⟨by omega, ?_, hbytes⟩
        rw [show p.lineNo - i = p.lineNo - (i + 1) + 1 by omega]
        exact hget

/-- Every line begins with a piece. -/
lemma first_mem_piecesFrom (hcap : 1 ≤ cap) (hls : ∀ l ∈ ls, IsLine l) {k : ℕ} {l : Bytes}
    (h : ls[k]? = some l) : ⟨i + k, l, true, l.take cap⟩ ∈ piecesFrom cap i ls := by
  induction ls generalizing i k with
  | nil => cases h
  | cons m ls ih =>
      cases k with
      | zero =>
          obtain rfl : m = l := Option.some.inj h
          refine List.mem_append_left _ ?_
          rw [linePieces, chunks_isLine (hls m (by simp)) hcap]
          exact List.mem_cons_self
      | succ k =>
          refine List.mem_append_right _ ?_
          have := @ih (i + 1) (fun l hl => hls l (by simp [hl])) k h
          rwa [show i + (k + 1) = i + 1 + k by omega]

/-- Pieces come in the order of their lines, and only the first one of a line begins it. -/
lemma pairwise_piecesFrom (hcap : 1 ≤ cap) (hls : ∀ l ∈ ls, IsLine l) :
    (piecesFrom cap i ls).Pairwise fun p q =>
      p.lineNo ≤ q.lineNo ∧ (q.begins = true → p.lineNo < q.lineNo) := by
  induction ls generalizing i with
  | nil => exact .nil
  | cons l ls ih =>
      have hls' : ∀ l ∈ ls, IsLine l := fun l hl => hls l (by simp [hl])
      refine List.pairwise_append.mpr ⟨?_, ih hls', fun p hp q hq => ?_⟩
      · rw [linePieces, chunks_isLine (hls l (by simp)) hcap]
        refine List.pairwise_cons.mpr ⟨fun q hq => ?_, ?_⟩
        · obtain ⟨d, -, rfl⟩ := List.mem_map.mp hq
          exact ⟨le_rfl, fun h => by cases h⟩
        · exact List.pairwise_map.mpr (List.pairwise_of_forall fun _ _ =>
            ⟨le_rfl, fun h => by cases h⟩)
      · have hp := (mem_linePieces hcap (hls l (by simp)) hp).1
        have hq := (mem_piecesFrom hcap hls' hq).1
        exact ⟨by omega, fun _ => by omega⟩

end Lines

end ByteText
