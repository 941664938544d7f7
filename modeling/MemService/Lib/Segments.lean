import MemService.Lib.ByteRegion

/-!
# Pieces laid behind one another

A bump allocator hands out ranges of memory one behind the other, and what is written there later fills
them.  `Laid lo pieces hi` says that the pieces stand between two bounds, in order and without overlap.
Then writing them all leaves each as it was written, and nothing else is changed.
-/

namespace Segments

open ByteRegion

variable {α : Type*}

/-- The pieces, each at its offset, stand between `lo` and `hi`, one behind the other. -/
def Laid : ℕ → List (ℕ × List α) → ℕ → Prop
  | lo, [], hi => lo ≤ hi
  | lo, p :: pieces, hi => lo ≤ p.1 ∧ Laid (p.1 + p.2.length) pieces hi

/-- The memory after all pieces were written. -/
def writeAll (m : ℕ → α) (pieces : List (ℕ × List α)) : ℕ → α :=
  pieces.foldl (fun m p => write m p.1 p.2) m

variable {m : ℕ → α} {pieces : List (ℕ × List α)} {lo hi : ℕ}

@[simp] lemma writeAll_nil : writeAll m [] = m := rfl

lemma writeAll_cons (p : ℕ × List α) :
    writeAll m (p :: pieces) = writeAll (write m p.1 p.2) pieces := rfl

lemma Laid.le (h : Laid lo pieces hi) : lo ≤ hi := by
  induction pieces generalizing lo with
  | nil => exact h
  | cons p pieces ih => exact Nat.le_trans h.1 (Nat.le_trans (Nat.le_add_right _ _) (ih h.2))

lemma Laid.mono {lo' : ℕ} (h : Laid lo pieces hi) (hlo : lo' ≤ lo) : Laid lo' pieces hi := by
  cases pieces with
  | nil => exact Nat.le_trans hlo h
  | cons p pieces => exact ⟨Nat.le_trans hlo h.1, h.2⟩

/-- A piece stands between the bounds. -/
lemma Laid.mem (h : Laid lo pieces hi) {p : ℕ × List α} (hp : p ∈ pieces) :
    lo ≤ p.1 ∧ p.1 + p.2.length ≤ hi := by
  induction pieces generalizing lo with
  | nil => cases hp
  | cons q pieces ih =>
    obtain ⟨hle, hrest⟩ := h
    rcases List.mem_cons.mp hp with rfl | hp
    · exact ⟨hle, hrest.le⟩
    · have hmem := ih hrest hp
      omega

/-- Outside of the bounds nothing is changed. -/
lemma Laid.writeAll_outside (h : Laid lo pieces hi) {i : ℕ} (hi' : i < lo ∨ hi ≤ i) :
    writeAll m pieces i = m i := by
  induction pieces generalizing lo m with
  | nil => rfl
  | cons p pieces ih =>
    obtain ⟨hle, hrest⟩ := h
    have hend := hrest.le
    rw [writeAll_cons, ih hrest (by omega), write_outside (by omega)]

/-- **Every piece is there in the end.** -/
lemma Laid.read_writeAll (h : Laid lo pieces hi) {p : ℕ × List α} (hp : p ∈ pieces) :
    read (writeAll m pieces) p.1 p.2.length = p.2 := by
  induction pieces generalizing lo m with
  | nil => cases hp
  | cons q pieces ih =>
    obtain ⟨hle, hrest⟩ := h
    rw [writeAll_cons]
    rcases List.mem_cons.mp hp with rfl | hp
    · have hkept : read (writeAll (write m p.1 p.2) pieces) p.1 p.2.length =
          read (write m p.1 p.2) p.1 p.2.length :=
        read_congr fun i hi' => hrest.writeAll_outside (.inl (Nat.add_lt_add_left hi' _))
      rw [hkept, read_write_self]
    · exact ih hrest hp

end Segments
