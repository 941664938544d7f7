import Mathlib.Data.List.Basic
import Mathlib.Tactic.Lemma

/-!
# Regions of memory

A region is a function from offsets to cells.  `write m off bs` lays a list over it from an offset on,
and `read m off n` takes `n` cells.  The facts are those of every such memory: what was written is read
back, a range that does not meet the written one keeps its contents, and so a list of placed pieces
survives a write that is apart from all of them.
-/

namespace ByteRegion

variable {α : Type*}

/-- The region with a list laid over it from an offset on. -/
def write (m : ℕ → α) (off : ℕ) (bs : List α) : ℕ → α := fun i =>
  if h : off ≤ i ∧ i - off < bs.length then bs[i - off] else m i

/-- The cells of a range. -/
def read (m : ℕ → α) (off n : ℕ) : List α := (List.range n).map fun i => m (off + i)

/-- Two ranges without a common cell. -/
def Apart (off n off' n' : ℕ) : Prop := off + n ≤ off' ∨ off' + n' ≤ off

instance (off n off' n' : ℕ) : Decidable (Apart off n off' n') :=
  inferInstanceAs (Decidable (_ ∨ _))

variable {m : ℕ → α} {off off' n : ℕ} {bs : List α}

lemma Apart.symm {n' : ℕ} (h : Apart off n off' n') : Apart off' n' off n := Or.symm h

@[simp] lemma length_read (m : ℕ → α) (off n : ℕ) : (read m off n).length = n := by
  simp [read]

lemma write_outside {i : ℕ} (h : i < off ∨ off + bs.length ≤ i) : write m off bs i = m i := by
  rw [write, dif_neg (by omega)]

lemma write_inside {i : ℕ} (h : i < bs.length) : write m off bs (off + i) = bs[i] := by
  have hi : off ≤ off + i ∧ off + i - off < bs.length := by omega
  rw [write, dif_pos hi]
  congr 1
  omega

lemma read_congr {m' : ℕ → α} (h : ∀ i < n, m' (off + i) = m (off + i)) :
    read m' off n = read m off n := by
  apply List.map_congr_left
  intro i hi
  exact h i (List.mem_range.mp hi)

lemma read_write_apart (h : Apart off' n off bs.length) :
    read (write m off bs) off' n = read m off' n := by
  apply read_congr
  intro i hi
  apply write_outside
  unfold Apart at h
  omega

lemma read_write_self : read (write m off bs) off bs.length = bs := by
  apply List.ext_getElem
  · simp
  · intro i hi _
    rw [length_read] at hi
    simp [read, write_inside hi]

lemma read_append (m : ℕ → α) (off a b : ℕ) :
    read m off (a + b) = read m off a ++ read m (off + a) b := by
  simp only [read, List.range_add, List.map_append, List.map_map, Function.comp_def, Nat.add_assoc]

lemma getElem_read {i : ℕ} (h : i < (read m off n).length) : (read m off n)[i] = m (off + i) := by
  simp [read]

/-- A part of what was read. -/
lemma read_part {a b : ℕ} (h : a + b ≤ n) : ((read m off n).drop a).take b = read m (off + a) b := by
  obtain ⟨c, rfl⟩ : ∃ c, n = a + (b + c) := ⟨n - (a + b), by omega⟩
  rw [read_append, List.drop_left' (length_read m off a), read_append,
    List.take_left' (length_read m (off + a) b)]

/-- Of two writes of the same range the second stays. -/
lemma write_write {bs' : List α} (h : bs.length = bs'.length) :
    write (write m off bs) off bs' = write m off bs' := by
  funext i
  by_cases hi : off ≤ i ∧ i - off < bs'.length
  · rw [write, dif_pos hi, write, dif_pos hi]
  · rw [write, dif_neg hi, write, dif_neg (by omega), write, dif_neg hi]

/-- Writing what is there changes nothing. -/
lemma write_read (m : ℕ → α) (off n : ℕ) : write m off (read m off n) = m := by
  funext i
  by_cases hi : off ≤ i ∧ i - off < (read m off n).length
  · rw [write, dif_pos hi, getElem_read]
    congr 1
    omega
  · rw [write, dif_neg hi]

/-- A list as the memory that holds it at the start. -/
def ofList [Inhabited α] (l : List α) : ℕ → α := fun i => l[i]?.getD default

lemma ofList_eq_getElem [Inhabited α] {l : List α} {i : ℕ} (h : i < l.length) : ofList l i = l[i] := by
  simp [ofList, h]

lemma read_ofList [Inhabited α] {l : List α} (h : off + n ≤ l.length) :
    read (ofList l) off n = (l.drop off).take n := by
  apply List.ext_getElem
  · simp
    omega
  · intro i hi hi'
    rw [length_read] at hi
    rw [getElem_read, ofList_eq_getElem (by omega), List.getElem_take, List.getElem_drop]

end ByteRegion
