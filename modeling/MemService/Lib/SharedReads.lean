import MemService.Lib.ByteRegion
import Mathlib.Order.Monotone.Basic

/-!
# Reading a memory that changes

A *timeline* is a memory with its history, `mem t` being what it holds after `t` stores, and the
times at which a reader reads: the `n`-th read takes place at `time n`, and reads do not overtake each
other.  A reader is given the number of its next read and hands on the number of the one after.

`fetch` reads a few neighbouring cells in one access, `copy` a longer piece, eight cells at a time and
the rest one by one, the way a C program copies out of a mapping that is declared volatile.  Each
cell of a copy comes from some access of the copy, so between two accesses anything can be stored.
`copy_eq_read` is the rule to work with: if all accesses of a copy see the same content, the copy is
that content.
-/

universe u

/-- A memory over time, and the times of a reader's accesses. -/
structure Timeline (α : Type u) where
  mem : ℕ → ℕ → α
  time : ℕ → ℕ
  mono : Monotone time

namespace Timeline

open ByteRegion

variable {α : Type u}

/-- The memory as access `n` sees it. -/
def seen (t : Timeline α) (n : ℕ) : ℕ → α := t.mem (t.time n)

/-- One access to `width` cells. -/
def fetch (t : Timeline α) (addr width n : ℕ) : List α × ℕ := (read (t.seen n) addr width, n + 1)

/-- `count` accesses to `width` cells each. -/
def copyUnits (t : Timeline α) (width : ℕ) : ℕ → ℕ → ℕ → List α × ℕ
  | _, 0, n => ([], n)
  | addr, count + 1, n =>
      let (unit, n) := t.fetch addr width n
      let (rest, n) := copyUnits t width (addr + width) count n
      (unit ++ rest, n)

/-- A copy of `len` cells: words of eight, then single cells. -/
def copy (t : Timeline α) (addr len n : ℕ) : List α × ℕ :=
  let (words, n) := t.copyUnits 8 addr (len / 8) n
  let (rest, n) := t.copyUnits 1 (addr + 8 * (len / 8)) (len % 8) n
  (words ++ rest, n)

variable {t : Timeline α} {f : ℕ → α}

lemma copyUnits_snd (width addr count n : ℕ) : (t.copyUnits width addr count n).2 = n + count := by
  induction count generalizing addr n with
  | zero => rfl
  | succ count ih =>
    simp only [copyUnits, fetch, ih]
    omega

/-- How many accesses a copy takes. -/
lemma copy_snd (addr len n : ℕ) : (t.copy addr len n).2 = n + (len / 8 + len % 8) := by
  simp only [copy, copyUnits_snd]
  omega

lemma le_copy_snd (addr len n : ℕ) : n ≤ (t.copy addr len n).2 := by
  rw [copy_snd]
  omega

lemma copyUnits_eq_read (width addr count n : ℕ)
    (h : ∀ m, n ≤ m → m < n + count → ∀ a, addr ≤ a → a < addr + width * count → t.seen m a = f a) :
    (t.copyUnits width addr count n).1 = read f addr (width * count) := by
  induction count generalizing addr n with
  | zero => simp [copyUnits, ByteRegion.read]
  | succ count ih =>
    have hfirst : read (t.seen n) addr width = read f addr width := by
      refine read_congr fun i hi => h n (Nat.le_refl n) (by omega) (addr + i) (by omega) ?_
      rw [Nat.mul_succ]
      omega
    have hrest := ih (addr + width) (n + 1) fun m hm hlt a ha hlt' =>
      h m (by omega) (by omega) a (by omega) (by
        rw [Nat.mul_succ]
        omega)
    rw [copyUnits, fetch]
    dsimp only
    rw [hfirst, hrest, ← read_append, Nat.mul_succ, Nat.add_comm width]

/-- A copy all of whose accesses see the same content is that content. -/
lemma copy_eq_read {addr len n : ℕ}
    (h : ∀ m, n ≤ m → m < (t.copy addr len n).2 → ∀ a, addr ≤ a → a < addr + len → t.seen m a = f a) :
    (t.copy addr len n).1 = read f addr len := by
  have hsplit : 8 * (len / 8) + len % 8 = len := Nat.div_add_mod len 8
  rw [copy_snd] at h
  have hwords := copyUnits_eq_read (t := t) (f := f) 8 addr (len / 8) n fun m hm hlt a ha hlt' =>
    h m hm (by omega) a ha (by omega)
  have hrest := copyUnits_eq_read (t := t) (f := f) 1 (addr + 8 * (len / 8)) (len % 8) (n + len / 8)
    fun m hm hlt a ha hlt' => h m (by omega) (by omega) a (by omega) (by omega)
  rw [copy]
  dsimp only
  rw [copyUnits_snd, hwords, hrest, Nat.one_mul, ← read_append, hsplit]

end Timeline
