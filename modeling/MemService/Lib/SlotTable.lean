import Mathlib.Data.List.Basic
import Mathlib.Data.List.Nodup
import Mathlib.Data.List.ReduceOption
import Mathlib.Data.List.Sort
import Mathlib.Tactic.Lemma

/-!
# Slot tables

A *slot table* is a fixed array of `cap` slots, each free or holding one value, as a C program
keeps them: `slots[i].in_use` decides whether slot `i` counts.  The array is carried as the list
of its slots up to the last one ever written, so every slot from the end of the list to `cap` is
free; `get` reads any index and answers `none` on a free one.

The reads are `get`, `entries` (the values in slot order), `findIdx?` and `find?` (the first slot
whose value passes a test) and `firstFree?`.  The writes are `put` at an index, `clear` at an index
and `upsert`, the "find the key, else take the first free slot" step every keyed table of such a
program is written with.  Facts about the writes are stated through `get`, through membership in
`entries` and through `count`, so that none of them depends on which slot was taken; the one
positional fact is `upsertAll_packed`, that filling an empty table in order packs it.
-/

universe u v

/-- An array of `cap` slots, carried up to the last slot ever written. -/
structure SlotTable (α : Type u) (cap : ℕ) where
  slots : List (Option α)
  bounded : slots.length ≤ cap
  deriving DecidableEq

namespace SlotTable

variable {α : Type u} {κ : Type v} {cap : ℕ}

/-! ## Raw slot lists -/

/-- Write slot `i`, padding with free slots when the list is shorter. -/
def setPad : List (Option α) → ℕ → Option α → List (Option α)
  | [], 0, v => [v]
  | [], i + 1, v => none :: setPad [] i v
  | _ :: s, 0, v => v :: s
  | x :: s, i + 1, v => x :: setPad s i v

lemma length_setPad (s : List (Option α)) (i : ℕ) (v : Option α) :
    (setPad s i v).length = max s.length (i + 1) := by
  induction s, i, v using setPad.induct with
  | case1 v => rfl
  | case2 i v ih => simp [setPad, ih]
  | case3 x s v => simp [setPad]
  | case4 x s i v ih => simp [setPad, ih]

lemma getElem?_setPad_join (s : List (Option α)) (i : ℕ) (v : Option α) (j : ℕ) :
    ((setPad s i v)[j]?).join = if j = i then v else (s[j]?).join := by
  induction s, i, v using setPad.induct generalizing j with
  | case1 v => cases j <;> simp [setPad]
  | case2 i v ih =>
      cases j with
      | zero => simp [setPad]
      | succ j => simpa [setPad] using ih j
  | case3 x s v => cases j <;> simp [setPad]
  | case4 x s i v ih =>
      cases j with
      | zero => simp [setPad]
      | succ j => simpa [setPad] using ih j

/-- Writing what a slot holds changes nothing. -/
lemma setPad_self {s : List (Option α)} {i : ℕ} {a : α} (h : (s[i]?).join = some a) :
    setPad s i (some a) = s := by
  induction s generalizing i with
  | nil => simp at h
  | cons x s ih =>
      cases i with
      | zero =>
          have hx : x = some a := by simpa using h
          simp [setPad, hx]
      | succ i => simpa [setPad] using ih (by simpa using h)

/-- The last write to a slot is the one that stays. -/
lemma setPad_setPad (s : List (Option α)) (i : ℕ) (v w : Option α) :
    setPad (setPad s i v) i w = setPad s i w := by
  induction s, i, v using setPad.induct with
  | case1 v => rfl
  | case2 i v ih => simpa [setPad] using ih
  | case3 x s v => rfl
  | case4 x s i v ih => simpa [setPad] using ih

lemma setPad_set (s : List (Option α)) (i : ℕ) (v w : Option α) :
    setPad (s.set i v) i w = setPad s i w := by
  induction s generalizing i with
  | nil => rfl
  | cons x s ih =>
      cases i with
      | zero => rfl
      | succ i => simpa [setPad] using ih i

/-- Index of the first free slot of a slot list, its length when none is free. -/
def freeIdx : List (Option α) → ℕ
  | [] => 0
  | none :: _ => 0
  | some _ :: s => freeIdx s + 1

lemma freeIdx_le (s : List (Option α)) : freeIdx s ≤ s.length := by
  induction s with
  | nil => exact Nat.le_refl 0
  | cons x s ih => cases x <;> simp [freeIdx, ih]

lemma getElem?_freeIdx_join (s : List (Option α)) : (s[freeIdx s]?).join = none := by
  induction s with
  | nil => rfl
  | cons x s ih => cases x <;> simp [freeIdx, ih]

lemma freeIdx_map_some (l : List α) : freeIdx (l.map some) = l.length := by
  induction l with
  | nil => rfl
  | cons x l ih => simp [freeIdx, ih]

/-- Index of the first used slot whose value passes `p`. -/
def findIdxIn (p : α → Bool) : List (Option α) → Option ℕ
  | [] => none
  | none :: s => (findIdxIn p s).map (· + 1)
  | some a :: s => if p a then some 0 else (findIdxIn p s).map (· + 1)

lemma findIdxIn_eq_none_iff (p : α → Bool) (s : List (Option α)) :
    findIdxIn p s = none ↔ ∀ a ∈ s.reduceOption, p a = false := by
  induction s with
  | nil => simp [findIdxIn]
  | cons x s ih =>
      cases x with
      | none => simp [findIdxIn, ih]
      | some a => by_cases h : p a <;> simp [findIdxIn, ih, h]

lemma getElem?_findIdxIn {p : α → Bool} {s : List (Option α)} {i : ℕ}
    (h : findIdxIn p s = some i) :
    (s[i]?).join = s.reduceOption.find? p ∧ ((s[i]?).join).any p = true := by
  induction s generalizing i with
  | nil => simp [findIdxIn] at h
  | cons x s ih =>
      cases x with
      | none =>
          simp only [findIdxIn, Option.map_eq_some_iff] at h
          obtain ⟨j, hj, rfl⟩ := h
          simpa using ih hj
      | some a =>
          by_cases hp : p a
          · simp only [findIdxIn, hp, if_true, Option.some.injEq] at h
            subst h
            simp [hp]
          · simp only [findIdxIn, hp, Bool.false_eq_true, if_false,
              Option.map_eq_some_iff] at h
            obtain ⟨j, hj, rfl⟩ := h
            simpa [hp] using ih hj

/-! ## The table -/

/-- The empty table: every slot free. -/
def empty : SlotTable α cap := ⟨[], Nat.zero_le _⟩

instance : Inhabited (SlotTable α cap) := ⟨empty⟩

/-- The value at slot `i`, `none` when the slot is free. -/
def get (t : SlotTable α cap) (i : ℕ) : Option α := (t.slots[i]?).join

/-- The used values in slot order. -/
def entries (t : SlotTable α cap) : List α := t.slots.reduceOption

/-- The number of used slots. -/
def count (t : SlotTable α cap) : ℕ := t.entries.length

/-- The values in use from slot `start` on, each with its slot. -/
def indexedFrom (t : SlotTable α cap) (start : ℕ) : List (ℕ × α) :=
  (t.slots.zipIdx.drop start).filterMap fun s => s.1.map fun a => (s.2, a)

/-- The first slot whose value passes `p`. -/
def findIdx? (p : α → Bool) (t : SlotTable α cap) : Option ℕ := findIdxIn p t.slots

/-- The first value, in slot order, that passes `p`. -/
def find? (p : α → Bool) (t : SlotTable α cap) : Option α := t.entries.find? p

/-- The first free slot, `none` when all `cap` slots are used. -/
def firstFree? (t : SlotTable α cap) : Option ℕ :=
  if freeIdx t.slots < cap then some (freeIdx t.slots) else none

/-- Write a value into slot `i`; an index outside the array writes nothing. -/
def put (t : SlotTable α cap) (i : ℕ) (a : α) : SlotTable α cap :=
  if h : i < cap then
    ⟨setPad t.slots i (some a), by
      have := t.bounded
      rw [length_setPad]
      omega⟩
  else t

/-- Free slot `i`. -/
def clear (t : SlotTable α cap) (i : ℕ) : SlotTable α cap :=
  ⟨t.slots.set i none, by rw [List.length_set]; exact t.bounded⟩

/-- Free every slot whose value does not pass `p`. -/
def keep (p : α → Bool) (t : SlotTable α cap) : SlotTable α cap :=
  ⟨t.slots.map fun o => o.filter p, by rw [List.length_map]; exact t.bounded⟩

@[simp] lemma get_empty (i : ℕ) : (empty : SlotTable α cap).get i = none := by
  simp [get, empty]

@[simp] lemma entries_empty : (empty : SlotTable α cap).entries = [] := rfl

@[simp] lemma count_empty : (empty : SlotTable α cap).count = 0 := rfl

lemma get_eq_none_of_le {t : SlotTable α cap} {i : ℕ} (h : cap ≤ i) : t.get i = none := by
  have := t.bounded
  rw [get, List.getElem?_eq_none (by omega)]
  rfl

lemma lt_cap_of_get {t : SlotTable α cap} {i : ℕ} {a : α} (h : t.get i = some a) : i < cap := by
  by_contra hc
  rw [get_eq_none_of_le (by omega)] at h
  cases h

lemma get_put {t : SlotTable α cap} {i : ℕ} (hi : i < cap) (a : α) (j : ℕ) :
    (t.put i a).get j = if j = i then some a else t.get j := by
  rw [put, dif_pos hi, get, getElem?_setPad_join]
  rfl

lemma put_self {t : SlotTable α cap} {i : ℕ} {a : α} (h : t.get i = some a) : t.put i a = t := by
  rw [put, dif_pos (lt_cap_of_get h)]
  congr
  exact setPad_self h

lemma put_put (t : SlotTable α cap) (i : ℕ) (a b : α) : (t.put i a).put i b = t.put i b := by
  by_cases hi : i < cap
  · simp only [put, dif_pos hi, setPad_setPad]
  · simp only [put, dif_neg hi]

lemma put_clear (t : SlotTable α cap) {i : ℕ} (hi : i < cap) (a : α) :
    (t.clear i).put i a = t.put i a := by
  simp only [put, dif_pos hi, clear, setPad_set]

lemma get_clear (t : SlotTable α cap) (i j : ℕ) :
    (t.clear i).get j = if j = i then none else t.get j := by
  simp only [get, clear, List.getElem?_set]
  by_cases hij : i = j
  · subst hij
    by_cases hl : i < t.slots.length <;> simp [hl]
  · rw [if_neg hij, if_neg (Ne.symm hij)]

lemma mem_entries {t : SlotTable α cap} {a : α} : a ∈ t.entries ↔ ∃ i, t.get i = some a := by
  rw [entries, List.reduceOption_mem_iff, List.mem_iff_getElem?]
  constructor
  · rintro ⟨i, hi⟩
    exact ⟨i, by simp [get, hi]⟩
  · rintro ⟨i, hi⟩
    rw [get, Option.join_eq_some_iff] at hi
    exact ⟨i, hi⟩

lemma get_keep (t : SlotTable α cap) (p : α → Bool) (i : ℕ) :
    (t.keep p).get i = (t.get i).filter p := by
  simp only [get, keep, List.getElem?_map]
  cases t.slots[i]? with
  | none => rfl
  | some o => rfl

lemma get_of_mem_indexedFrom {t : SlotTable α cap} {start i : ℕ} {a : α}
    (h : (i, a) ∈ t.indexedFrom start) : t.get i = some a := by
  obtain ⟨⟨o, j⟩, hm, ho⟩ := List.mem_filterMap.mp h
  obtain ⟨b, hb, heq⟩ := Option.map_eq_some_iff.mp ho
  obtain ⟨rfl, rfl⟩ := Prod.mk.inj heq
  have hget := List.mem_zipIdx_iff_getElem?.mp (List.mem_of_mem_drop hm)
  simp only at hget hb
  rw [get, hget, hb]
  rfl

lemma mem_indexedFrom_of_get {t : SlotTable α cap} {i : ℕ} {a : α} (h : t.get i = some a) :
    (i, a) ∈ t.indexedFrom 0 := by
  have hslot : t.slots[i]? = some (some a) := Option.join_eq_some_iff.mp h
  refine List.mem_filterMap.mpr ⟨(some a, i), ?_, rfl⟩
  rw [List.drop_zero]
  exact List.mem_zipIdx_iff_getElem?.mpr hslot

/-- The used slots are listed in order. -/
lemma sorted_indexedFrom (t : SlotTable α cap) (start : ℕ) :
    (t.indexedFrom start).Pairwise fun s u => s.1 < u.1 := by
  have hsorted : (t.slots.zipIdx.drop start).Pairwise fun s u => s.2 < u.2 := by
    refine List.Pairwise.drop ?_
    have h : (t.slots.zipIdx.map Prod.snd).Pairwise (· < ·) := by
      rw [List.zipIdx_map_snd]
      exact List.pairwise_lt_range'
    exact List.pairwise_map.mp h
  rw [indexedFrom, List.pairwise_filterMap]
  refine hsorted.imp fun {s u} hlt a ha b hb => ?_
  obtain ⟨_, -, rfl⟩ := Option.map_eq_some_iff.mp ha
  obtain ⟨_, -, rfl⟩ := Option.map_eq_some_iff.mp hb
  exact hlt

/-- The used slots are listed once each. -/
lemma pairwise_indexedFrom (t : SlotTable α cap) (start : ℕ) :
    (t.indexedFrom start).Pairwise fun s u => s.1 ≠ u.1 :=
  (t.sorted_indexedFrom start).imp Nat.ne_of_lt

lemma mem_indexedFrom_iff {t : SlotTable α cap} {s : ℕ × α} :
    s ∈ t.indexedFrom 0 ↔ t.get s.1 = some s.2 := ⟨get_of_mem_indexedFrom, mem_indexedFrom_of_get⟩

/-- A table that has lost elements lists what is left in the same order. -/
lemma indexedFrom_eq_filter {t u : SlotTable α cap} {p : ℕ × α → Bool}
    (hsub : ∀ i a, u.get i = some a → t.get i = some a)
    (h : ∀ i a, t.get i = some a → (u.get i = some a ↔ p (i, a) = true)) :
    u.indexedFrom 0 = (t.indexedFrom 0).filter p := by
  have : Std.Irrefl fun s q : ℕ × α => s.1 < q.1 := ⟨fun s => Nat.lt_irrefl s.1⟩
  have : Std.Antisymm fun s q : ℕ × α => s.1 < q.1 := ⟨fun s q hs hq => absurd hs (Nat.lt_asymm hq)⟩
  refine (u.sorted_indexedFrom 0).eq_of_mem_iff ((t.sorted_indexedFrom 0).filter p) fun s => ?_
  rw [List.mem_filter, mem_indexedFrom_iff, mem_indexedFrom_iff]
  exact ⟨fun hu => ⟨hsub _ _ hu, (h _ _ (hsub _ _ hu)).mp hu⟩, fun ht => (h _ _ ht.1).mpr ht.2⟩

lemma indexedFrom_clear (t : SlotTable α cap) (i : ℕ) :
    (t.clear i).indexedFrom 0 = (t.indexedFrom 0).filter fun s => s.1 != i := by
  refine indexedFrom_eq_filter (fun j a hj => ?_) fun j a hj => ?_
  · rw [get_clear] at hj
    split at hj
    · cases hj
    · exact hj
  · rw [get_clear]
    by_cases heq : j = i
    · simp [heq]
    · simp [heq, hj]

/-- The list from a slot it reaches on is its own rest there. -/
lemma indexedFrom_of_append {t : SlotTable α cap} {start i : ℕ} {a : α} {g rest : List (ℕ × α)}
    (h : t.indexedFrom start = g ++ (i, a) :: rest) :
    t.indexedFrom i = (i, a) :: rest ∧ t.indexedFrom (i + 1) = rest := by
  obtain ⟨l₁, l₂, hl, -, hrest⟩ := List.filterMap_eq_append_iff.mp h
  obtain ⟨m₁, ⟨o, j⟩, m₂, rfl, hm₁, ho, hm₂⟩ := List.filterMap_eq_cons_iff.mp hrest
  obtain ⟨b, hb, heq⟩ := Option.map_eq_some_iff.mp ho
  obtain ⟨rfl, rfl⟩ := Prod.mk.inj heq
  dsimp only at hb
  subst hb
  -- the pair stands in the slot it names
  have hdrop : t.slots.zipIdx.drop (start + (l₁ ++ m₁).length) = (some b, j) :: m₂ := by
    rw [← List.drop_drop, hl, ← List.append_assoc, List.drop_left]
  have hj : j = start + (l₁ ++ m₁).length := by
    have hget : t.slots.zipIdx[start + (l₁ ++ m₁).length]? = some (some b, j) := by
      have := congrArg (fun l => l[0]?) hdrop
      simpa [List.getElem?_drop] using this
    rw [List.getElem?_zipIdx] at hget
    obtain ⟨c, -, hc⟩ := Option.map_eq_some_iff.mp hget
    simpa using (congrArg Prod.snd hc).symm
  rw [← hj] at hdrop
  have hnext : t.slots.zipIdx.drop (j + 1) = m₂ := by
    rw [← List.drop_drop, hdrop, List.drop_one, List.tail_cons]
  refine ⟨?_, ?_⟩
  · rw [indexedFrom, hdrop, ← hm₂]
    rfl
  · rw [indexedFrom, hnext, hm₂]

lemma map_snd_indexedFrom (t : SlotTable α cap) : (t.indexedFrom 0).map Prod.snd = t.entries := by
  rw [indexedFrom, List.drop_zero, List.map_filterMap, entries, List.reduceOption]
  conv_rhs => rw [← List.zipIdx_map_fst 0 t.slots]
  rw [List.filterMap_map]
  congr 1
  funext s
  cases h : s.1 with
  | none => simp [h]
  | some a => simp [h]

lemma mem_entries_keep {t : SlotTable α cap} {p : α → Bool} {a : α} :
    a ∈ (t.keep p).entries ↔ a ∈ t.entries ∧ p a := by
  rw [mem_entries, mem_entries]
  simp only [get_keep, Option.filter_eq_some_iff]
  exact ⟨fun ⟨i, hi, hp⟩ => ⟨⟨i, hi⟩, hp⟩, fun ⟨⟨i, hi⟩, hp⟩ => ⟨i, hi, hp⟩⟩

lemma mem_entries_of_get {t : SlotTable α cap} {i : ℕ} {a : α} (h : t.get i = some a) :
    a ∈ t.entries := mem_entries.mpr ⟨i, h⟩

lemma mem_entries_put {t : SlotTable α cap} {i : ℕ} {a b : α} (h : b ∈ (t.put i a).entries) :
    b = a ∨ b ∈ t.entries := by
  obtain ⟨j, hj⟩ := mem_entries.mp h
  by_cases hi : i < cap
  · rw [get_put hi] at hj
    split at hj
    · exact .inl (Option.some.inj hj).symm
    · exact .inr (mem_entries_of_get hj)
  · rw [put, dif_neg hi] at hj
    exact .inr (mem_entries_of_get hj)

lemma mem_entries_clear {t : SlotTable α cap} {i : ℕ} {a : α} (h : a ∈ (t.clear i).entries) :
    a ∈ t.entries := by
  obtain ⟨j, hj⟩ := mem_entries.mp h
  rw [get_clear] at hj
  split at hj
  · cases hj
  · exact mem_entries_of_get hj

lemma find?_mem {t : SlotTable α cap} {p : α → Bool} {a : α} (h : t.find? p = some a) :
    a ∈ t.entries := List.mem_of_find?_eq_some h

lemma find?_pass {t : SlotTable α cap} {p : α → Bool} {a : α} (h : t.find? p = some a) :
    p a = true := List.find?_some h

lemma findIdx?_eq_none_iff {t : SlotTable α cap} {p : α → Bool} :
    t.findIdx? p = none ↔ ∀ a ∈ t.entries, p a = false :=
  findIdxIn_eq_none_iff p t.slots

lemma get_of_findIdx? {t : SlotTable α cap} {p : α → Bool} {i : ℕ}
    (h : t.findIdx? p = some i) : ∃ a, t.get i = some a ∧ t.find? p = some a ∧ p a = true := by
  obtain ⟨h₁, h₂⟩ := getElem?_findIdxIn h
  cases hg : (t.slots[i]?).join with
  | none => rw [hg] at h₂; cases h₂
  | some a =>
      rw [hg] at h₁ h₂
      exact ⟨a, hg, h₁.symm, h₂⟩

/-! ## Counting -/

lemma length_reduceOption_setPad (s : List (Option α)) (i : ℕ) (a : α) :
    (setPad s i (some a)).reduceOption.length + ((s[i]?).join).toList.length
      = s.reduceOption.length + 1 := by
  generalize hv : some a = v
  induction s, i, v using setPad.induct with
  | case1 v => subst hv; simp [setPad]
  | case2 i v ih => simpa [setPad] using ih hv
  | case3 x s v => subst hv; cases x <;> simp [setPad]
  | case4 x s i v ih =>
      have := ih hv
      cases x <;> simp [setPad] at this ⊢ <;> omega

lemma length_reduceOption_set (s : List (Option α)) (i : ℕ) :
    (s.set i none).reduceOption.length + ((s[i]?).join).toList.length = s.reduceOption.length := by
  induction s generalizing i with
  | nil => simp
  | cons x s ih =>
      cases i with
      | zero => cases x <;> simp
      | succ i =>
          have := ih i
          cases x <;> simp at this ⊢ <;> omega

lemma length_reduceOption_eq_iff (s : List (Option α)) :
    s.reduceOption.length = s.length ↔ freeIdx s = s.length := by
  induction s with
  | nil => simp [freeIdx]
  | cons x s ih =>
      have := List.reduceOption_length_le s
      cases x with
      | none => simp [freeIdx]; omega
      | some a => simp [freeIdx, ih]

lemma count_le (t : SlotTable α cap) : t.count ≤ cap :=
  Nat.le_trans (List.reduceOption_length_le t.slots) t.bounded

lemma count_put_of_free {t : SlotTable α cap} {i : ℕ} (hi : i < cap) (h : t.get i = none)
    (a : α) : (t.put i a).count = t.count + 1 := by
  have := length_reduceOption_setPad t.slots i a
  rw [get] at h
  rw [h] at this
  simpa [count, entries, put, hi] using this

lemma count_put_of_used {t : SlotTable α cap} {i : ℕ} {b : α} (h : t.get i = some b) (a : α) :
    (t.put i a).count = t.count := by
  have hi := lt_cap_of_get h
  have := length_reduceOption_setPad t.slots i a
  rw [get] at h
  rw [h] at this
  simpa [count, entries, put, hi] using this

lemma count_clear_of_used {t : SlotTable α cap} {i : ℕ} {b : α} (h : t.get i = some b) :
    (t.clear i).count + 1 = t.count := by
  have := length_reduceOption_set t.slots i
  rw [get] at h
  rw [h] at this
  simpa [count, entries, clear] using this

lemma countP_reduceOption_set (p : α → Bool) (s : List (Option α)) {i : ℕ} {a : α}
    (h : (s[i]?).join = some a) (hp : p a = true) :
    (s.set i none).reduceOption.countP p + 1 = s.reduceOption.countP p := by
  induction s generalizing i with
  | nil => simp at h
  | cons x s ih =>
      cases i with
      | zero =>
          obtain rfl : x = some a := by simpa using h
          simp [hp]
      | succ i =>
          have := ih (i := i) (by simpa using h)
          cases x with
          | none => simpa using this
          | some b =>
              simp only [List.set_cons_succ, List.reduceOption_cons_of_some, List.countP_cons]
              omega

/-- Freeing the slot of a value that passes `p` takes one from the number of those. -/
lemma countP_clear_of_selected {t : SlotTable α cap} {p : α → Bool} {i : ℕ} {a : α}
    (h : t.get i = some a) (hp : p a = true) :
    (t.clear i).entries.countP p + 1 = t.entries.countP p :=
  countP_reduceOption_set p t.slots h hp

lemma firstFree?_eq_some {t : SlotTable α cap} {i : ℕ} (h : t.firstFree? = some i) :
    i < cap ∧ t.get i = none := by
  unfold firstFree? at h
  split at h
  · rename_i hlt
    cases h
    exact ⟨hlt, getElem?_freeIdx_join t.slots⟩
  · cases h

lemma firstFree?_eq_none_iff {t : SlotTable α cap} : t.firstFree? = none ↔ t.count = cap := by
  have hb := t.bounded
  have hle := List.reduceOption_length_le t.slots
  have hf := freeIdx_le t.slots
  have hiff := length_reduceOption_eq_iff t.slots
  have hnone : t.firstFree? = none ↔ cap ≤ freeIdx t.slots := by
    unfold firstFree?
    split <;> simp_all
  rw [hnone, count, entries]
  constructor
  · intro h
    have := hiff.mpr (by omega)
    omega
  · intro h
    have := hiff.mp (by omega)
    omega

/-- The table's values, in order, in its first slots. -/
def pack (t : SlotTable α cap) : SlotTable α cap :=
  ⟨t.entries.map some, by rw [List.length_map]; exact t.count_le⟩

@[simp] lemma entries_pack (t : SlotTable α cap) : t.pack.entries = t.entries := by
  simp [pack, entries, List.reduceOption, List.filterMap_map]

@[simp] lemma count_pack (t : SlotTable α cap) : t.pack.count = t.count := by
  simp [count]

/-! ## Keyed tables -/

/-- No two used slots hold values with the same key. -/
def UniqueKeys (key : α → κ) (t : SlotTable α cap) : Prop :=
  ∀ i j a b, t.get i = some a → t.get j = some b → key a = key b → i = j

lemma uniqueKeys_empty (key : α → κ) : UniqueKeys key (empty : SlotTable α cap) := by
  intro i j a b ha
  simp at ha

lemma UniqueKeys.eq {key : α → κ} {t : SlotTable α cap} (h : UniqueKeys key t) {a b : α}
    (ha : a ∈ t.entries) (hb : b ∈ t.entries) (hab : key a = key b) : a = b := by
  obtain ⟨i, hi⟩ := mem_entries.mp ha
  obtain ⟨j, hj⟩ := mem_entries.mp hb
  obtain rfl := h i j a b hi hj hab
  rw [hi] at hj
  exact Option.some.inj hj

lemma UniqueKeys.nodup {key : α → κ} {t : SlotTable α cap} (h : UniqueKeys key t) :
    (t.entries.map key).Nodup := by
  rw [List.Nodup, List.pairwise_map, entries, List.reduceOption, List.pairwise_filterMap,
    List.pairwise_iff_getElem]
  intro i j hi hj hij a ha b hb hab
  have hget : ∀ k (hk : k < t.slots.length), t.get k = t.slots[k] := by
    intro k hk
    rw [get, List.getElem?_eq_getElem hk]
    rfl
  have := h i j a b ((hget i hi).trans ha) ((hget j hj).trans hb) hab
  omega

lemma UniqueKeys.put {key : α → κ} {t : SlotTable α cap} (h : UniqueKeys key t) {i : ℕ}
    (hi : i < cap) {a : α} (ha : ∀ j b, t.get j = some b → key b = key a → j = i) :
    UniqueKeys key (t.put i a) := by
  intro j k b c hb hc hbc
  rw [get_put hi] at hb hc
  split at hb <;> split at hc
  · omega
  · cases hb
    rename_i hj _
    exact hj.trans (ha k c hc hbc.symm).symm
  · cases hc
    rename_i hk
    exact (ha j b hb hbc).trans hk.symm
  · exact h j k b c hb hc hbc

lemma UniqueKeys.keep {key : α → κ} {t : SlotTable α cap} (h : UniqueKeys key t) (p : α → Bool) :
    UniqueKeys key (t.keep p) := by
  intro i j a b ha hb hab
  rw [get_keep, Option.filter_eq_some_iff] at ha hb
  exact h i j a b ha.1 hb.1 hab

lemma UniqueKeys.clear {key : α → κ} {t : SlotTable α cap} (h : UniqueKeys key t) (i : ℕ) :
    UniqueKeys key (t.clear i) := by
  intro j k b c hb hc hbc
  rw [get_clear] at hb hc
  split at hb
  · cases hb
  split at hc
  · cases hc
  exact h j k b c hb hc hbc

variable [DecidableEq κ]

/-- The first value with key `k`. -/
def lookup (key : α → κ) (t : SlotTable α cap) (k : κ) : Option α :=
  t.find? (fun a => decide (key a = k))

lemma lookup_key {key : α → κ} {t : SlotTable α cap} {k : κ} {a : α}
    (h : t.lookup key k = some a) : key a = k := by simpa using find?_pass h

lemma lookup_mem {key : α → κ} {t : SlotTable α cap} {k : κ} {a : α}
    (h : t.lookup key k = some a) : a ∈ t.entries := find?_mem h

lemma lookup_eq_none_iff {key : α → κ} {t : SlotTable α cap} {k : κ} :
    t.lookup key k = none ↔ ∀ a ∈ t.entries, key a ≠ k := by
  simp [lookup, find?, List.find?_eq_none]

lemma UniqueKeys.lookup_eq_some_iff {key : α → κ} {t : SlotTable α cap} (h : UniqueKeys key t)
    {k : κ} {a : α} : t.lookup key k = some a ↔ a ∈ t.entries ∧ key a = k := by
  constructor
  · intro hl
    exact ⟨lookup_mem hl, lookup_key hl⟩
  · rintro ⟨hm, rfl⟩
    cases hl : t.lookup key (key a) with
    | none => exact absurd rfl (lookup_eq_none_iff.mp hl a hm)
    | some b => rw [h.eq (lookup_mem hl) hm (lookup_key hl)]

/-- Two tables with unique keys that hold the same values under `k` look `k` up alike. -/
lemma UniqueKeys.lookup_congr {key : α → κ} {t u : SlotTable α cap} (ht : UniqueKeys key t)
    (hu : UniqueKeys key u) {k : κ}
    (h : ∀ a, key a = k → (a ∈ t.entries ↔ a ∈ u.entries)) :
    t.lookup key k = u.lookup key k := by
  ext a
  rw [ht.lookup_eq_some_iff, hu.lookup_eq_some_iff]
  constructor
  · rintro ⟨hm, hk⟩
    exact ⟨(h a hk).mp hm, hk⟩
  · rintro ⟨hm, hk⟩
    exact ⟨(h a hk).mpr hm, hk⟩

/-- Overwrite the slot that holds `a`'s key, else take the first free slot; `none` when the key is
new and the table is full. -/
def upsert (key : α → κ) (t : SlotTable α cap) (a : α) : Option (SlotTable α cap) :=
  match t.findIdx? (fun b => decide (key b = key a)) with
  | some i => some (t.put i a)
  | none => t.firstFree?.map (t.put · a)

/-- What one `upsert` does: it overwrites the slot of its key, or fills a free slot of a table
that does not hold the key. -/
lemma upsert_cases {key : α → κ} {t t' : SlotTable α cap} {a : α}
    (h : t.upsert key a = some t') :
    (∃ i b, t.get i = some b ∧ key b = key a ∧ t.lookup key (key a) = some b ∧ t' = t.put i a) ∨
    (∃ i, i < cap ∧ t.get i = none ∧ t.lookup key (key a) = none ∧ t' = t.put i a) := by
  unfold upsert at h
  split at h
  · rename_i i hi
    obtain ⟨b, hb, hf, hp⟩ := get_of_findIdx? hi
    exact .inl ⟨i, b, hb, by simpa using hp, hf, (Option.some.inj h).symm⟩
  · rename_i hn
    rw [findIdx?_eq_none_iff] at hn
    obtain ⟨i, hi, rfl⟩ := Option.map_eq_some_iff.mp h
    obtain ⟨hlt, hget⟩ := firstFree?_eq_some hi
    exact .inr ⟨i, hlt, hget, lookup_eq_none_iff.mpr (by simpa using hn), rfl⟩

lemma upsert_eq_none_iff {key : α → κ} {t : SlotTable α cap} {a : α} :
    t.upsert key a = none ↔ t.lookup key (key a) = none ∧ t.count = cap := by
  unfold upsert
  split
  · rename_i i hi
    obtain ⟨b, -, hf, -⟩ := get_of_findIdx? hi
    have : t.lookup key (key a) = some b := hf
    simp [this]
  · rename_i hn
    rw [findIdx?_eq_none_iff] at hn
    have hl : t.lookup key (key a) = none := lookup_eq_none_iff.mpr (by simpa using hn)
    rw [Option.map_eq_none_iff, firstFree?_eq_none_iff]
    simp [hl]

lemma UniqueKeys.upsert {key : α → κ} {t t' : SlotTable α cap} {a : α} (hu : UniqueKeys key t)
    (h : t.upsert key a = some t') : UniqueKeys key t' := by
  obtain ⟨i, b, hb, hk, -, rfl⟩ | ⟨i, hi, -, hn, rfl⟩ := upsert_cases h
  · exact hu.put (lt_cap_of_get hb) fun j c hc hca => hu j i c b hc hb (hca.trans hk.symm)
  · refine hu.put hi fun j c hc hca => ?_
    exact absurd hca (lookup_eq_none_iff.mp hn c (mem_entries_of_get hc))

lemma mem_entries_upsert {key : α → κ} {t t' : SlotTable α cap} {a : α} (hu : UniqueKeys key t)
    (h : t.upsert key a = some t') {b : α} :
    b ∈ t'.entries ↔ b = a ∨ (b ∈ t.entries ∧ key b ≠ key a) := by
  obtain ⟨i, c, hc, hk, -, rfl⟩ | ⟨i, hi, hfree, hn, rfl⟩ := upsert_cases h
  · have hi := lt_cap_of_get hc
    rw [mem_entries, mem_entries]
    constructor
    · rintro ⟨j, hj⟩
      rw [get_put hi] at hj
      split at hj
      · exact .inl (Option.some.inj hj).symm
      · rename_i hne
        exact .inr ⟨⟨j, hj⟩, fun hba => hne (hu j i b c hj hc (hba.trans hk.symm))⟩
    · rintro (rfl | ⟨⟨j, hj⟩, hne⟩)
      · exact ⟨i, by rw [get_put hi, if_pos rfl]⟩
      · refine ⟨j, ?_⟩
        rw [get_put hi, if_neg, hj]
        rintro rfl
        rw [hc] at hj
        cases hj
        exact hne hk
  · rw [mem_entries, mem_entries]
    constructor
    · rintro ⟨j, hj⟩
      rw [get_put hi] at hj
      split at hj
      · exact .inl (Option.some.inj hj).symm
      · exact .inr ⟨⟨j, hj⟩, lookup_eq_none_iff.mp hn b (mem_entries_of_get hj)⟩
    · rintro (rfl | ⟨⟨j, hj⟩, -⟩)
      · exact ⟨i, by rw [get_put hi, if_pos rfl]⟩
      · refine ⟨j, ?_⟩
        rw [get_put hi, if_neg, hj]
        rintro rfl
        rw [hfree] at hj
        cases hj

lemma lookup_upsert {key : α → κ} {t t' : SlotTable α cap} {a : α} (hu : UniqueKeys key t)
    (h : t.upsert key a = some t') (k : κ) :
    t'.lookup key k = if k = key a then some a else t.lookup key k := by
  have hu' := hu.upsert h
  split
  · rename_i hk
    subst hk
    rw [hu'.lookup_eq_some_iff, mem_entries_upsert hu h]
    simp
  · rename_i hk
    refine hu'.lookup_congr hu fun b hb => ?_
    rw [mem_entries_upsert hu h]
    subst hb
    constructor
    · rintro (rfl | ⟨hm, -⟩)
      · exact absurd rfl hk
      · exact hm
    · intro hm
      exact .inr ⟨hm, hk⟩

/-! ### Looking up when keys may repeat -/

lemma find?_setPad_of_not {p : α → Bool} {s : List (Option α)} {i : ℕ} {a : α} (ha : p a = false)
    (hold : ∀ b, (s[i]?).join = some b → p b = false) :
    (setPad s i (some a)).reduceOption.find? p = s.reduceOption.find? p := by
  induction s generalizing i with
  | nil =>
      induction i with
      | zero => simp [setPad, ha]
      | succ i ih => simpa [setPad] using ih (by simp)
  | cons x s ih =>
      cases i with
      | zero =>
          cases x with
          | none => simp [setPad, ha]
          | some b => simp [setPad, ha, hold b (by simp)]
      | succ i =>
          have hs := ih (i := i) (by simpa using hold)
          cases x with
          | none => simpa [setPad] using hs
          | some b => simp [setPad, List.find?_cons, hs]

lemma find?_setPad_self {p : α → Bool} {s : List (Option α)} {i : ℕ} {a : α} (ha : p a = true)
    (hi : findIdxIn p s = some i) : (setPad s i (some a)).reduceOption.find? p = some a := by
  induction s generalizing i with
  | nil => simp [findIdxIn] at hi
  | cons x s ih =>
      cases x with
      | none =>
          obtain ⟨j, hj, rfl⟩ := Option.map_eq_some_iff.mp hi
          simpa [setPad] using ih hj
      | some b =>
          by_cases hb : p b
          · simp only [findIdxIn, hb, if_true, Option.some.injEq] at hi
            subst hi
            simp [setPad, ha]
          · simp only [findIdxIn, hb, Bool.false_eq_true, if_false, Option.map_eq_some_iff] at hi
            obtain ⟨j, hj, rfl⟩ := hi
            simpa [setPad, hb] using ih hj

/-- After an `upsert` the key finds the value, whatever else the table holds under it. -/
lemma lookup_upsert_self {key : α → κ} {t t' : SlotTable α cap} {a : α}
    (h : t.upsert key a = some t') : t'.lookup key (key a) = some a := by
  unfold upsert at h
  split at h
  · rename_i i hi
    obtain rfl := Option.some.inj h
    have hlt := lt_cap_of_get (get_of_findIdx? hi).choose_spec.1
    simp only [lookup, find?, entries, put, dif_pos hlt]
    exact find?_setPad_self (by simp) hi
  · rename_i hn
    rw [findIdx?_eq_none_iff] at hn
    obtain ⟨i, hi, rfl⟩ := Option.map_eq_some_iff.mp h
    obtain ⟨hlt, -⟩ := firstFree?_eq_some hi
    have hmem : a ∈ (t.put i a).entries :=
      mem_entries.mpr ⟨i, by rw [get_put hlt, if_pos rfl]⟩
    cases hl : (t.put i a).lookup key (key a) with
    | none => exact absurd rfl (lookup_eq_none_iff.mp hl a hmem)
    | some b =>
        -- every other slot is an old one, and none of those has the key
        obtain ⟨j, hj⟩ := mem_entries.mp (lookup_mem hl)
        rw [get_put hlt] at hj
        split at hj
        · exact hj.symm
        · have hb := hn b (mem_entries_of_get hj)
          simp [lookup_key hl] at hb

/-- After an `upsert` every other key finds what it found before. -/
lemma lookup_upsert_of_ne {key : α → κ} {t t' : SlotTable α cap} {a : α} {k : κ}
    (h : t.upsert key a = some t') (hk : key a ≠ k) : t'.lookup key k = t.lookup key k := by
  have ha : decide (key a = k) = false := by simpa using hk
  obtain ⟨i, b, hget, hkey, -, rfl⟩ | ⟨i, hi, hfree, -, rfl⟩ := upsert_cases h
  · simp only [lookup, find?, entries, put, dif_pos (lt_cap_of_get hget)]
    refine find?_setPad_of_not ha fun c hc => ?_
    obtain rfl := Option.some.inj (hget.symm.trans hc)
    simpa [hkey] using hk
  · simp only [lookup, find?, entries, put, dif_pos hi]
    refine find?_setPad_of_not ha fun c hc => ?_
    cases hfree.symm.trans hc

/-- An `upsert` leaves the slots of every other key as they are. -/
lemma get_upsert_of_ne {key : α → κ} {t t' : SlotTable α cap} {a b : α}
    (h : t.upsert key a = some t') (hb : key b ≠ key a) (i : ℕ) :
    t'.get i = some b ↔ t.get i = some b := by
  have hne : a ≠ b := fun hab => hb (by rw [hab])
  obtain ⟨j, c, hget, hkey, -, rfl⟩ | ⟨j, hj, hfree, -, rfl⟩ := upsert_cases h
  · rw [get_put (lt_cap_of_get hget)]
    split
    · rename_i hij
      subst hij
      have hcb : c ≠ b := fun hcb => hb (by rw [← hcb, hkey])
      simp [hget, hne, hcb]
    · rfl
  · rw [get_put hj]
    split
    · rename_i hij
      subst hij
      simp [hfree, hne]
    · rfl

lemma count_upsert {key : α → κ} {t t' : SlotTable α cap} {a : α}
    (h : t.upsert key a = some t') :
    t'.count = t.count + if t.lookup key (key a) = none then 1 else 0 := by
  obtain ⟨i, c, hc, -, hl, rfl⟩ | ⟨i, hi, hfree, hn, rfl⟩ := upsert_cases h
  · simp [count_put_of_used hc, hl]
  · simp [count_put_of_free hi hfree, hn]

/-- What every step of a fold that can fail preserves, a fold that succeeds preserves. -/
lemma foldlM_induction {σ β : Type*} {f : σ → β → Option σ} {P : σ → Prop} {l : List β}
    {s s' : σ} (h : l.foldlM f s = some s') (h0 : P s)
    (hstep : ∀ a b : σ, ∀ x ∈ l, P a → f a x = some b → P b) : P s' := by
  induction l generalizing s with
  | nil => exact Option.some.inj h ▸ h0
  | cons x l ih =>
      rw [List.foldlM_cons] at h
      obtain ⟨s₁, h₁, h⟩ := Option.bind_eq_some_iff.mp h
      exact ih h (hstep s s₁ x (by simp) h0 h₁) fun a b y hy => hstep a b y (by simp [hy])

/-- Upsert a list of values in order. -/
def upsertAll (key : α → κ) (t : SlotTable α cap) (l : List α) : Option (SlotTable α cap) :=
  l.foldlM (fun t a => t.upsert key a) t

lemma upsertAll_append {key : α → κ} {t : SlotTable α cap} {l m : List α} :
    t.upsertAll key (l ++ m) = (t.upsertAll key l).bind fun t => t.upsertAll key m :=
  List.foldlM_append

lemma UniqueKeys.upsertAll {key : α → κ} {t t' : SlotTable α cap} {l : List α}
    (hu : UniqueKeys key t) (h : t.upsertAll key l = some t') : UniqueKeys key t' :=
  foldlM_induction (P := UniqueKeys key) h hu fun _ _ _ _ ha hb => ha.upsert hb

/-- After a list of upserts a key finds the last value upserted under it. -/
lemma lookup_upsertAll {key : α → κ} {t t' : SlotTable α cap} {l : List α} (hu : UniqueKeys key t)
    (h : t.upsertAll key l = some t') (k : κ) :
    t'.lookup key k = (l.reverse.find? fun a => key a = k).or (t.lookup key k) := by
  induction l generalizing t with
  | nil =>
      obtain rfl := Option.some.inj h
      rfl
  | cons a l ih =>
      obtain ⟨t₁, h₁, h⟩ := Option.bind_eq_some_iff.mp h
      rw [ih (hu.upsert h₁) h, lookup_upsert hu h₁, List.reverse_cons, List.find?_append]
      cases l.reverse.find? fun a => key a = k with
      | some q => rfl
      | none =>
          by_cases hk : k = key a
          · simp [hk]
          · have hk' : ¬ key a = k := fun h => hk h.symm
            simp [hk, hk']

/-- Filling an empty table with values of distinct keys packs them into the first slots. -/
lemma upsertAll_packed {key : α → κ} (done l : List α) (hnd : ((done ++ l).map key).Nodup)
    (hlen : (done ++ l).length ≤ cap) (hd : (done.map some).length ≤ cap) :
    upsertAll key (⟨done.map some, hd⟩ : SlotTable α cap) l =
      some ⟨(done ++ l).map some, by simpa using hlen⟩ := by
  induction l generalizing done with
  | nil => simp [upsertAll]
  | cons a l ih =>
      have hfind : (⟨done.map some, hd⟩ : SlotTable α cap).findIdx?
          (fun b => decide (key b = key a)) = none := by
        rw [findIdx?_eq_none_iff]
        intro b hb
        have hb' : b ∈ done := by
          simpa [entries, List.reduceOption, List.filterMap_map, Function.comp_def] using hb
        have hdis := List.nodup_append.mp (by simpa using hnd)
        simpa using hdis.2.2 (key b) (List.mem_map_of_mem hb') (key a) (by simp)
      have hlt : done.length < cap := by
        simp only [List.length_append, List.length_cons] at hlen
        omega
      have hstep : (⟨done.map some, hd⟩ : SlotTable α cap).upsert key a =
          some ⟨(done ++ [a]).map some, by simp; omega⟩ := by
        have hset : ∀ d : List α, setPad (d.map some) d.length (some a) = (d ++ [a]).map some := by
          intro d
          induction d with
          | nil => rfl
          | cons x d ih => simp [setPad, ih]
        simp only [upsert, hfind, firstFree?, freeIdx_map_some, hlt, if_true, Option.map_some, put,
          dif_pos]
        congr 2
        exact hset done
      have := ih (done ++ [a]) (by simpa using hnd) (by simpa using hlen) (by simp; omega)
      rw [upsertAll, List.foldlM_cons, hstep]
      simpa [upsertAll] using this

@[simp] lemma lookup_pack (key : α → κ) (t : SlotTable α cap) (k : κ) :
    t.pack.lookup key k = t.lookup key k := by
  simp [lookup, find?]

/-- Reading a keyed table into an empty one packs it. -/
lemma upsertAll_entries {key : α → κ} {t : SlotTable α cap} (h : UniqueKeys key t) :
    upsertAll key (empty : SlotTable α cap) t.entries = some t.pack :=
  upsertAll_packed [] t.entries (by simpa using h.nodup) (by rw [List.nil_append]; exact t.count_le)
    (by simp)

end SlotTable
