import Mathlib.Data.List.DropRight
import MemService.Lib.FirstDistinct
import MemService.Lib.Run

/-!
# Least recently used

A cache of bounded size that keeps what was used last.  Its value is the order of the last uses, the
least recent first; a use moves an element to the end, and only as many elements as there is room for
stay.  What a use drives out is whatever is then missing.

`touch` says this with one formula.  The three cases a cache is usually written in (the element is
there; there is room; the front makes room) are lemmas about it, and `Usage` adds the counters.
-/

/-- The elements of a cache of `cap` places, the least recently used first. -/
structure RecencyCache (α : Type*) (cap : ℕ) where
  order : List α
  nodup : order.Nodup
  length_le : order.length ≤ cap

namespace RecencyCache

variable {α : Type*} {cap : ℕ}

lemma rtake_eq_self {l : List α} (h : l.length ≤ cap) : l.rtake cap = l := by
  rw [List.rtake, Nat.sub_eq_zero_of_le h, List.drop_zero]

variable [DecidableEq α]

/-- The cache in which the elements of a list have been put in its order, each where it comes first,
as many as there is room for. -/
def ofList (cap : ℕ) (l : List α) : RecencyCache α cap where
  order := l.eraseDups.take cap
  nodup := (FirstDistinct.nodup_eraseDups l).take
  length_le := List.length_take_le _ _

/-- A use of an element: it is the most recent one now, and the `cap` most recent ones stay. -/
def touch (c : RecencyCache α cap) (a : α) : RecencyCache α cap where
  order := (c.order.erase a ++ [a]).rtake cap
  nodup := by
    have hnodup : (c.order.erase a ++ [a]).Nodup := by
      refine List.nodup_append.mpr ⟨c.nodup.erase a, List.nodup_singleton a, ?_⟩
      rintro x hx y hy rfl
      exact c.nodup.not_mem_erase (List.mem_singleton.mp hy ▸ hx)
    exact hnodup.sublist (List.drop_sublist _ _)
  length_le := by
    rw [List.rtake, List.length_drop]
    omega

/-- What a use drives out. -/
def evicted (c : RecencyCache α cap) (a : α) : List α := c.order.filter (· ∉ (c.touch a).order)

section Cases

variable {c : RecencyCache α cap} {a : α}

lemma order_touch (c : RecencyCache α cap) (a : α) :
    (c.touch a).order = (c.order.erase a ++ [a]).rtake cap := rfl

lemma mem_touch {b : α} (h : b ∈ (c.touch a).order) : b ∈ c.order ∨ b = a := by
  have hmem : b ∈ c.order.erase a ++ [a] := List.mem_of_mem_drop h
  rcases List.mem_append.mp hmem with hb | hb
  · exact .inl (List.mem_of_mem_erase hb)
  · exact .inr (List.mem_singleton.mp hb)

lemma touch_of_mem (h : a ∈ c.order) : (c.touch a).order = c.order.erase a ++ [a] := by
  have hle := c.length_le
  have hpos := List.length_pos_of_mem h
  refine rtake_eq_self ?_
  rw [List.length_append, List.length_erase_of_mem h, List.length_singleton]
  omega

lemma touch_of_append {pre mid : List α} (horder : c.order = pre ++ a :: mid) (ha : a ∉ pre) :
    (c.touch a).order = pre ++ mid ++ [a] := by
  rw [touch_of_mem (by simp [horder]), horder, List.erase_append_right _ ha, List.erase_cons_head]

lemma touch_of_room (h : a ∉ c.order) (hroom : c.order.length < cap) :
    (c.touch a).order = c.order ++ [a] := by
  rw [order_touch, List.erase_of_not_mem h]
  refine rtake_eq_self ?_
  rw [List.length_append, List.length_singleton]
  omega

lemma touch_of_full {b : α} {l : List α} (horder : c.order = b :: l) (h : a ∉ c.order)
    (hfull : c.order.length = cap) : (c.touch a).order = l ++ [a] := by
  rw [order_touch, List.erase_of_not_mem h]
  have hcut : (c.order ++ [a]).length - cap = 1 := by
    rw [List.length_append, List.length_singleton]
    omega
  rw [List.rtake, hcut, horder]
  rfl

lemma evicted_of_mem (h : a ∈ c.order) : c.evicted a = [] := by
  refine List.filter_eq_nil_iff.mpr fun x hx => ?_
  rw [touch_of_mem h]
  by_cases hxa : x = a
  · simp [hxa]
  · simp [List.mem_erase_of_ne hxa, hx]

lemma evicted_of_room (h : a ∉ c.order) (hroom : c.order.length < cap) : c.evicted a = [] := by
  refine List.filter_eq_nil_iff.mpr fun x hx => ?_
  simp [touch_of_room h hroom, hx]

lemma evicted_of_full {b : α} {l : List α} (horder : c.order = b :: l) (h : a ∉ c.order)
    (hfull : c.order.length = cap) : c.evicted a = [b] := by
  have hnodup : b ∉ l := (List.nodup_cons.mp (horder ▸ c.nodup)).1
  have hba : b ≠ a := by
    rintro rfl
    exact h (by simp [horder])
  rw [evicted, touch_of_full horder h hfull, horder, List.filter_cons_of_pos (by simp [hnodup, hba])]
  have hstay : l.filter (fun x => decide (x ∉ l ++ [a])) = [] :=
    List.filter_eq_nil_iff.mpr fun x hx => by simp [hx]
  rw [hstay]

end Cases

/-! ## Putting a list in -/

lemma order_ofList (l : List α) : (ofList cap l).order = l.eraseDups.take cap := rfl

lemma mem_ofList {l : List α} {a : α} (h : a ∈ (ofList cap l).order) : a ∈ l :=
  List.mem_eraseDups.mp (List.mem_of_mem_take h)

/-- What is already there is not put in again. -/
lemma ofList_append_cons_of_mem {l l' : List α} {a : α} (h : a ∈ l) :
    ofList cap (l ++ a :: l') = ofList cap (l ++ l') := by
  have hskip : (a :: l').removeAll l = l'.removeAll l := List.filter_cons_of_neg (by simpa using h)
  simp only [ofList, List.eraseDups_append, hskip]

lemma ofList_of_nodup {l : List α} (hnodup : l.Nodup) (hlen : l.length ≤ cap) :
    (ofList cap l).order = l := by
  rw [order_ofList, FirstDistinct.eraseDups_of_nodup hnodup, List.take_of_length_le hlen]

lemma ofList_of_full {l l' : List α} (hnodup : l.Nodup) (hfull : l.length = cap) :
    (ofList cap (l ++ l')).order = l := by
  obtain ⟨m, hm⟩ := FirstDistinct.eraseDups_prefix l l'
  rw [order_ofList, ← hm, FirstDistinct.eraseDups_of_nodup hnodup, ← hfull, List.take_left]

/-! ## Counting -/

/-- A cache in use, with the number of uses that found their element and that did not, and of the
elements driven out. -/
structure Usage (α : Type*) (cap : ℕ) where
  cache : RecencyCache α cap
  hits : ℕ
  misses : ℕ
  evictions : ℕ

namespace Usage

/-- Before the first use. -/
def start (c : RecencyCache α cap) : Usage α cap := ⟨c, 0, 0, 0⟩

/-- One use, counted. -/
def touch (u : Usage α cap) (a : α) : Usage α cap where
  cache := u.cache.touch a
  hits := if a ∈ u.cache.order then u.hits + 1 else u.hits
  misses := if a ∈ u.cache.order then u.misses else u.misses + 1
  evictions := u.evictions + (u.cache.evicted a).length

/-- Every use either finds its element or does not. -/
lemma hits_add_misses (u : Usage α cap) (l : List α) :
    (Run.run touch u l).hits + (Run.run touch u l).misses = u.hits + u.misses + l.length := by
  induction l generalizing u with
  | nil => rfl
  | cons a l ih =>
      have hone : (u.touch a).hits + (u.touch a).misses = u.hits + u.misses + 1 := by
        simp only [touch]
        split <;> omega
      rw [Run.run_cons, ih, hone, List.length_cons]
      omega

end Usage

end RecencyCache
