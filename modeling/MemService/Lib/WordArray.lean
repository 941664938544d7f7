import MemService.Lib.BigEndian

/-!
# Arrays of words in memory

An array of machine words is the concatenation of its words, each of the same number of bytes, least
significant byte first.  `image w` lays numbers out like that, and `word w` reads the word at an index.

A reader whose buffer is larger than the array sees zeros behind it; `word_append` says that the words of
the array are the same ones there.  An array of structs is a list of blocks of one length, and
`getElem?_flatMap` finds a field in it.
-/

namespace WordArray

open BigEndian

/-- The bytes of an array of words of `w` bytes. -/
def image (w : ℕ) (ns : List ℕ) : Bytes := ns.flatMap fun n => (bytes w n).reverse

/-- The word of `w` bytes at an index. -/
def word (w : ℕ) (s : Bytes) (i : ℕ) : ℕ := value ((s.drop (w * i)).take w).reverse

variable {w : ℕ} {ns ms : List ℕ}

@[simp] lemma image_nil : image w [] = [] := rfl

lemma image_cons (n : ℕ) (ns : List ℕ) : image w (n :: ns) = (bytes w n).reverse ++ image w ns := rfl

lemma image_append : image w (ns ++ ms) = image w ns ++ image w ms := by
  simp [image]

@[simp] lemma length_image : (image w ns).length = w * ns.length := by
  induction ns with
  | nil => rfl
  | cons n ns ih =>
    rw [image_cons, List.length_append, List.length_reverse, length_bytes, ih, List.length_cons]
    ring

lemma drop_image (i : ℕ) : (image w ns).drop (w * i) = image w (ns.drop i) := by
  rcases Nat.lt_or_ge ns.length i with h | h
  · rw [List.drop_eq_nil_of_le, List.drop_eq_nil_of_le (Nat.le_of_lt h), image_nil]
    rw [length_image]
    exact Nat.mul_le_mul_left w (Nat.le_of_lt h)
  · conv_lhs => rw [← List.take_append_drop i ns, image_append]
    apply List.drop_left'
    rw [length_image, List.length_take, Nat.min_eq_left h]

lemma take_image (i : ℕ) : (image w ns).take (w * i) = image w (ns.take i) := by
  rcases Nat.lt_or_ge ns.length i with h | h
  · rw [List.take_of_length_le, List.take_of_length_le (Nat.le_of_lt h)]
    rw [length_image]
    exact Nat.mul_le_mul_left w (Nat.le_of_lt h)
  · conv_lhs => rw [← List.take_append_drop i ns, image_append]
    apply List.take_left'
    rw [length_image, List.length_take, Nat.min_eq_left h]

/-- **Reading what was laid out.**  Behind the end there is nothing, which reads as zero. -/
lemma word_image (h : ∀ n ∈ ns, n < 256 ^ w) (i : ℕ) : word w (image w ns) i = ns.getD i 0 := by
  rw [word, drop_image]
  rcases Nat.lt_or_ge i ns.length with hi | hi
  · rw [List.drop_eq_getElem_cons hi, image_cons, List.take_left' (by simp), List.reverse_reverse,
      value_bytes (h _ (List.getElem_mem hi)), List.getD_eq_getElem?_getD, List.getElem?_eq_getElem hi,
      Option.getD_some]
  · rw [List.drop_eq_nil_of_le hi, List.getD_eq_getElem?_getD, List.getElem?_eq_none hi]
    simp

/-- A word that lies within the front part. -/
lemma word_append {s : Bytes} (t : Bytes) {i : ℕ} (h : w * (i + 1) ≤ s.length) :
    word w (s ++ t) i = word w s i := by
  rw [Nat.mul_add, Nat.mul_one] at h
  rw [word, word, List.drop_append_of_le_length (by omega), List.take_append_of_le_length]
  rw [List.length_drop]
  omega

/-- A field of a struct in an array of structs of `w` fields. -/
lemma getElem?_flatMap {α β : Type*} {f : α → List β} {l : List α} (h : ∀ a ∈ l, (f a).length = w)
    (i : ℕ) {k : ℕ} (hk : k < w) : (l.flatMap f)[w * i + k]? = l[i]?.bind fun a => (f a)[k]? := by
  induction l generalizing i with
  | nil => rfl
  | cons a l ih =>
    rw [List.forall_mem_cons] at h
    rw [List.flatMap_cons]
    cases i with
    | zero =>
      rw [Nat.mul_zero, Nat.zero_add, List.getElem?_append_left (by omega), List.getElem?_cons_zero,
        Option.bind_some]
    | succ i =>
      have hindex : w * (i + 1) + k - (f a).length = w * i + k := by
        rw [h.1, Nat.mul_succ]
        omega
      rw [List.getElem?_append_right, hindex, ih h.2, List.getElem?_cons_succ]
      rw [h.1, Nat.mul_succ]
      omega

end WordArray
