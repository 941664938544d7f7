import Mathlib.Data.List.Induction
import Mathlib.Data.List.Nodup
import Mathlib.Data.List.Perm.Subperm

/-!
# The distinct values of a sequence

`List.eraseDups` keeps of every value the first occurrence.  Of a sequence `c` the values before `n`,
each once and in the order in which they come up, are `distinctBefore c n`.

What a search for new values needs is here: one step of it (`distinctBefore_succ`), that what was found
stays the front of what will be found (`prefix_distinctBefore`), and that `k` indices with different values
are enough to find `k` of them (`le_length_distinctBefore`).
-/

namespace FirstDistinct

variable {α : Type*} [BEq α] [LawfulBEq α]

/-! ## Lists -/

lemma eraseDups_concat_of_mem {l : List α} {a : α} (h : a ∈ l) :
    (l ++ [a]).eraseDups = l.eraseDups := by
  have hnone : [a].removeAll l = [] := List.filter_eq_nil_iff.mpr (by simpa using h)
  rw [List.eraseDups_append, hnone, List.eraseDups_nil, List.append_nil]

lemma eraseDups_concat_of_notMem {l : List α} {a : α} (h : a ∉ l) :
    (l ++ [a]).eraseDups = l.eraseDups ++ [a] := by
  have hone : [a].removeAll l = [a] := List.filter_eq_self.mpr (by simpa using h)
  rw [List.eraseDups_append, hone, List.eraseDups_cons, List.filter_nil, List.eraseDups_nil]

lemma nodup_eraseDups (l : List α) : l.eraseDups.Nodup := by
  induction l using List.reverseRecOn with
  | nil => exact List.nodup_nil
  | append_singleton l a ih =>
      by_cases h : a ∈ l
      · rwa [eraseDups_concat_of_mem h]
      · rw [eraseDups_concat_of_notMem h]
        refine List.nodup_append.mpr ⟨ih, List.nodup_singleton a, ?_⟩
        rintro x hx y hy rfl
        exact h (List.mem_eraseDups.mp (List.mem_singleton.mp hy ▸ hx))

lemma eraseDups_of_nodup {l : List α} (h : l.Nodup) : l.eraseDups = l := by
  induction l using List.reverseRecOn with
  | nil => rfl
  | append_singleton l a ih =>
      obtain ⟨hl, -, hne⟩ := List.nodup_append.mp h
      rw [eraseDups_concat_of_notMem fun hmem => hne a hmem a (by simp) rfl, ih hl]

lemma eraseDups_prefix (l l' : List α) : l.eraseDups <+: (l ++ l').eraseDups := by
  rw [List.eraseDups_append]
  exact List.prefix_append _ _

/-! ## Sequences -/

/-- The values of a sequence before an index, each where it comes up first. -/
def distinctBefore (c : ℕ → α) (n : ℕ) : List α := ((List.range n).map c).eraseDups

variable {c : ℕ → α} {k m n : ℕ}

lemma mem_distinctBefore {a : α} : a ∈ distinctBefore c n ↔ ∃ i < n, c i = a := by
  simp [distinctBefore]

lemma nodup_distinctBefore (c : ℕ → α) (n : ℕ) : (distinctBefore c n).Nodup := nodup_eraseDups _

/-- One step of the search. -/
lemma distinctBefore_succ (c : ℕ → α) (n : ℕ) [Decidable (c n ∈ distinctBefore c n)] :
    distinctBefore c (n + 1) =
      if c n ∈ distinctBefore c n then distinctBefore c n else distinctBefore c n ++ [c n] := by
  have hmem : c n ∈ distinctBefore c n ↔ c n ∈ (List.range n).map c := List.mem_eraseDups
  split
  · rename_i h
    rw [distinctBefore, List.range_succ, List.map_append, List.map_singleton,
      eraseDups_concat_of_mem (hmem.mp h), distinctBefore]
  · rename_i h
    rw [distinctBefore, List.range_succ, List.map_append, List.map_singleton,
      eraseDups_concat_of_notMem fun h' => h (hmem.mpr h'), distinctBefore]

/-- What has been found stays in front. -/
lemma prefix_distinctBefore (h : m ≤ n) : distinctBefore c m <+: distinctBefore c n := by
  obtain ⟨k, rfl⟩ := Nat.exists_eq_add_of_le h
  rw [distinctBefore, distinctBefore, List.range_add, List.map_append]
  exact eraseDups_prefix _ _

lemma take_distinctBefore (h : m ≤ n) (hk : k ≤ (distinctBefore c m).length) :
    (distinctBefore c n).take k = (distinctBefore c m).take k := by
  obtain ⟨l, hl⟩ := @prefix_distinctBefore _ _ _ c _ _ h
  rw [← hl, List.take_append_of_le_length hk]

/-- Indices with different values find as many values. -/
lemma le_length_distinctBefore {is : List ℕ} (his : ∀ i ∈ is, i < n) (hnodup : (is.map c).Nodup) :
    is.length ≤ (distinctBefore c n).length := by
  have hsubset : is.map c ⊆ distinctBefore c n := by
    intro a ha
    obtain ⟨i, hi, rfl⟩ := List.mem_map.mp ha
    exact mem_distinctBefore.mpr ⟨i, his i hi, rfl⟩
  simpa using (List.subperm_of_subset hnodup hsubset).length_le

end FirstDistinct
