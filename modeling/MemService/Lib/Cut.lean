import Mathlib.Data.List.Infix
import Mathlib.Data.Set.Basic
import Mathlib.Tactic.Lemma

/-!
# Cutting a list at a mark

A list is put together as `a ++ m ++ b`, where the mark `m` is one of a set of marks and the two sides
are not empty.  `unique_iff` says when the result can be cut in only one way: just when no mark stands
in `a` behind its first element, and none in `b` before its last.

The marks are of one length and must not overlap in part (`Apart`): otherwise a mark could begin in one
side and end inside the mark of the cut.  Marks of one element never overlap.
-/

namespace Cut

variable {α : Type*} {a a' b b' m m' t : List α} {M : Set (List α)}

/-- Marks of one length, none of which begins inside another one. -/
structure Apart (M : Set (List α)) : Prop where
  length_eq : ∀ m ∈ M, ∀ m' ∈ M, m.length = m'.length
  overlap : ∀ m ∈ M, ∀ m' ∈ M, ∀ x y z : List α, m = x ++ y → m' = y ++ z → x ≠ [] → y = []

lemma apart_of_length_one (h : ∀ m ∈ M, m.length = 1) : Apart M where
  length_eq m hm m' hm' := (h m hm).trans (h m' hm').symm
  overlap m hm m' _ x y z hx _ hne := by
    have hlen := h m hm
    rw [hx, List.length_append] at hlen
    have hpos := List.length_pos_of_ne_nil hne
    exact List.eq_nil_of_length_eq_zero (by omega)

lemma infix_tail (ha : a' ≠ []) (h : a = a' ++ (m' ++ t)) : m' <:+: a.tail := by
  obtain ⟨x, a', rfl⟩ := List.exists_cons_of_ne_nil ha
  exact ⟨a', t, by rw [h, List.append_assoc]; rfl⟩

lemma infix_dropLast (hb : b' ≠ []) (h : b = t ++ (m' ++ b')) : m' <:+: b.dropLast := by
  refine ⟨t, b'.dropLast, ?_⟩
  rw [h, ← List.append_assoc, List.dropLast_append_of_ne_nil hb]

/-- Where the marks of two cuts do not begin together, the first one lies in front of the second. -/
lemma Apart.front (hM : Apart M) (hm : m ∈ M) (hm' : m' ∈ M) (ht : t ≠ [])
    (h : m' ++ b' = t ++ (m ++ b)) : ∃ u, t = m' ++ u := by
  rcases List.append_eq_append_iff.mp h with ⟨u, hu, -⟩ | ⟨u, hu, hrest⟩
  · exact ⟨u, hu⟩
  · rcases List.append_eq_append_iff.mp hrest with ⟨z, hz, -⟩ | ⟨z, hz, -⟩
    · have hlen := hM.length_eq m hm m' hm'
      have hpos := List.length_pos_of_ne_nil ht
      rw [hu, hz, List.length_append, List.length_append] at hlen
      omega
    · have hnil := hM.overlap m' hm' m hm t u z hu hz ht
      exact ⟨[], by rw [hu, hnil, List.append_nil, List.append_nil]⟩

/-- **Two cuts of one list.** They agree, or the mark of the first stands in a side of the second. -/
lemma Apart.eq_or_inside (hM : Apart M) (hm : m ∈ M) (hm' : m' ∈ M) (ha : a' ≠ []) (hb : b' ≠ [])
    (h : a' ++ (m' ++ b') = a ++ (m ++ b)) :
    (a' = a ∧ m' = m ∧ b' = b) ∨ m' <:+: a.tail ∨ m' <:+: b.dropLast := by
  rcases List.append_eq_append_iff.mp h with ⟨t, rfl, hrest⟩ | ⟨t, rfl, hrest⟩
  · by_cases ht : t = []
    · subst ht
      rw [List.nil_append] at hrest
      obtain ⟨hmark, hside⟩ := List.append_inj hrest (hM.length_eq m' hm' m hm)
      exact .inl ⟨(List.append_nil a').symm, hmark, hside⟩
    · obtain ⟨u, rfl⟩ := hM.front hm hm' ht hrest
      exact .inr (.inl (infix_tail ha rfl))
  · by_cases ht : t = []
    · subst ht
      rw [List.nil_append] at hrest
      obtain ⟨hmark, hside⟩ := List.append_inj hrest (hM.length_eq m hm m' hm')
      exact .inl ⟨List.append_nil a, hmark.symm, hside.symm⟩
    · obtain ⟨u, rfl⟩ := hM.front hm' hm ht hrest
      rw [List.append_assoc] at hrest
      exact .inr (.inr (infix_dropLast hb (List.append_cancel_left hrest)))

/-- **A list is cut in one way only** just when no mark stands inside its sides. -/
lemma Apart.unique_iff (hM : Apart M) (hm : m ∈ M) (hne : ∀ m ∈ M, m ≠ []) (ha : a ≠ [])
    (hb : b ≠ []) :
    (∀ a' m' b', a' ≠ [] → b' ≠ [] → m' ∈ M → a' ++ (m' ++ b') = a ++ (m ++ b) →
      a' = a ∧ m' = m ∧ b' = b) ↔
    ∀ m' ∈ M, ¬ m' <:+: a.tail ∧ ¬ m' <:+: b.dropLast := by
  constructor
  · intro hunique m' hm'
    have hpos := List.length_pos_of_ne_nil (hne m' hm')
    constructor
    · rintro ⟨x, y, hxy⟩
      obtain ⟨c, hcut⟩ : ∃ c, a = (c :: x) ++ (m' ++ y) := by
        refine ⟨a.head ha, ?_⟩
        rw [List.cons_append, ← List.append_assoc, hxy, List.cons_head_tail]
      obtain ⟨heq, -, -⟩ := hunique (c :: x) m' (y ++ (m ++ b)) (by simp) (by simp [hb]) hm'
        (by rw [hcut]; simp)
      have hlen := congrArg List.length (heq.trans hcut)
      simp only [List.length_append] at hlen
      omega
    · rintro ⟨x, y, hxy⟩
      obtain ⟨c, hcut⟩ : ∃ c, b = x ++ (m' ++ (y ++ [c])) := by
        refine ⟨b.getLast hb, ?_⟩
        rw [← List.append_assoc, ← List.append_assoc, hxy, List.dropLast_append_getLast]
      obtain ⟨-, -, heq⟩ := hunique (a ++ (m ++ x)) m' (y ++ [c]) (by simp [ha])
        (by simp) hm' (by rw [hcut]; simp)
      have hlen := congrArg List.length (heq.trans hcut)
      simp only [List.length_append] at hlen
      omega
  · intro hno a' m' b' ha' hb' hm' h
    rcases hM.eq_or_inside hm hm' ha' hb' h with heq | hin | hin
    · exact heq
    · exact absurd hin (hno m' hm').1
    · exact absurd hin (hno m' hm').2

end Cut
