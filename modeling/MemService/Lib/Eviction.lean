import Mathlib.Data.Prod.Lex
import MemService.Lib.SlotTable

/-!
# Evicting the least

A table is cut down to a number of elements by taking out the least one, again and again.  Which
elements count is up to a predicate, and what is least to a key in a linear order, of which several
elements may have the same: of these the one in the first slot goes first.

`least?` finds the element to take out in one pass over the table.  `Evicts n t u` says that `u` comes
from `t` by taking out the least `n` times.  `Evicts.newest` is the selection argument, that nothing
taken out is above anything that stays; `Evicts.indexedFrom_eq` says what stays without going through
the turns, as a filter of the table.
-/

open SlotTable

namespace Eviction

variable {α β : Type*} [LinearOrder β] {cap : ℕ} {select : α → Bool} {key : α → β}
  {t u : SlotTable α cap}

/-! ## The least element -/

/-- One element of the pass: the first of those with the least key stays. -/
def keepLeast {σ : Type*} (select : σ → Bool) (key : σ → β) (best : Option σ) (s : σ) : Option σ :=
  if select s then
    match best with
    | none => some s
    | some b => if key s < key b then some s else some b
  else best

/-- What the pass has is the element or what it had. -/
lemma eq_or_of_keepLeast {σ : Type*} {select : σ → Bool} {key : σ → β} {best : Option σ} {s b : σ}
    (h : keepLeast select key best s = some b) : b = s ∨ best = some b := by
  unfold keepLeast at h
  split at h
  · split at h
    · exact .inl (Option.some.inj h).symm
    · split at h
      · exact .inl (Option.some.inj h).symm
      · exact .inr h
  · exact .inr h

/-- Of a selected element and what it had, it has the least. -/
lemma exists_keepLeast {σ : Type*} {select : σ → Bool} (key : σ → β) (best : Option σ) {s : σ}
    (hs : select s = true) : ∃ b, keepLeast select key best s = some b ∧ key b ≤ key s ∧
      ∀ c, best = some c → key b ≤ key c := by
  cases best with
  | none => exact ⟨s, by simp [keepLeast, hs], le_refl _, nofun⟩
  | some c =>
      by_cases hlt : key s < key c
      · exact ⟨s, by simp [keepLeast, hs, hlt], le_refl _, fun _ h => Option.some.inj h ▸ hlt.le⟩
      · exact ⟨c, by simp [keepLeast, hs, hlt], not_lt.mp hlt,
          fun _ h => Option.some.inj h ▸ le_refl _⟩

/-- The slot and the value of the least element that is selected. -/
def least? (select : α → Bool) (key : α → β) (t : SlotTable α cap) : Option (ℕ × α) :=
  (t.indexedFrom 0).foldl (keepLeast (fun s => select s.2) fun s => key s.2) none

/-- The order in which elements go: by their keys, and by their slots among equals. -/
def rank (key : α → β) (s : ℕ × α) : β ×ₗ ℕ := toLex (key s.2, s.1)

/-- `a` stands in slot `i`, is selected, and is least. -/
structure IsLeast (select : α → Bool) (key : α → β) (t : SlotTable α cap) (i : ℕ) (a : α) :
    Prop where
  get : t.get i = some a
  selected : select a = true
  le : ∀ j b, t.get j = some b → select b = true → rank key (i, a) ≤ rank key (j, b)

lemma rank_lt_iff {s q : ℕ × α} :
    rank key s < rank key q ↔ key s.2 < key q.2 ∨ key s.2 = key q.2 ∧ s.1 < q.1 := by
  simp [rank, Prod.Lex.lt_iff]

lemma key_le_of_rank_le {s q : ℕ × α} (h : rank key s ≤ rank key q) : key s.2 ≤ key q.2 :=
  (Prod.Lex.le_iff.mp h).elim le_of_lt fun h => h.1.le

variable (select key) in
/-- In slot order, the first of those with the least key is the one of the least rank. -/
lemma foldl_keepLeast_rank {l : List (ℕ × α)} (hl : l.Pairwise fun s q => s.1 < q.1)
    {best : Option (ℕ × α)} (hbest : ∀ b, best = some b → ∀ s ∈ l, b.1 < s.1) :
    l.foldl (keepLeast (fun s => select s.2) fun s => key s.2) best =
      l.foldl (keepLeast (fun s => select s.2) (rank key)) best := by
  induction l generalizing best with
  | nil => rfl
  | cons a l ih =>
      obtain ⟨ha, hl⟩ := List.pairwise_cons.mp hl
      have hstep : keepLeast (fun s => select s.2) (fun s => key s.2) best a =
          keepLeast (fun s => select s.2) (rank key) best a := by
        cases best with
        | none => rfl
        | some b =>
            have hb := hbest b rfl a List.mem_cons_self
            have hlt : rank key a < rank key b ↔ key a.2 < key b.2 := by
              rw [rank_lt_iff]
              exact or_iff_left fun h => absurd h.2 (Nat.not_lt.mpr hb.le)
            simp only [keepLeast, hlt]
      rw [List.foldl_cons, List.foldl_cons, hstep]
      refine ih hl fun b hb s hs => ?_
      rcases eq_or_of_keepLeast hb with rfl | hfrom
      · exact ha s hs
      · exact hbest b hfrom s (List.mem_cons_of_mem _ hs)

/-- What the pass has when it has seen a list: nothing if nothing there is selected, or the least of
what is. -/
lemma foldl_keepLeast {σ γ : Type*} [LinearOrder γ] (select : σ → Bool) (key : σ → γ) (l : List σ)
    (best : Option σ) :
    match l.foldl (keepLeast select key) best with
    | none => best = none ∧ ∀ s ∈ l, select s = false
    | some b => (b ∈ l ∧ select b = true ∨ best = some b) ∧
        (∀ c, best = some c → key b ≤ key c) ∧
        ∀ s ∈ l, select s = true → key b ≤ key s := by
  induction l generalizing best with
  | nil => cases best <;> simp
  | cons a l ih =>
      have h := ih (keepLeast select key best a)
      rw [List.foldl_cons]
      cases ha : select a with
      | false =>
          rw [show keepLeast select key best a = best by simp [keepLeast, ha]] at h ⊢
          cases hres : l.foldl (keepLeast select key) best <;> rw [hres] at h <;>
            simp only [List.mem_cons, forall_eq_or_imp, ha, Bool.false_eq_true, false_implies,
              true_and] at h ⊢
          · exact h
          · exact ⟨h.1.imp (fun hb => ⟨.inr hb.1, hb.2⟩) id, h.2⟩
      | true =>
          obtain ⟨b, hb, hba, hbest⟩ := exists_keepLeast key best ha
          rw [hb] at h ⊢
          cases hres : l.foldl (keepLeast select key) (some b) with
          | none =>
              rw [hres] at h
              exact absurd h.1 (by simp)
          | some d =>
              rw [hres] at h
              obtain ⟨hmem, hle, hall⟩ := h
              have hdb := hle b rfl
              refine ⟨?_, fun c hc => hdb.trans (hbest c hc), ?_⟩
              · rcases hmem with ⟨hm, hs⟩ | hm
                · exact .inl ⟨List.mem_cons_of_mem _ hm, hs⟩
                · obtain rfl := Option.some.inj hm
                  rcases eq_or_of_keepLeast hb with rfl | hfrom
                  · exact .inl ⟨List.mem_cons_self, ha⟩
                  · exact .inr hfrom
              · intro s hs hsel
                rcases List.mem_cons.mp hs with rfl | hs
                · exact hdb.trans hba
                · exact hall s hs hsel

lemma isLeast_of_least? {i : ℕ} {a : α} (h : least? select key t = some (i, a)) :
    IsLeast select key t i a := by
  rw [least?, foldl_keepLeast_rank select key (t.sorted_indexedFrom 0) (by rintro _ ⟨⟩)] at h
  have hfold := foldl_keepLeast (fun s => select s.2) (rank key) (t.indexedFrom 0) none
  rw [h] at hfold
  obtain ⟨hmem, -, hall⟩ := hfold
  obtain ⟨hm, hs⟩ := hmem.resolve_right (by simp)
  exact ⟨get_of_mem_indexedFrom hm, hs, fun j b hb =>
    hall (j, b) (mem_indexedFrom_of_get hb)⟩

lemma least?_eq_none (h : least? select key t = none) :
    t.entries.countP select = 0 := by
  have hfold := foldl_keepLeast (fun s => select s.2) (fun s => key s.2) (t.indexedFrom 0) none
  rw [show (t.indexedFrom 0).foldl (keepLeast (fun s => select s.2) fun s => key s.2) none = none
    from h] at hfold
  refine List.countP_eq_zero.mpr fun a ha => ?_
  obtain ⟨i, hi⟩ := mem_entries.mp ha
  simp [hfold.2 (i, a) (mem_indexedFrom_of_get hi)]

/-! ## Taking it out, again and again -/

/-- `u` comes from `t` by taking out the least selected element `n` times. -/
inductive Evicts (select : α → Bool) (key : α → β) : ℕ → SlotTable α cap → SlotTable α cap → Prop
  | refl (t : SlotTable α cap) : Evicts select key 0 t t
  | step {n : ℕ} {t u : SlotTable α cap} {i : ℕ} {a : α} (least : IsLeast select key t i a)
      (rest : Evicts select key n (t.clear i) u) : Evicts select key (n + 1) t u

namespace Evicts

variable {n : ℕ}

/-- Nothing new comes in. -/
lemma get_of_get (h : Evicts select key n t u) {i : ℕ} {a : α} (hu : u.get i = some a) :
    t.get i = some a := by
  induction h with
  | refl => exact hu
  | step least rest ih =>
      have h := ih hu
      rw [get_clear] at h
      split at h
      · cases h
      · exact h

/-- What is not selected stays. -/
lemma get_of_not_selected (h : Evicts select key n t u) {i : ℕ} {a : α} (ht : t.get i = some a)
    (ha : select a = false) : u.get i = some a := by
  induction h with
  | refl => exact ht
  | @step _ t _ j b least rest ih =>
      refine ih ?_
      rw [get_clear, if_neg]
      · exact ht
      · rintro rfl
        have hba : a = b := Option.some.inj (ht.symm.trans least.get)
        rw [hba, least.selected] at ha
        cases ha

/-- What is taken out is selected, and not above anything selected that stays. -/
lemma newest (h : Evicts select key n t u) {i j : ℕ} {a b : α} (ht : t.get i = some a)
    (hu : u.get i = none) (hstays : u.get j = some b) (hb : select b = true) : key a ≤ key b := by
  induction h with
  | refl => exact absurd (ht.symm.trans hu) (by simp)
  | @step _ t u k c least rest ih =>
      by_cases hik : i = k
      · subst hik
        obtain rfl := Option.some.inj (ht.symm.trans least.get)
        have hbefore := rest.get_of_get hstays
        rw [get_clear] at hbefore
        split at hbefore
        · cases hbefore
        · exact key_le_of_rank_le (least.le j b hbefore hb)
      · refine ih ?_ hu hstays
        rw [get_clear, if_neg hik, ht]

/-- Each turn takes one selected element. -/
lemma countP (h : Evicts select key n t u) :
    u.entries.countP select + n = t.entries.countP select := by
  induction h with
  | refl => rfl
  | step least rest ih =>
      have h := countP_clear_of_selected least.get least.selected
      omega

lemma count (h : Evicts select key n t u) : u.count + n = t.count := by
  induction h with
  | refl => rfl
  | step least rest ih =>
      have h := count_clear_of_used least.get
      omega

end Evicts

/-! ## What stays -/

/-- How many of the selected elements of a list go after `s`. -/
def above (select : α → Bool) (key : α → β) (l : List (ℕ × α)) (s : ℕ × α) : ℕ :=
  l.countP fun q => select q.2 && decide (rank key s < rank key q)

/-- What is left of a list that is cut down to `limit` selected elements. -/
def spared (select : α → Bool) (key : α → β) (limit : ℕ) (l : List (ℕ × α)) : List (ℕ × α) :=
  l.filter fun s => !select s.2 || decide (above select key l s < limit)

lemma countP_indexedFrom (t : SlotTable α cap) (select : α → Bool) :
    (t.indexedFrom 0).countP (fun s => select s.2) = t.entries.countP select := by
  rw [← map_snd_indexedFrom, List.countP_map]
  rfl

/-- An element does not go after itself. -/
lemma above_lt {l : List (ℕ × α)} {s : ℕ × α} (hs : s ∈ l) (hselected : select s.2 = true) :
    above select key l s < l.countP fun q => select q.2 := by
  have hsplit := List.countP_eq_countP_filter_add l (fun q => select q.2)
    fun q => decide (rank key s < rank key q)
  have hself : 0 < (l.filter fun q => !decide (rank key s < rank key q)).countP fun q => select q.2 := by
    rw [List.countP_pos_iff]
    exact ⟨s, List.mem_filter.mpr ⟨hs, by simp⟩, hselected⟩
  rw [List.countP_filter] at hsplit
  rw [above]
  omega

section Turns

variable {i : ℕ} {a : α}

lemma IsLeast.ne_slot (h : IsLeast select key t i a) {q : ℕ × α} (hq : q ∈ t.indexedFrom 0)
    (hne : q ≠ (i, a)) : q.1 ≠ i := by
  rintro rfl
  have heq : q.2 = a := Option.some.inj ((get_of_mem_indexedFrom hq).symm.trans h.get)
  exact hne (Prod.ext rfl heq)

/-- The others go after the least. -/
lemma IsLeast.countP_clear (h : IsLeast select key t i a) :
    above select key (t.indexedFrom 0) (i, a) = (t.clear i).entries.countP select := by
  rw [← countP_indexedFrom, indexedFrom_clear, List.countP_filter, above]
  refine List.countP_congr fun q hq => ?_
  by_cases heq : q = (i, a)
  · simp [heq]
  · have hslot := h.ne_slot hq heq
    have hle : select q.2 = true → rank key (i, a) < rank key q := by
      intro hselected
      refine lt_of_le_of_ne (h.le q.1 q.2 (get_of_mem_indexedFrom hq) hselected) fun hrank => hslot ?_
      exact (congrArg (fun r => (ofLex r).2) hrank).symm
    simp only [Bool.and_eq_true, decide_eq_true_eq, bne_iff_ne, ne_eq, hslot, not_false_eq_true,
      and_true]
    exact ⟨fun hq => hq.1, fun hq => ⟨hq, hle hq⟩⟩

/-- What goes before an element does not matter for it. -/
lemma IsLeast.above_clear (h : IsLeast select key t i a) {s : ℕ × α} (hs : t.get s.1 = some s.2)
    (hselected : select s.2 = true) :
    above select key ((t.clear i).indexedFrom 0) s = above select key (t.indexedFrom 0) s := by
  rw [indexedFrom_clear, above, List.countP_filter, above]
  refine List.countP_congr fun q hq => ?_
  by_cases heq : q = (i, a)
  · have hnot : ¬ rank key s < rank key q := by
      rw [heq]
      exact not_lt.mpr (h.le s.1 s.2 hs hselected)
    simp [hnot]
  · simp [h.ne_slot hq heq]

/-- A selected element stays just when fewer go after it than stay. -/
lemma Evicts.get_iff {n : ℕ} (h : Evicts select key n t u) (ht : t.get i = some a)
    (ha : select a = true) :
    u.get i = some a ↔ above select key (t.indexedFrom 0) (i, a) < u.entries.countP select := by
  induction h with
  | refl t =>
      refine iff_of_true ht ?_
      rw [← countP_indexedFrom]
      exact above_lt (mem_indexedFrom_of_get ht) ha
  | @step n t u k c least rest ih =>
      by_cases hik : i = k
      · subst hik
        obtain rfl := Option.some.inj (ht.symm.trans least.get)
        refine iff_of_false (fun hu => ?_) ?_
        · have := rest.get_of_get hu
          rw [get_clear, if_pos rfl] at this
          cases this
        · have := rest.countP
          rw [least.countP_clear]
          omega
      · rw [← least.above_clear ht ha]
        exact ih (by rw [get_clear, if_neg hik, ht])

end Turns

/-- A cut down to `limit` leaves what fewer than `limit` others go after, in one go. -/
lemma Evicts.indexedFrom_eq {n limit : ℕ} (h : Evicts select key n t u)
    (hfew : u.entries.countP select = min limit (t.entries.countP select)) :
    u.indexedFrom 0 = spared select key limit (t.indexedFrom 0) := by
  refine indexedFrom_eq_filter (fun _ _ hu => h.get_of_get hu) fun i a ht => ?_
  cases ha : select a with
  | false => exact iff_of_true (h.get_of_not_selected ht ha) (by simp)
  | true =>
      rw [h.get_iff ht ha, hfew, ← countP_indexedFrom t, Nat.lt_min]
      simp [above_lt (mem_indexedFrom_of_get ht) ha]

end Eviction
