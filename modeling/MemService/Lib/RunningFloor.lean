import Mathlib.Data.List.Induction
import Mathlib.Data.List.Perm.Basic
import Mathlib.Order.Bounds.Basic

/-!
# Running minima with a marker for "unset"

Three ways to keep the least value seen so far when the least element `⊥` of the order doubles as
the mark of a floor that has not been set.  They differ in what a `⊥` among the values does:

* `lower` takes it as the new floor, and the next value then replaces it, whatever it is: the fold
  is the minimum of what follows the last `⊥`;
* `lowerSet` passes over it, and over an unset floor: the fold is the minimum of the other values;
* `lowerTo` starts from a floor that is set and passes over `⊥`.

`floorOf_isFloor_iff` says for which lists the first of them is the minimum all the same.
-/

namespace RunningFloor

variable {α : Type*} [LinearOrder α] [OrderBot α]

/-! ## The three steps -/

/-- Keep the lower one, an unset floor counting as higher than every value. -/
def lower (floor v : α) : α := if floor = ⊥ ∨ v < floor then v else floor

/-- As `lower`, but an unset value does not lower a floor that is set. -/
def lowerSet (floor v : α) : α := if floor = ⊥ ∨ v ≠ ⊥ ∧ v < floor then v else floor

/-- Keep the lower one, an unset value counting as higher than every floor. -/
def lowerTo (floor v : α) : α := if v ≠ ⊥ ∧ v < floor then v else floor

@[simp] lemma lower_bot_left (v : α) : lower ⊥ v = v := by simp [lower]

@[simp] lemma lower_bot_right (floor : α) : lower floor ⊥ = ⊥ := by
  unfold lower
  split
  · rfl
  · rename_i h
    simp only [not_or, bot_lt_iff_ne_bot, not_not] at h
    exact absurd h.2 h.1

lemma lower_of_ne_bot {floor v : α} (h : floor ≠ ⊥) : lower floor v = min floor v := by
  unfold lower
  rcases lt_or_ge v floor with hlt | hge
  · simp [hlt, hlt.le]
  · simp [h, hge]

lemma lowerSet_bot_left (v : α) : lowerSet ⊥ v = v := by simp [lowerSet]

lemma lowerSet_bot_right (floor : α) : lowerSet floor ⊥ = floor := by
  unfold lowerSet
  split
  · rename_i h
    exact (by simpa using h : floor = ⊥).symm
  · rfl

lemma lowerSet_of_ne_bot {floor v : α} (hf : floor ≠ ⊥) (hv : v ≠ ⊥) :
    lowerSet floor v = min floor v := by
  unfold lowerSet
  rcases lt_or_ge v floor with hlt | hge
  · simp [hv, hlt, hlt.le]
  · simp [hf, hge]

lemma lowerTo_bot_right (floor : α) : lowerTo floor ⊥ = floor := by simp [lowerTo]

lemma lowerTo_of_ne_bot {floor v : α} (hv : v ≠ ⊥) : lowerTo floor v = min floor v := by
  unfold lowerTo
  rcases lt_or_ge v floor with hlt | hge
  · simp [hv, hlt, hlt.le]
  · simp [hge]

/-! ## The order of the values -/

instance : RightCommutative (lowerSet : α → α → α) where
  right_comm a b c := by
    by_cases hb : b = ⊥
    · simp only [hb, lowerSet_bot_right]
    by_cases hc : c = ⊥
    · simp only [hc, lowerSet_bot_right]
    by_cases ha : a = ⊥
    · simp only [ha, lowerSet_bot_left, lowerSet_of_ne_bot hb hc, lowerSet_of_ne_bot hc hb, min_comm]
    · have hab : min a b ≠ ⊥ := by simp [min_eq_bot, ha, hb]
      have hac : min a c ≠ ⊥ := by simp [min_eq_bot, ha, hc]
      rw [lowerSet_of_ne_bot ha hb, lowerSet_of_ne_bot ha hc, lowerSet_of_ne_bot hab hc,
        lowerSet_of_ne_bot hac hb, inf_right_comm]

instance : RightCommutative (lowerTo : α → α → α) where
  right_comm a b c := by
    by_cases hb : b = ⊥
    · simp only [hb, lowerTo_bot_right]
    by_cases hc : c = ⊥
    · simp only [hc, lowerTo_bot_right]
    rw [lowerTo_of_ne_bot hb, lowerTo_of_ne_bot hc, lowerTo_of_ne_bot hc, lowerTo_of_ne_bot hb,
      inf_right_comm]

/-! ## Floors of whole lists -/

/-- The floor `lower` leaves behind. -/
def floorOf (vs : List α) : α := vs.foldl lower ⊥

/-- The least of the values; unset when there are none. -/
def IsFloor (floor : α) (vs : List α) : Prop :=
  (vs = [] → floor = ⊥) ∧ (vs ≠ [] → IsLeast {v | v ∈ vs} floor)

@[simp] lemma floorOf_nil : floorOf ([] : List α) = ⊥ := rfl

@[simp] lemma floorOf_concat (vs : List α) (v : α) : floorOf (vs ++ [v]) = lower (floorOf vs) v := by
  simp [floorOf]

lemma isFloor_iff {floor : α} {vs : List α} (h : vs ≠ []) :
    IsFloor floor vs ↔ IsLeast {v | v ∈ vs} floor := by
  simp [IsFloor, h]

/-- A floor is `⊥` just when a `⊥` is among the values or there are none. -/
lemma IsFloor.bot_iff {floor : α} {vs : List α} (h : IsFloor floor vs) (hne : vs ≠ []) :
    floor = ⊥ ↔ ⊥ ∈ vs := by
  obtain ⟨hmem, hle⟩ := h.2 hne
  constructor
  · rintro rfl
    exact hmem
  · intro hbot
    exact le_bot_iff.mp (hle hbot)

/-- Without a `⊥` among the values the fold is their minimum. -/
lemma isFloor_floorOf {vs : List α} (h : ⊥ ∉ vs) : IsFloor (floorOf vs) vs := by
  induction vs using List.reverseRecOn with
  | nil => simp [IsFloor]
  | append_singleton vs v ih =>
    simp only [List.mem_append, List.mem_singleton, not_or] at h
    rw [isFloor_iff (by simp), floorOf_concat]
    by_cases hvs : vs = []
    · subst hvs
      simp [IsLeast, lowerBounds]
    · have hleast := (isFloor_iff hvs).mp (ih h.1)
      have hne : floorOf vs ≠ ⊥ := by
        intro hbot
        exact h.1 (hbot ▸ hleast.1)
      rw [lower_of_ne_bot hne]
      have hset : {w | w ∈ vs ++ [v]} = {w | w ∈ vs} ∪ {v} := by
        ext w
        simp [or_comm]
      rw [hset]
      exact hleast.union isLeast_singleton

/-- The value that comes last decides, when it is `⊥` or follows one. -/
lemma floorOf_eq_bot_iff {vs : List α} (h : vs ≠ []) : floorOf vs = ⊥ ↔ vs.getLast? = some ⊥ := by
  induction vs using List.reverseRecOn with
  | nil => exact absurd rfl h
  | append_singleton vs v _ =>
    rw [floorOf_concat, List.getLast?_concat, Option.some_inj]
    constructor
    · intro hbot
      by_cases hf : floorOf vs = ⊥
      · rwa [hf, lower_bot_left] at hbot
      · rw [lower_of_ne_bot hf, min_eq_bot] at hbot
        exact hbot.resolve_left hf
    · rintro rfl
      exact lower_bot_right _

/-- **The fold against the minimum.** Keeping the lower one with `⊥` for "unset" finds the minimum of
just the lists without a `⊥` and those that end in one. -/
theorem floorOf_isFloor_iff {vs : List α} :
    IsFloor (floorOf vs) vs ↔ ⊥ ∉ vs ∨ vs.getLast? = some ⊥ := by
  by_cases hvs : vs = []
  · subst hvs
    simp [IsFloor]
  constructor
  · intro h
    rw [← floorOf_eq_bot_iff hvs, h.bot_iff hvs]
    exact (em _).symm
  · rintro (h | h)
    · exact isFloor_floorOf h
    · rw [isFloor_iff hvs, (floorOf_eq_bot_iff hvs).mpr h]
      exact ⟨List.mem_of_getLast? h, fun _ _ => bot_le⟩

/-- The fold does not depend on the order of the values when all are `⊥` or none is. -/
lemma floorOf_perm {vs ws : List α} (hp : vs.Perm ws) (h : (∀ v ∈ vs, v = ⊥) ∨ ∀ v ∈ vs, v ≠ ⊥) :
    floorOf vs = floorOf ws := by
  by_cases hvs : vs = []
  · subst hvs
    rw [hp.nil_eq]
  have hws : ws ≠ [] := fun hnil => hvs (hnil ▸ hp).eq_nil
  rcases h with h | h
  · have hlast : ∀ us : List α, us ≠ [] → (∀ v ∈ us, v = ⊥) → floorOf us = ⊥ := by
      intro us hus hall
      rw [floorOf_eq_bot_iff hus, List.getLast?_eq_some_getLast hus]
      exact congrArg some (hall _ (List.getLast_mem hus))
    rw [hlast vs hvs h, hlast ws hws fun v hv => h v (hp.mem_iff.mpr hv)]
  · have hv := (isFloor_iff hvs).mp (isFloor_floorOf fun hb => h ⊥ hb rfl)
    have hw := (isFloor_iff hws).mp (isFloor_floorOf fun hb => h ⊥ (hp.mem_iff.mpr hb) rfl)
    have hset : {v | v ∈ ws} = {v | v ∈ vs} := by
      ext v
      exact hp.mem_iff.symm
    rw [hset] at hw
    exact hv.unique hw

/-- The fold depends on the order of the values as soon as some of them are `⊥` and some are not. -/
lemma exists_perm_floorOf_ne {β : Type*} {g : β → α} {l : List β} {x y : β} (hx : x ∈ l) (hy : y ∈ l)
    (hgx : g x = ⊥) (hgy : g y ≠ ⊥) :
    ∃ l₁ l₂ : List β, l₁.Perm l ∧ l₂.Perm l ∧ floorOf (l₁.map g) ≠ floorOf (l₂.map g) := by
  have hlast : ∀ z ∈ l, ∃ l' : List β, l'.Perm l ∧ l' ≠ [] ∧ (l'.map g).getLast? = some (g z) := by
    intro z hz
    obtain ⟨a, b, rfl⟩ := List.append_of_mem hz
    refine ⟨a ++ b ++ [z], ?_, by simp, by simp⟩
    rw [List.append_assoc]
    exact List.Perm.append_left a (List.perm_append_singleton z b)
  obtain ⟨l₁, hp₁, hne₁, hl₁⟩ := hlast x hx
  obtain ⟨l₂, hp₂, hne₂, hl₂⟩ := hlast y hy
  refine ⟨l₁, l₂, hp₁, hp₂, ?_⟩
  have h₁ : floorOf (l₁.map g) = ⊥ := by
    rw [floorOf_eq_bot_iff (by simpa using hne₁), hl₁, hgx]
  have h₂ : floorOf (l₂.map g) ≠ ⊥ := by
    rw [Ne, floorOf_eq_bot_iff (by simpa using hne₂), hl₂, Option.some_inj]
    exact hgy
  rw [h₁]
  exact h₂.symm

/-- The fold of `lowerSet` from an unset floor stays unset just when every value is. -/
lemma foldl_lowerSet_eq_bot_iff {vs : List α} :
    vs.foldl lowerSet ⊥ = ⊥ ↔ ∀ v ∈ vs, v = ⊥ := by
  induction vs using List.reverseRecOn with
  | nil => simp
  | append_singleton vs w ih =>
    rw [List.foldl_append, List.foldl_cons, List.foldl_nil]
    simp only [List.mem_append, List.mem_singleton, or_imp, forall_and, forall_eq, ← ih]
    by_cases hf : vs.foldl lowerSet ⊥ = ⊥
    · rw [hf, lowerSet_bot_left]
      simp
    by_cases hw : w = ⊥
    · rw [hw, lowerSet_bot_right]
      simp
    · rw [lowerSet_of_ne_bot hf hw, min_eq_bot]
      simp [hf, hw]

/-- The fold of `lowerSet` is at most every value that is not `⊥`. -/
lemma foldl_lowerSet_le {vs : List α} {v : α} (hv : v ∈ vs) (hne : v ≠ ⊥) :
    vs.foldl lowerSet ⊥ ≤ v := by
  induction vs using List.reverseRecOn with
  | nil => simp at hv
  | append_singleton vs w ih =>
    rw [List.foldl_append, List.foldl_cons, List.foldl_nil]
    simp only [List.mem_append, List.mem_singleton] at hv
    by_cases hw : w = ⊥
    · rw [hw, lowerSet_bot_right]
      exact ih (hv.resolve_right fun h => hne (h.trans hw))
    by_cases hf : vs.foldl lowerSet ⊥ = ⊥
    · rcases hv with hv | rfl
      · exact absurd (foldl_lowerSet_eq_bot_iff.mp hf v hv) hne
      · rw [hf, lowerSet_bot_left]
    · rw [lowerSet_of_ne_bot hf hw]
      rcases hv with hv | rfl
      · exact (min_le_left _ _).trans (ih hv)
      · exact min_le_right _ _

/-- The fold of `lowerTo` is unset just when it started so. -/
lemma foldl_lowerTo_eq_bot_iff {vs : List α} {floor : α} :
    vs.foldl lowerTo floor = ⊥ ↔ floor = ⊥ := by
  induction vs generalizing floor with
  | nil => rfl
  | cons w vs ih =>
    rw [List.foldl_cons, ih]
    by_cases hw : w = ⊥
    · rw [hw, lowerTo_bot_right]
    · simp [lowerTo_of_ne_bot hw, min_eq_bot, hw]

/-- The fold of `lowerTo` is at most every value that is not `⊥`. -/
lemma foldl_lowerTo_le {vs : List α} {floor v : α} (hv : v ∈ vs) (hne : v ≠ ⊥) :
    vs.foldl lowerTo floor ≤ v := by
  induction vs using List.reverseRecOn with
  | nil => simp at hv
  | append_singleton vs w ih =>
    rw [List.foldl_append, List.foldl_cons, List.foldl_nil]
    simp only [List.mem_append, List.mem_singleton] at hv
    by_cases hw : w = ⊥
    · rw [hw, lowerTo_bot_right]
      exact ih (hv.resolve_right fun h => hne (h.trans hw))
    · rw [lowerTo_of_ne_bot hw]
      rcases hv with hv | rfl
      · exact (min_le_left _ _).trans (ih hv)
      · exact min_le_right _ _

/-! ## Lower bounds for the values of some of the entries -/

variable {β : Type*} {l : List β} {v : β → α} {p : β → Prop}

lemma floorOf_le {vs : List α} {a : α} (h : ⊥ ∉ vs) (ha : a ∈ vs) : floorOf vs ≤ a :=
  ((isFloor_iff (List.ne_nil_of_mem ha)).mp (isFloor_floorOf h)).2 ha

/-- The fold of `lowerTo` bounds the values of the chosen entries just when none of these is `⊥`, or
the fold started from `⊥`. -/
lemma foldl_lowerTo_bound_iff {floor : α} :
    (∀ b ∈ l, p b → (l.map v).foldl lowerTo floor ≤ v b) ↔
      floor = ⊥ ∨ ∀ b ∈ l, p b → v b ≠ ⊥ := by
  constructor
  · intro h
    by_contra hcon
    push Not at hcon
    obtain ⟨hfloor, b, hb, hp, hbot⟩ := hcon
    exact hfloor (foldl_lowerTo_eq_bot_iff.mp (le_bot_iff.mp (hbot ▸ h b hb hp)))
  · rintro (h | h) b hb hp
    · rw [foldl_lowerTo_eq_bot_iff.mpr h]
      exact bot_le
    · exact foldl_lowerTo_le (List.mem_map_of_mem hb) (h b hb hp)

/-- The fold of `lowerSet` bounds the values of the chosen entries just when none of these is `⊥`, or
every value is. -/
lemma foldl_lowerSet_bound_iff :
    (∀ b ∈ l, p b → (l.map v).foldl lowerSet ⊥ ≤ v b) ↔
      (∀ b ∈ l, v b = ⊥) ∨ ∀ b ∈ l, p b → v b ≠ ⊥ := by
  have hall : (l.map v).foldl lowerSet ⊥ = ⊥ ↔ ∀ b ∈ l, v b = ⊥ := by
    rw [foldl_lowerSet_eq_bot_iff]
    simp
  constructor
  · intro h
    by_contra hcon
    rw [not_or, ← hall] at hcon
    push Not at hcon
    obtain ⟨hne, b, hb, hp, hbot⟩ := hcon
    exact hne (le_bot_iff.mp (hbot ▸ h b hb hp))
  · rintro (h | h) b hb hp
    · rw [hall.mpr h]
      exact bot_le
    · exact foldl_lowerSet_le (List.mem_map_of_mem hb) (h b hb hp)

end RunningFloor
