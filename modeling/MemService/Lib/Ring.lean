import Mathlib.Data.List.Infix
import Mathlib.Logic.Function.Basic
import Mathlib.Data.Nat.ModEq
import Mathlib.Tactic.Lemma

/-!
# Rings

A ring of `size` slots keeps the end of a sequence: item number `i` lies in slot `i % size` until item
number `i + size` takes its place.  `Keeps` says that the items from number `k` on are there.

Whoever writes the next item changes no slot that is still needed as long as fewer than `size` items are
(`Keeps.of_eq_off`), and the item is kept once its slot holds it (`Keeps.append`).  An item of several words
is copied into its slot, and out of it, a word at a time (`Copied`).  The counters of a ring are machine
integers that run over; with a power of two as size they address the same slots (`slot_wrap`).
-/

namespace Ring

variable {α : Type*} {slots slots' : ℕ → α} {size k : ℕ} {l : List α}

/-- The slots keep the items of `l` from number `k` on. -/
def Keeps (slots : ℕ → α) (size : ℕ) (l : List α) (k : ℕ) : Prop :=
  ∀ (i : ℕ) (hi : i < l.length), k ≤ i → slots (i % size) = l[i]

lemma keeps_nil (slots : ℕ → α) (size k : ℕ) : Keeps slots size [] k := by
  intro i hi
  cases hi

lemma Keeps.mono (h : Keeps slots size l k) {k' : ℕ} (hk : k ≤ k') : Keeps slots size l k' :=
  fun i hi hle => h i hi (hk.trans hle)

/-- Different numbers less than `size` apart have different slots. -/
lemma mod_ne_mod {i j : ℕ} (hlt : i < j) (hclose : j < i + size) : i % size ≠ j % size := by
  intro heq
  have hdvd : size ∣ j - i := (Nat.modEq_iff_dvd' hlt.le).mp heq
  exact absurd (Nat.le_of_dvd (by omega) hdvd) (by omega)

/-- Only the slot of the next item has changed. -/
lemma Keeps.of_eq_off (h : Keeps slots size l k) (hroom : l.length < k + size)
    (heq : ∀ i, i ≠ l.length % size → slots' i = slots i) : Keeps slots' size l k := by
  intro i hi hle
  rw [heq _ (mod_ne_mod hi (by omega)), h i hi hle]

/-- The next item is in its slot. -/
lemma Keeps.append (h : Keeps slots size l k) {a : α} (ha : slots (l.length % size) = a) :
    Keeps slots size (l ++ [a]) k := by
  intro i hi hle
  by_cases hlt : i < l.length
  · rw [List.getElem_append_left hlt]
    exact h i hlt hle
  · have hend : i = l.length := by
      rw [List.length_append, List.length_singleton] at hi
      omega
    subst hend
    simpa using ha

/-- The first `done` words of `w` have been copied to `f`. -/
def Copied {n : ℕ} (done : ℕ) (f w : Fin n → α) : Prop := ∀ i : Fin n, i.val < done → f i = w i

namespace Copied

variable {n done : ℕ} {f w : Fin n → α}

lemma zero (f w : Fin n → α) : Copied 0 f w := fun _ hi => absurd hi (Nat.not_lt_zero _)

/-- The next word is copied. -/
lemma update (h : Copied done f w) (hlt : done < n) :
    Copied (done + 1) (Function.update f ⟨done, hlt⟩ (w ⟨done, hlt⟩)) w := by
  intro i hi
  by_cases heq : i = ⟨done, hlt⟩
  · rw [heq, Function.update_self]
  · have hne : i.val ≠ done := fun hv => heq (Fin.ext hv)
    rw [Function.update_of_ne heq]
    exact h i (by omega)

lemma eq (h : Copied done f w) (hdone : ¬done < n) : f = w := by
  funext i
  exact h i (by omega)

end Copied

/-- A counter of `2 ^ w` values addresses the slot of the number it counts. -/
lemma slot_wrap {n w b : ℕ} (hb : b ≤ w) : n % 2 ^ w % 2 ^ b = n % 2 ^ b :=
  Nat.mod_mod_of_dvd n (Nat.pow_dvd_pow 2 hb)

/-- The difference of two counters is the difference of the numbers they count, if they are less than
`m` apart. -/
lemma sub_wrap {m a b : ℕ} (hle : a ≤ b) (hlt : b - a < m) : (m - a % m + b % m) % m = b - a := by
  have hm : 0 < m := by omega
  have ha := Nat.mod_lt a hm
  obtain ⟨d, rfl⟩ := Nat.exists_eq_add_of_le hle
  have hd : d < m := by omega
  have hsum : (m - a % m + (a + d) % m) % m = (m - a % m + (a % m + d)) % m := by
    rw [Nat.add_mod a d, Nat.mod_eq_of_lt hd, Nat.add_mod_mod]
  rw [hsum, show m - a % m + (a % m + d) = d + m by omega, Nat.add_mod_right, Nat.mod_eq_of_lt hd]
  omega

/-- Two counters less than `m` apart are equal just when the numbers they count are. -/
lemma eq_wrap_iff {m a b : ℕ} (hle : a ≤ b) (hlt : b - a < m) : a % m = b % m ↔ a = b := by
  constructor
  · intro heq
    by_contra hne
    exact mod_ne_mod (show a < b by omega) (by omega) heq
  · rintro rfl
    rfl

end Ring
